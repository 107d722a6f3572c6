/-
# Which processes a host watches

A host learns of the process behind a channel from the hello that its end has accepted, and from
nowhere else.  So whatever arrives on its channels, the watchdog is given numbers of single processes
only, and never asks the system about a group of processes or any child.

* `ChannelEnd.connected_undergo`: what an end of a channel says of a process, in any state;
* `Deed.Genuine`: deeds whose channel events are those that the ends of channels make;
* `Host.Singles`, `Singles.perform`: only single processes are on their way to the watchdog, or there;
* `gated_run`: the gate of every channel, and what it keeps away from the watchdog.
-/
import ControlPlane.Proofs.Channel.Gate
import ControlPlane.Proofs.Host.Queues

namespace ControlPlane

/-! ## 1. What the end of a channel says of a process -/

/-- **An end that says that it is connected has accepted the hello of a single process.** -/
theorem ChannelEnd.connected_undergo {τ : Type} {e : ChannelEnd τ} {t : EndTurn τ} {pid : UInt32}
    (hpid : .connected pid ∈ (e.undergo t).1.events) : ProcessHandle.isValidPid pid = true := by
  have houtcome := e.outcome_undergo t
  generalize e.undergo t = x at houtcome hpid
  cases houtcome with
  | greeted other hello rest _ _ hcheck =>
    rw [List.mem_singleton, ChannelEvent.connected.injEq] at hpid
    obtain ⟨_, _, _, _, _, _, hvalid⟩ := Handshake.of_check hcheck
    exact hpid ▸ hvalid
  | taken payload rest =>
    -- behind the hello the peer hears of frames only
    cases (e.effect_takeFrame payload rest).news _ hpid
  | failed | dropped => simp [fail, finish] at hpid
  | idle | accepted | arrived | inputOver | queued | late | wrote | asked => simp at hpid

/-! ## 2. What the watchdog is given -/

/-- **Every process that is checked is a single one.** -/
def Watchdog.Singles (w : Watchdog ProcessHandle) : Prop :=
  ∀ id p, w.connected.get? id = some p → ProcessHandle.isValidPid p.pid = true

namespace Watchdog

variable {w : Watchdog ProcessHandle}

/-- A process that is added is checked with the others. -/
theorem Singles.markConnected (hw : w.Singles) (id : PeerId) {pid : UInt32}
    (hpid : ProcessHandle.isValidPid pid = true) :
    (w.markConnected id (ProcessHandle.watch pid)).2.Singles := by
  unfold Watchdog.markConnected
  split
  · exact hw
  · intro j p hp
    simp only [Table.get?_insert] at hp
    split at hp
    · rw [← Option.some.inj hp]
      exact hpid
    · exact hw j p hp

/-- So are those that are left when a peer is forgotten. -/
theorem Singles.forget (hw : w.Singles) (id : PeerId) : (w.forget id).Singles := by
  intro j p hp
  simp only [Watchdog.forget, Table.get?_erase] at hp
  split at hp
  · cases hp
  · exact hw j p hp

/-- A watchdog that stops checks nobody. -/
theorem Singles.shutdown (hw : w.Singles) : w.shutdown.2.Singles := by
  unfold Watchdog.shutdown
  split
  · exact hw
  · intro j p hp
    cases hp

/-- A look keeps the numbers of the processes. -/
theorem Singles.pass (hw : w.Singles) (now : Nat) (answers : PeerId → ProcessHandle.Answers) :
    (w.pass now fun id p => p.glance (answers id)).2.Singles := by
  unfold Watchdog.pass
  split
  · exact hw
  · intro j p hp
    simp only [Table.get?_map, Table.get?_filter, Option.map_eq_some_iff] at hp
    obtain ⟨g, hg, rfl⟩ := hp
    obtain ⟨hseen, -⟩ := Option.filter_eq_some_iff.1 hg
    obtain ⟨q, hq, rfl⟩ := Option.map_eq_some_iff.1 hseen
    simp only [ProcessHandle.glance, ProcessHandle.pid_process_poll]
    exact hw j q hq

end Watchdog

namespace Host

/-- **A deed without events that no channel made**: the ends of channels take turns, and no event is
made up that names a process. -/
def Deed.Genuine : Deed → Prop
  | .move (.channel _ step) => ∃ t : EndTurn Empty, step = fun e => e.undergo t
  | .move (.event _ _ e) => ∀ pid, e ≠ .connected pid
  | _ => True

/-- **Only single processes are watched**, or on their way to the watchdog. -/
structure Singles (h : Host) : Prop where
  queued : ∀ id pid, (id, .connected pid) ∈ h.events → ProcessHandle.isValidPid pid = true
  watched : h.watchdog.Singles

variable {h : Host}

/-- The end of a peer takes its process from the watchdog. -/
theorem singles_destroyPeer (hw : h.watchdog.Singles) (id : PeerId) :
    (h.destroyPeer id).2.watchdog.Singles := by
  unfold destroyPeer
  split
  · exact hw.forget id
  · exact hw

theorem singles_destroyPeers (hw : h.watchdog.Singles) (ids : List PeerId) :
    (h.destroyPeers ids).watchdog.Singles := by
  induction ids generalizing h with
  | nil => exact hw
  | cons id rest ih => exact ih (singles_destroyPeer hw id)

/-- A shutdown leaves no process to the watchdog. -/
theorem singles_shutdown (hw : h.watchdog.Singles) : h.shutdown.watchdog.Singles := by
  unfold shutdown
  split
  · exact hw
  · exact singles_destroyPeers (h := { h with stopped := true, watchdog := h.watchdog.shutdown.2 })
      hw.shutdown h.peers.keys

/-- A channel that is made has no process yet. -/
theorem singles_openChannel (hw : h.watchdog.Singles) (env : Surroundings) (timeout : Nat) :
    (h.openChannel env timeout).2.watchdog.Singles := by
  rcases openChannel_cases h env timeout with ⟨e, ho⟩ | ⟨_, e, ho⟩ | ⟨_, _, ho⟩ | ⟨_, _, ho⟩
  all_goals rw [ho]
  · exact hw
  · exact hw
  · exact singles_shutdown (h := { h with nextPeer := h.nextPeer + 1 }) hw
  · exact hw

/-- **No message names a process**, whatever its peer asks of the host. -/
theorem singles_receive (hw : h.watchdog.Singles) (env : Surroundings) (id : PeerId)
    (m : Message) : (h.receive env id m).watchdog.Singles := by
  cases hp : h.peer? id with
  | none =>
    simp only [receive, hp]
    exact hw
  | some p =>
    rw [receive_eq hp]
    have hway := HostPeer.handles (services env) env.folderFailure p m (h.without id)
    show (HostPeer.handle (services env) env.folderFailure p m
      (h.without id)).state.watchdog.Singles
    generalize HostPeer.handle (services env) env.folderFailure p m (h.without id) = t at hway
    cases hway with
    | refused | synced | cleared | failed | created | destroyed | routed => exact hw
    | opened timeout _ s' _ _ hopen | notOpened timeout _ s' _ _ hopen =>
      rw [show s' = ((h.without id).openChannel env timeout.toNat).2 from
        congrArg Prod.snd hopen.symm]
      exact singles_openChannel (h := h.without id) hw env timeout.toNat

/-- **An event of a channel brings its process to the watchdog, and no other.** -/
theorem singles_onEvent (hw : h.watchdog.Singles) (env : Surroundings) (id : PeerId)
    {e : ChannelEvent} (he : ∀ pid, e = .connected pid → ProcessHandle.isValidPid pid = true) :
    (h.onEvent env id e).watchdog.Singles := by
  cases e with
  | connected pid =>
    simp only [onEvent, connect]
    split
    · exact hw.markConnected id (he pid rfl)
    · exact hw
  | message m => exact singles_receive hw env id m
  | badMessage => exact hw
  | failed => exact singles_destroyPeer hw id

/-- What goes together with any queues keeps what is queued. -/
theorem Singles.unqueued (hs : h.Singles) {f : Host → Host} (hf : Unqueued f)
    (hw : (f h).watchdog.Singles) : (f h).Singles where
  queued id pid hpid := hs.queued id pid (hf.events h ▸ hpid)
  watched := hw

/-- **Every genuine deed keeps it so.** -/
theorem Singles.perform (hs : h.Singles) {d : Deed} (hd : d.Genuine) : (h.perform d).Singles := by
  cases d with
  | store a => exact ⟨hs.queued, hs.watched⟩
  | move m =>
    cases m with
    | openChannel env timeout =>
      exact hs.unqueued (unqueued_openChannel env timeout)
        (singles_openChannel hs.watched env timeout)
    | nameChannel id name =>
      refine hs.unqueued (unqueued_nameChannel id name) ?_
      unfold nameChannel
      split <;> exact hs.watched
    | event env id e =>
      exact hs.unqueued (unqueued_onEvent env id e)
        (singles_onEvent hs.watched env id fun pid heq => absurd heq (hd pid))
    | takeEvent env =>
      cases hq : h.events with
      | nil =>
        simp only [Host.perform, move, stepChannels?, hq, Option.getD_none]
        exact hs
      | cons x rest =>
        obtain ⟨id, e⟩ := x
        have hrest : Singles { h with events := rest } :=
          ⟨fun j pid hpid => hs.queued j pid (hq ▸ List.mem_cons_of_mem _ hpid), hs.watched⟩
        simp only [Host.perform, move, stepChannels?, hq, Option.getD_some]
        refine hrest.unqueued (unqueued_onEvent env id e)
          (singles_onEvent hrest.watched env id ?_)
        rintro pid rfl
        exact hs.queued id pid (hq ▸ List.mem_cons_self)
    | report r =>
      exact hs.unqueued (unqueued_destroyPeer r.peer) (singles_destroyPeer hs.watched r.peer)
    | takeReport =>
      simp only [Host.perform, move, stepWatchdog?]
      split
      · next r rest _ =>
        have hrest : Singles { h with reports := rest } := ⟨hs.queued, hs.watched⟩
        exact hrest.unqueued (unqueued_destroyPeer r.peer)
          (singles_destroyPeer hrest.watched r.peer)
      · exact hs
    | channel id step =>
      obtain ⟨t, rfl⟩ := hd
      simp only [Host.perform, move, onChannel]
      split
      · next p hp =>
        refine ⟨fun j pid hpid => ?_, hs.watched⟩
        rcases List.mem_append.1 hpid with hold | hnew
        · exact hs.queued j pid hold
        · obtain ⟨e, he, heq⟩ := List.mem_map.1 hnew
          obtain ⟨-, rfl⟩ := Prod.mk.inj heq
          exact ChannelEnd.connected_undergo he
      · exact hs
    | look now answers => exact ⟨hs.queued, hs.watched.pass now answers⟩
    | destroyPeer id =>
      exact hs.unqueued (unqueued_destroyPeer id) (singles_destroyPeer hs.watched id)
    | destroyProfile id =>
      refine hs.unqueued (unqueued_destroyProfile id) ?_
      unfold destroyProfile
      split <;> exact hs.watched
    | shutdown => exact hs.unqueued unqueued_shutdown (singles_shutdown hs.watched)

/-- **Only single processes are watched after every run of genuine deeds.** -/
theorem singles_after {config : HostConfig} {deeds : List Deed}
    (hgenuine : ∀ d ∈ deeds, d.Genuine) : (after config deeds).Singles := by
  induction deeds using List.reverseRecOn with
  | nil => exact ⟨nofun, nofun⟩
  | append_singleton deeds d ih =>
    rw [after_snoc]
    exact (ih fun d' hd' => hgenuine d' (List.mem_append_left _ hd')).perform
      (hgenuine d (by simp))

/-! ## 3. Every run -/

/-- **The gate of a channel is exact, and it is the only way to the watchdog.**  Whatever stream comes
to a new end of a channel, in whatever pieces, and whatever its peer does meanwhile; and whatever is
done with a host whose channels are such ends. -/
theorem gated_run {τ : Type} (name : String) (stream : Bytes) (turns : List (EndTurn τ))
    (config : HostConfig) (deeds : List Deed) (hgenuine : ∀ d ∈ deeds, d.Genuine) :
    ((Intake.start name stream).run turns).Gated name stream ∧
      ∀ id p, (after config deeds).watchdog.connected.get? id = some p →
        1 ≤ p.pid.toNat ∧ p.pid.toNat ≤ 2 ^ 31 - 1 :=
  ⟨Intake.gated_of_stage (Intake.stage_run (Intake.stage_start name stream) turns),
    fun id p hp => Handshake.isValidPid_iff.1 ((singles_after hgenuine).watched id p hp)⟩

/-- Surroundings in which a channel is made. -/
def quiet : Surroundings := .atStart "n" 9

/-- The hello of process 7 on the channel that is made there. -/
def hello : Bytes := (Handshake.greeting 7 (ChannelName.make "n" 9)).frame

/-- A request is handed over before anybody is there; then the hello arrives. -/
def earlyRequest : List (EndTurn Nat) :=
  [.request (HostCommand.sync false).toMessage 0, .accept 1, .arrive hello]

/-- A host with a channel on which the hello has arrived. -/
def greeted : List Deed :=
  [.move (.openChannel quiet 5), .move (.channel ⟨1⟩ fun e => e.undergo (.accept 1)),
    .move (.channel ⟨1⟩ fun e => e.undergo (.arrive hello))]

/-- The hello is read, and the host hears of it. -/
def welcomed : List Deed :=
  greeted ++ [.move (.channel ⟨1⟩ fun e => e.undergo .read), .move (.takeEvent quiet)]

/-- The hello is the first frame of what begins with it. -/
theorem next_hello (rest : Bytes) :
    Frame.next (hello ++ rest)
      = .frame (Handshake.greeting 7 (ChannelName.make "n" 9)).bytes rest :=
  Frame.next_encode (by decide +kernel) rest

/-- The host watches process 7 when it has heard of it. -/
theorem watched_welcomed :
    (after {} welcomed).watchdog.connected.get? ⟨1⟩ = some (ProcessHandle.watch 7) := by
  have hread : ({ name := ChannelName.make "n" 9, phase := .greeting, arrived := hello } :
      ChannelEnd Empty).undergo .read = ({ events := [.connected 7] },
        { name := ChannelName.make "n" 9, phase := .opened, arrived := [] }) :=
    ChannelEnd.undergo_read_hello rfl (by simpa using next_hello [])
      (Handshake.check_greeting (by decide) _)
  have hpeer : (after {} greeted).peer? ⟨1⟩ = some
      { id := ⟨1⟩
        channel := { name := ChannelName.make "n" 9, phase := .greeting, arrived := hello } } :=
    rfl
  rw [welcomed, after_append]
  simp only [performAll, List.foldl_cons, List.foldl_nil, Host.perform, move, onChannel, hpeer, hread]
  rfl

/-- The end opens for process 7 when it reads, with the request still to be written, and the host
watches that process. -/
theorem gated_run_welcomed :
    (∀ d ∈ welcomed, d.Genuine) ∧
      Handshake.Admits (ChannelName.make "n" 9) (hello ++ [0]) 7 ∧
      (((Intake.start (ChannelName.make "n" 9) (hello ++ [0])).run earlyRequest).step .read).events
        = [.connected 7] ∧
      (((Intake.start (ChannelName.make "n" 9) (hello ++ [0])).run earlyRequest).step
        .read).channel.commands = [.request (HostCommand.sync false).toMessage 0] ∧
      ((Intake.start (ChannelName.make "n" 9) (hello ++ [0])).run earlyRequest).Gated
        (ChannelName.make "n" 9) (hello ++ [0]) ∧
      (after {} welcomed).watchdog.connected.get? ⟨1⟩ = some (ProcessHandle.watch 7) ∧
      1 ≤ (7 : UInt32).toNat ∧ (7 : UInt32).toNat ≤ 2 ^ 31 - 1 := by
  have hgenuine : ∀ d ∈ welcomed, d.Genuine := by
    simp only [welcomed, greeted, List.cons_append, List.nil_append, List.forall_mem_cons,
      Deed.Genuine, List.not_mem_nil, false_implies, implies_true, and_true, true_and]
    exact ⟨⟨_, rfl⟩, ⟨_, rfl⟩, ⟨_, rfl⟩⟩
  have hadmits : Handshake.Admits (ChannelName.make "n" 9) (hello ++ [0]) 7 :=
    Handshake.admits_iff.2 ⟨_, _, next_hello [0], Handshake.check_greeting (by decide) _⟩
  have harrives : hello.isPrefixOf (hello ++ [0]) = true :=
    List.isPrefixOf_iff_prefix.2 (List.prefix_append _ _)
  have hchannel : ((Intake.start (ChannelName.make "n" 9) (hello ++ [0])).run earlyRequest).channel
      = { name := ChannelName.make "n" 9, phase := .greeting, arrived := hello,
          commands := [.request (HostCommand.sync false).toMessage 0] } := by
    simp [Intake.run, earlyRequest, Intake.step, Intake.allows, Intake.record, Intake.start,
      ChannelEnd.undergo, ChannelEnd.request, ChannelEnd.accept, ChannelEnd.arrive,
      ChannelEnd.isClosed, ChannelEnd.listening, ChannelTurn.bytes, harrives]
  obtain ⟨hgated, hwatched⟩ := gated_run (ChannelName.make "n" 9) (hello ++ [0]) earlyRequest {}
    welcomed hgenuine
  generalize (Intake.start (ChannelName.make "n" 9) (hello ++ [0])).run earlyRequest = c at *
  have hphase : c.channel.phase = .greeting := by rw [hchannel]
  have harrived : Frame.next c.channel.arrived
      = .frame (Handshake.greeting 7 (ChannelName.make "n" 9)).bytes [] := by
    rw [hchannel]
    simpa using next_hello []
  obtain ⟨e, hverdict, hevents⟩ := hgated.decides hphase (.inl ⟨_, _, harrived⟩)
  refine ⟨hgenuine, hadmits, ?_, ?_, hgated, watched_welcomed, hwatched ⟨1⟩ _ watched_welcomed⟩
  · cases hverdict with
    | admitted pid hpid => rw [hevents, hpid.unique hadmits]
    | refused hnone => exact absurd hadmits (hnone 7)
  · rw [hgated.opens _ _ 7 hphase harrived hadmits, hchannel]

end Host

end ControlPlane
