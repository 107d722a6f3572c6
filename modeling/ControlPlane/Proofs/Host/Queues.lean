/-
# The queues of a host

A host is told of things in two queues, and nothing that it does is decided by what is still in
them: it looks at the first entry when it takes that, and at no other.  So the queues may be
exchanged for others before a step of the host or after it.

* `Host.withQueues`, `Host.Unqueued`: other queues, and steps that go together with them;
* `unqueued_openChannel`, `unqueued_receive`, `unqueued_onEvent`, `unqueued_shutdown`: so does
  everything that a host does;
* `Host.swept`: the host without the entries about one peer (`Unqueued.swept`).
-/
import ControlPlane.Proofs.Host.Deeds

namespace ControlPlane

namespace Host

/-! ## 1. Other queues -/

/-- The host with other queues. -/
def withQueues (h : Host) (events : List (PeerId × ChannelEvent)) (reports : List WatchdogEvent) :
    Host := { h with events, reports }

/-- **A step that goes together with any queues**: it neither reads nor changes them. -/
def Unqueued (f : Host → Host) : Prop :=
  ∀ h events reports, f (h.withQueues events reports) = (f h).withQueues events reports

namespace Unqueued

variable {f g : Host → Host}

/-- Such steps one after the other. -/
theorem comp (hg : Unqueued g) (hf : Unqueued f) : Unqueued fun h => g (f h) := by
  intro h events reports
  show g (f (h.withQueues events reports)) = _
  rw [hf, hg]

/-- The queues of the channels after such a step are those before it. -/
theorem events (hf : Unqueued f) (h : Host) : (f h).events = h.events := by
  have hsame : f h = (f h).withQueues h.events h.reports := hf h h.events h.reports
  rw [hsame]
  rfl

/-- So are the reports of the watchdog. -/
theorem reports (hf : Unqueued f) (h : Host) : (f h).reports = h.reports := by
  have hsame : f h = (f h).withQueues h.events h.reports := hf h h.events h.reports
  rw [hsame]
  rfl

end Unqueued

/-! ## 2. What a host does goes together with any queues -/

/-- **So does the name of a worker's channel**, which is only queued for the client. -/
theorem unqueued_nameChannel (id : PeerId) (name : String) :
    Unqueued fun h => (h.nameChannel id name).2 := by
  intro h events reports
  cases hp : h.peers.get? id <;> simp [nameChannel, peer?, withQueues, hp]

/-- **So does the end of a peer.** -/
theorem unqueued_destroyPeer (id : PeerId) : Unqueued fun h => (h.destroyPeer id).2 := by
  intro h events reports
  cases hp : h.peers.get? id <;> simp [destroyPeer, peer?, withQueues, hp]

theorem unqueued_destroyPeers (ids : List PeerId) : Unqueued fun h => h.destroyPeers ids := by
  induction ids with
  | nil => exact fun _ _ _ => rfl
  | cons id rest ih => exact ih.comp (unqueued_destroyPeer id)

theorem unqueued_destroyProfile (id : ProfileId) : Unqueued fun h => h.destroyProfile id := by
  intro h events reports
  cases hd : h.profiles.destroy id <;> simp [destroyProfile, withQueues, hd]

/-- **So does a shutdown.** -/
theorem unqueued_shutdown : Unqueued shutdown := by
  intro h events reports
  have hpeers := unqueued_destroyPeers h.peers.keys
    { h with stopped := true, watchdog := h.watchdog.shutdown.2 } events reports
  cases hstopped : h.stopped with
  | true => simp [shutdown, withQueues, hstopped]
  | false =>
    have hempty := congrArg (fun g : Host => { g with profiles := g.profiles.destroyAll }) hpeers
    simpa [shutdown, withQueues, hstopped] using hempty

/-- **So does the making of a channel**, with the same outcome. -/
theorem openChannel_withQueues (h : Host) (events : List (PeerId × ChannelEvent))
    (reports : List WatchdogEvent) (env : Surroundings) (timeout : Nat) :
    (h.withQueues events reports).openChannel env timeout
      = ((h.openChannel env timeout).1,
          (h.openChannel env timeout).2.withQueues events reports) := by
  cases hstopped : h.stopped with
  | true => simp [openChannel, withQueues, hstopped]
  | false =>
    cases hsocket : env.socketFailure with
    | some why => simp [openChannel, withQueues, hstopped, hsocket]
    | none =>
      rcases hadd : h.watchdog.addWithin ⟨h.nextPeer⟩ env.now timeout with _ | e | watchdog
      · -- the host breaks off, and its shutdown goes together with any queues
        have hbroken := unqueued_shutdown { h with nextPeer := h.nextPeer + 1 } events reports
        simpa [openChannel, withQueues, hstopped, hsocket, hadd] using hbroken
      · simp [openChannel, withQueues, hstopped, hsocket, hadd]
      · simp [openChannel, withQueues, tokenFor, hstopped, hsocket, hadd]

theorem unqueued_openChannel (env : Surroundings) (timeout : Nat) :
    Unqueued fun h => (h.openChannel env timeout).2 :=
  fun h events reports => congrArg Prod.snd (h.openChannel_withQueues events reports env timeout)

/-- What a peer asks for while it handles a message goes together with any queues. -/
theorem carries_withQueues (env : Surroundings) (events : List (PeerId × ChannelEvent))
    (reports : List WatchdogEvent) :
    (services env).Carries fun h => h.withQueues events reports where
  profiles _ := rfl
  setProfiles _ _ := rfl
  openChannel h timeout := by
    simp only [services, openChannel_withQueues]
  clearWebCache _ := rfl

/-- **So does a message that arrives.** -/
theorem unqueued_receive (env : Surroundings) (id : PeerId) (m : Message) :
    Unqueued fun h => h.receive env id m := by
  intro h events reports
  have hpeer : (h.withQueues events reports).peer? id = h.peer? id := rfl
  simp only [receive, hpeer]
  cases h.peer? id with
  | none => rfl
  | some p =>
    have hcarried := HostPeer.receive_carried (carries_withQueues env events reports)
      env.folderFailure p m (h.without id)
    exact congrArg (fun t : HostPeer.Turn Empty Host => t.state.withPeer id t.peer) hcarried

/-- **So does everything that happens on a channel.** -/
theorem unqueued_onEvent (env : Surroundings) (id : PeerId) (e : ChannelEvent) :
    Unqueued fun h => h.onEvent env id e := by
  cases e with
  | connected pid =>
    intro h events reports
    cases hp : h.peers.get? id <;> simp [onEvent, connect, peer?, withQueues, hp]
  | message m => exact unqueued_receive env id m
  | badMessage reason => exact fun _ _ _ => rfl
  | failed ending => exact unqueued_destroyPeer id

/-! ## 3. Without the entries about a peer -/

/-- **The host without the entries about a peer in its queues.** -/
def swept (h : Host) (id : PeerId) : Host :=
  h.withQueues (h.events.filter (·.1 ≠ id)) (h.reports.filter (·.peer ≠ id))

/-- A host without such entries is swept already. -/
theorem swept_eq_self {h : Host} {id : PeerId} (hevents : ∀ x ∈ h.events, x.1 ≠ id)
    (hreports : ∀ r ∈ h.reports, r.peer ≠ id) : h.swept id = h := by
  have he : h.events.filter (·.1 ≠ id) = h.events :=
    List.filter_eq_self.2 fun x hx => decide_eq_true (hevents x hx)
  have hr : h.reports.filter (·.peer ≠ id) = h.reports :=
    List.filter_eq_self.2 fun r hr => decide_eq_true (hreports r hr)
  rw [swept, he, hr]
  rfl

/-- A step that goes together with any queues goes together with swept ones. -/
theorem Unqueued.swept {f : Host → Host} (hf : Unqueued f) (h : Host) (id : PeerId) :
    (f h).swept id = f (h.swept id) := by
  rw [Host.swept, hf.events, hf.reports]
  exact (hf h _ _).symm

end Host

end ControlPlane
