/-
# The moves of a host

Everything that can happen to a host: its application asks for a channel, ends a peer, a profile
or the whole host; something arrives on a channel; the watchdog looks, or its reports are handled.
A run is any sequence of moves, in any order.

* `Host.Move`, `Host.move`, `Host.run`: the moves, and runs of them;
* `Host.Change`: the few ways in which a host changes, one constructor each;
* `Host.move_changes`: every move is a sequence of changes.

An invariant is proved once for each change (`Host.run_induction`).  The changes know nothing of
messages: the cases of a message are sorted out here, once, by `HostPeer.handles`.

The one thing that sequences of changes need to know of a host is that its peers are stored under
their own ids, all of them below the next one (`Host.Numbered`); else a channel made while a
message is handled could take the place of the peer that handles it.
-/
import Mathlib.Logic.Relation
import ControlPlane.Host.Basic
import ControlPlane.Proofs.Peer.Handling
import ControlPlane.Proofs.Profile.Account

namespace ControlPlane

/-- A moment that the clock can show is the sum. -/
theorem deadline?_eq_some {now timeout deadline : Nat} (h : deadline? now timeout = some deadline) :
    deadline = now + timeout := by
  unfold deadline? at h
  split at h
  · exact (Option.some.inj h).symm
  · cases h

/-- The clock can show every deadline that a request can ask for. -/
theorem Surroundings.deadline?_ne_none (env : Surroundings) (timeout : UInt32) :
    deadline? env.now timeout.toNat ≠ none := by
  have hroom := env.inTime
  have hsmall : timeout.toNat < UInt32.size := timeout.toNat_lt
  have hin : env.now + timeout.toNat < clockEnd := by omega
  simp [deadline?, hin]

/-- **The surroundings of a host whose clock has just begun to run.**  Nothing that it asks for is
denied to it. -/
def Surroundings.atStart (nonce : String) (socket : UInt16) : Surroundings :=
  { now := 0, nonce, socket }

namespace Host

/-! ## 1. Moves and runs -/

/-- **What can happen to a host.** -/
inductive Move where
  /-- The application asks for a channel. -/
  | openChannel (env : Surroundings) (timeout : Nat)
  /-- The application tells a client the name of the channel for its worker. -/
  | nameChannel (id : PeerId) (name : String)
  /-- An event of any peer's channel is handled. -/
  | event (env : Surroundings) (id : PeerId) (e : ChannelEvent)
  /-- The next event in the queue is handled. -/
  | takeEvent (env : Surroundings)
  /-- Any report of the watchdog is handled. -/
  | report (r : WatchdogEvent)
  /-- The next report in the queue is handled. -/
  | takeReport
  /-- A peer's end of its channel takes a step. -/
  | channel (id : PeerId) (step : ChannelEnd Empty → ChannelOutput Empty × ChannelEnd Empty)
  /-- The watchdog looks at everything it watches. -/
  | look (now : Nat) (answers : PeerId → ProcessHandle.Answers)
  /-- The application ends a peer. -/
  | destroyPeer (id : PeerId)
  /-- The application ends a profile. -/
  | destroyProfile (id : ProfileId)
  | shutdown

/-- The host without a profile, if it has that profile. -/
def destroyProfile (h : Host) (id : ProfileId) : Host :=
  match h.profiles.destroy id with
  | .ok profiles => { h with profiles }
  | .error _ => h

/-- The host after a move. -/
def move (h : Host) : Move → Host
  | .openChannel env timeout => (h.openChannel env timeout).2
  | .nameChannel id name => (h.nameChannel id name).2
  | .event env id e => h.onEvent env id e
  | .takeEvent env => (h.stepChannels? env).getD h
  | .report r => h.onReport r
  | .takeReport => h.stepWatchdog?.getD h
  | .channel id step => (h.onChannel id step).2
  | .look now answers => h.look now answers
  | .destroyPeer id => (h.destroyPeer id).2
  | .destroyProfile id => h.destroyProfile id
  | .shutdown => h.shutdown

/-- **The host after some moves**, one after the other. -/
def run (h : Host) (moves : List Move) : Host := moves.foldl move h

/-- A step of a host's own loop is one of its moves. -/
theorem step?_eq_move {h h' : Host} {env : Surroundings} {first : Source}
    (hstep : h.step? env first = some h') : ∃ m, h.move m = h' := by
  unfold step? at hstep
  split at hstep
  · cases hstep
  · cases first with
    | channels =>
      cases hc : h.stepChannels? env with
      | some h₁ => exact ⟨.takeEvent env, by simpa [move, hc] using hstep⟩
      | none => exact ⟨.takeReport, by simp_all [move]⟩
    | watchdog =>
      cases hw : h.stepWatchdog? with
      | some h₁ => exact ⟨.takeReport, by simpa [move, hw] using hstep⟩
      | none => exact ⟨.takeEvent env, by simp_all [move]⟩

/-! ## 2. Changes -/

/-- Every peer is stored under its own id, below the next one. -/
def Numbered (h : Host) : Prop :=
  ∀ id p, h.peer? id = some p → p.id = id ∧ id.value < h.nextPeer

/-- The id of the next peer. -/
def nextId (h : Host) : PeerId := ⟨h.nextPeer⟩

/-- The peer of a channel that is made. -/
def freshPeer (h : Host) (env : Surroundings) : HostPeer Empty :=
  { id := h.nextId, channel := ChannelEnd.listening (ChannelName.make env.nonce env.socket) }

/-- What is given for a channel that is made. -/
def nextOpened (h : Host) (env : Surroundings) : OpenedChannel :=
  ⟨h.nextId, (h.tokenFor (ChannelName.make env.nonce env.socket)).encode⟩

/-- The host with one more channel, whose client has `timeout` milliseconds to connect. -/
def withChannel (h : Host) (env : Surroundings) (timeout : Nat) : Host :=
  { h with
    nextPeer := h.nextPeer + 1
    watchdog := { h.watchdog with waiting := h.watchdog.waiting.insert h.nextId (env.now + timeout) }
    peers := h.peers.insert h.nextId (h.freshPeer env) }

/-- **The ways in which a host changes.** -/
inductive Change : Host → Host → Prop
  /-- Events join or leave the queue of the channels. -/
  | queued (h : Host) (events : List (PeerId × ChannelEvent)) : Change h { h with events }
  /-- A client asks to drop what is stored of web pages. -/
  | cleared (h : Host) : Change h { h with cacheClears := h.cacheClears + 1 }
  /-- The id of a peer is used up, and no channel is made. -/
  | usedUp (h : Host) : Change h { h with nextPeer := h.nextPeer + 1 }
  /-- A channel is made. -/
  | opened (h : Host) (env : Surroundings) (timeout : Nat) (hrun : h.stopped = false)
      (hdog : h.watchdog.stopped = false) : Change h (h.withChannel env timeout)
  /-- A peer changes, but neither its id nor its routes. -/
  | touched (h : Host) (id : PeerId) (p p' : HostPeer Empty) (hp : h.peer? id = some p)
      (hid : p'.id = p.id) (hroutes : p'.routes = p.routes) :
      Change h { h with peers := h.peers.insert id p' }
  /-- A peer gets a route to a profile it has obtained. -/
  | obtained (h : Host) (id : PeerId) (p : HostPeer Empty) (r : ProfileRequest)
      (failure : Option String) (route : ProfileRoute) (store : ProfileStore)
      (hp : h.peer? id = some p) (hclient : r.route.isClientAllocated = true)
      (hfree : p.routes.get? r.route = none)
      (hob : ProfileRoute.obtain h.profiles r failure = (.ok route, store)) :
      Change h
        { h with
          profiles := store
          peers := h.peers.insert id
            { p with routes := p.routes.insert r.route (.profile route) } }
  /-- A peer loses a route. -/
  | dropped (h : Host) (id : PeerId) (p : HostPeer Empty) (address : RoutingId)
      (hp : h.peer? id = some p) :
      Change h
        { h with
          profiles := (p.removeRoute address h.profiles).profiles
          peers := h.peers.insert id (p.removeRoute address h.profiles).peer }
  /-- The settings of a profile change, through a route of a peer. -/
  | updated (h : Host) (id : PeerId) (p : HostPeer Empty) (address : RoutingId)
      (route : ProfileRoute) (u : ProfileUpdate) (store : ProfileStore)
      (hp : h.peer? id = some p) (hroute : p.routes.get? address = some (.profile route))
      (hu : h.profiles.update route.profile u = some store) :
      Change h { h with profiles := store }
  /-- The client of a peer has connected. -/
  | connected (h : Host) (id : PeerId) (p : HostPeer Empty) (pid : UInt32)
      (hp : h.peer? id = some p) :
      Change h
        { h with
          watchdog := (h.watchdog.markConnected id (ProcessHandle.watch pid)).2
          peers := h.peers.insert id (p.connected pid) }
  /-- A peer is destroyed. -/
  | gone (h : Host) (id : PeerId) (p : HostPeer Empty) (hp : h.peer? id = some p) :
      Change h
        { h with
          profiles := (p.teardown h.profiles).profiles
          watchdog := h.watchdog.forget id
          peers := h.peers.erase id }
  /-- The next report of the watchdog is handled, by the end of its peer. -/
  | reported (h : Host) (r : WatchdogEvent) (rest : List WatchdogEvent)
      (hq : h.reports = r :: rest) :
      Change h ({ h with reports := rest }.destroyPeer r.peer).2
  /-- The watchdog looks. -/
  | looked (h : Host) (now : Nat) (answers : PeerId → ProcessHandle.Answers) :
      Change h (h.look now answers)
  /-- The application ends a profile. -/
  | forgotten (h : Host) (id : ProfileId) (store : ProfileStore)
      (hd : h.profiles.destroy id = .ok store) : Change h { h with profiles := store }
  /-- The host begins to shut down. -/
  | stopping (h : Host) :
      Change h { h with stopped := true, watchdog := h.watchdog.shutdown.2 }
  /-- The host ends every profile. -/
  | emptied (h : Host) (hstop : h.stopped = true) :
      Change h { h with profiles := h.profiles.destroyAll }

/-- **A host goes through some changes.** -/
abbrev Changes : Host → Host → Prop := Relation.ReflTransGen Change

/-- One change. -/
theorem Change.changes {h h' : Host} (hc : Change h h') : Changes h h' :=
  Relation.ReflTransGen.single hc

/-! ## 3. Peers keep their ids -/

/-- What is found after a peer with the same id was put in the place of one. -/
theorem Numbered.insert {h : Host} {id : PeerId} {p p' : HostPeer Empty} (hn : h.Numbered)
    (hp : h.peer? id = some p) (hid : p'.id = p.id) :
    ∀ j q, (h.peers.insert id p').get? j = some q → q.id = j ∧ j.value < h.nextPeer := by
  intro j q hq
  rw [Table.get?_insert] at hq
  by_cases hj : j = id
  · subst hj
    rw [if_pos rfl] at hq
    injection hq with hq
    subst hq
    exact ⟨hid.trans (hn j p hp).1, (hn j p hp).2⟩
  · rw [if_neg hj] at hq
    exact hn j q hq

/-- A peer that is erased leaves the others under their ids. -/
theorem Numbered.erase {h : Host} (hn : h.Numbered) (id : PeerId) :
    ∀ j q, (h.peers.erase id).get? j = some q → q.id = j ∧ j.value < h.nextPeer := by
  intro j q hq
  rw [Table.get?_erase] at hq
  split at hq
  · cases hq
  · exact hn j q hq

/-- The end of a peer leaves the others under their ids. -/
theorem Numbered.destroyPeer {h : Host} (hn : h.Numbered) (id : PeerId) :
    (h.destroyPeer id).2.Numbered := by
  unfold Host.destroyPeer
  split
  · exact hn.erase id
  · exact hn

/-- **Every change keeps the peers under their ids.** -/
theorem Change.numbered {h h' : Host} (hc : Change h h') (hn : h.Numbered) : h'.Numbered := by
  cases hc with
  | queued | cleared | updated | looked | forgotten | stopping | emptied => exact hn
  | usedUp => exact fun id p hp => ⟨(hn id p hp).1, Nat.lt_succ_of_lt (hn id p hp).2⟩
  | opened env timeout =>
    intro id p hp
    simp only [peer?, withChannel, Table.get?_insert] at hp
    by_cases hid : id = h.nextId
    · subst hid
      rw [if_pos rfl] at hp
      injection hp with hp
      subst hp
      exact ⟨rfl, Nat.lt_succ_self _⟩
    · rw [if_neg hid] at hp
      exact ⟨(hn id p hp).1, Nat.lt_succ_of_lt (hn id p hp).2⟩
  | touched id p p' hp hid => exact hn.insert hp hid
  | obtained id p _ _ _ _ hp => exact hn.insert hp rfl
  | dropped id p address hp => exact hn.insert hp (p.id_removeRoute address _)
  | connected id p _ hp => exact hn.insert hp rfl
  | gone id => exact hn.erase id
  | reported r rest => exact Numbered.destroyPeer (h := { h with reports := rest }) hn r.peer

/-- **What every change keeps is kept by changes.** -/
theorem Changes.keep {I : Host → Prop} {h h' : Host} (hc : Changes h h')
    (hchange : ∀ g g', g.Numbered → Change g g' → I g → I g') (hn : h.Numbered) (hi : I h) :
    h'.Numbered ∧ I h' := by
  induction hc with
  | refl => exact ⟨hn, hi⟩
  | tail _ hstep ih => exact ⟨hstep.numbered ih.1, hchange _ _ ih.1 hstep ih.2⟩

/-- The id of the next peer is not the id of one. -/
theorem Numbered.peer?_nextId {h : Host} (hn : h.Numbered) : h.peer? h.nextId = none := by
  cases hp : h.peer? h.nextId with
  | none => rfl
  | some p => exact absurd (hn _ p hp).2 (Nat.lt_irrefl _)

/-! ## 4. The moves as changes -/

/-- **What comes of asking for a channel**: nothing when the host has shut down; no more than that
the id of a peer is used up; that the host breaks off then, since the deadline is beyond the clock;
or a channel. -/
theorem openChannel_cases (h : Host) (env : Surroundings) (timeout : Nat) :
    (∃ e, h.openChannel env timeout = (some (.error e), h)) ∨
    (h.stopped = false ∧
      ∃ e, h.openChannel env timeout = (some (.error e), { h with nextPeer := h.nextPeer + 1 })) ∨
    (h.stopped = false ∧ deadline? env.now timeout = none ∧
      h.openChannel env timeout = (none, { h with nextPeer := h.nextPeer + 1 }.shutdown)) ∨
    (h.stopped = false ∧ h.watchdog.stopped = false ∧
      h.openChannel env timeout = (some (.ok (h.nextOpened env)), h.withChannel env timeout)) := by
  unfold openChannel
  split
  · exact .inl ⟨_, rfl⟩
  · next hrun =>
    have hrun : h.stopped = false := by simpa using hrun
    cases hsocket : env.socketFailure with
    | some why => exact .inr (.inl ⟨hrun, why.fault, rfl⟩)
    | none =>
      cases hdog : h.watchdog.stopped with
      | true =>
        refine .inr (.inl ⟨hrun, Fault.watchdogStopped, ?_⟩)
        simp [Watchdog.addWithin, hdog]
      | false =>
        cases htime : deadline? env.now timeout with
        | none =>
          refine .inr (.inr (.inl ⟨hrun, rfl, ?_⟩))
          simp [Watchdog.addWithin, hdog, htime]
        | some deadline =>
          refine .inr (.inr (.inr ⟨hrun, rfl, ?_⟩))
          have hsum : deadline = env.now + timeout := deadline?_eq_some htime
          simp [Watchdog.addWithin, Watchdog.add, hdog, htime, hsum, nextOpened, withChannel,
            freshPeer, nextId, tokenFor]

/-- **What comes of a client's request for a channel**: the same, but the host does not break
off. -/
theorem openChannel_request (h : Host) (env : Surroundings) (timeout : UInt32) :
    (∃ e, h.openChannel env timeout.toNat = (some (.error e), h)) ∨
    (h.stopped = false ∧ ∃ e, h.openChannel env timeout.toNat
      = (some (.error e), { h with nextPeer := h.nextPeer + 1 })) ∨
    (h.stopped = false ∧ h.watchdog.stopped = false ∧ h.openChannel env timeout.toNat
      = (some (.ok (h.nextOpened env)), h.withChannel env timeout.toNat)) := by
  rcases openChannel_cases h env timeout.toNat with hsame | hused | ⟨_, htime, _⟩ | hmade
  · exact .inl hsame
  · exact .inr (.inl hused)
  · exact absurd htime (env.deadline?_ne_none timeout)
  · exact .inr (.inr hmade)

/-- **A channel that was made** is the next one of a host that runs. -/
theorem openChannel_made {h h' : Host} {env : Surroundings} {timeout : Nat} {o : OpenedChannel}
    (ho : h.openChannel env timeout = (some (.ok o), h')) :
    h.stopped = false ∧ h.watchdog.stopped = false ∧ o = h.nextOpened env ∧
      h' = h.withChannel env timeout := by
  rcases openChannel_cases h env timeout with
    ⟨e, hc⟩ | ⟨_, e, hc⟩ | ⟨_, _, hc⟩ | ⟨hrun, hdog, hc⟩ <;>
    rw [hc] at ho <;> cases ho
  exact ⟨hrun, hdog, rfl, rfl⟩

/-- The end of a peer is a change, if there is such a peer. -/
theorem destroyPeer_changes (h : Host) (id : PeerId) : Changes h (h.destroyPeer id).2 := by
  unfold destroyPeer
  split
  · next p hp => exact (Change.gone h id p hp).changes
  · exact .refl

/-- A peer that was just put in its place may still change there. -/
theorem settled_changes (h : Host) (id : PeerId) {p p' : HostPeer Empty} (hid : p'.id = p.id)
    (hroutes : p'.routes = p.routes) :
    Changes { h with peers := h.peers.insert id p } { h with peers := h.peers.insert id p' } := by
  have hput : ({ h with peers := h.peers.insert id p } : Host).peer? id = some p := by
    simp [peer?]
  have hlast := (Change.touched _ id p p' hput hid hroutes).changes
  simpa only [Table.insert_insert] using hlast

/-- The host while one of its peers handles a message. -/
def without (h : Host) (id : PeerId) : Host := { h with peers := h.peers.erase id }

/-- The host with a peer that has handled a message. -/
def withPeer (h : Host) (id : PeerId) (p : HostPeer Empty) : Host :=
  { h with peers := h.peers.insert id p }

/-- A message is handled without its peer, which comes back when it has paid the reply. -/
theorem receive_eq {h : Host} {id : PeerId} {p : HostPeer Empty} (hp : h.peer? id = some p)
    (env : Surroundings) (m : Message) :
    h.receive env id m =
      (HostPeer.handle (services env) env.folderFailure p m (h.without id)).state.withPeer id
        (p.receive (services env) env.folderFailure m (h.without id)).peer := by
  simp only [receive, hp]
  rfl

/-- A peer that comes back as it went has changed nothing. -/
theorem withPeer_without {h : Host} {id : PeerId} {p : HostPeer Empty}
    (hp : h.peer? id = some p) : (h.without id).withPeer id p = h := by
  show { h with peers := (h.peers.erase id).insert id p } = h
  rw [Table.insert_erase, Table.insert_self hp]

/-- A channel that is made while a peer is away is made beside that peer. -/
theorem withPeer_withChannel {h : Host} {id : PeerId} {p : HostPeer Empty} (hn : h.Numbered)
    (hp : h.peer? id = some p) (env : Surroundings) (timeout : Nat) :
    ((h.without id).withChannel env timeout).withPeer id p = h.withChannel env timeout := by
  have hne : h.nextId ≠ id := by
    intro heq
    exact absurd (heq ▸ hn.peer?_nextId) (by simp [hp])
  have hpeers : ((h.peers.erase id).insert h.nextId (h.freshPeer env)).insert id p
      = h.peers.insert h.nextId (h.freshPeer env) := by
    have hfound : (h.peers.insert h.nextId (h.freshPeer env)).get? id = some p := by
      rw [Table.get?_insert, if_neg hne.symm]
      exact hp
    rw [Table.insert_erase_comm hne, Table.insert_erase, Table.insert_self hfound]
  show { h.withChannel env timeout with
    peers := ((h.peers.erase id).insert h.nextId (h.freshPeer env)).insert id p } = _
  rw [hpeers]
  rfl

/-- A message that reaches the route of a profile changes the settings of that profile, or
nothing. -/
theorem routed_changes {h : Host} {id : PeerId} {p : HostPeer Empty} {m : Message}
    {route : ProfileRoute} (hp : h.peer? id = some p)
    (hroute : p.routes.get? m.address = some (.profile route)) :
    Changes h { h with profiles := (route.receive m h.profiles).2 } := by
  unfold ProfileRoute.receive
  split
  · exact .refl
  · exact .refl
  · next u _ =>
    split
    · next store hu => exact (Change.updated h id p m.address route u store hp hroute hu).changes
    · exact .refl

/-- **What a peer does with a message is one change of the host**, or none.  The peer comes back
to the others before it counts the message and pays the reply. -/
theorem handle_changes {h : Host} {id : PeerId} {p : HostPeer Empty} (hn : h.Numbered)
    (hp : h.peer? id = some p) (env : Surroundings) (m : Message) :
    let t := HostPeer.handle (services env) env.folderFailure p m (h.without id)
    Changes h (t.state.withPeer id t.peer) := by
  have hway := HostPeer.handles (services env) env.folderFailure p m (h.without id)
  intro t
  change HostPeer.Handles _ _ _ _ _ t at hway
  generalize t = t at hway ⊢
  have hback : Changes h ((h.without id).withPeer id p) := by
    rw [withPeer_without hp]
  have hopened : ∀ timeout : UInt32,
      Changes h (((h.without id).openChannel env timeout.toNat).2.withPeer id p) := by
    intro timeout
    rcases openChannel_request (h.without id) env timeout with
      ⟨e, ho⟩ | ⟨_, e, ho⟩ | ⟨hrun, hdog, ho⟩
    · rw [ho]
      exact hback
    · rw [ho]
      show Changes h { (h.without id).withPeer id p with nextPeer := h.nextPeer + 1 }
      rw [withPeer_without hp]
      exact (Change.usedUp h).changes
    · rw [ho]
      show Changes h (((h.without id).withChannel env timeout.toNat).withPeer id p)
      rw [withPeer_withChannel hn hp]
      exact (Change.opened h env timeout.toNat hrun hdog).changes
  cases hway with
  | refused | synced => exact hback
  | opened timeout token s' _ _ hopen =>
    have hstate : s' = ((h.without id).openChannel env timeout.toNat).2 :=
      congrArg Prod.snd hopen.symm
    rw [hstate]
    exact hopened timeout
  | notOpened timeout e s' _ _ hopen =>
    have hstate : s' = ((h.without id).openChannel env timeout.toNat).2 :=
      congrArg Prod.snd hopen.symm
    rw [hstate]
    exact hopened timeout
  | cleared =>
    show Changes h { (h.without id).withPeer id p with cacheClears := h.cacheClears + 1 }
    rw [withPeer_without hp]
    exact (Change.cleared h).changes
  | failed r e store _ _ hob =>
    have hsame : store = h.profiles := ProfileStore.obtainRoute_error hob
    subst hsame
    exact hback
  | created r route store _ _ hclient hfree hob =>
    have hc := Change.obtained h id p r env.folderFailure route store hp hclient hfree hob
    show Changes h { h with profiles := store, peers := (h.peers.erase id).insert id _ }
    rw [Table.insert_erase]
    exact hc.changes
  | destroyed address _ _ =>
    have hc := Change.dropped h id p address hp
    show Changes h { h with profiles := _, peers := (h.peers.erase id).insert id _ }
    rw [Table.insert_erase]
    exact hc.changes
  | routed =>
    cases hroute : p.routes.get? m.address with
    | none =>
      rw [deliver_missing hroute]
      exact hback
    | some l =>
      cases l with
      | application a => exact a.elim
      | profile route =>
        rw [deliver_profile hroute]
        show Changes h { (h.without id).withPeer id p with
          profiles := (route.receive m h.profiles).2 }
        rw [withPeer_without hp]
        exact routed_changes hp hroute

/-- **A message that arrives goes through some changes.** -/
theorem receive_changes {h : Host} (hn : h.Numbered) (env : Surroundings) (id : PeerId)
    (m : Message) : Changes h (h.receive env id m) := by
  unfold receive
  split
  · next p hp =>
    refine (handle_changes hn hp env m).trans ?_
    exact settled_changes _ id (HostPeer.id_receive ..) (HostPeer.routes_receive ..)
  · exact .refl

/-- An event of a channel goes through some changes. -/
theorem onEvent_changes {h : Host} (hn : h.Numbered) (env : Surroundings) (id : PeerId)
    (e : ChannelEvent) : Changes h (h.onEvent env id e) := by
  cases e with
  | connected pid =>
    simp only [onEvent, connect]
    split
    · next p hp => exact (Change.connected h id p pid hp).changes
    · exact .refl
  | message m => exact receive_changes hn env id m
  | badMessage reason =>
    simp only [onEvent]
    cases hp : h.peer? id with
    | none =>
      rw [Table.adjust_of_none hp]
    | some p =>
      rw [Table.adjust_eq_insert hp]
      exact (Change.touched h id p p.countBad hp rfl rfl).changes
  | failed ending => exact destroyPeer_changes h id

/-- The end of some peers goes through some changes. -/
theorem destroyPeers_changes (h : Host) (ids : List PeerId) : Changes h (h.destroyPeers ids) := by
  induction ids generalizing h with
  | nil => exact .refl
  | cons id rest ih => exact (destroyPeer_changes h id).trans (ih _)

/-- The end of a peer neither starts nor stops the host. -/
@[simp] theorem stopped_destroyPeer (h : Host) (id : PeerId) :
    (h.destroyPeer id).2.stopped = h.stopped := by
  unfold destroyPeer
  split <;> rfl

/-- The end of some peers neither starts nor stops the host. -/
@[simp] theorem stopped_destroyPeers (h : Host) (ids : List PeerId) :
    (h.destroyPeers ids).stopped = h.stopped := by
  induction ids generalizing h with
  | nil => rfl
  | cons id rest ih => exact (ih _).trans (stopped_destroyPeer h id)

/-- A shutdown goes through some changes. -/
theorem shutdown_changes (h : Host) : Changes h h.shutdown := by
  unfold shutdown
  split
  · exact .refl
  · refine .head (.stopping h) ((destroyPeers_changes _ h.peers.keys).trans ?_)
    refine (Change.emptied _ ?_).changes
    simp

/-- **Every move is a sequence of changes.** -/
theorem move_changes {h : Host} (hn : h.Numbered) (m : Move) : Changes h (h.move m) := by
  cases m with
  | openChannel env timeout =>
    simp only [move]
    rcases openChannel_cases h env timeout with
      ⟨e, ho⟩ | ⟨_, e, ho⟩ | ⟨_, _, ho⟩ | ⟨hrun, hdog, ho⟩
    · rw [ho]
    · rw [ho]; exact (Change.usedUp h).changes
    · rw [ho]; exact (Change.usedUp h).changes.trans (shutdown_changes _)
    · rw [ho]; exact (Change.opened h env timeout hrun hdog).changes
  | nameChannel id name =>
    simp only [move, nameChannel]
    split
    · next p hp => exact (Change.touched h id p (p.nameChannel name).2 hp rfl rfl).changes
    · exact .refl
  | event env id e => exact onEvent_changes hn env id e
  | takeEvent env =>
    simp only [move, stepChannels?]
    split
    · next id e rest _ =>
      exact .head (.queued h rest) (onEvent_changes (h := { h with events := rest }) hn env id e)
    · exact .refl
  | report r => exact destroyPeer_changes h r.peer
  | takeReport =>
    simp only [move, stepWatchdog?]
    split
    · next r rest hq => exact (Change.reported h r rest hq).changes
    · exact .refl
  | channel id step =>
    simp only [move, onChannel]
    split
    · next p hp =>
      refine .head (.touched h id p { p with channel := (step p.channel).2 } hp rfl rfl) ?_
      exact (Change.queued _ _).changes
    · exact .refl
  | look now answers => exact (Change.looked h now answers).changes
  | destroyPeer id => exact destroyPeer_changes h id
  | destroyProfile id =>
    simp only [move, destroyProfile]
    split
    · next store hd => exact (Change.forgotten h id store hd).changes
    · exact .refl
  | shutdown => exact shutdown_changes h

/-! ## 5. Invariants of runs -/

/-- A new host has no peers. -/
theorem numbered_start (config : HostConfig) : (start config).Numbered := by
  intro id p hp
  simp [peer?, start] at hp

/-- **What holds of a new host and is kept by every change holds after every run.** -/
theorem run_induction {I : Host → Prop} {config : HostConfig} (hstart : I (start config))
    (hchange : ∀ h h', h.Numbered → Change h h' → I h → I h') (moves : List Move) :
    I ((start config).run moves) := by
  have hrun : ∀ (moves : List Move) (h : Host), h.Numbered ∧ I h →
      (h.run moves).Numbered ∧ I (h.run moves) := by
    intro moves
    induction moves with
    | nil => exact fun h hi => hi
    | cons m rest ih =>
      exact fun h hi => ih _ ((move_changes hi.1 m).keep hchange hi.1 hi.2)
  exact (hrun moves _ ⟨numbered_start config, hstart⟩).2

/-- The peers of every host that runs are stored under their own ids. -/
theorem numbered_run (config : HostConfig) (moves : List Move) :
    ((start config).run moves).Numbered :=
  run_induction (numbered_start config) (fun _ _ hn hc _ => hc.numbered hn) moves

end Host

end ControlPlane
