/-
# Peers that are gone

A peer may go while things about it are still on their way: its channel has said something that is
not handled yet, or the watchdog has.  There are two queues, and every entry in them outlives its
peer.  None of them brings the peer back or does anything else.

* `Host.OnlyLive`: the watchdog keeps live peers only, also after a shutdown;
* `Host.Gone`, `Gone.change`: a peer that is gone stays gone, and its id is used up;
* `Deed.isStale`, `perform_stale`: to handle something about such a peer does nothing;
* `perform_live`, `performAll_swept`: everything else goes on as if that had never been queued;
* `Host.Departed`, `Host.departed_run`: all this of every run.

Stale entries are in nobody's way, and so it does not matter where they stand: two runs that do the
same besides come to the same host.
-/
import ControlPlane.Proofs.Host.Attention
import ControlPlane.Proofs.Host.Queues
import ControlPlane.Proofs.Host.Supervision

namespace ControlPlane

namespace Host

/-! ## 1. What every deed keeps -/

/-- **What every change keeps is kept by deeds**, if the application can keep it as well. -/
theorem perform_keep {I : Host → Prop} {h : Host}
    (hchange : ∀ g g', g.Numbered → Change g g' → I g → I g')
    (hstore : ∀ g profiles, I g → I { g with profiles }) (hn : h.Numbered) (hi : I h) (d : Deed) :
    I (h.perform d) := by
  cases d with
  | move m => exact ((move_changes hn m).keep hchange hn hi).2
  | store a => exact hstore h _ hi

/-- It is kept by deeds one after the other. -/
theorem performAll_keep {I : Host → Prop} {h : Host}
    (hchange : ∀ g g', g.Numbered → Change g g' → I g → I g')
    (hstore : ∀ g profiles, I g → I { g with profiles }) (hn : h.Numbered) (hi : I h)
    (deeds : List Deed) : (h.performAll deeds).Numbered ∧ I (h.performAll deeds) := by
  induction deeds generalizing h with
  | nil => exact ⟨hn, hi⟩
  | cons d rest ih => exact ih (hn.perform d) (perform_keep hchange hstore hn hi d)

/-! ## 2. The watchdog keeps live peers only -/

/-- **Nobody is watched but live peers.** -/
def OnlyLive (h : Host) : Prop := ∀ id, h.peer? id = none → h.watchdog.ways id = 0

/-- Who is not among the peers after one was put in its place was not there before. -/
theorem absent_of_insert {h : Host} {id j : PeerId} {p : HostPeer Empty}
    (hj : (h.withPeer id p).peer? j = none) : j ≠ id ∧ h.peer? j = none := by
  simp only [peer?, withPeer, Table.get?_insert] at hj
  split at hj
  · cases hj
  · next hne => exact ⟨hne, hj⟩

/-- A peer that ends is not watched any more, and the others are as before. -/
theorem OnlyLive.erase {h : Host} (hl : h.OnlyLive) (id : PeerId) (profiles : ProfileStore) :
    OnlyLive { h with profiles, watchdog := h.watchdog.forget id, peers := h.peers.erase id } := by
  intro j hj
  rw [Watchdog.ways_forget]
  split
  · rfl
  · next hne =>
    refine hl j ?_
    simpa [peer?, hne] using hj

/-- **Every change leaves only live peers watched.** -/
theorem OnlyLive.change {h h' : Host} (hn : h.Numbered) (hl : h.OnlyLive) (hc : Change h h') :
    h'.OnlyLive := by
  cases hc with
  | queued | cleared | usedUp | updated | forgotten | emptied => exact hl
  | opened env timeout =>
    intro j hj
    obtain ⟨hne, hold⟩ := absent_of_insert (h := { h with nextPeer := h.nextPeer + 1 }) hj
    show Watchdog.ways { h.watchdog with waiting := _ } j = 0
    rw [Watchdog.ways_add (hl _ hn.peer?_nextId), if_neg hne]
    exact hl j hold
  | touched | obtained | dropped => exact fun j hj => hl j (absent_of_insert (h := h) hj).2
  | connected id p pid hp =>
    intro j hj
    obtain ⟨hne, hold⟩ := absent_of_insert (h := h) hj
    rw [Watchdog.ways_markConnected_of_ne hne]
    exact hl j hold
  | gone id => exact hl.erase id _
  | reported r rest =>
    unfold destroyPeer
    split
    · exact OnlyLive.erase (h := { h with reports := rest }) hl r.peer _
    · exact hl
  | looked now answers =>
    intro j hj
    have hle := h.watchdog.ways_pass_le now (fun id (p : ProcessHandle) => p.glance (answers id)) j
    have hzero := hl j hj
    show (h.watchdog.pass now _).2.ways j = 0
    omega
  | stopping =>
    intro j hj
    have hle := h.watchdog.ways_shutdown_le j
    have hzero := hl j hj
    show h.watchdog.shutdown.2.ways j = 0
    omega

/-- **Only live peers are watched**, whatever was done with a host. -/
theorem onlyLive_after (config : HostConfig) (deeds : List Deed) :
    (after config deeds).OnlyLive :=
  (performAll_keep (fun _ _ hn hc hl => hl.change hn hc) (fun _ _ hl => hl) (numbered_start config)
    (fun _ _ => rfl) deeds).2

/-! ## 3. Gone for good -/

/-- **A peer is gone**: its id was given out, and there is no such peer any more. -/
structure Gone (h : Host) (id : PeerId) : Prop where
  absent : h.peer? id = none
  used : id.value < h.nextPeer

/-- A peer that is put in the place of another one is not one that is gone. -/
theorem Gone.insert {h : Host} {id j : PeerId} {p q : HostPeer Empty} (hg : h.Gone id)
    (hp : h.peer? j = some p) : (h.withPeer j q).peer? id = none := by
  have hne : id ≠ j := by
    rintro rfl
    rw [hg.absent] at hp
    cases hp
  simpa [peer?, withPeer, hne] using hg.absent

/-- The end of a peer brings nobody back. -/
theorem absent_destroyPeer {h : Host} {id : PeerId} (j : PeerId) (hp : h.peer? id = none) :
    (h.destroyPeer j).2.peer? id = none := by
  unfold destroyPeer
  split
  · simp only [peer?, Table.get?_erase]
    split
    · rfl
    · exact hp
  · exact hp

/-- **No change brings a peer back.** -/
theorem Gone.change {h h' : Host} {id : PeerId} (hg : h.Gone id) (hc : Change h h') :
    h'.Gone id := by
  refine ⟨?_, Nat.lt_of_lt_of_le hg.used hc.nextPeer_le⟩
  cases hc with
  | queued | cleared | usedUp | updated | looked | forgotten | stopping | emptied =>
    exact hg.absent
  | opened env timeout =>
    have hne : id ≠ h.nextId := by
      rintro rfl
      exact Nat.lt_irrefl _ hg.used
    simpa [peer?, withChannel, hne] using hg.absent
  | touched j p p' hp | obtained j p _ _ _ _ hp | dropped j p _ hp | connected j p _ hp =>
    exact hg.insert hp
  | gone j p =>
    simp only [peer?, Table.get?_erase]
    split
    · rfl
    · exact hg.absent
  | reported r rest => exact absent_destroyPeer (h := { h with reports := rest }) r.peer hg.absent

/-- **What is known of a host without a peer**: the peer is gone, and only live ones are watched. -/
structure Left (h : Host) (id : PeerId) : Prop where
  numbered : h.Numbered
  gone : h.Gone id
  onlyLive : h.OnlyLive

/-- **Deeds keep it so.** -/
theorem Left.performAll {h : Host} {id : PeerId} (hl : h.Left id) (deeds : List Deed) :
    (h.performAll deeds).Left id := by
  obtain ⟨hn, hg, ho⟩ := performAll_keep (I := fun g => g.Gone id ∧ g.OnlyLive)
    (fun _ _ hn hc hi => ⟨hi.1.change hc, hi.2.change hn hc⟩)
    (fun _ _ hi => ⟨⟨hi.1.absent, hi.1.used⟩, hi.2⟩) hl.numbered ⟨hl.gone, hl.onlyLive⟩ deeds
  exact ⟨hn, hg, ho⟩

/-- So does one deed. -/
theorem Left.perform {h : Host} {id : PeerId} (hl : h.Left id) (d : Deed) :
    (h.perform d).Left id := hl.performAll [d]

/-- A host that differs in nothing but what is queued about the peer is no different. -/
theorem Left.of_swept {h g : Host} {id : PeerId} (hl : h.Left id)
    (hsame : g.swept id = h.swept id) : g.Left id := by
  have hpeers : g.peers = h.peers := (by rw [hsame] : (g.swept id).peers = (h.swept id).peers)
  have hnext : g.nextPeer = h.nextPeer :=
    (by rw [hsame] : (g.swept id).nextPeer = (h.swept id).nextPeer)
  have hdog : g.watchdog = h.watchdog :=
    (by rw [hsame] : (g.swept id).watchdog = (h.swept id).watchdog)
  have hpeer : ∀ j, g.peer? j = h.peer? j := fun j => by rw [peer?, hpeers, peer?]
  refine ⟨fun j p hp => ?_, ⟨(hpeer id).trans hl.gone.absent, hnext ▸ hl.gone.used⟩, fun j hj => ?_⟩
  · rw [hnext]
    exact hl.numbered j p (hpeer j ▸ hp)
  · rw [hdog]
    exact hl.onlyLive j (hpeer j ▸ hj)

/-! ## 4. Stale events -/

/-- **A deed that handles something about a peer**: an event of its channel, or a report of the
watchdog. -/
def Deed.isStale (h : Host) (id : PeerId) : Deed → Bool
  | .move (.event _ j _) => j = id
  | .move (.report r) => r.peer = id
  | .move (.takeEvent _) => h.events.head?.any fun x => x.1 = id
  | .move .takeReport => h.reports.head?.any fun r => r.peer = id
  | _ => false

section

variable {h : Host} {id : PeerId}

/-- **An event of a channel without a peer means nothing.** -/
theorem onEvent_of_absent (hp : h.peer? id = none) (env : Surroundings) (e : ChannelEvent) :
    h.onEvent env id e = h := by
  cases e with
  | connected pid => simp only [onEvent, connect, hp]
  | message m => simp only [onEvent, receive, hp]
  | badMessage reason =>
    simp only [onEvent]
    rw [Table.adjust_of_none hp]
  | failed ending => simp only [onEvent, destroyPeer, hp]

/-- **Nor does a report about such a peer.** -/
theorem onReport_of_absent {r : WatchdogEvent} (hp : h.peer? r.peer = none) :
    h.onReport r = h := by
  simp only [onReport, destroyPeer, hp]

/-- The next event leaves the queue and does nothing else. -/
theorem stepChannels?_of_absent (hp : h.peer? id = none) (env : Surroundings) {e : ChannelEvent}
    {rest : List (PeerId × ChannelEvent)} (hq : h.events = (id, e) :: rest) :
    h.stepChannels? env = some { h with events := rest } := by
  simp only [stepChannels?, hq]
  rw [onEvent_of_absent (h := { h with events := rest }) hp]

/-- So does the next report. -/
theorem stepWatchdog?_of_absent {r : WatchdogEvent} (hp : h.peer? r.peer = none)
    {rest : List WatchdogEvent} (hq : h.reports = r :: rest) :
    h.stepWatchdog? = some { h with reports := rest } := by
  simp only [stepWatchdog?, hq]
  rw [onReport_of_absent (h := { h with reports := rest }) hp]

/-- **A stale deed does nothing**, but that what it handles leaves its queue. -/
theorem perform_stale (hp : h.peer? id = none) {d : Deed} (hd : d.isStale h id = true) :
    (h.perform d).swept id = h.swept id := by
  cases d with
  | store a => cases hd
  | move m =>
    cases m with
    | event env j e =>
      obtain rfl : j = id := of_decide_eq_true hd
      simp only [perform, move, onEvent_of_absent hp]
    | report r =>
      obtain rfl : r.peer = id := of_decide_eq_true hd
      simp only [perform, move, onReport_of_absent hp]
    | takeEvent env =>
      cases hq : h.events with
      | nil => simp [Deed.isStale, hq] at hd
      | cons x rest =>
        obtain ⟨j, e⟩ := x
        obtain rfl : j = id := by simpa [Deed.isStale, hq] using hd
        simp only [perform, move, stepChannels?_of_absent hp env hq, Option.getD_some]
        simp [swept, withQueues, hq]
    | takeReport =>
      cases hq : h.reports with
      | nil => simp [Deed.isStale, hq] at hd
      | cons r rest =>
        obtain rfl : r.peer = id := by simpa [Deed.isStale, hq] using hd
        simp only [perform, move, stepWatchdog?_of_absent hp hq, Option.getD_some]
        simp [swept, withQueues, hq]
    | openChannel | nameChannel | channel | look | destroyPeer | destroyProfile | shutdown =>
      cases hd

/-- An end of a channel that takes a step queues nothing about a peer that is gone. -/
theorem onChannel_swept (hp : h.peer? id = none) (j : PeerId)
    (step : ChannelEnd Empty → ChannelOutput Empty × ChannelEnd Empty) :
    (h.onChannel j step).2.swept id = ((h.swept id).onChannel j step).2 := by
  have hpeer : (h.swept id).peer? j = h.peer? j := rfl
  simp only [onChannel, hpeer]
  cases hj : h.peer? j with
  | none => rfl
  | some p =>
    have hne : j ≠ id := by
      rintro rfl
      rw [hp] at hj
      cases hj
    simp [swept, withQueues, List.filter_map, Function.comp_def, hne]

/-- Nor does the watchdog when it looks. -/
theorem look_swept (hways : h.watchdog.ways id = 0) (now : Nat)
    (answers : PeerId → ProcessHandle.Answers) :
    (h.look now answers).swept id = (h.swept id).look now answers := by
  have hquiet : reportsOn id
      (h.watchdog.pass now fun j (p : ProcessHandle) => p.glance (answers j)).1 = 0 := by
    have hle := h.watchdog.ways_pass_le now (fun j (p : ProcessHandle) => p.glance (answers j)) id
    omega
  have hkept : (h.watchdog.pass now fun j (p : ProcessHandle) => p.glance (answers j)).1.filter
      (·.peer ≠ id) = (h.watchdog.pass now fun j (p : ProcessHandle) => p.glance (answers j)).1 :=
    List.filter_eq_self.2 fun r hr => decide_eq_true (reportsOn_eq_zero_iff.1 hquiet r hr)
  simp only [look, swept, withQueues, List.filter_append, hkept]

/-- **Every other deed goes on as if nothing stale were queued.** -/
theorem perform_live (hl : h.Left id) {d : Deed} (hd : d.isStale h id = false) :
    (h.perform d).swept id = (h.swept id).perform d := by
  cases d with
  | store a => rfl
  | move m =>
    cases m with
    | openChannel env timeout => exact (unqueued_openChannel env timeout).swept h id
    | nameChannel j name => exact (unqueued_nameChannel j name).swept h id
    | event env j e => exact (unqueued_onEvent env j e).swept h id
    | takeEvent env =>
      cases hq : h.events with
      | nil =>
        have hq' : (h.swept id).events = [] := by simp [swept, withQueues, hq]
        simp only [perform, move, stepChannels?, hq, hq', Option.getD_none]
      | cons x rest =>
        obtain ⟨j, e⟩ := x
        have hne : j ≠ id := by simpa [Deed.isStale, hq] using hd
        have hq' : (h.swept id).events = (j, e) :: rest.filter (·.1 ≠ id) := by
          simp [swept, withQueues, hq, hne]
        simp only [perform, move, stepChannels?, hq, hq', Option.getD_some]
        exact (unqueued_onEvent env j e).swept { h with events := rest } id
    | report r => exact (unqueued_destroyPeer r.peer).swept h id
    | takeReport =>
      cases hq : h.reports with
      | nil =>
        have hq' : (h.swept id).reports = [] := by simp [swept, withQueues, hq]
        simp only [perform, move, stepWatchdog?, hq, hq', Option.getD_none]
      | cons r rest =>
        have hne : r.peer ≠ id := by simpa [Deed.isStale, hq] using hd
        have hq' : (h.swept id).reports = r :: rest.filter (·.peer ≠ id) := by
          simp [swept, withQueues, hq, hne]
        simp only [perform, move, stepWatchdog?, hq, hq', Option.getD_some]
        exact (unqueued_destroyPeer r.peer).swept { h with reports := rest } id
    | channel j step => exact onChannel_swept hl.gone.absent j step
    | look now answers => exact look_swept (hl.onlyLive id hl.gone.absent) now answers
    | destroyPeer j => exact (unqueued_destroyPeer j).swept h id
    | destroyProfile j => exact (unqueued_destroyProfile j).swept h id
    | shutdown => exact unqueued_shutdown.swept h id

end

/-! ## 5. The order of stale events -/

/-- **The deeds that are not stale**, in their order. -/
def liveDeeds (h : Host) (id : PeerId) : List Deed → List Deed
  | [] => []
  | d :: rest =>
    if d.isStale h id then (h.perform d).liveDeeds id rest
    else d :: (h.perform d).liveDeeds id rest

/-- **A run is its live deeds**, in a host without the stale entries. -/
theorem performAll_swept {h : Host} {id : PeerId} (hl : h.Left id) (deeds : List Deed) :
    (h.performAll deeds).swept id = (h.swept id).performAll (h.liveDeeds id deeds) := by
  induction deeds generalizing h with
  | nil => rfl
  | cons d rest ih =>
    rw [liveDeeds]
    split
    · next hd =>
      rw [← perform_stale hl.gone.absent hd]
      exact ih (hl.perform d)
    · next hd =>
      have hstep := perform_live hl (Bool.eq_false_iff.2 hd)
      calc ((h.perform d).performAll rest).swept id
          = ((h.perform d).swept id).performAll ((h.perform d).liveDeeds id rest) :=
            ih (hl.perform d)
        _ = ((h.swept id).perform d).performAll ((h.perform d).liveDeeds id rest) := by rw [hstep]

/-- **Two runs that differ in nothing but stale entries**: in where these stand in the queues, and in
when they are handled. -/
structure Alike (id : PeerId) (g g' : Host) (deeds deeds' : List Deed) : Prop where
  hosts : g'.swept id = g.swept id
  deeds : g'.liveDeeds id deeds' = g.liveDeeds id deeds

/-- **Such runs end alike.** -/
theorem Alike.swept {g g' : Host} {id : PeerId} {deeds deeds' : List Deed}
    (ha : Alike id g g' deeds deeds') (hl : g.Left id) :
    (g'.performAll deeds').swept id = (g.performAll deeds).swept id := by
  rw [performAll_swept (hl.of_swept ha.hosts), performAll_swept hl, ha.hosts, ha.deeds]

/-- **Nothing about a peer is queued.** -/
def Silent (h : Host) (id : PeerId) : Prop :=
  (∀ x ∈ h.events, x.1 ≠ id) ∧ ∀ r ∈ h.reports, r.peer ≠ id

/-! ## 6. Every run -/

/-- **A peer without a trace**: it is not there, and whatever is handled about it does nothing. -/
structure Traceless (h : Host) (id : PeerId) : Prop where
  absent : h.peer? id = none
  unwatched : h.watchdog.waiting.contains id = false ∧ h.watchdog.connected.contains id = false
  /-- No other peer has its id, and the next one will not get it. -/
  unnamed : ∀ j q, h.peer? j = some q → q.id ≠ id
  fresh : ∀ env timeout o h', h.openChannel env timeout = (some (.ok o), h') → o.peer ≠ id
  /-- An event of its channel or a report about it changes nothing at all. -/
  event : ∀ env e, h.onEvent env id e = h
  report : ∀ r, r.peer = id → h.onReport r = h
  /-- Taken from its queue, it leaves the queue. -/
  nextEvent : ∀ env e rest, h.events = (id, e) :: rest →
    h.stepChannels? env = some { h with events := rest }
  nextReport : ∀ r rest, h.reports = r :: rest → r.peer = id →
    h.stepWatchdog? = some { h with reports := rest }

/-- What is left without a peer has no trace of it. -/
theorem Left.traceless {h : Host} {id : PeerId} (hl : h.Left id) : h.Traceless id where
  absent := hl.gone.absent
  unwatched := by
    have hways : (h.watchdog.waiting.contains id).toNat
        + (h.watchdog.connected.contains id).toNat = 0 := hl.onlyLive id hl.gone.absent
    obtain ⟨hwaiting, hconnected⟩ := Nat.add_eq_zero_iff.1 hways
    exact ⟨Bool.toNat_eq_zero.1 hwaiting, Bool.toNat_eq_zero.1 hconnected⟩
  unnamed j q hq heq := by
    have hj : q.id = j := (hl.numbered j q hq).1
    rw [← hj, heq, hl.gone.absent] at hq
    cases hq
  fresh env timeout o h' ho heq := by
    obtain ⟨-, -, rfl, -⟩ := openChannel_made ho
    have hlt := hl.gone.used
    rw [← heq] at hlt
    exact Nat.lt_irrefl _ hlt
  event := onEvent_of_absent hl.gone.absent
  report r hr := onReport_of_absent (hr ▸ hl.gone.absent)
  nextEvent env _ _ hq := stepChannels?_of_absent hl.gone.absent env hq
  nextReport _ _ hq hr := stepWatchdog?_of_absent (hr ▸ hl.gone.absent) hq

/-- **A peer has departed.** -/
structure Departed (h : Host) (id : PeerId) : Prop where
  /-- It stays away, whatever is done. -/
  traceless : ∀ later, (h.performAll later).Traceless id
  /-- Where stale entries stand in the queues, and when they are handled, is without effect on
  anything else. -/
  order : ∀ later g deeds deeds', Alike id (h.performAll later) g deeds deeds' →
    (g.performAll deeds').swept id = ((h.performAll later).performAll deeds).swept id
  /-- When all of them have been handled, nothing tells the hosts apart. -/
  drained : ∀ later g deeds deeds', Alike id (h.performAll later) g deeds deeds' →
    (g.performAll deeds').Silent id → ((h.performAll later).performAll deeds).Silent id →
    g.performAll deeds' = (h.performAll later).performAll deeds

/-- A peer of which nothing is left has departed. -/
theorem Left.departed {h : Host} {id : PeerId} (hl : h.Left id) : h.Departed id where
  traceless later := (hl.performAll later).traceless
  order later _ _ _ ha := ha.swept (hl.performAll later)
  drained later _ _ _ ha hsilent hsilent' := by
    have hswept := ha.swept (hl.performAll later)
    rwa [swept_eq_self hsilent.1 hsilent.2, swept_eq_self hsilent'.1 hsilent'.2] at hswept

/-- **The deeds that end a peer**: an error of its channel, a report of the watchdog, and the wish of
the application. -/
def Deed.Ends (h : Host) (id : PeerId) : Deed → Prop
  | .move (.event _ j e) => j = id ∧ ∃ ending, e = .failed ending
  | .move (.takeEvent _) => ∃ ending, h.events.head? = some (id, .failed ending)
  | .move (.report r) => r.peer = id
  | .move .takeReport => ∃ r, h.reports.head? = some r ∧ r.peer = id
  | .move (.destroyPeer j) => j = id
  | _ => False

/-- A peer that is ended is not there. -/
theorem destroyPeer_absent (h : Host) (id : PeerId) : (h.destroyPeer id).2.peer? id = none := by
  unfold destroyPeer
  split
  · simp [peer?]
  · next hnone => exact hnone

/-- **They do end it.** -/
theorem peer?_of_ends {h : Host} {id : PeerId} {d : Deed} (hd : d.Ends h id) :
    (h.perform d).peer? id = none := by
  cases d with
  | store a => exact hd.elim
  | move m =>
    cases m with
    | event env j e =>
      obtain ⟨rfl, ending, rfl⟩ := hd
      exact h.destroyPeer_absent j
    | takeEvent env =>
      obtain ⟨ending, hhead⟩ := hd
      obtain ⟨rest, hq⟩ := List.head?_eq_some_iff.1 hhead
      simp only [perform, move, stepChannels?, hq, Option.getD_some, onEvent]
      exact destroyPeer_absent { h with events := rest } id
    | report r =>
      obtain rfl := hd
      exact h.destroyPeer_absent r.peer
    | takeReport =>
      obtain ⟨r, hhead, rfl⟩ := hd
      obtain ⟨rest, hq⟩ := List.head?_eq_some_iff.1 hhead
      simp only [perform, move, stepWatchdog?, hq, Option.getD_some, onReport]
      exact destroyPeer_absent { h with reports := rest } r.peer
    | destroyPeer j =>
      obtain rfl := hd
      exact h.destroyPeer_absent j
    | openChannel | nameChannel | channel | look | destroyProfile | shutdown => exact hd.elim

/-- **A peer that is destroyed stays destroyed and cannot act.**  It was there once; a deed that ends
it takes it away; and whenever it is not there any more, it has departed. -/
theorem departed_run (config : HostConfig) (deeds : List Deed) (id : PeerId) {p : HostPeer Empty}
    (hp : (after config deeds).peer? id = some p) :
    (∀ d : Deed, d.Ends (after config deeds) id →
      (after config (deeds ++ [d])).peer? id = none) ∧
    ∀ between, (after config (deeds ++ between)).peer? id = none →
      (after config (deeds ++ between)).Departed id := by
  refine ⟨fun d hd => ?_, fun between hnone => ?_⟩
  · rw [after_snoc]
    exact peer?_of_ends hd
  · have hn := numbered_after config deeds
    have hused : id.value < (after config (deeds ++ between)).nextPeer := by
      rw [after_append]
      exact (performAll_keep (I := fun g => id.value < g.nextPeer)
        (fun _ _ _ hc hlt => Nat.lt_of_lt_of_le hlt hc.nextPeer_le) (fun _ _ hlt => hlt) hn
        (hn id p hp).2 between).2
    have hleft : (after config (deeds ++ between)).Left id :=
      ⟨numbered_after _ _, ⟨hnone, hused⟩, onlyLive_after _ _⟩
    exact hleft.departed

/-- Two peers, of which the first one's channel connects, says something and breaks, and whose time
is up before any of this is handled. -/
def overtaken : List Deed :=
  [.move (.openChannel (.atStart "" 0) 5),
    .move (.openChannel (.atStart "" 0) 100),
    .move (.channel ⟨1⟩ fun e =>
      ({ events := [.connected 7, .badMessage "late", .failed .closed] }, e)),
    .move (.look 10 fun _ => ⟨.running, .delivered⟩)]

/-- The application ends the peer; the report about it and all that its channel has said are still
queued. -/
theorem departed_run_overtaken :
    (∃ p, (after {} overtaken).peer? ⟨1⟩ = some p) ∧
      (after {} (overtaken ++ [.move (.destroyPeer ⟨1⟩)])).peer? ⟨1⟩ = none ∧
      (after {} (overtaken ++ [.move (.destroyPeer ⟨1⟩)])).events.length = 3 ∧
      (after {} (overtaken ++ [.move (.destroyPeer ⟨1⟩)])).reports = [.timedOut ⟨1⟩] ∧
      (after {} (overtaken ++ [.move (.destroyPeer ⟨1⟩)])).Departed ⟨1⟩ :=
  ⟨⟨_, rfl⟩, rfl, rfl, rfl, (departed_run {} overtaken ⟨1⟩ rfl).2 [.move (.destroyPeer ⟨1⟩)] rfl⟩

end Host

end ControlPlane
