/-
# No peer escapes the watchdog

Two parties change what the watchdog knows: the host, which adds peers, connects and forgets them,
and the watchdog itself, which reports them.  Whatever the order, a live peer is always in exactly
one place: it waits for its client, its process is checked, or one report about it is on its way.

* `Host.eyes`: the places a peer is in, counted;
* `Host.Guarded`: one for every live peer, kept by every change (`Change.guarded`);
* `Host.supervised_run`: the same said of every run that has not shut down, place by place, and
  of whoever asks for a channel next (`Host.OpensSupervised`).

Counting makes the changes small: each takes a peer from one place and puts it into another, or
takes it from one place and from the host.
-/
import ControlPlane.Proofs.Host.Moves
import ControlPlane.Proofs.Watchdog

namespace ControlPlane

namespace Host

/-! ## 1. One place for every peer -/

/-- **In how many places a peer is**: with the watchdog, or in a report that is not handled yet. -/
def eyes (h : Host) (id : PeerId) : Nat := h.watchdog.ways id + reportsOn id h.reports

/-- **Every live peer is in one place**, and the watchdog keeps nobody else. -/
structure Guarded (h : Host) : Prop where
  running : h.watchdog.stopped = false
  once : ∀ id, h.peers.contains id = true → h.eyes id = 1
  live : ∀ id, h.peers.contains id = false → h.watchdog.ways id = 0
  /-- Reports may be about peers that are gone, but not about peers to come. -/
  known : ∀ r ∈ h.reports, r.peer.value < h.nextPeer

/-- A new host has nobody to guard. -/
theorem guarded_start (config : HostConfig) : (start config).Guarded where
  running := rfl
  once id h := by simp [start] at h
  live _ _ := rfl
  known r h := by simp [start] at h

/-- A peer that is found is contained. -/
theorem contains_of_peer? {h : Host} {id : PeerId} {p : HostPeer Empty}
    (hp : h.peer? id = some p) : h.peers.contains id = true := by
  have hget : h.peers.get? id = some p := hp
  simp [Table.contains, hget]

/-- A host with the same peers under the same eyes is guarded as well. -/
theorem Guarded.congr {h h' : Host} (hg : h.Guarded) (hdog : h'.watchdog = h.watchdog)
    (hreports : h'.reports = h.reports) (hnext : h'.nextPeer = h.nextPeer)
    (hpeers : ∀ id, h'.peers.contains id = h.peers.contains id) : h'.Guarded where
  running := hdog ▸ hg.running
  once id hid := by
    rw [eyes, hdog, hreports]
    exact hg.once id (hpeers id ▸ hid)
  live id hid := hdog ▸ hg.live id (hpeers id ▸ hid)
  known := by
    rw [hreports, hnext]
    exact hg.known

/-- A peer that takes the place of itself changes no eyes. -/
theorem Guarded.insert {h : Host} {id : PeerId} {p : HostPeer Empty} (hg : h.Guarded)
    (hp : h.peer? id = some p) (p' : HostPeer Empty) (profiles : ProfileStore) :
    { h with profiles, peers := h.peers.insert id p' }.Guarded := by
  refine hg.congr rfl rfl rfl fun j => ?_
  by_cases hj : j = id
  · subst hj
    simp [contains_of_peer? hp]
  · simp [hj]

/-! ## 2. Every change keeps the peers guarded -/

/-- **A peer that goes, and perhaps the report about it, leaves the others guarded.** -/
theorem Guarded.destroyPeer {h : Host} (hg : h.Guarded) (id : PeerId)
    {reports : List WatchdogEvent} (hsub : ∀ r ∈ reports, r ∈ h.reports)
    (hothers : ∀ j, j ≠ id → reportsOn j reports = reportsOn j h.reports) :
    ({ h with reports }.destroyPeer id).2.Guarded := by
  have hknown : ∀ r ∈ reports, r.peer.value < h.nextPeer := fun r hr => hg.known r (hsub r hr)
  have honce : ∀ j, j ≠ id → h.peers.contains j = true →
      h.watchdog.ways j + reportsOn j reports = 1 := by
    intro j hj hin
    rw [hothers j hj]
    exact hg.once j hin
  unfold Host.destroyPeer
  split
  · refine ⟨hg.running, fun j hin => ?_, fun j hout => ?_, hknown⟩
    · simp only [Table.contains_erase, Bool.and_eq_true, decide_eq_true_eq] at hin
      rw [eyes, Watchdog.ways_forget, if_neg hin.1]
      exact honce j hin.1 hin.2
    · rw [Watchdog.ways_forget]
      split
      · rfl
      · next hj =>
        simp only [Table.contains_erase, hj, ne_eq, not_false_iff, decide_true,
          Bool.true_and] at hout
        exact hg.live j hout
  · next hnone =>
    refine ⟨hg.running, fun j hin => ?_, hg.live, hknown⟩
    refine honce j ?_ hin
    rintro rfl
    have hout : h.peers.contains j = false := Table.contains_eq_false_iff.2 hnone
    rw [hout] at hin
    cases hin

/-- A channel that is made puts its peer under the eyes of the watchdog. -/
theorem Guarded.withChannel {h : Host} (hn : h.Numbered) (hg : h.Guarded) (env : Surroundings)
    (timeout : Nat) : (h.withChannel env timeout).Guarded := by
  have hfree : h.peers.contains h.nextId = false :=
    Table.contains_eq_false_iff.2 hn.peer?_nextId
  have hnew : h.watchdog.ways h.nextId = 0 := hg.live _ hfree
  have hquiet : reportsOn h.nextId h.reports = 0 := by
    rw [reportsOn_eq_zero_iff]
    intro r hr heq
    have hlt := hg.known r hr
    rw [heq] at hlt
    exact Nat.lt_irrefl _ hlt
  refine ⟨hg.running, fun j hin => ?_, fun j hout => ?_,
    fun r hr => Nat.lt_succ_of_lt (hg.known r hr)⟩
  · rw [eyes]
    show Watchdog.ways { h.watchdog with waiting := _ } j + reportsOn j h.reports = 1
    rw [Watchdog.ways_add hnew]
    by_cases hj : j = h.nextId
    · subst hj
      simp [hquiet]
    · rw [if_neg hj]
      refine hg.once j ?_
      simpa [Host.withChannel, hj] using hin
  · show Watchdog.ways { h.watchdog with waiting := _ } j = 0
    rw [Watchdog.ways_add hnew]
    simp only [Host.withChannel, Table.contains_insert, Bool.or_eq_false_iff,
      decide_eq_false_iff_not] at hout
    rw [if_neg hout.1]
    exact hg.live j hout.2

/-- A client that connects, in time or late, moves its peer at most from one place to another. -/
theorem Guarded.connected {h : Host} {id : PeerId} {p : HostPeer Empty} (hg : h.Guarded)
    (hp : h.peer? id = some p) (pid : UInt32) :
    { h with
      watchdog := (h.watchdog.markConnected id (ProcessHandle.watch pid)).2
      peers := h.peers.insert id (p.connected pid) }.Guarded := by
  have hput := hg.insert hp (p.connected pid) h.profiles
  have hone : h.watchdog.ways id ≤ 1 := by
    have honce := hg.once id (contains_of_peer? hp)
    rw [eyes] at honce
    omega
  have hways := Watchdog.ways_markConnected hone (ProcessHandle.watch pid)
  refine ⟨?_, fun j hin => ?_, fun j hout => ?_, hg.known⟩
  · rw [Watchdog.stopped_markConnected]
    exact hg.running
  · rw [eyes, hways]
    exact hput.once j hin
  · rw [hways]
    exact hput.live j hout

/-- **A look moves peers from the watchdog to the reports.** -/
theorem Guarded.look {h : Host} (hn : h.Numbered) (hg : h.Guarded) (now : Nat)
    (answers : PeerId → ProcessHandle.Answers) : (h.look now answers).Guarded := by
  have hpass := Watchdog.ways_pass hg.running now
    fun id (p : ProcessHandle) => p.glance (answers id)
  refine ⟨?_, fun j hin => ?_, fun j hout => ?_, fun r hr => ?_⟩
  · show (h.watchdog.pass now _).2.stopped = false
    rw [Watchdog.stopped_pass]
    exact hg.running
  · have honce := hg.once j hin
    have hj := hpass j
    simp only [eyes, Host.look, reportsOn_append] at honce ⊢
    omega
  · have hlive := hg.live j hout
    have hj := hpass j
    show (h.watchdog.pass now _).2.ways j = 0
    omega
  · rcases List.mem_append.1 hr with hold | hnew
    · exact hg.known r hold
    · have hcount : reportsOn r.peer (h.watchdog.pass now
          fun id (p : ProcessHandle) => p.glance (answers id)).1 ≠ 0 :=
        fun h0 => reportsOn_eq_zero_iff.1 h0 r hnew rfl
      have hj := hpass r.peer
      cases hget : h.peer? r.peer with
      | some p => exact (hn r.peer p hget).2
      | none =>
        have hzero := hg.live r.peer (Table.contains_eq_false_iff.2 hget)
        omega

/-- **Every change keeps the peers guarded**, as long as the host runs. -/
theorem Change.guarded {h h' : Host} (hn : h.Numbered) (hc : Change h h')
    (hi : h.stopped = false → h.Guarded) : h'.stopped = false → h'.Guarded := by
  intro hrun
  cases hc with
  | queued | cleared | updated | forgotten =>
    exact (hi hrun).congr rfl rfl rfl fun _ => rfl
  | usedUp =>
    have hg := hi hrun
    exact ⟨hg.running, hg.once, hg.live, fun r hr => Nat.lt_succ_of_lt (hg.known r hr)⟩
  | opened env timeout => exact (hi hrun).withChannel hn env timeout
  | touched id p p' hp => exact (hi hrun).insert hp p' h.profiles
  | obtained id p r failure route store hp => exact (hi hrun).insert hp _ store
  | dropped id p a hp => exact (hi hrun).insert hp _ _
  | connected id p pid hp => exact (hi hrun).connected hp pid
  | gone id p hp =>
    have hg : (h.destroyPeer id).2.Guarded :=
      (hi hrun).destroyPeer id (fun _ hr => hr) fun _ _ => rfl
    simp only [Host.destroyPeer, hp] at hg
    exact hg
  | reported r rest hq =>
    rw [stopped_destroyPeer] at hrun
    refine (hi hrun).destroyPeer r.peer ?_ ?_
    · intro r' hr'
      rw [hq]
      exact List.mem_cons_of_mem r hr'
    · intro j hj
      rw [hq, reportsOn_cons, if_neg (Ne.symm hj)]
      rfl
  | looked now answers => exact (hi hrun).look hn now answers
  | stopping => cases hrun
  | emptied hstop => simp [hstop] at hrun

/-! ## 3. Every run -/

/-- **No peer of a host escapes the watchdog.** -/
structure Supervised (h : Host) : Prop where
  /-- A live peer waits for its client, or its process is checked, or one report is about it; and
  only one of these. -/
  once : ∀ id p, h.peer? id = some p →
    (h.watchdog.waiting.contains id = true ∧ h.watchdog.connected.contains id = false ∧
      reportsOn id h.reports = 0) ∨
    (h.watchdog.waiting.contains id = false ∧ h.watchdog.connected.contains id = true ∧
      reportsOn id h.reports = 0) ∨
    (h.watchdog.waiting.contains id = false ∧ h.watchdog.connected.contains id = false ∧
      reportsOn id h.reports = 1)
  /-- The watchdog keeps live peers only. -/
  live : ∀ id, h.watchdog.waiting.contains id = true ∨ h.watchdog.connected.contains id = true →
    ∃ p, h.peer? id = some p
  /-- No peer both waits and is connected. -/
  disjoint : ∀ id, ¬ (h.watchdog.waiting.contains id = true ∧
    h.watchdog.connected.contains id = true)
  /-- Every live peer is stored under its own id. -/
  own : ∀ id p, h.peer? id = some p → p.id = id
  /-- Every id is below the next one: of a live peer, of a tracked one and in a report. -/
  below : ∀ id, (∃ p, h.peer? id = some p) ∨ h.watchdog.waiting.contains id = true ∨
    h.watchdog.connected.contains id = true ∨ reportsOn id h.reports ≠ 0 →
    id.value < h.nextPeer

/-- Peers that are guarded by count are guarded place by place. -/
theorem Guarded.supervised {h : Host} (hn : h.Numbered) (hg : h.Guarded) : h.Supervised := by
  have hways : ∀ id, h.watchdog.ways id
      = (h.watchdog.waiting.contains id).toNat + (h.watchdog.connected.contains id).toNat :=
    fun _ => rfl
  have hlive : ∀ id, h.watchdog.waiting.contains id = true ∨
      h.watchdog.connected.contains id = true → ∃ p, h.peer? id = some p := by
    intro id htracked
    cases hp : h.peer? id with
    | some p => exact ⟨p, rfl⟩
    | none =>
      have hzero := hg.live id (Table.contains_eq_false_iff.2 hp)
      rw [hways] at hzero
      rcases htracked with hw | hc
      · simp [hw] at hzero
      · simp [hc] at hzero
  have honce : ∀ id p, h.peer? id = some p → (h.watchdog.waiting.contains id).toNat
      + (h.watchdog.connected.contains id).toNat + reportsOn id h.reports = 1 :=
    fun id p hp => hg.once id (contains_of_peer? hp)
  refine ⟨fun id p hp => ?_, hlive, fun id hboth => ?_, fun id p hp => (hn id p hp).1, ?_⟩
  · have hsum := honce id p hp
    cases hw : h.watchdog.waiting.contains id <;> cases hc : h.watchdog.connected.contains id <;>
      simp only [hw, hc, Bool.toNat_true, Bool.toNat_false] at hsum
    · exact .inr (.inr ⟨rfl, rfl, by omega⟩)
    · exact .inr (.inl ⟨rfl, rfl, by omega⟩)
    · exact .inl ⟨rfl, rfl, by omega⟩
    · omega
  · obtain ⟨p, hp⟩ := hlive id (.inl hboth.1)
    have hsum := honce id p hp
    simp only [hboth.1, hboth.2, Bool.toNat_true] at hsum
    omega
  · rintro id (⟨p, hp⟩ | hw | hc | hr)
    · exact (hn id p hp).2
    · obtain ⟨p, hp⟩ := hlive id (.inl hw)
      exact (hn id p hp).2
    · obtain ⟨p, hp⟩ := hlive id (.inr hc)
      exact (hn id p hp).2
    · obtain ⟨r, hmem, rfl⟩ := exists_of_reportsOn hr
      exact hg.known r hmem

/-- **Whoever asks for a channel leaves nobody unwatched, whatever the timeout.**  There is an answer,
a channel or a fault, and the host goes on.  Or the deadline is beyond the clock: then the host
breaks off with every peer where it was, and shuts down. -/
def OpensSupervised (h : Host) : Prop :=
  ∀ env timeout,
    (∃ answer h', h.openChannel env timeout = (some answer, h') ∧ h'.stopped = false ∧
      h'.Supervised) ∨
    (deadline? env.now timeout = none ∧
      h.openChannel env timeout = (none, { h with nextPeer := h.nextPeer + 1 }.shutdown) ∧
      { h with nextPeer := h.nextPeer + 1 }.Supervised)

/-- A host breaks off over the last moment of the clock. -/
example : ((start {}).openChannel (.atStart "" 0) clockEnd).1 = none := rfl

/-- A host that runs with its peers guarded asks nothing of the timeout. -/
theorem Guarded.opens {h : Host} (hn : h.Numbered) (hg : h.Guarded) (hrun : h.stopped = false) :
    h.OpensSupervised := by
  -- after one more change the peers are guarded as well
  have hnext : ∀ {h' : Host}, Change h h' → h'.stopped = false → h'.Supervised := fun hc hrun' =>
    Guarded.supervised (hc.numbered hn) (hc.guarded hn (fun _ => hg) hrun')
  intro env timeout
  rcases openChannel_cases h env timeout with
    ⟨e, ho⟩ | ⟨_, e, ho⟩ | ⟨_, htime, ho⟩ | ⟨_, hdog, ho⟩
  · exact .inl ⟨_, h, ho, hrun, hg.supervised hn⟩
  · exact .inl ⟨_, _, ho, hrun, hnext (.usedUp h) hrun⟩
  · exact .inr ⟨htime, ho, hnext (.usedUp h) hrun⟩
  · exact .inl ⟨_, _, ho, hrun, hnext (.opened h env timeout hrun hdog) hrun⟩

/-- **No peer escapes the watchdog in a run that has not shut down**, and none would if a channel was
asked for next. -/
theorem supervised_run (config : HostConfig) (moves : List Move)
    (hrun : ((start config).run moves).stopped = false) :
    ((start config).run moves).Supervised ∧ ((start config).run moves).OpensSupervised := by
  have hn := numbered_run config moves
  have hg : ((start config).run moves).Guarded :=
    run_induction (I := fun h => h.stopped = false → h.Guarded) (fun _ => guarded_start config)
      (fun _ _ hn hc hi => hc.guarded hn hi) moves hrun
  exact ⟨hg.supervised hn, hg.opens hn hrun⟩

/-- Two channels, of which the client of the second one connects after its deadline, when the report
about it is already on its way. -/
def lateClient : List Move :=
  [.openChannel (.atStart "" 0) 100,
    .openChannel (.atStart "" 0) 5,
    .look 10 fun _ => ⟨.running, .delivered⟩,
    .event { now := 11, nonce := "", socket := 0 } ⟨2⟩ (.connected 7)]

/-- Both peers of such a run are live, the one waiting and the other one in a report. -/
theorem supervised_run_lateClient :
    ((start {}).run lateClient).stopped = false ∧ ((start {}).run lateClient).Supervised ∧
      ((start {}).run lateClient).OpensSupervised ∧
      ((start {}).run lateClient).peers.keys = [⟨1⟩, ⟨2⟩] ∧
      ((start {}).run lateClient).watchdog.waiting.keys = [⟨1⟩] ∧
      ((start {}).run lateClient).reports = [.timedOut ⟨2⟩] := by
  obtain ⟨hsupervised, hopens⟩ := supervised_run {} lateClient rfl
  exact ⟨rfl, hsupervised, hopens, rfl, rfl, rfl⟩

end Host

end ControlPlane
