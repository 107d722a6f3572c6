/-
# Where the watchdog keeps a peer

A peer is watched in one of two ways, or reported.  What the watchdog does moves it from one to
the next and never loses it on the way.

* `Watchdog.ways`: in how many ways a peer is watched;
* `reportsOn`: how many reports of a list are about a peer;
* `Watchdog.ways_add`, `ways_markConnected`, `ways_forget`: what the host tells it;
* `Watchdog.ways_pass`: one look leaves a peer watched or reports it, and not both;
* `Watchdog.ways_pass_le`, `ways_shutdown_le`: whatever the watchdog does by itself, and whether or
  not it has stopped, it watches nobody whom it has not watched before.
-/
import ControlPlane.Proofs.Table
import ControlPlane.Watchdog

namespace ControlPlane

/-- **How many reports are about a peer.** -/
def reportsOn (id : PeerId) (reports : List WatchdogEvent) : Nat :=
  reports.countP fun r => r.peer = id

/-- Reports that come later are counted as well. -/
@[simp] theorem reportsOn_append (id : PeerId) (reports more : List WatchdogEvent) :
    reportsOn id (reports ++ more) = reportsOn id reports + reportsOn id more :=
  List.countP_append

/-- The next report is about its peer. -/
theorem reportsOn_cons (id : PeerId) (r : WatchdogEvent) (reports : List WatchdogEvent) :
    reportsOn id (r :: reports) = reportsOn id reports + if r.peer = id then 1 else 0 := by
  simp [reportsOn, List.countP_cons]

/-- A report that is counted is there. -/
theorem exists_of_reportsOn {id : PeerId} {reports : List WatchdogEvent}
    (h : reportsOn id reports ≠ 0) : ∃ r ∈ reports, r.peer = id := by
  simpa using List.countP_pos_iff.1 (Nat.pos_of_ne_zero h)

/-- Nothing is counted if no report is about a peer. -/
theorem reportsOn_eq_zero_iff {id : PeerId} {reports : List WatchdogEvent} :
    reportsOn id reports = 0 ↔ ∀ r ∈ reports, r.peer ≠ id := by
  simp [reportsOn, List.countP_eq_zero]

/-- Reports that were made from peers, one for each. -/
theorem reportsOn_map {α : Type} (id : PeerId) (report : α → WatchdogEvent) (peer : α → PeerId)
    (hpeer : ∀ a, (report a).peer = peer a) (l : List α) :
    reportsOn id (l.map report) = (l.map peer).count id := by
  induction l with
  | nil => rfl
  | cons a rest ih =>
    rw [List.map_cons, List.map_cons, reportsOn_cons, ih, List.count_cons, hpeer]
    simp

namespace Watchdog

variable {H : Type}

/-- **In how many ways a peer is watched.** -/
def ways (w : Watchdog H) (id : PeerId) : Nat :=
  (w.waiting.contains id).toNat + (w.connected.contains id).toNat

/-- A peer that is watched in no way has no state, and the other way round. -/
theorem state?_eq_none_iff {w : Watchdog H} {id : PeerId} : w.state? id = none ↔ w.ways id = 0 := by
  unfold state? ways
  cases w.waiting.contains id <;> cases w.connected.contains id <;> simp

/-- A peer is shown as waiting whenever it waits. -/
theorem state?_eq_waiting_iff {w : Watchdog H} {id : PeerId} :
    w.state? id = some .waiting ↔ w.waiting.contains id = true := by
  unfold state?
  cases w.waiting.contains id <;> cases w.connected.contains id <;> simp

/-- A peer is shown as connected when it does not wait as well. -/
theorem state?_eq_connected_iff {w : Watchdog H} {id : PeerId} :
    w.state? id = some .connected ↔
      w.waiting.contains id = false ∧ w.connected.contains id = true := by
  unfold state?
  cases w.waiting.contains id <;> cases w.connected.contains id <;> simp

/-! ## 1. What the host tells it -/

/-- A peer that is not watched yet is watched in one way from now on. -/
theorem ways_add {w : Watchdog H} {id : PeerId} (hnew : w.ways id = 0) (deadline : Nat)
    (j : PeerId) :
    { w with waiting := w.waiting.insert id deadline }.ways j
      = if j = id then 1 else w.ways j := by
  by_cases hj : j = id
  · subst hj
    have hout : w.connected.contains j = false := by
      cases h : w.connected.contains j with
      | false => rfl
      | true => simp [ways, h] at hnew
    simp [ways, hout]
  · simp [ways, hj]

/-- A peer that is forgotten is not watched any more. -/
theorem ways_forget (w : Watchdog H) (id j : PeerId) :
    (w.forget id).ways j = if j = id then 0 else w.ways j := by
  by_cases hj : j = id <;> simp [ways, forget, hj]

/-- **A peer whose client connects is watched in as many ways as before**, if that was not in both.
A client that is late, or connects again, changes nothing. -/
theorem ways_markConnected {w : Watchdog H} {id : PeerId} (hways : w.ways id ≤ 1) (handle : H)
    (j : PeerId) : (w.markConnected id handle).2.ways j = w.ways j := by
  unfold markConnected
  split
  · rfl
  · next hwaits =>
    by_cases hj : j = id
    · subst hj
      have hin : w.waiting.contains j = true := by
        cases h : w.waiting.contains j <;> simp_all
      have hout : w.connected.contains j = false := by
        cases h : w.connected.contains j with
        | false => rfl
        | true => simp [ways, hin, h] at hways
      simp [ways, hin, hout]
    · simp [ways, hj]

/-- The other peers are watched as before, however the one whose client connects was. -/
theorem ways_markConnected_of_ne {w : Watchdog H} {id j : PeerId} (hj : j ≠ id) (handle : H) :
    (w.markConnected id handle).2.ways j = w.ways j := by
  unfold markConnected
  split
  · rfl
  · simp [ways, hj]

/-- A watchdog that stops watches nobody whom it has not watched before. -/
theorem ways_shutdown_le (w : Watchdog H) (id : PeerId) : w.shutdown.2.ways id ≤ w.ways id := by
  unfold shutdown
  split
  · exact Nat.le_refl _
  · exact Nat.zero_le _

/-- A client that connects does not stop the watchdog. -/
@[simp] theorem stopped_markConnected (w : Watchdog H) (id : PeerId) (handle : H) :
    (w.markConnected id handle).2.stopped = w.stopped := by
  unfold markConnected
  split <;> rfl

/-! ## 2. Looking -/

/-- A look does not stop the watchdog. -/
@[simp] theorem stopped_pass [Watched H] (w : Watchdog H) (now : Nat) (look : PeerId → H → Glance H) :
    (w.pass now look).2.stopped = w.stopped := by
  unfold pass
  split <;> rfl

/-- A peer that waits goes on waiting, or its deadline is reported. -/
theorem timeouts_ways (w : Watchdog H) (now : Nat) (id : PeerId) :
    ((w.waiting.filter fun _ deadline => !(deadline ≤ now)).contains id).toNat
        + reportsOn id (w.timeouts now)
      = (w.waiting.contains id).toNat := by
  have hcount : reportsOn id (w.timeouts now)
      = ((w.waiting.filter fun _ deadline => deadline ≤ now).contains id).toNat := by
    rw [timeouts, reportsOn_map id .timedOut (fun j => j) (fun _ => rfl), List.map_id',
      Table.count_keys]
  rw [hcount]
  cases hw : w.waiting.get? id with
  | none => simp [Table.contains, hw]
  | some deadline => by_cases hd : deadline ≤ now <;> simp [Table.contains, hw, hd, Option.filter]

/-- A process that is looked at is looked at again, or its end is reported. -/
theorem exits_ways [Watched H] (w : Watchdog H) (look : PeerId → H → Glance H) (id : PeerId) :
    ((((w.connected.map look).filter fun _ g => !g.ended).map fun _ g => g.handle).contains
        id).toNat + reportsOn id (exits (w.connected.map look))
      = (w.connected.contains id).toNat := by
  have hcount : reportsOn id (exits (w.connected.map look))
      = (((w.connected.map look).filter fun _ g => g.ended).contains id).toNat := by
    rw [exits, reportsOn_map id _ (·.1) (fun _ => rfl), ← Table.count_keys]
    rfl
  rw [hcount]
  cases hw : w.connected.get? id with
  | none => simp [Table.contains, hw]
  | some h => cases hg : (look id h).ended <;> simp [Table.contains, hw, hg, Option.filter]

/-- **A look leaves a peer watched or reports it**: what was watched in one way is afterwards
watched in one way and not reported, or reported once and not watched. -/
theorem ways_pass [Watched H] {w : Watchdog H} (hrun : w.stopped = false) (now : Nat)
    (look : PeerId → H → Glance H) (id : PeerId) :
    (w.pass now look).2.ways id + reportsOn id (w.pass now look).1 = w.ways id := by
  have htimeouts := w.timeouts_ways now id
  have hexits := w.exits_ways look id
  simp only [pass, hrun, Bool.false_eq_true, if_false, ways, reportsOn_append]
  omega

/-- Nobody is watched or reported who was not watched, also by a watchdog that has stopped. -/
theorem ways_pass_le [Watched H] (w : Watchdog H) (now : Nat) (look : PeerId → H → Glance H)
    (id : PeerId) : (w.pass now look).2.ways id + reportsOn id (w.pass now look).1 ≤ w.ways id := by
  cases hrun : w.stopped with
  | false => exact Nat.le_of_eq (ways_pass hrun now look id)
  | true =>
    simp only [pass, hrun, if_true]
    exact Nat.le_refl _

end Watchdog

end ControlPlane
