/-
# The life of a peer under the watchdog

Five things happen to a watchdog, in any order: the host adds a peer, tells of a client that has
connected, forgets a peer or stops the watchdog, and from time to time the watchdog looks at
everything it watches.  A peer that is added once goes through it in one direction:

    add ──> waiting ──client accepted──> connected ──process gone──> reported
               │                             │
               ├──deadline──> reported       │
               └───────forgotten, or the watchdog stopped

* `Watchdog.Act`, `Moment`, `step`, `emits`, `accepts`: what happens, what it leads to and what is
  said of it;
* `waits_run`, `ways_run`: every acceptance and every report is paid for by an addition;
* `waiting_run`, `handle_of_connected`: where a deadline and a process that is looked at come from;
* `Watchdog.LifeCycle`, `lifeCycle`: what follows for every run that adds the peer at most once;
* `accepts_after_early_forget`: a peer that was forgotten before it was added is accepted.

Nothing is assumed of the clock: deadlines are counted from the time at which a peer was added.
-/
import Mathlib.Data.List.Induction
import ControlPlane.Proofs.Watchdog

namespace ControlPlane

namespace Watchdog

/-! ## 1. What happens to a watchdog -/

/-- **A look at processes.**  It leaves every process its number. -/
structure Look (H : Type) [Watched H] where
  glance : PeerId → H → Glance H
  pid_glance : ∀ p h, Watched.pid (glance p h).handle = Watched.pid h

/-- What may happen to a watchdog. -/
inductive Act (H : Type) [Watched H] where
  /-- The host adds a peer, whose client has some time to connect. -/
  | add (peer : PeerId) (timeout : Nat)
  /-- The host tells of the process whose client has connected. -/
  | connect (peer : PeerId) (handle : H)
  | forget (peer : PeerId)
  /-- The watchdog looks at everything. -/
  | look (look : Look H)
  | shutdown

/-- Something that happens, and when. -/
structure Moment (H : Type) [Watched H] where
  now : Nat
  act : Act H

variable {H : Type} [Watched H]

/-- Whether a peer is added, in time or too late. -/
def Act.adds (p : PeerId) : Act H → Bool
  | .add q _ => q = p
  | .connect .. | .forget _ | .look _ | .shutdown => false

/-- The watchdog after a moment. -/
def step (w : Watchdog H) (m : Moment H) : Watchdog H :=
  match m.act with
  | .add p timeout =>
    match w.add p (m.now + timeout) with
    | .ok w' => w'
    | .error _ => w
  | .connect p handle => (w.markConnected p handle).2
  | .forget p => w.forget p
  | .look l => (w.pass m.now l.glance).2
  | .shutdown => w.shutdown.2

/-- What is reported at a moment. -/
def emits (w : Watchdog H) (m : Moment H) : List WatchdogEvent :=
  match m.act with
  | .look l => (w.pass m.now l.glance).1
  | .add .. | .connect .. | .forget _ | .shutdown => []

/-- Whether the client of a peer is accepted at a moment. -/
def accepts (w : Watchdog H) (p : PeerId) (m : Moment H) : Bool :=
  match m.act with
  | .connect q handle => q = p && (w.markConnected q handle).1
  | .add .. | .forget _ | .look _ | .shutdown => false

/-- The watchdog after a run. -/
def run (w : Watchdog H) (xs : List (Moment H)) : Watchdog H := xs.foldl step w

/-- Everything that is reported in a run. -/
def reports : Watchdog H → List (Moment H) → List WatchdogEvent
  | _, [] => []
  | w, m :: rest => w.emits m ++ (w.step m).reports rest

/-- How often the client of a peer is accepted in a run. -/
def acceptances (p : PeerId) : Watchdog H → List (Moment H) → Nat
  | _, [] => 0
  | w, m :: rest => (w.accepts p m).toNat + acceptances p (w.step m) rest

/-- How often a peer is added in a run. -/
def additions (p : PeerId) (xs : List (Moment H)) : Nat := xs.countP (·.act.adds p)

/-- **The watchdog after a run from its start.** -/
def after (xs : List (Moment H)) : Watchdog H := run {} xs

/-- **What has been reported since its start.** -/
def reported (xs : List (Moment H)) : List WatchdogEvent := reports {} xs

/-- **How often the client of a peer has been accepted since its start.** -/
def accepted (p : PeerId) (xs : List (Moment H)) : Nat := acceptances p {} xs

/-- Later moments go on from where the earlier ones have led. -/
theorem run_append (w : Watchdog H) (xs ys : List (Moment H)) :
    w.run (xs ++ ys) = (w.run xs).run ys := List.foldl_append

/-- What is reported later is reported after the rest. -/
theorem reports_append (w : Watchdog H) (xs ys : List (Moment H)) :
    w.reports (xs ++ ys) = w.reports xs ++ (w.run xs).reports ys := by
  induction xs generalizing w with
  | nil => rfl
  | cons m rest ih =>
    rw [List.cons_append, reports, reports, ih, List.append_assoc]
    rfl

/-- Later acceptances are counted as well. -/
theorem acceptances_append (p : PeerId) (w : Watchdog H) (xs ys : List (Moment H)) :
    acceptances p w (xs ++ ys) = acceptances p w xs + acceptances p (w.run xs) ys := by
  induction xs generalizing w with
  | nil => simp [acceptances, run]
  | cons m rest ih =>
    rw [List.cons_append, acceptances, acceptances, ih, Nat.add_assoc]
    rfl

/-- Later additions are counted as well. -/
theorem additions_append (p : PeerId) (xs ys : List (Moment H)) :
    additions p (xs ++ ys) = additions p xs + additions p ys := List.countP_append

/-- One more moment is a step from where the others have led. -/
theorem after_snoc (xs : List (Moment H)) (m : Moment H) :
    after (xs ++ [m]) = (after xs).step m := run_append {} xs [m]

/-! ## 2. How many ways there are -/

/-- Whether a peer waits, as a number. -/
def waits (w : Watchdog H) (p : PeerId) : Nat := (w.waiting.contains p).toNat

/-- A look reports the deadlines of the peers that it takes off the waiting ones. -/
theorem count_timedOut_pass (w : Watchdog H) (now : Nat) (look : PeerId → H → Glance H)
    (p : PeerId) :
    (w.pass now look).2.waits p + (w.pass now look).1.count (.timedOut p) ≤ w.waits p := by
  cases hrun : w.stopped with
  | true => simp [pass, hrun]
  | false =>
    have hexits : (exits (w.connected.map look)).count (.timedOut p) = 0 := by
      rw [List.count_eq_zero, exits]
      simp
    have hcount : (w.timeouts now).count (.timedOut p) = reportsOn p (w.timeouts now) := by
      refine List.countP_congr fun r hr => ?_
      obtain ⟨q, -, rfl⟩ := List.mem_map.1 hr
      rw [beq_iff_eq, WatchdogEvent.timedOut.injEq]
      exact decide_eq_true_iff.symm
    have hways := w.timeouts_ways now p
    simp only [pass, hrun, Bool.false_eq_true, if_false, List.count_append, waits]
    omega

/-- **A peer that is accepted or whose deadline is reported waits no longer**, and only an addition
makes it wait. -/
theorem waits_step (w : Watchdog H) (p : PeerId) (m : Moment H) :
    (w.step m).waits p + (w.accepts p m).toNat + (w.emits m).count (.timedOut p)
      ≤ w.waits p + (m.act.adds p).toNat := by
  obtain ⟨now, act⟩ := m
  cases act with
  | add q timeout =>
    have hle := Bool.toNat_le (w.waiting.contains p)
    by_cases hstop : w.stopped = true
    · simp [step, add, hstop, accepts, emits]
    · by_cases hp : p = q
      · subst hp
        simp [step, add, hstop, accepts, emits, Act.adds, waits]
      · simp [step, add, hstop, accepts, emits, waits, hp]
  | connect q handle =>
    simp only [step, accepts, emits, markConnected, List.count_nil]
    split
    · simp
    · next hwaits =>
      by_cases hp : p = q
      · subst hp
        have hin : w.waiting.contains p = true := by
          cases h : w.waiting.contains p <;> simp_all
        simp [waits, hin]
      · simp [waits, hp, Ne.symm hp]
  | forget q => by_cases hp : p = q <;> simp [step, accepts, emits, waits, forget, hp]
  | look l => simpa [step, accepts, emits, Act.adds] using w.count_timedOut_pass now l.glance p
  | shutdown =>
    simp only [step, accepts, emits, shutdown]
    split <;> simp [waits]

/-- **A peer is in no more ways than before**, and no report is made of it besides, unless it is
added. -/
theorem ways_step (w : Watchdog H) (p : PeerId) (m : Moment H) :
    (w.step m).ways p + reportsOn p (w.emits m) ≤ w.ways p + (m.act.adds p).toNat := by
  obtain ⟨now, act⟩ := m
  cases act with
  | add q timeout =>
    by_cases hstop : w.stopped = true
    · simp [step, add, hstop, emits, reportsOn]
    · by_cases hp : p = q
      · subst hp
        simp [step, add, hstop, emits, reportsOn, Act.adds, ways]
        omega
      · simp [step, add, hstop, emits, reportsOn, ways, hp]
  | connect q handle =>
    by_cases hp : p = q
    · subst hp
      simp only [step, emits, markConnected, ways]
      split
      · simp [reportsOn]
      · next hwaits =>
        have hin : w.waiting.contains p = true := by
          cases h : w.waiting.contains p <;> simp_all
        simp [reportsOn, hin, Act.adds]
    · have hways := w.ways_markConnected_of_ne hp handle
      simp [step, emits, reportsOn, hways]
  | forget q =>
    simp only [step, emits, ways_forget]
    split <;> simp [reportsOn]
  | look l => simpa [step, emits, Act.adds] using w.ways_pass_le now l.glance p
  | shutdown => simpa [step, emits, reportsOn, Act.adds] using w.ways_shutdown_le p

/-- **In a run the acceptances and the reported deadlines of a peer are paid for** by its being
waiting at the start and by its additions. -/
theorem waits_run (w : Watchdog H) (p : PeerId) (xs : List (Moment H)) :
    (w.run xs).waits p + acceptances p w xs + (w.reports xs).count (.timedOut p)
      ≤ w.waits p + additions p xs := by
  induction xs generalizing w with
  | nil => simp [run, acceptances, reports]
  | cons m rest ih =>
    have hstep := w.waits_step p m
    have hrest := ih (w.step m)
    have hadd : additions p (m :: rest) = additions p rest + (m.act.adds p).toNat := by
      rw [additions, List.countP_cons]
      cases m.act.adds p <;> rfl
    rw [hadd, acceptances, reports, List.count_append]
    show ((w.step m).run rest).waits p + _ + _ ≤ _
    omega

/-- **In a run the reports on a peer are paid for** by the ways it is watched in at the start and
by its additions. -/
theorem ways_run (w : Watchdog H) (p : PeerId) (xs : List (Moment H)) :
    (w.run xs).ways p + reportsOn p (w.reports xs) ≤ w.ways p + additions p xs := by
  induction xs generalizing w with
  | nil => simp [run, reports, reportsOn]
  | cons m rest ih =>
    have hstep := w.ways_step p m
    have hrest := ih (w.step m)
    have hadd : additions p (m :: rest) = additions p rest + (m.act.adds p).toNat := by
      rw [additions, List.countP_cons]
      cases m.act.adds p <;> rfl
    rw [hadd, reports, reportsOn_append]
    show ((w.step m).run rest).ways p + _ ≤ _
    omega

/-- One more moment may report something more. -/
theorem reported_snoc (xs : List (Moment H)) (m : Moment H) :
    reported (xs ++ [m]) = reported xs ++ (after xs).emits m := by
  rw [reported, reports_append]
  simp [reports, reported, after]

/-- **In a run from the start** a peer that is added once is watched in one way at most, and not at
all once it has been reported. -/
theorem ways_after (p : PeerId) (xs : List (Moment H)) :
    (after xs).ways p + reportsOn p (reported xs) ≤ additions p xs := by
  have hrun := ways_run ({} : Watchdog H) p xs
  have hstart : ({} : Watchdog H).ways p = 0 := rfl
  rw [hstart, Nat.zero_add] at hrun
  exact hrun

/-- **In a run from the start** a peer that is added once is accepted once at most, and not at all
once its deadline has been reported. -/
theorem waits_after (p : PeerId) (xs : List (Moment H)) :
    (after xs).waits p + accepted p xs + (reported xs).count (.timedOut p)
      ≤ additions p xs := by
  have hrun := waits_run ({} : Watchdog H) p xs
  have hstart : ({} : Watchdog H).waits p = 0 := rfl
  rw [hstart, Nat.zero_add] at hrun
  exact hrun

/-! ## 3. A watchdog that has stopped -/

/-- **One that has stopped watches nobody.** -/
structure Idle (w : Watchdog H) : Prop where
  waiting : w.waiting = Table.empty
  connected : w.connected = Table.empty

omit [Watched H] in
/-- To forget a peer that is not watched does nothing. -/
theorem forget_of_unwatched {w : Watchdog H} {p : PeerId} (hwaiting : w.waiting.get? p = none)
    (hconnected : w.connected.get? p = none) : w.forget p = w := by
  rw [forget, Table.erase_of_none hwaiting, Table.erase_of_none hconnected]

omit [Watched H] in
/-- Where nobody is watched, that is every peer. -/
theorem forget_of_idle {w : Watchdog H} (hidle : w.Idle) (p : PeerId) : w.forget p = w :=
  forget_of_unwatched (by simp [hidle.waiting]) (by simp [hidle.connected])

/-- A stopped watchdog stays as it is, whatever happens. -/
theorem step_of_stopped {w : Watchdog H} (hstop : w.stopped = true) (hidle : w.Idle)
    (m : Moment H) : w.step m = w := by
  obtain ⟨now, act⟩ := m
  cases act with
  | add q timeout => simp [step, add, hstop]
  | connect q handle => simp [step, markConnected, hstop]
  | forget q => exact forget_of_idle hidle q
  | look l => simp [step, pass, hstop]
  | shutdown => simp [step, shutdown, hstop]

/-- Only a shutdown stops a watchdog, and leaves nobody watched. -/
theorem idle_step {w : Watchdog H} (hw : w.stopped = true → w.Idle) (m : Moment H) :
    (w.step m).stopped = true → (w.step m).Idle := by
  cases hstop : w.stopped with
  | true =>
    rw [step_of_stopped hstop (hw hstop)]
    exact fun _ => hw hstop
  | false =>
    obtain ⟨now, act⟩ := m
    cases act with
    | add q timeout => simp [step, add, hstop]
    | connect q handle => simp [step, hstop]
    | forget q => simp [step, forget, hstop]
    | look l => simp [step, hstop]
    | shutdown =>
      intro _
      simp only [step, shutdown, hstop]
      exact ⟨rfl, rfl⟩

/-- If one that has stopped watches nobody at the start of a run, so does it at the end. -/
theorem idle_run {w : Watchdog H} (hw : w.stopped = true → w.Idle) (xs : List (Moment H)) :
    (w.run xs).stopped = true → (w.run xs).Idle := by
  induction xs using List.reverseRecOn with
  | nil => exact hw
  | append_singleton rest m ih =>
    rw [run_append]
    exact idle_step ih m

/-- A watchdog that has stopped in a run from the start watches nobody. -/
theorem idle_after (xs : List (Moment H)) : (after xs).stopped = true → (after xs).Idle :=
  idle_run (fun h => absurd h Bool.false_ne_true) xs

/-- **A shutdown is for good.** -/
theorem stopped_after {xs : List (Moment H)} (h : ∃ s ∈ xs, s.act = .shutdown) :
    (after xs).stopped = true := by
  induction xs using List.reverseRecOn with
  | nil => simp at h
  | append_singleton rest m ih =>
    rw [after_snoc]
    obtain ⟨s, hs, hact⟩ := h
    rcases List.mem_append.1 hs with hs | hs
    · have hstop := ih ⟨s, hs, hact⟩
      rw [step_of_stopped hstop (idle_after rest hstop)]
      exact hstop
    · obtain rfl := List.mem_singleton.1 hs
      simp only [step, hact, shutdown]
      split
      · assumption
      · rfl

/-- Nothing is accepted or reported by a watchdog that has stopped. -/
theorem silent_of_stopped {w : Watchdog H} (hstop : w.stopped = true) (p : PeerId)
    (m : Moment H) : w.accepts p m = false ∧ w.emits m = [] := by
  obtain ⟨now, act⟩ := m
  cases act <;> simp [accepts, emits, markConnected, pass, hstop]

/-! ## 4. Where deadlines and processes come from -/

/-- What a moment makes of a process that is watched: a look may have noted something. -/
def aged (p : PeerId) (handle : H) (m : Moment H) : H :=
  match m.act with
  | .look l => (l.glance p handle).handle
  | .add .. | .connect .. | .forget _ | .shutdown => handle

/-- **A process as the looks of a run have left it.** -/
def seen (p : PeerId) (handle : H) (xs : List (Moment H)) : H := xs.foldl (aged p) handle

/-- It keeps its number. -/
@[simp] theorem pid_seen (p : PeerId) (handle : H) (xs : List (Moment H)) :
    Watched.pid (seen p handle xs) = Watched.pid handle := by
  induction xs using List.reverseRecOn with
  | nil => rfl
  | append_singleton rest m ih =>
    have haged : Watched.pid (aged p (seen p handle rest) m)
        = Watched.pid (seen p handle rest) := by
      unfold aged
      split
      · next l _ => exact l.pid_glance _ _
      all_goals rfl
    rw [seen, List.foldl_append]
    exact haged.trans ih

/-- **A deadline that is waited for was waited for before**, or the peer is added now. -/
theorem waiting_step {w : Watchdog H} {m : Moment H} {p : PeerId} {deadline : Nat}
    (h : (w.step m).waiting.get? p = some deadline) :
    w.waiting.get? p = some deadline ∨
      ∃ timeout, m.act = .add p timeout ∧ m.now + timeout = deadline := by
  obtain ⟨now, act⟩ := m
  cases act with
  | add q timeout =>
    by_cases hstop : w.stopped = true
    · exact .inl (by simpa [step, add, hstop] using h)
    · by_cases hp : p = q
      · subst hp
        exact .inr ⟨timeout, rfl, by simpa [step, add, hstop] using h⟩
      · exact .inl (by simpa [step, add, hstop, hp] using h)
  | connect q handle =>
    simp only [step, markConnected] at h
    split at h
    · exact .inl h
    · simp only [Table.get?_erase] at h
      split at h
      · cases h
      · exact .inl h
  | forget q =>
    simp only [step, forget, Table.get?_erase] at h
    split at h
    · cases h
    · exact .inl h
  | look l =>
    simp only [step, pass] at h
    split at h
    · exact .inl h
    · rw [Table.get?_filter, Option.filter_eq_some_iff] at h
      exact .inl h.1
  | shutdown =>
    simp only [step, shutdown] at h
    split at h
    · exact .inl h
    · cases h

/-- **A process that is watched was watched before**, or its client is accepted now. -/
theorem connected_step {w : Watchdog H} (hw : w.stopped = true → w.Idle) {m : Moment H}
    {p : PeerId} {handle : H} (h : (w.step m).connected.get? p = some handle) :
    (∃ old, w.connected.get? p = some old ∧ aged p old m = handle) ∨
      (m.act = .connect p handle ∧ w.accepts p m = true) := by
  obtain ⟨now, act⟩ := m
  cases act with
  | add q timeout =>
    refine .inl ⟨handle, ?_, rfl⟩
    by_cases hstop : w.stopped = true <;> simpa [step, add, hstop] using h
  | connect q new =>
    simp only [step, markConnected] at h
    split at h
    · exact .inl ⟨handle, h, rfl⟩
    · next hwaits =>
      simp only [Table.get?_insert] at h
      split at h
      · next hp =>
        subst hp
        obtain rfl := Option.some.inj h
        exact .inr ⟨rfl, by simp [accepts, markConnected, hwaits]⟩
      · exact .inl ⟨handle, h, rfl⟩
  | forget q =>
    simp only [step, forget, Table.get?_erase] at h
    split at h
    · cases h
    · exact .inl ⟨handle, h, rfl⟩
  | look l =>
    cases hstop : w.stopped with
    | true =>
      rw [step_of_stopped hstop (hw hstop), (hw hstop).connected] at h
      cases h
    | false =>
      simp only [step, pass, hstop, Bool.false_eq_true, if_false, Table.get?_map,
        Table.get?_filter, Option.map_eq_some_iff, Option.filter_eq_some_iff] at h
      obtain ⟨_, ⟨⟨old, hold, rfl⟩, -⟩, rfl⟩ := h
      exact .inl ⟨old, hold, rfl⟩
  | shutdown =>
    simp only [step, shutdown] at h
    split at h
    · exact .inl ⟨handle, h, rfl⟩
    · cases h

/-- A deadline that a run did not begin with was counted from an addition. -/
theorem waiting_run {w : Watchdog H} {xs : List (Moment H)} {p : PeerId} {deadline : Nat}
    (h : (w.run xs).waiting.get? p = some deadline) :
    w.waiting.get? p = some deadline ∨
      ∃ a ∈ xs, ∃ timeout, a.act = .add p timeout ∧ a.now + timeout = deadline := by
  induction xs using List.reverseRecOn with
  | nil => exact .inl h
  | append_singleton rest m ih =>
    rw [run_append] at h
    rcases waiting_step h with hold | ⟨timeout, hact, htime⟩
    · rcases ih hold with hstart | ⟨a, ha, hrest⟩
      · exact .inl hstart
      · exact .inr ⟨a, List.mem_append_left _ ha, hrest⟩
    · exact .inr ⟨m, List.mem_append_right _ (List.mem_singleton_self m), timeout, hact, htime⟩

/-- **A process that is watched is one that was accepted**, as the looks since have left it. -/
theorem handle_of_connected {xs : List (Moment H)} {p : PeerId} {handle : H}
    (h : (after xs).connected.get? p = some handle) :
    ∃ earlier a later first, xs = earlier ++ a :: later ∧ a.act = .connect p first ∧
      (after earlier).accepts p a = true ∧ handle = seen p first later := by
  induction xs using List.reverseRecOn generalizing handle with
  | nil => cases h
  | append_singleton rest m ih =>
    rw [after_snoc] at h
    rcases connected_step (idle_after rest) h with ⟨old, hold, rfl⟩ | ⟨hact, hacc⟩
    · obtain ⟨earlier, a, later, first, rfl, hact, hacc, rfl⟩ := ih hold
      refine ⟨earlier, a, later ++ [m], first, by simp, hact, hacc, ?_⟩
      simp [seen]
    · exact ⟨rest, m, [], handle, rfl, hact, hacc, rfl⟩

/-- A process that is watched after a run without acceptances was watched at its start. -/
theorem connected_run {w : Watchdog H} (hw : w.stopped = true → w.Idle) {xs : List (Moment H)}
    {p : PeerId} {handle : H} (hacc : acceptances p w xs = 0)
    (h : (w.run xs).connected.get? p = some handle) :
    ∃ first, w.connected.get? p = some first ∧ handle = seen p first xs := by
  induction xs using List.reverseRecOn generalizing handle with
  | nil => exact ⟨handle, h, rfl⟩
  | append_singleton rest m ih =>
    rw [acceptances_append] at hacc
    rw [run_append] at h
    rcases connected_step (idle_run hw rest) h with ⟨old, hold, rfl⟩ | ⟨-, hnow⟩
    · obtain ⟨first, hfirst, rfl⟩ := ih (by omega) hold
      exact ⟨first, hfirst, by simp [seen]⟩
    · simp [acceptances, hnow] at hacc

/-! ## 5. What a look reports -/

/-- **A deadline is reported by the look that finds it past.** -/
theorem mem_emits_timedOut {w : Watchdog H} {m : Moment H} {p : PeerId} :
    .timedOut p ∈ w.emits m ↔ ∃ l, m.act = .look l ∧ w.stopped = false ∧
      ∃ deadline, w.waiting.get? p = some deadline ∧ deadline ≤ m.now := by
  obtain ⟨now, act⟩ := m
  cases act with
  | look l =>
    cases hstop : w.stopped with
    | true => simp [emits, pass, hstop]
    | false =>
      simp [emits, pass, hstop, timeouts, exits, Table.mem_keys_iff, Table.contains,
        Option.any_eq_true]
  | add | connect | forget | shutdown => simp [emits]

/-- **The end of a process is reported by the look that finds it.** -/
theorem mem_emits_exited {w : Watchdog H} {m : Moment H} {p : PeerId} {pid : UInt32} :
    .exited p pid ∈ w.emits m ↔ ∃ l, m.act = .look l ∧ w.stopped = false ∧
      ∃ handle, w.connected.get? p = some handle ∧ (l.glance p handle).ended = true ∧
        Watched.pid handle = pid := by
  obtain ⟨now, act⟩ := m
  cases act with
  | look l =>
    cases hstop : w.stopped with
    | true => simp [emits, pass, hstop]
    | false =>
      simp [emits, pass, hstop, timeouts, exits, Table.mem_entries_iff,
        Option.filter_eq_some_iff, l.pid_glance, and_assoc]
  | add | connect | forget | shutdown => simp [emits]

/-! ## 6. One life -/

/-- A peer is forgotten after it has been added. -/
def Forgotten (p : PeerId) (xs : List (Moment H)) : Prop :=
  ∃ earlier f later, xs = earlier ++ f :: later ∧ f.act = .forget p ∧ additions p earlier ≠ 0

/-- The watchdog is told to stop. -/
def ShutDown (xs : List (Moment H)) : Prop := ∃ s ∈ xs, s.act = .shutdown

/-- **What a moment may report of a peer, and what it must**, after the moments before it. -/
structure Reporting (p : PeerId) (before : List (Moment H)) (m : Moment H) : Prop where
  /-- A deadline is reported by a look only, when the time since the peer was added is up, and
  only of a peer whose client has not been accepted. -/
  timedOut : .timedOut p ∈ (after before).emits m →
    (∃ l, m.act = .look l) ∧ accepted p before = 0 ∧
      ∃ a ∈ before, ∃ timeout, a.act = .add p timeout ∧ a.now + timeout ≤ m.now
  /-- A look at that time or later that finds the peer waiting reports it and removes it. -/
  due : ∀ l, ∀ a ∈ before, ∀ timeout, m.act = .look l → a.act = .add p timeout →
    a.now + timeout ≤ m.now → (after before).state? p = some .waiting →
    .timedOut p ∈ (after before).emits m ∧ (after (before ++ [m])).state? p = none
  /-- An end is reported by a look only, of the process whose client was accepted and which has
  ended by then. -/
  exited : ∀ pid, .exited p pid ∈ (after before).emits m →
    ∃ l earlier a later handle, m.act = .look l ∧ before = earlier ++ a :: later ∧
      a.act = .connect p handle ∧ (after earlier).accepts p a = true ∧
      Watched.pid handle = pid ∧ (l.glance p (seen p handle later)).ended = true
  /-- A look that finds the peer connected and its process ended reports it and removes it. -/
  gone : ∀ l earlier a later handle, m.act = .look l → before = earlier ++ a :: later →
    a.act = .connect p handle → (after earlier).accepts p a = true →
    (after before).state? p = some .connected →
    (l.glance p (seen p handle later)).ended = true →
    .exited p (Watched.pid handle) ∈ (after before).emits m ∧
      (after (before ++ [m])).state? p = none

/-- **How a peer gets from one state to the next.** -/
structure Tracking (p : PeerId) (before : List (Moment H)) (m : Moment H) : Prop where
  added : ∀ timeout, m.act = .add p timeout → (after before).stopped = false →
    (after (before ++ [m])).state? p = some .waiting
  /-- A peer that waits goes on waiting until one of four things happens. -/
  waiting : (after before).state? p = some .waiting →
    (after (before ++ [m])).state? p = some .waiting ∨ (after before).accepts p m = true ∨
      .timedOut p ∈ (after before).emits m ∨ m.act = .forget p ∨ m.act = .shutdown
  /-- A client is accepted exactly when its peer is waiting. -/
  accepted : ∀ handle, m.act = .connect p handle →
    ((after before).accepts p m = true ↔ (after before).state? p = some .waiting)
  connects : (after before).accepts p m = true →
    (after (before ++ [m])).state? p = some .connected
  /-- A peer that is connected stays so until one of three things happens. -/
  connected : (after before).state? p = some .connected →
    (after (before ++ [m])).state? p = some .connected ∨
      (∃ pid, .exited p pid ∈ (after before).emits m) ∨ m.act = .forget p ∨ m.act = .shutdown
  forgotten : m.act = .forget p → (after (before ++ [m])).state? p = none

/-- **What cannot happen to a peer any more.** -/
structure Over (p : PeerId) (before : List (Moment H)) (m : Moment H) : Prop where
  /-- A client comes too late after the deadline was reported, after its peer was forgotten and
  after the watchdog has stopped. -/
  late : .timedOut p ∈ reported before ∨ Forgotten p before ∨ ShutDown before →
    (after before).accepts p m = false
  /-- Nothing is reported of a peer that was forgotten. -/
  silent : Forgotten p before → ∀ r ∈ (after before).emits m, r.peer ≠ p
  /-- A peer that is forgotten before it is added may be added as if it had not been. -/
  early : additions p before = 0 → m.act = .forget p → after (before ++ [m]) = after before

/-- **What a watchdog does that has stopped**: nothing. -/
structure Stopped (before : List (Moment H)) (m : Moment H) : Prop where
  nobody : (after before).peers = [] ∧ ∀ p, (after before).state? p = none
  refuses : ∀ p deadline, (after before).add p deadline = .error .watchdogStopped
  tooLate : ∀ p handle, (after before).markConnected p handle = (false, after before)
  silent : (after before).emits m = []
  unchanged : after (before ++ [m]) = after before
  again : (after before).shutdown = ([], after before)

/-- **One life under the watchdog**, through all the moments of a run. -/
structure LifeCycle (p : PeerId) (xs : List (Moment H)) : Prop where
  reportedOnce : reportsOn p (reported xs) ≤ 1
  acceptedOnce : accepted p xs ≤ 1
  reporting : ∀ before m later, xs = before ++ m :: later → Reporting p before m
  tracking : ∀ before m later, xs = before ++ m :: later → Tracking p before m
  past : ∀ before m later, xs = before ++ m :: later → Over p before m
  stopped : ∀ before m later, xs = before ++ m :: later → ShutDown before → Stopped before m

/-- Of the moments of a run only one can add a peer that is added once. -/
theorem eq_of_adds {p : PeerId} {xs : List (Moment H)} (hadds : additions p xs ≤ 1)
    {a b : Moment H} (ha : a ∈ xs) (hb : b ∈ xs) (hpa : a.act.adds p = true)
    (hpb : b.act.adds p = true) : a = b := by
  have hina : a ∈ xs.filter (·.act.adds p) := List.mem_filter.2 ⟨ha, hpa⟩
  have hinb : b ∈ xs.filter (·.act.adds p) := List.mem_filter.2 ⟨hb, hpb⟩
  rw [additions, List.countP_eq_length_filter] at hadds
  obtain ⟨i, hi, rfl⟩ := List.getElem_of_mem hina
  obtain ⟨j, hj, rfl⟩ := List.getElem_of_mem hinb
  have hij : i = j := by omega
  subst hij
  rfl

/-- Whoever is watched is watched by a watchdog that runs. -/
theorem running_of_watched {p : PeerId} {xs : List (Moment H)} (h : (after xs).ways p ≠ 0) :
    (after xs).stopped = false := by
  cases hstop : (after xs).stopped with
  | false => rfl
  | true =>
    have hidle := idle_after xs hstop
    exact absurd (by simp [ways, hidle.waiting, hidle.connected]) h

/-- So is a peer that waits, -/
theorem running_of_waiting {p : PeerId} {xs : List (Moment H)}
    (h : (after xs).waiting.contains p = true) : (after xs).stopped = false :=
  running_of_watched (p := p) (by simp [ways, h])

/-- and one that is connected. -/
theorem running_of_connected {p : PeerId} {xs : List (Moment H)}
    (h : (after xs).connected.contains p = true) : (after xs).stopped = false :=
  running_of_watched (p := p) (by simp [ways, h])

/-- A peer that is reported is not watched any more. -/
theorem state?_of_emits {p : PeerId} {before : List (Moment H)} {m : Moment H}
    (hadds : additions p (before ++ [m]) ≤ 1) {r : WatchdogEvent}
    (hr : r ∈ (after before).emits m) (hp : r.peer = p) :
    (after (before ++ [m])).state? p = none := by
  have hways := ways_after p (before ++ [m])
  have hone : reportsOn p ((after before).emits m) ≠ 0 :=
    fun h => reportsOn_eq_zero_iff.1 h r hr hp
  rw [reported_snoc, reportsOn_append] at hways
  rw [state?_eq_none_iff]
  omega

/-- The deadline of a peer that is added once is the one of its addition. -/
theorem deadline_eq {p : PeerId} {xs : List (Moment H)} (hadds : additions p xs ≤ 1)
    {a : Moment H} (ha : a ∈ xs) {timeout : Nat} (hact : a.act = .add p timeout)
    {deadline : Nat} (hget : (after xs).waiting.get? p = some deadline) :
    deadline = a.now + timeout := by
  rcases waiting_run hget with hstart | ⟨b, hb, timeout', hact', rfl⟩
  · cases hstart
  · obtain rfl := eq_of_adds hadds ha hb (by simp [Act.adds, hact]) (by simp [Act.adds, hact'])
    rw [hact] at hact'
    cases hact'
    rfl

/-- What acceptance does to the watchdog. -/
theorem step_of_accepts {w : Watchdog H} {p : PeerId} {m : Moment H}
    (h : w.accepts p m = true) :
    w.waiting.contains p = true ∧ ∃ handle, m.act = .connect p handle ∧
      w.step m = { w with
        waiting := w.waiting.erase p, connected := w.connected.insert p handle } := by
  obtain ⟨now, act⟩ := m
  cases act with
  | connect q handle =>
    simp only [accepts, Bool.and_eq_true, decide_eq_true_eq] at h
    obtain ⟨rfl, h⟩ := h
    unfold markConnected at h
    split at h
    · cases h
    · next hwaits =>
      refine ⟨?_, handle, rfl, by simp [step, markConnected, hwaits]⟩
      cases hin : w.waiting.contains q <;> simp_all
  | add | forget | look | shutdown => cases h

/-- The process of a peer that is added once is the one whose client was accepted. -/
theorem process_eq {p : PeerId} {earlier later : List (Moment H)} {a : Moment H}
    (hadds : additions p (earlier ++ a :: later) ≤ 1) {handle : H}
    (hact : a.act = .connect p handle) (hacc : (after earlier).accepts p a = true) {now : H}
    (hget : (after (earlier ++ a :: later)).connected.get? p = some now) :
    now = seen p handle later := by
  obtain ⟨-, first, hfirst, hstep⟩ := step_of_accepts hacc
  obtain rfl : first = handle := by
    rw [hact] at hfirst
    cases hfirst
    rfl
  have hnone : acceptances p ((after earlier).step a) later = 0 := by
    have hwaits := waits_after p (earlier ++ a :: later)
    have hone : ((after earlier).accepts p a).toNat = 1 := by rw [hacc]; rfl
    rw [accepted, acceptances_append, acceptances] at hwaits
    change _ + (_ + (((after earlier).accepts p a).toNat
      + acceptances p ((after earlier).step a) later)) + _ ≤ _ at hwaits
    omega
  have hrun : after (earlier ++ a :: later) = ((after earlier).step a).run later :=
    run_append {} earlier (a :: later)
  rw [hrun] at hget
  obtain ⟨start, hstart, rfl⟩ := connected_run (idle_step (idle_after earlier) a) hnone hget
  rw [hstep, Table.get?_insert, if_pos rfl] at hstart
  rw [Option.some.inj hstart]

/-- **What is reported at a moment**, of a peer that is added once. -/
theorem reporting {p : PeerId} {before : List (Moment H)} {m : Moment H}
    (hadds : additions p (before ++ [m]) ≤ 1) : Reporting p before m := by
  have hbefore : additions p before ≤ 1 := by
    rw [additions_append] at hadds
    omega
  constructor
  case timedOut =>
    intro hr
    obtain ⟨l, hl, -, deadline, hget, hdue⟩ := mem_emits_timedOut.1 hr
    refine ⟨⟨l, hl⟩, ?_, ?_⟩
    · have hwaits := waits_after p before
      have hone : (after before).waits p = 1 := by simp [waits, Table.contains, hget]
      omega
    · rcases waiting_run hget with hstart | ⟨a, ha, timeout, hact, htime⟩
      · cases hstart
      · exact ⟨a, ha, timeout, hact, htime ▸ hdue⟩
  case due =>
    intro l a ha timeout hl hact hdue hstate
    have hin := state?_eq_waiting_iff.1 hstate
    have hrun := running_of_waiting hin
    obtain ⟨deadline, hget⟩ := Option.isSome_iff_exists.1 hin
    obtain rfl := deadline_eq hbefore ha hact hget
    have hr := mem_emits_timedOut.2 ⟨l, hl, hrun, _, hget, hdue⟩
    exact ⟨hr, state?_of_emits hadds hr rfl⟩
  case exited =>
    intro pid hr
    obtain ⟨l, hl, -, handle, hget, hended, hpid⟩ := mem_emits_exited.1 hr
    obtain ⟨earlier, a, later, first, hsplit, hact, hacc, rfl⟩ := handle_of_connected hget
    rw [pid_seen] at hpid
    exact ⟨l, earlier, a, later, first, hl, hsplit, hact, hacc, hpid, hended⟩
  case gone =>
    intro l earlier a later handle hl hsplit hact hacc hstate hended
    obtain ⟨-, hin⟩ := state?_eq_connected_iff.1 hstate
    have hrun := running_of_connected hin
    obtain ⟨now, hget⟩ := Option.isSome_iff_exists.1 hin
    subst hsplit
    obtain rfl := process_eq hbefore hact hacc hget
    have hr := mem_emits_exited.2 ⟨l, hl, hrun, _, hget, hended, rfl⟩
    rw [pid_seen] at hr
    exact ⟨hr, state?_of_emits hadds hr rfl⟩

/-- **A peer changes its state in these ways only**, if it is added once. -/
theorem tracking {p : PeerId} {before : List (Moment H)} {m : Moment H}
    (hadds : additions p (before ++ [m]) ≤ 1) : Tracking p before m := by
  obtain ⟨now, act⟩ := m
  constructor
  case added =>
    rintro timeout rfl hrun
    rw [after_snoc, state?_eq_waiting_iff]
    simp [step, add, hrun]
  case waiting =>
    intro hstate
    have hin := state?_eq_waiting_iff.1 hstate
    have hrun := running_of_waiting hin
    rw [after_snoc, state?_eq_waiting_iff]
    cases act with
    | add q timeout =>
      exact .inl (by simp [step, add, hrun, hin])
    | connect q handle =>
      by_cases hp : q = p
      · subst hp
        exact .inr (.inl (by simp [accepts, markConnected, hrun, hin]))
      · refine .inl ?_
        simp only [step, markConnected]
        split
        · exact hin
        · simp [hin, Ne.symm hp]
    | forget q =>
      by_cases hp : q = p
      · exact .inr (.inr (.inr (.inl (by rw [hp]))))
      · exact .inl (by simp [step, forget, hin, Ne.symm hp])
    | look l =>
      obtain ⟨deadline, hget⟩ := Option.isSome_iff_exists.1 hin
      by_cases hdue : deadline ≤ now
      · exact .inr (.inr (.inl (mem_emits_timedOut.2 ⟨l, rfl, hrun, deadline, hget, hdue⟩)))
      · exact .inl (by simp [step, pass, hrun, Table.contains, hget, hdue, Option.filter])
    | shutdown => exact .inr (.inr (.inr (.inr rfl)))
  case accepted =>
    rintro handle rfl
    rw [state?_eq_waiting_iff]
    constructor
    · intro hacc
      exact (step_of_accepts hacc).1
    · intro hin
      simp [accepts, markConnected, running_of_waiting hin, hin]
  case connects =>
    intro hacc
    obtain ⟨-, handle, -, hstep⟩ := step_of_accepts hacc
    rw [after_snoc, hstep, state?_eq_connected_iff]
    simp
  case connected =>
    intro hstate
    obtain ⟨hout, hin⟩ := state?_eq_connected_iff.1 hstate
    have hways : (after before).ways p = 1 := by simp [ways, hout, hin]
    have hrun := running_of_connected hin
    rw [after_snoc, state?_eq_connected_iff]
    cases act with
    | add q timeout =>
      by_cases hp : q = p
      · subst hp
        have hpaid := ways_after q before
        have hagain : additions q [(⟨now, .add q timeout⟩ : Moment H)] = 1 := by
          simp [additions, Act.adds]
        rw [additions_append, hagain] at hadds
        omega
      · exact .inl (by simp [step, add, hrun, hout, hin, Ne.symm hp])
    | connect q handle =>
      refine .inl ?_
      by_cases hp : q = p
      · subst hp
        simp [step, markConnected, hout, hin]
      · simp only [step, markConnected]
        split
        · exact ⟨hout, hin⟩
        · simp [hout, hin]
    | forget q =>
      by_cases hp : q = p
      · exact .inr (.inr (.inl (by rw [hp])))
      · exact .inl (by simp [step, forget, hout, hin, Ne.symm hp])
    | look l =>
      obtain ⟨handle, hget⟩ := Option.isSome_iff_exists.1 hin
      cases hended : (l.glance p handle).ended with
      | true =>
        exact .inr (.inl ⟨_, mem_emits_exited.2 ⟨l, rfl, hrun, handle, hget, hended, rfl⟩⟩)
      | false =>
        have hwait := Table.contains_eq_false_iff.1 hout
        exact .inl (by simp [step, pass, hrun, Table.contains, hget, hwait, hended,
          Option.filter])
    | shutdown => exact .inr (.inr (.inr rfl))
  case forgotten =>
    rintro rfl
    rw [after_snoc, state?_eq_none_iff]
    simp [step, ways_forget]

/-- A peer that was forgotten after its addition is neither reported nor accepted any more. -/
theorem over_of_forgotten {p : PeerId} {before : List (Moment H)} {m : Moment H}
    (hadds : additions p (before ++ [m]) ≤ 1) (h : Forgotten p before) :
    reportsOn p ((after before).emits m) = 0 ∧ (after before).accepts p m = false := by
  obtain ⟨earlier, f, later, rfl, hact, hadded⟩ := h
  have hnone : additions p (later ++ [m]) = 0 := by
    have hsum : additions p (earlier ++ f :: later ++ [m])
        = additions p earlier + (additions p [f] + additions p (later ++ [m])) := by
      rw [← additions_append, ← additions_append]
      simp
    omega
  have hleft : (after (earlier ++ f :: later)) = ((after earlier).step f).run later :=
    run_append {} earlier (f :: later)
  have hways : ((after earlier).step f).ways p = 0 := by simp [step, hact, ways_forget]
  have hwaits : ((after earlier).step f).waits p = 0 := by simp [step, hact, forget, waits]
  have hreports := ways_run ((after earlier).step f) p (later ++ [m])
  have haccepts := waits_run ((after earlier).step f) p (later ++ [m])
  rw [reports_append, reportsOn_append, ← hleft] at hreports
  rw [acceptances_append, ← hleft] at haccepts
  simp only [reports, List.append_nil] at hreports
  simp only [acceptances, Nat.add_zero] at haccepts
  refine ⟨by omega, ?_⟩
  cases hacc : (after (earlier ++ f :: later)).accepts p m with
  | false => rfl
  | true =>
    rw [hacc] at haccepts
    simp only [Bool.toNat_true] at haccepts
    omega

/-- **What cannot happen to a peer any more**, if it is added once. -/
theorem over_of_addedOnce {p : PeerId} {before : List (Moment H)} {m : Moment H}
    (hadds : additions p (before ++ [m]) ≤ 1) : Over p before m := by
  constructor
  case late =>
    rintro (hr | hforgotten | hshut)
    · have hwaits := waits_after p before
      have hone : (reported before).count (.timedOut p) ≠ 0 := by
        rw [Ne, List.count_eq_zero, not_not]
        exact hr
      rw [additions_append] at hadds
      cases hacc : (after before).accepts p m with
      | false => rfl
      | true =>
        have hin := (step_of_accepts hacc).1
        simp only [waits, hin, Bool.toNat_true] at hwaits
        omega
    · exact (over_of_forgotten hadds hforgotten).2
    · exact (silent_of_stopped (stopped_after hshut) p m).1
  case silent =>
    intro hforgotten
    exact reportsOn_eq_zero_iff.1 (over_of_forgotten hadds hforgotten).1
  case early =>
    intro hnone hact
    have hways := ways_after p before
    have hout : (after before).waiting.get? p = none ∧ (after before).connected.get? p = none := by
      rw [← Table.contains_eq_false_iff, ← Table.contains_eq_false_iff]
      rw [← Bool.toNat_eq_zero, ← Bool.toNat_eq_zero]
      unfold ways at hways
      omega
    rw [after_snoc, step, hact]
    exact forget_of_unwatched hout.1 hout.2

/-- **A watchdog that has stopped does nothing.** -/
theorem stopped_of_shutDown {before : List (Moment H)} (h : ShutDown before) (m : Moment H) :
    Stopped before m := by
  have hstop := stopped_after h
  have hidle := idle_after before hstop
  constructor
  case nobody =>
    rw [peers, hidle.waiting, hidle.connected]
    exact ⟨List.mergeSort_nil, fun p => by simp [state?, hidle.waiting, hidle.connected]⟩
  case refuses => simp [add, hstop]
  case tooLate => simp [markConnected, hstop]
  case silent => exact (silent_of_stopped hstop ⟨0⟩ m).2
  case unchanged => rw [after_snoc, step_of_stopped hstop hidle]
  case again => simp [shutdown, hstop]

/-- **The life of a peer that is added at most once**, in every run: whatever happens and at
whatever times. -/
theorem lifeCycle {p : PeerId} {xs : List (Moment H)} (hadds : additions p xs ≤ 1) :
    LifeCycle p xs := by
  have hpart : ∀ {before m later}, xs = before ++ m :: later →
      additions p (before ++ [m]) ≤ 1 := by
    rintro before m later rfl
    have hsum : additions p (before ++ m :: later)
        = additions p (before ++ [m]) + additions p later := by
      rw [← additions_append]
      simp
    omega
  constructor
  case reportedOnce =>
    have hways := ways_after p xs
    omega
  case acceptedOnce =>
    have hwaits := waits_after p xs
    omega
  case reporting =>
    intro before m later h
    exact reporting (hpart h)
  case tracking =>
    intro before m later h
    exact tracking (hpart h)
  case past =>
    intro before m later h
    exact over_of_addedOnce (hpart h)
  case stopped =>
    intro before m later _ hshut
    exact stopped_of_shutDown hshut m

end Watchdog

/-- A look at the processes of the system. -/
def ProcessHandle.look (answers : PeerId → ProcessHandle.Answers) :
    Watchdog.Look ProcessHandle where
  glance p handle := handle.glance (answers p)
  pid_glance _ _ := ProcessHandle.pid_process_poll _ _

namespace Watchdog

/-- A client that connects in time, and whose process is found to be gone later. -/
def visit : List (Moment ProcessHandle) :=
  [⟨0, .add ⟨1⟩ 100⟩, ⟨20, .connect ⟨1⟩ (ProcessHandle.watch 7)⟩,
    ⟨500, .look (ProcessHandle.look fun _ => ⟨.reaped, .noProcess⟩)⟩, ⟨600, .forget ⟨1⟩⟩]

/-- Its peer has one life, which ends with the report. -/
theorem lifeCycle_visit :
    additions ⟨1⟩ visit ≤ 1 ∧ LifeCycle ⟨1⟩ visit ∧ reported visit = [.exited ⟨1⟩ 7] :=
  ⟨by decide, lifeCycle (by decide), by decide⟩

/-- A peer that is forgotten first and added afterwards. -/
def earlyForget : List (Moment ProcessHandle) := [⟨0, .forget ⟨1⟩⟩, ⟨0, .add ⟨1⟩ 100⟩]

/-- A client that connects when it is waited for. -/
def inTime : Moment ProcessHandle := ⟨20, .connect ⟨1⟩ (ProcessHandle.watch 7)⟩

/-- **To forget a peer before it is added does not keep its client out**: what has been forgotten
by then is nothing. -/
theorem accepts_after_early_forget :
    (∀ p, additions p (earlyForget ++ [inTime]) ≤ 1) ∧
      (∃ f ∈ earlyForget, f.act = .forget ⟨1⟩) ∧
      (after earlyForget).accepts ⟨1⟩ inTime = true := by
  refine ⟨fun p => ?_, ⟨_, List.mem_cons_self, rfl⟩, by decide⟩
  by_cases hp : (⟨1⟩ : PeerId) = p <;> simp [additions, earlyForget, inTime, Act.adds, hp]

end Watchdog

end ControlPlane
