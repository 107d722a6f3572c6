/-
# How long the watchdog sleeps

A thread of its own looks at everything that the watchdog watches, and then sleeps: until the next
deadline, no longer than the interval if there is a process to check, and until it is woken if
nobody is watched.  A peer that is added and a client that connects wake it, so it never sleeps on
with an alarm that comes too late:

    look ──> asleep ──alarm, or woken──> look ──> asleep ──> ...
              │  ^
              └──┘ added, connected: the alarm is now;  forgotten: the alarm stays

* `Watchdog.Bound`, `waitTime_least`: the time to sleep is the least of its bounds;
* `Watchdog.Sleeps`, `sleeps_turn`: what a turn leaves, and how long the sleep behind it is;
* `Sleeper`, `Timely`: the thread with its alarm, and the runs in which it does not miss it;
* `Sleeper.Alert`, `Alert.step`, `Alert.run`: the alarm is set for everything that is watched;
* `Watchdog.Consecutive`, `Punctual`, `Sleeper.punctual_of_timely`: from one pass to the next;
* `Watchdog.never_oversleeps`: every turn and every run.

That a wait ends in time and that nobody is woken too late is up to the system, and assumed
(`Timely`).  A thread may wake up earlier, for no reason.  Nothing else is asked of the clock, and
all of it holds in any unit of time.
-/
import ControlPlane.Proofs.LifeCycle

namespace ControlPlane

namespace Watchdog

variable {H : Type}

/-! ## 1. How long a turn lets it sleep -/

/-- **What ends a sleep after some time**: a deadline, or the interval if there is a process to
check. -/
inductive Bound (w : Watchdog H) (now interval : Nat) : Nat → Prop
  | deadline {p : PeerId} {deadline : Nat} (hp : w.waiting.get? p = some deadline) :
      Bound w now interval (deadline - now)
  | poll {p : PeerId} {handle : H} (hp : w.connected.get? p = some handle) :
      Bound w now interval interval

section

variable {w : Watchdog H} {now interval t : Nat}

/-- There is no next deadline when nobody waits. -/
theorem untilDeadline_eq_none_iff : w.untilDeadline now = none ↔ w.waiting = Table.empty := by
  rw [untilDeadline, Option.map_eq_none_iff, List.min?_eq_none_iff, Table.eq_empty_iff,
    List.eq_nil_iff_forall_not_mem]
  constructor
  · exact fun h p deadline hp => h deadline (Table.mem_values_iff.2 ⟨p, hp⟩)
  · intro h deadline hmem
    obtain ⟨p, hp⟩ := Table.mem_values_iff.1 hmem
    exact h p deadline hp

/-- The next deadline is the first of those that are waited for. -/
theorem first_of_untilDeadline (h : w.untilDeadline now = some t) :
    (∃ p deadline, w.waiting.get? p = some deadline ∧ t = deadline - now) ∧
      ∀ p deadline, w.waiting.get? p = some deadline → t ≤ deadline - now := by
  obtain ⟨first, hmin, rfl⟩ := Option.map_eq_some_iff.1 h
  obtain ⟨hmem, hle⟩ := List.min?_eq_some_iff.1 hmin
  obtain ⟨p, hp⟩ := Table.mem_values_iff.1 hmem
  refine ⟨⟨p, first, hp, rfl⟩, ?_⟩
  intro q deadline hq
  exact Nat.sub_le_sub_right (hle deadline (Table.mem_values_iff.2 ⟨q, hq⟩)) now

/-- It sleeps until it is woken exactly when nobody is watched. -/
theorem waitTime_eq_none_iff : w.waitTime now interval = none ↔ w.Idle := by
  have hidle : w.Idle ↔ w.untilDeadline now = none ∧ w.connected.isEmpty = true := by
    rw [untilDeadline_eq_none_iff, Table.isEmpty_iff]
    exact ⟨fun h => ⟨h.waiting, h.connected⟩, fun h => ⟨h.1, h.2⟩⟩
  rw [hidle, waitTime]
  cases w.untilDeadline now <;> cases w.connected.isEmpty <;> simp

/-- **The time to sleep is the least of its bounds.** -/
theorem waitTime_least (h : w.waitTime now interval = some t) :
    w.Bound now interval t ∧ ∀ b, w.Bound now interval b → t ≤ b := by
  have hnobody : w.connected.isEmpty = true → ∀ p handle, w.connected.get? p ≠ some handle :=
    fun hempty => Table.eq_empty_iff.1 (Table.isEmpty_iff.1 hempty)
  unfold waitTime at h
  split at h
  · next u hnext hempty =>
    obtain rfl := Option.some.inj h
    obtain ⟨⟨p, deadline, hp, rfl⟩, hle⟩ := first_of_untilDeadline hnext
    refine ⟨.deadline hp, ?_⟩
    intro b hb
    cases hb with
    | deadline hq => exact hle _ _ hq
    | poll hq => exact absurd hq (hnobody hempty _ _)
  · next u hnext hsome =>
    obtain rfl := Option.some.inj h
    obtain ⟨⟨p, deadline, hp, rfl⟩, hle⟩ := first_of_untilDeadline hnext
    obtain ⟨q, handle, hq⟩ := Table.isEmpty_eq_false_iff.1 hsome
    constructor
    · rcases Nat.le_total (deadline - now) interval with hmin | hmin
      · rw [Nat.min_eq_left hmin]
        exact .deadline hp
      · rw [Nat.min_eq_right hmin]
        exact .poll hq
    · intro b hb
      cases hb with
      | deadline hr => exact Nat.le_trans (Nat.min_le_left _ _) (hle _ _ hr)
      | poll => exact Nat.min_le_right _ _
  · next hnext hsome =>
    obtain rfl := Option.some.inj h
    obtain ⟨q, handle, hq⟩ := Table.isEmpty_eq_false_iff.1 hsome
    have hnone := Table.eq_empty_iff.1 (untilDeadline_eq_none_iff.1 hnext)
    refine ⟨.poll hq, ?_⟩
    intro b hb
    cases hb with
    | deadline hp => exact absurd hp (hnone _ _)
    | poll => exact Nat.le_refl _
  · cases h

end

/-- **The right time to sleep** for a watchdog that has looked at everything. -/
structure Sleeps (w : Watchdog H) (now interval : Nat) (wait : Option Nat) : Prop where
  /-- No deadline that is left has come. -/
  pending : ∀ p deadline, w.waiting.get? p = some deadline → now < deadline
  /-- It sleeps until it is woken exactly when nobody is watched. -/
  unbounded : wait = none ↔ w.Idle
  /-- It does not spin. -/
  positive : 0 < interval → ∀ t, wait = some t → 0 < t
  /-- It does not sleep beyond a deadline, -/
  deadlines : ∀ t, wait = some t → ∀ p deadline, w.waiting.get? p = some deadline →
    now + t ≤ deadline
  /-- nor longer than the interval while a process is connected, -/
  polls : ∀ t, wait = some t → ∀ p handle, w.connected.get? p = some handle → t ≤ interval
  /-- and it does not wake for nothing. -/
  reason : ∀ t, wait = some t →
    (∃ p deadline, w.waiting.get? p = some deadline ∧ now + t = deadline) ∨
      (∃ p handle, w.connected.get? p = some handle) ∧ t = interval

/-- **The time to sleep is the right one** where no deadline has come. -/
theorem sleeps_waitTime {w : Watchdog H} {now : Nat} (interval : Nat)
    (hpending : ∀ p deadline, w.waiting.get? p = some deadline → now < deadline) :
    w.Sleeps now interval (w.waitTime now interval) := by
  constructor
  case pending => exact hpending
  case unbounded => exact waitTime_eq_none_iff
  case positive =>
    intro hpos t ht
    obtain ⟨hbound, -⟩ := waitTime_least ht
    cases hbound with
    | deadline hp => exact Nat.sub_pos_of_lt (hpending _ _ hp)
    | poll => exact hpos
  case deadlines =>
    intro t ht p deadline hp
    have hle := (waitTime_least ht).2 _ (.deadline hp)
    have hlt := hpending p deadline hp
    omega
  case polls =>
    intro t ht p handle hp
    exact (waitTime_least ht).2 _ (.poll hp)
  case reason =>
    intro t ht
    obtain ⟨hbound, -⟩ := waitTime_least ht
    cases hbound with
    | deadline hp => exact .inl ⟨_, _, hp, Nat.add_sub_of_le (Nat.le_of_lt (hpending _ _ hp))⟩
    | poll hp => exact .inr ⟨⟨_, _, hp⟩, rfl⟩

section

variable [Watched H] {w : Watchdog H} {now interval : Nat} {look : PeerId → H → Glance H}

/-- A watchdog that has not stopped looks at everything and sleeps. -/
theorem turn?_of_running (hrun : w.stopped = false) :
    w.turn? now interval look = some ⟨(w.pass now look).1, (w.pass now look).2,
      (w.pass now look).2.waitTime now interval⟩ := by
  simp [turn?, hrun]

/-- A watchdog takes turns until it has stopped. -/
theorem turn?_eq_none_iff : w.turn? now interval look = none ↔ w.stopped = true := by
  unfold turn?
  split <;> simp_all

/-- No deadline that has come is left by a look. -/
theorem pending_pass (hrun : w.stopped = false) {p : PeerId} {deadline : Nat}
    (hp : (w.pass now look).2.waiting.get? p = some deadline) : now < deadline := by
  simp only [pass, hrun, Bool.false_eq_true, if_false, Table.get?_filter,
    Option.filter_eq_some_iff] at hp
  simpa using hp.2

/-- **Every turn ends with the right time to sleep.** -/
theorem sleeps_turn {t : Turn H} (h : w.turn? now interval look = some t) :
    t.watchdog.Sleeps now interval t.wait := by
  cases hrun : w.stopped with
  | true =>
    rw [turn?_eq_none_iff.2 hrun] at h
    cases h
  | false =>
    rw [turn?_of_running hrun] at h
    obtain rfl := Option.some.inj h
    refine sleeps_waitTime interval ?_
    intro p deadline hp
    exact pending_pass hrun hp

end

end Watchdog

/-! ## 2. The thread and its alarm -/

/-- **The thread of a watchdog that takes turns**, with the time at which it wakes at the latest;
`none` while it sleeps until it is woken. -/
structure Sleeper (H : Type) where
  watchdog : Watchdog H := {}
  alarm : Option Nat := none

namespace Watchdog

variable {H : Type} [Watched H]

/-- Whether the watchdog looks at everything. -/
def Act.looks : Act H → Bool
  | .look _ => true
  | .add .. | .connect .. | .forget _ | .shutdown => false

/-- Whether the thread is woken: by a peer that is added, a client that is accepted and the stop,
and not by a peer that is forgotten. -/
def wakes (w : Watchdog H) (m : Moment H) : Bool :=
  match m.act with
  | .add .. | .shutdown => !w.stopped
  | .connect p handle => (w.markConnected p handle).1
  | .forget _ | .look _ => false

/-- Whether the watchdog looks while it has not stopped: that is one of its passes. -/
def passes (w : Watchdog H) (m : Moment H) : Bool := m.act.looks && !w.stopped

/-- One that has stopped does not start again, -/
theorem stopped_step {w : Watchdog H} (h : w.stopped = true) (m : Moment H) :
    (w.step m).stopped = true := by
  obtain ⟨now, act⟩ := m
  cases act <;> simp [step, add, markConnected, forget, pass, shutdown, h]

/-- so one that has not stopped in a run was running all the time. -/
theorem running_of_run {w : Watchdog H} {xs : List (Moment H)}
    (h : (w.run xs).stopped = false) : w.stopped = false := by
  induction xs generalizing w with
  | nil => exact h
  | cons m rest ih =>
    have hstep : (w.step m).stopped = false := ih h
    cases hw : w.stopped with
    | false => rfl
    | true =>
      rw [stopped_step hw] at hstep
      cases hstep

end Watchdog

namespace Sleeper

open Watchdog

variable {H : Type} [Watched H]

/-- **The thread after a moment.**  A turn sets the alarm anew, and who wakes it sets it to now. -/
def step (interval : Nat) (s : Sleeper H) (m : Moment H) : Sleeper H where
  watchdog := s.watchdog.step m
  alarm :=
    match m.act with
    | .look l => (s.watchdog.turn? m.now interval l.glance).bind fun t => t.wait.map (m.now + ·)
    | .add .. | .connect .. | .forget _ | .shutdown =>
      if s.watchdog.wakes m then some m.now else s.alarm

/-- The thread after a run. -/
def run (interval : Nat) (s : Sleeper H) (xs : List (Moment H)) : Sleeper H :=
  xs.foldl (step interval) s

/-- **A run in which no sleep lasts too long**: the clock does not go beyond the alarm before the
thread has taken its turn.  So a wait ends in the time it was asked for, or earlier, and whoever
wakes the thread makes it take a turn at once. -/
def Timely (interval : Nat) : Sleeper H → List (Moment H) → Prop
  | _, [] => True
  | s, m :: rest => (∀ a ∈ s.alarm, m.now ≤ a) ∧ Timely interval (s.step interval m) rest

instance decidableTimely (interval : Nat) :
    ∀ (s : Sleeper H) (xs : List (Moment H)), Decidable (s.Timely interval xs)
  | _, [] => .isTrue trivial
  | s, m :: rest =>
    have := decidableTimely interval (s.step interval m) rest
    inferInstanceAs (Decidable (_ ∧ _))

variable {interval : Nat}

/-- The alarm is beside the watchdog, which goes on as without it. -/
theorem watchdog_run (s : Sleeper H) (xs : List (Moment H)) :
    (s.run interval xs).watchdog = s.watchdog.run xs := by
  induction xs generalizing s with
  | nil => rfl
  | cons m rest ih => exact ih (s.step interval m)

/-- Later moments go on from where the earlier ones have led. -/
theorem run_append (s : Sleeper H) (xs ys : List (Moment H)) :
    s.run interval (xs ++ ys) = (s.run interval xs).run interval ys := List.foldl_append

/-- A run is timely when both of its parts are. -/
theorem timely_append {s : Sleeper H} {xs ys : List (Moment H)} :
    s.Timely interval (xs ++ ys) ↔
      s.Timely interval xs ∧ (s.run interval xs).Timely interval ys := by
  induction xs generalizing s with
  | nil => simp [Timely, run]
  | cons m rest ih =>
    rw [List.cons_append, Timely, Timely, ih, and_assoc]
    rfl

/-! ## 3. While it sleeps -/

/-- Who wakes a thread that sleeps sets its alarm to now. -/
theorem alarm_of_wakes {s : Sleeper H} {m : Moment H} (h : s.watchdog.wakes m = true) :
    (s.step interval m).alarm = some m.now := by
  obtain ⟨now, act⟩ := m
  cases act with
  | look => cases h
  | add | connect | forget | shutdown => simp [step, h]

/-- **While it sleeps the alarm comes no later than before**, whatever happens. -/
theorem alarm_step_le {s : Sleeper H} {m : Moment H} (hsleeps : m.act.looks = false) {a : Nat}
    (ha : a ∈ s.alarm) (hm : m.now ≤ a) : ∃ b ∈ (s.step interval m).alarm, b ≤ a := by
  cases hwakes : s.watchdog.wakes m with
  | true => exact ⟨m.now, alarm_of_wakes hwakes, hm⟩
  | false =>
    refine ⟨a, ?_, Nat.le_refl a⟩
    obtain ⟨now, act⟩ := m
    cases act with
    | look => cases hsleeps
    | add | connect | forget | shutdown => simpa [step, hwakes] using ha

/-- **So the alarm is not missed**: the next turn comes no later. -/
theorem now_le_alarm {s : Sleeper H} {xs : List (Moment H)} {last : Moment H}
    (htimely : s.Timely interval (xs ++ [last])) (hsleeps : ∀ m ∈ xs, m.act.looks = false) {a : Nat}
    (ha : a ∈ s.alarm) : last.now ≤ a := by
  induction xs generalizing s a with
  | nil => exact htimely.1 a ha
  | cons m rest ih =>
    obtain ⟨hm, hrest⟩ := htimely
    obtain ⟨b, hb, hle⟩ := alarm_step_le (hsleeps m List.mem_cons_self) ha (hm a ha)
    have hlast := ih hrest (fun x hx => hsleeps x (List.mem_cons_of_mem m hx)) hb
    exact Nat.le_trans hlast hle

/-- **The alarm is set for everything that is watched**, some moments after a turn. -/
structure Alert (interval turn : Nat) (s : Sleeper H) (since : List (Moment H)) : Prop where
  /-- It is not behind a deadline, -/
  deadlines : ∀ p deadline, s.watchdog.waiting.get? p = some deadline →
    ∃ a ∈ s.alarm, a ≤ deadline
  /-- and for a process not behind the interval, or set at once when it has connected since. -/
  polls : ∀ p handle, s.watchdog.connected.get? p = some handle →
    ∃ a ∈ s.alarm, a ≤ turn + interval ∨ ∃ m ∈ since, m.act = .connect p handle ∧ a ≤ m.now

/-- A turn sets the alarm. -/
theorem alert_look {s : Sleeper H} {m : Moment H} (hlooks : m.act.looks = true)
    (hrun : s.watchdog.stopped = false) : Alert interval m.now (s.step interval m) [] := by
  obtain ⟨now, act⟩ := m
  cases act with
  | add | connect | forget | shutdown => cases hlooks
  | look l =>
    have hturn : s.watchdog.turn? now interval l.glance = some ⟨_, _, _⟩ := turn?_of_running hrun
    have hsleeps := sleeps_turn hturn
    have hstep : s.step interval ⟨now, .look l⟩ = ⟨(s.watchdog.pass now l.glance).2,
        ((s.watchdog.pass now l.glance).2.waitTime now interval).map (now + ·)⟩ := by
      simp [step, Watchdog.step, hturn]
    rw [hstep]
    constructor
    case deadlines =>
      intro p deadline hp
      cases hwait : (s.watchdog.pass now l.glance).2.waitTime now interval with
      | none =>
        rw [(hsleeps.unbounded.1 hwait).waiting] at hp
        cases hp
      | some u => exact ⟨now + u, rfl, hsleeps.deadlines u hwait p deadline hp⟩
    case polls =>
      intro p handle hp
      cases hwait : (s.watchdog.pass now l.glance).2.waitTime now interval with
      | none =>
        rw [(hsleeps.unbounded.1 hwait).connected] at hp
        cases hp
      | some u =>
        exact ⟨now + u, rfl, .inl (Nat.add_le_add_left (hsleeps.polls u hwait p handle hp) now)⟩

/-- **What happens while it sleeps leaves the alarm set**: what is watched anew wakes it. -/
theorem Alert.step {turn : Nat} {s : Sleeper H} {since : List (Moment H)}
    (hs : Alert interval turn s since) {m : Moment H} (hsleeps : m.act.looks = false)
    (hrun : s.watchdog.stopped = false) (hm : ∀ a ∈ s.alarm, m.now ≤ a) :
    Alert interval turn (s.step interval m) (since ++ [m]) := by
  constructor
  case deadlines =>
    intro p deadline hp
    rcases waiting_step hp with hold | ⟨timeout, hact, rfl⟩
    · -- the alarm was set for it, and has not moved back
      obtain ⟨a, ha, hle⟩ := hs.deadlines p deadline hold
      obtain ⟨b, hb, hba⟩ := alarm_step_le hsleeps ha (hm a ha)
      exact ⟨b, hb, Nat.le_trans hba hle⟩
    · -- its time begins now
      have hwakes : s.watchdog.wakes m = true := by simp [wakes, hact, hrun]
      exact ⟨m.now, alarm_of_wakes hwakes, Nat.le_add_right _ _⟩
  case polls =>
    intro p handle hp
    have hidle : s.watchdog.stopped = true → s.watchdog.Idle := by
      intro hstop
      rw [hrun] at hstop
      cases hstop
    rcases connected_step hidle hp with ⟨old, hold, haged⟩ | ⟨hact, hacc⟩
    · -- only a look changes what is known of a process
      obtain rfl : old = handle := by
        rw [← haged]
        obtain ⟨now, act⟩ := m
        cases act with
        | look => cases hsleeps
        | add | connect | forget | shutdown => rfl
      obtain ⟨a, ha, hle⟩ := hs.polls p old hold
      obtain ⟨b, hb, hba⟩ := alarm_step_le hsleeps ha (hm a ha)
      refine ⟨b, hb, hle.imp (Nat.le_trans hba) ?_⟩
      rintro ⟨x, hx, hact, hax⟩
      exact ⟨x, List.mem_append_left _ hx, hact, Nat.le_trans hba hax⟩
    · have hwakes : s.watchdog.wakes m = true := by
        simp only [accepts, hact, Bool.and_eq_true] at hacc
        simp only [wakes, hact, hacc.2]
      exact ⟨m.now, alarm_of_wakes hwakes, .inr ⟨m, by simp, hact, Nat.le_refl _⟩⟩

/-- **So does all that happens until the next turn.** -/
theorem Alert.run {turn : Nat} {s : Sleeper H} {since : List (Moment H)}
    (hs : Alert interval turn s since) {xs : List (Moment H)} (htimely : s.Timely interval xs)
    (hsleeps : ∀ m ∈ xs, m.act.looks = false) (hrun : (s.watchdog.run xs).stopped = false) :
    Alert interval turn (s.run interval xs) (since ++ xs) := by
  induction xs generalizing s since with
  | nil =>
    rw [List.append_nil]
    exact hs
  | cons m rest ih =>
    obtain ⟨hm, hrest⟩ := htimely
    have hnow := hs.step (hsleeps m List.mem_cons_self) (running_of_run hrun) hm
    have hlast := ih hnow hrest (fun x hx => hsleeps x (List.mem_cons_of_mem m hx)) hrun
    rwa [List.append_assoc] at hlast

end Sleeper

/-! ## 4. From one pass to the next -/

namespace Watchdog

variable {H : Type} [Watched H]

/-- **Two passes in a row** in a run, with all that happens between them. -/
structure Consecutive (w : Watchdog H) (xs earlier : List (Moment H)) (first : Moment H)
    (between : List (Moment H)) (last : Moment H) : Prop where
  occur : earlier ++ first :: (between ++ [last]) <+: xs
  opens : (w.run earlier).passes first = true
  asleep : ∀ m ∈ between, m.act.looks = false
  closes : (w.run (earlier ++ first :: between)).passes last = true

/-- **A pass that comes in time** after the one before it. -/
structure Punctual (w : Watchdog H) (interval : Nat) (earlier : List (Moment H)) (first : Moment H)
    (between : List (Moment H)) (last : Moment H) : Prop where
  /-- No deadline that is waited for on the way comes before it, -/
  deadlines : ∀ before, before <+: between → ∀ p deadline,
    (w.run (earlier ++ first :: before)).waiting.get? p = some deadline → last.now ≤ deadline
  /-- so a deadline is reported when it comes. -/
  onTime : ∀ p, .timedOut p ∈ (w.run (earlier ++ first :: between)).emits last ↔
    (w.run (earlier ++ first :: between)).waiting.get? p = some last.now
  /-- While a process is connected it comes within the interval, and at once if the process has
  connected on the way. -/
  polls : ∀ before, before <+: between → ∀ p handle,
    (w.run (earlier ++ first :: before)).connected.get? p = some handle →
      last.now ≤ first.now + interval ∨
        ∃ m ∈ before, m.act = .connect p handle ∧ last.now ≤ m.now

end Watchdog

namespace Sleeper

open Watchdog

variable {H : Type} [Watched H] {interval : Nat}

/-- **Between two passes of a timely run the alarm is set**, and the second one is still to come by
then. -/
theorem alert_between {s : Sleeper H} {xs earlier before after : List (Moment H)}
    {first last : Moment H} (htimely : s.Timely interval xs)
    (h : s.watchdog.Consecutive xs earlier first (before ++ after) last) :
    Alert interval first.now (s.run interval (earlier ++ first :: before)) before ∧
      (s.run interval (earlier ++ first :: before)).Timely interval (after ++ [last]) := by
  obtain ⟨later, rfl⟩ := h.occur
  have hopens := h.opens
  have hcloses := h.closes
  simp only [passes, Bool.and_eq_true, Bool.not_eq_true'] at hopens hcloses
  -- the run is cut at the first pass, and where `before` ends
  obtain ⟨-, -, hrest⟩ := timely_append.1 (timely_append.1 htimely).1
  rw [List.append_assoc] at hrest
  obtain ⟨hbefore, hafter⟩ := timely_append.1 hrest
  have hstart : Alert interval first.now ((s.run interval earlier).step interval first) [] :=
    alert_look hopens.1 (by rw [watchdog_run]; exact hopens.2)
  have hrun : s.run interval (earlier ++ first :: before)
      = ((s.run interval earlier).step interval first).run interval before := run_append _ _ _
  have hrunning : (((s.run interval earlier).step interval first).watchdog.run before).stopped
      = false := by
    rw [← watchdog_run, ← hrun, watchdog_run]
    have hend : ((s.watchdog.run (earlier ++ first :: before)).run after).stopped = false := by
      rw [← Watchdog.run_append, List.append_assoc]
      exact hcloses.2
    exact running_of_run hend
  rw [hrun]
  refine ⟨?_, hafter⟩
  exact hstart.run hbefore (fun m hm => h.asleep m (List.mem_append_left _ hm)) hrunning

/-- **Every pass of a timely run comes in time** after the one before it. -/
theorem punctual_of_timely {s : Sleeper H} {xs : List (Moment H)} (htimely : s.Timely interval xs)
    {earlier between : List (Moment H)} {first last : Moment H}
    (h : s.watchdog.Consecutive xs earlier first between last) :
    s.watchdog.Punctual interval earlier first between last := by
  have hdeadlines : ∀ before, before <+: between → ∀ p deadline,
      (s.watchdog.run (earlier ++ first :: before)).waiting.get? p = some deadline →
        last.now ≤ deadline := by
    rintro before ⟨after, rfl⟩ p deadline hp
    obtain ⟨halert, hafter⟩ := alert_between htimely h
    obtain ⟨a, ha, hle⟩ := halert.deadlines p deadline (by rw [watchdog_run]; exact hp)
    have hlast := now_le_alarm hafter (fun m hm => h.asleep m (List.mem_append_right _ hm)) ha
    exact Nat.le_trans hlast hle
  constructor
  case deadlines => exact hdeadlines
  case onTime =>
    intro p
    have hcloses := h.closes
    simp only [passes, Bool.and_eq_true, Bool.not_eq_true'] at hcloses
    rw [mem_emits_timedOut]
    constructor
    · rintro ⟨-, -, -, deadline, hp, hdue⟩
      have hle := hdeadlines between (List.prefix_refl _) p deadline hp
      rwa [Nat.le_antisymm hle hdue]
    · intro hp
      obtain ⟨now, act⟩ := last
      cases act with
      | look l => exact ⟨l, rfl, hcloses.2, now, hp, Nat.le_refl _⟩
      | add | connect | forget | shutdown => cases hcloses.1
  case polls =>
    rintro before ⟨after, rfl⟩ p handle hp
    obtain ⟨halert, hafter⟩ := alert_between htimely h
    obtain ⟨a, ha, hle⟩ := halert.polls p handle (by rw [watchdog_run]; exact hp)
    have hlast := now_le_alarm hafter (fun m hm => h.asleep m (List.mem_append_right _ hm)) ha
    refine hle.imp (Nat.le_trans hlast) ?_
    rintro ⟨m, hm, hact, ham⟩
    exact ⟨m, hm, hact, Nat.le_trans hlast ham⟩

end Sleeper

namespace Watchdog

/-- **The watchdog never sleeps too long and never for no time.**  After every turn, whatever it
watches, it sleeps as long as it may; and in every run in which the sleeps last no longer than that,
its passes come in time. -/
theorem never_oversleeps {H : Type} [Watched H] (interval : Nat) :
    (∀ (w : Watchdog H) (now : Nat) (look : PeerId → H → Glance H),
      (w.turn? now interval look = none ↔ w.stopped = true) ∧
        ∀ t, w.turn? now interval look = some t → t.watchdog.Sleeps now interval t.wait) ∧
    (∀ (s : Sleeper H) (xs : List (Moment H)), s.Timely interval xs →
      ∀ earlier first between last, s.watchdog.Consecutive xs earlier first between last →
        s.watchdog.Punctual interval earlier first between last) := by
  constructor
  · intro w now look
    refine ⟨turn?_eq_none_iff, ?_⟩
    intro t ht
    exact sleeps_turn ht
  · intro s xs htimely earlier first between last hpasses
    exact Sleeper.punctual_of_timely htimely hpasses

/-- A look at processes that are all running. -/
def stillness : Look ProcessHandle := ProcessHandle.look fun _ => ⟨.running, .delivered⟩

/-- One peer is added, then another one while the client of the first connects. -/
def arrivals : List (Moment ProcessHandle) :=
  [⟨0, .look stillness⟩, ⟨10, .add ⟨1⟩ 100⟩, ⟨10, .look stillness⟩, ⟨20, .add ⟨2⟩ 300⟩,
    ⟨20, .connect ⟨1⟩ (ProcessHandle.watch 7)⟩]

/-- With a process to check every 50, the watchdog sleeps from 20 to 70, although the only deadline
is 320 and a peer is forgotten on the way. -/
theorem never_oversleeps_arrivals :
    0 < 50 ∧
      (∃ t, (after arrivals).turn? 20 50 stillness.glance = some t ∧ t.wait = some 50 ∧
        t.watchdog.waiting.get? ⟨2⟩ = some 320 ∧ t.watchdog.Sleeps 20 50 t.wait) ∧
      Sleeper.Timely 50 {}
        (arrivals ++ ⟨20, .look stillness⟩ :: ([⟨40, .forget ⟨3⟩⟩] ++ [⟨70, .look stillness⟩])) ∧
      Consecutive {}
        (arrivals ++ ⟨20, .look stillness⟩ :: ([⟨40, .forget ⟨3⟩⟩] ++ [⟨70, .look stillness⟩]))
        arrivals ⟨20, .look stillness⟩ [⟨40, .forget ⟨3⟩⟩] ⟨70, .look stillness⟩ ∧
      Punctual {} 50 arrivals ⟨20, .look stillness⟩ [⟨40, .forget ⟨3⟩⟩] ⟨70, .look stillness⟩ := by
  obtain ⟨hturns, hruns⟩ := never_oversleeps (H := ProcessHandle) 50
  have hturn : (after arrivals).turn? 20 50 stillness.glance = some ⟨_, _, _⟩ :=
    turn?_of_running (by decide)
  have htimely : Sleeper.Timely 50 {}
      (arrivals ++ ⟨20, .look stillness⟩ :: ([⟨40, .forget ⟨3⟩⟩] ++ [⟨70, .look stillness⟩])) := by
    decide
  have hpasses : Consecutive {}
      (arrivals ++ ⟨20, .look stillness⟩ :: ([⟨40, .forget ⟨3⟩⟩] ++ [⟨70, .look stillness⟩]))
      arrivals ⟨20, .look stillness⟩ [⟨40, .forget ⟨3⟩⟩] ⟨70, .look stillness⟩ :=
    ⟨List.prefix_refl _, by decide, by decide, by decide⟩
  exact ⟨by decide, ⟨_, hturn, by decide, by decide, (hturns _ _ _).2 _ hturn⟩, htimely, hpasses,
    hruns {} _ htimely _ _ _ _ hpasses⟩

end Watchdog

end ControlPlane
