/-
# A process that is asked for again and again

A process is checked from time to time, and each time the system answers what it likes: the child is
running or has been reaped, it is none of ours, nobody may signal it, nobody has its number, or
someone else has it by now.  Whatever the answers are, an end that was found once stands, and no
question is ever put about a group of processes.

* `ProcessHandle.checks`: a process that is checked, once for each time;
* `Call.target`: whom the system takes a question to be about;
* `Answers.Present`: answers as they are given of a process that is there;
* `Polling`, `polling_checks`: what follows for the checks of any number;
* `Watchdog.exitsOf_run`: every report of an end is paid for by a process that was accepted;
* `polling_sticky`: all of it together.

What the watchdog reports of a process it looks at no more, so the stickiness of one process becomes
that of a run.
-/
import ControlPlane.Proofs.LifeCycle

namespace ControlPlane

namespace ProcessHandle

/-! ## 1. Numbers -/

/-- The number that a question is about. -/
def Call.pid : Call → UInt32
  | .wait pid => pid
  | .signal pid => pid

/-- **Whom the system takes a question to be about.**  It reads the number with a sign: what is
positive is a single process, zero and what is negative are groups, or any child. -/
def Call.target (c : Call) : Int := c.pid.toInt32.toInt

/-- A number that is zero or above `maxPid` names no single process. -/
def NamesGroup (pid : UInt32) : Prop := pid = 0 ∨ maxPid < pid.toNat

/-- Only numbers that name a single process are taken for one. -/
theorem isValidPid_iff {pid : UInt32} : isValidPid pid = true ↔ ¬ NamesGroup pid := by
  simp [isValidPid, NamesGroup]

/-- **A number that is taken for a process is one to the system as well.** -/
theorem target_pos {pid : UInt32} (hvalid : isValidPid pid = true) :
    0 < pid.toInt32.toInt := by
  obtain ⟨hzero, hmax⟩ := not_or.1 (isValidPid_iff.1 hvalid)
  rw [maxPid] at hmax
  have hpos : pid.toNat ≠ 0 := fun h => hzero (UInt32.toNat_inj.1 h)
  have hsmall : 2 * pid.toBitVec.toNat < 2 ^ 32 := by
    rw [UInt32.toNat_toBitVec]
    omega
  have hint : pid.toInt32.toInt = (pid.toNat : Int) := BitVec.toInt_eq_toNat_of_lt hsmall
  omega

/-! ## 2. One check -/

/-- **The answers are given of a process that is there**: a child that is running, or a process
that is none of ours and can be signalled, or could be by someone else. -/
inductive Answers.Present : Answers → Prop
  | running (signal : SignalAnswer) : Present ⟨.running, signal⟩
  | other {wait : WaitAnswer} {signal : SignalAnswer}
      (hwait : wait = .notAChild ∨ wait = .failed)
      (hsignal : signal = .delivered ∨ signal = .notPermitted) : Present ⟨wait, signal⟩

/-- A process that is there is not found gone, and the other way round. -/
theorem ask_ended_iff {pid : UInt32} (hvalid : isValidPid pid = true) (a : Answers) :
    (ask pid a).1 = true ↔ ¬ a.Present := by
  obtain ⟨wait, signal⟩ := a
  cases wait with
  | running => exact iff_of_false Bool.false_ne_true fun h => h (.running signal)
  | reaped =>
    refine iff_of_true rfl fun h => ?_
    cases h with
    | other hwait => exact hwait.elim nofun nofun
  | notAChild | failed =>
    cases signal with
    | delivered | notPermitted =>
      refine iff_of_false ?_ fun h => h (.other (by simp) (by simp))
      simp [ask, isAlive, hvalid, SignalAnswer.showsProcess]
    | noProcess | failed =>
      refine iff_of_true ?_ fun h => ?_
      · simp [ask, isAlive, hvalid, SignalAnswer.showsProcess]
      · cases h with
        | other _ hsignal => exact hsignal.elim nofun nofun

/-- Whether a process lives is asked about its own number, and only if that names one. -/
theorem mem_isAlive {pid : UInt32} {a : SignalAnswer} {c : Call} (h : c ∈ (isAlive pid a).2) :
    isValidPid pid = true ∧ c.pid = pid := by
  unfold isAlive at h
  split at h
  · next hvalid =>
    obtain rfl := List.mem_singleton.1 h
    exact ⟨hvalid, rfl⟩
  · exact absurd h List.not_mem_nil

/-- Every question of a check is about the number of the process. -/
theorem mem_ask {pid : UInt32} {a : Answers} {c : Call} (h : c ∈ (ask pid a).2) : c.pid = pid := by
  unfold ask at h
  split at h
  · rw [List.mem_singleton.1 h, Call.pid]
  · rw [List.mem_singleton.1 h, Call.pid]
  all_goals
    rcases List.mem_cons.1 h with rfl | h
    · rfl
    · exact (mem_isAlive h).2

/-- A process that is asked for names one: no other is watched without having been found gone. -/
def Sound (p : ProcessHandle) : Prop := p.ended = false → isValidPid p.pid = true

/-- A process is watched like this, -/
theorem sound_watch (pid : UInt32) : (watch pid).Sound := by
  simp [Sound, watch]

/-- and every check leaves it so. -/
theorem Sound.poll {p : ProcessHandle} (h : p.Sound) (a : Answers) : (p.poll a).process.Sound := by
  intro hended
  rw [pid_process_poll]
  refine h ?_
  cases hp : p.ended with
  | false => rfl
  | true =>
    rw [poll_of_ended hp, hp] at hended
    exact hended

/-- **A check finds a process gone** that was gone before, or that the answers do not show. -/
theorem poll_ended_iff {p : ProcessHandle} (h : p.Sound) (a : Answers) :
    (p.poll a).ended = true ↔ p.ended = true ∨ ¬ a.Present := by
  cases hp : p.ended with
  | true => simp [poll_of_ended hp]
  | false => simpa [poll, hp] using ask_ended_iff (h hp) a

/-- **A check puts questions about the process itself**, and only if that is a single one. -/
theorem mem_calls_poll {p : ProcessHandle} (h : p.Sound) {a : Answers} {c : Call}
    (hc : c ∈ (p.poll a).calls) : c.pid = p.pid ∧ 0 < c.target := by
  cases hp : p.ended with
  | true =>
    rw [poll_of_ended hp] at hc
    exact absurd hc List.not_mem_nil
  | false =>
    simp only [poll, hp, Bool.false_eq_true, if_false] at hc
    have hpid := mem_ask hc
    refine ⟨hpid, ?_⟩
    rw [Call.target, hpid]
    exact target_pos (h hp)

/-! ## 3. Checks in a row -/

/-- **A process that is checked**, once for each time at which the system answers. -/
def checks (p : ProcessHandle) : List Answers → List Check
  | [] => []
  | a :: rest => p.poll a :: (p.poll a).process.checks rest

/-- One check for each time. -/
@[simp] theorem length_checks (p : ProcessHandle) (times : List Answers) :
    (p.checks times).length = times.length := by
  induction times generalizing p with
  | nil => rfl
  | cons a rest ih => simp [checks, ih]

/-- A process that is gone is found gone at every check, without a question. -/
theorem checks_of_ended {p : ProcessHandle} (h : p.ended = true) {times : List Answers} {c : Check}
    (hc : c ∈ p.checks times) : c.ended = true ∧ c.calls = [] := by
  induction times with
  | nil => exact absurd hc List.not_mem_nil
  | cons a rest ih =>
    rw [checks, poll_of_ended h] at hc
    rcases List.mem_cons.1 hc with rfl | hc
    · exact ⟨rfl, rfl⟩
    · exact ih hc

/-- **Once a check has found a process gone, so do all later ones**, without a question. -/
theorem pairwise_checks (p : ProcessHandle) (times : List Answers) :
    (p.checks times).Pairwise fun c d => c.ended = true → d.ended = true ∧ d.calls = [] := by
  induction times generalizing p with
  | nil => exact .nil
  | cons a rest ih =>
    refine List.pairwise_cons.2 ⟨fun d hd hended => ?_, ih _⟩
    exact checks_of_ended (by rw [ended_process_poll, hended]) hd

/-- Every question of every check is about the process itself. -/
theorem mem_calls_checks {p : ProcessHandle} (h : p.Sound) {times : List Answers} {c : Check}
    (hc : c ∈ p.checks times) {call : Call} (hcall : call ∈ c.calls) :
    call.pid = p.pid ∧ 0 < call.target := by
  induction times generalizing p with
  | nil => exact absurd hc List.not_mem_nil
  | cons a rest ih =>
    rcases List.mem_cons.1 hc with rfl | hc
    · exact mem_calls_poll h hcall
    · have hrest := ih (h.poll a) hc
      rwa [pid_process_poll] at hrest

/-- **A process is found gone at the first time at which the answers do not show it**, and from
then on. -/
theorem checks_ended_iff {p : ProcessHandle} (h : p.Sound) {times : List Answers} {i : Nat}
    {c : Check} (hc : (p.checks times)[i]? = some c) :
    c.ended = true ↔ p.ended = true ∨ ∃ a ∈ times.take (i + 1), ¬ a.Present := by
  induction times generalizing p i with
  | nil => cases hc
  | cons a rest ih =>
    cases i with
    | zero =>
      obtain rfl := Option.some.inj hc
      rw [poll_ended_iff h]
      simp
    | succ i =>
      rw [ih (h.poll a) hc, ended_process_poll, poll_ended_iff h]
      simp [or_assoc]

/-- **What is known of the checks of a number**, whatever the system answers. -/
structure Polling (pid : UInt32) (times : List Answers) (found : List Check) : Prop where
  /-- Every check comes to an end. -/
  each : found.length = times.length
  /-- **An end that was found once stands**, and the system is asked no more. -/
  sticky : found.Pairwise fun (c d : Check) => c.ended = true → d.ended = true ∧ d.calls = []
  /-- A number that names no single process is gone at once, and the system is never asked. -/
  group : NamesGroup pid → ∀ c ∈ found, c.ended = true ∧ c.calls = []
  /-- What the system is asked is about this number, and about a single process. -/
  aimed : ∀ c ∈ found, ∀ call ∈ c.calls, call.pid = pid ∧ 0 < call.target
  /-- A process is said to be there only if the last answers are those of one that is. -/
  present : ∀ (i : Nat) (c : Check) (a : Answers), found[i]? = some c →
    times[i]? = some a → c.ended = false → a.Present
  /-- It is said to be gone only if the answers have been otherwise once. -/
  gone : ∀ (i : Nat) (c : Check), found[i]? = some c → c.ended = true →
    NamesGroup pid ∨ ∃ a ∈ times.take (i + 1), ¬ a.Present

/-- **The checks of any number, with any answers.** -/
theorem polling_checks (pid : UInt32) (times : List Answers) :
    Polling pid times ((watch pid).checks times) where
  each := length_checks _ _
  sticky := pairwise_checks _ _
  group hgroup c hc := by
    refine checks_of_ended ?_ hc
    have hnot : isValidPid pid = false := by
      rw [← Bool.not_eq_true, isValidPid_iff, not_not]
      exact hgroup
    simp [watch, hnot]
  aimed c hc call hcall := mem_calls_checks (sound_watch pid) hc hcall
  present i c a hc ha hended := by
    by_contra hnot
    have hmem : a ∈ times.take (i + 1) := by
      obtain ⟨hi, rfl⟩ := List.getElem?_eq_some_iff.1 ha
      exact List.mem_take_iff_getElem.2 ⟨i, by omega, rfl⟩
    have hgone := (checks_ended_iff (sound_watch pid) hc).2 (.inr ⟨a, hmem, hnot⟩)
    rw [hended] at hgone
    cases hgone
  gone i c hc hended := by
    rcases (checks_ended_iff (sound_watch pid) hc).1 hended with hstart | hanswers
    · refine .inl ?_
      by_contra hnot
      rw [watch, isValidPid_iff.2 hnot] at hstart
      cases hstart
    · exact .inr hanswers

/-- A number that a new process is given does not bring the old one back. -/
example : ((watch 7).checks
      [⟨.running, .noProcess⟩, ⟨.reaped, .noProcess⟩, ⟨.running, .delivered⟩]).map
      (fun c => (c.ended, c.calls)) =
    [(false, [.wait 7]), (true, [.wait 7]), (true, [])] := by
  decide

/-- **What is known of asking whether a number names a process now.** -/
structure Asking (pid : UInt32) (answer : SignalAnswer) (found : Bool × List Call) : Prop where
  /-- A number that names no single process names none that lives, and the system is not asked. -/
  group : NamesGroup pid → found = (false, [])
  aimed : ∀ call ∈ found.2, call.pid = pid ∧ 0 < call.target
  /-- Any other lives exactly if it can be signalled, or could be by someone else. -/
  alive : ¬ NamesGroup pid → (found.1 = true ↔ answer = .delivered ∨ answer = .notPermitted)

/-- **Asking whether any number names a process now**, with any answer. -/
theorem asking_isAlive (pid : UInt32) (answer : SignalAnswer) :
    Asking pid answer (isAlive pid answer) where
  group hgroup := by
    have hnot : ¬ isValidPid pid = true := fun hvalid => isValidPid_iff.1 hvalid hgroup
    simp [isAlive, hnot]
  aimed call hcall := by
    obtain ⟨hvalid, hpid⟩ := mem_isAlive hcall
    refine ⟨hpid, ?_⟩
    rw [Call.target, hpid]
    exact target_pos hvalid
  alive hsingle := by
    rw [isAlive, if_pos (isValidPid_iff.2 hsingle)]
    cases answer <;> simp [SignalAnswer.showsProcess]

end ProcessHandle

/-! ## 4. Reports -/

/-- Whether a report says that the process behind a peer is gone. -/
def WatchdogEvent.exits (p : PeerId) : WatchdogEvent → Bool
  | .exited q _ => q = p
  | .timedOut _ => false

/-- **How often the end of a peer's process is reported.** -/
def exitsOf (p : PeerId) (reports : List WatchdogEvent) : Nat := reports.countP (·.exits p)

/-- Later reports are counted as well. -/
@[simp] theorem exitsOf_append (p : PeerId) (reports more : List WatchdogEvent) :
    exitsOf p (reports ++ more) = exitsOf p reports + exitsOf p more :=
  List.countP_append

namespace Watchdog

variable {H : Type} [Watched H]

/-- **A look reports the end of a process or goes on watching it**, and not both. -/
theorem exitsOf_pass (w : Watchdog H) (now : Nat) (look : PeerId → H → Glance H) (p : PeerId) :
    ((w.pass now look).2.connected.contains p).toNat + exitsOf p (w.pass now look).1
      ≤ (w.connected.contains p).toNat := by
  cases hrun : w.stopped with
  | true => simp [pass, hrun, exitsOf]
  | false =>
    have htimeouts : exitsOf p (w.timeouts now) = 0 := by
      refine List.countP_eq_zero.2 fun r hr => ?_
      obtain ⟨q, -, rfl⟩ := List.mem_map.1 hr
      exact Bool.false_ne_true
    have hexits : exitsOf p (exits (w.connected.map look))
        = reportsOn p (exits (w.connected.map look)) := by
      refine List.countP_congr fun r hr => ?_
      obtain ⟨e, -, rfl⟩ := List.mem_map.1 hr
      exact Iff.rfl
    have hways := w.exits_ways look p
    simp only [pass, hrun, Bool.false_eq_true, if_false, exitsOf_append, htimeouts, hexits]
    omega

/-- **The end of a process is reported of one that was watched**, and a peer gets a process only
when its client is accepted. -/
theorem exitsOf_step (w : Watchdog H) (p : PeerId) (m : Moment H) :
    ((w.step m).connected.contains p).toNat + exitsOf p (w.emits m)
      ≤ (w.connected.contains p).toNat + (w.accepts p m).toNat := by
  obtain ⟨now, act⟩ := m
  cases act with
  | add q timeout => by_cases hstop : w.stopped = true <;> simp [step, add, hstop, emits, exitsOf]
  | connect q handle =>
    simp only [step, emits, accepts, markConnected]
    split
    · simp [exitsOf]
    · by_cases hp : p = q
      · subst hp
        simp [exitsOf]
      · simp [exitsOf, hp, Ne.symm hp]
  | forget q => by_cases hp : p = q <;> simp [step, emits, accepts, forget, exitsOf, hp]
  | look l => simpa [step, emits, accepts] using w.exitsOf_pass now l.glance p
  | shutdown =>
    simp only [step, emits, accepts, shutdown]
    split <;> simp [exitsOf]

/-- **In a run the ends that are reported of a peer are paid for**, by its process at the start and
by the clients that were accepted. -/
theorem exitsOf_run (w : Watchdog H) (p : PeerId) (xs : List (Moment H)) :
    ((w.run xs).connected.contains p).toNat + exitsOf p (w.reports xs)
      ≤ (w.connected.contains p).toNat + acceptances p w xs := by
  induction xs generalizing w with
  | nil => simp [run, reports, acceptances, exitsOf]
  | cons m rest ih =>
    have hstep := w.exitsOf_step p m
    have hrest := ih (w.step m)
    rw [reports, exitsOf_append, acceptances]
    show (((w.step m).run rest).connected.contains p).toNat + _ ≤ _
    omega

/-- A look at everything, with the answers of the system. -/
def lookAt (now : Nat) (answers : PeerId → ProcessHandle.Answers) : Moment ProcessHandle :=
  ⟨now, .look (ProcessHandle.look answers)⟩

/-- **What is known of the ends that a watchdog reports**, from any state of it on. -/
structure Reports (w : Watchdog ProcessHandle) (p : PeerId) : Prop where
  /-- A look reports the end of a process that it watches and that the check finds gone. -/
  reported : ∀ now answers pid, .exited p pid ∈ w.emits (lookAt now answers) ↔
    w.stopped = false ∧ ∃ handle, w.connected.get? p = some handle ∧ handle.pid = pid ∧
      (handle.poll (answers p)).ended = true
  /-- One look reports it once at most, -/
  once : ∀ now answers, exitsOf p (w.emits (lookAt now answers)) ≤ 1
  /-- and so do any number of them, whatever else happens, unless another client is accepted. -/
  everOnce : ∀ xs, acceptances p w xs = 0 → exitsOf p (w.reports xs) ≤ 1
  /-- Else it is reported no more often than a client was accepted. -/
  paid : ∀ xs, exitsOf p (w.reports xs)
    ≤ (w.connected.contains p).toNat + acceptances p w xs

/-- **The ends that any watchdog reports of any peer.** -/
theorem reports_exits (w : Watchdog ProcessHandle) (p : PeerId) : Reports w p where
  reported now answers pid := by
    rw [mem_emits_exited]
    constructor
    · rintro ⟨l, hl, hrun, handle, hget, hended, hpid⟩
      cases hl
      exact ⟨hrun, handle, hget, hpid, hended⟩
    · rintro ⟨hrun, handle, hget, hpid, hended⟩
      exact ⟨_, rfl, hrun, handle, hget, hended, hpid⟩
  once now answers := by
    have hpass := w.exitsOf_pass now (ProcessHandle.look answers).glance p
    have hle := Bool.toNat_le (w.connected.contains p)
    show exitsOf p (w.pass now (ProcessHandle.look answers).glance).1 ≤ 1
    omega
  everOnce xs hnone := by
    have hrun := w.exitsOf_run p xs
    have hle := Bool.toNat_le (w.connected.contains p)
    omega
  paid xs := by
    have hrun := w.exitsOf_run p xs
    omega

end Watchdog

/-- **An end that is found stands, and only single processes are asked for**: of every number, with
all that the system may answer, and under every watchdog. -/
theorem polling_sticky :
    (∀ pid times, ProcessHandle.Polling pid times ((ProcessHandle.watch pid).checks times)) ∧
    (∀ pid answer, ProcessHandle.Asking pid answer (ProcessHandle.isAlive pid answer)) ∧
    (∀ (w : Watchdog ProcessHandle) (p : PeerId), w.Reports p) :=
  ⟨ProcessHandle.polling_checks, ProcessHandle.asking_isAlive, Watchdog.reports_exits⟩

end ControlPlane
