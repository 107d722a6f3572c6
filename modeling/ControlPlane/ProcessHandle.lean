/-
# Processes

Whether another process is still there, asked without waiting.  The system is asked in two ways:
`wait`, which answers for the children of this process and takes an ended child off the system's
list, and `signal`, which answers for any process by sending it nothing.

* `ProcessHandle.isValidPid`: the numbers that name a single process;
* `ProcessHandle.poll`: whether a process has ended.  Once it has, it stays ended and the system is
  asked no more;
* `ProcessHandle.isAlive`: whether a number names a process now.

The system's answers are arguments; `ProcessHandle.Call` says which questions were put to it.
-/
namespace ControlPlane

/-- **A process that is being watched.** -/
structure ProcessHandle where
  pid : UInt32
  /-- It has been seen to be gone. -/
  ended : Bool
  deriving DecidableEq, Repr

namespace ProcessHandle

/-! ## 1. Numbers of processes -/

/-- The largest number of a process. -/
def maxPid : Nat := 0x7FFFFFFF

/-- **Whether a number names a single process.**  Zero and the numbers above `maxPid` name groups
of processes, or any child. -/
def isValidPid (pid : UInt32) : Bool := pid ≠ 0 && pid.toNat ≤ maxPid

/-- A process to watch.  A number that names none is one that has ended. -/
def watch (pid : UInt32) : ProcessHandle := ⟨pid, !isValidPid pid⟩

/-! ## 2. What the system answers -/

/-- The answer to `wait`. -/
inductive WaitAnswer where
  | running
  /-- The child has ended, and its number is free from now on. -/
  | reaped
  | notAChild
  | failed
  deriving DecidableEq, Repr

/-- The answer to `signal`. -/
inductive SignalAnswer where
  | delivered
  /-- There is such a process, and it belongs to someone else. -/
  | notPermitted
  | noProcess
  | failed
  deriving DecidableEq, Repr

/-- The answers of the system at one time. -/
structure Answers where
  wait : WaitAnswer
  signal : SignalAnswer
  deriving DecidableEq, Repr

/-- A question put to the system about a number. -/
inductive Call where
  | wait (pid : UInt32)
  | signal (pid : UInt32)
  deriving DecidableEq, Repr

/-- Whether an answer to `signal` shows a process. -/
def SignalAnswer.showsProcess : SignalAnswer → Bool
  | .delivered | .notPermitted => true
  | .noProcess | .failed => false

/-! ## 3. Asking -/

/-- **Whether a number names a process now**, and the questions put for that. -/
def isAlive (pid : UInt32) (answer : SignalAnswer) : Bool × List Call :=
  if isValidPid pid then (answer.showsProcess, [.signal pid]) else (false, [])

/-- Whether a process is gone that has not been seen to be, and the questions put for that. -/
def ask (pid : UInt32) (answers : Answers) : Bool × List Call :=
  match answers.wait with
  | .running => (false, [.wait pid])
  | .reaped => (true, [.wait pid])
  | .notAChild | .failed =>
    let (alive, calls) := isAlive pid answers.signal
    (!alive, .wait pid :: calls)

/-- What checking a process gives. -/
structure Check where
  ended : Bool
  process : ProcessHandle
  calls : List Call
  deriving DecidableEq, Repr

/-- **Checks a process.**  One that has ended is not asked for again. -/
def poll (p : ProcessHandle) (answers : Answers) : Check :=
  if p.ended then ⟨true, p, []⟩
  else
    let (ended, calls) := ask p.pid answers
    ⟨ended, { p with ended }, calls⟩

/-- A process that has ended stays so, and costs no question. -/
theorem poll_of_ended {p : ProcessHandle} (h : p.ended = true) (answers : Answers) :
    p.poll answers = ⟨true, p, []⟩ := by
  simp [poll, h]

/-- What a check reports is what the process remembers. -/
@[simp] theorem ended_process_poll (p : ProcessHandle) (answers : Answers) :
    (p.poll answers).process.ended = (p.poll answers).ended := by
  unfold poll
  split
  · assumption
  · rfl

/-- A check keeps the number. -/
@[simp] theorem pid_process_poll (p : ProcessHandle) (answers : Answers) :
    (p.poll answers).process.pid = p.pid := by
  unfold poll
  split <;> rfl

end ProcessHandle

end ControlPlane
