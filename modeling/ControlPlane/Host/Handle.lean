/-
# A host on a thread of its own

The thread owns the host and takes commands in the order they are given.  Once it is told to
stop, or its host has shut down, it answers nothing any more.
-/
import ControlPlane.Host.Basic

namespace ControlPlane

/-- **What the holder of a handle asks of the host's thread.** -/
inductive HostOrder where
  /-- To make a channel whose client has this many milliseconds to connect. -/
  | openChannel (timeout : Nat)
  | shutdown
  deriving DecidableEq, Repr

/-- **A host behind a handle.** -/
structure HostThread where
  host : Host

namespace HostThread

/-- A host on a thread of its own. -/
def start (config : HostConfig) : HostThread := ⟨Host.start config⟩

/-- Whether the thread has come to its end. -/
def isOver (t : HostThread) : Bool := t.host.stopped

/-- **The thread takes a command.**  Only the making of a channel has an answer. -/
def take (t : HostThread) (env : Surroundings) :
    HostOrder → Option (Except Fault OpenedChannel) × HostThread
  | .openChannel timeout =>
    if t.isOver then (some (.error .hostStopped), t)
    else
      let (opened, host) := t.host.openChannel env timeout
      (some (Host.awaited opened), ⟨host⟩)
  | .shutdown => (none, ⟨t.host.shutdown⟩)

end HostThread

end ControlPlane
