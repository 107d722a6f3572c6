/-
# The configuration of a host

Where the loop of a host runs, how long it waits, and which switches it hands down.

* `ThreadMode.ofName?`: the mode with a name, in any case of its letters;
* `HostConfig`: the configuration, all parts of which have defaults.
-/
import ControlPlane.Token

namespace ControlPlane

/-- Where the loop of a host runs. -/
inductive LoopPlace where
  /-- On a thread of its own, behind a handle. -/
  | ownThread
  /-- On the thread of its caller. -/
  | callerThread
  deriving DecidableEq, Repr, Inhabited

/-- **How the application and the host share threads.** -/
inductive ThreadMode where
  /-- The host's loop has a thread of its own inside the application. -/
  | original
  /-- The application is a client, and whoever holds the host drives its loop. -/
  | rendererMain
  deriving DecidableEq, Repr, Inhabited

namespace ThreadMode

/-- The name of a mode. -/
def name : ThreadMode → String
  | .original => "original"
  | .rendererMain => "renderer-main"

/-- All accepted names, in lower case. -/
def names : List (String × ThreadMode) :=
  [("original", .original), ("renderer-main", .rendererMain), ("renderer_main", .rendererMain)]

/-- **The mode with a name**, in any case of its letters.  Only the letters A to Z are lowered:
no other character lowers to a letter that occurs in a name. -/
def ofName? (s : String) : Option ThreadMode :=
  names.lookup (String.ofList (s.toList.map Char.toLower))

/-- Where the loop of a host runs in a mode. -/
def loopPlace : ThreadMode → LoopPlace
  | .original => .ownThread
  | .rendererMain => .callerThread

/-- Every mode is found under its name. -/
theorem ofName?_name (m : ThreadMode) : ofName? m.name = some m := by
  cases m <;> decide +kernel

end ThreadMode

/-- **The configuration of a host.**  Times are in milliseconds. -/
structure HostConfig where
  threadMode : ThreadMode := .original
  /-- How long a client may take to connect when its creator does not say. -/
  connectTimeout : Nat := defaultHostTimeout
  /-- How often connected processes are checked. -/
  pollInterval : Nat := defaultPollInterval
  /-- The switches that every client inherits. -/
  switches : List Switch := []
  deriving DecidableEq, Repr, Inhabited

namespace HostConfig

/-- The same configuration with another switch behind those it has. -/
def addSwitch (c : HostConfig) (key value : String) : HostConfig :=
  { c with switches := c.switches ++ [(key, value)] }

end HostConfig

end ControlPlane
