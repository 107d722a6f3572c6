/-
# Faults

What an operation on channels, peers and profiles can fail with, and its wording.

* `Fault.message`: the text of a fault;
* `Fault.endsChannel`: the faults that leave a channel unusable;
* `Fault.cause?`: the text of what lies behind a fault, when it only passes that on.
-/
import ControlPlane.Message.Basic
import ControlPlane.OsError
import ControlPlane.Token

namespace ControlPlane

/-- **Why an operation failed.** -/
inductive Fault where
  /-- Input or output failed; `cause` is what the system reported, if it did. -/
  | io (text : String) (cause : Option String)
  /-- A channel name does not say where its channel listens. -/
  | badChannelName (name reason : String)
  /-- A channel belongs to another version. -/
  | foreignChannel (name : String)
  | connectTimedOut (name : String)
  | channelClosed
  /-- The other end replied that it did not handle a request. -/
  | refused (type : UInt32)
  | json (cause : ReadError)
  | token (cause : Token.Fault)
  | protocol (cause : ProtocolFault)
  | routeTaken (id : RoutingId)
  /-- No routing id is left in a block. -/
  | idsUsedUp
  | watchdogStopped
  | unknownProfile (id : Nat)
  /-- All profiles have been destroyed for good. -/
  | profilesDestroyed
  | hostStopped
  | badSetting (text : String)
  | other (text : String)
  deriving DecidableEq, Repr

namespace Fault

/-- A failure that the system reported. -/
def ofSystem (text : String) : Fault := .io text (some text)

/-- A failure that the system reported, with what was being done. -/
def whileDoing (task text : String) : Fault := .io (task ++ ": " ++ text) (some text)

/-- **The text of a fault.** -/
def message : Fault → String
  | .io text _ => "IO error: " ++ text
  | .badChannelName name reason =>
    "Invalid channel id " ++ Text.quoted name ++ ": " ++ reason
  | .foreignChannel name =>
    "Channel " ++ Text.quoted name ++ " was created by an incompatible version"
  | .connectTimedOut name => "Timed out connecting to channel " ++ Text.quoted name
  | .channelClosed => "Channel closed"
  | .refused type => "Peer replied with an error to message type " ++ Text.tagged type.toNat
  | .json cause => "JSON error: " ++ cause.message
  | .token cause => "Channel token error: " ++ cause.message
  | .protocol cause => "Protocol error: " ++ cause.message
  | .routeTaken id => "Route already registered: " ++ id.text
  | .idsUsedUp => "Routing id block exhausted"
  | .watchdogStopped => "Process watchdog is shutting down"
  | .unknownProfile id => "Profile not found: " ++ toString id
  | .profilesDestroyed => "Profile manager has already destroyed all profiles"
  | .hostStopped => "Host control loop is not running"
  | .badSetting text => "Configuration error: " ++ text
  | .other text => text

/-- **The faults that leave a channel unusable.** -/
def endsChannel : Fault → Bool
  | .io _ _ | .badChannelName _ _ | .foreignChannel _ | .connectTimedOut _ | .channelClosed =>
    true
  | _ => false

/-- The text of what lies behind a fault. -/
def cause? : Fault → Option String
  | .io _ cause => cause
  | .json cause => some cause.message
  | .token cause => some cause.message
  | .protocol cause => some cause.message
  | _ => none

end Fault

end ControlPlane
