/-
# Dialling

How a client gets from the name of a channel to a connection.

* `ChannelName.target?`: the socket that a channel of this version listens at;
* `Dialling.connect?`: what an attempt to reach it comes to.
-/
import ControlPlane.ChannelName
import ControlPlane.Fault

namespace ControlPlane

/-- **The socket that a channel listens at**, if it was made by this version. -/
def ChannelName.target? (name : String) : Except ControlPlane.Fault UInt16 :=
  if isCompatible name then
    match socket? name with
    | .ok n => .ok n
    | .error e => .error (.badChannelName name e.message)
  else .error (.foreignChannel name)

/-- What an attempt to reach a socket on this machine comes to. -/
inductive Dialling where
  | reached
  | timedOut
  /-- The system reported an error. -/
  | failed (text : String)
  deriving DecidableEq, Repr

/-- **What an attempt to reach a channel comes to.** -/
def Dialling.result (name : String) : Dialling → Except Fault Unit
  | .reached => .ok ()
  | .timedOut => .error (.connectTimedOut name)
  | .failed text => .error (.whileDoing ("Failed to connect to " ++ name) text)

/-- **Reaches for a channel** by its name; `dial` says what comes of a socket. -/
def ChannelName.reach (name : String) (dial : UInt16 → Dialling) :
    Except ControlPlane.Fault Unit := do
  (dial (← target? name)).result name

end ControlPlane
