/-
# The handshake

The first frame in either direction is a hello.  The channel opens only for a hello that speaks
this version, means this channel, and comes from a process that can be watched; its address and
its flags do not matter.

* `Handshake.greeting`: the hello an end sends;
* `Handshake.check`: the process behind the first frame that arrives.
-/
import ControlPlane.Fault
import ControlPlane.Message.Envelope
import ControlPlane.Message.Hello
import ControlPlane.ProcessHandle

namespace ControlPlane.Handshake

/-- The message that an end sends first. -/
def greeting (pid : UInt32) (channel : String) : Message := (Hello.make pid channel).toMessage

/-- The process of a hello that is meant for a channel. -/
def checkHello (channel : String) (h : Hello) : Except Fault UInt32 :=
  if h.version ≠ protocolVersion ∨ h.channel ≠ channel then .error (.foreignChannel h.channel)
  else if ProcessHandle.isValidPid h.pid then .ok h.pid
  else
    .error (.protocol (.malformed MessageType.hello ("invalid pid " ++ toString h.pid.toNat)))

/-- The process of a message that is a hello meant for a channel. -/
def checkMessage (channel : String) (m : Message) : Except Fault UInt32 :=
  if m.type ≠ MessageType.hello then .error (.protocol (.unknownType m.type))
  else
    match m.payloadAs Hello.ofJson with
    | .ok h => checkHello channel h
    | .error e => .error (.protocol e)

/-- **The process behind the first frame** that arrives on a channel. -/
def check (channel : String) (payload : Bytes) : Except Fault UInt32 :=
  match Message.parse payload with
  | .ok m => checkMessage channel m
  | .error e => .error (.json e)

end ControlPlane.Handshake
