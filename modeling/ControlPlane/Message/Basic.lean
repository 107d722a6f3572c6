/-
# Messages

What the two ends of a channel exchange.  A message has an address, a type and a payload; a
synchronous one is owed exactly one reply, which has the same address, type and request id.

* `Message.reply`, `Message.errorReply`: the two replies to a message;
* `ProtocolFault`: what can be wrong with a message, none of which closes the channel.
-/
import ControlPlane.Json.Decode
import ControlPlane.Routing

namespace ControlPlane

/-! ## 1. Types -/

namespace MessageType

/-- The block of messages that belong to the channel itself. -/
def internalBlock : UInt16 := 0

/-- The block of messages for the peers themselves. -/
def controlBlock : UInt16 := 1

/-- The block of messages about profiles. -/
def profileBlock : UInt16 := 2

/-- The type with an index in a block. -/
def make (block index : UInt16) : UInt32 := block.toUInt32 <<< 16 ||| index.toUInt32

/-- The block of a type. -/
def block (type : UInt32) : UInt16 := (type >>> 16).toUInt16

/-- The first message in either direction. -/
def hello : UInt32 := make internalBlock 1

end MessageType

/-! ## 2. Messages -/

/-- **A message.** -/
structure Message where
  address : RoutingId
  type : UInt32
  /-- The sender waits for a reply. -/
  sync : Bool := false
  reply : Bool := false
  /-- The reply says that the request was not handled. -/
  failed : Bool := false
  /-- Ties a reply to its request.  The channel gives it out. -/
  request : Option UInt64 := none
  payload : Json := .null
  deriving DecidableEq, Repr, Inhabited

namespace Message

/-- A message to the peer itself. -/
def control (type : UInt32) (payload : Json := .null) : Message :=
  { address := .control, type, payload }

/-- Whether a message is for the peer itself. -/
def isControl (m : Message) : Bool := m.address.isControl

/-- The same message, with a reply owed. -/
def asSync (m : Message) : Message := { m with sync := true }

/-- **The reply to a message that was handled.** -/
def replyWith (m : Message) (payload : Json) : Message :=
  { address := m.address, type := m.type, reply := true, request := m.request, payload }

/-- **The reply to a message that was not handled.** -/
def errorReply (m : Message) : Message := { m.replyWith .null with failed := true }

end Message

/-! ## 3. Faults -/

/-- **What is wrong with a message.** -/
inductive ProtocolFault where
  | unknownType (type : UInt32)
  | malformed (type : UInt32) (reason : String)
  /-- No request with this id is waiting for a reply. -/
  | strayReply (request : UInt64)
  deriving DecidableEq, Repr

/-- The wording of a fault. -/
def ProtocolFault.message : ProtocolFault → String
  | .unknownType t => "unknown message type " ++ Text.tagged t.toNat
  | .malformed t reason =>
    "malformed payload for message type " ++ Text.tagged t.toNat ++ ": " ++ reason
  | .strayReply r => "unexpected reply for request " ++ toString r.toNat

/-- The payload of a message, as `decode` reads it. -/
def Message.payloadAs {α : Type} (m : Message) (decode : Json → Except Mismatch α) :
    Except ProtocolFault α :=
  match decode m.payload with
  | .ok a => .ok a
  | .error e => .error (.malformed m.type e.message)

end ControlPlane
