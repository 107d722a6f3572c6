/-
# Messages as text

A message is written as a JSON object.  The flags that are not set and a request id that is not
there are left out; address, type and payload are always written.

* `Message.document`: the object, its members in the order they are written;
* `Message.frame`: the object as a frame;
* `Message.ofJson`: the message of a value;
* `Message.parse`: the message of a text.  The text is read in one pass, so a member of the wrong
  type is reported although the text behind it may be no JSON.
-/
import ControlPlane.Frame
import ControlPlane.Json.Reader
import ControlPlane.Message.Basic

namespace ControlPlane.Message

/-! ## 1. Writing -/

/-- A flag, written only when it is set. -/
def flag (name : String) (b : Bool) : List (String × Json) :=
  if b then [(name, .bool true)] else []

/-- **The object of a message**, its members in the order they are written. -/
def document (m : Message) : Json :=
  .object
    ([("routing_id", .ofUInt32 m.address.value), ("type_id", .ofUInt32 m.type)]
      ++ flag "sync" m.sync ++ flag "reply" m.reply ++ flag "reply_error" m.failed
      ++ (match m.request with
        | some r => [("request_id", .ofUInt64 r)]
        | none => [])
      ++ [("payload", m.payload)])

/-- The text of a message. -/
def text (m : Message) : String := m.document.text

/-- The text of a message as bytes. -/
def bytes (m : Message) : Bytes := m.document.bytes

/-- **A message as a frame.** -/
def frame (m : Message) : Bytes := Frame.encode m.bytes

/-! ## 2. The parts of a message -/

/-- A message that is being read. -/
structure Draft where
  address : Option RoutingId := none
  type : Option UInt32 := none
  sync : Option Bool := none
  reply : Option Bool := none
  failed : Option Bool := none
  request : Option (Option UInt64) := none
  payload : Option Json := none
  deriving Inhabited

/-- The message of a draft, in which address and type have to be present. -/
def Draft.finish (d : Draft) : Except Mismatch Message := do
  let address ← Shape.require "routing_id" d.address
  let type ← Shape.require "type_id" d.type
  return {
    address, type
    sync := d.sync.getD false
    reply := d.reply.getD false
    failed := d.failed.getD false
    request := d.request.getD none
    payload := d.payload.getD .null }

/-- A member of the object, which can be read from a value and from bytes. -/
structure Part extends Field Draft where
  isSet : Draft → Bool
  read : Bytes → Draft → Except ReadError (Draft × Bytes)

/-- The members of the object in their order. -/
def parts : List Part := [
  { name := "routing_id", optional := false
    put v d := do return { d with address := some ⟨← v.asUInt32⟩ }
    isSet d := d.address.isSome
    read bs d := do
      let (n, rest) ← Json.readUInt32 bs
      return ({ d with address := some ⟨n⟩ }, rest) },
  { name := "type_id", optional := false
    put v d := do return { d with type := some (← v.asUInt32) }
    isSet d := d.type.isSome
    read bs d := do
      let (n, rest) ← Json.readUInt32 bs
      return ({ d with type := some n }, rest) },
  { name := "sync", optional := true
    put v d := do return { d with sync := some (← v.asBool) }
    isSet d := d.sync.isSome
    read bs d := do
      let (b, rest) ← Json.readBool bs
      return ({ d with sync := some b }, rest) },
  { name := "reply", optional := true
    put v d := do return { d with reply := some (← v.asBool) }
    isSet d := d.reply.isSome
    read bs d := do
      let (b, rest) ← Json.readBool bs
      return ({ d with reply := some b }, rest) },
  { name := "reply_error", optional := true
    put v d := do return { d with failed := some (← v.asBool) }
    isSet d := d.failed.isSome
    read bs d := do
      let (b, rest) ← Json.readBool bs
      return ({ d with failed := some b }, rest) },
  { name := "request_id", optional := true
    put v d := do return { d with request := some (← v.asOption Json.asUInt64) }
    isSet d := d.request.isSome
    read bs d := do
      let (r, rest) ← Json.readUInt64Option bs
      return ({ d with request := some r }, rest) },
  { name := "payload", optional := true
    put v d := .ok { d with payload := some v }
    isSet d := d.payload.isSome
    read bs d := do
      let (v, rest) ← Json.readValue (Json.levels - 1) bs
      return ({ d with payload := some v }, rest) }]

/-- The record of a message. -/
def shape : Shape Draft Message :=
  { title := "Message"
    fields := parts.map (·.toField)
    start := {}
    finish := Draft.finish }

/-- **The message of a value.** -/
def ofJson (v : Json) : Except Mismatch Message := shape.decode v

/-! ## 3. Reading -/

/-- The members of an object up to its closing brace. -/
def readMembers : (fuel : Nat) → (first : Bool) → Draft → Bytes →
    Except ReadError (Draft × Bytes)
  | 0, _, _, _ => .error .endInObject
  | fuel + 1, first, d, bs => do
    let (more, bs) ← Json.nextKey first bs
    if more then
      let (name, bs) ← Json.readString bs
      match parts.find? (·.name == name) with
      | some p =>
        if p.isSet d then throw (.mismatch (.duplicateField name))
        let (d, bs) ← p.read (← Json.readColon bs) d
        readMembers fuel false d bs
      | none => readMembers fuel false d (← Json.skipValue (← Json.readColon bs))
    else return (d, bs)

/-- The bytes behind the end of a list that has no more items. -/
def closeList (bs : Bytes) : Except ReadError Bytes :=
  match Json.skipBlanks bs with
  | [] => .error .endInList
  | b :: s =>
    if b = 0x5D then .ok s
    else if b = 0x2C then
      match Json.skipBlanks s with
      | [] => .error .trailingText
      | c :: _ => if c = 0x5D then .error .trailingComma else .error .trailingText
    else .error .trailingText

/-- The items of a list, one for each part, up to its closing bracket.  When they run out, the
remaining parts have to be optional ones. -/
def readItems : (index : Nat) → List Part → Draft → Bytes → Except ReadError (Draft × Bytes)
  | _, [], d, bs => do return (d, ← closeList bs)
  | index, p :: ps, d, bs => do
    let (more, bs) ← Json.nextItem (index == 0) bs
    if more then
      let (d, bs) ← p.read bs d
      readItems (index + 1) ps d bs
    else
      match (p :: ps).findIdx? (!·.optional) with
      | some i => throw (.mismatch (.wrongLength (index + i) shape.expectedLength))
      | none => return (d, bs)

/-- A message at the front of some bytes. -/
def read (bs : Bytes) : Except ReadError (Message × Bytes) :=
  match Json.skipBlanks bs with
  | [] => .error .endInValue
  | b :: s =>
    if b = 0x7B then do
      let (d, rest) ← readMembers (s.length + 1) true {} s
      return (← Json.fitting d.finish, rest)
    else if b = 0x5B then do
      let (d, rest) ← readItems 0 parts {} s
      return (← Json.fitting d.finish, rest)
    else .error (Json.misfit shape.expected (b :: s))

/-- **The message of a text**, given as bytes. -/
def parse (bs : Bytes) : Except ReadError Message := Json.whole (read bs)

end ControlPlane.Message
