/-
# Typed readings of a value

What a value is read as where a particular type is expected, and the reading of a record from an
object or from a list of its fields in order.

* `Json.asUInt16`, ..., `Json.asTexts`: one reading per type, each with its mismatches;
* `Shape`: the fields of a record; `Shape.decode`: the reading of a record.  Unknown members of
  an object are passed over, and the first mismatch met wins, members being met in the order the
  object lists them and missing fields being found last.
-/
import ControlPlane.Json.Error

namespace ControlPlane

/-! ## 1. Numbers and simple values -/

/-- A number as an unsigned integer below `bound`. -/
def Number.below (bound : Nat) (expected : String) : Number → Except Mismatch Nat
  | .natural n =>
    if n.toNat < bound then .ok n.toNat else .error (.wrongValue (.number (.natural n)) expected)
  | .negative k => .error (.wrongValue (.number (.negative k)) expected)
  | .real x => .error (.wrongType (.number (.real x)) expected)

namespace Number

/-- A number as an integer of 16 bits. -/
def asUInt16 (n : Number) : Except Mismatch UInt16 := UInt16.ofNat <$> n.below UInt16.size "u16"

/-- A number as an integer of 32 bits. -/
def asUInt32 (n : Number) : Except Mismatch UInt32 := UInt32.ofNat <$> n.below UInt32.size "u32"

/-- A number as an integer of 64 bits. -/
def asUInt64 (n : Number) : Except Mismatch UInt64 := UInt64.ofNat <$> n.below UInt64.size "u64"

end Number

namespace Json

/-- A value as an integer of 16 bits. -/
def asUInt16 : Json → Except Mismatch UInt16
  | .number n => n.asUInt16
  | v => .error (.wrongType v.found "u16")

/-- A value as an integer of 32 bits. -/
def asUInt32 : Json → Except Mismatch UInt32
  | .number n => n.asUInt32
  | v => .error (.wrongType v.found "u32")

/-- A value as an integer of 64 bits. -/
def asUInt64 : Json → Except Mismatch UInt64
  | .number n => n.asUInt64
  | v => .error (.wrongType v.found "u64")

/-- A value as a truth value. -/
def asBool : Json → Except Mismatch Bool
  | .bool b => .ok b
  | v => .error (.wrongType v.found "a boolean")

/-- A value as a text. -/
def asText : Json → Except Mismatch String
  | .string s => .ok s
  | v => .error (.wrongType v.found "a string")

/-- A value as a list, each item read by `item`. -/
def asList {α : Type} (item : Json → Except Mismatch α) : Json → Except Mismatch (List α)
  | .array xs => xs.mapM item
  | v => .error (.wrongType v.found "a sequence")

/-- A value as a list of texts. -/
def asTexts : Json → Except Mismatch (List String) := asList asText

/-- A value that may be `null`. -/
def asOption {α : Type} (item : Json → Except Mismatch α) : Json → Except Mismatch (Option α)
  | .null => .ok none
  | v => some <$> item v

/-- A value as one of some names: the name itself, or an object whose only member has that name
and the value `null`. -/
def asName {α : Type} (names : List (String × α)) : Json → Except Mismatch α
  | .string s => pick s
  | .object [(s, v)] => do
    let a ← pick s
    match v with
    | .null => return a
    | v => throw (.wrongType v.found "unit")
  | .object _ => .error (.wrongValue .map "map with a single key")
  | v => .error (.wrongType v.found "string or map")
where
  /-- The value of a name. -/
  pick (s : String) : Except Mismatch α :=
    match names.lookup s with
    | some a => .ok a
    | none => .error (.unknownVariant s (names.map (·.1)))

end Json

/-! ## 2. Records -/

/-- One field of a record that is being read into drafts of type `σ`. -/
structure Field (σ : Type) where
  name : String
  /-- The field may be absent. -/
  optional : Bool
  /-- Reads the field's value into the draft. -/
  put : Json → σ → Except Mismatch σ

/-- **The fields of a record** in their order, and how a draft becomes the record. -/
structure Shape (σ α : Type) where
  title : String
  fields : List (Field σ)
  start : σ
  finish : σ → Except Mismatch α

namespace Shape

variable {σ α : Type}

/-- The record's name, as in a message. -/
def expected (s : Shape σ α) : String := "struct " ++ s.title

/-- The record's name with its number of fields, as in a message. -/
def expectedLength (s : Shape σ α) : String :=
  s.expected ++ " with " ++ toString s.fields.length
    ++ (if s.fields.length = 1 then " element" else " elements")

/-- Reads one member into the draft; a member of no field is passed over. -/
def putMember (s : Shape σ α) (draft : σ) (member : String × Json) : Except Mismatch σ :=
  match s.fields.find? (·.name == member.1) with
  | some f => f.put member.2 draft
  | none => .ok draft

/-- Reads items into fields in order.  When the items run out, the remaining fields have to be
optional ones. -/
def putItems (s : Shape σ α) (total : Nat) :
    (index : Nat) → List (Field σ) → List Json → σ → Except Mismatch σ
  | _, [], [], draft => .ok draft
  | _, [], _ :: _, _ => .error (.wrongLength total "fewer elements in array")
  | index, f :: fs, [], draft =>
    if f.optional then putItems s total (index + 1) fs [] draft
    else .error (.wrongLength index s.expectedLength)
  | index, f :: fs, x :: xs, draft => do
    putItems s total (index + 1) fs xs (← f.put x draft)

/-- **The reading of a record.** -/
def decode (s : Shape σ α) : Json → Except Mismatch α
  | .object members => do s.finish (← members.foldlM s.putMember s.start)
  | .array items => do s.finish (← s.putItems items.length 0 s.fields items s.start)
  | v => .error (.wrongType v.found s.expected)

/-- The value of a field that has to be present. -/
def require {β : Type} (name : String) : Option β → Except Mismatch β
  | some b => .ok b
  | none => .error (.missingField name)

end Shape

end ControlPlane
