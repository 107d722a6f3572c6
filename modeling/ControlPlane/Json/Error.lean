/-
# What can be wrong with JSON input

Two kinds of cause are kept apart: a `Mismatch` says that a value is not of the expected form,
and any other `ReadError` that the text is no JSON.  The wording of both is here.

* `Mismatch.message`, `ReadError.message`: the texts;
* `ReadError.category`: whether the input ended early, was no JSON, or did not fit.
-/
import ControlPlane.Json.Printer
import ControlPlane.Text.Quoted

namespace ControlPlane

/-! ## 1. Values of another form -/

/-- What was met where something else was expected. -/
inductive Found where
  | null
  | bool (b : Bool)
  | number (n : Number)
  | string (s : String)
  | sequence
  | map
  deriving DecidableEq, Repr

/-- The wording of what was met. -/
def Found.describe : Found → String
  | .null => "null"
  | .bool true => "boolean `true`"
  | .bool false => "boolean `false`"
  | .number (.real x) => "floating point `" ++ x.text ++ "`"
  | .number n => "integer `" ++ String.ofList n.chars ++ "`"
  | .string s => "string " ++ Text.quoted s
  | .sequence => "sequence"
  | .map => "map"

/-- What a value is, for a message about it. -/
def Json.found : Json → Found
  | .null => .null
  | .bool b => .bool b
  | .number n => .number n
  | .string s => .string s
  | .array _ => .sequence
  | .object _ => .map

/-- **Why a value does not fit.** -/
inductive Mismatch where
  /-- Another kind of value was expected. -/
  | wrongType (found : Found) (expected : String)
  /-- The kind fits and the value does not. -/
  | wrongValue (found : Found) (expected : String)
  /-- A sequence has this many items, too few or too many. -/
  | wrongLength (length : Nat) (expected : String)
  /-- A name is none of the expected ones. -/
  | unknownVariant (name : String) (expected : List String)
  | missingField (name : String)
  | duplicateField (name : String)
  deriving DecidableEq, Repr

/-- A list of names between backquotes, as in a message. -/
def quoteNames (names : List String) : String :=
  ", ".intercalate (names.map fun n => "`" ++ n ++ "`")

/-- The wording of a mismatch. -/
def Mismatch.message : Mismatch → String
  | .wrongType found expected => "invalid type: " ++ found.describe ++ ", expected " ++ expected
  | .wrongValue found expected => "invalid value: " ++ found.describe ++ ", expected " ++ expected
  | .wrongLength n expected => "invalid length " ++ toString n ++ ", expected " ++ expected
  | .unknownVariant name expected =>
    "unknown variant `" ++ name ++ "`, expected one of " ++ quoteNames expected
  | .missingField name => "missing field `" ++ name ++ "`"
  | .duplicateField name => "duplicate field `" ++ name ++ "`"

/-! ## 2. Text that is no JSON -/

/-- **Why a text cannot be read.** -/
inductive ReadError where
  | endInValue
  | endInList
  | endInObject
  | endInString
  | expectedColon
  | expectedCommaInList
  | expectedCommaInObject
  | expectedWord
  | expectedValue
  | badNumber
  | numberTooLarge
  | badEscape
  | loneSurrogate
  | cutSurrogatePair
  | badUnicode
  | controlInString
  | keyNotString
  | trailingComma
  | trailingText
  | nestedTooDeep
  | mismatch (m : Mismatch)
  deriving DecidableEq, Repr

/-- The three kinds of failure a reader can tell apart. -/
inductive ReadError.Category where
  /-- The text is no JSON. -/
  | notJson
  /-- The input ended early. -/
  | cut
  /-- The value has another form than expected. -/
  | misfit
  deriving DecidableEq, Repr

namespace ReadError

/-- The kind of a failure. -/
def category : ReadError → Category
  | .endInValue | .endInList | .endInObject | .endInString => .cut
  | .mismatch _ => .misfit
  | _ => .notJson

/-- The wording of a failure. -/
def message : ReadError → String
  | .endInValue => "EOF while parsing a value"
  | .endInList => "EOF while parsing a list"
  | .endInObject => "EOF while parsing an object"
  | .endInString => "EOF while parsing a string"
  | .expectedColon => "expected `:`"
  | .expectedCommaInList => "expected `,` or `]`"
  | .expectedCommaInObject => "expected `,` or `\x7d`"
  | .expectedWord => "expected ident"
  | .expectedValue => "expected value"
  | .badNumber => "invalid number"
  | .numberTooLarge => "number out of range"
  | .badEscape => "invalid escape"
  | .loneSurrogate => "lone leading surrogate in hex escape"
  | .cutSurrogatePair => "unexpected end of hex escape"
  | .badUnicode => "invalid unicode code point"
  | .controlInString => "control character (\\u0000-\\u001F) found while parsing a string"
  | .keyNotString => "key must be a string"
  | .trailingComma => "trailing comma"
  | .trailingText => "trailing characters"
  | .nestedTooDeep => "recursion limit exceeded"
  | .mismatch m => m.message

end ReadError

end ControlPlane
