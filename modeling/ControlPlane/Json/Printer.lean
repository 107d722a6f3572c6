/-
# JSON text

The compact text of a value: no blanks, members in the order the value lists them, integers in
decimal, reals by `Real64.text`.  In a string the quote, the backslash and the controls below
U+0020 are escaped, and every other character stands for itself.
-/
import ControlPlane.Json.Basic
import ControlPlane.Text.Utf8

namespace ControlPlane

/-- The characters of a number. -/
def Number.chars : Number → List Char
  | .natural n => Nat.toDigits 10 n.toNat
  | .negative k => '-' :: Nat.toDigits 10 (k.val + 1)
  | .real x => x.chars

namespace Json

/-- A hexadecimal digit, in lower case. -/
def hexDigit (n : Nat) : Char := Nat.digitChar (n % 16)

/-- The characters that one character of a string is written as. -/
def escapeChar (c : Char) : List Char :=
  match c with
  | '"' => ['\\', '"']
  | '\\' => ['\\', '\\']
  | '\x08' => ['\\', 'b']
  | '\t' => ['\\', 't']
  | '\n' => ['\\', 'n']
  | '\x0c' => ['\\', 'f']
  | '\r' => ['\\', 'r']
  | c =>
    if c.toNat < 0x20 then
      ['\\', 'u', '0', '0', hexDigit (c.toNat / 16), hexDigit c.toNat]
    else [c]

/-- A string between quotes. -/
def stringChars (s : String) : List Char := '"' :: (s.toList.flatMap escapeChar ++ ['"'])

mutual

/-- The characters of a value. -/
def chars : Json → List Char
  | .null => ['n', 'u', 'l', 'l']
  | .bool true => ['t', 'r', 'u', 'e']
  | .bool false => ['f', 'a', 'l', 's', 'e']
  | .number n => n.chars
  | .string s => stringChars s
  | .array [] => ['[', ']']
  | .array (x :: xs) => '[' :: (chars x ++ itemChars xs)
  | .object [] => ['{', '}']
  | .object ((k, x) :: xs) => '{' :: (stringChars k ++ ':' :: (chars x ++ memberChars xs))

/-- The characters of the items behind the first, up to the closing bracket. -/
def itemChars : List Json → List Char
  | [] => [']']
  | x :: xs => ',' :: (chars x ++ itemChars xs)

/-- The characters of the members behind the first, up to the closing brace. -/
def memberChars : List (String × Json) → List Char
  | [] => ['}']
  | (k, x) :: xs => ',' :: (stringChars k ++ ':' :: (chars x ++ memberChars xs))

end

/-- **The compact text of a value.** -/
def text (v : Json) : String := String.ofList v.chars

/-- The text of a value as bytes. -/
def bytes (v : Json) : Bytes := Text.Utf8.encodeChars v.chars

end Json

end ControlPlane
