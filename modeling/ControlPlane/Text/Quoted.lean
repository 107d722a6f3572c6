/-
# Quoted text

A text between double quotes, as messages show it: the quote, the backslash and the four named
controls have short escapes, and a character that does not show by itself is spelled by its
code point in hexadecimal, as in `\u{301}`.

* `hex`: a number in lower-case hexadecimal;
* `quoted`: the quoted form of a text.
-/
import ControlPlane.Text.Hidden

namespace ControlPlane.Text

/-- A number in lower-case hexadecimal, without leading zeros. -/
def hex (n : Nat) : String := String.ofList (Nat.toDigits 16 n)

/-- A number in hexadecimal behind `0x`. -/
def tagged (n : Nat) : String := "0x" ++ hex n

/-- The characters that one character of a quoted text is written as. -/
def quotedChar (c : Char) : List Char :=
  match c with
  | '\x00' => ['\\', '0']
  | '\t' => ['\\', 't']
  | '\n' => ['\\', 'n']
  | '\r' => ['\\', 'r']
  | '"' => ['\\', '"']
  | '\\' => ['\\', '\\']
  | c =>
    if isHidden c then
      '\\' :: 'u' :: '{' :: (Nat.toDigits 16 c.toNat ++ ['}'])
    else [c]

/-- **The quoted form of a text.** -/
def quoted (s : String) : String :=
  String.ofList ('"' :: (s.toList.flatMap quotedChar ++ ['"']))

end ControlPlane.Text
