/-
# Base 64

Bytes as printable characters, three bytes to four characters, with the last group padded.
Only the canonical form is read: the padding has to be there, and the bits of the last character
that stand for no byte have to be zero.

* `Base64.encode`, `Base64.decode?`: the two directions.
-/
import ControlPlane.Text.Utf8

namespace ControlPlane.Base64

/-- The characters of the 64 values. -/
def alphabet : List Char :=
  "ABCDEFGHIJKLMNOPQRSTUVWXYZabcdefghijklmnopqrstuvwxyz0123456789+/".toList

/-- The character of a value below 64. -/
def digit (n : Nat) : Char := alphabet.getD n '='

/-- The value of a character. -/
def value? (c : Char) : Option Nat :=
  if 'A' ≤ c && c ≤ 'Z' then some (c.toNat - 'A'.toNat)
  else if 'a' ≤ c && c ≤ 'z' then some (c.toNat - 'a'.toNat + 26)
  else if '0' ≤ c && c ≤ '9' then some (c.toNat - '0'.toNat + 52)
  else if c = '+' then some 62
  else if c = '/' then some 63
  else none

/-- **The characters of some bytes.** -/
def encode : Bytes → List Char
  | [] => []
  | [a] => [digit (a.toNat / 4), digit (a.toNat % 4 * 16), '=', '=']
  | [a, b] =>
    [digit (a.toNat / 4), digit (a.toNat % 4 * 16 + b.toNat / 16), digit (b.toNat % 16 * 4), '=']
  | a :: b :: c :: rest =>
    digit (a.toNat / 4) :: digit (a.toNat % 4 * 16 + b.toNat / 16)
      :: digit (b.toNat % 16 * 4 + c.toNat / 64) :: digit (c.toNat % 64) :: encode rest

/-- The byte of two values of a last group with two padding characters. -/
def oneByte? (p q : Nat) : Option Bytes :=
  if q % 16 = 0 then some [UInt8.ofNat (p * 4 + q / 16)] else none

/-- The bytes of three values of a last group with one padding character. -/
def twoBytes? (p q r : Nat) : Option Bytes :=
  if r % 4 = 0 then
    some [UInt8.ofNat (p * 4 + q / 16), UInt8.ofNat (q % 16 * 16 + r / 4)]
  else none

/-- The bytes of four values. -/
def threeBytes (p q r s : Nat) : Bytes :=
  [UInt8.ofNat (p * 4 + q / 16), UInt8.ofNat (q % 16 * 16 + r / 4), UInt8.ofNat (r % 4 * 64 + s)]

/-- **The bytes that some characters stand for**, `none` unless they are the canonical form. -/
def decode? : List Char → Option Bytes
  | [] => some []
  | c₁ :: c₂ :: c₃ :: c₄ :: rest => do
    let p ← value? c₁
    let q ← value? c₂
    if rest.isEmpty && c₃ = '=' && c₄ = '=' then oneByte? p q
    else
      let r ← value? c₃
      if rest.isEmpty && c₄ = '=' then twoBytes? p q r
      else
        let s ← value? c₄
        return threeBytes p q r s ++ (← decode? rest)
  | _ => none

end ControlPlane.Base64
