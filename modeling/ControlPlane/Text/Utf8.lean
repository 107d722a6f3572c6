/-
# Text as bytes

The encoding of text as bytes and its strict inverse.  Both sides are functions on lists, so
that a law about a byte stream is an induction on it.

* `encode`: the bytes of a text, one to four per character;
* `decode?`: the text that some bytes spell, refused when they are not the shortest form of
  Unicode scalar values.
-/
namespace ControlPlane

/-- A finite run of bytes, as read from or written to a connection. -/
abbrev Bytes := List UInt8

namespace Text.Utf8

/-! ## 1. Writing -/

/-- The bytes of a run of characters. -/
def encodeChars (cs : List Char) : Bytes := cs.flatMap String.utf8EncodeChar

/-- The bytes of a text. -/
def encode (s : String) : Bytes := encodeChars s.toList

/-- The number of bytes a text takes. -/
def size (s : String) : Nat := (encode s).length

/-! ## 2. Reading -/

/-- A byte that continues a character. -/
def isTail (b : UInt8) : Bool := 0x80 ≤ b && b ≤ 0xBF

/-- The low six bits of a continuation byte. -/
def tailBits (b : UInt8) : Nat := b.toNat - 0x80

/-- The character of two bytes, when they are a shortest form. -/
def twoByte? (a b : UInt8) : Option Char :=
  if 0xC2 ≤ a && a ≤ 0xDF && isTail b then
    some (Char.ofNat ((a.toNat - 0xC0) * 0x40 + tailBits b))
  else none

/-- The character of three bytes, when they are a shortest form and no surrogate. -/
def threeByte? (a b c : UInt8) : Option Char :=
  if 0xE0 ≤ a && a ≤ 0xEF && isTail b && isTail c
      && (a != 0xE0 || 0xA0 ≤ b) && (a != 0xED || b ≤ 0x9F) then
    some (Char.ofNat ((a.toNat - 0xE0) * 0x1000 + tailBits b * 0x40 + tailBits c))
  else none

/-- The character of four bytes, when they are a shortest form and at most U+10FFFF. -/
def fourByte? (a b c d : UInt8) : Option Char :=
  if 0xF0 ≤ a && a ≤ 0xF4 && isTail b && isTail c && isTail d
      && (a != 0xF0 || 0x90 ≤ b) && (a != 0xF4 || b ≤ 0x8F) then
    some (Char.ofNat ((a.toNat - 0xF0) * 0x40000 + tailBits b * 0x1000
      + tailBits c * 0x40 + tailBits d))
  else none

/-- The characters that some bytes spell. -/
def decodeChars? : Bytes → Option (List Char)
  | [] => some []
  | a :: s =>
    if a < 0x80 then (decodeChars? s).map (Char.ofNat a.toNat :: ·)
    else match s with
      | [] => none
      | b :: s =>
        match twoByte? a b with
        | some x => (decodeChars? s).map (x :: ·)
        | none =>
          match s with
          | [] => none
          | c :: s =>
            match threeByte? a b c with
            | some x => (decodeChars? s).map (x :: ·)
            | none =>
              match s with
              | [] => none
              | d :: s =>
                match fourByte? a b c d with
                | some x => (decodeChars? s).map (x :: ·)
                | none => none

/-- The text that some bytes spell, `none` when they are not the encoding of any. -/
def decode? (bs : Bytes) : Option String := (decodeChars? bs).map String.ofList

end Text.Utf8

end ControlPlane
