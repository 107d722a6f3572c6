/-
# Reading JSON text

A reader takes bytes from the front of a list and returns what it read with the bytes behind
it.  Reading is a single pass, so of two faults in a text the one met first is reported.

* `Json.readValue`: a value nested at most `levels` deep;
* `Json.skipValue`: passes over a value of any depth, and checks less of it;
* `Json.readUInt32`, `readBool`, `readUInt64Option`: readings where a type is expected;
* `Json.parse`: a whole text.

The readers of nested values count down `fuel`; `fuelFor` gives enough of it for any bytes.
-/
import ControlPlane.Json.Decode

namespace ControlPlane

namespace Json

/-! ## 1. Blanks, words and digits -/

/-- A byte that may stand between the parts of a text. -/
def isBlankByte (b : UInt8) : Bool := b == 0x20 || b == 0x09 || b == 0x0A || b == 0x0D

/-- The bytes behind the blanks at the front. -/
def skipBlanks (bs : Bytes) : Bytes := bs.dropWhile isBlankByte

/-- The bytes behind a word at the front. -/
def readWord : (word : Bytes) → Bytes → Except ReadError Bytes
  | [], bs => .ok bs
  | _ :: _, [] => .error .endInValue
  | w :: ws, b :: bs => if b = w then readWord ws bs else .error .expectedWord

/-- The letters behind the first one of `null`. -/
def nullTail : Bytes := [0x75, 0x6C, 0x6C]

/-- The letters behind the first one of `true`. -/
def trueTail : Bytes := [0x72, 0x75, 0x65]

/-- The letters behind the first one of `false`. -/
def falseTail : Bytes := [0x61, 0x6C, 0x73, 0x65]

/-- A decimal digit. -/
def isDigit (b : UInt8) : Bool := 0x30 ≤ b && b ≤ 0x39

/-- The value of a decimal digit. -/
def digitValue (b : UInt8) : Nat := b.toNat - 0x30

/-- Whether the bytes start with a decimal digit. -/
def startsWithDigit : Bytes → Bool
  | [] => false
  | b :: _ => isDigit b

/-! ## 2. Strings -/

/-- The value of a hexadecimal digit. -/
def hexValue? (b : UInt8) : Option Nat :=
  if isDigit b then some (b.toNat - 0x30)
  else if 0x41 ≤ b && b ≤ 0x46 then some (b.toNat - 0x37)
  else if 0x61 ≤ b && b ≤ 0x66 then some (b.toNat - 0x57)
  else none

/-- The value of four hexadecimal digits. -/
def hex4? (a b c d : UInt8) : Option Nat := do
  return (((← hexValue? a) * 16 + (← hexValue? b)) * 16 + (← hexValue? c)) * 16 + (← hexValue? d)

/-- The byte that an escape of one letter stands for. -/
def shortEscape? (b : UInt8) : Option UInt8 :=
  if b = 0x22 || b = 0x5C || b = 0x2F then some b
  else if b = 0x62 then some 0x08
  else if b = 0x66 then some 0x0C
  else if b = 0x6E then some 0x0A
  else if b = 0x72 then some 0x0D
  else if b = 0x74 then some 0x09
  else none

/-- The bytes of a code point. -/
def codePointBytes (n : Nat) : Bytes := String.utf8EncodeChar (Char.ofNat n)

/-- Puts bytes before what a reading of bytes returns. -/
def before (front : Bytes) : Except ReadError (Bytes × Bytes) → Except ReadError (Bytes × Bytes)
  | .ok (bs, rest) => .ok (front ++ bs, rest)
  | .error e => .error e

/-- The bytes of a string behind its opening quote, with the escapes resolved. -/
def readStringBytes : Bytes → Except ReadError (Bytes × Bytes)
  | [] => .error .endInString
  | b :: s =>
    if b = 0x22 then .ok ([], s)
    else if b = 0x5C then
      match s with
      | [] => .error .endInString
      | e :: s =>
        if e = 0x75 then
          match s with
          | h₁ :: h₂ :: h₃ :: h₄ :: s =>
            match hex4? h₁ h₂ h₃ h₄ with
            | none => .error .badEscape
            | some n =>
              if 0xDC00 ≤ n && n ≤ 0xDFFF then .error .loneSurrogate
              else if n < 0xD800 || 0xDBFF < n then before (codePointBytes n) (readStringBytes s)
              else
                match s with
                | [] => .error .endInString
                | q :: s =>
                  if q ≠ 0x5C then .error .cutSurrogatePair
                  else match s with
                    | [] => .error .endInString
                    | u :: s =>
                      if u ≠ 0x75 then .error .cutSurrogatePair
                      else match s with
                        | l₁ :: l₂ :: l₃ :: l₄ :: s =>
                          match hex4? l₁ l₂ l₃ l₄ with
                          | none => .error .badEscape
                          | some m =>
                            if m < 0xDC00 || 0xDFFF < m then .error .loneSurrogate
                            else
                              before (codePointBytes
                                ((n - 0xD800) * 0x400 + (m - 0xDC00) + 0x10000))
                                (readStringBytes s)
                        | _ => .error .endInString
          | _ => .error .endInString
        else match shortEscape? e with
          | some x => before [x] (readStringBytes s)
          | none => .error .badEscape
    else if b < 0x20 then .error .controlInString
    else before [b] (readStringBytes s)

/-- **A string** behind its opening quote. -/
def readString (bs : Bytes) : Except ReadError (String × Bytes) := do
  let (raw, rest) ← readStringBytes bs
  match Text.Utf8.decode? raw with
  | some s => return (s, rest)
  | none => throw .badUnicode

/-- The bytes behind a string, given those behind its opening quote.  Neither the pairing of
surrogates nor the encoding is checked. -/
def skipString : Bytes → Except ReadError Bytes
  | [] => .error .endInString
  | b :: s =>
    if b = 0x22 then .ok s
    else if b = 0x5C then
      match s with
      | [] => .error .endInString
      | e :: s =>
        if e = 0x75 then
          match s with
          | h₁ :: h₂ :: h₃ :: h₄ :: s =>
            if (hex4? h₁ h₂ h₃ h₄).isSome then skipString s else .error .badEscape
          | _ => .error .endInString
        else if (shortEscape? e).isSome then skipString s
        else .error .badEscape
    else if b < 0x20 then .error .controlInString
    else skipString s

/-! ## 3. Numbers -/

/-- Digits taken into a significand for as long as it fits into 64 bits: the significand, the
number of digits taken, and the bytes behind them. -/
def takeDigits : (significand count : Nat) → Bytes → Nat × Nat × Bytes
  | sig, n, [] => (sig, n, [])
  | sig, n, b :: s =>
    if isDigit b && sig * 10 + digitValue b < UInt64.size then
      takeDigits (sig * 10 + digitValue b) (n + 1) s
    else (sig, n, b :: s)

/-- A real number with its sign, significand and exponent. -/
def finishReal (negative : Bool) (sig : Nat) (exponent : Int) (rest : Bytes) :
    Except ReadError (Number × Bytes) :=
  match Real64.ofDecimal? negative sig exponent with
  | some x => .ok (.real x, rest)
  | none => .error .numberTooLarge

/-- An integer with its sign and size.  A size out of range, and zero with a sign, is a real. -/
def finishInteger (negative : Bool) (size : Nat) (rest : Bytes) :
    Except ReadError (Number × Bytes) :=
  if !negative then .ok (.natural (UInt64.ofNat size), rest)
  else if h : 0 < size ∧ size ≤ 0x8000000000000000 then
    .ok (.negative ⟨size - 1, by omega⟩, rest)
  else finishReal true size 0 rest

/-- The value of decimal digits. -/
def digitsValue (ds : Bytes) : Nat := ds.foldl (fun n b => n * 10 + digitValue b) 0

/-- The exponent of a number, behind its mark. -/
def readExponent (negative : Bool) (sig : Nat) (start : Int) (bs : Bytes) :
    Except ReadError (Number × Bytes) :=
  let (down, bs) : Bool × Bytes :=
    match bs with
    | [] => (false, [])
    | b :: s => if b = 0x2B then (false, s) else if b = 0x2D then (true, s) else (false, b :: s)
  if bs.isEmpty then .error .endInValue
  else if !startsWithDigit bs then .error .badNumber
  else
    let e := Int.ofNat (digitsValue (bs.takeWhile isDigit))
    finishReal negative sig (if down then start - e else start + e) (bs.dropWhile isDigit)

/-- The end of a number whose significand is complete: an exponent, or none. -/
def readScale (negative : Bool) (sig : Nat) (exponent : Int) :
    Bytes → Except ReadError (Number × Bytes)
  | [] => finishReal negative sig exponent []
  | b :: s =>
    if b = 0x65 || b = 0x45 then readExponent negative sig exponent s
    else finishReal negative sig exponent (b :: s)

/-- The fraction of a number, behind the point.  Digits that no longer fit are dropped. -/
def readFraction (negative : Bool) (sig : Nat) (start : Int) (bs : Bytes) :
    Except ReadError (Number × Bytes) :=
  let (sig, n, rest) := takeDigits sig 0 bs
  if startsWithDigit rest then
    readScale negative sig (start - Int.ofNat n) (rest.dropWhile isDigit)
  else if n = 0 then
    if rest.isEmpty then .error .endInValue else .error .badNumber
  else readScale negative sig (start - Int.ofNat n) rest

/-- The part of a number behind its integer digits, `dropped` of which did not fit. -/
def readAfterInteger (negative : Bool) (sig dropped : Nat) (bs : Bytes) :
    Except ReadError (Number × Bytes) :=
  match bs with
  | [] =>
    if dropped = 0 then finishInteger negative sig []
    else finishReal negative sig (Int.ofNat dropped) []
  | b :: s =>
    if b = 0x2E then readFraction negative sig (Int.ofNat dropped) s
    else if b = 0x65 || b = 0x45 then readExponent negative sig (Int.ofNat dropped) s
    else if dropped = 0 then finishInteger negative sig (b :: s)
    else finishReal negative sig (Int.ofNat dropped) (b :: s)

/-- **A number** behind its sign. -/
def readNumber (negative : Bool) : Bytes → Except ReadError (Number × Bytes)
  | [] => .error .endInValue
  | b :: s =>
    if b = 0x30 then
      if startsWithDigit s then .error .badNumber else readAfterInteger negative 0 0 s
    else if isDigit b then
      let (sig, _, rest) := takeDigits (digitValue b) 0 s
      readAfterInteger negative sig (rest.takeWhile isDigit).length (rest.dropWhile isDigit)
    else .error .badNumber

/-- The bytes behind an exponent, given those behind its mark. -/
def skipExponent (bs : Bytes) : Except ReadError Bytes :=
  let bs :=
    match bs with
    | [] => []
    | b :: s => if b = 0x2B || b = 0x2D then s else b :: s
  if startsWithDigit bs then .ok (bs.dropWhile isDigit) else .error .badNumber

/-- The bytes behind the end of a number whose mantissa is complete. -/
def skipScale : Bytes → Except ReadError Bytes
  | [] => .ok []
  | b :: s => if b = 0x65 || b = 0x45 then skipExponent s else .ok (b :: s)

/-- The bytes behind a number, given those behind its sign.  Its size is not checked. -/
def skipNumber : Bytes → Except ReadError Bytes
  | [] => .error .badNumber
  | b :: s =>
    if !isDigit b || (b = 0x30 && startsWithDigit s) then .error .badNumber
    else
      match s.dropWhile isDigit with
      | [] => .ok []
      | p :: s =>
        if p = 0x2E then
          if startsWithDigit s then skipScale (s.dropWhile isDigit) else .error .badNumber
        else skipScale (p :: s)

/-! ## 4. Values -/

/-- The number of levels a value may be nested. -/
def levels : Nat := 127

/-- Enough fuel to read any value at the front of some bytes. -/
def fuelFor (bs : Bytes) : Nat := 2 * bs.length + 2

/-- The bytes behind the colon of a member. -/
def readColon (bs : Bytes) : Except ReadError Bytes :=
  match skipBlanks bs with
  | [] => .error .endInObject
  | b :: s => if b = 0x3A then .ok s else .error .expectedColon

/-- Where the next item of a list starts, if there is one: `none` with the bytes behind the
closing bracket at the end of the list. -/
def nextItem (first : Bool) (bs : Bytes) : Except ReadError (Bool × Bytes) :=
  match skipBlanks bs with
  | [] => .error .endInList
  | b :: s =>
    if b = 0x5D then .ok (false, s)
    else if first then .ok (true, b :: s)
    else if b = 0x2C then
      match skipBlanks s with
      | [] => .error .endInValue
      | c :: s => if c = 0x5D then .error .trailingComma else .ok (true, c :: s)
    else .error .expectedCommaInList

/-- Where the next key of an object starts behind its quote, if there is one. -/
def nextKey (first : Bool) (bs : Bytes) : Except ReadError (Bool × Bytes) :=
  match skipBlanks bs with
  | [] => .error .endInObject
  | b :: s =>
    if b = 0x7D then .ok (false, s)
    else if first then
      if b = 0x22 then .ok (true, s) else .error .keyNotString
    else if b = 0x2C then
      match skipBlanks s with
      | [] => .error .endInValue
      | c :: s =>
        if c = 0x22 then .ok (true, s)
        else if c = 0x7D then .error .trailingComma
        else .error .keyNotString
    else .error .expectedCommaInObject

mutual

/-- A value at the front of some bytes, nested at most `depth` levels. -/
def readNested : (fuel depth : Nat) → Bytes → Except ReadError (Json × Bytes)
  | 0, _, _ => .error .endInValue
  | fuel + 1, depth, bs =>
    match skipBlanks bs with
    | [] => .error .endInValue
    | b :: s =>
      if b = 0x6E then do return (.null, ← readWord nullTail s)
      else if b = 0x74 then do return (.bool true, ← readWord trueTail s)
      else if b = 0x66 then do return (.bool false, ← readWord falseTail s)
      else if b = 0x22 then do
        let (t, rest) ← readString s
        return (.string t, rest)
      else if b = 0x5B then
        match depth with
        | 0 => .error .nestedTooDeep
        | depth + 1 => do
          let (xs, rest) ← readItems fuel depth true s
          return (.array xs, rest)
      else if b = 0x7B then
        match depth with
        | 0 => .error .nestedTooDeep
        | depth + 1 => do
          let (ms, rest) ← readMembers fuel depth true s
          return (ofMembers ms, rest)
      else if b = 0x2D then do
        let (n, rest) ← readNumber true s
        return (.number n, rest)
      else if isDigit b then do
        let (n, rest) ← readNumber false (b :: s)
        return (.number n, rest)
      else .error .expectedValue

/-- The items of a list up to its closing bracket. -/
def readItems : (fuel depth : Nat) → (first : Bool) → Bytes →
    Except ReadError (List Json × Bytes)
  | 0, _, _, _ => .error .endInList
  | fuel + 1, depth, first, bs => do
    let (more, bs) ← nextItem first bs
    if more then
      let (x, bs) ← readNested fuel depth bs
      let (xs, bs) ← readItems fuel depth false bs
      return (x :: xs, bs)
    else return ([], bs)

/-- The members of an object up to its closing brace, as they are written. -/
def readMembers : (fuel depth : Nat) → (first : Bool) → Bytes →
    Except ReadError (List (String × Json) × Bytes)
  | 0, _, _, _ => .error .endInObject
  | fuel + 1, depth, first, bs => do
    let (more, bs) ← nextKey first bs
    if more then
      let (k, bs) ← readString bs
      let (v, bs) ← readNested fuel depth (← readColon bs)
      let (ms, bs) ← readMembers fuel depth false bs
      return ((k, v) :: ms, bs)
    else return ([], bs)

end

/-- **A value** at the front of some bytes, nested at most `depth` levels. -/
def readValue (depth : Nat) (bs : Bytes) : Except ReadError (Json × Bytes) :=
  readNested (fuelFor bs) depth bs

/-! ## 5. Values that are passed over -/

/-- A bracket that is open. -/
inductive Bracket where
  | list
  | object
  deriving DecidableEq, Repr

namespace Bracket

/-- The byte that closes a bracket. -/
def closing : Bracket → UInt8
  | .list => 0x5D
  | .object => 0x7D

/-- The input ends while a bracket is open. -/
def ended : Bracket → ReadError
  | .list => .endInList
  | .object => .endInObject

/-- Something other than a comma or the closing bracket follows a value. -/
def unseparated : Bracket → ReadError
  | .list => .expectedCommaInList
  | .object => .expectedCommaInObject

end Bracket

/-- The bytes behind the key of a member and its colon. -/
def skipKey (bs : Bytes) : Except ReadError Bytes :=
  match skipBlanks bs with
  | [] => .error .endInObject
  | b :: s => if b = 0x22 then do readColon (← skipString s) else .error .keyNotString

/-- The bytes where the value of the next entry starts. -/
def skipToValue : Bracket → Bytes → Except ReadError Bytes
  | .list, bs => .ok bs
  | .object, bs => skipKey bs

mutual

/-- Passes over a value and everything up to the end of the brackets that are open. -/
def skipNested : (fuel : Nat) → (brackets : List Bracket) → Bytes → Except ReadError Bytes
  | 0, _, _ => .error .endInValue
  | fuel + 1, brackets, bs =>
    match skipBlanks bs with
    | [] => .error .endInValue
    | b :: s =>
      if b = 0x6E then do skipAfter fuel brackets true (← readWord nullTail s)
      else if b = 0x74 then do skipAfter fuel brackets true (← readWord trueTail s)
      else if b = 0x66 then do skipAfter fuel brackets true (← readWord falseTail s)
      else if b = 0x22 then do skipAfter fuel brackets true (← skipString s)
      else if b = 0x5B then skipAfter fuel (.list :: brackets) false s
      else if b = 0x7B then skipAfter fuel (.object :: brackets) false s
      else if b = 0x2D then do skipAfter fuel brackets true (← skipNumber s)
      else if isDigit b then do skipAfter fuel brackets true (← skipNumber (b :: s))
      else .error .expectedValue

/-- Passes over what follows a value, or an opening bracket when `comma` is false. -/
def skipAfter : (fuel : Nat) → (brackets : List Bracket) → (comma : Bool) → Bytes →
    Except ReadError Bytes
  | 0, _, _, _ => .error .endInValue
  | _ + 1, [], _, bs => .ok bs
  | fuel + 1, k :: outer, comma, bs =>
    match skipBlanks bs with
    | [] => .error k.ended
    | b :: s =>
      if b = 0x2C && comma then do skipNested fuel (k :: outer) (← skipToValue k s)
      else if b = k.closing then skipAfter fuel outer true s
      else if comma then .error k.unseparated
      else do skipNested fuel (k :: outer) (← skipToValue k (b :: s))

end

/-- **Passes over a value** of any depth. -/
def skipValue (bs : Bytes) : Except ReadError Bytes := skipNested (fuelFor bs) [] bs

/-! ## 6. Readings where a type is expected -/

/-- The failure for bytes that do not start with the expected kind of value: what they start
with is read far enough to name it. -/
def misfit (expected : String) (bs : Bytes) : ReadError :=
  let named (r : Except ReadError Found) : ReadError :=
    match r with
    | .ok f => .mismatch (.wrongType f expected)
    | .error e => e
  match bs with
  | [] => .expectedValue
  | b :: s =>
    if b = 0x6E then named do let _ ← readWord nullTail s; return .null
    else if b = 0x74 then named do let _ ← readWord trueTail s; return .bool true
    else if b = 0x66 then named do let _ ← readWord falseTail s; return .bool false
    else if b = 0x2D then named do return .number (← readNumber true s).1
    else if isDigit b then named do return .number (← readNumber false (b :: s)).1
    else if b = 0x22 then named do return .string (← readString s).1
    else if b = 0x5B then .mismatch (.wrongType .sequence expected)
    else if b = 0x7B then .mismatch (.wrongType .map expected)
    else .expectedValue

/-- Turns a mismatch into a failure to read. -/
def fitting {α : Type} : Except Mismatch α → Except ReadError α
  | .ok a => .ok a
  | .error m => .error (.mismatch m)

/-- A number of a kind that is expected. -/
def readNumberAs {α : Type} (kind : Number → Except Mismatch α) (expected : String) (bs : Bytes) :
    Except ReadError (α × Bytes) :=
  match skipBlanks bs with
  | [] => .error .endInValue
  | b :: s =>
    if b = 0x2D then do
      let (n, rest) ← readNumber true s
      return (← fitting (kind n), rest)
    else if isDigit b then do
      let (n, rest) ← readNumber false (b :: s)
      return (← fitting (kind n), rest)
    else .error (misfit expected (b :: s))

/-- An integer of 32 bits. -/
def readUInt32 : Bytes → Except ReadError (UInt32 × Bytes) := readNumberAs Number.asUInt32 "u32"

/-- An integer of 64 bits. -/
def readUInt64 : Bytes → Except ReadError (UInt64 × Bytes) := readNumberAs Number.asUInt64 "u64"

/-- A truth value. -/
def readBool (bs : Bytes) : Except ReadError (Bool × Bytes) :=
  match skipBlanks bs with
  | [] => .error .endInValue
  | b :: s =>
    if b = 0x74 then do return (true, ← readWord trueTail s)
    else if b = 0x66 then do return (false, ← readWord falseTail s)
    else .error (misfit "a boolean" (b :: s))

/-- An integer of 64 bits, or `null`. -/
def readUInt64Option (bs : Bytes) : Except ReadError (Option UInt64 × Bytes) :=
  match skipBlanks bs with
  | [] => do
    let (n, rest) ← readUInt64 bs
    return (some n, rest)
  | b :: s =>
    if b = 0x6E then do return (none, ← readWord nullTail s)
    else do
      let (n, rest) ← readUInt64 (b :: s)
      return (some n, rest)

/-! ## 7. Whole texts -/

/-- The result of a reading behind which only blanks follow. -/
def whole {α : Type} (r : Except ReadError (α × Bytes)) : Except ReadError α := do
  let (a, rest) ← r
  if (skipBlanks rest).isEmpty then return a else throw .trailingText

/-- **The value of a text**, given as bytes. -/
def parse (bs : Bytes) : Except ReadError Json := whole (readValue levels bs)

end Json

end ControlPlane
