/-
# Finite 64-bit reals

The finite binary reals of 64 bits (52 stored fraction bits, exponents -1074 to 971), held as a
sign and the bits of the magnitude.  All arithmetic is on exact natural numbers.

* `Real64.fraction`: the exact value of a magnitude as a quotient;
* `roundRatio`: the magnitude nearest to a quotient, a tie going to the even neighbour;
* `Real64.ofDecimal?`: the value of a decimal numeral, scaled by rounded powers of ten.
-/
namespace ControlPlane

/-- The number of finite magnitudes. -/
def Real64.magnitudes : Nat := 0x7FF0000000000000

/-- **A finite 64-bit real.**  The magnitude is its bit pattern without the sign: 52 fraction
bits below the biased exponent. -/
structure Real64 where
  negative : Bool
  magnitude : Fin 0x7FF0000000000000
  deriving DecidableEq, Repr

namespace Real64

/-! ## 1. The value of a magnitude -/

/-- The weight of the leading bit of a significand, which magnitudes leave out. -/
def leadingBit : Nat := 0x10000000000000

/-- The integer significand of a magnitude. -/
def significand (m : Nat) : Nat :=
  if m / leadingBit = 0 then m % leadingBit else m % leadingBit + leadingBit

/-- The power of two the significand is multiplied by. -/
def scale (m : Nat) : Int :=
  if m / leadingBit = 0 then -1074 else Int.ofNat (m / leadingBit) - 1075

/-- A power of two with an integer exponent, as a numerator and a denominator. -/
def pow2 (q : Int) : Nat × Nat := (Nat.pow 2 q.toNat, Nat.pow 2 (-q).toNat)

/-- The exact value of a magnitude, as a numerator and a denominator. -/
def fraction (m : Nat) : Nat × Nat :=
  let p := pow2 (scale m)
  (significand m * p.1, p.2)

/-! ## 2. Rounding -/

/-- The integer nearest to a quotient, a tie going to the even one. -/
def roundDiv (num den : Nat) : Nat :=
  let q := num / den
  let twice := 2 * (num % den)
  if twice < den then q
  else if den < twice then q + 1
  else if q % 2 = 0 then q else q + 1

/-- The largest `e` with `2 ^ e` at most the positive quotient `num / den`. -/
def floorLog2 (num den : Nat) : Int :=
  let e := Int.ofNat num.log2 - Int.ofNat den.log2
  let p := pow2 e
  if num * p.2 < den * p.1 then e - 1 else e

/-- **The magnitude nearest to a quotient**, a tie going to the even neighbour.  The result is
not below `magnitudes` when the quotient lies beyond the largest finite real. -/
def roundRatio (num den : Nat) : Nat :=
  if num = 0 then 0
  else
    let q := max (floorLog2 num den - 52) (-1074)
    let p := pow2 q
    roundDiv (num * p.2) (den * p.1) + ((q + 1074).toNat) * leadingBit

/-- The rounded product of two magnitudes. -/
def mulMagnitude (a b : Nat) : Nat :=
  let x := fraction a
  let y := fraction b
  roundRatio (x.1 * y.1) (x.2 * y.2)

/-- The rounded quotient of two magnitudes, the second one positive. -/
def divMagnitude (a b : Nat) : Nat :=
  let x := fraction a
  let y := fraction b
  roundRatio (x.1 * y.2) (x.2 * y.1)

/-! ## 3. Decimal numerals -/

/-- The largest power of ten that is a finite real. -/
def maxPower10 : Nat := 308

/-- The magnitude nearest to a power of ten. -/
def power10 (k : Nat) : Nat := roundRatio (Nat.pow 10 k) 1

/-- A magnitude divided by a power of ten, in steps of at most `maxPower10` that each round.
The steps end early at zero; `steps` bounds their number. -/
def divPower10 : (steps : Nat) → (m k : Nat) → Nat
  | 0, m, _ => m
  | steps + 1, m, k =>
    if k ≤ maxPower10 then divMagnitude m (power10 k)
    else if m = 0 then 0
    else divPower10 steps (divMagnitude m (power10 maxPower10)) (k - maxPower10)

/-- The magnitude of a decimal numeral: the significand is rounded first, then scaled by the
rounded power of ten. -/
def decimalMagnitude (digits : Nat) (exponent : Int) : Nat :=
  let m := roundRatio digits 1
  if 0 ≤ exponent then
    if exponent ≤ maxPower10 then mulMagnitude m (power10 exponent.toNat)
    else if m = 0 then 0
    else magnitudes
  else
    let k := (-exponent).toNat
    divPower10 (k / maxPower10 + 1) m k

/-- **The real of a decimal numeral** `digits * 10 ^ exponent`, `none` beyond the largest. -/
def ofDecimal? (negative : Bool) (digits : Nat) (exponent : Int) : Option Real64 :=
  let m := decimalMagnitude digits exponent
  if h : m < 0x7FF0000000000000 then some ⟨negative, ⟨m, h⟩⟩ else none

end Real64

end ControlPlane
