/-
# The fewest digits that read back

A finite real is written with the fewest significant decimal digits that no other real is
nearest to; of two such numerals the nearer one is taken, and of two equally near ones the one
with an even last digit.  `Real64.text` lays the digits out: positional notation from `1e-5` up
to below `1e16`, with a fraction always present, and otherwise one digit before the point and a
signed exponent.
-/
import ControlPlane.Number.Real64

namespace ControlPlane

namespace Real64

/-- A positive decimal numeral: the digits, and the exponent of ten of the first one. -/
structure Numeral where
  digits : List Char
  exponent : Int
  deriving DecidableEq, Repr

/-! ## 1. The interval of a magnitude -/

/-- Four times a magnitude's significand with the bounds of what rounds to it, all in units of a
quarter of the last place.  The lower gap is half as wide at a power of two. -/
def quarters (m : Nat) : Nat × Nat × Nat :=
  let s := significand m
  let below := if s = leadingBit ∧ 2 * leadingBit ≤ m then 1 else 2
  (4 * s - below, 4 * s, 4 * s + 2)

/-- A power of ten with an integer exponent, as a numerator and a denominator. -/
def pow10 (p : Int) : Nat × Nat := (Nat.pow 10 p.toNat, Nat.pow 10 (-p).toNat)

/-- The exponent of ten of the first digit of the positive quotient `num / den`. -/
def floorLog10 (num den : Nat) : Int :=
  if den ≤ num then Int.ofNat (Nat.toDigits 10 (num / den)).length - 1
  else -Int.ofNat (Nat.toDigits 10 ((num + den - 1) / num - 1)).length

/-! ## 2. The search -/

/-- The multiple of `10 ^ p` that stands for a magnitude, when one of its two neighbours on that
grid rounds to it. -/
def onGrid? (m : Nat) (p : Int) : Option Nat :=
  let (lo, mid, hi) := quarters m
  let two := pow2 (scale m)
  let ten := pow10 p
  -- A grid point `d` stands for `d * unit`, a bound `x` for `x * quarter`.
  let quarter := two.1 * ten.2
  let unit := 4 * two.2 * ten.1
  let d := mid * quarter / unit
  let even := significand m % 2 = 0
  let inside (d : Nat) : Bool :=
    if even then lo * quarter ≤ d * unit && d * unit ≤ hi * quarter
    else lo * quarter < d * unit && d * unit < hi * quarter
  match inside d && d != 0, inside (d + 1) with
  | true, true =>
    let down := mid * quarter - d * unit
    let up := (d + 1) * unit - mid * quarter
    if down < up then some d
    else if up < down then some (d + 1)
    else if d % 2 = 0 then some d else some (d + 1)
  | true, false => some d
  | false, true => some (d + 1)
  | false, false => none

/-- The first grid with a hit, from the coarsest, and the hit on it. -/
def search (m : Nat) (first : Int) : (left : Nat) → Nat → Nat × Int
  | 0, _ => (0, 0)
  | left + 1, count =>
    let p := first - Int.ofNat count
    match onGrid? m p with
    | some d => (d, p)
    | none => search m first left (count + 1)

/-- Digits without the zeros at their end. -/
def dropZeros (ds : List Char) : List Char := (ds.reverse.dropWhile (· == '0')).reverse

/-- **The shortest numeral of a positive magnitude.** -/
def shortest (m : Nat) : Numeral :=
  let f := fraction m
  let (d, p) := search m (floorLog10 f.1 f.2) 17 0
  let ds := Nat.toDigits 10 d
  ⟨dropZeros ds, p + Int.ofNat ds.length - 1⟩

/-! ## 3. The layout -/

/-- How numerals are laid out. -/
structure Layout where
  /-- The least exponent written in positional notation. -/
  leastPositional : Int
  /-- The greatest exponent written in positional notation. -/
  greatestPositional : Int
  /-- The mark between the digits and the exponent. -/
  mark : Char

/-- The layout of reals in JSON text. -/
def layout : Layout := ⟨-5, 15, 'e'⟩

/-- The digits behind a point, at least one. -/
def afterPoint (ds : List Char) : List Char := '.' :: (if ds.isEmpty then ['0'] else ds)

/-- A numeral in positional notation. -/
def Numeral.positional (n : Numeral) : List Char :=
  if n.exponent < 0 then
    '0' :: '.' :: (List.replicate ((-n.exponent).toNat - 1) '0' ++ n.digits)
  else
    let whole := n.exponent.toNat + 1
    let ds := n.digits ++ List.replicate (whole - n.digits.length) '0'
    ds.take whole ++ afterPoint (ds.drop whole)

/-- A numeral with one digit before the point and a signed exponent. -/
def Numeral.scientific (mark : Char) (n : Numeral) : List Char :=
  let lead := n.digits.take 1 ++
    (match n.digits.drop 1 with
      | [] => []
      | rest => '.' :: rest)
  let sign := if n.exponent < 0 then '-' else '+'
  lead ++ mark :: sign :: Nat.toDigits 10 n.exponent.natAbs

/-- A numeral as a layout writes it. -/
def Numeral.layOut (l : Layout) (n : Numeral) : List Char :=
  if l.leastPositional ≤ n.exponent ∧ n.exponent ≤ l.greatestPositional then n.positional
  else n.scientific l.mark

/-- The characters of a real. -/
def chars (x : Real64) : List Char :=
  let sign := if x.negative then ['-'] else []
  sign ++ (if x.magnitude.val = 0 then ['0', '.', '0']
    else (shortest x.magnitude.val).layOut layout)

/-- **The text of a real.** -/
def text (x : Real64) : String := String.ofList x.chars

end Real64

end ControlPlane
