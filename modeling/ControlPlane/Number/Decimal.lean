/-
# Decimal numbers

Natural numbers below a bound, written in decimal.  A plus sign and leading zeros are accepted.

* `Decimal.read`: the number of some characters; the first fault from the left wins.
-/
namespace ControlPlane.Decimal

/-- Why some characters are no number. -/
inductive Fault where
  | empty
  | badDigit
  | tooLarge
  deriving DecidableEq, Repr

/-- The wording of a fault. -/
def Fault.message : Fault → String
  | .empty => "cannot parse integer from empty string"
  | .badDigit => "invalid digit found in string"
  | .tooLarge => "number too large to fit in target type"

/-- The value of a digit. -/
def digit (c : Char) : Nat := c.toNat - '0'.toNat

/-- Reads digits behind a number that has been read so far. -/
def readDigits (bound : Nat) : (sofar : Nat) → List Char → Except Fault Nat
  | n, [] => .ok n
  | n, c :: rest =>
    if !c.isDigit then .error .badDigit
    else if bound ≤ n * 10 + digit c then .error .tooLarge
    else readDigits bound (n * 10 + digit c) rest

/-- **The number of some characters**, below `bound`. -/
def read (bound : Nat) : List Char → Except Fault Nat
  | [] => .error .empty
  | ['+'] => .error .badDigit
  | '+' :: rest => readDigits bound 0 rest
  | cs => readDigits bound 0 cs

end ControlPlane.Decimal
