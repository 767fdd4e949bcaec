import Preflight.Binary.Rounding

/-!
# The shortest decimal of a binary number

A decimal stands for the binary number that is nearest to it, so a number has many decimals. The
shortest one is searched grid by grid: on the grid of `n` significant digits only the two neighbours
of the exact value can be nearest to it, and the first grid on which a neighbour reads back as the
same number wins. Of two such neighbours the nearer is taken, and the upper one of two equally near.
-/

namespace Preflight

/-- A decimal number `coefficient * 10 ^ exponent`. -/
structure Decimal where
  /-- The digits, as one number. -/
  coefficient : Nat
  /-- The power of ten of the last digit. -/
  exponent : Int
deriving DecidableEq

namespace Decimal

/-- The exact value. -/
def toRat (d : Decimal) : Rat := (d.coefficient : Rat) * 10 ^ d.exponent

/-- The digits of the coefficient. -/
def digits (d : Decimal) : List Char := Nat.toDigits 10 d.coefficient

/-- The same value with trailing zeros of the coefficient moved into the exponent, as far as `limit`
digits. -/
def trim (limit : Nat) (d : Decimal) : Decimal :=
  match limit with
  | 0 => d
  | n + 1 =>
    if d.coefficient ≠ 0 ∧ d.coefficient % 10 = 0 then trim n ⟨d.coefficient / 10, d.exponent + 1⟩
    else d

end Decimal

/-- The exponent of the largest power of ten that is at most a positive `x`. -/
def floorLog10 (x : Rat) : Int :=
  let estimate :=
    ((Nat.toDigits 10 x.num.natAbs).length : Int) - ((Nat.toDigits 10 x.den).length : Int)
  if (10 : Rat) ^ estimate ≤ x then estimate else estimate - 1

namespace FloatFormat

variable (f : FloatFormat)

/-- A count of digits with which every number of the format can be written: one more than those that
the significand spans. -/
def sufficientDigits : Nat := f.fractionBits * 3 / 10 + 3

/-- The neighbour of the magnitude of `rank` among the decimals that end at the power `place` of
ten, if one of the two reads back as `rank`. -/
def decimalAt? (rank : Nat) (place : Int) : Option Decimal :=
  let scaled := f.magnitude rank / 10 ^ place
  let below := scaled.floor.toNat
  let readsBack (coefficient : Nat) : Bool :=
    f.nearestRank (Decimal.toRat ⟨coefficient, place⟩) == rank
  match readsBack below, readsBack (below + 1) with
  | true, true => some ⟨if scaled - (below : Rat) < 1 / 2 then below else below + 1, place⟩
  | true, false => some ⟨below, place⟩
  | false, true => some ⟨below + 1, place⟩
  | false, false => none

/-- The shortest decimal that reads back as the finite `rank`, whose leading digit stands at the
power `leading` of ten: grids of `count` digits and more are tried, at most `more` of them. -/
def shortestFrom (rank : Nat) (leading : Int) (count more : Nat) : Decimal :=
  match more with
  | 0 => ⟨0, 0⟩
  | n + 1 =>
    match f.decimalAt? rank (leading + 1 - (count : Int)) with
    | some d => d
    | none => shortestFrom rank leading (count + 1) n

end FloatFormat

/-- The shortest decimal that reads back as the magnitude of a finite number. -/
def Binary.shortest {f : FloatFormat} (x : Binary f) : Decimal :=
  if x.rank = 0 then ⟨0, 0⟩
  else
    let digits := f.sufficientDigits
    (f.shortestFrom x.rank (floorLog10 (f.magnitude x.rank)) 1 digits).trim digits

end Preflight
