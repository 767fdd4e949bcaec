import Preflight.Decimal.Shortest

/-!
# Decimal texts

How a decimal is written: with a point among its digits, or as a coefficient of one digit before the
point and a power of ten. A style says up to which powers of ten the first form is used.
-/

namespace Preflight

namespace Decimal

/-- The choices of a text form for binary numbers. -/
structure Style where
  /-- Whether a number whose leading digit stands at this power of ten is written without one. -/
  positional : Int → Bool
  /-- What follows the digits of a whole number. -/
  afterWhole : String

/-- Every number with the point among its digits, and none for whole numbers. -/
def plain : Style := ⟨fun _ => true, ""⟩

/-- The point among the digits from `0.0001` to below `10 ^ 16`, and always a point. -/
def pointed : Style := ⟨fun leading => -4 ≤ leading && leading < 16, ".0"⟩

/-- The power of ten of the leading digit. -/
def leading (d : Decimal) : Int := d.exponent + (d.digits.length : Int) - 1

/-- The digits with the point among them. -/
def positionalText (style : Style) (d : Decimal) : String :=
  if 0 ≤ d.exponent then
    String.ofList (d.digits ++ List.replicate d.exponent.toNat '0') ++ style.afterWhole
  else
    let places := d.exponent.natAbs
    let padded := List.replicate (places + 1 - d.digits.length) '0' ++ d.digits
    let whole := padded.length - places
    String.ofList (padded.take whole) ++ "." ++ String.ofList (padded.drop whole)

/-- One digit, the point and the further digits if there are any, and the power of ten. -/
def exponentText (d : Decimal) : String :=
  let further := d.digits.drop 1
  let point := if further.isEmpty then "" else "."
  String.ofList (d.digits.take 1) ++ point ++ String.ofList further ++ "e" ++ toString d.leading

/-- The text of a decimal in a style. -/
def text (style : Style) (d : Decimal) : String :=
  if d.coefficient = 0 ∨ style.positional d.leading then d.positionalText style
  else d.exponentText

/-- `x` with a fixed number of decimal places, a half going to the even neighbour. A value that
rounds to zero has no sign. -/
def fixed (places : Nat) (x : Rat) : String :=
  let scaled := nearestNat ((if x < 0 then -x else x) * 10 ^ places)
  let digits := Nat.toDigits 10 scaled
  let padded := List.replicate (places + 1 - digits.length) '0' ++ digits
  let whole := padded.length - places
  (if x < 0 ∧ scaled ≠ 0 then "-" else "")
    ++ String.ofList (padded.take whole) ++ "." ++ String.ofList (padded.drop whole)

end Decimal

/-- The text of a binary number: the shortest decimal that reads back, with a sign for negative
numbers, negative zero among them. -/
def Binary.text {f : FloatFormat} (style : Decimal.Style) (x : Binary f) : String :=
  if x.isNaN then "NaN"
  else
    let magnitude := if x.isFinite then x.shortest.text style else "inf"
    if x.negative then "-" ++ magnitude else magnitude

end Preflight
