import Preflight.Binary.Basic

/-!
# Rounding to nearest

A rational number is rounded to the nearest number of a format; halfway between two of them, to the
one with the even significand, and from half a place above the largest one on, to infinity. The
exact value first selects the place at which the significand ends, the quotient by that place is
rounded to a whole number, and a carry out of the significand moves on to the next exponent by
itself, because ranks of neighbouring exponents are neighbours.
-/

namespace Preflight

/-- The whole number nearest to a non-negative `x`, the even one of two equally near. -/
def nearestNat (x : Rat) : Nat :=
  let whole := x.floor.toNat
  let excess := x - (whole : Rat)
  if excess < 1 / 2 then whole
  else if 1 / 2 < excess then whole + 1
  else whole + whole % 2

/-- The exponent of the largest power of two that is at most a positive `x`. -/
def floorLog2 (x : Rat) : Int :=
  let estimate := (x.num.natAbs.log2 : Int) - (x.den.log2 : Int)
  if (2 : Rat) ^ estimate ≤ x then estimate else estimate - 1

namespace FloatFormat

variable (f : FloatFormat)

/-- The exponent of the last place with which a positive `x` is written in the format. -/
def placeExponent (x : Rat) : Int :=
  let normal := floorLog2 x - (f.fractionBits : Int)
  if normal < f.minExponent then f.minExponent else normal

/-- The rank of the magnitude nearest to a non-negative `x`. -/
def nearestRank (x : Rat) : Nat :=
  if x = 0 then 0
  else
    let place := f.placeExponent x
    let rank := (place - f.minExponent).toNat <<< f.fractionBits + nearestNat (x / 2 ^ place)
    if rank < f.infinityRank then rank else f.infinityRank

end FloatFormat

namespace Binary

variable {f : FloatFormat}

/-- The number nearest to `x`. A zero, also one that `x` rounds to, has the sign of `x`, and exactly
zero has the sign `negativeZero`. -/
def round (negativeZero : Bool) (x : Rat) : Binary f :=
  if x < 0 then ofRank true (f.nearestRank (-x))
  else if x = 0 then zero negativeZero
  else ofRank false (f.nearestRank x)

/-- The number nearest to `x`; exactly zero is positive zero. -/
def ofRat (x : Rat) : Binary f := round false x

/-- The same number in another format, rounded if that has fewer places. What is not a number stays
so and keeps the leading bits of its fraction. -/
def convert {g : FloatFormat} (x : Binary f) : Binary g :=
  if x.isNaN then
    let fraction := x.rank - f.infinityRank
    let kept :=
      if g.fractionBits < f.fractionBits then fraction >>> (f.fractionBits - g.fractionBits)
      else fraction <<< (g.fractionBits - f.fractionBits)
    ofRank x.negative (g.infinityRank + (kept ||| 1 <<< (g.fractionBits - 1)))
  else if x.isFinite then round x.negative x.toRat
  else infinity x.negative

/-- A decimal literal stands for the number nearest to it. -/
instance : OfScientific (Binary f) where
  ofScientific mantissa negativeExponent exponent :=
    ofRat (OfScientific.ofScientific mantissa negativeExponent exponent)

instance {n : Nat} : OfNat (Binary f) n where
  ofNat := ofRat (n : Rat)

instance : Inhabited (Binary f) := ⟨0⟩

end Binary

/-- The double nearest to a whole number. -/
def Double.ofInt (n : Int) : Double := Binary.ofRat (n : Rat)

/-- The nearest single. -/
def Double.toSingle (x : Double) : Single := x.convert

/-- The same number as a double. -/
def Single.toDouble (x : Single) : Double := x.convert

end Preflight
