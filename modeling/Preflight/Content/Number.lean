import Preflight.Binary.Arithmetic
import Preflight.Content.Operand
import Preflight.Decimal.Digits

/-!
# Numbers in content streams

A number is read from a sign, digits, and a point with further digits. Numbers are written in a
compact form without exponent: five decimal places below 1, two up to 32767, none above, and no
zeros at the end.
-/

namespace Preflight

/-! ## Writing -/

/-- A whole part, a point and decimal places; without zeros at the end, and without the point if
nothing follows it. -/
def pointedText (whole places : Bytes) : Bytes :=
  let trimmed := trimZeros places
  if trimmed.isEmpty then whole else whole ++ 0x2E :: trimmed

/-- The text of a number from 0.000015 up. -/
def magnitudeText (x : Double) : Bytes :=
  if x < 1 then
    let raised := x + 0.000005
    if 1 ≤ raised then decimalDigits 1
    else
      let scaled := (raised * 100000).truncate 4294967295
      pointedText (decimalDigits 0) (paddedDigits 5 scaled)
  else if x ≤ 32767 then
    let scaled := ((x + 0.005) * 100).truncate 18446744073709551615
    pointedText (decimalDigits (scaled / 100)) (paddedDigits 2 (scaled % 100))
  else decimalDigits ((x + 0.5).truncate 18446744073709551615)

/-- The text of a number. Magnitudes below 0.000015, infinities and what is not a number are written
as zero. -/
def numberText (x : Double) : Bytes :=
  if !x.isFinite then decimalDigits 0
  else if x.abs < 0.000015 then decimalDigits 0
  else if x < 0 then 0x2D :: magnitudeText x.abs
  else magnitudeText x.abs

/-! ## Reading -/

/-- The parts of a number as written. -/
structure Numeral where
  /-- The sign, if there is one. -/
  sign : Option UInt8
  /-- The digits before the point. -/
  whole : Bytes
  /-- The digits after the point, if there is a point. -/
  places : Option Bytes

namespace Numeral

/-- The bytes of which the number consists. -/
def text (n : Numeral) : Bytes :=
  n.sign.toList ++ n.whole ++ n.places.elim [] (0x2E :: ·)

/-- The longest number without a sign at the front of `input`, to which `sign` belongs, and what
follows it. -/
def readUnsigned (sign : Option UInt8) (input : Bytes) : Numeral × Bytes :=
  let whole := input.takeWhile isDigit
  match input.dropWhile isDigit with
  | [] => (⟨sign, whole, none⟩, [])
  | b :: rest =>
    if b == 0x2E then (⟨sign, whole, some (rest.takeWhile isDigit)⟩, rest.dropWhile isDigit)
    else (⟨sign, whole, none⟩, b :: rest)

/-- The longest number at the front of `input`, and what follows it. -/
def read : Bytes → Numeral × Bytes
  | [] => readUnsigned none []
  | b :: rest =>
    if b == 0x2B || b == 0x2D then readUnsigned (some b) rest else readUnsigned none (b :: rest)

/-- Whether the sign is a minus. -/
def isNegative (n : Numeral) : Bool := n.sign == some 0x2D

/-- The value of a number without a point: there must be a digit, and it must fit 64 bits. -/
def integer? (n : Numeral) : Option Int64 :=
  let magnitude : Int := digitsValue n.whole
  let value := if n.isNegative then -magnitude else magnitude
  if n.whole.isEmpty then none
  else if -9223372036854775808 ≤ value ∧ value ≤ 9223372036854775807 then some (Int64.ofInt value)
  else none

/-- The double nearest to a number with the given decimal places: there must be a digit before or
after the point. -/
def real? (n : Numeral) (places : Bytes) : Option Double :=
  if n.whole.isEmpty && places.isEmpty then none
  else
    let magnitude : Rat := (digitsValue (n.whole ++ places) : Rat) / 10 ^ places.length
    some (Binary.round n.isNegative (if n.isNegative then -magnitude else magnitude))

end Numeral

end Preflight
