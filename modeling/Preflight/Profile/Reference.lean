import Preflight.Binary.Power

/-!
# Reference color spaces

Colors are converted by way of the CIE color values relative to the white of daylight D50. The
reference spaces connect device numbers with them: standard RGB, with its own curve on each
component, and gray as plain luminance.
-/

namespace Preflight

/-- Color values of a CIE observer, relative to the white of D50. -/
structure Xyz where
  x : Double
  /-- The luminance. -/
  y : Double
  z : Double

/-- Red, green and blue. -/
structure Rgb (α : Type) where
  red : α
  green : α
  blue : α
deriving DecidableEq

/-- Apply a function to each component. -/
def Rgb.map {α β : Type} (f : α → β) (color : Rgb α) : Rgb β :=
  ⟨f color.red, f color.green, f color.blue⟩

/-- A number cut to the range from 0 to 1; what is not even at most itself becomes 0. -/
def clampUnit {α : Type} [LT α] [LE α] [DecidableLT α] [DecidableLE α] [OfNat α 0] [OfNat α 1]
    (x : α) : α :=
  if x < 0 then 0 else if 1 < x then 1 else if x ≤ x then x else 0

/-! ## Matrices -/

/-- Three numbers. -/
structure Triple where
  first : Double
  second : Double
  third : Double

/-- A square matrix of three rows. -/
structure Matrix where
  top : Triple
  middle : Triple
  bottom : Triple

/-- The product of a row and a column. -/
def Triple.dot (row column : Triple) : Double :=
  row.first * column.first + row.second * column.second + row.third * column.third

namespace Matrix

/-- The product of a matrix and a column. -/
def apply (m : Matrix) (column : Triple) : Triple :=
  ⟨m.top.dot column, m.middle.dot column, m.bottom.dot column⟩

/-- The inverse of a matrix with a determinant other than zero, from its cofactors. -/
def inverse (m : Matrix) : Matrix :=
  let ⟨⟨a, b, c⟩, ⟨d, e, f⟩, ⟨g, h, i⟩⟩ := m
  let first := e * i - f * h
  let second := -(d * i - f * g)
  let third := d * h - e * g
  let scale := 1 / (a * first + b * second + c * third)
  ⟨⟨first * scale, -(b * i - c * h) * scale, (b * f - c * e) * scale⟩,
   ⟨second * scale, (a * i - c * g) * scale, -(a * f - c * d) * scale⟩,
   ⟨third * scale, -(a * h - b * g) * scale, (a * e - b * d) * scale⟩⟩

end Matrix

/-! ## Standard RGB -/

namespace StandardRgb

/-- From linear components to color values. -/
def toValues : Matrix :=
  ⟨⟨0.4360747, 0.3850649, 0.1430804⟩,
   ⟨0.2225045, 0.7168786, 0.0606169⟩,
   ⟨0.0139322, 0.0971045, 0.7141733⟩⟩

/-- From color values to linear components. -/
def ofValues : Matrix := toValues.inverse

/-- The linear component of an encoded one. -/
def linearize (component : Double) : Double :=
  let v := clampUnit component
  if v ≤ 0.04045 then v / 12.92 else Double.pow ((v + 0.055) / 1.055) 2.4

/-- The encoded component of a linear one. -/
def encode (component : Double) : Double :=
  let v := clampUnit component
  if v ≤ 0.0031308 then v * 12.92 else 1.055 * Double.pow v (1 / 2.4) - 0.055

/-- The color values of encoded components. -/
def toXyz (color : Rgb Double) : Xyz :=
  let linear := color.map linearize
  let ⟨x, y, z⟩ := toValues.apply ⟨linear.red, linear.green, linear.blue⟩
  ⟨x, y, z⟩

/-- The encoded components of color values, those out of range cut off. -/
def ofXyz (color : Xyz) : Rgb Double :=
  let ⟨red, green, blue⟩ := ofValues.apply ⟨color.x, color.y, color.z⟩
  ⟨encode red, encode green, encode blue⟩

end StandardRgb

/-! ## Gray -/

namespace StandardGray

/-- White. -/
def white : Xyz := ⟨0.96422, 1, 0.82521⟩

/-- The color values of a shade. -/
def toXyz (level : Double) : Xyz :=
  let v := clampUnit level
  ⟨white.x * v, white.y * v, white.z * v⟩

/-- The shade of the same luminance. -/
def ofXyz (color : Xyz) : Double := clampUnit color.y

end StandardGray

end Preflight
