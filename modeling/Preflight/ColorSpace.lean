import Preflight.Bytes

/-!
# Color spaces

A color space says how many numbers make a color and what they mean. Special spaces refer to another
space: the alternate or base in which their colors can also be given.
-/

namespace Preflight

/-- A color space. -/
inductive ColorSpace where
  | deviceGray
  | deviceRgb
  | deviceCmyk
  | calGray
  | calRgb
  /-- Lightness and two opponent colors. -/
  | lab
  /-- The space of a profile with this many components. -/
  | iccBased (components : Nat) (alternate : ColorSpace)
  /-- A palette of colors of the base, numbered from 0 to `last`. -/
  | indexed (base : ColorSpace) (last : Nat) (palette : Bytes)
  /-- A single named colorant. -/
  | separation (name : String) (alternate : ColorSpace)
  /-- Several named colorants. -/
  | deviceN (names : List String) (alternate : ColorSpace)
  /-- Patterns that have colors of their own. -/
  | pattern
  /-- Patterns that are painted in a color of the underlying space. -/
  | patternOver (underlying : ColorSpace)
deriving DecidableEq, Inhabited

namespace ColorSpace

/-- The number of components of a color; a pattern needs none of its own. -/
def componentCount : ColorSpace → Nat
  | deviceGray | calGray | indexed .. | separation .. => 1
  | deviceRgb | calRgb | lab => 3
  | deviceCmyk => 4
  | iccBased components _ => components
  | deviceN names _ => names.length
  | pattern => 0
  | patternOver underlying => underlying.componentCount

/-- The device spaces by their full names. -/
def ofDeviceName? (name : String) : Option ColorSpace :=
  if name = "DeviceGray" then some deviceGray
  else if name = "DeviceRGB" then some deviceRgb
  else if name = "DeviceCMYK" then some deviceCmyk
  else none

/-- The device space with this many components, and RGB for any other number. -/
def ofComponentCount (count : Nat) : ColorSpace :=
  if count = 1 then deviceGray else if count = 4 then deviceCmyk else deviceRgb

/-- The spaces that a name denotes by itself: the device spaces, also by their short names, and the
space of patterns. -/
def ofFamilyName? (name : String) : Option ColorSpace :=
  if name = "G" then some deviceGray
  else if name = "RGB" then some deviceRgb
  else if name = "CMYK" then some deviceCmyk
  else if name = "Pattern" then some pattern
  else ofDeviceName? name

end ColorSpace

end Preflight
