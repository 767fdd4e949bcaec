import Preflight.Color
import Preflight.Settings

/-!
# Rules for colors

The strict level has no place for RGB: neither device nor calibrated RGB may occur in a color, in a
space that it refers to, or in the space in whose colors it is painted. Other levels allow every
color.
-/

namespace Preflight

/-- Judge a color space with `levels` of nesting left out of `maxDepth` and one. -/
def ColorSpace.checkWithin (maxDepth : Nat) (levels : Nat) (space : ColorSpace) :
    Except StreamFailure Unit :=
  match levels with
  | 0 => .error (.limitExceeded .colorDepth maxDepth (maxDepth + 1))
  | level + 1 =>
    match space with
    | deviceGray | deviceCmyk | calGray | lab | pattern => .ok ()
    | deviceRgb => .error (.violation .color .rgb)
    | calRgb => .error (.violation .color .calRgb)
    | iccBased _ inner | indexed inner _ _ | separation _ inner | deviceN _ inner
    | patternOver inner => inner.checkWithin maxDepth level

/-- Judge a color with `levels` of nesting left out of `maxDepth` and one. -/
def Color.checkWithin (maxDepth : Nat) (levels : Nat) (color : Color) : Except StreamFailure Unit :=
  match levels with
  | 0 => .error (.limitExceeded .colorDepth maxDepth (maxDepth + 1))
  | level + 1 =>
    match color with
    | gray _ | cmyk .. => .ok ()
    | rgb .. => .error (.violation .color .rgb)
    | separation _ _ inner | pattern inner => inner.checkWithin maxDepth level
    | shading space => space.checkWithin maxDepth level

/-- Judge a color by the required level. -/
def Settings.checkColor (settings : Settings) (color : Color) : Except StreamFailure Unit :=
  if settings.level.isStrict then
    color.checkWithin settings.maxColorDepth (settings.maxColorDepth + 1)
  else .ok ()

end Preflight
