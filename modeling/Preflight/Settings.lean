import Preflight.Failure

/-!
# Settings

The required level and the limits within which conversion and checking work.
-/

namespace Preflight

/-- The settings of a conversion or a check. -/
structure Settings where
  level : Level
  /-- The deepest nesting of colors and color spaces. -/
  maxColorDepth : Nat
  /-- The deepest nesting of content streams. -/
  maxRecursionDepth : Nat
  /-- The largest size of a content stream. -/
  maxStreamBytes : Nat
deriving DecidableEq

namespace Settings

/-- The usual limits with a level. -/
def ofLevel (level : Level) : Settings where
  level := level
  maxColorDepth := 16
  maxRecursionDepth := 10
  maxStreamBytes := 104857600

/-- The usual limits, and no level. -/
def usual : Settings := ofLevel .none

/-- Fail for a stream of more bytes than are allowed. -/
def checkSize (settings : Settings) (size : Nat) : Except Failure Unit :=
  if settings.maxStreamBytes < size then
    .error (.limitExceeded .streamBytes settings.maxStreamBytes size)
  else .ok ()

end Settings

end Preflight
