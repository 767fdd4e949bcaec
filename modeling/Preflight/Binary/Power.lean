import Preflight.Binary.Arithmetic

/-!
# Real powers

The one operation on doubles that is not exact arithmetic followed by rounding.
-/

namespace Preflight

/-- A real power, to the accuracy of the machine. -/
def Double.pow (x y : Double) : Double :=
  Binary.ofBits
    ((Float.ofBits (UInt64.ofNat x.toBits)).pow (Float.ofBits (UInt64.ofNat y.toBits))).toBits.toNat

end Preflight
