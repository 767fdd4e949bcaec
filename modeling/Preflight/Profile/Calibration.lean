import Preflight.Bytes
import Preflight.Profile.Cmyk
import Preflight.Text.Space
import Preflight.Text.Utf8

/-!
# Calibration data

An output profile can be given as calibration data. Their header is read here. What they say about
colors is not described: it is left to an engine that is given, which makes of the data a
transformation from standard RGB to inks and one back.
-/

namespace Preflight

/-- A profile as an engine reads it. -/
structure EngineProfile where
  /-- Whether the device space is CMYK. -/
  isCmyk : Bool
  /-- The inks for colors, as far as there are any, or why there is no such transformation. -/
  forward : Except String (Rgb Double → Option (Cmyk Double))
  /-- The colors of inks, as far as there are any, or why there is no such transformation. -/
  inverse : Except String (Cmyk Double → Option (Rgb Double))

/-- An engine that reads calibration data. -/
class CalibrationEngine where
  /-- The profile that data describe, or why they describe none. -/
  read : Bytes → Except String EngineProfile

/-- Why calibration data cannot be used. -/
inductive ProfileFault where
  /-- There are fewer bytes than a header has. -/
  | tooShort (size : Nat)
  /-- The header has not the signature of a profile. -/
  | signature
  /-- The size in the header is none that `actual` bytes can have. -/
  | declaredSize (declared actual : Nat)
  /-- The device space that the header names is not CMYK. -/
  | notCmyk (space : String)
  /-- The engine cannot read the data. -/
  | unreadable (text : String)
  /-- The engine reads data for another device space. -/
  | otherSpace
  /-- There is no transformation to inks. -/
  | noForward (text : String)
  /-- There is no transformation to colors. -/
  | noInverse (text : String)
  /-- A problem in words. -/
  | described (text : String)
deriving DecidableEq

/-- The wording of a profile fault. -/
def ProfileFault.message : ProfileFault → String
  | tooShort size => "profile too short: " ++ toString size ++ " bytes"
  | signature => "missing 'acsp' profile signature"
  | declaredSize declared actual =>
    "declared profile size " ++ toString declared ++ " does not match data length "
      ++ toString actual
  | notCmyk space => "output profile must be CMYK, found '" ++ space ++ "'"
  | unreadable text => "invalid ICC profile: " ++ text
  | otherSpace => "output profile must be CMYK"
  | noForward text => "cannot build RGB to CMYK transform: " ++ text
  | noInverse text => "cannot build CMYK to RGB transform: " ++ text
  | described text => text

/-- The calibration that is read from a profile. -/
structure Calibration where
  size : Nat
  major : Nat
  minor : Nat
  /-- The inks for colors, as far as there are any. -/
  forward : Rgb Double → Option (Cmyk Double)
  /-- The colors of inks, as far as there are any. -/
  inverse : Cmyk Double → Option (Rgb Double)

namespace Calibration

/-- The number of bytes of a header. -/
def headerSize : Nat := 128

/-- The `count` bytes from `start` on. -/
def slice (data : Bytes) (start count : Nat) : Bytes := (data.drop start).take count

/-- The number with the given bytes, the most significant first. -/
def bigEndian (data : Bytes) : Nat := data.foldl (fun value b => value * 256 + b.toNat) 0

/-- Check the header of calibration data. The result is the size that it declares. -/
def checkHeader (data : Bytes) : Except ProfileFault Nat :=
  let declared := bigEndian (slice data 0 4)
  let space := slice data 16 4
  if data.length < headerSize then .error (.tooShort data.length)
  else if slice data 36 4 ≠ Bytes.ofLatin "acsp" then .error .signature
  else if declared < headerSize ∨ data.length < declared then
    .error (.declaredSize declared data.length)
  else if space ≠ Bytes.ofLatin "CMYK" then .error (.notCmyk (trimSpaceEnd (Utf8.decode space)))
  else .ok declared

/-- Read calibration data. Bytes behind the declared size are ignored. -/
def read [CalibrationEngine] (data : Bytes) : Except ProfileFault Calibration := do
  let size ← checkHeader data
  let profile ← (CalibrationEngine.read (data.take size)).mapError .unreadable
  if !profile.isCmyk then throw .otherSpace
  let forward ← profile.forward.mapError .noForward
  let inverse ← profile.inverse.mapError .noInverse
  return {
    size, forward, inverse
    major := bigEndian (slice data 8 1)
    minor := bigEndian (slice data 9 1) / 16 }

/-- The description of a calibration. -/
def name (calibration : Calibration) : String :=
  "ICC CMYK v" ++ toString calibration.major ++ "." ++ toString calibration.minor

end Calibration

end Preflight
