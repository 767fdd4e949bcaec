import Preflight.Color
import Preflight.Profile.Calibration
import Preflight.Profile.Cmyk
import Preflight.Text.Quoted

/-!
# Conversion to an output profile

A converter brings gray and RGB colors into the inks of an output profile. CMYK colors are given in
inks already, and colors that refer to others are left alone.
-/

namespace Preflight

/-- The target of a conversion: how color values become inks, and what color inks have. -/
structure OutputProfile where
  name : String
  /-- The inks for color values. -/
  ofXyz : Xyz → Cmyk Double
  /-- The color values of inks. -/
  toXyz : Cmyk Double → Xyz

namespace OutputProfile

/-- Inks without calibration, by gray component replacement. -/
def device : OutputProfile where
  name := "DeviceCMYK"
  ofXyz color := (StandardRgb.ofXyz color).toCmyk Double.tolerance
  toXyz inks := StandardRgb.toXyz inks.toRgb

/-- Inks by calibration data, and where these have none, without calibration. -/
def calibrated (calibration : Calibration) : OutputProfile where
  name := calibration.name
  ofXyz color :=
    let color := StandardRgb.ofXyz color
    match calibration.forward color with
    | some inks => inks.map clampUnit
    | none => color.toCmyk Double.tolerance
  toXyz inks :=
    let inks := inks.map clampUnit
    StandardRgb.toXyz ((calibration.inverse inks).getD inks.toRgb)

end OutputProfile

/-- A conversion to an output profile. -/
structure Converter where
  output : OutputProfile

namespace Converter

/-- The conversion to inks without calibration. -/
def device : Converter := ⟨.device⟩

/-- The conversion by calibration data. -/
def ofCalibration [CalibrationEngine] (data : Bytes) : Except ProfileFault Converter :=
  (Calibration.read data).map fun calibration => ⟨.calibrated calibration⟩

/-- The CMYK color of color values. -/
def ofXyz (converter : Converter) (color : Xyz) : Color :=
  let inks := (converter.output.ofXyz color).map Double.toSingle
  .ofCmyk inks.cyan inks.magenta inks.yellow inks.black

/-- A color in the output profile. -/
def convert (converter : Converter) (color : Color) : Color :=
  match color with
  | .gray level => converter.ofXyz (StandardGray.toXyz level.toDouble)
  | .rgb red green blue =>
    converter.ofXyz (StandardRgb.toXyz ⟨red.toDouble, green.toDouble, blue.toDouble⟩)
  | _ => color

/-- The RGB color of inks. -/
def reverse (converter : Converter) (inks : Cmyk Single) : Color :=
  let color := (StandardRgb.ofXyz (converter.output.toXyz (inks.map Single.toDouble))).map
    Double.toSingle
  .ofRgb color.red color.green color.blue

/-- The text by which a converter is shown. -/
def describe (converter : Converter) : String :=
  "ColorSpaceConverter \x7b output: " ++ Quoted.ofString converter.output.name ++ " \x7d"

end Converter

/-- The text by which a calibration is shown. -/
def Calibration.describe (calibration : Calibration) : String :=
  "CalibrationProfile \x7b description: " ++ Quoted.ofString calibration.name ++ ", size: "
    ++ toString calibration.size ++ ", .. \x7d"

end Preflight
