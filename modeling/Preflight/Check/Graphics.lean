import Preflight.ColorSpace.Resolve
import Preflight.Settings

/-!
# Rules for images and graphics states

Paint may not shine through: soft masks, blend modes and alpha values other than 1 are not allowed.
The strict level has no place for images in RGB.
-/

namespace Preflight

variable [StreamDecoder]

/-- Judge the color space of an image: the name of device RGB, and an array that defines calibrated
RGB, are not allowed. -/
def Settings.checkImageSpace (settings : Settings) (document : Option Document) (space : Object) :
    Except StreamFailure Unit :=
  match space with
  | .name bytes =>
    if bytes = Bytes.ofLatin "DeviceRGB" then .error (.violation .image .rgb) else .ok ()
  | .array _ => do
    match ← ColorSpace.resolve document settings.maxColorDepth space with
    | some .calRgb => .error (.violation .image .calRgb)
    | _ => return ()
  | _ => .ok ()

/-- Judge the dictionary of an image. -/
def Settings.checkImage (settings : Settings) (document : Option Document) (image : Dictionary) :
    Except StreamFailure Unit :=
  if image.has "SMask" then .error (.violation .image .softMask)
  else if settings.level.isStrict then
    match image.resolved? document "ColorSpace" with
    | some space => settings.checkImageSpace document space
    | none => .ok ()
  else .ok ()

/-- The blend mode of a graphics state: a name, or the first of several. -/
def blendMode? (document : Option Document) (state : Dictionary) : Option String :=
  match state.resolved? document "BM" with
  | some (.array modes) => modes.head?.bind fun mode => (mode.resolve document).name?
  | some mode => mode.name?
  | none => none

/-- Judge an alpha value of a graphics state. -/
def checkAlpha (document : Option Document) (state : Dictionary) (key : String) :
    Except StreamFailure Unit :=
  match (state.resolved? document key).bind Object.number? with
  | some alpha =>
    if alpha.numEq 1 then .ok ()
    else .error (.violation .graphicsState (.transparency key alpha.toSingle))
  | none => .ok ()

/-- Judge a dictionary of graphics state parameters. -/
def checkGraphicsState (document : Option Document) (state : Dictionary) :
    Except StreamFailure Unit := do
  match blendMode? document state with
  | none | some "Normal" | some "Compatible" => pure ()
  | some mode => throw (.violation .graphicsState (.blendMode mode))
  checkAlpha document state "CA"
  checkAlpha document state "ca"

end Preflight
