import Preflight.Check.Content
import Preflight.Check.Font
import Preflight.Check.Graphics

/-!
# Subjects

Anything that is judged by itself. Nothing is required of a subject if no level is required.
-/

namespace Preflight

variable [StreamDecoder]

/-- Something that is judged. -/
inductive Subject where
  /-- A color that content selects. -/
  | color (color : Color)
  | cmyk
  | rgb
  | font (font : Font)
  /-- The dictionary of an image. -/
  | image (document : Option Document) (dictionary : Dictionary)
  /-- A dictionary of graphics state parameters. -/
  | graphicsState (document : Option Document) (dictionary : Dictionary)
  /-- Optional content. -/
  | layer
  /-- A content stream with its own resources. -/
  | content (document : Option Document) (stream : Stream)

/-- The aspect to which a subject belongs. -/
def Subject.aspect : Subject → Aspect
  | color _ => .color
  | cmyk => .cmyk
  | rgb => .rgb
  | font _ => .font
  | image .. => .image
  | graphicsState .. => .graphicsState
  | layer => .layer
  | content .. => .content

/-- Judge a subject by the required level. -/
def Settings.check (settings : Settings) (subject : Subject) : Except StreamFailure Unit :=
  if !settings.level.isRequired then .ok ()
  else
    match subject with
    | .color color => settings.checkColor color
    | .cmyk => .ok ()
    | .rgb => if settings.level.isStrict then .error (.violation .rgb .rgb) else .ok ()
    | .font font => font.check
    | .image document dictionary => settings.checkImage document dictionary
    | .graphicsState document dictionary => checkGraphicsState document dictionary
    | .layer => .error (.violation .layer .layers)
    | .content document stream => do
      let content ← stream.content
      settings.checkContent document content
        ((stream.dictionary.dictionary? document "Resources").getD [])

end Preflight
