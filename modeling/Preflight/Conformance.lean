import Preflight.Binary.Basic
import Preflight.Decimal.Text

/-!
# Conformance

A document can be required to conform to a level of the print or archival standards. A construct
that the level does not allow is a violation; it belongs to the aspect of the document that was
judged.
-/

namespace Preflight

/-- The conformance that is required of a document. -/
inductive Level where
  /-- Nothing is required. -/
  | none
  /-- PDF/X-1a:2001, for CMYK and spot colors only. -/
  | x1a
  /-- PDF/X-3:2002, for managed colors too. -/
  | x3
  /-- PDF/A-1a, archival and accessible. -/
  | a1a
  /-- PDF/A-1b, archival. -/
  | a1b
deriving DecidableEq, Inhabited

namespace Level

/-- Whether anything is required. -/
def isRequired : Level → Bool
  | none => false
  | _ => true

/-- Whether color spaces are restricted. -/
def isStrict : Level → Bool
  | x1a => true
  | _ => false

/-- Whether the level is archival. -/
def isArchival : Level → Bool
  | a1a | a1b => true
  | _ => false

/-- The version that a document of a print level names. -/
def version? : Level → Option String
  | x1a => some "PDF/X-1:2001"
  | x3 => some "PDF/X-3:2002"
  | _ => Option.none

/-- The name of a level. -/
def text : Level → String
  | none => "none"
  | x1a => "PDF/X-1a:2001"
  | x3 => "PDF/X-3:2002"
  | a1a => "PDF/A-1a"
  | a1b => "PDF/A-1b"

/-- The level that a selector in letters of either case stands for. -/
def ofSelector? (selector : String) : Option Level :=
  let upper := selector.toUpper
  if upper = "NONE" then some none
  else if upper = "PDFX1A" ∨ upper = "PDFX1A2001" then some x1a
  else if upper = "PDFX3" ∨ upper = "PDFX32002" then some x3
  else if upper = "PDFA1A" then some a1a
  else if upper = "PDFA1B" then some a1b
  else Option.none

/-- The message for a selector that stands for no level. -/
def unknownMessage (selector : String) : String := "invalid conformance level: " ++ selector

end Level

/-- An aspect of a document that is judged. -/
inductive Aspect where
  /-- The colors that content selects. -/
  | color
  | cmyk
  | rgb
  | font
  | image
  | graphicsState
  /-- Optional content. -/
  | layer
  /-- Nested content streams. -/
  | content
deriving DecidableEq, Inhabited

namespace Aspect

/-- The tag of an aspect. -/
def tag : Aspect → String
  | color => "COLOR"
  | cmyk => "CMYK"
  | rgb => "RGB"
  | font => "FONT"
  | image => "IMAGE"
  | graphicsState => "GSTATE"
  | layer => "LAYER"
  | content => "CONTENT"

/-- All aspects. -/
def all : List Aspect := [color, cmyk, rgb, font, image, graphicsState, layer, content]

/-- The aspect with a tag. -/
def ofTag? (tag : String) : Option Aspect := all.find? fun aspect => aspect.tag == tag

end Aspect

/-- Why a construct is not allowed. -/
inductive Objection where
  | rgb
  | calRgb
  /-- It is a font without its program. -/
  | fontNotEmbedded (name : String)
  | softMask
  /-- It blends colors. -/
  | blendMode (mode : String)
  /-- It lets paint shine through: the parameter `key` is not 1. -/
  | transparency (key : String) (alpha : Single)
  /-- It is optional content. -/
  | layers
  /-- A reason in words. -/
  | described (text : String)
deriving DecidableEq

/-- The wording of an objection. -/
def Objection.message : Objection → String
  | rgb => "Colorspace RGB is not allowed."
  | calRgb => "Colorspace CalRGB is not allowed."
  | fontNotEmbedded name => "All the fonts must be embedded. This one isn't: " ++ name
  | softMask => "Soft masks are not allowed."
  | blendMode mode => "Blend mode " ++ mode ++ " not allowed."
  | transparency key alpha =>
    "Transparency is not allowed: /" ++ key ++ " = " ++ alpha.text Decimal.plain
  | layers => "Layers are not allowed."
  | described text => text

/-- A construct that the required level does not allow. -/
structure Violation where
  aspect : Aspect
  objection : Objection
deriving DecidableEq

/-- The message of a violation. -/
def Violation.message (violation : Violation) : String :=
  "PDF/X conformance violation [" ++ violation.aspect.tag ++ "]: " ++ violation.objection.message

end Preflight
