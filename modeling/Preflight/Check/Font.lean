import Preflight.Document
import Preflight.Failure

/-!
# Rules for fonts

A document that is printed elsewhere has to bring the programs of its fonts with it.
-/

namespace Preflight

/-- What matters of a font. -/
structure Font where
  name : String
  /-- Whether the document holds the font's program. -/
  isEmbedded : Bool
deriving DecidableEq

namespace Font

/-- Whether the descriptor of a font names a program. -/
def hasProgram (document : Option Document) (font : Dictionary) : Bool :=
  match font.dictionary? document "FontDescriptor" with
  | some descriptor =>
    descriptor.has "FontFile" || descriptor.has "FontFile2" || descriptor.has "FontFile3"
  | none => false

/-- The first of the fonts of which a composite font is made. -/
def descendant? (document : Option Document) (font : Dictionary) : Option Dictionary := do
  let descendants ← (font.resolved? document "DescendantFonts").bind Object.array?
  let first ← descendants.head?
  (first.resolve document).dictionary?

/-- What a font dictionary says. The glyphs of a font of type 3 are part of the document, and a
composite font is judged by its first descendant. -/
def ofDictionary (document : Option Document) (font : Dictionary) : Font where
  name := ((font.resolved? document "BaseFont").bind Object.name?).getD "unknown"
  isEmbedded :=
    match (font.resolved? document "Subtype").bind Object.name? with
    | some "Type3" => true
    | some "Type0" =>
      match descendant? document font with
      | some descendant => hasProgram document descendant
      | none => false
    | _ => hasProgram document font

/-- Judge a font. -/
def check (font : Font) : Except StreamFailure Unit :=
  if font.isEmbedded then .ok ()
  else .error (.violation .font (.fontNotEmbedded font.name))

end Font

end Preflight
