import Preflight.Edit

/-!
# Metadata

A document that conforms to a print level says so: its information dictionary names the version of
the standard and some facts of the document, and its catalog names the printing condition that is
intended. What a document already says stays.
-/

namespace Preflight

/-- Put an object under a key that has none. -/
def Dictionary.setDefault (dictionary : Dictionary) (key : String) (value : Object) : Dictionary :=
  if dictionary.has key then dictionary else dictionary.set key value

/-- The conformance that the strict level names beside its version. -/
def Level.conformance? : Level → Option String
  | x1a => some "PDF/X-1a:2001"
  | _ => Option.none

/-- Name a level and its version in an information dictionary that names no version. -/
def nameVersion (level : Level) (version : String) (info : Dictionary) : Dictionary :=
  if info.has "GTS_PDFXVersion" then info
  else
    let info := info.set "GTS_PDFXVersion" (.ofText version)
    match level.conformance? with
    | some conformance => info.set "GTS_PDFXConformance" (.ofText conformance)
    | none => info

/-- An information dictionary with all that a print level requires. -/
def completeInfo (level : Level) (version : String) (info : Dictionary) : Dictionary :=
  (((nameVersion level version info).setDefault "Title" (.ofText "Pdf document")).setDefault
    "Creator" (.ofText "Unknown")).setDefault "Trapped" (.ofName "False")

/-- The usual printing condition: coated paper on a web press. -/
def outputIntent : Object :=
  .dictionary
    [(Bytes.ofLatin "Type", .ofName "OutputIntent"),
     (Bytes.ofLatin "S", .ofName "GTS_PDFX"),
     (Bytes.ofLatin "OutputCondition", .ofText "SWOP CGATS TR 001-1995"),
     (Bytes.ofLatin "OutputConditionIdentifier", .ofText "CGATS TR 001"),
     (Bytes.ofLatin "RegistryName", .ofText "http://www.color.org"),
     (Bytes.ofLatin "Info", .ofText "")]

/-- A catalog with the printing condition. -/
def completeCatalog (catalog : Dictionary) : Dictionary :=
  catalog.setDefault "OutputIntents" (.array [outputIntent])

/-- The identifier of the information dictionary, to which the trailer refers. If it refers to none,
an empty one is added. -/
def infoId : Edit ObjectId := do
  let document ← get
  match (document.trailer.entry? "Info").bind Object.reference? with
  | some id => return id
  | none =>
    let id := document.freshId
    let extended := document.put id (.dictionary [])
    set { extended with trailer := extended.trailer.set "Info" (.reference id) }
    return id

/-- Add what a print level requires and the document does not say. Other levels require nothing. -/
def completeMetadata (level : Level) : Edit Unit := do
  match level.version? with
  | none => return ()
  | some version =>
    let id ← infoId
    Edit.changeDictionary .info id (completeInfo level version)
    let root ← Edit.expect .catalog ((← get).trailer.expect "Root")
    let catalog ← Edit.expect .catalog root.expectReference
    Edit.changeDictionary .catalog catalog completeCatalog

end Preflight
