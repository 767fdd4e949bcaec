import Preflight.Conformance
import Preflight.Content.Fault
import Preflight.Content.Token
import Preflight.Document
import Preflight.Profile.Calibration

/-!
# Failures

An operation ends at its first failure. A failure names its cause; what it says is put into words
here. Work on content streams and on the objects that they use has failures of its own, which become
failures of the whole.
-/

namespace Preflight

/-- Why the structure of a document cannot be used. -/
inductive StructureFault where
  /-- A page is no dictionary. -/
  | page (fault : AccessFault)
  /-- The parent of a page or page group is no reference. -/
  | parent (fault : AccessFault)
  /-- The chain of parents is too long, or a circle. -/
  | parentChain
  | resources
  /-- The filters of a stream cannot be taken back. -/
  | filters (fault : AccessFault)
  /-- An item of the contents of a page is no reference. -/
  | contentsItem (fault : AccessFault)
  /-- The contents of a page are neither a reference nor an array. -/
  | contents
  /-- A reference in the contents of a page leads to no stream. -/
  | contentsStream (fault : AccessFault)
  /-- A stream that is to be converted cannot be found. -/
  | conversionSource (fault : AccessFault)
  | catalog (fault : AccessFault)
  /-- The information dictionary cannot be found. -/
  | info (fault : AccessFault)
  /-- The file is no document. -/
  | file (fault : AccessFault)
  /-- A part of the document cannot be found. -/
  | access (fault : AccessFault)
  /-- A problem in words. -/
  | described (text : String)
deriving DecidableEq

/-- The wording of a structure fault. -/
def StructureFault.message : StructureFault → String
  | page fault => "failed to get page dictionary: " ++ fault.message
  | parent fault => "invalid /Parent reference: " ++ fault.message
  | parentChain => "page tree /Parent chain too deep"
  | resources => "/Resources is not a dictionary"
  | filters fault => "failed to decompress content stream: " ++ fault.message
  | contentsItem fault => "/Contents array item is not a reference: " ++ fault.message
  | contents => "/Contents is not a reference or array"
  | contentsStream fault => "failed to resolve /Contents stream: " ++ fault.message
  | conversionSource fault => "failed to resolve content stream: " ++ fault.message
  | catalog fault => "failed to get catalog: " ++ fault.message
  | info fault => "failed to get /Info dictionary: " ++ fault.message
  | file fault => "failed to parse PDF: " ++ fault.message
  | access fault => fault.message
  | described text => text

/-- Why the operators of a stream cannot be obeyed. -/
inductive InterpreterFault where
  /-- The stream cannot be read beyond an offset. -/
  | content (fault : ContentFault) (offset : Nat)
  | operands (operator : String) (fault : OperandFault)
  /-- An operator is given two handlers. -/
  | duplicateOperator (name : String)
  /-- A problem in words. -/
  | described (text : String)
deriving DecidableEq

namespace InterpreterFault

/-- A content fault at an offset. Operands before an inline image are the wrong operands of the
operator that begins it. -/
def ofContentFault (fault : ContentFault) (offset : Nat) : InterpreterFault :=
  match fault with
  | .operandsBeforeImage count => operands "BI" (.count 0 count)
  | fault => content fault offset

/-- The fault at which reading stopped in a stream of `size` bytes. -/
def ofStop (size : Nat) (stop : Stop) : InterpreterFault :=
  ofContentFault stop.fault (size - stop.rest.length)

/-- The wording of an interpreter fault. -/
def message : InterpreterFault → String
  | content fault offset => fault.message offset
  | operands operator fault => "malformed operands for '" ++ operator ++ "': " ++ fault.message
  | duplicateOperator name => "operator '" ++ name ++ "' already registered"
  | described text => text

end InterpreterFault

/-- A limit on the resources of an operation. -/
inductive Limit where
  /-- The nesting of colors and color spaces. -/
  | colorDepth
  /-- The nesting of content streams. -/
  | recursionDepth
  /-- The size of a content stream. -/
  | streamBytes
  /-- Another limit. -/
  | named (name : String)
deriving DecidableEq

/-- The name of a limit. -/
def Limit.name : Limit → String
  | colorDepth => "max_color_depth"
  | recursionDepth => "max_recursion_depth"
  | streamBytes => "max_stream_bytes"
  | named name => name

/-- Why an operation failed. -/
inductive Failure where
  /-- The document cannot be used. -/
  | document (fault : StructureFault)
  /-- A content stream cannot be interpreted. -/
  | interpreter (fault : InterpreterFault)
  /-- The calibration data cannot be used. -/
  | profile (fault : ProfileFault)
  | conformance (violation : Violation)
  | limitExceeded (limit : Limit) (allowed actual : Nat)
  /-- Another problem. -/
  | other (text : String)
deriving DecidableEq

/-- The message of a failure. -/
def Failure.message : Failure → String
  | document fault => "parse error: " ++ fault.message
  | interpreter fault => "interpreter error: " ++ fault.message
  | profile fault => "profile error: " ++ fault.message
  | conformance violation => violation.message
  | limitExceeded limit allowed actual =>
    "resource limit exceeded: " ++ limit.name ++ " (limit: " ++ toString allowed ++ ", actual: "
      ++ toString actual ++ ")"
  | other text => text

/-- The violation that a failure reports. -/
def Failure.violation? : Failure → Option Violation
  | conformance violation => some violation
  | _ => none

/-- Why work on a content stream, or on the objects that it uses, failed. -/
inductive StreamFailure where
  /-- The document cannot be used. -/
  | document (fault : StructureFault)
  /-- The stream cannot be interpreted. -/
  | interpreter (fault : InterpreterFault)
  | conformance (violation : Violation)
  /-- Input cannot be read. -/
  | input (text : String)
  /-- A failure of another kind. -/
  | general (failure : Failure)
deriving DecidableEq

namespace StreamFailure

/-- The message for input that cannot be read. -/
def inputMessage (text : String) : String := "I/O error: " ++ text

/-- The message of a failure. -/
def message : StreamFailure → String
  | document fault => "PDF parse error: " ++ fault.message
  | interpreter fault =>
    match fault with
    | .content .. | .described _ => "interpreter error: " ++ fault.message
    | .operands .. | .duplicateOperator _ => fault.message
  | conformance violation => violation.message
  | input text => inputMessage text
  | general failure => failure.message

/-- The violation that a failure reports. -/
def violation? : StreamFailure → Option Violation
  | conformance violation => some violation
  | general failure => failure.violation?
  | _ => none

/-- The failure of the whole operation. -/
def toFailure : StreamFailure → Failure
  | document fault => .document fault
  | interpreter fault => .interpreter fault
  | conformance violation => .conformance violation
  | input text => .other (inputMessage text)
  | general failure => failure

/-- A limit is exceeded. -/
def limitExceeded (limit : Limit) (allowed actual : Nat) : StreamFailure :=
  .general (.limitExceeded limit allowed actual)

/-- The aspect of a document is not allowed. -/
def violation (aspect : Aspect) (objection : Objection) : StreamFailure :=
  .conformance ⟨aspect, objection⟩

/-- An operator has the wrong operands. -/
def operands (operator : String) (fault : OperandFault) : StreamFailure :=
  .interpreter (.operands operator fault)

end StreamFailure

end Preflight
