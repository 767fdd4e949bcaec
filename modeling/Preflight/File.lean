import Preflight.Failure

/-!
# Files

A document is read from a file. The format of files is not described here: reading them is left to a
reader that is given.
-/

namespace Preflight

/-- A reader of files. -/
class FileReader where
  /-- The document in a file. -/
  read : Bytes → Except AccessFault Document

/-- The document in a file. -/
def loadDocument [FileReader] (file : Bytes) : Except Failure Document :=
  (FileReader.read file).mapError fun fault => .document (.file fault)

end Preflight
