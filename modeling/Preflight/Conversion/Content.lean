import Preflight.Content.Writer
import Preflight.Interpreter
import Preflight.Profile.Converter
import Preflight.Settings

/-!
# Conversion of content streams

A content stream is written anew with its device colors in the output profile: each of the six
operators that set a device color becomes the one for the kind of the converted color. All other
operators are written as they were read, each on a line of its own.
-/

namespace Preflight

/-- The operator that sets a device color of the given kind. -/
def deviceOperator (kind : Color.Kind) (target : PaintTarget) : String :=
  match kind, target with
  | .gray, .stroke => "G"
  | .gray, .fill => "g"
  | .rgb, .stroke => "RG"
  | .rgb, .fill => "rg"
  | _, .stroke => "K"
  | _, .fill => "k"

namespace Converter

variable (converter : Converter)

/-- The line that sets a color in the output profile. -/
def colorLine (color : Color) (target : PaintTarget) : Bytes :=
  let converted := converter.convert color
  match converted.components? with
  | some components => colorOperatorBytes components (deviceOperator converted.kind target)
  | none => []

/-- The line that stands for an operator in the output profile. -/
def operatorLine (operator : Operator) : Except StreamFailure Bytes := do
  match ← operator.deviceColor? with
  | some color => return converter.colorLine color (.ofOperator operator.name)
  | none => return operator.bytes ++ [0x0A]

/-- A content stream of at most `limit` bytes in the output profile. -/
def convertContent (limit : Nat) (content : Bytes) : Except StreamFailure Bytes := do
  let lines ← obeyOperators (some limit) content fun operators =>
    operators.mapM converter.operatorLine
  return lines.flatten

end Converter

end Preflight
