import Preflight.Check.Color
import Preflight.ColorSpace.Resolve
import Preflight.Interpreter
import Preflight.Page

/-!
# Rules for content streams

Every color that a content stream selects is judged. The current color spaces are followed from
operator to operator, and named spaces and patterns are looked up in the resources. A pattern with
colors of its own is a content stream that is judged in turn, one level deeper.
-/

namespace Preflight

variable [StreamDecoder]

/-- Where a content stream is judged. -/
structure ContentScope where
  /-- The required level and the limits. -/
  settings : Settings
  /-- The document, for references. -/
  document : Option Document
  resources : Dictionary

namespace ContentScope

variable (scope : ContentScope)

/-- How a deeper content stream with its resources is judged. -/
abbrev Nested := Bytes → Dictionary → Except StreamFailure Unit

/-! ## Patterns -/

/-- The pattern with a name. -/
def pattern? (name : String) : Option Object :=
  ((scope.resources.dictionary? scope.document "Pattern").bind (·.lookup (Utf8.encode name))).map
    (·.resolve scope.document)

/-- Judge a pattern that is a shading, by the color space of the shading. -/
def checkShadingPattern (pattern : Dictionary) : Except StreamFailure Unit := do
  let definition? := (pattern.dictionary? scope.document "Shading").bind
    (·.resolved? scope.document "ColorSpace")
  match definition? with
  | none => return ()
  | some definition =>
    match ← ColorSpace.resolve scope.document scope.settings.maxColorDepth definition with
    | some space => scope.settings.checkColor (.shading space)
    | none => return ()

/-- Judge a pattern that is a tile: by the color in which it is painted, if it has none of its own,
and otherwise by its content. -/
def checkTilingPattern (nested : Nested) (pattern : Object) (dictionary : Dictionary)
    (underlying : Option ColorSpace) (components : List Single) : Except StreamFailure Unit :=
  if (dictionary.resolved? scope.document "PaintType").bind Object.integer? = some 2 then
    match underlying.bind (·.color? components) with
    | some color => scope.settings.checkColor (.pattern color)
    | none => .ok ()
  else
    match pattern.stream? with
    | none => .ok ()
    | some stream => do
      let content ← stream.content
      nested content ((stream.dictionary.dictionary? scope.document "Resources").getD [])

/-- Judge the pattern with a name, painted in a color with the given components of the underlying
space. A pattern that is not found, or is of no known type, is passed over. -/
def checkPattern (nested : Nested) (name : String) (underlying : Option ColorSpace)
    (components : List Single) : Except StreamFailure Unit :=
  match scope.pattern? name with
  | none => .ok ()
  | some pattern =>
    match pattern.anyDictionary? with
    | none => .ok ()
    | some dictionary =>
      match (dictionary.resolved? scope.document "PatternType").bind Object.integer? with
      | some 2 => scope.checkShadingPattern dictionary
      | some 1 => scope.checkTilingPattern nested pattern dictionary underlying components
      | _ => .ok ()

/-! ## Operators -/

/-- The color space that an operator names. -/
def selectedSpace (operator : Operator) : Except StreamFailure String :=
  match operator.operands with
  | [operand] =>
    match operand.name? with
    | some name => .ok name
    | none => .error (.operands operator.name .colorSpaceName)
  | operands => .error (.operands operator.name (.single operands.length))

/-- Judge the pattern that an operator selects in a space of patterns. -/
def checkPatternOperator (nested : Nested) (operator : Operator) (underlying : Option ColorSpace) :
    Except StreamFailure Unit :=
  match operator.operands.getLast? with
  | some (.name pattern) => do
    let components ← operator.numbers operator.operands.dropLast
    scope.checkPattern nested pattern underlying components
  | _ => .error (.operands operator.name .patternName)

/-- Judge the color that an operator selects in a space. -/
def checkColorOperator (nested : Nested) (operator : Operator) (space : ColorSpace) :
    Except StreamFailure Unit :=
  match space with
  | .pattern => scope.checkPatternOperator nested operator none
  | .patternOver underlying => scope.checkPatternOperator nested operator (some underlying)
  | _ => do
    let components ← operator.numbers operator.operands
    if components.length ≠ space.componentCount then
      throw (.operands operator.name (.count space.componentCount components.length))
    match space.color? components with
    | some color => scope.settings.checkColor color
    | none => return ()

/-- Judge the color that an operator selects in the current space. The initial space is gray, and a
space that is not found is passed over. -/
def checkSelectedColor (nested : Nested) (paint : PaintState) (operator : Operator) :
    Except StreamFailure Unit :=
  match paint.current? (.ofOperator operator.name) with
  | none => .ok ()
  | some name => do
    let space? ← ColorSpace.resolveName scope.document scope.resources
      scope.settings.maxColorDepth name
    match space? with
    | none => return ()
    | some space => scope.checkColorOperator nested operator space

/-- Judge an operator, and follow the color space that it sets. Operators that have nothing to do
with colors are passed over. -/
def step (nested : Nested) (paint : PaintState) (operator : Operator) :
    Except StreamFailure PaintState :=
  match operator.name with
  | "CS" | "cs" => do
    return paint.set (.ofOperator operator.name) (← selectedSpace operator)
  | "SC" | "SCN" | "sc" | "scn" => do
    scope.checkSelectedColor nested paint operator
    return paint
  | _ => do
    match ← operator.deviceColor? with
    | some color => scope.settings.checkColor color
    | none => pure ()
    return paint

end ContentScope

namespace Settings

variable (settings : Settings)

/-- Judge a content stream with `levels` of nesting left out of the allowed ones and one. -/
def checkContentWithin (document : Option Document) :
    (levels : Nat) → (content : Bytes) → (resources : Dictionary) → Except StreamFailure Unit
  | 0, _, _ =>
    .error (.limitExceeded .recursionDepth settings.maxRecursionDepth
      (settings.maxRecursionDepth + 1))
  | level + 1, content, resources => do
    let scope : ContentScope := ⟨settings, document, resources⟩
    let _ ← obeyOperators (some settings.maxStreamBytes) content fun operators =>
      operators.foldlM (scope.step (checkContentWithin document level)) PaintState.initial
    return ()

/-- Judge a content stream that is nested `depth` deep below a page. -/
def checkContentAt (document : Option Document) (depth : Nat) (content : Bytes)
    (resources : Dictionary) : Except StreamFailure Unit :=
  if !settings.level.isRequired then .ok ()
  else if settings.maxRecursionDepth < depth then
    .error (.limitExceeded .recursionDepth settings.maxRecursionDepth depth)
  else
    settings.checkContentWithin document (settings.maxRecursionDepth + 1 - depth) content resources

/-- Judge the content of a page. -/
def checkContent (document : Option Document) (content : Bytes) (resources : Dictionary) :
    Except StreamFailure Unit :=
  settings.checkContentAt document 0 content resources

end Settings

end Preflight
