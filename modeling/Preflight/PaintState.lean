/-!
# Current color spaces

Painting has two colors, one for strokes and one for fills, each with a current color space.
Operators for strokes are written with a capital letter.
-/

namespace Preflight

/-- What a color is used for. -/
inductive PaintTarget where
  /-- Lines. -/
  | stroke
  /-- Areas. -/
  | fill
deriving DecidableEq

/-- The target of an operator: strokes if its name begins with a capital letter. -/
def PaintTarget.ofOperator (name : String) : PaintTarget :=
  match name.toList with
  | c :: _ => if c.isUpper then stroke else fill
  | [] => fill

/-- The names of the current color spaces, as far as they were set. -/
structure PaintState where
  stroke : Option String
  fill : Option String
deriving DecidableEq

namespace PaintState

/-- The state in which no space was set. -/
def initial : PaintState := ⟨none, none⟩

/-- Set the space of a target. -/
def set (state : PaintState) (target : PaintTarget) (name : String) : PaintState :=
  match target with
  | .stroke => { state with stroke := some name }
  | .fill => { state with fill := some name }

/-- The space of a target. -/
def current? (state : PaintState) (target : PaintTarget) : Option String :=
  match target with
  | .stroke => state.stroke
  | .fill => state.fill

/-- Setting the space of one target leaves the other alone. -/
theorem current?_set (state : PaintState) (target other : PaintTarget) (name : String) :
    (state.set target name).current? other =
      if other = target then some name else state.current? other := by
  cases target <;> cases other <;> rfl

end PaintState

end Preflight
