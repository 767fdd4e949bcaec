import Preflight.Failure

/-!
# Edits

An edit changes a document step by step. What it changed before a failure stays changed.
-/

namespace Preflight

/-- A change of a document, which may fail on the way. -/
abbrev Edit := ExceptT Failure (StateM Document)

namespace Edit

/-- A part of a document, or the failure that `cause` makes of the fault. -/
def expect {α : Type} (cause : AccessFault → StructureFault) (part : Except AccessFault α) :
    Edit α :=
  match part with
  | .ok value => return value
  | .error fault => throw (.document (cause fault))

/-- Change the dictionary with an identifier, or that to which it leads. -/
def changeDictionary (cause : AccessFault → StructureFault) (id : ObjectId)
    (change : Dictionary → Dictionary) : Edit Unit := do
  let (target, object) ← expect cause ((← get).locate id)
  let dictionary ← expect cause object.expectDictionary
  modify fun document => document.put target (.dictionary (change dictionary))

/-! ## What edits do to a document -/

section Run

variable {α β : Type} (document : Document)

theorem run_bind (edit : Edit α) (following : α → Edit β) :
    (edit >>= following).run.run document =
      match edit.run.run document with
      | (.ok value, changed) => (following value).run.run changed
      | (.error failure, changed) => (.error failure, changed) := by
  rw [ExceptT.run_bind, StateT.run_bind]
  rcases edit.run.run document with ⟨failure | value, changed⟩ <;> rfl

theorem run_get : (get : Edit Document).run.run document = (.ok document, document) := rfl

theorem run_lift (part : Except Failure α) :
    (liftM part : Edit α).run.run document = (part, document) := by
  cases part <;> rfl

theorem run_expect (cause : AccessFault → StructureFault) (part : Except AccessFault α) :
    (expect cause part).run.run document =
      (part.mapError fun fault => .document (cause fault), document) := by
  cases part <;> rfl

end Run

end Edit

end Preflight
