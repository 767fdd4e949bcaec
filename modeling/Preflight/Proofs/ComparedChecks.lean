import Mathlib
import Preflight.Check.Content
import Preflight.Proofs.Success

/-!
# Content judged twice

A content stream can be judged twice, with other settings, or with another way to judge the content
that is nested in it. A relation between computations that holds of each with itself, and that is
kept when both are continued, holds between the two verdicts as soon as it holds between the
verdicts on a color, on a color space and on nested content. The later modules use it for the ways
in which two checks are alike.
-/

namespace Preflight

/-- A relation between computations that holds of each with itself, and is kept when computations
that it relates are continued by ones that it relates. -/
structure Congruence
    (R : (α : Type) → Except StreamFailure α → Except StreamFailure α → Prop) : Prop where
  refl : ∀ {α} (x : Except StreamFailure α), R α x x
  bind : ∀ {α β} {x y : Except StreamFailure α} {f g : α → Except StreamFailure β},
    R α x y → (∀ a, R β (f a) (g a)) → R β (x >>= f) (y >>= g)

variable {R : (α : Type) → Except StreamFailure α → Except StreamFailure α → Prop}

namespace Congruence

variable (congruence : Congruence R) {α β : Type}
include congruence

theorem foldlM {f g : β → α → Except StreamFailure β} (h : ∀ b a, R β (f b a) (g b a))
    (items : List α) (start : β) : R β (items.foldlM f start) (items.foldlM g start) := by
  induction items generalizing start with
  | nil => exact congruence.refl _
  | cons item items ih =>
    rw [List.foldlM_cons, List.foldlM_cons]
    exact congruence.bind (h start item) ih

theorem forM {f g : α → Except StreamFailure Unit} (h : ∀ a, R Unit (f a) (g a))
    (items : List α) : R Unit (items.forM f) (items.forM g) := by
  induction items with
  | nil => exact congruence.refl _
  | cons item items ih => exact congruence.bind (h item) fun _ => ih

theorem obeyOperators {f g : List Operator → Except StreamFailure α}
    (h : ∀ operators, R α (f operators) (g operators)) (limit : Option ℕ) (content : Bytes) :
    R α (obeyOperators limit content f) (obeyOperators limit content g) := by
  unfold Preflight.obeyOperators
  split
  · exact congruence.refl _
  · exact congruence.bind (h _) fun _ => congruence.refl _

end Congruence

variable [StreamDecoder]

/-- The verdicts with two settings on a color, and on a color space of a document, are related. -/
structure Settings.Compares
    (R : (α : Type) → Except StreamFailure α → Except StreamFailure α → Prop)
    (document : Option Document) (settings other : Settings) : Prop where
  congruence : Congruence R
  color : ∀ color, R Unit (settings.checkColor color) (other.checkColor color)
  resolve : ∀ object, R (Option ColorSpace)
    (ColorSpace.resolve document settings.maxColorDepth object)
    (ColorSpace.resolve document other.maxColorDepth object)

namespace Settings.Compares

variable {document : Option Document} {settings other : Settings}

/-- The same settings twice. -/
theorem same (congruence : Congruence R) (document : Option Document) (settings : Settings) :
    Compares R document settings settings :=
  ⟨congruence, fun _ => congruence.refl _, fun _ => congruence.refl _⟩

variable (compares : Compares R document settings other) {resources : Dictionary}
  {nested deeper : ContentScope.Nested}
include compares

theorem resolveName (resources : Dictionary) (name : String) :
    R (Option ColorSpace)
      (ColorSpace.resolveName document resources settings.maxColorDepth name)
      (ColorSpace.resolveName document resources other.maxColorDepth name) := by
  unfold ColorSpace.resolveName
  split
  · exact compares.congruence.refl _
  split
  · exact compares.resolve _
  · exact compares.congruence.refl _

/-! ## Patterns -/

theorem checkShadingPattern (pattern : Dictionary) :
    R Unit (ContentScope.checkShadingPattern ⟨settings, document, resources⟩ pattern)
      (ContentScope.checkShadingPattern ⟨other, document, resources⟩ pattern) := by
  unfold ContentScope.checkShadingPattern
  simp only
  split
  · exact compares.congruence.refl _
  · refine compares.congruence.bind (compares.resolve _) fun space? => ?_
    split
    · exact compares.color _
    · exact compares.congruence.refl _

theorem checkTilingPattern (h : ∀ content own, R Unit (nested content own) (deeper content own))
    (pattern : Object) (dictionary : Dictionary) (underlying : Option ColorSpace)
    (components : List Single) :
    R Unit
      (ContentScope.checkTilingPattern ⟨settings, document, resources⟩ nested pattern dictionary
        underlying components)
      (ContentScope.checkTilingPattern ⟨other, document, resources⟩ deeper pattern dictionary
        underlying components) := by
  unfold ContentScope.checkTilingPattern
  simp only
  split
  · split
    · exact compares.color _
    · exact compares.congruence.refl _
  · split
    · exact compares.congruence.refl _
    · exact compares.congruence.bind (compares.congruence.refl _) fun content => h content _

theorem checkPattern (h : ∀ content own, R Unit (nested content own) (deeper content own))
    (name : String) (underlying : Option ColorSpace) (components : List Single) :
    R Unit
      (ContentScope.checkPattern ⟨settings, document, resources⟩ nested name underlying components)
      (ContentScope.checkPattern ⟨other, document, resources⟩ deeper name underlying
        components) := by
  -- The pattern is looked up in the document and the resources, which are the same.
  have same : ContentScope.pattern? ⟨settings, document, resources⟩ name
      = ContentScope.pattern? ⟨other, document, resources⟩ name := rfl
  unfold ContentScope.checkPattern
  rw [same]
  simp only
  split
  · exact compares.congruence.refl _
  split
  · exact compares.congruence.refl _
  split
  · exact compares.checkShadingPattern _
  · exact compares.checkTilingPattern h _ _ underlying components
  · exact compares.congruence.refl _

/-! ## Operators -/

theorem checkPatternOperator (h : ∀ content own, R Unit (nested content own) (deeper content own))
    (operator : Operator) (underlying : Option ColorSpace) :
    R Unit
      (ContentScope.checkPatternOperator ⟨settings, document, resources⟩ nested operator underlying)
      (ContentScope.checkPatternOperator ⟨other, document, resources⟩ deeper operator
        underlying) := by
  unfold ContentScope.checkPatternOperator
  split
  · exact compares.congruence.bind (compares.congruence.refl _) fun components =>
      compares.checkPattern h _ underlying components
  · exact compares.congruence.refl _

theorem checkColorOperator (h : ∀ content own, R Unit (nested content own) (deeper content own))
    (operator : Operator) (space : ColorSpace) :
    R Unit
      (ContentScope.checkColorOperator ⟨settings, document, resources⟩ nested operator space)
      (ContentScope.checkColorOperator ⟨other, document, resources⟩ deeper operator space) := by
  unfold ContentScope.checkColorOperator
  split
  · exact compares.checkPatternOperator h operator none
  · exact compares.checkPatternOperator h operator _
  · refine compares.congruence.bind (compares.congruence.refl _) fun components => ?_
    split
    · simp only
      split
      · exact compares.congruence.refl _
      · exact compares.color _
    · exact compares.congruence.refl _

theorem checkSelectedColor (h : ∀ content own, R Unit (nested content own) (deeper content own))
    (paint : PaintState) (operator : Operator) :
    R Unit
      (ContentScope.checkSelectedColor ⟨settings, document, resources⟩ nested paint operator)
      (ContentScope.checkSelectedColor ⟨other, document, resources⟩ deeper paint operator) := by
  unfold ContentScope.checkSelectedColor
  split
  · exact compares.congruence.refl _
  · refine compares.congruence.bind (compares.resolveName resources _) fun space? => ?_
    split
    · exact compares.congruence.refl _
    · exact compares.checkColorOperator h operator _

/-- The verdicts on an operator are related. -/
theorem step (h : ∀ content own, R Unit (nested content own) (deeper content own))
    (paint : PaintState) (operator : Operator) :
    R PaintState (ContentScope.step ⟨settings, document, resources⟩ nested paint operator)
      (ContentScope.step ⟨other, document, resources⟩ deeper paint operator) := by
  have congruence := compares.congruence
  have selected : R Unit
      (ContentScope.checkSelectedColor ⟨settings, document, resources⟩ nested paint operator)
      (ContentScope.checkSelectedColor ⟨other, document, resources⟩ deeper paint operator) :=
    compares.checkSelectedColor h paint operator
  unfold ContentScope.step
  split
  · exact congruence.refl _
  · exact congruence.refl _
  · exact congruence.bind selected fun _ => congruence.refl _
  · exact congruence.bind selected fun _ => congruence.refl _
  · exact congruence.bind selected fun _ => congruence.refl _
  · exact congruence.bind selected fun _ => congruence.refl _
  · refine congruence.bind (congruence.refl _) fun color? => ?_
    split
    · exact congruence.bind (compares.color _) fun _ => congruence.refl _
    · exact congruence.refl _

/-- The verdicts on the operators of a stream, one after the other, are related. -/
theorem steps (h : ∀ content own, R Unit (nested content own) (deeper content own))
    (operators : List Operator) (paint : PaintState) :
    R PaintState
      (operators.foldlM (ContentScope.step ⟨settings, document, resources⟩ nested) paint)
      (operators.foldlM (ContentScope.step ⟨other, document, resources⟩ deeper) paint) :=
  compares.congruence.foldlM (compares.step h) operators paint

end Settings.Compares

end Preflight
