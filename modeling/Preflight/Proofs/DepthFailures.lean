import Mathlib
import Preflight.Proofs.PaintedSpaces

/-!
# Where the limit on the nesting of content can be exceeded

Only a content stream within another one is judged a level deeper. So no other step of a check fails
because content nests too deep, and neither does a content stream that selects no space of patterns:
a tiling pattern, whose content is judged within, is found only in such a space.
-/

namespace Preflight

/-- The limit on the nesting of content is exceeded. -/
def Failure.IsDepthLimit : Failure → Prop
  | limitExceeded .recursionDepth _ _ => True
  | _ => False

/-- The limit on the nesting of content is exceeded. -/
def StreamFailure.IsDepthLimit : StreamFailure → Prop
  | general failure => failure.IsDepthLimit
  | _ => False

theorem StreamFailure.isDepthLimit_of_toFailure {failure : StreamFailure}
    (h : failure.toFailure.IsDepthLimit) : failure.IsDepthLimit := by
  cases failure with
  | general failure => exact h
  | _ => exact h.elim

/-- A computation does not fail because content nests too deep. -/
def StaysWithin {α : Type} (x : Except StreamFailure α) : Prop :=
  ∀ failure, x = .error failure → ¬failure.IsDepthLimit

namespace StaysWithin

variable {α β : Type}

theorem ok (a : α) : StaysWithin (.ok a) := by
  rintro _ ⟨⟩

theorem error {failure : StreamFailure} (other : ¬failure.IsDepthLimit) :
    StaysWithin (.error failure : Except StreamFailure α) := by
  rintro _ ⟨⟩
  exact other

theorem bind {x : Except StreamFailure α} {f : α → Except StreamFailure β} (first : StaysWithin x)
    (following : ∀ a, x = .ok a → StaysWithin (f a)) : StaysWithin (x >>= f) := by
  cases x with
  | ok a => exact following a rfl
  | error failure =>
    rintro _ ⟨⟩
    exact first failure rfl

/-- If content nests too deep in what follows a computation, it does not in the computation. -/
theorem exists_of_bind {x : Except StreamFailure α} {f : α → Except StreamFailure β}
    (first : StaysWithin x) {failure : StreamFailure} (failed : x >>= f = .error failure)
    (limit : failure.IsDepthLimit) : ∃ a, x = .ok a ∧ f a = .error failure := by
  cases x with
  | ok a => exact ⟨a, rfl, failed⟩
  | error other =>
    cases failed
    exact absurd limit (first _ rfl)

theorem forM {f : α → Except StreamFailure Unit} {items : List α}
    (h : ∀ item ∈ items, StaysWithin (f item)) : StaysWithin (items.forM f) := by
  induction items with
  | nil => exact ok ()
  | cons item items ih =>
    rw [List.forall_mem_cons] at h
    exact (h.1).bind fun _ _ => ih h.2

theorem mapM {f : α → Except StreamFailure β} (h : ∀ item, StaysWithin (f item)) (items : List α) :
    StaysWithin (items.mapM f) := by
  induction items with
  | nil => exact ok []
  | cons item items ih =>
    rw [List.mapM_cons]
    exact (h item).bind fun _ _ => ih.bind fun _ _ => ok _

end StaysWithin

open StaysWithin

/-! ## Colors and color spaces -/

theorem ColorSpace.checkWithin_staysWithin (maxDepth level : ℕ) (space : ColorSpace) :
    StaysWithin (space.checkWithin maxDepth level) := by
  induction level generalizing space with
  | zero => exact error id
  | succ level ih =>
    cases space with
    | deviceGray | deviceCmyk | calGray | lab | pattern => exact ok ()
    | deviceRgb | calRgb => exact error id
    | iccBased _ inner | separation _ inner | deviceN _ inner => exact ih inner
    | indexed inner _ _ | patternOver inner => exact ih inner

theorem Color.checkWithin_staysWithin (maxDepth level : ℕ) (color : Color) :
    StaysWithin (color.checkWithin maxDepth level) := by
  induction level generalizing color with
  | zero => exact error id
  | succ level ih =>
    cases color with
    | gray _ | cmyk _ _ _ _ => exact ok ()
    | rgb _ _ _ => exact error id
    | separation _ _ inner => exact ih inner
    | pattern inner => exact ih inner
    | shading space => exact space.checkWithin_staysWithin maxDepth level

theorem Settings.checkColor_staysWithin (settings : Settings) (color : Color) :
    StaysWithin (settings.checkColor color) := by
  unfold checkColor
  split
  · exact color.checkWithin_staysWithin _ _
  · exact ok ()

namespace ColorSpace

variable (document : Option Document)

theorem resolveItem_staysWithin {nested : Object → Except StreamFailure (Option ColorSpace)}
    (h : ∀ object, StaysWithin (nested object)) (items : List Object) (index : ℕ) :
    StaysWithin (resolveItem nested items index) := by
  unfold resolveItem
  split
  · exact h _
  · exact ok none

variable [StreamDecoder]

theorem resolveArray_staysWithin {nested : Object → Except StreamFailure (Option ColorSpace)}
    (h : ∀ object, StaysWithin (nested object)) (items : List Object) :
    StaysWithin (resolveArray document nested items) := by
  have item (index : ℕ) := resolveItem_staysWithin h items index
  unfold resolveArray
  simp only
  -- The families of which the definition holds another one, and the others.
  split
  · exact ok _
  · exact ok _
  · exact ok _
  · exact ok _
  · split
    · exact ok _
    · split
      · exact (h _).bind fun _ _ => ok _
      · exact ok _
  · refine (item 1).bind fun base? _ => ?_
    split
    · exact ok _
    · split <;> exact ok _
  · refine (item 1).bind fun base? _ => ?_
    split
    · exact ok _
    · split <;> exact ok _
  · split
    · exact ok _
    · exact (item 2).bind fun _ _ => ok _
  · split
    · exact ok _
    · exact (item 2).bind fun _ _ => ok _
  · refine (item 1).bind fun underlying? _ => ?_
    split <;> exact ok _
  · exact ok _

theorem resolve_staysWithin (maxDepth : ℕ) (object : Object) :
    StaysWithin (resolve document maxDepth object) := by
  unfold resolve
  generalize maxDepth + 1 = level
  induction level generalizing object with
  | zero => exact error id
  | succ level ih =>
    rw [resolveWithin]
    split
    · exact ok _
    · exact resolveArray_staysWithin document ih _
    · exact ok _

theorem resolveName_staysWithin (resources : Dictionary) (maxDepth : ℕ) (name : String) :
    StaysWithin (resolveName document resources maxDepth name) := by
  unfold resolveName
  split
  · exact ok _
  split
  · exact resolve_staysWithin document maxDepth _
  · exact ok _

end ColorSpace

/-! ## Operators -/

namespace Operator

theorem numbers_staysWithin (operator : Operator) (operands : List Operand) :
    StaysWithin (operator.numbers operands) := by
  refine mapM (fun operand => ?_) operands
  split
  · exact ok _
  · exact error id

theorem numericOperands_staysWithin (operator : Operator) (count : ℕ) :
    StaysWithin (operator.numericOperands count) := by
  unfold numericOperands
  split
  · exact operator.numbers_staysWithin _
  · exact error id

theorem deviceColor?_staysWithin (operator : Operator) : StaysWithin operator.deviceColor? := by
  unfold deviceColor?
  have numeric (count : ℕ) := operator.numericOperands_staysWithin count
  split
  case h_7 => exact ok none
  all_goals
    refine (numeric _).bind fun _ _ => ?_
    split <;> exact ok _

end Operator

namespace ContentScope

variable (scope : ContentScope) {nested : Nested}

theorem selectedSpace_staysWithin (operator : Operator) :
    StaysWithin (selectedSpace operator) := by
  unfold selectedSpace
  split
  · split
    · exact ok _
    · exact error id
  · exact error id

variable [StreamDecoder]

theorem checkColorOperator_staysWithin {space : ColorSpace} (plain : space.isPattern = false)
    (operator : Operator) : StaysWithin (scope.checkColorOperator nested operator space) := by
  unfold checkColorOperator
  split
  · cases plain
  · cases plain
  · refine (operator.numbers_staysWithin _).bind fun components _ => ?_
    by_cases count : components.length = space.componentCount
    · simp only [count, ne_eq, not_true_eq_false, if_false]
      split
      · exact scope.settings.checkColor_staysWithin _
      · exact ok ()
    · simp only [count, ne_eq, not_false_eq_true, if_true]
      exact error id

/-- No current space is one of patterns. -/
def IsPlain (paint : PaintState) : Prop :=
  ∀ target name space, paint.current? target = some name →
    ColorSpace.resolveName scope.document scope.resources scope.settings.maxColorDepth name
      = .ok (some space) → space.isPattern = false

/-- An operator sets a current space to one of patterns. -/
def SelectsPattern (operator : Operator) : Prop :=
  (operator.name = "CS" ∨ operator.name = "cs") ∧ ∃ name space,
    selectedSpace operator = .ok name ∧
    ColorSpace.resolveName scope.document scope.resources scope.settings.maxColorDepth name
      = .ok (some space) ∧ space.isPattern = true

variable {scope}

theorem checkSelectedColor_staysWithin (nested : Nested) {paint : PaintState}
    (plain : scope.IsPlain paint) (operator : Operator) : StaysWithin (scope.checkSelectedColor nested paint operator) := by
  unfold checkSelectedColor
  split
  · exact ok ()
  next name current =>
  refine (ColorSpace.resolveName_staysWithin _ _ _ name).bind fun space? resolved => ?_
  split
  · exact ok ()
  · exact scope.checkColorOperator_staysWithin (plain _ name _ current resolved) operator

/-- An operator that selects no space of patterns leaves the current spaces without patterns, and
does not fail because content nests too deep. -/
theorem step_staysWithin (nested : Nested) {paint : PaintState} (plain : scope.IsPlain paint)
    {operator : Operator} (selects : ¬scope.SelectsPattern operator) :
    StaysWithin (scope.step nested paint operator) ∧
      ∀ after, scope.step nested paint operator = .ok after → scope.IsPlain after := by
  have setting (name : operator.name = "CS" ∨ operator.name = "cs") :
      StaysWithin (selectedSpace operator >>= fun space =>
        .ok (paint.set (.ofOperator operator.name) space)) ∧
      ∀ after, (selectedSpace operator >>= fun space =>
        .ok (paint.set (.ofOperator operator.name) space)) = .ok after → scope.IsPlain after := by
    refine ⟨(selectedSpace_staysWithin operator).bind fun _ _ => ok _, fun after stepped => ?_⟩
    obtain ⟨selected, selected_ok, same⟩ := bind_eq_ok.1 stepped
    cases same
    intro target current space found resolved
    rw [PaintState.current?_set] at found
    split at found
    · cases found
      by_contra pattern
      exact selects ⟨name, selected, space, selected_ok, resolved, eq_true_of_ne_false pattern⟩
    · exact plain target current space found resolved
  have painting {x : Except StreamFailure Unit} (within : StaysWithin x) :
      StaysWithin (x >>= fun _ => .ok paint) ∧
        ∀ after, (x >>= fun _ => .ok paint) = .ok after → scope.IsPlain after := by
    refine ⟨within.bind fun _ _ => ok paint, fun after stepped => ?_⟩
    obtain ⟨_, -, same⟩ := bind_eq_ok.1 stepped
    cases same
    exact plain
  have selected := painting (checkSelectedColor_staysWithin nested plain operator)
  unfold step
  split
  · next name => exact setting (Or.inl name)
  · next name => exact setting (Or.inr name)
  · exact selected
  · exact selected
  · exact selected
  · exact selected
  · refine ⟨operator.deviceColor?_staysWithin.bind fun color? _ => ?_, fun after stepped => ?_⟩
    · split
      · exact (scope.settings.checkColor_staysWithin _).bind fun _ _ => ok paint
      · exact ok paint
    · obtain ⟨color?, -, stepped⟩ := bind_eq_ok.1 stepped
      split at stepped
      · obtain ⟨_, -, same⟩ := bind_eq_ok.1 stepped
        cases same
        exact plain
      · cases stepped
        exact plain

/-- Operators none of which selects a space of patterns do not fail because content nests too deep.
-/
theorem steps_staysWithin {operators : List Operator}
    (selects : ∀ operator ∈ operators, ¬scope.SelectsPattern operator) {paint : PaintState}
    (plain : scope.IsPlain paint) : StaysWithin (operators.foldlM (scope.step nested) paint) := by
  induction operators generalizing paint with
  | nil => exact ok paint
  | cons operator operators ih =>
    rw [List.forall_mem_cons] at selects
    obtain ⟨within, keeps⟩ := step_staysWithin nested plain selects.1
    rw [List.foldlM_cons]
    exact within.bind fun after stepped => ih selects.2 (keeps after stepped)

end ContentScope

/-! ## Content streams -/

namespace Settings

variable [StreamDecoder] (settings : Settings)

/-- A content stream has an operator that selects a space of patterns. -/
def ContentSelectsPattern (document : Option Document) (content : Bytes) (resources : Dictionary) :
    Prop :=
  ∃ operator ∈ (readOperators content).operators,
    ContentScope.SelectsPattern ⟨settings, document, resources⟩ operator

variable {settings} {document : Option Document}

/-- With a level left, only a content stream that selects a space of patterns can fail because
content nests too deep. -/
theorem checkContentWithin_staysWithin {content : Bytes} {resources : Dictionary}
    (selects : ¬settings.ContentSelectsPattern document content resources) (level : ℕ) :
    StaysWithin (settings.checkContentWithin document (level + 1) content resources) := by
  rw [checkContentWithin]
  refine StaysWithin.bind ?_ fun _ _ => ok ()
  unfold obeyOperators
  split
  · exact error id
  · refine StaysWithin.bind (ContentScope.steps_staysWithin (fun operator member pattern =>
      selects ⟨operator, member, pattern⟩) ?_) fun paint _ => ?_
    · rintro (_ | _) name space ⟨⟩
    · split
      · exact error id
      · exact ok paint

/-! ## Subjects -/

omit [StreamDecoder] in
theorem checkAlpha_staysWithin (document : Option Document) (state : Dictionary) (key : String) :
    StaysWithin (checkAlpha document state key) := by
  unfold checkAlpha
  split
  · split
    · exact ok ()
    · exact error id
  · exact ok ()

omit [StreamDecoder] in
theorem checkGraphicsState_staysWithin (document : Option Document) (state : Dictionary) :
    StaysWithin (checkGraphicsState document state) := by
  have alphas : StaysWithin (checkAlpha document state "CA" >>= fun _ =>
      checkAlpha document state "ca") :=
    (checkAlpha_staysWithin document state "CA").bind fun _ _ =>
      checkAlpha_staysWithin document state "ca"
  unfold checkGraphicsState
  split
  · exact alphas
  · exact alphas
  · exact alphas
  · exact error id

theorem checkImage_staysWithin (settings : Settings) (document : Option Document)
    (image : Dictionary) : StaysWithin (settings.checkImage document image) := by
  unfold checkImage
  split
  · exact error id
  split
  · split
    · unfold checkImageSpace
      split
      · split
        · exact error id
        · exact ok ()
      · refine (ColorSpace.resolve_staysWithin document _ _).bind fun space? _ => ?_
        split
        · exact error id
        · exact ok ()
      · exact ok ()
    · exact ok ()
  · exact ok ()

/-- A subject that is no content stream does not fail because content nests too deep. -/
theorem check_staysWithin (settings : Settings) {subject : Subject}
    (other : subject.aspect ≠ .content) : StaysWithin (settings.check subject) := by
  unfold check
  split
  · exact ok ()
  · cases subject with
    | color color => exact settings.checkColor_staysWithin color
    | cmyk => exact ok ()
    | rgb =>
      simp only
      split
      · exact error id
      · exact ok ()
    | font font =>
      simp only [Font.check]
      split
      · exact ok ()
      · exact error id
    | image document dictionary => exact settings.checkImage_staysWithin document dictionary
    | graphicsState document dictionary => exact checkGraphicsState_staysWithin document dictionary
    | layer => exact error id
    | content document stream => exact absurd rfl other

/-! ## Resources and pages -/

variable (settings) (document : Document)

theorem checkOwnResources_staysWithin (resources : Dictionary) :
    StaysWithin (settings.checkOwnResources document resources) := by
  have fonts (object : Object) : StaysWithin (settings.checkFontResource document object) := by
    unfold checkFontResource
    split
    · exact settings.check_staysWithin (by simp [Subject.aspect])
    · exact ok ()
  have states (object : Object) : StaysWithin (settings.checkStateResource document object) := by
    unfold checkStateResource
    split
    · exact settings.check_staysWithin (by simp [Subject.aspect])
    · exact ok ()
  have shadings (object : Object) :
      StaysWithin (settings.checkShadingResource document object) := by
    unfold checkShadingResource
    split
    · refine (ColorSpace.resolve_staysWithin _ _ _).bind fun space? _ => ?_
      split
      · exact settings.check_staysWithin (by simp [Subject.aspect])
      · exact ok ()
    · exact ok ()
  exact (forM fun object _ => fonts object).bind fun _ _ =>
    (forM fun object _ => states object).bind fun _ _ => forM fun object _ => shadings object

theorem checkCatalog_staysWithin : StaysWithin (settings.checkCatalog document) := by
  unfold checkCatalog
  split
  · exact error id
  · split
    · exact settings.check_staysWithin (by simp [Subject.aspect])
    · exact ok ()

end Settings

theorem StaysWithin.mapError_document {α : Type} (x : Except StructureFault α) :
    StaysWithin (x.mapError StreamFailure.document) := by
  cases x with
  | ok a => exact ok a
  | error fault => exact error id

theorem Stream.content_staysWithin [StreamDecoder] (stream : Stream) :
    StaysWithin stream.content := by
  unfold content
  split
  · split
    · exact ok _
    · exact error id
  · exact ok _

theorem Document.pageContent_staysWithin [StreamDecoder] (document : Document)
    (page : Dictionary) : StaysWithin (document.pageContent page) := by
  unfold pageContent
  split
  · exact error id
  next ids listed =>
  clear listed
  generalize ([] : Bytes) = before
  induction ids generalizing before with
  | nil => exact ok before
  | cons first ids ih =>
    rw [List.foldlM_cons]
    refine StaysWithin.bind ?_ fun after _ => ih after
    split
    · exact error id
    · next stream _ => exact stream.content_staysWithin.bind fun _ _ => ok _

end Preflight
