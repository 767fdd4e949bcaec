import Mathlib
import Preflight.Proofs.PaintedSpaces

/-!
# Strokes and fills

An operator that sets the color of strokes, or the space of that color, reads and writes nothing
that belongs to fills, and the other way round. So content passes exactly if its operators for
strokes pass by themselves and its operators for fills pass by themselves, however the two are
interleaved, and whatever operators stand between them.
-/

namespace Preflight

/-! ## The operators of a target -/

namespace PaintTarget

/-- The names of the operators that set the color of a target, or its space. -/
def operatorNames : PaintTarget → List String
  | stroke => ["CS", "SC", "SCN", "G", "RG", "K"]
  | fill => ["cs", "sc", "scn", "g", "rg", "k"]

/-- The operators of a target among others, in their order. -/
def operatorsOf (target : PaintTarget) (operators : List Operator) : List Operator :=
  operators.filter (·.name ∈ target.operatorNames)

theorem ofOperator_of_mem : ∀ {target : PaintTarget} {name : String},
    name ∈ target.operatorNames → ofOperator name = target := by
  have names : ∀ target : PaintTarget, ∀ name ∈ target.operatorNames,
      ofOperator name = target := by
    intro target
    cases target <;> decide
  exact fun {target name} member => names target name member

theorem operatorsOf_cons_of_mem {target : PaintTarget} {operator : Operator}
    {operators : List Operator} (member : operator.name ∈ target.operatorNames) :
    target.operatorsOf (operator :: operators) = operator :: target.operatorsOf operators :=
  List.filter_cons_of_pos (decide_eq_true member)

theorem operatorsOf_cons_of_not_mem {target : PaintTarget} {operator : Operator}
    {operators : List Operator} (not_member : operator.name ∉ target.operatorNames) :
    target.operatorsOf (operator :: operators) = target.operatorsOf operators :=
  List.filter_cons_of_neg (by simpa using not_member)

end PaintTarget

/-! ## What an operator reads and writes -/

namespace ContentScope

variable [StreamDecoder] {scope : ContentScope} {nested : Nested} {paint other after : PaintState}
  {operator : Operator} {target : PaintTarget}

/-- Judge the device color that an operator sets, if it sets one. -/
def checkDeviceColor (scope : ContentScope) (operator : Operator) : Except StreamFailure Unit := do
  match ← operator.deviceColor? with
  | some color => scope.settings.checkColor color
  | none => return ()

/-- An operator that selects a color space. -/
theorem step_space (named : operator.name = "CS" ∨ operator.name = "cs") :
    scope.step nested paint operator
      = (selectedSpace operator).map (paint.set (.ofOperator operator.name)) := by
  obtain ⟨name, operands⟩ := operator
  rcases named with rfl | rfl <;> exact bind_pure_comp ..

/-- An operator that sets a color in the current space. -/
theorem step_color (named : operator.name ∈ ["SC", "SCN", "sc", "scn"]) :
    scope.step nested paint operator
      = (scope.checkSelectedColor nested paint operator).map fun _ => paint := by
  obtain ⟨name, operands⟩ := operator
  simp only [List.mem_cons, List.not_mem_nil, or_false] at named
  rcases named with rfl | rfl | rfl | rfl <;> exact bind_pure_comp ..

/-- Any other operator. -/
theorem step_device (not_space : operator.name ≠ "CS" ∧ operator.name ≠ "cs")
    (not_color : operator.name ∉ ["SC", "SCN", "sc", "scn"]) :
    scope.step nested paint operator = (scope.checkDeviceColor operator).map fun _ => paint := by
  simp only [List.mem_cons, List.not_mem_nil, or_false, not_or] at not_color
  unfold step checkDeviceColor
  split
  · next name => exact absurd name not_space.1
  · next name => exact absurd name not_space.2
  · next name => exact absurd name not_color.1
  · next name => exact absurd name not_color.2.1
  · next name => exact absurd name not_color.2.2.1
  · next name => exact absurd name not_color.2.2.2
  · cases operator.deviceColor? with
    | error failure => rfl
    | ok color? =>
      cases color? with
      | none => rfl
      | some color =>
        simp only [ok_bind]
        cases scope.settings.checkColor color <;> rfl

omit [StreamDecoder] in
theorem checkDeviceColor_of_not_mem
    (other : ∀ target : PaintTarget, operator.name ∉ target.operatorNames) :
    scope.checkDeviceColor operator = .ok () := by
  have not_stroke := other .stroke
  have not_fill := other .fill
  simp only [PaintTarget.operatorNames, List.mem_cons, List.not_mem_nil, or_false, not_or]
    at not_stroke not_fill
  have plain : operator.deviceColor? = .ok none := by
    unfold Operator.deviceColor?
    split
    case h_7 => rfl
    all_goals simp_all
  unfold checkDeviceColor
  rw [plain]
  rfl

/-- An operator of no target changes nothing and always passes. -/
theorem step_of_not_mem (other : ∀ target : PaintTarget, operator.name ∉ target.operatorNames) :
    scope.step nested paint operator = .ok paint := by
  have not_stroke := other .stroke
  have not_fill := other .fill
  simp only [PaintTarget.operatorNames, List.mem_cons, List.not_mem_nil, or_false, not_or]
    at not_stroke not_fill
  rw [step_device, checkDeviceColor_of_not_mem other]
  · rfl
  · exact ⟨not_stroke.1, not_fill.1⟩
  · simp [not_stroke, not_fill]

/-- An operator of a target writes nothing but the space of that target. -/
theorem step_writes (member : operator.name ∈ target.operatorNames)
    (passes : scope.step nested paint operator = .ok after) {untouched : PaintTarget}
    (distinct : untouched ≠ target) : after.current? untouched = paint.current? untouched := by
  by_cases space : operator.name = "CS" ∨ operator.name = "cs"
  · rw [step_space space] at passes
    obtain ⟨name, -, rfl⟩ := map_eq_ok.1 passes
    rw [PaintState.current?_set, PaintTarget.ofOperator_of_mem member, if_neg distinct]
  · by_cases color : operator.name ∈ ["SC", "SCN", "sc", "scn"]
    · rw [step_color color] at passes
      obtain ⟨-, -, rfl⟩ := map_eq_ok.1 passes
      rfl
    · rw [step_device (not_or.1 space) color] at passes
      obtain ⟨-, -, rfl⟩ := map_eq_ok.1 passes
      rfl

/-- An operator of a target reads nothing but the space of that target: wherever this space is the
same, the operator passes alike and leaves the same space. -/
theorem step_reads (member : operator.name ∈ target.operatorNames)
    (agree : paint.current? target = other.current? target)
    (passes : scope.step nested paint operator = .ok after) :
    ∃ after', scope.step nested other operator = .ok after' ∧
      after.current? target = after'.current? target := by
  by_cases space : operator.name = "CS" ∨ operator.name = "cs"
  · rw [step_space space] at passes ⊢
    obtain ⟨name, selected, rfl⟩ := map_eq_ok.1 passes
    refine ⟨_, map_eq_ok.2 ⟨name, selected, rfl⟩, ?_⟩
    rw [PaintTarget.ofOperator_of_mem member, PaintState.current?_set, PaintState.current?_set,
      if_pos rfl, if_pos rfl]
  · by_cases color : operator.name ∈ ["SC", "SCN", "sc", "scn"]
    · rw [step_color color] at passes ⊢
      obtain ⟨⟨⟩, judged, rfl⟩ := map_eq_ok.1 passes
      refine ⟨other, map_eq_ok.2 ⟨(), ?_, rfl⟩, agree⟩
      unfold checkSelectedColor at judged ⊢
      rw [PaintTarget.ofOperator_of_mem member] at judged ⊢
      rw [← agree]
      exact judged
    · rw [step_device (not_or.1 space) color] at passes ⊢
      obtain ⟨⟨⟩, judged, rfl⟩ := map_eq_ok.1 passes
      exact ⟨other, map_eq_ok.2 ⟨(), judged, rfl⟩, agree⟩

/-- An operator that is not one of a target keeps the space of that target. -/
theorem step_keeps (not_member : operator.name ∉ target.operatorNames)
    (passes : scope.step nested paint operator = .ok after) :
    after.current? target = paint.current? target := by
  by_cases some_target : ∃ other : PaintTarget, operator.name ∈ other.operatorNames
  · obtain ⟨other, member⟩ := some_target
    refine step_writes member passes fun same => not_member ?_
    rw [same]
    exact member
  · rw [step_of_not_mem (not_exists.1 some_target)] at passes
    cases passes
    rfl

/-! ## Runs -/

/-- Operators that pass still do so when only those of a target are left. -/
theorem steps_operatorsOf {operators : List Operator}
    (agree : paint.current? target = other.current? target)
    (passes : operators.foldlM (scope.step nested) paint = .ok after) :
    ∃ after', (target.operatorsOf operators).foldlM (scope.step nested) other = .ok after' := by
  -- On the operators; both runs go through the same spaces of the target.
  induction operators generalizing paint other with
  | nil => exact ⟨other, rfl⟩
  | cons operator operators ih =>
    obtain ⟨middle, first, following⟩ := bind_eq_ok.1 (List.foldlM_cons.symm.trans passes)
    by_cases member : operator.name ∈ target.operatorNames
    · obtain ⟨middle', first', agree'⟩ := step_reads member agree first
      obtain ⟨after', following'⟩ := ih agree' following
      rw [PaintTarget.operatorsOf_cons_of_mem member, List.foldlM_cons]
      exact ⟨after', bind_eq_ok.2 ⟨middle', first', following'⟩⟩
    · rw [PaintTarget.operatorsOf_cons_of_not_mem member]
      exact ih ((step_keeps member first).trans agree) following

/-- Operators pass if those of each target pass by themselves. -/
theorem steps_of_operatorsOf {operators : List Operator} {starts : PaintTarget → PaintState}
    (agree : ∀ target, paint.current? target = (starts target).current? target)
    (passes : ∀ target, ∃ after,
      (PaintTarget.operatorsOf target operators).foldlM (scope.step nested) (starts target)
        = .ok after) :
    ∃ after, operators.foldlM (scope.step nested) paint = .ok after := by
  -- On the operators; each one is a step of one of the two runs, or of none.
  induction operators generalizing paint starts with
  | nil => exact ⟨paint, rfl⟩
  | cons operator operators ih =>
    rw [List.foldlM_cons]
    by_cases some_target : ∃ target : PaintTarget, operator.name ∈ target.operatorNames
    · obtain ⟨target, member⟩ := some_target
      obtain ⟨last, run⟩ := passes target
      rw [PaintTarget.operatorsOf_cons_of_mem member, List.foldlM_cons] at run
      obtain ⟨next, first, following⟩ := bind_eq_ok.1 run
      obtain ⟨middle, step_ok, same⟩ := step_reads member (agree target).symm first
      have further (other : PaintTarget) : ∃ start : PaintState,
          middle.current? other = start.current? other ∧ ∃ after,
            (other.operatorsOf operators).foldlM (scope.step nested) start = .ok after := by
        by_cases distinct : other = target
        · subst distinct
          exact ⟨next, same.symm, last, following⟩
        · have not_member : operator.name ∉ other.operatorNames := fun member' =>
            distinct ((PaintTarget.ofOperator_of_mem member').symm.trans
              (PaintTarget.ofOperator_of_mem member))
          have unchanged := passes other
          rw [PaintTarget.operatorsOf_cons_of_not_mem not_member] at unchanged
          exact ⟨starts other, (step_writes member step_ok distinct).trans (agree other), unchanged⟩
      choose starts' agree' passes' using further
      obtain ⟨after, run⟩ := ih agree' passes'
      exact ⟨after, bind_eq_ok.2 ⟨middle, step_ok, run⟩⟩
    · have none_member := not_exists.1 some_target
      rw [step_of_not_mem none_member]
      refine ih agree fun target => ?_
      rw [← PaintTarget.operatorsOf_cons_of_not_mem (none_member target)]
      exact passes target

end ContentScope

/-! ## Contents -/

namespace Settings

variable [StreamDecoder] {settings : Settings} {document : Option Document} {resources : Dictionary}

/-- Content that can be read passes if its operators pass for each target by themselves. -/
theorem checkContent_eq_ok_iff_operatorsOf (required : settings.level.isRequired = true)
    {content : Bytes} {operators : List Operator} (read : tokenize content = .ok operators)
    (fits : content.length ≤ settings.maxStreamBytes) :
    settings.checkContent document content resources = .ok () ↔
      ∀ target : PaintTarget, ∃ paint, (target.operatorsOf operators).foldlM
        (ContentScope.step ⟨settings, document, resources⟩
          (settings.checkContentWithin document settings.maxRecursionDepth))
        PaintState.initial = .ok paint := by
  obtain ⟨ended, rfl⟩ := tokenize_eq_ok.1 read
  rw [checkContent_eq_ok required]
  constructor
  · rintro ⟨-, -, paint, passes⟩ target
    exact ContentScope.steps_operatorsOf rfl passes
  · intro passes
    obtain ⟨paint, run⟩ := ContentScope.steps_of_operatorsOf (fun _ => rfl) passes
    exact ⟨fits, ended, paint, run⟩

theorem checkContent_of_not_isRequired (free : settings.level.isRequired = false)
    (content : Bytes) : settings.checkContent document content resources = .ok () := by
  unfold checkContent checkContentAt
  rw [free]
  rfl

/-- Content passes exactly if the content that has only its operators for strokes passes, and the
content that has only its operators for fills. So content in which the operators of each target
are the same ones in the same order passes alike, whatever else it holds. -/
theorem checkContent_interleaved (settings : Settings) (document : Option Document)
    (resources : Dictionary) {content : Bytes} {operators : List Operator}
    (read : tokenize content = .ok operators) (fits : content.length ≤ settings.maxStreamBytes) :
    (∀ strokes fills,
      tokenize strokes = .ok (PaintTarget.stroke.operatorsOf operators) →
      tokenize fills = .ok (PaintTarget.fill.operatorsOf operators) →
      strokes.length ≤ settings.maxStreamBytes → fills.length ≤ settings.maxStreamBytes →
      (settings.checkContent document content resources = .ok () ↔
        settings.checkContent document strokes resources = .ok () ∧
          settings.checkContent document fills resources = .ok ())) ∧
    ∀ other rearranged, tokenize other = .ok rearranged →
      other.length ≤ settings.maxStreamBytes →
      (∀ target : PaintTarget, target.operatorsOf rearranged = target.operatorsOf operators) →
      (settings.checkContent document other resources = .ok () ↔
        settings.checkContent document content resources = .ok ()) := by
  cases required : settings.level.isRequired with
  | false => simp [checkContent_of_not_isRequired required]
  | true =>
    constructor
    · intro strokes fills read_strokes read_fills fits_strokes fits_fills
      obtain ⟨ended_strokes, strokes_eq⟩ := tokenize_eq_ok.1 read_strokes
      obtain ⟨ended_fills, fills_eq⟩ := tokenize_eq_ok.1 read_fills
      rw [checkContent_eq_ok_iff_operatorsOf required read fits, checkContent_eq_ok required,
        checkContent_eq_ok required, strokes_eq, fills_eq]
      constructor
      · intro passes
        exact ⟨⟨fits_strokes, ended_strokes, passes .stroke⟩, fits_fills, ended_fills, passes .fill⟩
      · rintro ⟨⟨-, -, strokes_pass⟩, -, -, fills_pass⟩ target
        cases target with
        | stroke => exact strokes_pass
        | fill => exact fills_pass
    · intro other rearranged read_other fits_other same
      rw [checkContent_eq_ok_iff_operatorsOf required read_other fits_other,
        checkContent_eq_ok_iff_operatorsOf required read fits]
      simp only [same]

end Settings

/-! ## Strokes in RGB between fills in gray -/

attribute [local instance] StreamDecoder.withoutFilters

/-- Content that strokes in RGB and fills in gray. -/
def mixedContent : Bytes := Bytes.ofLatin "/RGB CS /G cs q 1 sc 1 0 0 SC"

/-- The operators for strokes of the mixed content. -/
def rgbStrokes : List Operator :=
  [⟨"CS", [.name "RGB"]⟩, ⟨"SC", [.integer 1, .integer 0, .integer 0]⟩]

/-- The operators for fills of the mixed content. -/
def grayFills : List Operator := [⟨"cs", [.name "G"]⟩, ⟨"sc", [.integer 1]⟩]

theorem tokenize_mixedContent : tokenize mixedContent
    = .ok [⟨"CS", [.name "RGB"]⟩, ⟨"cs", [.name "G"]⟩, ⟨"q", []⟩, ⟨"sc", [.integer 1]⟩,
      ⟨"SC", [.integer 1, .integer 0, .integer 0]⟩] := by cbv

theorem tokenize_rgbStrokes : tokenize (Bytes.ofLatin "/RGB CS 1 0 0 SC") = .ok rgbStrokes := by
  cbv

theorem tokenize_grayFills : tokenize (Bytes.ofLatin "/G cs 1 sc") = .ok grayFills := by cbv

theorem tokenize_grayFills_append : tokenize (Bytes.ofLatin "/G cs 1 sc /RGB CS 1 0 0 SC")
    = .ok (grayFills ++ rgbStrokes) := by cbv

/-- The mixed content fails the strict level, as its strokes by themselves do, though its fills by
themselves pass. -/
theorem checkContent_interleaved_mixedContent :
    let strict := Settings.ofLevel .x1a
    strict.checkContent none (Bytes.ofLatin "/G cs 1 sc") [] = .ok () ∧
      (strict.checkContent none mixedContent []).toOption = none ∧
      (strict.checkContent none mixedContent [] = .ok () ↔
        strict.checkContent none (Bytes.ofLatin "/RGB CS 1 0 0 SC") [] = .ok () ∧
          strict.checkContent none (Bytes.ofLatin "/G cs 1 sc") [] = .ok ()) ∧
      (strict.checkContent none (Bytes.ofLatin "/G cs 1 sc /RGB CS 1 0 0 SC") [] = .ok () ↔
        strict.checkContent none mixedContent [] = .ok ()) := by
  intro strict
  obtain ⟨split, rearranged⟩ :=
    strict.checkContent_interleaved none [] tokenize_mixedContent (by decide +kernel)
  refine ⟨by decide +kernel, by decide +kernel, split _ _ ?_ ?_ ?_ ?_,
    rearranged _ _ tokenize_grayFills_append ?_ ?_⟩
  · exact tokenize_rgbStrokes
  · exact tokenize_grayFills
  · decide +kernel
  · decide +kernel
  · decide +kernel
  · intro target
    cases target <;> rfl

end Preflight
