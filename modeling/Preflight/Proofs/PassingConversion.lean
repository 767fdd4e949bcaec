import Mathlib
import Preflight.Proofs.PaintTargets
import Preflight.Proofs.RepeatedConversion

/-!
# Converted content passes

A content stream that sets colors only by the operators for device colors, and selects no color
space, passes every level once it is converted: its colors are inks then, the numbers of these can
be read, and the operators that set a color in the current space find none selected.
-/

namespace Preflight

/-! ## Operators of a converted stream -/

/-- Inks are allowed at every level. -/
theorem Settings.checkColor_ofCmyk (settings : Settings) (cyan magenta yellow black : Single) :
    settings.checkColor (.ofCmyk cyan magenta yellow black) = .ok () := by
  unfold checkColor
  split <;> rfl

namespace Converter

variable {converter : Converter}

/-- A converted stream is read to its end, with the operators of the original one rewritten. -/
theorem readOperators_convertContent {limit : ℕ} {content out : Bytes}
    (h : converter.convertContent limit content = .ok out)
    (moderate : ∀ operator ∈ (readOperators content).operators,
      ∀ x ∈ Operand.realsOfItems operator.operands, x.Moderate) :
    ∃ rewritten, readOperators out = ⟨rewritten, none⟩ ∧
      List.Forall₂ converter.Rewritten (readOperators content).operators rewritten := by
  obtain ⟨lines, obeyed, same⟩ := bind_eq_ok.1 h
  obtain ⟨-, -, lines_ok⟩ := obeyOperators_eq_ok.1 obeyed
  cases same
  obtain ⟨written, rewritten, flat, lines_read, related⟩ :=
    converter.lines_rewritten (fun operator member => isReadable_of_mem_readOperators member)
      moderate (mapM_eq_ok.1 lines_ok)
  exact ⟨rewritten, by rw [flat, readOperators_lines lines_read], related⟩

section

variable [StreamDecoder] {scope : ContentScope} {nested : ContentScope.Nested}
  {operator read : Operator}

/-- An operator that sets inks passes, and selects no space. -/
theorem step_inks {paint : PaintState} {name : String} {operands : List Operand}
    {components : List Single} (named : name = "k" ∨ name = "K")
    (count : components.length = 4)
    (inks : List.Forall₂ (fun component operand =>
      Operand.ofPrinted? component.toDouble = some operand ∧ operand.InUnit) components operands) :
    scope.step nested paint ⟨name, operands⟩ = .ok paint := by
  match components, operands, count, inks with
  | [_, _, _, _], [cyan, magenta, yellow, black], _,
      .cons ⟨_, _, cyan_number, _⟩ (.cons ⟨_, _, magenta_number, _⟩ (.cons ⟨_, _, yellow_number, _⟩
        (.cons ⟨_, _, black_number, _⟩ .nil))) =>
    have found := deviceColor?_of_setsDeviceColor
      (.cmyk named cyan_number magenta_number yellow_number black_number)
    rw [ContentScope.step_device]
    · unfold ContentScope.checkDeviceColor
      rw [found, ok_bind]
      simp only
      rw [Settings.checkColor_ofCmyk]
      rfl
    · rcases named with rfl | rfl <;> simp
    · rcases named with rfl | rfl <;> simp

/-- Where no space was selected, an operator that neither selects one nor sets a device color
passes. -/
theorem step_initial (named : convertedName? operator.name = none)
    (no_space : operator.name ≠ "CS" ∧ operator.name ≠ "cs") :
    scope.step nested .initial operator = .ok .initial := by
  by_cases color : operator.name ∈ ["SC", "SCN", "sc", "scn"]
  · have unselected (target : PaintTarget) : PaintState.initial.current? target = none := by
      cases target <;> rfl
    rw [ContentScope.step_color color]
    unfold ContentScope.checkSelectedColor
    rw [unselected]
    rfl
  · rw [ContentScope.step_device no_space color]
    unfold ContentScope.checkDeviceColor
    rw [deviceColor?_of_convertedName? named]
    rfl

/-- What an operator is read back as passes where no space was selected. -/
theorem Rewritten.step (rewritten : converter.Rewritten operator read)
    (no_space : operator.name ≠ "CS" ∧ operator.name ≠ "cs") :
    scope.step nested .initial read = .ok .initial := by
  cases rewritten with
  | deviceColor named sets converted inks =>
    refine step_inks ?_ rfl inks
    rw [sets.convertedName?] at named
    cases named
    cases PaintTarget.ofOperator operator.name
    · exact Or.inr rfl
    · exact Or.inl rfl
  | other named =>
    exact step_initial named no_space

/-- All operators of a converted stream pass, one after the other, where no space is selected. -/
theorem steps_rewritten {operators rewritten : List Operator}
    (related : List.Forall₂ converter.Rewritten operators rewritten)
    (no_space : ∀ operator ∈ operators, operator.name ≠ "CS" ∧ operator.name ≠ "cs") :
    rewritten.foldlM (scope.step nested) .initial = .ok .initial := by
  induction related with
  | nil => rfl
  | cons first _ ih =>
    rw [List.forall_mem_cons] at no_space
    rw [List.foldlM_cons, first.step no_space.1]
    exact ih no_space.2

/-! ## Converted streams -/

/-- A stream that selects no color space passes once it is converted, at the strict level as at all
others, if it is not too long then. -/
theorem checkContent_convertContent (converter : Converter) (limit : ℕ) {content out : Bytes}
    (h : converter.convertContent limit content = .ok out)
    (no_space : ∀ operator ∈ (readOperators content).operators,
      operator.name ≠ "CS" ∧ operator.name ≠ "cs")
    (moderate : ∀ operator ∈ (readOperators content).operators,
      ∀ x ∈ Operand.realsOfItems operator.operands, x.Moderate)
    {settings : Settings} (fits : out.length ≤ settings.maxStreamBytes)
    (document : Option Document) (resources : Dictionary) :
    settings.checkContent document out resources = .ok () := by
  cases required : settings.level.isRequired with
  | false => exact Settings.checkContent_of_not_isRequired required out
  | true =>
    obtain ⟨rewritten, read, related⟩ := readOperators_convertContent h moderate
    rw [Settings.checkContent_eq_ok required, read]
    exact ⟨fits, rfl, .initial, steps_rewritten related no_space⟩

end

attribute [local instance] StreamDecoder.withoutFilters

/-- Content in RGB fails the strict level before it is converted to black, and passes it after. -/
theorem checkContent_convertContent_blackInk :
    let strict := Settings.ofLevel .x1a
    blackInk.convertContent 100 (Bytes.ofLatin "1 0 0 RG 0.5 sc [1.25] TJ")
        = .ok (Bytes.ofLatin "0 0 0 1 K\n0.5 sc\n[1.25] TJ\n") ∧
      (strict.checkContent none (Bytes.ofLatin "1 0 0 RG 0.5 sc [1.25] TJ") []).toOption = none ∧
      strict.checkContent none (Bytes.ofLatin "0 0 0 1 K\n0.5 sc\n[1.25] TJ\n") [] = .ok () := by
  intro strict
  have converted : blackInk.convertContent 100 (Bytes.ofLatin "1 0 0 RG 0.5 sc [1.25] TJ")
      = .ok (Bytes.ofLatin "0 0 0 1 K\n0.5 sc\n[1.25] TJ\n") := by
    decide +kernel
  refine ⟨converted, by decide +kernel, ?_⟩
  exact blackInk.checkContent_convertContent 100 converted (by decide +kernel) (by decide +kernel)
    (by decide +kernel) none []

end Converter

end Preflight
