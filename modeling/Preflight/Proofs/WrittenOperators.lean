import Mathlib
import Preflight.Proofs.ContentConversion

/-!
# Operators of a converted stream as they are written

A converted stream has one line for each operator of the original one: the operator for inks where a
device color is set, and everywhere else the operator itself. Nothing is assumed about the numbers
among its operands, so a line need not be readable.
-/

namespace Preflight.Converter

variable (converter : Converter)

/-- What is written in the place of an operator: the operator for inks with the components of the
converted color, or the same operator. -/
inductive Written : Operator → Operator → Prop where
  | deviceColor {operator : Operator} {color : Color} {name : String}
      {cyan magenta yellow black : Single} (named : convertedName? operator.name = some name)
      (sets : operator.SetsDeviceColor color)
      (converted : converter.convert color
        = .cmyk (normalize cyan) (normalize magenta) (normalize yellow) (normalize black)) :
      Written operator ⟨name, [normalize cyan, normalize magenta, normalize yellow,
        normalize black].map fun component => .real component.toDouble⟩
  | other {operator : Operator} (named : convertedName? operator.name = none) :
      Written operator operator

/-- The line of an operator is that of the operator that is written in its place. -/
theorem exists_written_of_operatorLine {operator : Operator} {line : Bytes}
    (readable : operator.IsReadable) (h : converter.operatorLine operator = .ok line) :
    ∃ written : Operator, line = written.bytes ++ [0x0A] ∧ written.IsReadable ∧
      converter.Written operator written := by
  obtain ⟨color?, found, same⟩ := bind_eq_ok.1 h
  rcases Operator.deviceColor?_eq_ok found with ⟨color, rfl, sets⟩ | ⟨rfl, named⟩
  · obtain ⟨cyan, magenta, yellow, black, converted⟩ := converter.convert_deviceColor sets
    obtain ⟨keyword, other⟩ := isKeyword_of_convertedName? sets.convertedName?
    cases same
    refine ⟨_, ?_, ?_, .deviceColor sets.convertedName? sets converted⟩
    · rw [colorLine, converted]
      exact colorOperatorBytes_eq _ other
    · refine Or.inl ⟨keyword, other, ?_⟩
      intro operand member
      obtain ⟨component, -, rfl⟩ := List.mem_map.1 member
      exact Nat.zero_le _
  · cases same
    exact ⟨operator, rfl, readable, .other named⟩

/-- The lines of several operators are those of the operators that are written in their places. -/
theorem exists_written_of_lines {operators : List Operator} {lines : List Bytes}
    (readable : ∀ operator ∈ operators, operator.IsReadable)
    (h : operators.mapM converter.operatorLine = .ok lines) :
    ∃ written : List Operator,
      lines.flatten = written.flatMap (fun operator => operator.bytes ++ [0x0A]) ∧
      (∀ operator ∈ written, operator.IsReadable) ∧
      List.Forall₂ converter.Written operators written := by
  have each := mapM_eq_ok.1 h
  clear h
  induction each with
  | nil => exact ⟨[], rfl, by simp, .nil⟩
  | @cons operator line operators lines line_ok _ ih =>
    obtain ⟨first, rfl, first_readable, first_written⟩ :=
      converter.exists_written_of_operatorLine (readable operator List.mem_cons_self) line_ok
    obtain ⟨written, flat, others, all_written⟩ :=
      ih (fun other member => readable other (List.mem_cons_of_mem _ member))
    refine ⟨first :: written, ?_, List.forall_mem_cons.2 ⟨first_readable, others⟩,
      .cons first_written all_written⟩
    rw [List.flatten_cons, flat, List.flatMap_cons]

/-- A converted stream, line by line. -/
theorem exists_written_of_convertContent {limit : ℕ} {content out : Bytes}
    (h : converter.convertContent limit content = .ok out) :
    ∃ written : List Operator,
      out = written.flatMap (fun operator => operator.bytes ++ [0x0A]) ∧
      (∀ operator ∈ written, operator.IsReadable) ∧
      List.Forall₂ converter.Written (readOperators content).operators written := by
  obtain ⟨lines, obeyed, same⟩ := bind_eq_ok.1 h
  obtain ⟨-, -, lines_ok⟩ := obeyOperators_eq_ok.1 obeyed
  cases same
  exact converter.exists_written_of_lines
    (fun _ member => isReadable_of_mem_readOperators member) lines_ok

end Preflight.Converter
