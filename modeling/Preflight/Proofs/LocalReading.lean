import Mathlib
import Preflight.Proofs.ContentConversion
import Preflight.Proofs.FollowedReaders

/-!
# Content in two parts

Reading content is local: behind content without faults, and a line end, a reader goes on as if it
began there. So a conversion, which takes one operator at a time, gives the converted first part and
then the converted second part.
-/

namespace Preflight

/-! ## Reading operator by operator -/

/-- The operators of a stream, and then the fault that it stops at, if there is one. -/
def Transcript.results (transcript : Transcript) : List (Except ContentFault Operator) :=
  transcript.operators.map .ok ++ (transcript.stop.map fun stop => .error stop.fault).toList

namespace OperatorReader

/-- What the next `count` calls of a reader give. -/
def calls : ℕ → OperatorReader → List (Option (Except ContentFault Operator))
  | 0, _ => []
  | count + 1, reader => reader.next.1 :: calls count reader.next.2

theorem next_running (size : ℕ) (rest : Bytes) :
    next ⟨size, rest, false⟩ =
      match operatorOutcome (readOperator 0 rest) with
      | .error stop => (some (.error stop.fault), ⟨size, stop.rest, true⟩)
      | .ok none => (none, ⟨size, [], false⟩)
      | .ok (some (operator, after)) => (some (.ok operator), ⟨size, after, false⟩) := by
  unfold next
  rw [if_neg Bool.false_ne_true]
  rcases readOperator 0 rest with stop | _ | parsed <;> rfl

theorem calls_stopped (count size : ℕ) (rest : Bytes) :
    calls count ⟨size, rest, true⟩ = List.replicate count none := by
  induction count with
  | zero => rfl
  | succ count ih => exact congrArg (none :: ·) ih

/-- Reading operator by operator gives what reading at once gives, and nothing after that. -/
theorem calls_running (count size : ℕ) (rest : Bytes) :
    calls count ⟨size, rest, false⟩
      = (List.range count).map fun i => (readOperators rest).results[i]? := by
  induction count generalizing rest with
  | zero => rfl
  | succ count ih =>
    rw [calls, next_running, readOperators_eq rest, List.range_succ_eq_map, List.map_cons,
      List.map_map]
    rcases operatorOutcome (readOperator 0 rest) with stop | _ | ⟨operator, after⟩
    · simp [Transcript.results, calls_stopped, Function.comp_def]
    · simp only [ih, readOperators_blanks skipBlanks_nil]
      rfl
    · simp only [ih]
      rfl

end OperatorReader

/-- Behind content without faults, a reader goes on as if it began there, unless that stands within
a comment. -/
theorem OperatorReader.calls_append {first more : Bytes} {separator : UInt8}
    (blank : isBlank separator = true)
    (closed : endsInComment first = false ∨ isLineEnd separator = true)
    (ended : (readOperators first).stop = none) (count size size' : ℕ) :
    calls ((readOperators first).operators.length + count) ⟨size, first ++ separator :: more, false⟩
      = (readOperators first).operators.map (some ∘ Except.ok)
        ++ calls count ⟨size', more, false⟩ := by
  have results : (readOperators (first ++ separator :: more)).results
      = (readOperators first).operators.map .ok ++ (readOperators more).results := by
    rw [readOperators_append blank closed ended, Transcript.results, List.map_append,
      List.append_assoc]
    rfl
  rw [calls_running, calls_running, results, List.range_add, List.map_append, List.map_map]
  congr 1
  · refine List.ext_getElem (by simp) fun i _ within => ?_
    rw [List.length_map] at within
    simp [List.getElem?_append_left, within]
  · refine List.map_congr_left fun i _ => ?_
    simp [List.getElem?_append_right]

/-! ## Conversion -/

/-- Content in two parts is converted part by part. -/
theorem Converter.convertContent_append_ok {converter : Converter} {limit : ℕ}
    {first second firstOut secondOut : Bytes} {separator : UInt8}
    (blank : isBlank separator = true)
    (closed : endsInComment first = false ∨ isLineEnd separator = true)
    (first_converted : converter.convertContent limit first = .ok firstOut)
    (second_converted : converter.convertContent limit second = .ok secondOut)
    (fits : (first ++ separator :: second).length ≤ limit) :
    converter.convertContent limit (first ++ separator :: second)
      = .ok (firstOut ++ secondOut) := by
  obtain ⟨firstLines, first_obeyed, same⟩ := bind_eq_ok.1 first_converted
  cases same
  obtain ⟨secondLines, second_obeyed, same⟩ := bind_eq_ok.1 second_converted
  cases same
  obtain ⟨-, first_ended, first_lines⟩ := obeyOperators_eq_ok.1 first_obeyed
  obtain ⟨-, second_ended, second_lines⟩ := obeyOperators_eq_ok.1 second_obeyed
  have reads : readOperators (first ++ separator :: second) = _ :=
    readOperators_append blank closed first_ended
  refine bind_eq_ok.2 ⟨firstLines ++ secondLines, obeyOperators_eq_ok.2 ⟨fits, ?_, ?_⟩, ?_⟩
  · rw [reads]
    exact second_ended
  · rw [reads, mapM_eq_ok]
    exact List.rel_append (mapM_eq_ok.1 first_lines) (mapM_eq_ok.1 second_lines)
  · rw [List.flatten_append]
    rfl

/-- Reading content in two lines gives the operators of the first one, if it has no faults, and then
whatever the second one gives; and it is converted line by line. -/
theorem reading_append_line (first second : Bytes) :
    (∀ operators, tokenize first = .ok operators → ∀ count,
      (OperatorReader.start (first ++ 0x0A :: second)).calls (operators.length + count)
        = operators.map (some ∘ Except.ok) ++ (OperatorReader.start second).calls count) ∧
    ∀ (converter : Converter) (limit : ℕ) (firstOut secondOut : Bytes),
      converter.convertContent limit first = .ok firstOut →
      converter.convertContent limit second = .ok secondOut →
      (first ++ 0x0A :: second).length ≤ limit →
      converter.convertContent limit (first ++ 0x0A :: second) = .ok (firstOut ++ secondOut) := by
  constructor
  · intro operators read count
    obtain ⟨ended, rfl⟩ := tokenize_eq_ok.1 read
    exact OperatorReader.calls_append rfl (Or.inr rfl) ended count _ _
  · intro converter limit firstOut secondOut first_converted second_converted fits
    exact Converter.convertContent_append_ok rfl (Or.inr rfl) first_converted second_converted fits

/-- The first line ends within a comment, behind an image. The second one is at fault behind its
first operator, or it is converted. -/
theorem reading_append_line_image :
    tokenize (Bytes.ofLatin "BI /W 1 ID xEI\nEI % open")
      = .ok [⟨"BI", [.array [.name "W", .integer 1],
        .literal (Bytes.ofLatin "xEI")]⟩] ∧
    (OperatorReader.start (Bytes.ofLatin "BI /W 1 ID xEI\nEI % open\nq (Q")).calls (1 + 3)
      = [some (.ok ⟨"BI", [.array [.name "W", .integer 1],
        .literal (Bytes.ofLatin "xEI")]⟩), some (.ok ⟨"q", []⟩), some (.error .openLiteral), none] ∧
    Converter.blackInk.convertContent 50 (Bytes.ofLatin "BI /W 1 ID xEI\nEI % open\n0.5 g")
      = .ok (Bytes.ofLatin "BI /W 1 ID xEI\nEI\n0 0 0 1 k\n") := by
  have read : tokenize (Bytes.ofLatin "BI /W 1 ID xEI\nEI % open")
      = .ok [⟨"BI", [.array [.name "W", .integer 1],
        .literal (Bytes.ofLatin "xEI")]⟩] := by
    cbv
  refine ⟨read, ?_, ?_⟩
  · rw [show Bytes.ofLatin "BI /W 1 ID xEI\nEI % open\nq (Q"
      = Bytes.ofLatin "BI /W 1 ID xEI\nEI % open" ++ 0x0A :: Bytes.ofLatin "q (Q" by decide +kernel]
    exact ((reading_append_line _ (Bytes.ofLatin "q (Q")).1 _ read 3).trans (by cbv)
  · exact (reading_append_line (Bytes.ofLatin "BI /W 1 ID xEI\nEI % open")
      (Bytes.ofLatin "0.5 g")).2 Converter.blackInk 50 (Bytes.ofLatin "BI /W 1 ID xEI\nEI\n")
      (Bytes.ofLatin "0 0 0 1 k\n") (by decide +kernel) (by decide +kernel) (by decide +kernel)

end Preflight
