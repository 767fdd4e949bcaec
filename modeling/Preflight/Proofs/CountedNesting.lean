import Mathlib
import Preflight.Proofs.ReadableOperators

/-!
# Reading that counts its nesting

Arrays and dictionaries are read by recursion on the levels of nesting that are left. Here the same
syntax is read from a cursor that counts the open arrays and dictionaries instead: the count goes up
before the content of one is read, comes down after it, also at a fault, and is compared with the
limit in between. Nothing bounds the recursion, so that reading need not come to an end. It does,
with the same values and faults at the same places, and the count is what it was before.
-/

namespace Preflight

open Reading

/-- Where a reader stands: the bytes that it has not read, and how many arrays and dictionaries are
open. -/
structure Cursor where
  rest : Bytes
  nesting : ℕ

namespace Cursor

variable {α β : Type}

/-! ## Reading from a cursor -/

/-- A value or a fault, and the cursor after it. -/
abbrev Result (α : Type) := Except ContentFault α × Cursor

/-- What a reader that opens nothing gives, where so many arrays and dictionaries are open. -/
def settle (nesting : ℕ) : Except Stop (α × Bytes) → Result α
  | .ok (value, rest) => (.ok value, ⟨rest, nesting⟩)
  | .error stop => (.error stop.fault, ⟨stop.rest, nesting⟩)

/-- The cursor in front of other bytes. -/
def moveTo (cursor : Cursor) (rest : Bytes) : Cursor := { cursor with rest }

/-- The cursor behind the opening of an array or a dictionary. -/
def enter (cursor : Cursor) (rest : Bytes) : Cursor := ⟨rest, cursor.nesting + 1⟩

/-- The cursor when the content of an array or a dictionary was read, or was given up. -/
def leave (cursor : Cursor) : Cursor := { cursor with nesting := cursor.nesting - 1 }

mutual

/-- The token at the cursor, if reading it ends. -/
def token? (cursor : Cursor) : Option (Result Token) :=
  match cursor.rest with
  | 0x5B :: rest =>
    if maxNesting ≤ cursor.nesting then some (.error .nesting, cursor)
    else do
      let (items, after) ← cursor.enter rest |>.items?
      return (items.map fun items => .operand (.array items), after.leave)
  | 0x3C :: 0x3C :: rest =>
    if maxNesting ≤ cursor.nesting then some (.error .nesting, cursor)
    else do
      let (entries, after) ← cursor.enter rest |>.entries?
      return (entries.map fun entries => .operand (.dictionary entries), after.leave)
  | rest => some (settle cursor.nesting (readTokenWith none rest).outcome)
partial_fixpoint

/-- The items of an array up to its end, if reading them ends. -/
def items? (cursor : Cursor) : Option (Result (List Operand)) :=
  match skipBlanks cursor.rest with
  | [] => some (.error .openArray, cursor.moveTo [])
  | b :: rest =>
    if b = 0x5D then some (.ok [], cursor.moveTo rest)
    else do
      let (token, after) ← cursor.moveTo (b :: rest) |>.token?
      match token with
      | .error fault => return (.error fault, after)
      | .ok token => do
        let (items, last) ← after |>.items?
        return (items.map (token.nestedValue :: ·), last)
partial_fixpoint

/-- The entries of a dictionary up to its end, if reading them ends. -/
def entries? (cursor : Cursor) : Option (Result (List (String × Operand))) :=
  match skipBlanks cursor.rest with
  | [] => some (.error .openDictionary, cursor.moveTo [])
  | b :: rest =>
    if b = 0x3E ∧ rest.head? = some 0x3E then some (.ok [], cursor.moveTo (rest.drop 1))
    else if b = 0x2F then
      match skipBlanks (readName rest).2 with
      | [] => some (.error .openDictionaryValue, cursor.moveTo [])
      | c :: inner => do
        let (token, after) ← cursor.moveTo (c :: inner) |>.token?
        match token with
        | .error fault => return (.error fault, after)
        | .ok token => do
          let (entries, last) ← after |>.entries?
          return (entries.map (((readName rest).1, token.nestedValue) :: ·), last)
    else some (.error .dictionaryKey, cursor.moveTo (b :: rest))
partial_fixpoint

end

/-- The keys and values of an inline image up to its data, if reading them ends. -/
def imageEntries? (cursor : Cursor) : Option (Result (List Operand)) :=
  match skipBlanks cursor.rest with
  | [] => some (.error .openImage, cursor.moveTo [])
  | b :: rest =>
    if b = 0x49 ∧ rest.head? = some 0x44 ∧ (rest.drop 1).head?.all isBlank = true then
      some (.ok [], cursor.moveTo (rest.drop 2))
    else if b = 0x2F then
      match skipBlanks (readName rest).2 with
      | [] => some (.error .openImageValue, cursor.moveTo [])
      | c :: inner => do
        let (token, after) ← cursor.moveTo (c :: inner) |>.token?
        match token with
        | .error fault => return (.error fault, after)
        | .ok token => do
          let (entries, last) ← after |>.imageEntries?
          return (entries.map (.name (readName rest).1 :: token.nestedValue :: ·), last)
    else some (.error .imageKey, cursor.moveTo (b :: rest))
partial_fixpoint

/-- The inline image at the cursor, if reading it ends. -/
def image? (cursor : Cursor) : Option (Result Operator) := do
  let (entries, after) ← cursor.imageEntries?
  match entries with
  | .error fault => return (.error fault, after)
  | .ok entries =>
    match splitImageData true after.rest with
    | none => return (.error .openImageData, after)
    | some (bytes, rest) =>
      return (.ok ⟨"BI", [.array entries, .literal bytes.dropLast]⟩, after.moveTo rest)

/-- The operator at the cursor after `count` operands, or none at the end of the stream, if reading
it ends. -/
def operator? (count : ℕ) (cursor : Cursor) : Option (Result (Option Operator)) :=
  match skipBlanks cursor.rest with
  | [] =>
    if count = 0 then some (.ok none, cursor.moveTo [])
    else some (.error (.operandsAtEnd count), cursor.moveTo [])
  | b :: rest =>
    if b = 0x5D then some (.error .strayArrayEnd, cursor.moveTo (b :: rest))
    else if isTokenByte b = false then cursor.moveTo rest |>.operator? count
    else do
      let (token, after) ← cursor.moveTo (b :: rest) |>.token?
      match token with
      | .error fault => return (.error fault, after)
      | .ok (.operand value) => do
        let (operator, last) ← after |>.operator? (count + 1)
        return (operator.map (Option.map fun operator =>
          ⟨operator.name, value :: operator.operands⟩), last)
      | .ok (.keyword word) =>
        if word = "BI" then
          if count = 0 then do
            let (operator, last) ← image? after
            return (operator.map some, last)
          else return (.error (.operandsBeforeImage count), after)
        else return (.ok (some ⟨word, []⟩), after)
partial_fixpoint

/-! ## The count comes back -/

section

variable {nesting level bound : ℕ}

theorem settle_map (f : α → β) (outcome : Except Stop (α × Bytes)) :
    settle nesting (outcome.map (Prod.map f id))
      = ((settle nesting outcome).1.map f, (settle nesting outcome).2) := by
  cases outcome <;> rfl

/-- The count comes down again when the content of an array or a dictionary was read or given up. -/
theorem leave_settle (f : α → β) (outcome : Except Stop (α × Bytes)) :
    ((settle (nesting + 1) outcome).1.map f, (settle (nesting + 1) outcome).2.leave)
      = settle nesting (outcome.map (Prod.map f id)) := by
  cases outcome <;> rfl

/-- Where the readers agree on what follows a token, they agree on the token with what follows it. -/
theorem settle_next {first : Except Stop (Token × Bytes)} {more? : Cursor → Option (Result α)}
    {more : Bytes → Except Stop (α × Bytes)} (join : Operand → α → β)
    (same : ∀ token after, first = .ok (token, after) →
      more? ⟨after, nesting⟩ = some (settle nesting (more after))) :
    (do
      let (token, after) ← some (settle nesting first)
      match token with
      | .error fault => return (.error fault, after)
      | .ok token => do
        let (others, last) ← more? after
        return (others.map (join token.nestedValue), last)) =
      some (settle nesting (match first.map (Prod.map Token.nestedValue id) with
        | .error stop => .error stop
        | .ok (value, after) => (more after).map (Prod.map (join value) id))) := by
  cases first with
  | error stop => rfl
  | ok found =>
    obtain ⟨token, after⟩ := found
    simp only [settle, Option.bind_eq_bind, Option.bind_some]
    rw [same token after rfl]
    exact congrArg some (settle_map ..).symm

/-- A token without nested values is read in the same way on every level. -/
theorem readTokenWith_flat (value : Option ((input : Bytes) → Reading Operand input)) {input : Bytes}
    (array : ∀ rest, input ≠ 0x5B :: rest) (dictionary : ∀ rest, input ≠ 0x3C :: 0x3C :: rest) :
    (readTokenWith value input).outcome = (readTokenWith none input).outcome := by
  cases input with
  | nil => rfl
  | cons b rest =>
    have brackets : ¬(b = 0x3C ∧ rest.head? = some 0x3C) := by
      rintro ⟨rfl, second⟩
      obtain ⟨tail, rfl⟩ := List.head?_eq_some_iff.1 second
      exact dictionary tail rfl
    have bracket : ¬b = 0x5B := fun first => array rest (first ▸ rfl)
    rw [readTokenWith_outcome, readTokenWith_outcome, if_neg brackets, if_neg brackets,
      if_neg bracket, if_neg bracket]

theorem readTokenWith_openArray (value : Option ((input : Bytes) → Reading Operand input))
    (rest : Bytes) :
    (readTokenWith value (0x5B :: rest)).outcome =
      match value with
      | none => .error ⟨.nesting, 0x5B :: rest⟩
      | some value =>
        (readItems value rest).outcome.map (Prod.map (fun items => .operand (.array items)) id) := by
  rw [readTokenWith_outcome]
  rfl

theorem readTokenWith_openDictionary (value : Option ((input : Bytes) → Reading Operand input))
    (rest : Bytes) :
    (readTokenWith value (0x3C :: 0x3C :: rest)).outcome =
      match value with
      | none => .error ⟨.nesting, 0x3C :: 0x3C :: rest⟩
      | some value =>
        (readEntries value rest).outcome.map
          (Prod.map (fun entries => .operand (.dictionary entries)) id) := by
  rw [readTokenWith_outcome]
  rfl

variable (tokens : ∀ input : Bytes, input.length ≤ bound →
  token? ⟨input, nesting⟩ = some (settle nesting (readToken level input).outcome))
include tokens

/-- The items of an array, if the tokens in it are read as they should. -/
theorem items?_eq {input : Bytes} (h : input.length ≤ bound) :
    items? ⟨input, nesting⟩ = some (settle nesting (readItems (fun input =>
      (readToken level input).map (·.map Token.nestedValue)) input).outcome) := by
  induction size : input.length using Nat.strong_induction_on generalizing input with
  | _ n ih =>
    subst size
    rw [items?, readItems_outcome]
    cases skipped : skipBlanks input with
    | nil => rfl
    | cons b rest =>
      have shorter := length_lt_of_skipBlanks skipped
      simp only [moveTo, nestedReader_outcome]
      split
      · rfl
      rw [tokens (b :: rest) (by rw [List.length_cons]; omega)]
      refine settle_next List.cons fun token after read => ?_
      have remaining := length_lt_of_item skipped read
      exact ih after.length remaining (by omega) rfl

/-- The entries of a dictionary, if the tokens in it are read as they should. -/
theorem entries?_eq {input : Bytes} (h : input.length ≤ bound) :
    entries? ⟨input, nesting⟩ = some (settle nesting (readEntries (fun input =>
      (readToken level input).map (·.map Token.nestedValue)) input).outcome) := by
  induction size : input.length using Nat.strong_induction_on generalizing input with
  | _ n ih =>
    subst size
    rw [entries?, readEntries_outcome]
    cases skipped : skipBlanks input with
    | nil => rfl
    | cons b rest =>
      have shorter := length_lt_of_skipBlanks skipped
      simp only [moveTo, nestedReader_outcome]
      split
      · rfl
      split
      · cases afterKey : skipBlanks (readName rest).2 with
        | nil => rfl
        | cons c inner =>
          have key := length_readName_le rest
          have value := length_lt_of_skipBlanks afterKey
          simp only
          rw [tokens (c :: inner) (by rw [List.length_cons]; omega)]
          refine settle_next (fun value others => ((readName rest).1, value) :: others)
            fun token after read => ?_
          have remaining := length_lt_of_entry skipped afterKey read
          exact ih after.length remaining (by omega) rfl
      · rfl

end

/-- The count of the values in an array or dictionary, and the levels that are left for them. -/
theorem levels_eq {nesting : ℕ} (room : ¬maxNesting ≤ nesting) :
    nestedReader (maxNesting - nesting) = some fun input =>
      (readToken (maxNesting - (nesting + 1)) input).map (·.map Token.nestedValue) := by
  have levels : maxNesting - nesting = maxNesting - (nesting + 1) + 1 := by omega
  rw [levels]
  rfl

/-- A token is read with as many levels as the count leaves, and the count comes back. -/
theorem token?_eq {nesting : ℕ} (h : nesting ≤ maxNesting) (input : Bytes) :
    token? ⟨input, nesting⟩
      = some (settle nesting (readToken (maxNesting - nesting) input).outcome) := by
  -- On the length; the tokens within an array or dictionary begin behind its opening.
  induction size : input.length using Nat.strong_induction_on generalizing input nesting with
  | _ n ih =>
    subst size
    have inner (room : ¬maxNesting ≤ nesting) {rest : Bytes} (shorter : rest.length < input.length)
        (part : Bytes) (within : part.length ≤ rest.length) : token? ⟨part, nesting + 1⟩
          = some (settle (nesting + 1) (readToken (maxNesting - (nesting + 1)) part).outcome) :=
      ih part.length (by omega) (by omega) part rfl
    rw [token?, readToken_eq]
    simp only
    split
    · next rest =>
      rw [readTokenWith_openArray]
      split
      · next full => rw [Nat.sub_eq_zero_of_le full]; rfl
      · next room =>
        rw [levels_eq room, enter, items?_eq (inner room (Nat.lt_succ_self _)) le_rfl]
        exact congrArg some (leave_settle ..)
    · next rest =>
      rw [readTokenWith_openDictionary]
      split
      · next full => rw [Nat.sub_eq_zero_of_le full]; rfl
      · next room =>
        rw [levels_eq room, enter, entries?_eq (inner room (by simp)) le_rfl]
        exact congrArg some (leave_settle ..)
    · next array dictionary => rw [readTokenWith_flat (nestedReader _) array dictionary]

/-! ## Operators -/

/-- The keys and values of an inline image, outside of all arrays and dictionaries. -/
theorem imageEntries?_eq (input : Bytes) :
    imageEntries? ⟨input, 0⟩ = some (settle 0 (readImageEntries input).outcome) := by
  induction size : input.length using Nat.strong_induction_on generalizing input with
  | _ n ih =>
    subst size
    rw [imageEntries?, readImageEntries_outcome]
    cases skipped : skipBlanks input with
    | nil => rfl
    | cons b rest =>
      simp only [moveTo, readValue_outcome]
      split
      · rfl
      split
      · cases afterKey : skipBlanks (readName rest).2 with
        | nil => rfl
        | cons c inner =>
          simp only
          rw [token?_eq (Nat.zero_le _), Nat.sub_zero]
          exact settle_next (.name (readName rest).1 :: · :: ·) fun token after read =>
            ih after.length (length_lt_of_entry skipped afterKey read) after rfl
      · rfl

/-- An inline image, outside of all arrays and dictionaries. -/
theorem image?_eq (input : Bytes) :
    image? ⟨input, 0⟩ = some (settle 0 (readImage input).outcome) := by
  rw [image?, imageEntries?_eq, readImage_outcome]
  cases (readImageEntries input).outcome with
  | error stop => rfl
  | ok found =>
    simp only [settle, Option.bind_eq_bind, Option.bind_some]
    cases splitImageData true found.2 <;> rfl

/-- The next operator or none, or the fault, and the cursor after it. -/
def settleOperator : Except Stop (Option (Operator × Bytes)) → Result (Option Operator)
  | .ok (some (operator, rest)) => (.ok (some operator), ⟨rest, 0⟩)
  | .ok none => (.ok none, ⟨[], 0⟩)
  | .error stop => (.error stop.fault, ⟨stop.rest, 0⟩)

/-- An operator is read as it is by levels, and the count comes back to zero. -/
theorem operator?_eq (count : ℕ) (input : Bytes) :
    operator? count ⟨input, 0⟩ = some (settleOperator (operatorOutcome (readOperator count input))) := by
  induction size : input.length using Nat.strong_induction_on generalizing count input with
  | _ n ih =>
    subst size
    rw [operator?, readOperator_outcome]
    cases skipped : skipBlanks input with
    | nil =>
      simp only
      split <;> rfl
    | cons b rest =>
      simp only [moveTo]
      split
      · rfl
      split
      · exact ih rest.length (length_lt_of_skipBlanks skipped) count rest rfl
      rw [token?_eq (Nat.zero_le _), Nat.sub_zero]
      cases read : (readToken maxNesting (b :: rest)).outcome with
      | error stop => rfl
      | ok found =>
        obtain ⟨token, after⟩ := found
        simp only [settle, Option.bind_eq_bind, Option.bind_some]
        cases token with
        | operand value =>
          simp only
          rw [ih after.length (length_lt_of_item skipped read) (count + 1) after rfl]
          rcases operatorOutcome (readOperator (count + 1) after) with stop | _ | found <;> rfl
        | keyword word =>
          simp only
          split
          · split
            · rw [image?_eq]
              cases (readImage after).outcome <;> rfl
            · rfl
          · rfl

end Cursor

end Preflight
