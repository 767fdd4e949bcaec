import Mathlib
import Preflight.Proofs.PrintedOperands
import Preflight.Proofs.Success

/-!
# Operators as they are read

What reading promises about every operator that it returns: the word is a keyword, the operands do
not nest too deep, the keys and values of an inline image alternate, and no place in the data of an
image is taken for their end. These are the operators that can be written down and read again.
-/

namespace Preflight

open Reading

/-! ## Operators that can be written down -/

/-- Keys and values of an inline image in turn. -/
inductive ImageEntries : List Operand → Prop where
  | nil : ImageEntries []
  | cons (key : String) {value : Operand} {entries : List Operand}
      (shallow : value.depth ≤ maxNesting) (following : ImageEntries entries) :
      ImageEntries (.name key :: value :: entries)

/-- Data of an inline image that end where the word `EI` is written after them on a new line. -/
def IsImageData (samples : Bytes) : Prop :=
  ∀ {rest}, EndsToken rest →
    splitImageData true (samples ++ 0x0A :: 0x45 :: 0x49 :: rest) = some (samples ++ [0x0A], rest)

namespace Operator

/-- An operator that is not an inline image, as it is read. -/
structure IsPlain (operator : Operator) : Prop where
  /-- The word is a keyword. -/
  keyword : IsKeyword operator.name
  /-- The word does not begin an inline image. -/
  name_ne : operator.name ≠ "BI"
  /-- The operands do not nest too deep. -/
  shallow : ∀ operand ∈ operator.operands, operand.depth ≤ maxNesting

/-- An inline image as it is read. -/
def IsImage (operator : Operator) : Prop :=
  ∃ entries samples, operator = ⟨"BI", [.array entries, .literal samples]⟩ ∧
    ImageEntries entries ∧ IsImageData samples

/-- An operator as it is read. -/
def IsReadable (operator : Operator) : Prop := operator.IsPlain ∨ operator.IsImage

end Operator

/-! ## Depth -/

theorem depthOfItems_le {items : List Operand} {bound : ℕ}
    (h : ∀ item ∈ items, item.depth ≤ bound) : Operand.depthOfItems items ≤ bound := by
  induction items with
  | nil => exact Nat.zero_le _
  | cons item items ih =>
    rw [Operand.depthOfItems]
    exact max_le (h item List.mem_cons_self) (ih fun other member =>
      h other (List.mem_cons_of_mem _ member))

theorem depthOfEntries_le {entries : List (String × Operand)} {bound : ℕ}
    (h : ∀ entry ∈ entries, entry.2.depth ≤ bound) : Operand.depthOfEntries entries ≤ bound := by
  induction entries with
  | nil => exact Nat.zero_le _
  | cons entry entries ih =>
    rw [Operand.depthOfEntries]
    exact max_le (h entry List.mem_cons_self) (ih fun other member =>
      h other (List.mem_cons_of_mem _ member))

/-! ## Sequences -/

section

variable {value : (input : Bytes) → Reading Operand input}

/-- How the items of an array are taken off an input, up to what follows its bracket. -/
inductive TakesItems (value : (input : Bytes) → Reading Operand input) :
    Bytes → List Operand → Bytes → Prop where
  | ended {input rest : Bytes} (skipped : skipBlanks input = 0x5D :: rest) :
      TakesItems value input [] rest
  | item {input inner after rest : Bytes} {b : UInt8} {first : Operand} {items : List Operand}
      (skipped : skipBlanks input = b :: inner)
      (read : (value (b :: inner)).outcome = .ok (first, after))
      (following : TakesItems value after items rest) : TakesItems value input (first :: items) rest

theorem takesItems_of_outcome {input rest : Bytes} {items : List Operand}
    (h : (readItems value input).outcome = .ok (items, rest)) : TakesItems value input items rest := by
  -- On the length of the input: each value that is read makes it shorter.
  induction size : input.length using Nat.strong_induction_on generalizing input items with
  | _ size' ih =>
    subst size
    rw [readItems_outcome] at h
    split at h
    · cases h
    next b inner skipped =>
    split at h
    · next bracket =>
      cases h
      rw [bracket] at skipped
      exact .ended skipped
    split at h
    · cases h
    next first after value_read =>
    obtain ⟨⟨others, last⟩, items_read, same⟩ := map_eq_ok.1 h
    cases same
    exact .item skipped value_read (ih _ (length_lt_of_item skipped value_read) items_read rfl)

/-- How the entries of a dictionary are taken off an input, up to what follows its brackets. -/
inductive TakesEntries (value : (input : Bytes) → Reading Operand input) :
    Bytes → List (String × Operand) → Bytes → Prop where
  | ended {input rest : Bytes} (skipped : skipBlanks input = 0x3E :: 0x3E :: rest) :
      TakesEntries value input [] rest
  | entry {input inner after following rest : Bytes} {b : UInt8} {first : Operand}
      {entries : List (String × Operand)} (skipped : skipBlanks input = 0x2F :: inner)
      (afterKey : skipBlanks (readName inner).2 = b :: after)
      (read : (value (b :: after)).outcome = .ok (first, following))
      (others : TakesEntries value following entries rest) :
      TakesEntries value input (((readName inner).1, first) :: entries) rest

theorem takesEntries_of_outcome {input rest : Bytes} {entries : List (String × Operand)}
    (h : (readEntries value input).outcome = .ok (entries, rest)) :
    TakesEntries value input entries rest := by
  induction size : input.length using Nat.strong_induction_on generalizing input entries with
  | _ size' ih =>
    subst size
    rw [readEntries_outcome] at h
    split at h
    · cases h
    next b inner skipped =>
    split at h
    · next brackets =>
      cases h
      obtain ⟨inner, rfl⟩ := List.head?_eq_some_iff.1 brackets.2
      rw [brackets.1] at skipped
      exact .ended skipped
    split at h
    · next solidus =>
      rw [solidus] at skipped
      split at h
      · cases h
      next c after afterKey =>
      split at h
      · cases h
      next first following value_read =>
      obtain ⟨⟨more, last⟩, entries_read, same⟩ := map_eq_ok.1 h
      cases same
      exact .entry skipped afterKey value_read
        (ih _ (length_lt_of_entry skipped afterKey value_read) entries_read rfl)
    · cases h

/-- What holds of every value that `value` reads holds of the items of an array. -/
theorem TakesItems.forall_mem {P : Operand → Prop}
    (reads : ∀ {input first rest}, (value input).outcome = .ok (first, rest) → P first)
    {input rest : Bytes} {items : List Operand} (h : TakesItems value input items rest) :
    ∀ item ∈ items, P item := by
  induction h with
  | ended => exact fun item member => absurd member List.not_mem_nil
  | item _ read _ ih => exact List.forall_mem_cons.2 ⟨reads read, ih⟩

/-- What holds of every value that `value` reads holds of the values of a dictionary. -/
theorem TakesEntries.forall_mem {P : Operand → Prop}
    (reads : ∀ {input first rest}, (value input).outcome = .ok (first, rest) → P first)
    {input rest : Bytes} {entries : List (String × Operand)}
    (h : TakesEntries value input entries rest) : ∀ entry ∈ entries, P entry.2 := by
  induction h with
  | ended => exact fun entry member => absurd member List.not_mem_nil
  | entry _ _ read _ ih => exact List.forall_mem_cons.2 ⟨reads read, ih⟩

end

/-! ## Tokens -/

/-- A numeral denotes an operand without parts. -/
theorem depth_of_operand? {n : Numeral} {operand : Operand} (h : n.operand? = some operand) :
    operand.depth = 0 := by
  unfold Numeral.operand? at h
  split at h <;> obtain ⟨value, -, rfl⟩ := Option.map_eq_some_iff.1 h <;> rfl

/-- How a token and what follows it are taken off an input, by its first byte. -/
inductive TakesToken (value : Option ((input : Bytes) → Reading Operand input)) :
    Bytes → Token → Bytes → Prop where
  | literal {inner bytes rest : Bytes} (read : (readLiteral 0 inner).outcome = .ok (bytes, rest)) :
      TakesToken value (0x28 :: inner) (.operand (.literal bytes)) rest
  | dictionary {reader : (input : Bytes) → Reading Operand input} {inner rest : Bytes}
      {entries : List (String × Operand)} (nested : value = some reader)
      (read : (readEntries reader inner).outcome = .ok (entries, rest)) :
      TakesToken value (0x3C :: 0x3C :: inner) (.operand (.dictionary entries)) rest
  | hex {inner digits rest : Bytes} (single : inner.head? ≠ some 0x3C)
      (read : (readHexDigits inner).outcome = .ok (digits, rest)) :
      TakesToken value (0x3C :: inner) (.operand (.hex (joinDigits digits))) rest
  | array {reader : (input : Bytes) → Reading Operand input} {inner rest : Bytes}
      {items : List Operand} (nested : value = some reader)
      (read : (readItems reader inner).outcome = .ok (items, rest)) :
      TakesToken value (0x5B :: inner) (.operand (.array items)) rest
  | name {inner : Bytes} :
      TakesToken value (0x2F :: inner) (.operand (.name (readName inner).1)) (readName inner).2
  | number {b : UInt8} {inner : Bytes} {operand : Operand} (first : isNumberByte b = true)
      (denoted : (Numeral.read (b :: inner)).1.operand? = some operand) :
      TakesToken value (b :: inner) (.operand operand) (Numeral.read (b :: inner)).2
  | word {b : UInt8} {inner : Bytes} (first : isKeywordByte b = true) :
      TakesToken value (b :: inner) (.ofWord (b :: inner.takeWhile isKeywordRest))
        (inner.dropWhile isKeywordRest)

theorem takesToken_of_outcome {value : Option ((input : Bytes) → Reading Operand input)}
    {input rest : Bytes} {token : Token}
    (h : (readTokenWith value input).outcome = .ok (token, rest)) :
    TakesToken value input token rest := by
  cases input with
  | nil => cases h
  | cons b inner =>
    rw [readTokenWith_outcome] at h
    split at h
    · next literal =>
      obtain ⟨bytes, read, same⟩ := map_eq_ok.1 h
      cases same
      rw [literal]
      exact .literal read
    split at h
    · next brackets =>
      obtain ⟨tail, rfl⟩ := List.head?_eq_some_iff.1 brackets.2
      rw [brackets.1]
      split at h
      · cases h
      · obtain ⟨entries, read, same⟩ := map_eq_ok.1 h
        cases same
        exact .dictionary rfl read
    next brackets =>
    split at h
    · next hex =>
      obtain ⟨digits, read, same⟩ := map_eq_ok.1 h
      cases same
      rw [hex]
      exact .hex (fun second => brackets ⟨hex, second⟩) read
    split at h
    · next array =>
      rw [array]
      split at h
      · cases h
      · obtain ⟨items, read, same⟩ := map_eq_ok.1 h
        cases same
        exact .array rfl read
    split at h
    · next name =>
      cases h
      rw [name]
      exact .name
    split at h
    · next first =>
      obtain ⟨⟨number, after⟩, read, same⟩ := map_eq_ok.1 h
      cases same
      rw [readNumber_outcome] at read
      split at read
      · next denoted =>
        cases read
        exact .number first denoted
      · cases read
    split at h
    · next first =>
      cases h
      exact .word first
    · cases h

/-- What the reader of tokens can return: an operand without parts, a keyword, or an array or
dictionary with values from the reader of values. -/
inductive TokenForm (value : Option ((input : Bytes) → Reading Operand input)) : Token → Prop where
  | simple {operand : Operand} (flat : operand.depth = 0) : TokenForm value (.operand operand)
  | keyword {word : String} (keyword : IsKeyword word) : TokenForm value (.keyword word)
  | array {reader : (input : Bytes) → Reading Operand input} {items : List Operand}
      {input rest : Bytes} (nested : value = some reader)
      (read : (readItems reader input).outcome = .ok (items, rest)) :
      TokenForm value (.operand (.array items))
  | dictionary {reader : (input : Bytes) → Reading Operand input}
      {entries : List (String × Operand)} {input rest : Bytes} (nested : value = some reader)
      (read : (readEntries reader input).outcome = .ok (entries, rest)) :
      TokenForm value (.operand (.dictionary entries))

/-- A run of keyword bytes is a word for a value or a keyword. -/
theorem tokenForm_ofWord (value : Option ((input : Bytes) → Reading Operand input)) {b : UInt8}
    {word : Bytes} (first : isKeywordByte b = true) (further : ∀ c ∈ word, isKeywordRest c = true) :
    TokenForm value (.ofWord (b :: word)) := by
  have ascii : Utf8.encode (Utf8.decode (b :: word)) = b :: word := by
    have words : ∀ c : UInt8, isKeywordRest c = true → c.toNat < 0x80 := by decide +kernel
    refine Utf8.encode_decode_ascii (List.forall_mem_cons.2 ⟨words b ?_, fun c member =>
      words c (further c member)⟩)
    rw [isKeywordRest, first, Bool.true_or]
  unfold Token.ofWord
  simp only
  split_ifs with is_true is_false is_null
  · exact .simple rfl
  · exact .simple rfl
  · exact .simple rfl
  · exact .keyword ⟨⟨b, word, ascii, first, further⟩, is_true, is_false, is_null⟩

theorem tokenForm_of_outcome {value : Option ((input : Bytes) → Reading Operand input)}
    {input rest : Bytes} {token : Token}
    (h : (readTokenWith value input).outcome = .ok (token, rest)) : TokenForm value token := by
  cases takesToken_of_outcome h with
  | literal | hex | name => exact .simple rfl
  | dictionary nested read => exact .dictionary nested read
  | array nested read => exact .array nested read
  | number first denoted => exact .simple (depth_of_operand? denoted)
  | word first => exact tokenForm_ofWord value first fun c member => (List.mem_takeWhile_imp member)

/-- A token that is read does not nest deeper than there are levels. -/
theorem depth_le_of_readToken {levels : ℕ} {input rest : Bytes} {token : Token}
    (h : (readToken levels input).outcome = .ok (token, rest)) :
    token.nestedValue.depth ≤ levels := by
  -- On the levels that are left; the elements of an array are read with one level less.
  induction levels generalizing input token rest with
  | zero =>
    cases tokenForm_of_outcome h with
    | simple flat => exact flat.le
    | keyword => exact Nat.zero_le _
    | array nested => cases nested
    | dictionary nested => cases nested
  | succ level ih =>
    have reads {input first rest} (value_read : outcome ((readToken level input).map
        (·.map Token.nestedValue)) = .ok (first, rest)) : first.depth ≤ level := by
      rw [nestedReader_outcome] at value_read
      obtain ⟨⟨token, after⟩, token_read, same⟩ := map_eq_ok.1 value_read
      cases same
      exact ih token_read
    cases tokenForm_of_outcome h with
    | simple flat => exact flat.le.trans (Nat.zero_le _)
    | keyword => exact Nat.zero_le _
    | array nested read =>
      cases nested
      exact Nat.succ_le_succ (depthOfItems_le ((takesItems_of_outcome read).forall_mem reads))
    | dictionary nested read =>
      cases nested
      exact Nat.succ_le_succ (depthOfEntries_le ((takesEntries_of_outcome read).forall_mem reads))

/-- A value that is read does not nest too deep. -/
theorem depth_le_of_readValue {input rest : Bytes} {operand : Operand}
    (h : (readValue input).outcome = .ok (operand, rest)) : operand.depth ≤ maxNesting := by
  rw [readValue_outcome] at h
  obtain ⟨⟨token, after⟩, token_read, same⟩ := map_eq_ok.1 h
  cases same
  exact depth_le_of_readToken token_read

/-! ## Inline images -/

/-- How the keys and values of an inline image are taken off an input, up to its data. -/
inductive TakesImageEntries : Bytes → List Operand → Bytes → Prop where
  | ended {input rest : Bytes} (skipped : skipBlanks input = 0x49 :: 0x44 :: rest)
      (blank : rest.head?.all isBlank = true) : TakesImageEntries input [] (rest.drop 1)
  | entry {input inner after following rest : Bytes} {b : UInt8} {first : Operand}
      {entries : List Operand} (skipped : skipBlanks input = 0x2F :: inner)
      (afterKey : skipBlanks (readName inner).2 = b :: after)
      (read : (readValue (b :: after)).outcome = .ok (first, following))
      (others : TakesImageEntries following entries rest) :
      TakesImageEntries input (.name (readName inner).1 :: first :: entries) rest

theorem takesImageEntries_of_outcome {input rest : Bytes} {entries : List Operand}
    (h : (readImageEntries input).outcome = .ok (entries, rest)) :
    TakesImageEntries input entries rest := by
  induction size : input.length using Nat.strong_induction_on generalizing input entries rest with
  | _ size' ih =>
    subst size
    rw [readImageEntries_outcome] at h
    split at h
    · cases h
    next b inner skipped =>
    split at h
    · next word =>
      cases h
      obtain ⟨inner, rfl⟩ := List.head?_eq_some_iff.1 word.2.1
      rw [word.1] at skipped
      exact .ended skipped word.2.2
    split at h
    · next solidus =>
      rw [solidus] at skipped
      split at h
      · cases h
      next c after afterKey =>
      split at h
      · cases h
      next first following value_read =>
      obtain ⟨⟨more, last⟩, entries_read, same⟩ := map_eq_ok.1 h
      cases same
      exact .entry skipped afterKey value_read
        (ih _ (length_lt_of_entry skipped afterKey value_read) entries_read rfl)
    · cases h

/-- The keys and values of an inline image are read in turn. -/
theorem TakesImageEntries.imageEntries {input rest : Bytes} {entries : List Operand}
    (h : TakesImageEntries input entries rest) : ImageEntries entries := by
  induction h with
  | ended => exact .nil
  | entry _ _ read _ ih => exact .cons _ (depth_le_of_readValue read) ih

/-- Where the word `EI` can stand in front of `rest`. -/
def EndsImage (rest : Bytes) : Prop :=
  rest.head?.all (fun c => isBlank c || isDelimiter c) = true

theorem EndsToken.endsImage {rest : Bytes} (ends : EndsToken rest) : EndsImage rest := by
  unfold EndsImage
  cases rest with
  | nil => rfl
  | cons b rest =>
    have irregular : isRegular b = false := ends b rfl
    rw [isRegular, ← Bool.not_or, Bool.not_eq_false'] at irregular
    exact irregular

/-- The data end at the word `EI` after a blank, or where they begin. -/
theorem splitImageData_eq_some {afterBlank : Bool} {input bytes after : Bytes}
    (h : splitImageData afterBlank input = some (bytes, after)) :
    input = bytes ++ 0x45 :: 0x49 :: after ∧
      bytes.getLast?.elim afterBlank isBlank = true ∧ EndsImage after := by
  induction input generalizing afterBlank bytes after with
  | nil => cases h
  | cons b input ih =>
    rw [splitImageData] at h
    split at h
    · next found =>
      cases h
      simp only [Bool.and_eq_true, beq_iff_eq] at found
      obtain ⟨⟨⟨blank, first⟩, second⟩, ends⟩ := found
      obtain ⟨input, rfl⟩ := List.head?_eq_some_iff.1 second
      exact ⟨by rw [first]; rfl, blank, ends⟩
    · obtain ⟨⟨front, last⟩, split_ok, same⟩ := Option.map_eq_some_iff.1 h
      cases same
      obtain ⟨whole, blank, ends⟩ := ih split_ok
      refine ⟨by rw [whole]; rfl, ?_, ends⟩
      cases front with
      | nil => exact blank
      | cons c front =>
        rw [List.getLast?_cons_cons]
        rw [List.getLast?_cons] at blank ⊢
        exact blank

/-- The word `EI` on a new line ends the data. -/
theorem splitImageData_newline (afterBlank : Bool) {rest : Bytes} (ends : EndsImage rest) :
    splitImageData afterBlank (0x0A :: 0x45 :: 0x49 :: rest) = some ([0x0A], rest) := by
  have word : splitImageData true (0x45 :: 0x49 :: rest) = some ([], rest) := by
    rw [splitImageData, if_pos]
    · rfl
    · simpa [EndsImage] using ends
  rw [splitImageData, if_neg (by simp), show isBlank 0x0A = true from rfl, word]
  rfl

/-- Another blank before the word `EI`, and something else after it, change nothing. -/
theorem splitImageData_append {afterBlank : Bool} {input samples after rest : Bytes} {b : UInt8}
    (h : splitImageData afterBlank input = some (samples ++ [b], after)) (ends : EndsImage rest) :
    splitImageData afterBlank (samples ++ 0x0A :: 0x45 :: 0x49 :: rest)
      = some (samples ++ [0x0A], rest) := by
  induction samples generalizing afterBlank input with
  | nil => exact splitImageData_newline afterBlank ends
  | cons c samples ih =>
    obtain ⟨whole, last_blank, -⟩ := splitImageData_eq_some h
    have blank : isBlank b = true := by
      rw [List.getLast?_concat] at last_blank
      exact last_blank
    clear last_blank
    rw [whole, List.append_assoc, List.cons_append, splitImageData] at h
    split at h
    · cases h
    next apart =>
    obtain ⟨⟨front, last⟩, split_ok, same⟩ := Option.map_eq_some_iff.1 h
    cases same
    have still_apart : ¬ (afterBlank && c == 0x45
        && (samples ++ 0x0A :: 0x45 :: 0x49 :: rest).head? == some 0x49
        && ((samples ++ 0x0A :: 0x45 :: 0x49 :: rest).drop 1).head?.all
          (fun c => isBlank c || isDelimiter c)) = true := by
      rcases samples with _ | ⟨d, _ | ⟨e, samples⟩⟩
      · simp
      · have newline : isBlank 0x0A = true := rfl
        simpa [blank, newline] using apart
      · exact apart
    rw [List.cons_append, splitImageData, if_neg still_apart, ih split_ok]
    rfl

/-- The data of an inline image without the blank at their end. -/
theorem isImageData_dropLast {input bytes after : Bytes}
    (h : splitImageData true input = some (bytes, after)) : IsImageData bytes.dropLast := by
  intro rest ends
  rcases List.eq_nil_or_concat bytes with rfl | ⟨samples, b, rfl⟩
  · exact splitImageData_newline true ends.endsImage
  · rw [List.concat_eq_append] at h ⊢
    rw [List.dropLast_concat]
    exact splitImageData_append h ends.endsImage

theorem isImage_of_outcome {input rest : Bytes} {operator : Operator}
    (h : (readImage input).outcome = .ok (operator, rest)) : operator.IsImage := by
  rw [readImage_outcome] at h
  split at h
  · cases h
  next entries after entries_read =>
  split at h
  · cases h
  next bytes last data_read =>
  cases h
  exact ⟨entries, bytes.dropLast, rfl, (takesImageEntries_of_outcome entries_read).imageEntries,
    isImageData_dropLast data_read⟩

/-! ## Operators -/

/-- How an operator and what follows it are taken off an input, or nothing at the end, after a number
of operands. -/
inductive TakesOperator : ℕ → Bytes → Option (Operator × Bytes) → Prop where
  | ended {input : Bytes} (skipped : skipBlanks input = []) : TakesOperator 0 input none
  | pass {count : ℕ} {input rest : Bytes} {b : UInt8} {found : Option (Operator × Bytes)}
      (skipped : skipBlanks input = b :: rest) (bracket : b ≠ 0x5D) (other : isTokenByte b = false)
      (following : TakesOperator count rest found) : TakesOperator count input found
  | operand {count : ℕ} {input inner after rest : Bytes} {b : UInt8} {value : Operand}
      {operator : Operator} (skipped : skipBlanks input = b :: inner)
      (read : (readToken maxNesting (b :: inner)).outcome = .ok (.operand value, after))
      (following : TakesOperator (count + 1) after (some (operator, rest))) :
      TakesOperator count input (some (⟨operator.name, value :: operator.operands⟩, rest))
  | keyword {count : ℕ} {input inner rest : Bytes} {b : UInt8} {word : String}
      (skipped : skipBlanks input = b :: inner)
      (read : (readToken maxNesting (b :: inner)).outcome = .ok (.keyword word, rest))
      (other : word ≠ "BI") : TakesOperator count input (some (⟨word, []⟩, rest))
  /-- An inline image, which no operand stands in front of. -/
  | image {input inner after rest : Bytes} {b : UInt8} {operator : Operator}
      (skipped : skipBlanks input = b :: inner)
      (read : (readToken maxNesting (b :: inner)).outcome = .ok (.keyword "BI", after))
      (image : (readImage after).outcome = .ok (operator, rest)) :
      TakesOperator 0 input (some (operator, rest))

/-- At the end of an input there are no operands. -/
theorem TakesOperator.count_eq_zero {count : ℕ} {input : Bytes} (h : TakesOperator count input none) :
    count = 0 := by
  generalize found_eq : none = found at h
  induction h with
  | ended => rfl
  | pass _ _ _ _ ih => exact ih found_eq
  | operand | keyword | image => cases found_eq

theorem takesOperator_of_outcome {count : ℕ} {input : Bytes} {found : Option (Operator × Bytes)}
    (h : operatorOutcome (readOperator count input) = .ok found) : TakesOperator count input found := by
  -- On the length of the input: each token that is read makes it shorter.
  induction size : input.length using Nat.strong_induction_on generalizing count input found with
  | _ size' ih =>
    subst size
    rw [readOperator_outcome] at h
    split at h
    · next skipped =>
      split at h
      · next first =>
        cases h
        rw [first]
        exact .ended skipped
      · cases h
    next b inner skipped =>
    split at h
    · cases h
    next bracket =>
    split at h
    · next other => exact .pass skipped bracket other (ih _ (length_lt_of_skipBlanks skipped) h rfl)
    split at h
    · cases h
    · next value after read =>
      obtain ⟨found, following, same⟩ := map_eq_ok.1 h
      cases same
      have taken := ih _ (length_lt_of_item skipped read) following rfl
      cases found with
      | none => exact absurd taken.count_eq_zero (Nat.succ_ne_zero count)
      | some found => exact .operand skipped read taken
    · next word after read =>
      split at h
      · next image =>
        rw [image] at read
        split at h
        · next first =>
          obtain ⟨operator, image_read, same⟩ := map_eq_ok.1 h
          cases same
          rw [first]
          exact .image skipped read image_read
        · cases h
      · next other =>
        cases h
        exact .keyword skipped read other

/-- An operator that is read after operands is no inline image. -/
theorem isReadable_of_takesOperator {count : ℕ} {input rest : Bytes} {operator : Operator}
    (h : TakesOperator count input (some (operator, rest))) :
    operator.IsPlain ∨ count = 0 ∧ operator.IsImage := by
  generalize found_eq : some (operator, rest) = found at h
  induction h generalizing operator rest with
  | ended => cases found_eq
  | pass _ _ _ _ ih => exact ih found_eq
  | operand _ read _ ih =>
    cases found_eq
    rcases ih rfl with plain | ⟨impossible, -⟩
    · exact Or.inl ⟨plain.keyword, plain.name_ne,
        List.forall_mem_cons.2 ⟨depth_le_of_readToken read, plain.shallow⟩⟩
    · exact absurd impossible (Nat.succ_ne_zero _)
  | keyword _ read other =>
    cases found_eq
    rw [readToken_eq] at read
    cases tokenForm_of_outcome read with
    | keyword keyword => exact Or.inl ⟨keyword, other, by simp⟩
  | image _ _ image =>
    cases found_eq
    exact Or.inr ⟨rfl, isImage_of_outcome image⟩

/-- Every operator of a stream can be written down. -/
theorem isReadable_of_mem_readOperators {input : Bytes} {operator : Operator}
    (h : operator ∈ (readOperators input).operators) : operator.IsReadable := by
  induction input using readOperators_induction with
  | stopped input stop read =>
    rw [readOperators_eq, read] at h
    exact absurd h List.not_mem_nil
  | ended input read =>
    rw [readOperators_eq, read] at h
    exact absurd h List.not_mem_nil
  | operator input first rest read ih =>
    rw [readOperators_eq, read] at h
    rcases List.mem_cons.1 h with rfl | following
    · exact (isReadable_of_takesOperator (takesOperator_of_outcome read)).imp_right And.right
    · exact ih following

end Preflight
