import Mathlib
import Preflight.Proofs.ReadableOperators

/-!
# Readers with more behind their input

What a reader does at the front of its input does not depend on what stands behind a blank at the
end: the reader returns the same value, or stops at the same fault. It may do otherwise only where
the end of the input cut it short, within a token or between the operands of an operator.
-/

namespace Preflight

/-- Whether reading stopped because the stream ended too early. -/
def ContentFault.isOpenEnd : ContentFault → Bool
  | operandsAtEnd _ | openLiteral | openEscape | openHex | openArray | openDictionary
  | openDictionaryValue | openImage | openImageValue | openImageData => true
  | strayArrayEnd | operandsBeforeImage _ | unexpectedByte _ | nesting | hexDigit _ | dictionaryKey
  | realNumber _ | integerNumber _ | imageKey => false

section

variable {α β : Type}

/-- How the outcome for an input and the outcome for the same input with `tail` behind it belong
together, where `extend` puts the tail behind the rest that a value comes with. -/
inductive Continues (tail : Bytes) (extend : α → α) : Except Stop α → Except Stop α → Prop where
  | read (value : α) : Continues tail extend (.ok value) (.ok (extend value))
  | stopped (fault : ContentFault) (rest : Bytes) :
      Continues tail extend (.error ⟨fault, rest⟩) (.error ⟨fault, rest ++ tail⟩)
  /-- The end of the input cut the reader short, which may go on in the tail. -/
  | cut {fault : ContentFault} {rest : Bytes} {long : Except Stop α}
      (openEnd : fault.isOpenEnd = true) : Continues tail extend (.error ⟨fault, rest⟩) long

/-- Puts the tail behind what follows a value. -/
def followedBy (tail : Bytes) (found : α × Bytes) : α × Bytes := (found.1, found.2 ++ tail)

theorem Continues.map {tail : Bytes} {extend : α → α} {extend' : β → β} {f : α → β}
    {short long : Except Stop α} (h : Continues tail extend short long)
    (commutes : ∀ value, f (extend value) = extend' (f value)) :
    Continues tail extend' (short.map f) (long.map f) := by
  cases h with
  | read value =>
    show Continues tail extend' (.ok (f value)) (.ok (f (extend value)))
    rw [commutes]
    exact .read _
  | stopped fault rest => exact .stopped fault rest
  | cut openEnd => exact .cut openEnd

theorem Continues.of_ok {tail : Bytes} {extend : α → α} {value : α} {long : Except Stop α}
    (h : Continues tail extend (.ok value) long) : long = .ok (extend value) := by
  cases h
  rfl

theorem Continues.of_error {tail : Bytes} {extend : α → α} {stop : Stop} {long : Except Stop α}
    (h : Continues tail extend (.error stop) long) (real : stop.fault.isOpenEnd = false) :
    long = .error ⟨stop.fault, stop.rest ++ tail⟩ := by
  cases h with
  | stopped fault rest => rfl
  | cut openEnd =>
    rw [openEnd] at real
    cases real

/-- A reader does the same with `tail` behind its input. -/
def Followed (tail : Bytes) (reader : (input : Bytes) → Reading α input) : Prop :=
  ∀ input, Continues tail (followedBy tail) (reader input).outcome (reader (input ++ tail)).outcome

/-- A reader reads the same value with `tail` behind its input, or it stops, by itself or at the end
of the input. -/
theorem Followed.cases {tail : Bytes} {reader : (input : Bytes) → Reading α input}
    (followed : Followed tail reader) (b : UInt8) (rest : Bytes) :
    (∃ value after, (reader (b :: rest)).outcome = .ok (value, after) ∧
      (reader (b :: (rest ++ tail))).outcome = .ok (value, after ++ tail)) ∨
    ∃ fault after, (reader (b :: rest)).outcome = .error ⟨fault, after⟩ ∧
      (fault.isOpenEnd = true ∨
        (reader (b :: (rest ++ tail))).outcome = .error ⟨fault, after ++ tail⟩) := by
  have continues := followed (b :: rest)
  rw [List.cons_append] at continues
  cases short : (reader (b :: rest)).outcome with
  | ok found =>
    rw [short] at continues
    exact Or.inl ⟨found.1, found.2, rfl, continues.of_ok⟩
  | error stop =>
    rw [short] at continues
    refine Or.inr ⟨stop.fault, stop.rest, rfl, ?_⟩
    cases openEnd : stop.fault.isOpenEnd with
    | true => exact Or.inl rfl
    | false => exact Or.inr (continues.of_error openEnd)

end

/-! ## Blanks and comments -/

/-- Whether a comment is open at the end of bytes without tokens, given whether one is open at their
start. -/
def commentAtEnd (inComment : Bool) : Bytes → Bool
  | [] => inComment
  | b :: rest => commentAtEnd (if inComment then !isLineEnd b else b == 0x25) rest

/-- A first byte after blanks and comments stays the first with more behind it. -/
theorem skipFrom_append {inComment : Bool} {input rest : Bytes} {b : UInt8}
    (h : skipFrom inComment input = b :: rest) (tail : Bytes) :
    skipFrom inComment (input ++ tail) = b :: (rest ++ tail) := by
  induction input generalizing inComment with
  | nil => cases h
  | cons c input ih =>
    rw [skipFrom] at h
    rw [List.cons_append, skipFrom]
    split at h
    · next inside => rw [if_pos inside, ih h]
    next outside =>
    rw [if_neg outside]
    split at h
    · next blank => rw [if_pos blank, ih h]
    next token =>
    rw [if_neg token]
    split at h
    · next percent => rw [if_pos percent, ih h]
    · next other =>
      cases h
      rw [if_neg other]

theorem skipBlanks_append {input rest : Bytes} {b : UInt8} (h : skipBlanks input = b :: rest)
    (tail : Bytes) : skipBlanks (input ++ tail) = b :: (rest ++ tail) :=
  skipFrom_append h tail

/-- Bytes that are skipped in full leave the tail to be skipped, in a comment or not. -/
theorem skipFrom_append_of_eq_nil {inComment : Bool} {input : Bytes}
    (h : skipFrom inComment input = []) (tail : Bytes) :
    skipFrom inComment (input ++ tail) = skipFrom (commentAtEnd inComment input) tail := by
  induction input generalizing inComment with
  | nil => rfl
  | cons b input ih =>
    rw [skipFrom] at h
    rw [List.cons_append, skipFrom, commentAtEnd]
    split at h
    · next inside => rw [if_pos inside, if_pos inside, ih h]
    next outside =>
    rw [if_neg outside, if_neg outside]
    split at h
    · next blank =>
      have plain : (b == 0x25) = false := by
        rw [beq_eq_false_iff_ne]
        rintro rfl
        cases blank
      rw [if_pos blank, plain, ih h]
    next token =>
    rw [if_neg token]
    split at h
    · next percent => rw [if_pos percent, percent, ih h]
    · cases h

/-- A byte that begins no token leaves no comment open in front of what follows it. -/
theorem commentAtEnd_of_skipBlanks {input rest : Bytes} {b : UInt8}
    (h : skipBlanks input = b :: rest) : commentAtEnd false input = commentAtEnd false rest := by
  suffices general : ∀ inComment, skipFrom inComment input = b :: rest →
      commentAtEnd inComment input = commentAtEnd false rest from general false h
  intro inComment skipped
  clear h
  induction input generalizing inComment with
  | nil => cases skipped
  | cons c input ih =>
    rw [skipFrom] at skipped
    rw [commentAtEnd]
    split at skipped
    · next inside =>
      rw [if_pos inside]
      exact ih _ skipped
    next outside =>
    rw [if_neg outside]
    split at skipped
    · next blank =>
      have plain : (c == 0x25) = false := by
        rw [beq_eq_false_iff_ne]
        rintro rfl
        cases blank
      rw [plain]
      exact ih _ skipped
    split at skipped
    · next percent =>
      rw [percent]
      exact ih _ skipped
    · next other =>
      cases skipped
      rw [eq_false_of_ne_true other]

section

variable {tail : Bytes}

/-- What begins with a blank, or is empty. -/
def StartsBlank (tail : Bytes) : Prop := ∀ b ∈ tail.head?, isBlank b = true

theorem StartsBlank.cons {b : UInt8} (blank : isBlank b = true) (rest : Bytes) :
    StartsBlank (b :: rest) := by
  intro c head
  cases head
  exact blank

/-! ## Strings, names and numbers -/

theorem StartsBlank.head?_ne (blank : StartsBlank tail) {b : UInt8} (token : isBlank b = false) :
    tail.head? ≠ some b := by
  intro head
  have := blank b head
  rw [token] at this
  cases this

/-- Bytes of a class without blanks end where they did. -/
theorem span_followed (blank : StartsBlank tail) {p : UInt8 → Bool}
    (apart : ∀ b, isBlank b = true → p b = false) (input : Bytes) :
    (input ++ tail).takeWhile p = input.takeWhile p ∧
      (input ++ tail).dropWhile p = input.dropWhile p ++ tail := by
  induction input with
  | nil =>
    cases tail with
    | nil => exact ⟨rfl, rfl⟩
    | cons b tail =>
      have stop := apart b (blank b rfl)
      exact ⟨List.takeWhile_cons_of_neg (by simp [stop]), List.dropWhile_cons_of_neg (by simp [stop])⟩
  | cons b input ih =>
    cases inside : p b with
    | true =>
      simp only [List.cons_append, List.takeWhile_cons, List.dropWhile_cons, inside, if_true, ih.1,
        ih.2, and_self]
    | false =>
      simp only [List.cons_append, List.takeWhile_cons, List.dropWhile_cons, inside,
        Bool.false_eq_true, if_false, and_self]

theorem isRegular_of_isBlank (b : UInt8) (h : isBlank b = true) : isRegular b = false := by
  rw [isRegular, h]
  rfl

theorem readName_followed (blank : StartsBlank tail) (input : Bytes) :
    readName (input ++ tail) = followedBy tail (readName input) := by
  obtain ⟨taken, dropped⟩ := span_followed blank isRegular_of_isBlank input
  unfold readName readRawName followedBy
  simp only [taken, dropped]

theorem isDigit_of_isBlank (b : UInt8) (h : isBlank b = true) : isDigit b = false := by
  rcases eq_of_isBlank h with rfl | rfl | rfl | rfl | rfl | rfl <;> rfl

theorem isOctalDigit_of_isBlank (b : UInt8) (h : isBlank b = true) : isOctalDigit b = false := by
  rcases eq_of_isBlank h with rfl | rfl | rfl | rfl | rfl | rfl <;> rfl

theorem readUnsigned_followed (blank : StartsBlank tail) (sign : Option UInt8) (input : Bytes) :
    Numeral.readUnsigned sign (input ++ tail)
      = followedBy tail (Numeral.readUnsigned sign input) := by
  obtain ⟨taken, dropped⟩ := span_followed blank isDigit_of_isBlank input
  unfold Numeral.readUnsigned
  simp only [taken, dropped]
  cases input.dropWhile isDigit with
  | nil =>
    cases tail with
    | nil => rfl
    | cons b tail =>
      have point : (b == 0x2E) = false := by
        rw [beq_eq_false_iff_ne]
        rintro rfl
        exact absurd (blank _ rfl) (by decide)
      simp only [List.nil_append, point, Bool.false_eq_true, if_false]
      rfl
  | cons b rest =>
    obtain ⟨places, after⟩ := span_followed blank isDigit_of_isBlank rest
    simp only [List.cons_append, places, after]
    split <;> rfl

theorem read_followed (blank : StartsBlank tail) (b : UInt8) (rest : Bytes) :
    Numeral.read (b :: (rest ++ tail)) = followedBy tail (Numeral.read (b :: rest)) := by
  rw [Numeral.read, Numeral.read]
  split
  · exact readUnsigned_followed blank _ rest
  · exact readUnsigned_followed blank none (b :: rest)

theorem readNumber_followed (blank : StartsBlank tail) {b : UInt8} (rest : Bytes)
    (number : isNumberByte b = true) :
    Continues tail (followedBy tail) (readNumber b rest number).outcome
      (readNumber b (rest ++ tail) number).outcome := by
  rw [readNumber_outcome, readNumber_outcome, read_followed blank]
  unfold followedBy
  simp only
  cases (Numeral.read (b :: rest)).1.operand? with
  | none => exact .stopped _ _
  | some value => exact .read (value, _)

/-- An escape ends where it did, unless it is a line end that was cut in two. -/
theorem readEscape_followed (blank : StartsBlank tail) (c : UInt8) {after : Bytes}
    (more : after ≠ []) :
    readEscape c (after ++ tail) = followedBy tail (readEscape c after) := by
  obtain ⟨d, after, rfl⟩ := List.exists_cons_of_ne_nil more
  have digits : ((d :: after ++ tail).take 2).takeWhile isOctalDigit
      = ((d :: after).take 2).takeWhile isOctalDigit := by
    cases after with
    | cons e after => rfl
    | nil =>
      cases tail with
      | nil => rfl
      | cons b tail =>
        have stop := isOctalDigit_of_isBlank b (blank b rfl)
        simp [List.takeWhile_cons, stop]
  have within : (((d :: after).take 2).takeWhile isOctalDigit).length ≤ (d :: after).length :=
    (List.takeWhile_sublist _).length_le.trans (List.take_sublist _ _).length_le
  unfold readEscape followedBy
  simp only [digits, List.drop_append_of_le_length within]
  repeat' split
  all_goals simp_all

theorem readLiteral_followed (blank : StartsBlank tail) (depth : ℕ) :
    Followed tail (readLiteral depth) := by
  intro input
  -- On the length of the input, as an escape takes several bytes.
  induction size : input.length using Nat.strong_induction_on generalizing depth input with
  | _ size' ih =>
    subst size
    rw [readLiteral_outcome]
    cases input with
    | nil => exact .cut rfl
    | cons b rest =>
      have inner : ∀ depth, Continues tail (followedBy tail) (readLiteral depth rest).outcome
          (readLiteral depth (rest ++ tail)).outcome :=
        fun depth => ih _ (Nat.lt_succ_self _) depth rest rfl
      rw [List.cons_append, readLiteral_outcome depth (b :: (rest ++ tail))]
      simp only
      split
      · exact (inner _).map fun value => rfl
      split
      · cases depth with
        | zero => exact .read ([], rest)
        | succ outer => exact (inner outer).map fun value => rfl
      split
      · cases rest with
        | nil => exact .cut rfl
        | cons c after =>
          rw [List.cons_append]
          simp only
          by_cases last : after = []
          · -- The string is open at the end of the input, whatever the escape is.
            subst last
            have nothing : (readEscape c []).2 = [] :=
              List.eq_nil_of_length_eq_zero (Nat.le_zero.1 (length_readEscape_le c []))
            rw [nothing, readLiteral_outcome depth []]
            exact .cut rfl
          · rw [readEscape_followed blank c last]
            have shorter := length_readEscape_le c after
            exact (ih _ (by simp only [List.length_cons]; omega) depth _ rfl).map fun value => rfl
      · exact (inner depth).map fun value => rfl

theorem readHexDigits_followed (tail : Bytes) : Followed tail readHexDigits := by
  intro input
  induction input with
  | nil => exact .cut rfl
  | cons b rest ih =>
    rw [List.cons_append, readHexDigits_outcome (b :: rest),
      readHexDigits_outcome (b :: (rest ++ tail))]
    simp only
    split
    · exact .read ([], rest)
    split
    · exact ih
    · cases hexValue? b with
      | none => exact .stopped _ (b :: rest)
      | some digit => exact ih.map fun value => rfl

/-! ## Arrays and dictionaries -/

section

variable {value : (input : Bytes) → Reading Operand input}

theorem readItems_followed (followed : Followed tail value) : Followed tail (readItems value) := by
  intro input
  induction size : input.length using Nat.strong_induction_on generalizing input with
  | _ size' ih =>
    subst size
    rw [readItems_outcome]
    split
    · exact .cut rfl
    next b rest skipped =>
    rw [readItems_outcome, skipBlanks_append skipped]
    simp only
    split
    · exact .read ([], rest)
    rcases followed.cases b rest with ⟨first, after, short, long⟩ |
      ⟨fault, after, short, openEnd | long⟩
    · have shorter := length_lt_of_item skipped short
      rw [short, long]
      exact (ih _ shorter after rfl).map fun value => rfl
    · rw [short]
      exact .cut openEnd
    · rw [short, long]
      exact .stopped fault after

theorem readEntries_followed (blank : StartsBlank tail) (followed : Followed tail value) :
    Followed tail (readEntries value) := by
  intro input
  induction size : input.length using Nat.strong_induction_on generalizing input with
  | _ size' ih =>
    subst size
    rw [readEntries_outcome]
    split
    · exact .cut rfl
    next b rest skipped =>
    rw [readEntries_outcome, skipBlanks_append skipped]
    simp only
    have second : (rest ++ tail).head? = some 0x3E ↔ rest.head? = some 0x3E := by
      cases rest with
      | nil => exact iff_of_false (blank.head?_ne rfl) (by simp)
      | cons c rest => rfl
    simp only [second]
    split
    · next ends =>
      obtain ⟨rest, rfl⟩ := List.head?_eq_some_iff.1 ends.2
      exact .read ([], rest)
    split
    · rw [readName_followed blank]
      split
      · exact .cut rfl
      next c after afterKey =>
      rw [show skipBlanks (followedBy tail (readName rest)).2 = c :: (after ++ tail) from
        skipBlanks_append afterKey tail]
      simp only
      rcases followed.cases c after with ⟨first, following, short, long⟩ |
        ⟨fault, following, short, openEnd | long⟩
      · have shorter := length_lt_of_entry skipped afterKey short
        rw [short, long]
        exact (ih _ shorter following rfl).map fun value => rfl
      · rw [short]
        exact .cut openEnd
      · rw [short, long]
        exact .stopped fault following
    · exact .stopped _ (b :: rest)

end

/-! ## Tokens -/

theorem readTokenWith_followed (blank : StartsBlank tail)
    {value : Option ((input : Bytes) → Reading Operand input)}
    (followed : ∀ reader ∈ value, Followed tail reader) : Followed tail (readTokenWith value) := by
  intro input
  cases input with
  | nil =>
    rw [readTokenWith]
    exact .cut rfl
  | cons b rest =>
    rw [List.cons_append, readTokenWith_outcome, readTokenWith_outcome]
    have second : (rest ++ tail).head? = some 0x3C ↔ rest.head? = some 0x3C := by
      cases rest with
      | nil => exact iff_of_false (blank.head?_ne rfl) (by simp)
      | cons c rest => rfl
    simp only [second]
    split
    · exact (readLiteral_followed blank 0 rest).map fun value => rfl
    split
    · next opens =>
      obtain ⟨rest, rfl⟩ := List.head?_eq_some_iff.1 opens.2
      cases value with
      | none => exact .stopped _ (b :: 0x3C :: rest)
      | some reader =>
        exact (readEntries_followed blank (followed reader rfl) rest).map fun value => rfl
    split
    · exact (readHexDigits_followed tail rest).map fun value => rfl
    split
    · cases value with
      | none => exact .stopped _ (b :: rest)
      | some reader => exact (readItems_followed (followed reader rfl) rest).map fun value => rfl
    split
    · rw [readName_followed blank]
      exact .read (Token.operand (.name (readName rest).1), (readName rest).2)
    split
    · exact (readNumber_followed blank rest _).map fun value => rfl
    split
    · obtain ⟨taken, dropped⟩ := span_followed blank isKeywordRest_of_isBlank rest
      rw [taken, dropped]
      exact .read (Token.ofWord (b :: rest.takeWhile isKeywordRest), rest.dropWhile isKeywordRest)
    · exact .stopped _ (b :: rest)

theorem readToken_followed (blank : StartsBlank tail) (levels : ℕ) :
    Followed tail (readToken levels) := by
  induction levels with
  | zero =>
    refine readTokenWith_followed blank fun reader found => ?_
    cases found
  | succ level ih =>
    refine readTokenWith_followed blank fun reader found => ?_
    cases found
    intro input
    rw [nestedReader_outcome, nestedReader_outcome]
    exact (ih input).map fun value => rfl

theorem readValue_followed (blank : StartsBlank tail) : Followed tail readValue := by
  intro input
  rw [readValue_outcome, readValue_outcome]
  exact (readToken_followed blank maxNesting input).map fun value => rfl

/-! ## Inline images -/

/-- The word `ID` takes one blank with it. At the end of the input this may be the first of the tail,
but there the image has no data yet. -/
theorem readImageEntries_followed (blank : StartsBlank tail) (input : Bytes) :
    (∃ entries, (readImageEntries input).outcome = .ok (entries, [])) ∨
      Continues tail (followedBy tail) (readImageEntries input).outcome
        (readImageEntries (input ++ tail)).outcome := by
  induction size : input.length using Nat.strong_induction_on generalizing input with
  | _ size' ih =>
    subst size
    rw [readImageEntries_outcome input]
    split
    · exact Or.inr (.cut rfl)
    next b rest skipped =>
    rw [readImageEntries_outcome (input ++ tail), skipBlanks_append skipped]
    simp only
    split
    · next word =>
      obtain ⟨first, second, ends⟩ := word
      obtain ⟨rest, rfl⟩ := List.head?_eq_some_iff.1 second
      cases rest with
      | nil => exact Or.inl ⟨[], rfl⟩
      | cons c rest =>
        rw [if_pos ⟨first, rfl, ends⟩]
        exact Or.inr (.read ([], rest))
    next noWord =>
    have still_noWord : ¬ (b = 0x49 ∧ (rest ++ tail).head? = some 0x44
        ∧ ((rest ++ tail).drop 1).head?.all isBlank = true) := by
      rintro ⟨first, second, ends⟩
      rcases rest with _ | ⟨c, _ | ⟨d, rest⟩⟩
      · exact blank.head?_ne rfl second
      · exact noWord ⟨first, second, rfl⟩
      · exact noWord ⟨first, second, ends⟩
    rw [if_neg still_noWord]
    split
    · rw [readName_followed blank]
      split
      · exact Or.inr (.cut rfl)
      next c after afterKey =>
      rw [show skipBlanks (followedBy tail (readName rest)).2 = c :: (after ++ tail) from
        skipBlanks_append afterKey tail]
      simp only
      rcases (readValue_followed blank).cases c after with
        ⟨first, following, short, long⟩ | ⟨fault, following, short, openEnd | long⟩
      · have shorter := length_lt_of_entry skipped afterKey short
        rw [short, long]
        rcases ih _ shorter following rfl with ⟨entries, ends⟩ | follows
        · simp only [ends]
          exact Or.inl ⟨_, rfl⟩
        · exact Or.inr (follows.map fun value => rfl)
      · rw [short]
        exact Or.inr (.cut openEnd)
      · rw [short, long]
        exact Or.inr (.stopped fault following)
    · exact Or.inr (.stopped _ (b :: rest))

theorem splitImageData_followed (blank : StartsBlank tail) {afterBlank : Bool}
    {input bytes after : Bytes} (h : splitImageData afterBlank input = some (bytes, after)) :
    splitImageData afterBlank (input ++ tail) = some (bytes, after ++ tail) := by
  induction input generalizing afterBlank bytes after with
  | nil => cases h
  | cons b rest ih =>
    rw [splitImageData] at h
    rw [List.cons_append, splitImageData]
    split at h
    · next word =>
      cases h
      simp only [Bool.and_eq_true, beq_iff_eq] at word
      obtain ⟨⟨front, second⟩, ends⟩ := word
      obtain ⟨rest, rfl⟩ := List.head?_eq_some_iff.1 second
      have still_ends : (rest ++ tail).head?.all (fun c => isBlank c || isDelimiter c) = true := by
        cases rest with
        | nil =>
          cases tail with
          | nil => rfl
          | cons c tail => simp [blank c rfl]
        | cons c rest => exact ends
      rw [if_pos (by simpa [front] using still_ends)]
      rfl
    · next noWord =>
      obtain ⟨⟨front, last⟩, split_ok, same⟩ := Option.map_eq_some_iff.1 h
      cases same
      have still_noWord : ¬ (afterBlank && b == 0x45 && (rest ++ tail).head? == some 0x49
          && ((rest ++ tail).drop 1).head?.all (fun c => isBlank c || isDelimiter c)) = true := by
        rcases rest with _ | ⟨c, _ | ⟨d, rest⟩⟩
        · cases split_ok
        · intro word
          simp only [Bool.and_eq_true] at word noWord
          exact noWord ⟨word.1, rfl⟩
        · exact noWord
      rw [if_neg still_noWord, ih split_ok]
      rfl

theorem readImage_followed (blank : StartsBlank tail) : Followed tail readImage := by
  intro input
  rw [readImage_outcome, readImage_outcome]
  rcases readImageEntries_followed blank input with ⟨entries, ends⟩ | follows
  · rw [ends]
    exact .cut rfl
  · generalize (readImageEntries input).outcome = short at follows
    generalize (readImageEntries (input ++ tail)).outcome = long at follows
    cases follows with
    | read found =>
      simp only [followedBy]
      cases data : splitImageData true found.2 with
      | none => exact .cut rfl
      | some image =>
        simp only [splitImageData_followed blank data]
        exact .read ((⟨"BI", [.array found.1, .literal image.1.dropLast]⟩ : Operator), image.2)
    | stopped fault rest => exact .stopped fault rest
    | cut openEnd => exact .cut openEnd

/-! ## Operators -/

/-- An operator that is found in the input is found there with a tail behind it as well, and a fault
is met there as well. -/
theorem readOperator_followed (blank : StartsBlank tail) (count : ℕ) (input : Bytes) :
    operatorOutcome (readOperator count input) = .ok none ∨
      Continues tail (Option.map (followedBy tail)) (operatorOutcome (readOperator count input))
        (operatorOutcome (readOperator count (input ++ tail))) := by
  induction size : input.length using Nat.strong_induction_on generalizing count input with
  | _ size' ih =>
    subst size
    rw [readOperator_outcome count input]
    split
    · split
      · exact Or.inl rfl
      · exact Or.inr (.cut rfl)
    next b rest skipped =>
    have shorter := length_lt_of_skipBlanks skipped
    rw [readOperator_outcome count (input ++ tail), skipBlanks_append skipped]
    simp only
    split
    · exact Or.inr (.stopped _ (b :: rest))
    split
    · exact ih _ shorter count rest rfl
    rcases (readToken_followed blank maxNesting).cases b rest with
      ⟨token, after, short, long⟩ | ⟨fault, after, short, openEnd | long⟩
    · have remaining := length_lt_of_item skipped short
      rw [short, long]
      cases token with
      | operand value =>
        rcases ih _ remaining (count + 1) after rfl with ends | follows
        · simp only [ends]
          exact Or.inl rfl
        · refine Or.inr (follows.map fun operator? => ?_)
          cases operator? <;> rfl
      | keyword word =>
        right
        simp only
        split
        · split
          · exact (readImage_followed blank after).map fun value => rfl
          · exact .stopped _ after
        · exact .read (some ((⟨word, []⟩ : Operator), after))
    · rw [short]
      exact Or.inr (.cut openEnd)
    · rw [short, long]
      exact Or.inr (.stopped fault after)

end

/-! ## Streams -/

/-- Whether the end of a stream without faults stands within a comment. -/
def endsInComment (input : Bytes) : Bool :=
  match readOperator 0 input with
  | .error _ => false
  | .ok none => commentAtEnd false input
  | .ok (some first) =>
    have := first.rest_lt
    endsInComment first.rest
termination_by input.length

theorem endsInComment_eq (input : Bytes) :
    endsInComment input =
      match operatorOutcome (readOperator 0 input) with
      | .error _ => false
      | .ok none => commentAtEnd false input
      | .ok (some (_, rest)) => endsInComment rest := by
  rw [endsInComment]
  rcases readOperator 0 input with stop | _ | parsed <;> rfl

/-- Reading passes over input without operators to what follows it, unless that stands within a
comment. -/
theorem readOperator_append {count : ℕ} {input more : Bytes} {separator : UInt8}
    (ends : TakesOperator count input none) (blank : isBlank separator = true)
    (closed : commentAtEnd false input = false ∨ isLineEnd separator = true) :
    operatorOutcome (readOperator count (input ++ separator :: more))
      = operatorOutcome (readOperator count more) := by
  generalize found_eq : none = found at ends
  induction ends with
  | @ended input skipped =>
    have passed : skipBlanks (input ++ separator :: more) = skipBlanks more := by
      refine (skipFrom_append_of_eq_nil skipped (separator :: more)).trans ?_
      rcases closed with plain | line
      · rw [plain, skipFrom, if_neg Bool.false_ne_true, if_pos blank]
        rfl
      · cases commentAtEnd false input with
        | true => rw [skipFrom, if_pos rfl, line]; rfl
        | false => rw [skipFrom, if_neg Bool.false_ne_true, if_pos blank]; rfl
    rw [readOperator_outcome, readOperator_outcome 0 more, passed]
  | pass skipped bracket other _ ih =>
    rw [commentAtEnd_of_skipBlanks skipped] at closed
    rw [readOperator_outcome, skipBlanks_append skipped]
    simp only
    rw [if_neg bracket, if_pos other]
    exact ih closed found_eq
  | operand | keyword | image => cases found_eq

/-- The operators of a stream and then those of what follows it, unless that stands within a comment.
-/
theorem readOperators_append {before more : Bytes} {separator : UInt8}
    (blank : isBlank separator = true)
    (closed : endsInComment before = false ∨ isLineEnd separator = true)
    (ended : (readOperators before).stop = none) :
    readOperators (before ++ separator :: more) =
      ⟨(readOperators before).operators ++ (readOperators more).operators,
        (readOperators more).stop⟩ := by
  have startsBlank : StartsBlank (separator :: more) := .cons blank more
  induction before using readOperators_induction with
  | stopped before stop read =>
    rw [readOperators_eq, read] at ended
    cases ended
  | ended before read =>
    rw [endsInComment_eq, read] at closed
    rw [readOperators_eq before, read, readOperators_eq,
      readOperator_append (takesOperator_of_outcome read) blank closed, ← readOperators_eq]
    rfl
  | operator before first rest read ih =>
    have follows := readOperator_followed startsBlank 0 before
    rw [read] at follows
    have long_read : operatorOutcome (readOperator 0 (before ++ separator :: more))
        = .ok (some (first, rest ++ separator :: more)) :=
      (follows.resolve_left (by rintro ⟨⟩)).of_ok
    rw [endsInComment_eq, read] at closed
    rw [readOperators_eq before, read] at ended ⊢
    rw [readOperators_eq, long_read]
    simp only [ih closed ended]
    rfl

/-- A fault that the end of a stream did not cause is met with more behind the stream as well. -/
theorem readOperators_stop_append {before tail rest : Bytes} {fault : ContentFault}
    (startsBlank : StartsBlank tail)
    (stopped : (readOperators before).stop = some ⟨fault, rest⟩) (real : fault.isOpenEnd = false) :
    readOperators (before ++ tail)
      = ⟨(readOperators before).operators, some ⟨fault, rest ++ tail⟩⟩ := by
  induction before using readOperators_induction with
  | stopped before stop read =>
    have follows := readOperator_followed startsBlank 0 before
    rw [readOperators_eq before, read] at stopped ⊢
    cases stopped
    rw [read] at follows
    have long_read := (follows.resolve_left (by rintro ⟨⟩)).of_error real
    rw [readOperators_eq, long_read]
  | ended before read =>
    rw [readOperators_eq, read] at stopped
    cases stopped
  | operator before first after read ih =>
    have follows := readOperator_followed startsBlank 0 before
    rw [read] at follows
    have long_read : operatorOutcome (readOperator 0 (before ++ tail))
        = .ok (some (first, after ++ tail)) :=
      (follows.resolve_left (by rintro ⟨⟩)).of_ok
    rw [readOperators_eq before, read] at stopped ⊢
    rw [readOperators_eq, long_read]
    simp only [ih stopped]

end Preflight
