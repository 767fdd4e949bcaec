import Mathlib
import Preflight.Content.Writer
import Preflight.Proofs.Readers
import Preflight.Proofs.Utf8

/-!
# Printed operands read back

Each form of operand is read back from its bytes in front of anything that ends a token: names and
strings as they were, numbers with a fraction as the number that their text denotes, and arrays and
dictionaries item by item. The induction follows the operand, and the levels of nesting that are left
follow its depth.
-/

namespace Preflight

open Reading

/-! ## Depth, reals and printed forms -/

namespace Operand

mutual

/-- How deep arrays and dictionaries nest in an operand. -/
def depth : Operand → ℕ
  | array items => depthOfItems items + 1
  | dictionary entries => depthOfEntries entries + 1
  | _ => 0

/-- How deep arrays and dictionaries nest in several operands. -/
def depthOfItems : List Operand → ℕ
  | [] => 0
  | item :: items => max (depth item) (depthOfItems items)

/-- How deep arrays and dictionaries nest in the values of entries. -/
def depthOfEntries : List (String × Operand) → ℕ
  | [] => 0
  | (_, value) :: entries => max (depth value) (depthOfEntries entries)

end

mutual

/-- The numbers with a fraction in an operand, at any depth. -/
def reals : Operand → List Double
  | real value => [value]
  | array items => realsOfItems items
  | dictionary entries => realsOfEntries entries
  | _ => []

/-- The numbers with a fraction in several operands. -/
def realsOfItems : List Operand → List Double
  | [] => []
  | item :: items => reals item ++ realsOfItems items

/-- The numbers with a fraction in the values of entries. -/
def realsOfEntries : List (String × Operand) → List Double
  | [] => []
  | (_, value) :: entries => reals value ++ realsOfEntries entries

end

/-- The operand as which the text of a number is read, if it is read to its end. -/
def ofPrinted? (x : Double) : Option Operand :=
  match (readValue (numberText x)).outcome with
  | .ok (operand, []) => some operand
  | _ => none

mutual

/-- An operand with each number with a fraction, at any depth, replaced by the operand as which its
text is read. -/
def printed? : Operand → Option Operand
  | real value => ofPrinted? value
  | array items => (printedItems? items).map array
  | dictionary entries => (printedEntries? entries).map dictionary
  | operand => some operand

/-- Several operands, each with its numbers replaced. -/
def printedItems? : List Operand → Option (List Operand)
  | [] => some []
  | item :: items =>
    match printed? item, printedItems? items with
    | some first, some following => some (first :: following)
    | _, _ => none

/-- Entries with the numbers in their values replaced. -/
def printedEntries? : List (String × Operand) → Option (List (String × Operand))
  | [] => some []
  | (key, value) :: entries =>
    match printed? value, printedEntries? entries with
    | some first, some following => some ((key, first) :: following)
    | _, _ => none

end

end Operand

/-! ## Names -/

theorem unescapeName_cons {b : UInt8} (h : b ≠ 0x23) (rest : Bytes) :
    unescapeName (b :: rest) = b :: unescapeName rest := by
  rw [unescapeName.eq_def]
  split
  · next found => exact absurd (List.cons.inj found).1 h
  · next found =>
    obtain ⟨rfl, rfl⟩ := List.cons.inj found
    rfl
  · next found => cases found

/-- Hexadecimal digits are read back as the halves of the byte. -/
theorem hexValue?_hexPair (b : UInt8) :
    hexValue? (hexDigit (b >>> 4)) = some (b >>> 4) ∧
      hexValue? (hexDigit (b &&& 0x0F)) = some (b &&& 0x0F) ∧
      (b >>> 4) <<< 4 ||| (b &&& 0x0F) = b := by
  revert b
  decide +kernel

theorem unescapeName_nameByteText (b : UInt8) (rest : Bytes) :
    unescapeName (nameByteText b ++ rest) = b :: unescapeName rest := by
  unfold nameByteText
  split
  · obtain ⟨high, low, joined⟩ := hexValue?_hexPair b
    rw [hexPair, List.cons_append, List.cons_append, List.singleton_append, unescapeName, high, low]
    simp only [joined]
  · next plain =>
    refine unescapeName_cons ?_ rest
    rintro rfl
    exact plain rfl

theorem unescapeName_flatMap (bytes : Bytes) : unescapeName (bytes.flatMap nameByteText) = bytes := by
  induction bytes with
  | nil => rfl
  | cons b bytes ih => rw [List.flatMap_cons, unescapeName_nameByteText, ih]

theorem isRegular_of_mem_nameByteText {b c : UInt8} (h : c ∈ nameByteText b) :
    isRegular c = true := by
  have all : ∀ b : UInt8, (nameByteText b).all isRegular = true := by decide +kernel
  exact List.all_eq_true.1 (all b) c h

theorem readRawName_text (bytes : Bytes) {rest : Bytes} (ends : EndsToken rest) :
    readRawName (bytes.flatMap nameByteText ++ rest) = (bytes.flatMap nameByteText, rest) := by
  have regular : ∀ c ∈ bytes.flatMap nameByteText, isRegular c = true := by
    intro c member
    obtain ⟨b, -, found⟩ := List.mem_flatMap.1 member
    exact isRegular_of_mem_nameByteText found
  obtain ⟨taken, dropped⟩ := span_append regular ends
  rw [readRawName, taken, dropped]

/-- A name is read back from the bytes after its solidus. -/
theorem readName_text (name : String) {rest : Bytes} (ends : EndsToken rest) :
    readName ((Utf8.encode name).flatMap nameByteText ++ rest) = (name, rest) := by
  rw [readName, readRawName_text _ ends]
  simp only [unescapeName_flatMap, Utf8.decode_encode]

/-! ## Strings -/

/-- A byte of a literal string is read back from its written form. -/
theorem readLiteral_byte (b : UInt8) (after : Bytes) :
    (readLiteral 0 (literalByteText b ++ after)).outcome
      = (readLiteral 0 after).outcome.map (Prod.map (b :: ·) id) := by
  have escaped (c : UInt8) (same : readEscape c after = ([b], after)) :
      (readLiteral 0 (0x5C :: c :: after)).outcome
        = (readLiteral 0 after).outcome.map (Prod.map (b :: ·) id) := by
    rw [readLiteral_outcome]
    simp only
    rw [if_neg (by decide), if_neg (by decide), if_pos trivial, same]
    rfl
  by_cases special : (b == 0x28 || b == 0x29 || b == 0x5C) = true
  · rw [literalByteText, if_pos special]
    simp only [Bool.or_eq_true, beq_iff_eq] at special
    refine escaped b ?_
    rcases special with (rfl | rfl) | rfl <;> rfl
  by_cases carriage : (b == 0x0D) = true
  · rw [literalByteText, if_neg special, if_pos carriage]
    exact escaped 0x72 (by rw [eq_of_beq carriage]; rfl)
  · rw [literalByteText, if_neg special, if_neg carriage, List.singleton_append, readLiteral_outcome]
    simp only [Bool.or_eq_true, beq_iff_eq, not_or] at special
    simp only [special.1.1, special.1.2, special.2, if_false]

/-- A literal string is read back from the bytes after its opening parenthesis. -/
theorem readLiteral_text (bytes rest : Bytes) :
    (readLiteral 0 (bytes.flatMap literalByteText ++ 0x29 :: rest)).outcome = .ok (bytes, rest) := by
  induction bytes with
  | nil =>
    rw [readLiteral_outcome]
    simp
  | cons b bytes ih =>
    rw [List.flatMap_cons, List.append_assoc, readLiteral_byte, ih]
    rfl

theorem isBlank_hexDigit (b : UInt8) :
    isBlank (hexDigit (b >>> 4)) = false ∧ isBlank (hexDigit (b &&& 0x0F)) = false ∧
      hexDigit (b >>> 4) ≠ 0x3E ∧ hexDigit (b &&& 0x0F) ≠ 0x3E ∧ hexDigit (b >>> 4) ≠ 0x3C := by
  revert b
  decide +kernel

/-- The values of the two hexadecimal digits of a byte. -/
def halves (b : UInt8) : List UInt8 := [b >>> 4, b &&& 0x0F]

theorem readHexDigits_text (bytes rest : Bytes) :
    (readHexDigits (bytes.flatMap hexPair ++ 0x3E :: rest)).outcome
      = .ok (bytes.flatMap halves, rest) := by
  induction bytes with
  | nil =>
    rw [readHexDigits_outcome]
    simp
  | cons b bytes ih =>
    obtain ⟨high, low, -⟩ := hexValue?_hexPair b
    obtain ⟨blank_high, blank_low, open_high, open_low, -⟩ := isBlank_hexDigit b
    rw [List.flatMap_cons, hexPair, List.cons_append, List.singleton_append, List.cons_append,
      List.cons_append, readHexDigits_outcome]
    simp only [open_high, if_false, blank_high, high, Bool.false_eq_true]
    rw [readHexDigits_outcome]
    simp only [open_low, if_false, blank_low, low, Bool.false_eq_true]
    rw [ih]
    rfl

theorem head?_flatMap_hexPair (bytes rest : Bytes) :
    (bytes.flatMap hexPair ++ ([0x3E] ++ rest)).head? ≠ some 0x3C := by
  cases bytes with
  | nil => simp
  | cons b bytes =>
    rw [List.flatMap_cons, hexPair, List.cons_append, List.cons_append, List.head?_cons]
    exact fun same => (isBlank_hexDigit b).2.2.2.2 (Option.some.inj same)

theorem joinDigits_halves (bytes : Bytes) : joinDigits (bytes.flatMap halves) = bytes := by
  induction bytes with
  | nil => rfl
  | cons b bytes ih =>
    rw [List.flatMap_cons, halves, List.cons_append, List.singleton_append, joinDigits, ih,
      (hexValue?_hexPair b).2.2]

/-! ## Numbers and words -/

/-- The first byte of a written numeral begins a number, and no other token. -/
theorem isNumberByte_of_isDigit {b : UInt8} (h : isDigit b = true ∨ b = 0x2D) :
    isNumberByte b = true ∧ b ≠ 0x28 ∧ b ≠ 0x3C ∧ b ≠ 0x5B ∧ b ≠ 0x2F := by
  grind [isNumberByte, isDigit]

/-- A written numeral is the token that it denotes, in front of anything that ends it. -/
theorem readTokenWith_numeral {n : Numeral} (written : n.Written)
    (value : Option ((input : Bytes) → Reading Operand input)) {rest : Bytes}
    (ends : EndsToken rest) :
    (readTokenWith value (n.text ++ rest)).outcome =
      match n.operand? with
      | some operand => .ok (.operand operand, rest)
      | none => .error ⟨n.fault, rest⟩ := by
  have read := Numeral.read_text_append written ends
  obtain ⟨b, text, cons, first⟩ := Numeral.isNumberByte_head written
  obtain ⟨begins, literal, hex, array, name⟩ := isNumberByte_of_isDigit first
  rw [cons, List.cons_append] at read ⊢
  rw [readTokenWith_outcome]
  simp only [literal, hex, array, name, begins, if_false, false_and, dif_pos]
  rw [readNumber_outcome, read]
  cases n.operand? <;> rfl

/-- A word: a letter, an asterisk or a quote, then also digits. -/
def IsWord (text : String) : Prop :=
  ∃ b rest, Utf8.encode text = b :: rest ∧ isKeywordByte b = true ∧
    ∀ c ∈ rest, isKeywordRest c = true

/-- A keyword: a word that is not one of the words for values. -/
structure IsKeyword (name : String) : Prop where
  /-- It is a word. -/
  word : IsWord name
  /-- It stands for no value. -/
  other : name ≠ "true" ∧ name ≠ "false" ∧ name ≠ "null"

theorem isNumberByte_of_isKeywordByte {b : UInt8} (h : isKeywordByte b = true) :
    isNumberByte b = false ∧ b ≠ 0x28 ∧ b ≠ 0x3C ∧ b ≠ 0x5B ∧ b ≠ 0x2F := by
  grind [isNumberByte, isDigit, isKeywordByte, isLetter]

/-- What ends a token ends a word. -/
theorem EndsToken.not_keywordRest {rest : Bytes} (ends : EndsToken rest) :
    ∀ c ∈ rest.head?, isKeywordRest c = false := by
  have regular : ∀ c : UInt8, isRegular c = false → isKeywordRest c = false := by decide +kernel
  exact fun c member => regular c (ends c member)

/-- A word is the token that it stands for, in front of anything that ends it. -/
theorem readTokenWith_word {text : String} (word : IsWord text)
    (value : Option ((input : Bytes) → Reading Operand input)) {rest : Bytes}
    (ends : EndsToken rest) :
    (readTokenWith value (Utf8.encode text ++ rest)).outcome
      = .ok (.ofWord (Utf8.encode text), rest) := by
  obtain ⟨b, bytes, cons, first, further⟩ := word
  obtain ⟨number, literal, hex, array, name⟩ := isNumberByte_of_isKeywordByte first
  obtain ⟨taken, dropped⟩ := span_append further (ends.not_keywordRest)
  rw [cons, List.cons_append, readTokenWith_outcome]
  simp only [literal, hex, array, name, number, first, if_false, false_and, if_true, taken, dropped,
    Bool.false_eq_true, dif_neg, not_false_eq_true]

theorem readTokenWith_keyword {name : String} (keyword : IsKeyword name)
    (value : Option ((input : Bytes) → Reading Operand input)) {rest : Bytes}
    (ends : EndsToken rest) :
    (readTokenWith value (Utf8.encode name ++ rest)).outcome = .ok (.keyword name, rest) := by
  obtain ⟨not_true, not_false, not_null⟩ := keyword.other
  rw [readTokenWith_word keyword.word value ends]
  simp only [Token.ofWord, Utf8.decode_encode, not_true, not_false, not_null, if_false]

/-! ## Items and entries -/

/-- The printed form of an operand begins with a byte of a token. -/
theorem Operand.bytes_eq_cons (operand : Operand) :
    ∃ b rest, operand.bytes = b :: rest ∧ isTokenByte b = true := by
  have numeral {n : Numeral} (written : n.Written) :
      ∃ b rest, n.text = b :: rest ∧ isTokenByte b = true := by
    obtain ⟨b, text, cons, first⟩ := Numeral.isNumberByte_head written
    have begins := (isNumberByte_of_isDigit first).1
    exact ⟨b, text, cons, by simp only [isTokenByte, begins, Bool.or_true, Bool.true_or]⟩
  cases operand with
  | integer value =>
    rw [bytes, Numeral.integerText_eq_text]
    exact numeral (Numeral.written_ofInt value.toInt)
  | real value =>
    obtain ⟨sign, whole, places, text, written, -⟩ := numberText_eq_text value
    rw [bytes, text]
    exact numeral written
  | name text => exact ⟨0x2F, _, rfl, rfl⟩
  | literal bytes => exact ⟨0x28, _, rfl, rfl⟩
  | hex bytes => exact ⟨0x3C, _, rfl, rfl⟩
  | array items => exact ⟨0x5B, _, by rw [bytes]; rfl, rfl⟩
  | boolean value =>
    cases value with
    | true => exact ⟨0x74, _, by rw [bytes]; rfl, rfl⟩
    | false => exact ⟨0x66, _, by rw [bytes]; rfl, rfl⟩
  | null => exact ⟨0x6E, _, by rw [bytes]; rfl, rfl⟩
  | dictionary entries => exact ⟨0x3C, _, by rw [bytes]; rfl, rfl⟩

theorem isBlank_of_isTokenByte :
    ∀ b, isTokenByte b = true → isBlank b = false ∧ b ≠ 0x25 ∧ b ≠ 0x5D := by
  decide +kernel

/-- Where a printed operand begins, no blanks are skipped. -/
theorem skipBlanks_bytes (operand : Operand) (rest : Bytes) :
    ∃ b after, operand.bytes ++ rest = b :: after ∧ isTokenByte b = true ∧ b ≠ 0x5D ∧
      skipBlanks (operand.bytes ++ rest) = b :: after := by
  obtain ⟨b, text, cons, first⟩ := operand.bytes_eq_cons
  obtain ⟨blank, comment, bracket⟩ := isBlank_of_isTokenByte b first
  refine ⟨b, text ++ rest, by rw [cons, List.cons_append], first, bracket, ?_⟩
  rw [cons, List.cons_append, skipBlanks_token blank comment]

/-- Joined texts are the texts with a separator before each, without the first separator. -/
theorem joinTexts_eq_tail (separator : UInt8) (texts : List Bytes) :
    joinTexts separator texts = (texts.flatMap (separator :: ·)).tail := by
  induction texts with
  | nil => rfl
  | cons text texts ih =>
    cases texts with
    | nil => simp [joinTexts]
    | cons next texts =>
      rw [joinTexts, ih]
      simp

/-- A space in front of joined texts is skipped. -/
theorem skipBlanks_joinTexts (texts : List Bytes) (rest : Bytes) :
    skipBlanks (joinTexts 0x20 texts ++ rest) = skipBlanks (texts.flatMap (0x20 :: ·) ++ rest) := by
  rw [joinTexts_eq_tail]
  cases texts with
  | nil => rfl
  | cons text texts =>
    rw [List.flatMap_cons, List.cons_append, List.cons_append, List.tail_cons, skipBlanks_blank rfl]

theorem EndsToken.blank {b : UInt8} (blank : isBlank b = true) (rest : Bytes) :
    EndsToken (b :: rest) := by
  intro c member
  cases member
  rw [isRegular, blank]
  rfl

theorem EndsToken.space (rest : Bytes) : EndsToken (0x20 :: rest) := .blank rfl rest

/-- After a printed item of a list, what follows ends the token. -/
theorem endsToken_flatMap (texts : List Bytes) {rest : Bytes} (ends : EndsToken rest) :
    EndsToken (texts.flatMap (0x20 :: ·) ++ rest) := by
  cases texts with
  | nil => exact ends
  | cons text texts => exact EndsToken.space _

theorem readItems_congr (value : (input : Bytes) → Reading Operand input) {input other : Bytes}
    (h : skipBlanks input = skipBlanks other) :
    (readItems value input).outcome = (readItems value other).outcome := by
  rw [readItems_outcome, h, readItems_outcome]

theorem readEntries_congr (value : (input : Bytes) → Reading Operand input) {input other : Bytes}
    (h : skipBlanks input = skipBlanks other) :
    (readEntries value input).outcome = (readEntries value other).outcome := by
  rw [readEntries_outcome, h, readEntries_outcome]

/-- A reader of values takes off what `printed?` says, at each operand that is not too deep. -/
def ReadsPrinted (value : (input : Bytes) → Reading Operand input) (operand : Operand) : Prop :=
  ∀ {printed rest}, operand.printed? = some printed → EndsToken rest →
    (value (operand.bytes ++ rest)).outcome = .ok (printed, rest)

/-- Items are read back up to the closing bracket. -/
theorem readItems_flatMap {value : (input : Bytes) → Reading Operand input}
    {items printed : List Operand} (reads : ∀ item ∈ items, ReadsPrinted value item)
    (h : Operand.printedItems? items = some printed) (rest : Bytes) :
    (readItems value ((Operand.itemBytes items).flatMap (0x20 :: ·) ++ 0x5D :: rest)).outcome
      = .ok (printed, rest) := by
  induction items generalizing printed with
  | nil =>
    cases h
    rw [readItems_outcome]
    simp [Operand.itemBytes]
    rfl
  | cons item items ih =>
    rw [Operand.printedItems?] at h
    split at h
    · next first following item_printed items_printed =>
      cases h
      have closing : EndsToken (0x5D :: rest) := by simp [EndsToken]; rfl
      rw [Operand.itemBytes, List.flatMap_cons, List.append_assoc, List.cons_append,
        readItems_congr value (skipBlanks_blank rfl _)]
      have taken := reads item List.mem_cons_self item_printed
        (endsToken_flatMap (Operand.itemBytes items) closing)
      obtain ⟨b, after, cons, -, bracket, skipped⟩ := skipBlanks_bytes item
        ((Operand.itemBytes items).flatMap (0x20 :: ·) ++ 0x5D :: rest)
      rw [readItems_outcome, skipped]
      simp only [bracket, if_false]
      rw [← cons, taken]
      simp only
      rw [ih (fun other member => reads other (List.mem_cons_of_mem _ member)) items_printed]
      rfl
    · cases h

/-- Entries are read back up to the closing brackets. -/
theorem readEntries_flatMap {value : (input : Bytes) → Reading Operand input}
    {entries printed : List (String × Operand)}
    (reads : ∀ entry ∈ entries, ReadsPrinted value entry.2)
    (h : Operand.printedEntries? entries = some printed) (rest : Bytes) :
    (readEntries value
        ((Operand.entryBytes entries).flatMap (0x20 :: ·) ++ 0x3E :: 0x3E :: rest)).outcome
      = .ok (printed, rest) := by
  induction entries generalizing printed with
  | nil =>
    cases h
    rw [readEntries_outcome]
    simp [Operand.entryBytes]
    rw [skipBlanks_token rfl (by decide)]
    simp
  | cons entry entries ih =>
    obtain ⟨key, item⟩ := entry
    rw [Operand.printedEntries?] at h
    split at h
    · next first following item_printed entries_printed =>
      cases h
      have closing : EndsToken (0x3E :: 0x3E :: rest) := by simp [EndsToken]; rfl
      rw [Operand.entryBytes, List.flatMap_cons, List.append_assoc, List.cons_append,
        readEntries_congr value (skipBlanks_blank rfl _)]
      have taken := reads (key, item) List.mem_cons_self item_printed
        (endsToken_flatMap (Operand.entryBytes entries) closing)
      obtain ⟨b, after, cons, -, -, skipped⟩ := skipBlanks_bytes item
        ((Operand.entryBytes entries).flatMap (0x20 :: ·) ++ 0x3E :: 0x3E :: rest)
      rw [nameText, List.append_assoc, List.cons_append, readEntries_outcome,
        skipBlanks_token rfl (by decide)]
      simp only [List.cons_append]
      rw [if_neg (by simp), if_pos trivial, readName_text key (EndsToken.space _)]
      simp only
      rw [skipBlanks_blank rfl, skipped]
      simp only
      rw [← cons, taken]
      simp only
      rw [ih (fun other member => reads other (List.mem_cons_of_mem _ member)) entries_printed]
      rfl
    · cases h

/-! ## Operands -/

namespace Operand

/-- The text of a number is read as the operand that its numeral denotes. -/
theorem ofPrinted?_eq {x : Double} {n : Numeral} (text : numberText x = n.text)
    (written : n.Written) : ofPrinted? x = n.operand? := by
  have ends : EndsToken [] := by simp [EndsToken]
  have token := readTokenWith_numeral written (nestedReader maxNesting) ends
  rw [List.append_nil] at token
  rw [ofPrinted?, text, readValue_outcome, readToken_eq, token]
  cases n.operand? <;> rfl

/-- A finite number of magnitude below `2 ^ 63` can be read back. -/
theorem isSome_ofPrinted? {x : Double} (finite : x.isFinite = true) (h : |x.toRat| < 2 ^ 63) :
    (ofPrinted? x).isSome = true := by
  obtain ⟨sign, whole, places, text, written, bound⟩ := numberText_eq_text x
  rw [ofPrinted?_eq text written]
  exact Numeral.isSome_operand?_ofParts places (bound finite h)

theorem depth_le_depthOfItems {items : List Operand} {item : Operand} (h : item ∈ items) :
    item.depth ≤ depthOfItems items := by
  induction items with
  | nil => exact absurd h List.not_mem_nil
  | cons first items ih =>
    rw [depthOfItems]
    rcases List.mem_cons.1 h with rfl | following
    · exact le_max_left ..
    · exact (ih following).trans (le_max_right ..)

theorem depth_le_depthOfEntries {entries : List (String × Operand)} {entry : String × Operand}
    (h : entry ∈ entries) : entry.2.depth ≤ depthOfEntries entries := by
  induction entries with
  | nil => exact absurd h List.not_mem_nil
  | cons first entries ih =>
    rw [depthOfEntries]
    rcases List.mem_cons.1 h with rfl | following
    · exact le_max_left ..
    · exact (ih following).trans (le_max_right ..)

end Operand

/-- A reader of values with a level of nesting less takes off the items of an operand. -/
theorem readsPrinted_nested {level : ℕ} {item : Operand}
    (h : ∀ {printed rest}, item.printed? = some printed → EndsToken rest →
      (readToken level (item.bytes ++ rest)).outcome = .ok (.operand printed, rest)) :
    ReadsPrinted (fun input => (readToken level input).map (·.map Token.nestedValue)) item := by
  intro printed rest item_printed ends
  rw [nestedReader_outcome, h item_printed ends]
  rfl

section Forms

variable (value : Option ((input : Bytes) → Reading Operand input)) {rest : Bytes}

theorem readTokenWith_name (text : String) (ends : EndsToken rest) :
    (readTokenWith value ((Operand.name text).bytes ++ rest)).outcome
      = .ok (.operand (.name text), rest) := by
  rw [Operand.bytes, nameText, List.cons_append, readTokenWith_outcome]
  simp [readName_text text ends]

theorem readTokenWith_literal (bytes : Bytes) :
    (readTokenWith value ((Operand.literal bytes).bytes ++ rest)).outcome
      = .ok (.operand (.literal bytes), rest) := by
  rw [Operand.bytes, List.cons_append, List.cons_append, List.append_assoc, readTokenWith_outcome,
    if_pos rfl, List.singleton_append, readLiteral_text]
  rfl

theorem readTokenWith_hex (bytes : Bytes) :
    (readTokenWith value ((Operand.hex bytes).bytes ++ rest)).outcome
      = .ok (.operand (.hex bytes), rest) := by
  rw [Operand.bytes, List.cons_append, List.cons_append, List.append_assoc, readTokenWith_outcome,
    if_neg (by decide), if_neg, if_pos rfl, List.singleton_append, readHexDigits_text]
  · simp only [Except.map, Prod.map, joinDigits_halves, id]
  · rintro ⟨-, bracket⟩
    exact head?_flatMap_hexPair bytes rest bracket

theorem readTokenWith_boolean (b : Bool) (ends : EndsToken rest) :
    (readTokenWith value ((Operand.boolean b).bytes ++ rest)).outcome
      = .ok (.operand (.boolean b), rest) := by
  cases b with
  | true =>
    have word : IsWord "true" := ⟨0x74, [0x72, 0x75, 0x65], rfl, rfl,
        List.all_eq_true.1 rfl⟩
    have text : (Operand.boolean true).bytes = Utf8.encode "true" := by
      rw [Operand.bytes]
      rfl
    rw [text, readTokenWith_word word _ ends, Token.ofWord, Utf8.decode_encode]
    rfl
  | false =>
    have word : IsWord "false" := ⟨0x66, [0x61, 0x6C, 0x73, 0x65], rfl, rfl,
        List.all_eq_true.1 rfl⟩
    have text : (Operand.boolean false).bytes = Utf8.encode "false" := by
      rw [Operand.bytes]
      rfl
    rw [text, readTokenWith_word word _ ends, Token.ofWord, Utf8.decode_encode]
    rfl

theorem readTokenWith_null (ends : EndsToken rest) :
    (readTokenWith value (Operand.null.bytes ++ rest)).outcome = .ok (.operand .null, rest) := by
  have word : IsWord "null" := ⟨0x6E, [0x75, 0x6C, 0x6C], rfl, rfl, List.all_eq_true.1 rfl⟩
  have text : Operand.null.bytes = Utf8.encode "null" := by
    rw [Operand.bytes]
    rfl
  rw [text, readTokenWith_word word _ ends, Token.ofWord, Utf8.decode_encode]
  rfl

variable {level : ℕ}

theorem readTokenWith_array {items printed : List Operand}
    (reads : ∀ item ∈ items,
      ReadsPrinted (fun input => (readToken level input).map (·.map Token.nestedValue)) item)
    (h : Operand.printedItems? items = some printed) :
    (readTokenWith (nestedReader (level + 1)) ((Operand.array items).bytes ++ rest)).outcome
      = .ok (.operand (.array printed), rest) := by
  rw [Operand.bytes, List.cons_append, List.cons_append, List.append_assoc, readTokenWith_outcome,
    if_neg (by decide), if_neg (by simp), if_neg (by decide), if_pos rfl, nestedReader,
    List.singleton_append]
  simp only
  rw [readItems_congr _ (skipBlanks_joinTexts _ _), readItems_flatMap reads h]
  rfl

theorem readTokenWith_dictionary {entries printed : List (String × Operand)}
    (reads : ∀ entry ∈ entries,
      ReadsPrinted (fun input => (readToken level input).map (·.map Token.nestedValue)) entry.2)
    (h : Operand.printedEntries? entries = some printed) :
    (readTokenWith (nestedReader (level + 1)) ((Operand.dictionary entries).bytes ++ rest)).outcome
      = .ok (.operand (.dictionary printed), rest) := by
  rw [Operand.bytes, List.cons_append, List.cons_append, List.cons_append, List.append_assoc,
    readTokenWith_outcome, if_neg (by decide), if_pos (by simp), nestedReader]
  simp only [List.cons_append, List.nil_append]
  rw [List.drop_one, List.tail_cons, readEntries_congr _ (skipBlanks_joinTexts _ _),
    readEntries_flatMap reads h]
  rfl

end Forms

/-- An operand that does not nest too deep is read back in front of anything that ends a token. -/
theorem readToken_bytes {levels : ℕ} {operand printed : Operand} {rest : Bytes}
    (shallow : operand.depth ≤ levels) (h : operand.printed? = some printed)
    (ends : EndsToken rest) :
    (readToken levels (operand.bytes ++ rest)).outcome = .ok (.operand printed, rest) := by
  -- On the levels of nesting that are left: an array needs one level less for its elements.
  induction levels using Nat.strong_induction_on generalizing operand printed rest with
  | _ levels ih =>
    rw [readToken_eq]
    cases operand with
    | integer value =>
      cases h
      rw [Operand.bytes, Numeral.integerText_eq_text,
        readTokenWith_numeral (Numeral.written_ofInt value.toInt) _ ends, Numeral.operand?_ofInt]
    | real value =>
      obtain ⟨sign, whole, places, text, written, -⟩ := numberText_eq_text value
      rw [Operand.printed?, Operand.ofPrinted?_eq text written] at h
      rw [Operand.bytes, text, readTokenWith_numeral written _ ends, h]
    | name text =>
      cases h
      exact readTokenWith_name _ text ends
    | literal bytes =>
      cases h
      exact readTokenWith_literal _ bytes
    | hex bytes =>
      cases h
      exact readTokenWith_hex _ bytes
    | array items =>
      obtain ⟨level, rfl⟩ := Nat.exists_eq_add_of_le' ((Nat.le_add_left 1 _).trans shallow)
      rw [Operand.printed?, Option.map_eq_some_iff] at h
      obtain ⟨printed_items, items_printed, rfl⟩ := h
      refine readTokenWith_array (fun item member => readsPrinted_nested
        fun item_printed ends => ?_) items_printed
      have nested := (Operand.depth_le_depthOfItems member).trans (Nat.le_of_succ_le_succ shallow)
      exact ih level (Nat.lt_succ_self level) nested item_printed ends
    | boolean value =>
      cases h
      exact readTokenWith_boolean _ value ends
    | null =>
      cases h
      exact readTokenWith_null _ ends
    | dictionary entries =>
      obtain ⟨level, rfl⟩ := Nat.exists_eq_add_of_le' ((Nat.le_add_left 1 _).trans shallow)
      rw [Operand.printed?, Option.map_eq_some_iff] at h
      obtain ⟨printed_entries, entries_printed, rfl⟩ := h
      refine readTokenWith_dictionary (fun entry member => readsPrinted_nested
        fun item_printed ends => ?_) entries_printed
      have nested := (Operand.depth_le_depthOfEntries member).trans (Nat.le_of_succ_le_succ shallow)
      exact ih level (Nat.lt_succ_self level) nested item_printed ends

/-! ## Operands that can be read back -/

/-- A finite number of magnitude below `2 ^ 63`. -/
def Double.Moderate (x : Double) : Prop := x.isFinite = true ∧ |x.toRat| < 2 ^ 63

instance (x : Double) : Decidable x.Moderate :=
  inferInstanceAs (Decidable (x.isFinite = true ∧ |x.toRat| < 2 ^ 63))

namespace Operand

mutual

/-- An operand whose numbers with a fraction are moderate can be read back. -/
theorem isSome_printed? : ∀ operand : Operand, (∀ x ∈ operand.reals, x.Moderate) →
    operand.printed?.isSome = true
  | .integer _, _ | .name _, _ | .literal _, _ | .hex _, _ | .boolean _, _ | .null, _ => rfl
  | .real value, moderate => by
    obtain ⟨finite, small⟩ := moderate value (by simp [reals])
    exact isSome_ofPrinted? finite small
  | .array items, moderate => by
    rw [printed?, Option.isSome_map]
    exact isSome_printedItems? items moderate
  | .dictionary entries, moderate => by
    rw [printed?, Option.isSome_map]
    exact isSome_printedEntries? entries moderate

theorem isSome_printedItems? : ∀ items : List Operand, (∀ x ∈ realsOfItems items, x.Moderate) →
    (printedItems? items).isSome = true
  | [], _ => rfl
  | item :: items, moderate => by
    rw [realsOfItems] at moderate
    obtain ⟨first, first_printed⟩ := Option.isSome_iff_exists.1
      (isSome_printed? item fun x member => moderate x (List.mem_append_left _ member))
    obtain ⟨following, items_printed⟩ := Option.isSome_iff_exists.1
      (isSome_printedItems? items fun x member => moderate x (List.mem_append_right _ member))
    rw [printedItems?, first_printed, items_printed]
    rfl

theorem isSome_printedEntries? : ∀ entries : List (String × Operand),
    (∀ x ∈ realsOfEntries entries, x.Moderate) → (printedEntries? entries).isSome = true
  | [], _ => rfl
  | (key, value) :: entries, moderate => by
    rw [realsOfEntries] at moderate
    obtain ⟨first, first_printed⟩ := Option.isSome_iff_exists.1
      (isSome_printed? value fun x member => moderate x (List.mem_append_left _ member))
    obtain ⟨following, entries_printed⟩ := Option.isSome_iff_exists.1
      (isSome_printedEntries? entries fun x member => moderate x (List.mem_append_right _ member))
    rw [printedEntries?, first_printed, entries_printed]
    rfl

end

end Operand

end Preflight
