import Mathlib
import Preflight.Proofs.NameScan
import Preflight.Proofs.WrittenOperators

/-!
# Names of a converted stream

A name is kept as a text. It is written with the bytes that encode this text, which are the bytes
that were read exactly if those encode a text at all: bytes that do not are replaced.
-/

namespace Preflight

open Reading

/-! ## Pieces that are written -/

section Pieces

variable {rest : Bytes}

theorem readPiece_nameText (name : String) (ends : EndsToken rest) :
    pieceOutcome (readPiece (nameText name ++ rest)) = some (.name (Utf8.encode name), rest) := by
  rw [nameText, List.cons_append, readPiece_token rfl]
  change some (Piece.name (unescapeName (readRawName _).1), (readRawName _).2) = _
  rw [readRawName_text _ ends, unescapeName_flatMap]

theorem readPiece_literal (bytes : Bytes) :
    pieceOutcome (readPiece ((Operand.literal bytes).bytes ++ rest)) = some (.value, rest) := by
  rw [Operand.bytes, List.cons_append, List.cons_append, List.append_assoc, readPiece_token rfl,
    pieceAt, if_pos rfl, List.singleton_append, readLiteral_text]
  rfl

theorem readPiece_hex (bytes : Bytes) :
    pieceOutcome (readPiece ((Operand.hex bytes).bytes ++ rest)) = some (.value, rest) := by
  rw [Operand.bytes, List.cons_append, List.cons_append, List.append_assoc, readPiece_token rfl,
    pieceAt, if_neg (by decide), if_neg, if_pos rfl, List.singleton_append, readHexDigits_text]
  · rfl
  · rintro ⟨-, bracket⟩
    exact head?_flatMap_hexPair bytes rest bracket

theorem readPiece_numeral {n : Numeral} (written : n.Written) (ends : EndsToken rest) :
    pieceOutcome (readPiece (n.text ++ rest)) = some (.value, rest) := by
  have read := Numeral.read_text_append written ends
  obtain ⟨b, text, cons, first⟩ := Numeral.isNumberByte_head written
  rw [cons, List.cons_append] at read ⊢
  rw [readPiece_number (isNumberByte_of_isDigit first).1, read]

theorem readPiece_word {text : String} (word : IsWord text) (ends : EndsToken rest) :
    pieceOutcome (readPiece (Utf8.encode text ++ rest)) = some (.word (Utf8.encode text), rest) := by
  obtain ⟨b, bytes, cons, first, further⟩ := word
  obtain ⟨taken, dropped⟩ := span_append further ends.not_keywordRest
  rw [cons, List.cons_append, readPiece_keyword first, taken, dropped]

end Pieces

/-! ## Operands that are written -/

theorem scanNames_space (place : ScanPlace) (rest : Bytes) :
    scanNames place (0x20 :: rest) = scanNames place rest :=
  scanNames_congr (skipBlanks_blank rfl rest)

/-- The words for truth values. -/
theorem exists_word_of_boolean (value : Bool) :
    ∃ text, IsWord text ∧ (Operand.boolean value).bytes = Utf8.encode text ∧
      Token.ofWord (Utf8.encode text) = .operand (.boolean value) := by
  cases value with
  | true =>
    have word : IsWord "true" := ⟨0x74, [0x72, 0x75, 0x65], rfl, rfl, List.all_eq_true.1 rfl⟩
    refine ⟨"true", word, ?_, ?_⟩
    · rw [Operand.bytes]
      rfl
    · rw [Token.ofWord, Utf8.decode_encode]
      rfl
  | false =>
    have word : IsWord "false" := ⟨0x66, [0x61, 0x6C, 0x73, 0x65], rfl, rfl, List.all_eq_true.1 rfl⟩
    refine ⟨"false", word, ?_, ?_⟩
    · rw [Operand.bytes]
      rfl
    · rw [Token.ofWord, Utf8.decode_encode]
      rfl

/-- The word for nothing. -/
theorem exists_word_of_null :
    ∃ text, IsWord text ∧ Operand.null.bytes = Utf8.encode text ∧
      Token.ofWord (Utf8.encode text) = .operand .null := by
  have word : IsWord "null" := ⟨0x6E, [0x75, 0x6C, 0x6C], rfl, rfl, List.all_eq_true.1 rfl⟩
  refine ⟨"null", word, ?_, ?_⟩
  · rw [Operand.bytes]
    rfl
  · rw [Token.ofWord, Utf8.decode_encode]
    rfl

/-- The bytes of names that are written. -/
def encodeNames (names : List String) : List Bytes := names.map Utf8.encode

theorem encodeNames_append (names more : List String) :
    encodeNames (names ++ more) = encodeNames names ++ encodeNames more := List.map_append

mutual

/-- The names of an operand are found in its bytes. -/
theorem scanNames_bytes : ∀ (operand : Operand) {place : ScanPlace} {rest : Bytes},
    place ≠ .imageKey → EndsToken rest → scanNames place (operand.bytes ++ rest)
      = consNames (encodeNames operand.names) (scanNames place.next rest)
  | .integer value, place, rest, other, ends => by
    rw [Operand.bytes, Numeral.integerText_eq_text]
    exact scanNames_value (readPiece_numeral (Numeral.written_ofInt value.toInt) ends)
  | .real value, place, rest, other, ends => by
    obtain ⟨sign, whole, places, text, written, -⟩ := numberText_eq_text value
    rw [Operand.bytes, text]
    exact scanNames_value (readPiece_numeral written ends)
  | .name text, place, rest, other, ends => scanNames_name (readPiece_nameText text ends)
  | .literal bytes, place, rest, other, ends => scanNames_value (readPiece_literal bytes)
  | .hex bytes, place, rest, other, ends => scanNames_value (readPiece_hex bytes)
  | .boolean value, place, rest, other, ends => by
    obtain ⟨text, word, bytes, denotes⟩ := exists_word_of_boolean value
    rw [bytes]
    exact scanNames_wordValue (readPiece_word word ends) other denotes
  | .null, place, rest, other, ends => by
    obtain ⟨text, word, bytes, denotes⟩ := exists_word_of_null
    rw [bytes]
    exact scanNames_wordValue (readPiece_word word ends) other denotes
  | .array items, place, rest, other, ends => by
    have piece : pieceOutcome (readPiece ((Operand.array items).bytes ++ rest))
        = some (.opening, joinTexts 0x20 (Operand.itemBytes items) ++ 0x5D :: rest) := by
      rw [Operand.bytes, List.cons_append, List.cons_append, List.append_assoc, readPiece_token rfl]
      rfl
    have closing : pieceOutcome (readPiece (0x5D :: rest)) = some (.closing, rest) := by
      rw [readPiece_outcome, skipBlanks_token rfl (by decide)]
      rfl
    have inner := place.isInner_opened
    rw [scanNames_opening piece, scanNames_congr (skipBlanks_joinTexts _ _),
      scanNames_itemBytes items (ScanPlace.ne_imageKey_of_isInner inner)
        (ScanPlace.next_of_isInner inner) (by simp [EndsToken]; rfl),
      scanNames_closing closing, ScanPlace.closed_opened other]
    rfl
  | .dictionary entries, place, rest, other, ends => by
    have piece : pieceOutcome (readPiece ((Operand.dictionary entries).bytes ++ rest))
        = some (.opening, joinTexts 0x20 (Operand.entryBytes entries) ++ 0x3E :: 0x3E :: rest) := by
      rw [Operand.bytes, List.cons_append, List.cons_append, List.cons_append, List.append_assoc,
        readPiece_token rfl]
      rfl
    have closing : pieceOutcome (readPiece (0x3E :: 0x3E :: rest)) = some (.angle, 0x3E :: rest) := by
      rw [readPiece_outcome, skipBlanks_token rfl (by decide)]
      rfl
    have inner := place.isInner_opened
    rw [scanNames_opening piece, scanNames_congr (skipBlanks_joinTexts _ _),
      scanNames_entryBytes entries (ScanPlace.ne_imageKey_of_isInner inner)
        (ScanPlace.next_of_isInner inner) (by simp [EndsToken]; rfl),
      scanNames_angle closing, if_pos inner, List.drop_one, List.tail_cons,
      ScanPlace.closed_opened other]
    rfl

/-- The names of several operands are found in their bytes. -/
theorem scanNames_itemBytes : ∀ (items : List Operand) {place : ScanPlace} {rest : Bytes},
    place ≠ .imageKey → place.next = place → EndsToken rest →
    scanNames place ((Operand.itemBytes items).flatMap (0x20 :: ·) ++ rest)
      = consNames (encodeNames (Operand.namesOfItems items)) (scanNames place rest)
  | [], place, rest, other, stays, ends => rfl
  | item :: items, place, rest, other, stays, ends => by
    rw [Operand.itemBytes, List.flatMap_cons, List.append_assoc, List.cons_append, scanNames_space,
      scanNames_bytes item other (endsToken_flatMap _ ends), stays,
      scanNames_itemBytes items other stays ends, ← consNames_append, ← encodeNames_append]
    rfl

/-- The keys of entries and the names of their values are found in their bytes. -/
theorem scanNames_entryBytes : ∀ (entries : List (String × Operand)) {place : ScanPlace}
    {rest : Bytes}, place ≠ .imageKey → place.next = place → EndsToken rest →
    scanNames place ((Operand.entryBytes entries).flatMap (0x20 :: ·) ++ rest)
      = consNames (encodeNames (Operand.namesOfEntries entries)) (scanNames place rest)
  | [], place, rest, other, stays, ends => rfl
  | (key, value) :: entries, place, rest, other, stays, ends => by
    rw [Operand.entryBytes, List.flatMap_cons, List.append_assoc, List.cons_append, scanNames_space,
      List.append_assoc, List.cons_append,
      scanNames_name (readPiece_nameText key (EndsToken.space _)), stays, scanNames_space,
      scanNames_bytes value other (endsToken_flatMap _ ends), stays,
      scanNames_entryBytes entries other stays ends, ← consNames_append, ← encodeNames_append]
    rfl

end

/-! ## Operators that are written -/

/-- A keyword that is written ends the names of its operator, or begins an inline image. -/
theorem scanNames_encode {name : String} (keyword : IsKeyword name) {rest : Bytes}
    (ends : EndsToken rest) :
    scanNames (.operands 0) (Utf8.encode name ++ rest)
      = if name = "BI" then scanNames .imageKey rest else [] :: scanNames (.operands 0) rest := by
  obtain ⟨not_true, not_false, not_null⟩ := keyword.other
  refine scanNames_keyword (readPiece_word keyword.word ends) ?_
  simp only [Token.ofWord, Utf8.decode_encode, not_true, not_false, not_null, if_false]

/-- The keys of an inline image and the names in its values are found in their bytes. -/
theorem scanNames_imageEntries {entries : List Operand} (keyed : ImageEntries entries) {rest : Bytes}
    (ends : EndsToken rest) :
    scanNames .imageKey ((Operand.itemBytes entries).flatMap (0x20 :: ·) ++ rest)
      = consNames (encodeNames (Operand.namesOfItems entries)) (scanNames .imageKey rest) := by
  induction keyed with
  | nil => rfl
  | @cons key value entries shallow following ih =>
    have after := endsToken_flatMap (Operand.itemBytes entries) ends
    have value_found := scanNames_bytes value (show .imageValue 0 ≠ ScanPlace.imageKey by simp) after
    rw [Operand.itemBytes, Operand.itemBytes, List.flatMap_cons, List.flatMap_cons,
      List.append_assoc, List.append_assoc, List.cons_append, List.cons_append, scanNames_space,
      Operand.bytes, scanNames_name (readPiece_nameText key (EndsToken.space _)), scanNames_space]
    simp only [ScanPlace.next] at value_found ⊢
    rw [value_found, ih, ← consNames_append, ← encodeNames_append]
    rfl

/-- The names of an operator as it is read are found in its bytes. -/
theorem scanNames_operatorBytes {operator : Operator} (readable : operator.IsReadable) {rest : Bytes}
    (ends : EndsToken rest) :
    scanNames (.operands 0) (operator.bytes ++ rest)
      = encodeNames operator.names :: scanNames (.operands 0) rest := by
  rcases readable with plain | ⟨entries, samples, rfl, keyed, data⟩
  · have keyword := scanNames_encode plain.keyword ends
    rw [if_neg plain.name_ne] at keyword
    rw [Operator.bytes_of_name_ne plain.name_ne, scanNames_congr (skipBlanks_joinTexts _ _),
      List.flatMap_append, List.append_assoc, List.flatMap_singleton, List.cons_append,
      scanNames_itemBytes operator.operands (by simp) rfl (EndsToken.space _), scanNames_space,
      keyword, consNames_cons, List.append_nil]
    rfl
  · have piece : pieceOutcome (readPiece (0x20 :: 0x49 :: 0x44 :: 0x20 ::
        (samples ++ 0x0A :: 0x45 :: 0x49 :: rest)))
          = some (.word [0x49, 0x44], 0x20 :: (samples ++ 0x0A :: 0x45 :: 0x49 :: rest)) := by
      rw [readPiece_outcome, skipBlanks_blank rfl, skipBlanks_token rfl (by decide)]
      rfl
    have image := scanNames_encode isKeyword_image (endsToken_flatMap (Operand.itemBytes entries)
      (EndsToken.space (0x49 :: 0x44 :: 0x20 :: (samples ++ 0x0A :: 0x45 :: 0x49 :: rest))))
    rw [if_pos rfl] at image
    rw [Operator.bytes_image, image, scanNames_imageEntries keyed (EndsToken.space _),
      scanNames_imageData piece (data ends), consNames_cons, List.append_nil]
    simp [Operator.names, Operand.namesOfItems, Operand.names]

/-- The names of a stream with an operator on each line. -/
theorem streamNames_lines {operators : List Operator}
    (readable : ∀ operator ∈ operators, operator.IsReadable) :
    streamNames (operators.flatMap fun operator => operator.bytes ++ [0x0A])
      = operators.map fun operator => encodeNames operator.names := by
  unfold streamNames
  induction operators with
  | nil => rw [List.flatMap_nil, scanNames_eq, readPiece_outcome, skipBlanks_nil]; rfl
  | cons operator operators ih =>
    have ends (rest : Bytes) : EndsToken (0x0A :: rest) := by simp [EndsToken]; rfl
    rw [List.flatMap_cons, List.append_assoc, List.singleton_append,
      scanNames_operatorBytes (readable operator List.mem_cons_self) (ends _),
      scanNames_congr (skipBlanks_blank rfl _),
      ih fun other member => readable other (List.mem_cons_of_mem _ member), List.map_cons]

/-! ## Converted streams -/

/-- A number has no names. -/
theorem Operand.names_of_number? {operand : Operand} {number : Double}
    (h : operand.number? = some number) : operand.names = [] := by
  cases operand with
  | integer | real => rfl
  | name | literal | hex | array | boolean | null | dictionary => cases h

/-- An operator that sets a device color has no names. -/
theorem Operator.SetsDeviceColor.names {operator : Operator} {color : Color}
    (sets : operator.SetsDeviceColor color) : operator.names = [] := by
  cases sets with
  | gray named level =>
    simp [Operator.names, Operand.namesOfItems, Operand.names_of_number? level]
  | rgb named red green blue =>
    simp [Operator.names, Operand.namesOfItems, Operand.names_of_number? red,
      Operand.names_of_number? green, Operand.names_of_number? blue]
  | cmyk named cyan magenta yellow black =>
    simp [Operator.names, Operand.namesOfItems, Operand.names_of_number? cyan,
      Operand.names_of_number? magenta, Operand.names_of_number? yellow,
      Operand.names_of_number? black]

namespace Converter

variable {converter : Converter}

/-- What is written in the place of an operator has its names. -/
theorem Written.names {operator written : Operator} (h : converter.Written operator written) :
    written.names = operator.names := by
  cases h with
  | deviceColor named sets =>
    rw [sets.names]
    rfl
  | other => rfl

variable (converter)

/-- The names of a converted stream are those of the original one, operator by operator, each written
as the bytes of the text that stands for it: the same bytes exactly if these are those of a text. -/
theorem streamNames_convertContent (limit : ℕ) {content out : Bytes}
    (h : converter.convertContent limit content = .ok out) :
    List.Forall₂ (fun operator names => operator.names = names.map Utf8.decode)
        (readOperators content).operators (streamNames content) ∧
      streamNames out = (streamNames content).map
        (·.map fun name => Utf8.encode (Utf8.decode name)) ∧
      ∀ name : Bytes, Utf8.encode (Utf8.decode name) = name ↔ ∃ text, Utf8.encode text = name := by
  obtain ⟨lines, obeyed, -⟩ := bind_eq_ok.1 h
  obtain ⟨-, ended, -⟩ := obeyOperators_eq_ok.1 obeyed
  obtain ⟨written, rfl, readable, each⟩ := converter.exists_written_of_convertContent h
  have read := streamNames_readOperators ended
  refine ⟨read, ?_, fun name => ⟨fun same => ⟨_, same⟩, ?_⟩⟩
  · rw [streamNames_lines readable]
    clear readable obeyed ended h
    generalize (readOperators content).operators = operators at each read
    generalize streamNames content = names at read ⊢
    induction each generalizing names with
    | nil =>
      cases read
      rfl
    | cons first _ ih =>
      cases read with
      | cons texts following =>
        rw [List.map_cons, List.map_cons, ih _ following, first.names, texts, encodeNames,
          List.map_map]
        rfl
  · rintro ⟨text, rfl⟩
    rw [Utf8.decode_encode]

theorem streamNames_convertContent_escaped :
    List.Forall₂ (fun operator names => operator.names = names.map Utf8.decode)
        (readOperators (Bytes.ofLatin "/F#31 12 Tf [/A#20B <</K c>>] TJ /#FF gs")).operators
        (streamNames (Bytes.ofLatin "/F#31 12 Tf [/A#20B <</K c>>] TJ /#FF gs")) ∧
      streamNames (Bytes.ofLatin "/F1 12 Tf\n[/A#20B <</K /c>>] TJ\n/#EF#BF#BD gs\n")
        = (streamNames (Bytes.ofLatin "/F#31 12 Tf [/A#20B <</K c>>] TJ /#FF gs")).map
          (·.map fun name => Utf8.encode (Utf8.decode name)) ∧
      ∀ name : Bytes, Utf8.encode (Utf8.decode name) = name ↔ ∃ text, Utf8.encode text = name :=
  blackInk.streamNames_convertContent 100 (by decide +kernel)

/-- A name of a byte that is no text. -/
theorem streamNames_convertContent_ne :
    ¬∀ (converter : Converter) (limit : ℕ) (content out : Bytes),
      converter.convertContent limit content = .ok out →
        streamNames out = streamNames content := by
  intro claim
  have written : blackInk.convertContent 100 (Bytes.ofLatin "/#FF gs")
      = .ok (Bytes.ofLatin "/#EF#BF#BD gs\n") := by decide +kernel
  have read : streamNames (Bytes.ofLatin "/#FF gs") = [[[0xFF]]] := by decide +kernel
  have changed : streamNames (Bytes.ofLatin "/#EF#BF#BD gs\n") = [[[0xEF, 0xBF, 0xBD]]] := by
    decide +kernel
  have same := claim _ _ _ _ written
  rw [read, changed] at same
  cases same

end Converter

end Preflight
