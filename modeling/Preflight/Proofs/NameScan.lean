import Mathlib
import Preflight.Proofs.ReadableOperators

/-!
# The names of a stream by a plain scan

The bytes that the names of a content stream denote are found without reading operands: pieces are
taken off the front one after the other, and only the depth of brackets and the progress in an inline
image are kept. Where a stream can be read, the names of each operator that is read are the texts of
the bytes that the scan finds for it.
-/

namespace Preflight

open Reading

/-! ## Names of operators -/

namespace Operand

mutual

/-- The names in an operand at any depth, with the keys of dictionaries, in stream order. -/
def names : Operand → List String
  | name text => [text]
  | array items => namesOfItems items
  | dictionary entries => namesOfEntries entries
  | _ => []

/-- The names in several operands. -/
def namesOfItems : List Operand → List String
  | [] => []
  | item :: items => names item ++ namesOfItems items

/-- The keys of entries and the names in their values. -/
def namesOfEntries : List (String × Operand) → List String
  | [] => []
  | (key, value) :: entries => key :: (names value ++ namesOfEntries entries)

end

end Operand

/-- The names that belong to an operator. -/
def Operator.names (operator : Operator) : List String := Operand.namesOfItems operator.operands

/-! ## Pieces -/

/-- A piece of a stream, as far as it matters where names stand. -/
inductive Piece where
  /-- The bytes that a name denotes. -/
  | name (bytes : Bytes)
  | word (bytes : Bytes)
  /-- A number or a string. -/
  | value
  | opening
  | closing
  /-- A closing angle bracket, of which two close a dictionary. -/
  | angle
  /-- A byte that has no meaning. -/
  | other

theorem length_le_of_skipBlanks {input rest : Bytes} {b : UInt8}
    (skipped : skipBlanks input = b :: rest) : rest.length ≤ input.length :=
  (length_lt_of_skipBlanks skipped).le

theorem length_drop_lt_of_skipBlanks {input rest : Bytes} {b : UInt8}
    (skipped : skipBlanks input = b :: rest) : (rest.drop 1).length < input.length :=
  (List.drop_sublist 1 rest).length_le.trans_lt (length_lt_of_skipBlanks skipped)

/-- The piece at the front after blanks. There is none at the end or where a string has no end. -/
def readPiece (input : Bytes) : Option (Parsed Piece input) :=
  match skipped : skipBlanks input with
  | [] => none
  | b :: rest =>
    have shorter := length_lt_of_skipBlanks skipped
    if b == 0x28 then
      (readLiteral 0 rest).toOption.map fun parsed =>
        (parsed.map fun _ => .value).widen (length_le_of_skipBlanks skipped)
    else if b == 0x3C && rest.head? == some 0x3C then
      some ⟨.opening, rest.drop 1, length_drop_lt_of_skipBlanks skipped⟩
    else if b == 0x3C then
      (readHexDigits rest).toOption.map fun parsed =>
        (parsed.map fun _ => .value).widen (length_le_of_skipBlanks skipped)
    else if b == 0x5B then some ⟨.opening, rest, shorter⟩
    else if b == 0x5D then some ⟨.closing, rest, shorter⟩
    else if b == 0x3E then some ⟨.angle, rest, shorter⟩
    else if b == 0x2F then
      some ⟨.name (unescapeName (readRawName rest).1), (readRawName rest).2,
        Nat.lt_of_le_of_lt (length_readName_le rest) shorter⟩
    else if h : isNumberByte b = true then
      some ⟨.value, (Numeral.read (b :: rest)).2,
        Nat.lt_of_lt_of_le (length_numeralRead_lt rest h) shorter⟩
    else if isKeywordByte b then
      some ⟨.word (b :: rest.takeWhile isKeywordRest), rest.dropWhile isKeywordRest,
        Nat.lt_of_le_of_lt (List.dropWhile_sublist isKeywordRest).length_le shorter⟩
    else some ⟨.other, rest, shorter⟩

/-! ## Places -/

/-- Where a scan stands. -/
inductive ScanPlace where
  /-- Among the operands of an operator, within so many brackets. -/
  | operands (depth : ℕ)
  /-- Before a key of an inline image. -/
  | imageKey
  /-- In a value of an inline image, within so many brackets. -/
  | imageValue (depth : ℕ)

namespace ScanPlace

/-- The place after a value or a key. -/
def next : ScanPlace → ScanPlace
  | imageKey => imageValue 0
  | imageValue 0 => imageKey
  | place => place

/-- The place after an opening bracket. -/
def opened : ScanPlace → ScanPlace
  | operands depth => operands (depth + 1)
  | imageKey => imageValue 1
  | imageValue depth => imageValue (depth + 1)

/-- The place after a closing bracket. -/
def closed : ScanPlace → ScanPlace
  | operands (depth + 1) => operands depth
  | imageValue (depth + 1) => (imageValue depth).next
  | place => place

/-- Whether the place is within brackets. -/
def isInner : ScanPlace → Bool
  | operands (_ + 1) | imageValue (_ + 1) => true
  | _ => false

/-- Whether a word that stands for no value is a name there. -/
def takesWord : ScanPlace → Bool
  | operands 0 | imageKey => false
  | _ => true

theorem next_of_isInner {place : ScanPlace} (h : place.isInner = true) : place.next = place := by
  unfold isInner at h
  split at h
  · rfl
  · rfl
  · cases h

theorem takesWord_of_isInner {place : ScanPlace} (h : place.isInner = true) :
    place.takesWord = true := by
  unfold isInner at h
  split at h
  · rfl
  · rfl
  · cases h

theorem ne_imageKey_of_isInner {place : ScanPlace} (h : place.isInner = true) :
    place ≠ imageKey := by
  rintro rfl
  cases h

theorem isInner_opened (place : ScanPlace) : place.opened.isInner = true := by
  cases place <;> rfl

theorem closed_opened {place : ScanPlace} (h : place ≠ imageKey) :
    place.opened.closed = place.next := by
  cases place with
  | operands => rfl
  | imageKey => exact absurd rfl h
  | imageValue => rfl

end ScanPlace

/-! ## The scan -/

/-- Another name before those of the first operator. -/
def consName (name : Bytes) : List (List Bytes) → List (List Bytes)
  | [] => [[name]]
  | names :: following => (name :: names) :: following

/-- The bytes that the names of a stream denote, for one operator after the other, from a place on.
Names belong to the next operator, and those of an inline image to it. -/
def scanNames (place : ScanPlace) (input : Bytes) : List (List Bytes) :=
  match readPiece input with
  | none => []
  | some ⟨.name bytes, rest, _⟩ => consName bytes (scanNames place.next rest)
  | some ⟨.value, rest, _⟩ => scanNames place.next rest
  | some ⟨.opening, rest, _⟩ => scanNames place.opened rest
  | some ⟨.closing, rest, _⟩ => scanNames place.closed rest
  | some ⟨.angle, rest, shorter⟩ =>
    if place.isInner then
      have := Nat.lt_of_le_of_lt (List.drop_sublist 1 rest).length_le shorter
      scanNames place.closed (rest.drop 1)
    else scanNames place rest
  | some ⟨.other, rest, _⟩ => scanNames place rest
  | some ⟨.word bytes, rest, shorter⟩ =>
    match place, Token.ofWord bytes with
    | .imageKey, _ =>
      match data : splitImageData true (rest.drop 1) with
      | none => []
      | some (_, after) =>
        have := Nat.lt_trans (length_splitImageData_lt data)
          (Nat.lt_of_le_of_lt (List.drop_sublist 1 rest).length_le shorter)
        [] :: scanNames (.operands 0) after
    | place, .operand _ => scanNames place.next rest
    | .operands 0, .keyword word =>
      if word = "BI" then scanNames .imageKey rest else [] :: scanNames (.operands 0) rest
    | place, .keyword _ => consName bytes (scanNames place.next rest)
termination_by input.length
decreasing_by all_goals assumption

/-- The bytes that the names of a stream denote, for one operator after the other. -/
def streamNames (content : Bytes) : List (List Bytes) := scanNames (.operands 0) content

/-! ## Steps of the scan -/

/-- A piece with what follows it, without the promise that this is shorter. -/
def pieceOutcome {input : Bytes} (piece? : Option (Parsed Piece input)) : Option (Piece × Bytes) :=
  piece?.map fun parsed => (parsed.value, parsed.rest)

theorem pieceOutcome_ite {input : Bytes} {c d : Prop} [Decidable c] [Decidable d]
    {yes no : Option (Parsed Piece input)} {yes' no' : Option (Piece × Bytes)} (h : c ↔ d)
    (yes_eq : pieceOutcome yes = yes') (no_eq : pieceOutcome no = no') :
    pieceOutcome (if c then yes else no) = if d then yes' else no' := by
  rw [apply_ite pieceOutcome, yes_eq, no_eq]
  exact if_congr h rfl rfl

/-- The piece that begins with a byte, and what follows it. -/
def pieceAt (b : UInt8) (rest : Bytes) : Option (Piece × Bytes) :=
  if b = 0x28 then (readLiteral 0 rest).outcome.toOption.map fun read => (.value, read.2)
  else if b = 0x3C ∧ rest.head? = some 0x3C then some (.opening, rest.drop 1)
  else if b = 0x3C then (readHexDigits rest).outcome.toOption.map fun read => (.value, read.2)
  else if b = 0x5B then some (.opening, rest)
  else if b = 0x5D then some (.closing, rest)
  else if b = 0x3E then some (.angle, rest)
  else if b = 0x2F then some (.name (unescapeName (readRawName rest).1), (readRawName rest).2)
  else if isNumberByte b = true then some (.value, (Numeral.read (b :: rest)).2)
  else if isKeywordByte b = true then
    some (.word (b :: rest.takeWhile isKeywordRest), rest.dropWhile isKeywordRest)
  else some (.other, rest)

theorem readPiece_outcome (input : Bytes) :
    pieceOutcome (readPiece input) =
      match skipBlanks input with
      | [] => none
      | b :: rest => pieceAt b rest := by
  unfold readPiece
  split
  · next skipped =>
    simp only [skipped]
    rfl
  · next b rest skipped =>
    simp only [skipped, pieceAt]
    -- The first byte decides, in the same order.
    refine pieceOutcome_ite beq_iff_eq ?_ ?_
    · rcases readLiteral 0 rest with stop | parsed <;> rfl
    refine pieceOutcome_ite (by simp) rfl ?_
    refine pieceOutcome_ite beq_iff_eq ?_ ?_
    · rcases readHexDigits rest with stop | parsed <;> rfl
    refine pieceOutcome_ite beq_iff_eq rfl ?_
    refine pieceOutcome_ite beq_iff_eq rfl ?_
    refine pieceOutcome_ite beq_iff_eq rfl ?_
    refine pieceOutcome_ite beq_iff_eq rfl ?_
    by_cases number : isNumberByte b = true
    · rw [dif_pos number, if_pos number]
      rfl
    · rw [dif_neg number, if_neg number]
      exact pieceOutcome_ite Iff.rfl rfl rfl

/-- Where a token begins there are no blanks before the piece. -/
theorem readPiece_token {b : UInt8} {rest : Bytes} (begins : isTokenByte b = true) :
    pieceOutcome (readPiece (b :: rest)) = pieceAt b rest := by
  obtain ⟨blank, comment, -⟩ := isBlank_of_isTokenByte b begins
  rw [readPiece_outcome, skipBlanks_token blank comment]

theorem readPiece_number {b : UInt8} {rest : Bytes} (first : isNumberByte b = true) :
    pieceOutcome (readPiece (b :: rest)) = some (.value, (Numeral.read (b :: rest)).2) := by
  have apart {c : UInt8} (other : isNumberByte c = false) : b ≠ c := by
    rintro rfl
    exact absurd first (ne_true_of_eq_false other)
  rw [readPiece_token (by simp only [isTokenByte, first, Bool.or_true, Bool.true_or]), pieceAt,
    if_neg (apart rfl), if_neg (fun both => apart rfl both.1), if_neg (apart rfl), if_neg (apart rfl),
    if_neg (apart rfl), if_neg (apart rfl), if_neg (apart rfl), if_pos first]

theorem readPiece_keyword {b : UInt8} {rest : Bytes} (first : isKeywordByte b = true) :
    pieceOutcome (readPiece (b :: rest))
      = some (.word (b :: rest.takeWhile isKeywordRest), rest.dropWhile isKeywordRest) := by
  have apart {c : UInt8} (other : isKeywordByte c = false) : b ≠ c := by
    rintro rfl
    exact absurd first (ne_true_of_eq_false other)
  obtain ⟨number, -⟩ := isNumberByte_of_isKeywordByte first
  rw [readPiece_token (by simp only [isTokenByte, first, Bool.or_true]), pieceAt,
    if_neg (apart rfl), if_neg (fun both => apart rfl both.1), if_neg (apart rfl), if_neg (apart rfl),
    if_neg (apart rfl), if_neg (apart rfl), if_neg (apart rfl), if_neg (by simp [number]),
    if_pos first]

/-- The scan by its next piece. -/
theorem scanNames_eq (place : ScanPlace) (input : Bytes) :
    scanNames place input =
      match pieceOutcome (readPiece input) with
      | none => []
      | some (.name bytes, rest) => consName bytes (scanNames place.next rest)
      | some (.value, rest) => scanNames place.next rest
      | some (.opening, rest) => scanNames place.opened rest
      | some (.closing, rest) => scanNames place.closed rest
      | some (.angle, rest) =>
        if place.isInner then scanNames place.closed (rest.drop 1) else scanNames place rest
      | some (.other, rest) => scanNames place rest
      | some (.word bytes, rest) =>
        match place, Token.ofWord bytes with
        | .imageKey, _ =>
          match splitImageData true (rest.drop 1) with
          | none => []
          | some (_, after) => [] :: scanNames (.operands 0) after
        | place, .operand _ => scanNames place.next rest
        | .operands 0, .keyword word =>
          if word = "BI" then scanNames .imageKey rest else [] :: scanNames (.operands 0) rest
        | place, .keyword _ => consName bytes (scanNames place.next rest) := by
  rw [scanNames]
  rcases readPiece input with _ | ⟨piece, rest, shorter⟩
  · rfl
  cases piece with
  | name | value | opening | closing | angle | other => rfl
  | word bytes =>
    simp only [pieceOutcome, Option.map_some]
    split
    · split
      · next data => simp only [data]
      · next data => simp only [data]
    · rfl
    · rfl
    · rfl

section Steps

variable {place : ScanPlace} {input rest : Bytes}

theorem scanNames_congr {other : Bytes} (h : skipBlanks input = skipBlanks other) :
    scanNames place input = scanNames place other := by
  rw [scanNames_eq, readPiece_outcome, h, ← readPiece_outcome, ← scanNames_eq]

theorem scanNames_name {bytes : Bytes} (h : pieceOutcome (readPiece input) = some (.name bytes, rest)) :
    scanNames place input = consName bytes (scanNames place.next rest) := by
  rw [scanNames_eq, h]

theorem scanNames_value (h : pieceOutcome (readPiece input) = some (.value, rest)) :
    scanNames place input = scanNames place.next rest := by
  rw [scanNames_eq, h]

theorem scanNames_opening (h : pieceOutcome (readPiece input) = some (.opening, rest)) :
    scanNames place input = scanNames place.opened rest := by
  rw [scanNames_eq, h]

theorem scanNames_closing (h : pieceOutcome (readPiece input) = some (.closing, rest)) :
    scanNames place input = scanNames place.closed rest := by
  rw [scanNames_eq, h]

theorem scanNames_angle (h : pieceOutcome (readPiece input) = some (.angle, rest)) :
    scanNames place input
      = if place.isInner then scanNames place.closed (rest.drop 1) else scanNames place rest := by
  rw [scanNames_eq, h]

/-- A word for a value has no names. -/
theorem scanNames_wordValue {bytes : Bytes} {value : Operand}
    (h : pieceOutcome (readPiece input) = some (.word bytes, rest)) (other : place ≠ .imageKey)
    (word : Token.ofWord bytes = .operand value) :
    scanNames place input = scanNames place.next rest := by
  rw [scanNames_eq, h]
  simp only [word]

/-- Any other word is a name within brackets and in values of inline images. -/
theorem scanNames_wordName {bytes : Bytes} {text : String}
    (h : pieceOutcome (readPiece input) = some (.word bytes, rest)) (takes : place.takesWord = true)
    (word : Token.ofWord bytes = .keyword text) :
    scanNames place input = consName bytes (scanNames place.next rest) := by
  rw [scanNames_eq, h]
  simp only [word]
  cases place with
  | operands depth =>
    cases depth with
    | zero => cases takes
    | succ depth => rfl
  | imageKey => cases takes
  | imageValue depth => rfl

/-- Among operands it ends the operator, or begins an inline image. -/
theorem scanNames_keyword {bytes : Bytes} {text : String}
    (h : pieceOutcome (readPiece input) = some (.word bytes, rest))
    (word : Token.ofWord bytes = .keyword text) :
    scanNames (.operands 0) input
      = if text = "BI" then scanNames .imageKey rest else [] :: scanNames (.operands 0) rest := by
  rw [scanNames_eq, h]
  simp only [word]

/-- In the place of a key of an inline image it is the one before the data. -/
theorem scanNames_imageData {bytes after : Bytes} {samples : Bytes}
    (h : pieceOutcome (readPiece input) = some (.word bytes, rest))
    (data : splitImageData true (rest.drop 1) = some (samples, after)) :
    scanNames .imageKey input = [] :: scanNames (.operands 0) after := by
  rw [scanNames_eq, h]
  simp only [data]

/-- What a byte is not that begins no token. -/
theorem of_not_isTokenByte {b : UInt8} (h : isTokenByte b = false) :
    b ≠ 0x28 ∧ b ≠ 0x3C ∧ b ≠ 0x5B ∧ b ≠ 0x2F ∧ isNumberByte b = false ∧
      isKeywordByte b = false := by
  simpa [isTokenByte, and_assoc] using h

/-- Bytes that begin no token are passed over among operands, except a closing bracket. -/
theorem scanNames_pass {b : UInt8} (skipped : skipBlanks input = b :: rest)
    (other : isTokenByte b = false) (bracket : b ≠ 0x5D) :
    scanNames (.operands 0) input = scanNames (.operands 0) rest := by
  obtain ⟨literal, hex, array, name, number, keyword⟩ := of_not_isTokenByte other
  rw [scanNames_eq, readPiece_outcome, skipped]
  simp only [pieceAt, literal, hex, array, bracket, name, number, keyword, if_false, false_and,
    Bool.false_eq_true]
  by_cases angle : b = 0x3E
  · rw [if_pos angle]
    rfl
  · rw [if_neg angle]

end Steps

/-- Several names before those of the first operator. -/
def consNames (names : List Bytes) (following : List (List Bytes)) : List (List Bytes) :=
  names.foldr consName following

theorem consNames_append (names more : List Bytes) (following : List (List Bytes)) :
    consNames (names ++ more) following = consNames names (consNames more following) := by
  unfold consNames
  rw [List.foldr_append]

theorem consNames_cons (names first : List Bytes) (following : List (List Bytes)) :
    consNames names (first :: following) = (names ++ first) :: following := by
  induction names with
  | nil => rfl
  | cons name names ih =>
    show consName name (consNames names (first :: following)) = _
    rw [ih]
    rfl

/-! ## Names that are read -/

/-- What is found for a value from `input` up to `rest`: the bytes of which its names are the texts. -/
def ScansTo (place next : ScanPlace) (input rest : Bytes) (texts : List String) : Prop :=
  ∃ names, scanNames place input = consNames names (scanNames next rest) ∧
    texts = names.map Utf8.decode

namespace ScansTo

variable {place next : ScanPlace} {input rest : Bytes}

theorem of_eq (h : scanNames place input = scanNames next rest) :
    ScansTo place next input rest [] := ⟨[], h, rfl⟩

theorem of_name {name : Bytes} (h : scanNames place input = consName name (scanNames next rest)) :
    ScansTo place next input rest [Utf8.decode name] := ⟨[name], h, rfl⟩

theorem trans {middle : ScanPlace} {between : Bytes} {texts more : List String}
    (first : ScansTo place middle input between texts)
    (second : ScansTo middle next between rest more) :
    ScansTo place next input rest (texts ++ more) := by
  obtain ⟨names, scanned, rfl⟩ := first
  obtain ⟨others, following, rfl⟩ := second
  exact ⟨names ++ others, by rw [scanned, following, consNames_append], by rw [List.map_append]⟩

end ScansTo

/-- What follows blanks and comments begins with neither. -/
theorem front_of_skipFrom {inComment : Bool} {input rest : Bytes} {b : UInt8}
    (h : skipFrom inComment input = b :: rest) : isBlank b = false ∧ b ≠ 0x25 := by
  induction input generalizing inComment with
  | nil => cases h
  | cons c input ih =>
    rw [skipFrom] at h
    split at h
    · exact ih h
    split at h
    · exact ih h
    split at h
    · exact ih h
    · next blank comment =>
      cases h
      exact ⟨eq_false_of_ne_true blank, by simpa using comment⟩

/-- What is found after the blanks at the front is found. -/
theorem ScansTo.of_skipBlanks {place next : ScanPlace} {input inner rest : Bytes} {b : UInt8}
    {texts : List String} (skipped : skipBlanks input = b :: inner)
    (h : ScansTo place next (b :: inner) rest texts) : ScansTo place next input rest texts := by
  obtain ⟨blank, comment⟩ := front_of_skipFrom skipped
  have same := skipped.trans (skipBlanks_token blank comment inner).symm
  unfold ScansTo at h ⊢
  rwa [scanNames_congr same]

/-- A name is found where one is read. -/
theorem scansTo_name {place : ScanPlace} {input rest : Bytes}
    (skipped : skipBlanks input = 0x2F :: rest) :
    ScansTo place place.next input (readName rest).2 [(readName rest).1] := by
  refine ScansTo.of_name (scanNames_name ?_)
  rw [readPiece_outcome, skipped]
  rfl

/-- The names in the items of an array that is read. -/
theorem scansTo_items {reader : (input : Bytes) → Reading Operand input} {place : ScanPlace}
    (reads : ∀ {input first rest}, (reader input).outcome = .ok (first, rest) →
      ScansTo place place input rest first.names)
    {input rest : Bytes} {items : List Operand} (h : TakesItems reader input items rest) :
    ScansTo place place.closed input rest (Operand.namesOfItems items) := by
  induction h with
  | ended skipped =>
    refine ScansTo.of_eq (scanNames_closing ?_)
    rw [readPiece_outcome, skipped]
    rfl
  | item skipped read _ ih => exact .of_skipBlanks skipped ((reads read).trans ih)

/-- The keys of a dictionary that is read, and the names in its values. -/
theorem scansTo_entries {reader : (input : Bytes) → Reading Operand input} {place : ScanPlace}
    (inner : place.isInner = true)
    (reads : ∀ {input first rest}, (reader input).outcome = .ok (first, rest) →
      ScansTo place place input rest first.names)
    {input rest : Bytes} {entries : List (String × Operand)}
    (h : TakesEntries reader input entries rest) :
    ScansTo place place.closed input rest (Operand.namesOfEntries entries) := by
  induction h with
  | ended skipped =>
    refine ScansTo.of_eq ?_
    rw [scanNames_eq, readPiece_outcome, skipped]
    simp [pieceAt, inner]
  | entry skipped afterKey read _ ih =>
    have key : ScansTo place place.next _ _ _ := scansTo_name skipped
    rw [ScanPlace.next_of_isInner inner] at key
    exact key.trans (.of_skipBlanks afterKey ((reads read).trans ih))

/-- A word for a value is one without names, and any other word is its own text. -/
theorem names_ofWord {bytes : Bytes} :
    (∃ value, Token.ofWord bytes = .operand value ∧ value.names = []) ∨
      Token.ofWord bytes = .keyword (Utf8.decode bytes) := by
  unfold Token.ofWord
  simp only
  split_ifs
  · exact Or.inl ⟨_, rfl, rfl⟩
  · exact Or.inl ⟨_, rfl, rfl⟩
  · exact Or.inl ⟨_, rfl, rfl⟩
  · exact Or.inr rfl

/-- A numeral denotes an operand without names. -/
theorem names_of_operand? {n : Numeral} {operand : Operand} (h : n.operand? = some operand) :
    operand.names = [] := by
  unfold Numeral.operand? at h
  split at h <;> obtain ⟨value, -, rfl⟩ := Option.map_eq_some_iff.1 h <;> rfl

/-- A token that is read, with the piece at its front. -/
inductive TokenPiece (value : Option ((input : Bytes) → Reading Operand input)) (input : Bytes) :
    Token → Bytes → Prop where
  | value {operand : Operand} {rest : Bytes}
      (piece : pieceOutcome (readPiece input) = some (.value, rest)) (nameless : operand.names = []) :
      TokenPiece value input (.operand operand) rest
  | name {bytes rest : Bytes} (piece : pieceOutcome (readPiece input) = some (.name bytes, rest)) :
      TokenPiece value input (.operand (.name (Utf8.decode bytes))) rest
  | word {bytes rest : Bytes} (piece : pieceOutcome (readPiece input) = some (.word bytes, rest)) :
      TokenPiece value input (.ofWord bytes) rest
  | array {reader : (input : Bytes) → Reading Operand input} {inner rest : Bytes}
      {items : List Operand} (nested : value = some reader)
      (piece : pieceOutcome (readPiece input) = some (.opening, inner))
      (read : (readItems reader inner).outcome = .ok (items, rest)) :
      TokenPiece value input (.operand (.array items)) rest
  | dictionary {reader : (input : Bytes) → Reading Operand input} {inner rest : Bytes}
      {entries : List (String × Operand)} (nested : value = some reader)
      (piece : pieceOutcome (readPiece input) = some (.opening, inner))
      (read : (readEntries reader inner).outcome = .ok (entries, rest)) :
      TokenPiece value input (.operand (.dictionary entries)) rest

theorem tokenPiece_of_outcome {value : Option ((input : Bytes) → Reading Operand input)}
    {input rest : Bytes} {token : Token}
    (h : (readTokenWith value input).outcome = .ok (token, rest)) :
    TokenPiece value input token rest := by
  cases takesToken_of_outcome h with
  | literal read => exact .value (by rw [readPiece_token rfl, pieceAt, if_pos rfl, read]; rfl) rfl
  | dictionary nested read =>
    refine .dictionary nested ?_ read
    rw [readPiece_token rfl, pieceAt, if_neg (by decide), if_pos (by simp)]
    rfl
  | hex single read =>
    refine .value ?_ rfl
    rw [readPiece_token rfl, pieceAt, if_neg (by decide), if_neg (fun both => single both.2),
      if_pos rfl, read]
    rfl
  | array nested read => exact .array nested (readPiece_token rfl) read
  | name => exact .name (readPiece_token rfl)
  | number first denoted => exact .value (readPiece_number first) (names_of_operand? denoted)
  | word first => exact .word (readPiece_keyword first)

/-- The names of a token that is read. -/
theorem scansTo_tokenWith {value : Option ((input : Bytes) → Reading Operand input)}
    {place : ScanPlace}
    (reads : ∀ reader, value = some reader → ∀ {place : ScanPlace} {input first rest},
      place.isInner = true → (reader input).outcome = .ok (first, rest) →
        ScansTo place place input rest first.names)
    {input rest : Bytes} {token : Token} (h : (readTokenWith value input).outcome = .ok (token, rest))
    (other : place ≠ .imageKey)
    (takes : place.takesWord = true ∨ ∃ operand, token = .operand operand) :
    ScansTo place place.next input rest token.nestedValue.names := by
  cases tokenPiece_of_outcome h with
  | value piece nameless =>
    rw [Token.nestedValue, nameless]
    exact .of_eq (scanNames_value piece)
  | name piece => exact .of_name (scanNames_name piece)
  | word piece =>
    rcases names_ofWord with ⟨operand, is_value, nameless⟩ | is_name
    · rw [is_value, Token.nestedValue, nameless]
      exact .of_eq (scanNames_wordValue piece other is_value)
    · have takes_word : place.takesWord = true := by
        rcases takes with takes | ⟨operand, is_value⟩
        · exact takes
        · rw [is_name] at is_value
          cases is_value
      rw [is_name]
      exact .of_name (scanNames_wordName piece takes_word is_name)
  | array nested piece read =>
    have opened : ScansTo place place.opened input _ [] := .of_eq (scanNames_opening piece)
    have items := scansTo_items (reads _ nested place.isInner_opened) (takesItems_of_outcome read)
    rw [ScanPlace.closed_opened other] at items
    exact opened.trans items
  | dictionary nested piece read =>
    have opened : ScansTo place place.opened input _ [] := .of_eq (scanNames_opening piece)
    have entries := scansTo_entries place.isInner_opened (reads _ nested place.isInner_opened)
      (takesEntries_of_outcome read)
    rw [ScanPlace.closed_opened other] at entries
    exact opened.trans entries

/-- The names of a token that is read with some levels of nesting left. -/
theorem scansTo_token {levels : ℕ} {place : ScanPlace} {input rest : Bytes} {token : Token}
    (h : (readToken levels input).outcome = .ok (token, rest)) (other : place ≠ .imageKey)
    (takes : place.takesWord = true ∨ ∃ operand, token = .operand operand) :
    ScansTo place place.next input rest token.nestedValue.names := by
  -- On the levels that are left; the elements of an array are read with one level less.
  induction levels generalizing place input rest token with
  | zero =>
    rw [readToken_eq] at h
    refine scansTo_tokenWith (fun reader none => ?_) h other takes
    cases none
  | succ level ih =>
    rw [readToken_eq] at h
    refine scansTo_tokenWith (fun reader some => ?_) h other takes
    cases some
    intro place input first rest inner value_read
    rw [nestedReader_outcome] at value_read
    obtain ⟨⟨token, after⟩, token_read, same⟩ := map_eq_ok.1 value_read
    cases same
    have scanned := ih token_read (ScanPlace.ne_imageKey_of_isInner inner)
      (Or.inl (ScanPlace.takesWord_of_isInner inner))
    rwa [ScanPlace.next_of_isInner inner] at scanned

/-! ## Names of operators that are read -/

/-- The names of a value of an inline image. -/
theorem scansTo_imageValue {input rest : Bytes} {value : Operand}
    (h : (readValue input).outcome = .ok (value, rest)) :
    ScansTo (.imageValue 0) .imageKey input rest value.names := by
  rw [readValue_outcome] at h
  obtain ⟨⟨token, after⟩, token_read, same⟩ := map_eq_ok.1 h
  cases same
  exact scansTo_token token_read (by simp) (Or.inl rfl)

/-- The keys of an inline image that is read, and the names in its values, up to its data. -/
theorem scansTo_imageEntries {input rest after samples : Bytes} {entries : List Operand}
    (h : TakesImageEntries input entries rest)
    (data : splitImageData true rest = some (samples, after)) :
    ∃ names, scanNames .imageKey input = names :: scanNames (.operands 0) after ∧
      Operand.namesOfItems entries = names.map Utf8.decode := by
  induction h with
  | @ended input tail skipped blank =>
    have ends : tail.dropWhile isKeywordRest = tail := by
      cases tail with
      | nil => rfl
      | cons c tail => exact List.dropWhile_cons_of_neg (by simp [isKeywordRest_of_isBlank c blank])
    have piece : pieceOutcome (readPiece input)
        = some (.word (0x49 :: 0x44 :: tail.takeWhile isKeywordRest), tail) := by
      rw [readPiece_outcome, skipped]
      exact congrArg (fun rest => some (Piece.word _, rest)) ends
    exact ⟨[], scanNames_imageData piece data, rfl⟩
  | entry skipped afterKey read _ ih =>
    obtain ⟨names, scanned, texts⟩ := ih data
    have key : ScansTo .imageKey (.imageValue 0) _ _ _ := scansTo_name skipped
    obtain ⟨front, front_scanned, front_texts⟩ :=
      key.trans (.of_skipBlanks afterKey (scansTo_imageValue read))
    refine ⟨front ++ names, ?_, ?_⟩
    · rw [front_scanned, ← consNames_cons]
      exact congrArg (consNames front) scanned
    · rw [List.map_append, ← front_texts, ← texts]
      rfl

/-- A keyword that is read ends the names of its operator, or begins an inline image. -/
theorem scanNames_of_keyword {input inner rest : Bytes} {b : UInt8} {word : String}
    (skipped : skipBlanks input = b :: inner)
    (read : (readToken maxNesting (b :: inner)).outcome = .ok (.keyword word, rest)) :
    scanNames (.operands 0) input
      = if word = "BI" then scanNames .imageKey rest else [] :: scanNames (.operands 0) rest := by
  obtain ⟨blank, comment⟩ := front_of_skipFrom skipped
  have same := skipped.trans (skipBlanks_token blank comment inner).symm
  rw [scanNames_congr same]
  rw [readToken_eq] at read
  generalize token_eq : Token.keyword word = token at read
  cases tokenPiece_of_outcome read with
  | value | name | array | dictionary => cases token_eq
  | word piece => exact scanNames_keyword piece token_eq.symm

/-- What the scan finds where an operator is taken off: the names of the operator, and then what it
finds in the rest; at the end nothing. -/
def ScansOperator (input : Bytes) : Option (Operator × Bytes) → Prop
  | none => scanNames (.operands 0) input = []
  | some (operator, rest) =>
    ∃ names, scanNames (.operands 0) input = names :: scanNames (.operands 0) rest ∧
      operator.names = names.map Utf8.decode

theorem ScansOperator.congr {input other : Bytes} {found : Option (Operator × Bytes)}
    (h : ScansOperator other found)
    (same : scanNames (.operands 0) input = scanNames (.operands 0) other) :
    ScansOperator input found := by
  cases found with
  | none => exact same.trans h
  | some found =>
    obtain ⟨names, scanned, texts⟩ := h
    exact ⟨names, same.trans scanned, texts⟩

/-- The names of an operator that is read. -/
theorem scansOperator_of_takes {count : ℕ} {input : Bytes} {found : Option (Operator × Bytes)}
    (h : TakesOperator count input found) : ScansOperator input found := by
  induction h with
  | ended skipped =>
    show scanNames _ _ = []
    rw [scanNames_eq, readPiece_outcome, skipped]
  | pass skipped bracket other _ ih => exact ih.congr (scanNames_pass skipped other bracket)
  | @operand count input inner after rest b value operator skipped read _ ih =>
    obtain ⟨names, scanned, texts⟩ := ih
    have token_scanned : ScansTo (.operands 0) (.operands 0) (b :: inner) after value.names :=
      scansTo_token read (by simp) (Or.inr ⟨value, rfl⟩)
    obtain ⟨front, front_scanned, front_texts⟩ := ScansTo.of_skipBlanks skipped token_scanned
    refine ⟨front ++ names, ?_, ?_⟩
    · rw [front_scanned, scanned, consNames_cons]
    · rw [List.map_append, ← front_texts, ← texts]
      rfl
  | keyword skipped read other =>
    have keyword := scanNames_of_keyword skipped read
    rw [if_neg other] at keyword
    exact ⟨[], keyword, rfl⟩
  | image skipped read image =>
    have keyword := scanNames_of_keyword skipped read
    rw [if_pos rfl] at keyword
    rw [readImage_outcome] at image
    split at image
    · cases image
    next entries data entries_read =>
    split at image
    · cases image
    next bytes last data_read =>
    cases image
    obtain ⟨names, scanned, texts⟩ :=
      scansTo_imageEntries (takesImageEntries_of_outcome entries_read) data_read
    refine ⟨names, keyword.trans scanned, ?_⟩
    rw [← texts]
    simp [Operator.names, Operand.namesOfItems, Operand.names]

/-- The names of the operators of a stream that is read to its end. -/
theorem streamNames_readOperators {content : Bytes} (ended : (readOperators content).stop = none) :
    List.Forall₂ (fun operator names => operator.names = names.map Utf8.decode)
      (readOperators content).operators (streamNames content) := by
  unfold streamNames
  induction content using readOperators_induction with
  | stopped content stop read =>
    rw [readOperators_eq, read] at ended
    cases ended
  | ended content read =>
    rw [readOperators_eq, read, show scanNames (.operands 0) content = [] from
      scansOperator_of_takes (takesOperator_of_outcome read)]
    exact .nil
  | operator content first rest read ih =>
    obtain ⟨names, scanned, texts⟩ := scansOperator_of_takes (takesOperator_of_outcome read)
    rw [readOperators_eq, read] at ended ⊢
    rw [scanned]
    exact .cons texts (ih ended)

end Preflight
