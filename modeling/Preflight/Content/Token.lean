import Preflight.Content.Fault
import Preflight.Content.Number
import Preflight.Text.Utf8

/-!
# Tokens of a content stream

A token is an operand or a keyword. Each reader takes its token off the front of the bytes and
returns what follows it, which is always shorter; a reader that fails tells where it stood. Arrays
and dictionaries are read by recursion on the levels of nesting that are left.
-/

namespace Preflight

/-- Where and why reading stopped. -/
structure Stop where
  fault : ContentFault
  /-- The bytes from the place of the fault on. -/
  rest : Bytes

/-- A value read off the front of `input`. -/
structure Parsed (α : Type) (input : Bytes) where
  value : α
  /-- What follows it. -/
  rest : Bytes
  /-- Something was read. -/
  rest_lt : rest.length < input.length

/-- The outcome of a reader. -/
abbrev Reading (α : Type) (input : Bytes) := Except Stop (Parsed α input)

/-- The outcome of a reader that stops at a fault. -/
def fail {α : Type} {input : Bytes} (fault : ContentFault) (rest : Bytes) : Reading α input :=
  .error ⟨fault, rest⟩

namespace Parsed

variable {α β : Type} {input longer : Bytes}

/-- The same rest with another value. -/
def map (f : α → β) (parsed : Parsed α input) : Parsed β input :=
  ⟨f parsed.value, parsed.rest, parsed.rest_lt⟩

/-- The same value read off a longer input of which nothing else is left. -/
def widen (parsed : Parsed α input) (h : input.length ≤ longer.length) : Parsed α longer :=
  ⟨parsed.value, parsed.rest, Nat.lt_of_lt_of_le parsed.rest_lt h⟩

end Parsed

/-- A token: a value, or a word that is none. -/
inductive Token where
  | operand (value : Operand)
  | keyword (word : String)

/-! ## Blanks and comments -/

/-- What follows the blanks and comments at the front; `inComment` tells that a comment is open. -/
def skipFrom (inComment : Bool) : Bytes → Bytes
  | [] => []
  | b :: rest =>
    if inComment then skipFrom (!isLineEnd b) rest
    else if isBlank b then skipFrom false rest
    else if b == 0x25 then skipFrom true rest
    else b :: rest

/-- What follows the blanks and comments at the front. -/
def skipBlanks (input : Bytes) : Bytes := skipFrom false input

theorem length_skipFrom_le (inComment : Bool) (input : Bytes) :
    (skipFrom inComment input).length ≤ input.length := by
  induction input generalizing inComment with
  | nil => exact Nat.le_refl _
  | cons b rest ih =>
    rw [skipFrom]
    split
    · exact Nat.le_succ_of_le (ih _)
    · split
      · exact Nat.le_succ_of_le (ih _)
      · split
        · exact Nat.le_succ_of_le (ih _)
        · exact Nat.le_refl _

/-- What follows the first byte after blanks is shorter than the whole. -/
theorem length_lt_of_skipBlanks {input rest : Bytes} {b : UInt8}
    (h : skipBlanks input = b :: rest) : rest.length < input.length := by
  have shorter := length_skipFrom_le false input
  rw [show skipFrom false input = b :: rest from h] at shorter
  exact shorter

/-! ## Strings -/

/-- The bytes that an escape stands for, given the byte after the backslash and what follows that;
and what follows the escape. A line end disappears, up to three octal digits give a byte, a few
letters stand for controls, and any other byte stands for itself. -/
def readEscape (b : UInt8) (rest : Bytes) : Bytes × Bytes :=
  if b == 0x6E then ([0x0A], rest)
  else if b == 0x72 then ([0x0D], rest)
  else if b == 0x74 then ([0x09], rest)
  else if b == 0x62 then ([0x08], rest)
  else if b == 0x66 then ([0x0C], rest)
  else if b == 0x0D then ([], match rest with | 0x0A :: after => after | _ => rest)
  else if b == 0x0A then ([], rest)
  else if isOctalDigit b then
    let further := (rest.take 2).takeWhile isOctalDigit
    let value := (b :: further).foldl (fun value digit => value * 8 + (digit.toNat - 0x30)) 0
    ([UInt8.ofNat value], rest.drop further.length)
  else ([b], rest)

theorem length_readEscape_le (b : UInt8) (rest : Bytes) :
    (readEscape b rest).2.length ≤ rest.length := by
  unfold readEscape
  repeat' split
  all_goals simp

/-- The bytes of a literal string after its opening parenthesis; `depth` more parentheses are open.
-/
def readLiteral (depth : Nat) (input : Bytes) : Reading Bytes input :=
  match input with
  | [] => fail .openLiteral []
  | b :: rest =>
    if b == 0x28 then
      (readLiteral (depth + 1) rest).map fun parsed => (parsed.map (b :: ·)).widen (by simp)
    else if b == 0x29 then
      match depth with
      | 0 => .ok ⟨[], rest, by simp⟩
      | outer + 1 =>
        (readLiteral outer rest).map fun parsed => (parsed.map (b :: ·)).widen (by simp)
    else if b == 0x5C then
      match rest with
      | [] => fail .openEscape []
      | c :: after =>
        (readLiteral depth (readEscape c after).2).map fun parsed =>
          (parsed.map ((readEscape c after).1 ++ ·)).widen
            (Nat.le_succ_of_le (Nat.le_succ_of_le (length_readEscape_le c after)))
    else (readLiteral depth rest).map fun parsed => (parsed.map (b :: ·)).widen (by simp)
termination_by input.length
decreasing_by
  · exact Nat.lt_succ_self _
  · exact Nat.lt_succ_self _
  · exact Nat.lt_succ_of_le (Nat.le_succ_of_le (length_readEscape_le c after))
  · exact Nat.lt_succ_self _

/-- The values of the digits of a hexadecimal string after its opening bracket. -/
def readHexDigits : (input : Bytes) → Reading (List UInt8) input
  | [] => fail .openHex []
  | b :: rest =>
    if b == 0x3E then .ok ⟨[], rest, by simp⟩
    else if isBlank b then (readHexDigits rest).map (·.widen (by simp))
    else
      match hexValue? b with
      | none => fail (.hexDigit b) (b :: rest)
      | some digit =>
        (readHexDigits rest).map fun parsed => (parsed.map (digit :: ·)).widen (by simp)

/-- The bytes of pairs of hexadecimal digits; a last single digit is followed by a zero. -/
def joinDigits : List UInt8 → Bytes
  | high :: low :: digits => (high <<< 4 ||| low) :: joinDigits digits
  | [high] => [high <<< 4]
  | [] => []

/-! ## Names, numbers and keywords -/

/-- A raw name with its escapes resolved: a number sign before two hexadecimal digits stands for a
byte, and before anything else for itself. -/
def unescapeName : Bytes → Bytes
  | 0x23 :: high :: low :: rest =>
    match hexValue? high, hexValue? low with
    | some h, some l => (h <<< 4 ||| l) :: unescapeName rest
    | _, _ => 0x23 :: unescapeName (high :: low :: rest)
  | b :: rest => b :: unescapeName rest
  | [] => []

/-- The bytes of the raw name at the front, after its solidus, and what follows it. -/
def readRawName (input : Bytes) : Bytes × Bytes :=
  (input.takeWhile isRegular, input.dropWhile isRegular)

/-- The name at the front, after its solidus, and what follows it. -/
def readName (input : Bytes) : String × Bytes :=
  let (raw, rest) := readRawName input
  (Utf8.decode (unescapeName raw), rest)

theorem length_readName_le (input : Bytes) : (readName input).2.length ≤ input.length :=
  (List.dropWhile_sublist isRegular).length_le

/-- A byte that begins a keyword: a letter, an asterisk or a quote. -/
def isKeywordByte (b : UInt8) : Bool := isLetter b || b == 0x2A || b == 0x27 || b == 0x22

/-- A byte that begins a number. -/
def isNumberByte (b : UInt8) : Bool := isDigit b || b == 0x2B || b == 0x2D || b == 0x2E

/-- A byte that begins a token. -/
def isTokenByte (b : UInt8) : Bool :=
  b == 0x28 || b == 0x3C || b == 0x5B || b == 0x2F || isNumberByte b || isKeywordByte b

/-- A byte within a keyword. -/
def isKeywordRest (b : UInt8) : Bool := isKeywordByte b || isDigit b

/-- The token that a word is: the three words for values, or a keyword. -/
def Token.ofWord (word : Bytes) : Token :=
  let text := Utf8.decode word
  if text = "true" then .operand (.boolean true)
  else if text = "false" then .operand (.boolean false)
  else if text = "null" then .operand .null
  else .keyword text

/-- The value of a token in an array or dictionary, where a bare word is a name. -/
def Token.nestedValue : Token → Operand
  | operand value => value
  | keyword word => .name word

theorem length_readUnsigned_le (sign : Option UInt8) (input : Bytes) :
    (Numeral.readUnsigned sign input).2.length ≤ input.length := by
  have whole := (List.dropWhile_sublist (l := input) isDigit).length_le
  unfold Numeral.readUnsigned
  split
  · exact Nat.zero_le _
  · next b rest after =>
    rw [after] at whole
    split
    · exact Nat.le_trans (List.dropWhile_sublist isDigit).length_le
        (Nat.le_trans (Nat.le_succ _) whole)
    · exact whole

theorem length_readUnsigned_lt (sign : Option UInt8) {b : UInt8} (rest : Bytes)
    (h : isDigit b = true ∨ b = 0x2E) :
    (Numeral.readUnsigned sign (b :: rest)).2.length < (b :: rest).length := by
  rcases h with digit | rfl
  · have whole := (List.dropWhile_sublist (l := rest) isDigit).length_le
    unfold Numeral.readUnsigned
    rw [List.dropWhile_cons_of_pos digit]
    split
    · exact Nat.zero_lt_succ _
    · next c more after =>
      rw [after] at whole
      split
      · exact Nat.lt_succ_of_le (Nat.le_trans (List.dropWhile_sublist isDigit).length_le
          (Nat.le_trans (Nat.le_succ _) whole))
      · exact Nat.lt_succ_of_le whole
  · exact Nat.lt_succ_of_le (List.dropWhile_sublist (l := rest) isDigit).length_le

theorem length_numeralRead_lt {b : UInt8} (rest : Bytes) (h : isNumberByte b = true) :
    (Numeral.read (b :: rest)).2.length < (b :: rest).length := by
  rw [Numeral.read]
  split
  · exact Nat.lt_succ_of_le (length_readUnsigned_le (some b) rest)
  · next unsigned =>
    refine length_readUnsigned_lt none rest ?_
    simp only [isNumberByte, Bool.or_eq_true, beq_iff_eq] at h unsigned
    rcases h with ((digit | plus) | minus) | point
    · exact Or.inl digit
    · exact absurd (Or.inl plus) unsigned
    · exact absurd (Or.inr minus) unsigned
    · exact Or.inr point

/-- The number at the front, which begins with the byte of a number. -/
def readNumber (b : UInt8) (rest : Bytes) (h : isNumberByte b = true) :
    Reading Operand (b :: rest) :=
  let read := Numeral.read (b :: rest)
  let done (value : Operand) : Reading Operand (b :: rest) :=
    .ok ⟨value, read.2, length_numeralRead_lt rest h⟩
  match read.1.places with
  | some places =>
    match read.1.real? places with
    | some value => done (.real value)
    | none => fail (.realNumber read.1.text) read.2
  | none =>
    match read.1.integer? with
    | some value => done (.integer value)
    | none => fail (.integerNumber read.1.text) read.2

/-! ## Arrays and dictionaries -/

/-- The items of an array after its opening bracket, each read by `value`. -/
def readItems (value : (input : Bytes) → Reading Operand input) (input : Bytes) :
    Reading (List Operand) input :=
  match skipped : skipBlanks input with
  | [] => fail .openArray []
  | b :: rest =>
    have shorter := length_lt_of_skipBlanks skipped
    if b == 0x5D then .ok ⟨[], rest, shorter⟩
    else
      match value (b :: rest) with
      | .error stop => .error stop
      | .ok first =>
        have remaining := Nat.lt_of_lt_of_le first.rest_lt shorter
        (readItems value first.rest).map fun parsed =>
          (parsed.map (first.value :: ·)).widen (Nat.le_of_lt remaining)
termination_by input.length
decreasing_by exact remaining

/-- The entries of a dictionary after its opening brackets, each value read by `value`. -/
def readEntries (value : (input : Bytes) → Reading Operand input) (input : Bytes) :
    Reading (List (String × Operand)) input :=
  match skipped : skipBlanks input with
  | [] => fail .openDictionary []
  | b :: rest =>
    have shorter := length_lt_of_skipBlanks skipped
    if b == 0x3E && rest.head? == some 0x3E then
      .ok ⟨[], rest.drop 1, Nat.lt_of_le_of_lt (List.drop_sublist 1 rest).length_le shorter⟩
    else if b == 0x2F then
      match afterKey : skipBlanks (readName rest).2 with
      | [] => fail .openDictionaryValue []
      | c :: after =>
        match value (c :: after) with
        | .error stop => .error stop
        | .ok first =>
          have remaining := Nat.lt_of_lt_of_le first.rest_lt
            (Nat.le_trans (length_lt_of_skipBlanks afterKey)
              (Nat.le_trans (length_readName_le rest) (Nat.le_of_lt shorter)))
          (readEntries value first.rest).map fun parsed =>
            (parsed.map (((readName rest).1, first.value) :: ·)).widen (Nat.le_of_lt remaining)
    else fail .dictionaryKey (b :: rest)
termination_by input.length
decreasing_by exact remaining

/-- The token at the front, which has no blanks before it. Values in arrays and dictionaries are
read by `value`; without it they are too deep. -/
def readTokenWith (value : Option ((input : Bytes) → Reading Operand input)) (input : Bytes) :
    Reading Token input :=
  match input with
  | [] => fail .openArray []
  | b :: rest =>
    if b == 0x28 then
      (readLiteral 0 rest).map fun parsed =>
        (parsed.map fun bytes => .operand (.literal bytes)).widen (by simp)
    else if b == 0x3C && rest.head? == some 0x3C then
      match value with
      | none => fail .nesting (b :: rest)
      | some value =>
        (readEntries value (rest.drop 1)).map fun parsed =>
          (parsed.map fun entries => .operand (.dictionary entries)).widen
            (Nat.le_succ_of_le (List.drop_sublist 1 rest).length_le)
    else if b == 0x3C then
      (readHexDigits rest).map fun parsed =>
        (parsed.map fun digits => .operand (.hex (joinDigits digits))).widen (by simp)
    else if b == 0x5B then
      match value with
      | none => fail .nesting (b :: rest)
      | some value =>
        (readItems value rest).map fun parsed =>
          (parsed.map fun items => .operand (.array items)).widen (by simp)
    else if b == 0x2F then
      .ok ⟨.operand (.name (readName rest).1), (readName rest).2,
        Nat.lt_succ_of_le (length_readName_le rest)⟩
    else if h : isNumberByte b = true then
      (readNumber b rest h).map (·.map .operand)
    else if isKeywordByte b then
      .ok ⟨.ofWord (b :: rest.takeWhile isKeywordRest), rest.dropWhile isKeywordRest,
        Nat.lt_succ_of_le (List.dropWhile_sublist isKeywordRest).length_le⟩
    else fail (.unexpectedByte b) (b :: rest)

/-- The token at the front, which has no blanks before it, with `levels` of nesting left. -/
def readToken : (levels : Nat) → (input : Bytes) → Reading Token input
  | 0 => readTokenWith none
  | level + 1 =>
    readTokenWith (some fun input => (readToken level input).map (·.map Token.nestedValue))

/-- The value at the front, which has no blanks before it, where a bare word is a name. -/
def readValue (input : Bytes) : Reading Operand input :=
  (readToken maxNesting input).map (·.map Token.nestedValue)

end Preflight
