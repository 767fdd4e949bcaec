import Mathlib
import Preflight.Text.Utf8

/-!
# UTF-8 read back

Every text is read back from its UTF-8 bytes, also in front of other bytes, and ASCII bytes are the
UTF-8 bytes of the text that they stand for. No other bytes stand for a text of ASCII characters.
-/

namespace Preflight.Utf8

/-! ## Characters -/

theorem toNat_ofNat {m : ℕ} (h : m < 256) : (UInt8.ofNat m).toNat = m := by
  rw [UInt8.toNat_ofNat']
  exact Nat.mod_eq_of_lt h

theorem follow_zero (low high : UInt8) (bits : ℕ) (bytes : Bytes) :
    follow 0 low high bits bytes = (some bits, bytes) := by
  cases bytes <;> simp [follow]

/-- A continuation byte in its range adds its six low bits. -/
theorem follow_ofNat {count bits m : ℕ} {low high : UInt8} (rest : Bytes)
    (lower : low.toNat ≤ m) (upper : m ≤ high.toNat) :
    follow (count + 1) low high bits (UInt8.ofNat m :: rest)
      = follow count 0x80 0xBF (bits * 64 + m % 64) rest := by
  have bound : m < 256 := Nat.lt_of_le_of_lt upper high.toNat_lt
  rw [follow]
  simp only [UInt8.le_iff_toNat_le, toNat_ofNat bound, lower, upper, decide_true, Bool.and_self,
    if_true]

/-- What the first byte announces, by the number that it is. -/
theorem lead?_ofNat {m : ℕ} (h : m < 256) :
    lead? (UInt8.ofNat m) =
      if 0xC2 ≤ m ∧ m ≤ 0xDF then some ⟨1, m - 0xC0, 0x80, 0xBF⟩
      else if m = 0xE0 then some ⟨2, 0, 0xA0, 0xBF⟩
      else if m = 0xED then some ⟨2, 13, 0x80, 0x9F⟩
      else if 0xE1 ≤ m ∧ m ≤ 0xEF then some ⟨2, m - 0xE0, 0x80, 0xBF⟩
      else if m = 0xF0 then some ⟨3, 0, 0x90, 0xBF⟩
      else if 0xF1 ≤ m ∧ m ≤ 0xF3 then some ⟨3, m - 0xF0, 0x80, 0xBF⟩
      else if m = 0xF4 then some ⟨3, 4, 0x80, 0x8F⟩
      else none := by
  unfold lead?
  simp only [UInt8.le_iff_toNat_le, ← UInt8.toNat_inj, beq_iff_eq, toNat_ofNat h,
    Bool.and_eq_true, decide_eq_true_eq, UInt8.reduceToNat]

theorem decodeChars_ofNat_ascii {m : ℕ} (h : m < 0x80) (rest : Bytes) :
    decodeChars (UInt8.ofNat m :: rest) = Char.ofNat m :: decodeChars rest := by
  rw [decodeChars, if_pos, toNat_ofNat (by omega)]
  rw [UInt8.lt_iff_toNat_lt, toNat_ofNat (by omega)]
  exact h

/-- Bytes that a leading byte announces are read as one character. -/
theorem decodeChars_of_lead? {m bits : ℕ} {lead : Lead} (tail : Bytes) {rest : Bytes}
    (large : 0x80 ≤ m) (small : m < 256) (announced : lead? (UInt8.ofNat m) = some lead)
    (followed : follow lead.following lead.low lead.high lead.bits (tail ++ rest)
      = (some bits, rest)) :
    decodeChars (UInt8.ofNat m :: (tail ++ rest)) = Char.ofNat bits :: decodeChars rest := by
  rw [decodeChars, if_neg, announced]
  · simp only [followed, Option.elim_some]
  · rw [UInt8.lt_iff_toNat_lt, toNat_ofNat small]
    exact not_lt.2 large

theorem decodeChars_two {v : ℕ} (lower : 0x7F < v) (upper : v ≤ 0x7FF) (rest : Bytes) :
    decodeChars ([UInt8.ofNat (v / 64 % 32 + 0xC0), UInt8.ofNat (v % 64 + 0x80)] ++ rest)
      = Char.ofNat v :: decodeChars rest := by
  obtain ⟨lead, announced, following, bits, below, above⟩ : ∃ lead,
      lead? (UInt8.ofNat (v / 64 % 32 + 0xC0)) = some lead ∧ lead.following = 1 ∧
        lead.bits = v / 64 ∧ lead.low.toNat ≤ v % 64 + 0x80 ∧ v % 64 + 0x80 ≤ lead.high.toNat := by
    rw [lead?_ofNat (by omega), if_pos (by omega)]
    exact ⟨_, rfl, rfl, by simp only; omega, by simp, by simp; omega⟩
  refine decodeChars_of_lead? [_] (by omega) (by omega) announced ?_
  rw [following, bits, List.singleton_append, follow_ofNat _ below above, follow_zero]
  congr 2
  omega

theorem decodeChars_three {v : ℕ} (lower : 0x7FF < v) (upper : v ≤ 0xFFFF)
    (valid : v < 0xD800 ∨ 0xDFFF < v) (rest : Bytes) :
    decodeChars ([UInt8.ofNat (v / 4096 % 16 + 0xE0), UInt8.ofNat (v / 64 % 64 + 0x80),
        UInt8.ofNat (v % 64 + 0x80)] ++ rest)
      = Char.ofNat v :: decodeChars rest := by
  -- the range of the second byte depends on the first one
  obtain ⟨lead, announced, following, bits, below, above⟩ : ∃ lead,
      lead? (UInt8.ofNat (v / 4096 % 16 + 0xE0)) = some lead ∧ lead.following = 2 ∧
        lead.bits = v / 4096 ∧ lead.low.toNat ≤ v / 64 % 64 + 0x80 ∧
        v / 64 % 64 + 0x80 ≤ lead.high.toNat := by
    rw [lead?_ofNat (by omega), if_neg (by omega)]
    split_ifs
    · exact ⟨_, rfl, rfl, by simp only; omega, by simp; omega, by simp; omega⟩
    · exact ⟨_, rfl, rfl, by simp only; omega, by simp, by simp; omega⟩
    · exact ⟨_, rfl, rfl, by simp only; omega, by simp, by simp; omega⟩
    all_goals omega
  refine decodeChars_of_lead? [_, _] (by omega) (by omega) announced ?_
  rw [following, bits, List.cons_append, List.singleton_append, follow_ofNat _ below above,
    follow_ofNat _ (by simp) (by simp; omega), follow_zero]
  congr 2
  omega

theorem decodeChars_four {v : ℕ} (lower : 0xFFFF < v) (upper : v < 0x110000) (rest : Bytes) :
    decodeChars ([UInt8.ofNat (v / 262144 % 8 + 0xF0), UInt8.ofNat (v / 4096 % 64 + 0x80),
        UInt8.ofNat (v / 64 % 64 + 0x80), UInt8.ofNat (v % 64 + 0x80)] ++ rest)
      = Char.ofNat v :: decodeChars rest := by
  obtain ⟨lead, announced, following, bits, below, above⟩ : ∃ lead,
      lead? (UInt8.ofNat (v / 262144 % 8 + 0xF0)) = some lead ∧ lead.following = 3 ∧
        lead.bits = v / 262144 ∧ lead.low.toNat ≤ v / 4096 % 64 + 0x80 ∧
        v / 4096 % 64 + 0x80 ≤ lead.high.toNat := by
    rw [lead?_ofNat (by omega), if_neg (by omega), if_neg (by omega), if_neg (by omega),
      if_neg (by omega)]
    split_ifs
    · exact ⟨_, rfl, rfl, by simp only; omega, by simp; omega, by simp; omega⟩
    · exact ⟨_, rfl, rfl, by simp only; omega, by simp, by simp; omega⟩
    · exact ⟨_, rfl, rfl, by simp only; omega, by simp, by simp; omega⟩
    all_goals omega
  refine decodeChars_of_lead? [_, _, _] (by omega) (by omega) announced ?_
  rw [following, bits, List.cons_append, List.cons_append, List.singleton_append,
    follow_ofNat _ below above, follow_ofNat _ (by simp) (by simp; omega),
    follow_ofNat _ (by simp) (by simp; omega), follow_zero]
  congr 2
  omega

/-! ## Texts -/

/-- The bytes of a character are read as that character. The cases are the lengths of its form. -/
theorem decodeChars_encodeChar (c : Char) (rest : Bytes) :
    decodeChars (String.utf8EncodeChar c ++ rest) = c :: decodeChars rest := by
  have valid : c.val.toNat < 0xD800 ∨ 0xDFFF < c.val.toNat ∧ c.val.toNat < 0x110000 := c.valid
  have same : Char.ofNat c.val.toNat = c := Char.ofNat_toNat c
  unfold String.utf8EncodeChar
  simp only
  split_ifs with one two three
  · rw [List.singleton_append, decodeChars_ofNat_ascii (by omega), same]
  · rw [decodeChars_two (by omega) two, same]
  · rw [decodeChars_three (by omega) three (by omega), same]
  · rw [decodeChars_four (by omega) (by omega), same]

theorem decodeChars_flatMap (chars : List Char) :
    decodeChars (chars.flatMap String.utf8EncodeChar) = chars := by
  induction chars with
  | nil => simp [decodeChars]
  | cons c chars ih => rw [List.flatMap_cons, decodeChars_encodeChar, ih]

/-- A text is read back from its bytes. -/
@[simp] theorem decode_encode (text : String) : decode (encode text) = text := by
  rw [decode, encode, decodeChars_flatMap, String.ofList_toList]

/-- ASCII bytes are the bytes of the text that they stand for. -/
theorem encode_decode_ascii {bytes : Bytes} (ascii : ∀ b ∈ bytes, b.toNat < 0x80) :
    encode (decode bytes) = bytes := by
  rw [encode, decode, String.toList_ofList]
  induction bytes with
  | nil => simp [decodeChars]
  | cons b rest ih =>
    have small : b.toNat < 0x80 := ascii b List.mem_cons_self
    have byte : b = UInt8.ofNat b.toNat := UInt8.ofNat_toNat.symm
    have value : (Char.ofNat b.toNat).val.toNat = b.toNat := by
      rw [Char.toNat_val, Char.toNat_ofNat, if_pos (Or.inl (by omega))]
    have single : String.utf8EncodeChar (Char.ofNat b.toNat) = [b] := by
      unfold String.utf8EncodeChar
      simp only [value]
      rw [if_pos (by omega), ← byte]
    rw [byte, decodeChars_ofNat_ascii small, ← byte, List.flatMap_cons, single,
      ih fun other member => ascii other (List.mem_cons_of_mem _ member), List.singleton_append]

/-! ## Bytes beyond ASCII -/

/-- Continuation bytes fill the digits below the bits read so far. -/
theorem follow_bounds {count bits v : ℕ} {bytes rest : Bytes}
    (h : follow count 0x80 0xBF bits bytes = (some v, rest)) :
    bits * 64 ^ count ≤ v ∧ v < (bits + 1) * 64 ^ count := by
  induction count generalizing bits bytes with
  | zero =>
    rw [follow_zero] at h
    cases h
    omega
  | succ count ih =>
    cases bytes with
    | nil => cases h
    | cons b bytes =>
      rw [follow] at h
      split at h
      · obtain ⟨lower, upper⟩ := ih h
        have digit : b.toNat % 64 < 64 := Nat.mod_lt _ (by decide)
        have low := Nat.mul_le_mul_right (64 ^ count)
          (show bits * 64 ≤ bits * 64 + b.toNat % 64 by omega)
        have high := Nat.mul_le_mul_right (64 ^ count)
          (show bits * 64 + b.toNat % 64 + 1 ≤ (bits + 1) * 64 by omega)
        rw [Nat.pow_succ, Nat.mul_comm (64 ^ count) 64, ← Nat.mul_assoc, ← Nat.mul_assoc]
        omega
      · cases h

/-- The first byte that follows lies in its range. -/
theorem exists_follow_bounds {count bits v : ℕ} {low high : UInt8} {bytes rest : Bytes}
    (h : follow (count + 1) low high bits bytes = (some v, rest)) :
    ∃ m, low.toNat ≤ m ∧ m ≤ high.toNat ∧
      (bits * 64 + m % 64) * 64 ^ count ≤ v ∧ v < (bits * 64 + m % 64 + 1) * 64 ^ count := by
  cases bytes with
  | nil => cases h
  | cons b bytes =>
    rw [follow] at h
    split at h
    · next inside =>
      rw [Bool.and_eq_true, decide_eq_true_eq, decide_eq_true_eq] at inside
      exact ⟨b.toNat, inside.1, inside.2, follow_bounds h⟩
    · cases h

/-- A sequence of several bytes stands for a character beyond ASCII. -/
theorem not_ascii_of_lead? {b : UInt8} {lead : Lead} {v : ℕ} {bytes rest : Bytes}
    (announced : lead? b = some lead)
    (followed : follow lead.following lead.low lead.high lead.bits bytes = (some v, rest)) :
    0x80 ≤ (Char.ofNat v).toNat := by
  have value (large : 0x80 ≤ v) (valid : v < 0xD800 ∨ 0xDFFF < v ∧ v < 0x110000) :
      0x80 ≤ (Char.ofNat v).toNat := by
    rwa [Char.toNat_ofNat, if_pos valid]
  have byte : b = UInt8.ofNat b.toNat := UInt8.ofNat_toNat.symm
  rw [byte, lead?_ofNat b.toNat_lt] at announced
  -- each kind of sequence begins above the last character that a shorter one stands for
  split_ifs at announced <;> cases announced <;>
    obtain ⟨m, lower, upper, least, most⟩ := exists_follow_bounds followed <;>
    simp only [UInt8.reduceToNat, pow_one, Nat.reducePow] at lower upper least most <;>
    exact value (by omega) (by omega)

/-- Bytes that stand for a text of ASCII characters are ASCII. -/
theorem ascii_of_decodeChars {bytes : Bytes} (h : ∀ c ∈ decodeChars bytes, c.toNat < 0x80) :
    ∀ b ∈ bytes, b.toNat < 0x80 := by
  induction bytes with
  | nil => exact fun b member => nomatch member
  | cons b bytes ih =>
    rw [decodeChars] at h
    split at h
    · next small =>
      obtain ⟨-, h⟩ := List.forall_mem_cons.1 h
      exact List.forall_mem_cons.2 ⟨UInt8.lt_iff_toNat_lt.1 small, ih h⟩
    · split at h
      · exact absurd (h _ List.mem_cons_self) (by decide)
      · next lead announced =>
        have first := h _ List.mem_cons_self
        cases followed : follow lead.following lead.low lead.high lead.bits bytes with
        | mk code rest =>
          rw [followed] at first
          cases code with
          | none => exact absurd first (Nat.not_lt.2 (show 0x80 ≤ '\uFFFD'.toNat by decide))
          | some v => exact absurd first (Nat.not_lt.2 (not_ascii_of_lead? announced followed))

/-- A text of ASCII characters has one byte for each of them. -/
theorem encode_of_ascii {text : String} (ascii : ∀ c ∈ text.toList, c.toNat < 0x80) :
    encode text = Bytes.ofLatin text := by
  unfold encode Bytes.ofLatin
  generalize text.toList = chars at ascii
  induction chars with
  | nil => rfl
  | cons c chars ih =>
    obtain ⟨small, ascii⟩ := List.forall_mem_cons.1 ascii
    have single : String.utf8EncodeChar c = [UInt8.ofNat c.toNat] := by
      unfold String.utf8EncodeChar
      simp only
      exact if_pos (Nat.le_of_lt_succ small)
    rw [List.flatMap_cons, single, ih ascii, List.map_cons, List.singleton_append]

/-- Only the bytes of a text of ASCII characters stand for it. -/
theorem eq_encode_of_decode {bytes : Bytes} {text : String} (read : decode bytes = text)
    (ascii : ∀ c ∈ text.toList, c.toNat < 0x80) : bytes = encode text := by
  have chars : decodeChars bytes = text.toList := by rw [← read, decode, String.toList_ofList]
  rw [← read, encode_decode_ascii (ascii_of_decodeChars (chars ▸ ascii))]

end Preflight.Utf8
