import Preflight.Bytes

/-!
# UTF-8

Texts are written in UTF-8 and read from any bytes: each longest run that begins a well-formed
sequence without completing it, and each byte that begins none, is read as the replacement
character.
-/

namespace Preflight.Utf8

/-- The UTF-8 bytes of a text. -/
def encode (text : String) : Bytes := text.toList.flatMap String.utf8EncodeChar

/-- What the first byte of a sequence of several bytes announces. -/
structure Lead where
  /-- The number of bytes that follow. -/
  following : Nat
  /-- The bits of the code point in the first byte. -/
  bits : Nat
  /-- The smallest second byte, which excludes overlong forms. -/
  low : UInt8
  /-- The largest second byte, which excludes surrogates and numbers beyond the last code point. -/
  high : UInt8

/-- The announcement of a byte that begins a sequence of several bytes. -/
def lead? (b : UInt8) : Option Lead :=
  if 0xC2 ≤ b && b ≤ 0xDF then some ⟨1, b.toNat - 0xC0, 0x80, 0xBF⟩
  else if b == 0xE0 then some ⟨2, 0, 0xA0, 0xBF⟩
  else if b == 0xED then some ⟨2, 13, 0x80, 0x9F⟩
  else if 0xE1 ≤ b && b ≤ 0xEF then some ⟨2, b.toNat - 0xE0, 0x80, 0xBF⟩
  else if b == 0xF0 then some ⟨3, 0, 0x90, 0xBF⟩
  else if 0xF1 ≤ b && b ≤ 0xF3 then some ⟨3, b.toNat - 0xF0, 0x80, 0xBF⟩
  else if b == 0xF4 then some ⟨3, 4, 0x80, 0x8F⟩
  else none

/-- Read the `count` bytes that follow with `bits` read so far, the first of them between `low` and
`high`. If they are all there, the code point; and what is left from the first byte that is not. -/
def follow (count : Nat) (low high : UInt8) (bits : Nat) : Bytes → Option Nat × Bytes
  | [] => (if count = 0 then some bits else none, [])
  | b :: rest =>
    match count with
    | 0 => (some bits, b :: rest)
    | n + 1 =>
      if low ≤ b && b ≤ high then follow n 0x80 0xBF (bits * 64 + b.toNat % 64) rest
      else (none, b :: rest)

theorem length_follow_le (count : Nat) (low high : UInt8) (bits : Nat) (bytes : Bytes) :
    (follow count low high bits bytes).2.length ≤ bytes.length := by
  induction bytes generalizing count low high bits with
  | nil => simp [follow]
  | cons b rest ih =>
    cases count with
    | zero => simp [follow]
    | succ n =>
      rw [follow]
      split
      · exact Nat.le_succ_of_le (ih ..)
      · exact Nat.le_refl _

/-- The characters that bytes stand for. -/
def decodeChars : Bytes → List Char
  | [] => []
  | b :: rest =>
    if b < 0x80 then Char.ofNat b.toNat :: decodeChars rest
    else
      match lead? b with
      | none => '\uFFFD' :: decodeChars rest
      | some lead =>
        let read := follow lead.following lead.low lead.high lead.bits rest
        (read.1.elim '\uFFFD' Char.ofNat) :: decodeChars read.2
termination_by bytes => bytes.length
decreasing_by
  · exact Nat.lt_succ_self _
  · exact Nat.lt_succ_self _
  · exact Nat.lt_succ_of_le (length_follow_le ..)

/-- The text that bytes stand for. -/
def decode (bytes : Bytes) : String := String.ofList (decodeChars bytes)

end Preflight.Utf8
