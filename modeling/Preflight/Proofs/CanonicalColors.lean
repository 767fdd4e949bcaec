import Mathlib
import Preflight.Proofs.ContentConversion
import Preflight.Proofs.Utf8

/-!
# Canonical colors

All colors are built from a few operations: constructors, color spaces, conversion, and reading from
data, whose numbers can be anything. Each of them gives numbers between 0 and 1 without a negative
zero, and keeps those of the colors it starts from. On such numbers equality bit by bit is numerical
equality. As the input of the hash tells where each of its parts ends, it tells colors apart that are
not equal.
-/

namespace Preflight

/-! ## Canonical numbers -/

/-- A number between 0 and 1 that is not negative zero. -/
structure Single.IsCanonical (x : Single) : Prop where
  nonneg : 0 ≤ x
  le_one : x ≤ 1
  not_negative_zero : x ≠ Binary.zero true

namespace Single

variable {x y : Single}

theorem isCanonical_of_rank (sign : x.negative = false) (rank : x.rank ≤ (1 : Single).rank) :
    x.IsCanonical := by
  have finite : x.isFinite = true := by
    rw [Binary.isFinite, decide_eq_true_eq]
    exact rank.trans_lt (of_decide_eq_true one_near.finite)
  refine ⟨?_, ?_, fun zero => ?_⟩
  · rw [Binary.le_iff zero_near.finite finite, zero_near.toRat_eq]
    exact Binary.toRat_nonneg sign
  · rw [Binary.le_iff finite one_near.finite, Binary.toRat_of_nonneg sign,
      Binary.toRat_of_nonneg one_near.nonneg]
    exact FloatFormat.single.magnitude_strictMono.monotone rank
  · rw [zero] at sign
    cases sign

theorem isCanonical_normalize (x : Single) : (normalize x).IsCanonical :=
  isCanonical_of_rank (normalize_mem_unit x).1 (normalize_mem_unit x).2

theorem isCanonical_zero : (0 : Single).IsCanonical :=
  isCanonical_of_rank zero_near.nonneg (Nat.zero_le _)

theorem isCanonical_one : (1 : Single).IsCanonical :=
  isCanonical_of_rank one_near.nonneg le_rfl

/-- A canonical number has no sign, and it is a number. -/
theorem IsCanonical.spec (canonical : x.IsCanonical) : x.negative = false ∧ x.isNaN = false := by
  obtain ⟨nonneg, -, not_negative_zero⟩ := canonical
  have zero_place : (0 : Single).place = 0 := rfl
  have above : Binary.le 0 x = true := nonneg
  simp only [Binary.le, zero_place, Bool.and_eq_true, Bool.not_eq_true', decide_eq_true_eq] at above
  obtain ⟨⟨-, number⟩, place⟩ := above
  refine ⟨?_, number⟩
  by_contra sign
  have sign := eq_true_of_ne_false sign
  rw [Binary.place, sign, if_pos rfl] at place
  exact not_negative_zero (Binary.ext sign (by show x.rank = 0; omega))

/-- Canonical numbers are numerically equal only if they are the same. -/
theorem IsCanonical.numEq_iff (hx : x.IsCanonical) (hy : y.IsCanonical) :
    x.numEq y = true ↔ x = y := by
  obtain ⟨x_sign, x_number⟩ := hx.spec
  obtain ⟨y_sign, y_number⟩ := hy.spec
  rw [Binary.numEq, x_number, y_number, Binary.place, Binary.place, x_sign, y_sign]
  simp only [Bool.not_false, Bool.true_and, Bool.false_eq_true, if_false, beq_iff_eq, Nat.cast_inj]
  exact ⟨fun rank => Binary.ext (x_sign.trans y_sign.symm) rank, fun same => same ▸ rfl⟩

end Single

namespace Color

/-- The numbers of a color and of the colors in it. -/
def numbers : Color → List Single
  | gray level => [level]
  | rgb red green blue => [red, green, blue]
  | cmyk cyan magenta yellow black => [cyan, magenta, yellow, black]
  | separation _ tint alternate => tint :: alternate.numbers
  | shading _ => []
  | pattern color => color.numbers

/-- Whether all numbers of a color are canonical. -/
def IsCanonical (color : Color) : Prop := ∀ x ∈ color.numbers, x.IsCanonical

/-! ## Colors that are built -/

theorem isCanonical_ofGray (level : Single) : (ofGray level).IsCanonical := by
  simp [ofGray, IsCanonical, numbers, Single.isCanonical_normalize]

theorem isCanonical_ofRgb (red green blue : Single) : (ofRgb red green blue).IsCanonical := by
  simp [ofRgb, IsCanonical, numbers, Single.isCanonical_normalize]

theorem isCanonical_ofCmyk (cyan magenta yellow black : Single) :
    (ofCmyk cyan magenta yellow black).IsCanonical := by
  simp [ofCmyk, IsCanonical, numbers, Single.isCanonical_normalize]

theorem isCanonical_ofSeparation (name : String) (tint : Single) {alternate : Color}
    (h : alternate.IsCanonical) : (ofSeparation name tint alternate).IsCanonical := by
  unfold ofSeparation IsCanonical numbers
  rw [List.forall_mem_cons]
  exact ⟨Single.isCanonical_normalize tint, h⟩

theorem isCanonical_shading (space : ColorSpace) : (shading space).IsCanonical := by
  simp [IsCanonical, numbers]

theorem isCanonical_black : black.IsCanonical := by
  simp [black, IsCanonical, numbers, Single.isCanonical_zero]

/-- Whatever the numbers are that are read, those of the color are canonical if those of the color
inside it are. -/
theorem isCanonical_ofData {data : Data}
    (h : ∀ color, data.inner? = some color → color.IsCanonical) : (ofData data).IsCanonical := by
  cases data with
  | gray level => exact isCanonical_ofGray level
  | rgb red green blue => exact isCanonical_ofRgb red green blue
  | cmyk cyan magenta yellow black => exact isCanonical_ofCmyk cyan magenta yellow black
  | separation name tint alternate => exact isCanonical_ofSeparation name tint (h alternate rfl)
  | shading space => exact isCanonical_shading space
  | pattern color => exact h color rfl

end Color

/-- The colors of a space are canonical, those of its components and the one it begins with. -/
theorem ColorSpace.isCanonical_color? (space : ColorSpace) :
    (∀ components color, space.color? components = some color → color.IsCanonical) ∧
      ∀ color, space.initialColor? = some color → color.IsCanonical := by
  induction space with
  | deviceGray | calGray =>
    refine ⟨fun components color h => ?_, fun color h => ?_⟩
    · match components, h with
      | [level], h =>
        cases h
        exact Color.isCanonical_ofGray level
    · cases h
      exact Color.isCanonical_black
  | deviceRgb | calRgb =>
    refine ⟨fun components color h => ?_, fun color h => ?_⟩
    · match components, h with
      | [red, green, blue], h =>
        cases h
        exact Color.isCanonical_ofRgb red green blue
    · cases h
      simp [Color.IsCanonical, Color.numbers, Single.isCanonical_zero]
  | deviceCmyk =>
    refine ⟨fun components color h => ?_, fun color h => ?_⟩
    · match components, h with
      | [cyan, magenta, yellow, black], h =>
        cases h
        exact Color.isCanonical_ofCmyk cyan magenta yellow black
    · cases h
      simp [Color.IsCanonical, Color.numbers, Single.isCanonical_zero, Single.isCanonical_one]
  | lab | pattern | patternOver =>
    exact ⟨fun _ _ h => absurd h nofun, fun _ h => absurd h nofun⟩
  | iccBased _ alternate ih => exact ih
  | indexed base last palette ih =>
    refine ⟨fun components color h => ?_, fun color h => ?_⟩
    · match components, h with
      | index :: _, h =>
        rw [color?] at h
        split at h
        · exact ih.1 _ color h
        · cases h
    · rw [initialColor?] at h
      split at h
      · exact ih.1 _ color h
      · cases h
  | separation name alternate ih =>
    refine ⟨fun components color h => ?_, fun color h => ?_⟩
    · match components, h with
      | [tint], h =>
        rw [color?] at h
        split at h
        · next initial found =>
          cases h
          exact Color.isCanonical_ofSeparation name tint (ih.2 initial found)
        · cases h
    · rw [initialColor?] at h
      split at h
      · next initial found =>
        cases h
        exact Color.isCanonical_ofSeparation name 1 (ih.2 initial found)
      · cases h
  | deviceN names alternate ih =>
    refine ⟨fun components color h => ?_, ih.2⟩
    rw [color?] at h
    split at h
    · exact ih.2 color h
    · cases h

namespace Color

/-- A color that the operations on colors give, in any order and number. -/
inductive Produced : Color → Prop where
  | black : Produced black
  | gray (level : Single) : Produced (ofGray level)
  | rgb (red green blue : Single) : Produced (ofRgb red green blue)
  | cmyk (cyan magenta yellow black : Single) : Produced (ofCmyk cyan magenta yellow black)
  | separation (name : String) (tint : Single) {alternate : Color} (h : Produced alternate) :
      Produced (ofSeparation name tint alternate)
  | shading (space : ColorSpace) : Produced (shading space)
  | pattern {color : Color} (h : Produced color) : Produced (pattern color)
  /-- The color with components in a space. -/
  | ofSpace {space : ColorSpace} {components : List Single} {color : Color}
      (h : space.color? components = some color) : Produced color
  /-- The color with which a space begins. -/
  | initial {space : ColorSpace} {color : Color} (h : space.initialColor? = some color) :
      Produced color
  | convert (converter : Converter) {color : Color} (h : Produced color) :
      Produced (converter.convert color)
  | reverse (converter : Converter) (inks : Cmyk Single) : Produced (converter.reverse inks)
  /-- The color that is made from data, whose inner color is one of these too. -/
  | ofData {data : Data} (h : ∀ color, data.inner? = some color → Produced color) :
      Produced (ofData data)

/-- Each operation keeps the invariant. -/
theorem Produced.isCanonical {color : Color} (produced : color.Produced) : color.IsCanonical := by
  induction produced with
  | black => exact isCanonical_black
  | gray level => exact isCanonical_ofGray level
  | rgb red green blue => exact isCanonical_ofRgb red green blue
  | cmyk cyan magenta yellow black => exact isCanonical_ofCmyk cyan magenta yellow black
  | separation name tint _ ih => exact isCanonical_ofSeparation name tint ih
  | shading space => exact isCanonical_shading space
  | pattern _ ih => exact ih
  | ofSpace h => exact (ColorSpace.isCanonical_color? _).1 _ _ h
  | initial h => exact (ColorSpace.isCanonical_color? _).2 _ h
  | convert converter _ ih =>
    unfold Converter.convert
    split
    · exact isCanonical_ofCmyk _ _ _ _
    · exact isCanonical_ofCmyk _ _ _ _
    · exact ih
  | reverse converter inks => exact isCanonical_ofRgb _ _ _
  | ofData _ ih => exact isCanonical_ofData ih

/-! ## Equality -/

/-- Colors of the same kind whose names, spaces and colors match and whose numbers are numerically
equal. -/
inductive Matches : Color → Color → Prop where
  | gray {x y : Single} (level : x.numEq y = true) : Matches (gray x) (gray y)
  | rgb {r g b r' g' b' : Single} (red : r.numEq r' = true) (green : g.numEq g' = true)
      (blue : b.numEq b' = true) : Matches (rgb r g b) (rgb r' g' b')
  | cmyk {c m y k c' m' y' k' : Single} (cyan : c.numEq c' = true) (magenta : m.numEq m' = true)
      (yellow : y.numEq y' = true) (black : k.numEq k' = true) :
      Matches (cmyk c m y k) (cmyk c' m' y' k')
  | separation (name : String) {x y : Single} {a b : Color} (tint : x.numEq y = true)
      (alternate : Matches a b) : Matches (separation name x a) (separation name y b)
  | shading (space : ColorSpace) : Matches (shading space) (shading space)
  | pattern {a b : Color} (color : Matches a b) : Matches (pattern a) (pattern b)

theorem IsCanonical.refl {color : Color} (canonical : color.IsCanonical) : color.Matches color := by
  have same {x : Single} (member : x ∈ color.numbers) : x.numEq x = true :=
    ((canonical x member).numEq_iff (canonical x member)).2 rfl
  induction color with
  | gray level => exact .gray (same (by simp [numbers]))
  | rgb red green blue =>
    exact .rgb (same (by simp [numbers])) (same (by simp [numbers])) (same (by simp [numbers]))
  | cmyk cyan magenta yellow black =>
    exact .cmyk (same (by simp [numbers])) (same (by simp [numbers])) (same (by simp [numbers]))
      (same (by simp [numbers]))
  | separation name tint alternate ih =>
    refine .separation name (same (by simp [numbers])) (ih ?_ ?_)
    · exact fun x member => canonical x (List.mem_cons_of_mem tint member)
    · exact fun member => same (List.mem_cons_of_mem tint member)
  | shading space => exact .shading space
  | pattern color ih => exact .pattern (ih canonical same)

theorem Matches.eq {a b : Color} (matched : a.Matches b) (ha : a.IsCanonical) (hb : b.IsCanonical) :
    a = b := by
  have same {x y : Single} (hx : x ∈ a.numbers) (hy : y ∈ b.numbers) (equal : x.numEq y = true) :
      x = y :=
    ((ha x hx).numEq_iff (hb y hy)).1 equal
  induction matched with
  | gray level => rw [same (by simp [numbers]) (by simp [numbers]) level]
  | rgb red green blue =>
    rw [same (by simp [numbers]) (by simp [numbers]) red,
      same (by simp [numbers]) (by simp [numbers]) green,
      same (by simp [numbers]) (by simp [numbers]) blue]
  | cmyk cyan magenta yellow black =>
    rw [same (by simp [numbers]) (by simp [numbers]) cyan,
      same (by simp [numbers]) (by simp [numbers]) magenta,
      same (by simp [numbers]) (by simp [numbers]) yellow,
      same (by simp [numbers]) (by simp [numbers]) black]
  | @separation name x y a b tint _ ih =>
    have nested := ih (fun z member => ha z (List.mem_cons_of_mem x member))
      (fun z member => hb z (List.mem_cons_of_mem y member))
      (fun hx hy => same (List.mem_cons_of_mem x hx) (List.mem_cons_of_mem y hy))
    rw [same (by simp [numbers]) (by simp [numbers]) tint, nested]
  | shading space => rfl
  | pattern _ ih => rw [ih ha hb same]

end Color

/-! ## Hashing -/

/-- Whatever follows the steps for a value, they tell the value and where they end. -/
def IsPrefixFree {α : Type} (steps : α → List HashStep) : Prop :=
  ∀ {a b : α} {x y : List HashStep}, steps a ++ x = steps b ++ y → a = b ∧ x = y

theorem isPrefixFree_textHashInput : IsPrefixFree textHashInput := by
  intro a b x y same
  simp only [textHashInput, List.cons_append, List.nil_append, List.cons.injEq,
    HashStep.bytes.injEq, true_and] at same
  obtain ⟨encoded, rest⟩ := same
  exact ⟨Function.LeftInverse.injective Utf8.decode_encode encoded, rest⟩

/-- As many values one after the other tell where they end, too. -/
theorem IsPrefixFree.flatMap {α : Type} {steps : α → List HashStep} (free : IsPrefixFree steps)
    {as bs : List α} (length : as.length = bs.length) {x y : List HashStep}
    (same : as.flatMap steps ++ x = bs.flatMap steps ++ y) : as = bs ∧ x = y := by
  induction as generalizing bs with
  | nil =>
    obtain rfl := List.length_eq_zero_iff.1 length.symm
    exact ⟨rfl, same⟩
  | cons a as ih =>
    cases bs with
    | nil => cases length
    | cons b bs =>
      rw [List.flatMap_cons, List.flatMap_cons, List.append_assoc, List.append_assoc] at same
      obtain ⟨rfl, following⟩ := free same
      obtain ⟨rfl, rest⟩ := ih (Nat.succ.inj length) following
      exact ⟨rfl, rest⟩

/-- The first step tells the kind of a space, and each part tells where it ends. -/
theorem ColorSpace.isPrefixFree_hashInput : IsPrefixFree ColorSpace.hashInput := by
  intro a
  induction a with
  | deviceGray | deviceRgb | deviceCmyk | calGray | calRgb | lab | pattern =>
    intro b x y same
    cases b <;> simp [hashInput] at same ⊢
    all_goals exact same
  | iccBased components alternate ih =>
    intro b x y same
    cases b with
    | iccBased _ _ =>
      simp only [hashInput, List.cons_append, List.cons.injEq, HashStep.word.injEq, true_and]
        at same
      obtain ⟨rfl, following⟩ := same
      obtain ⟨rfl, rest⟩ := ih following
      exact ⟨rfl, rest⟩
    | _ => simp [hashInput] at same
  | indexed base last palette ih =>
    intro b x y same
    cases b with
    | indexed _ _ _ =>
      simp only [hashInput, List.cons_append, List.append_assoc, List.cons.injEq, true_and] at same
      obtain ⟨rfl, following⟩ := ih same
      simp only [List.nil_append, List.cons.injEq, HashStep.word.injEq, HashStep.bytes.injEq]
        at following
      obtain ⟨rfl, -, rfl, rest⟩ := following
      exact ⟨rfl, rest⟩
    | _ => simp [hashInput] at same
  | separation name alternate ih =>
    intro b x y same
    cases b with
    | separation _ _ =>
      simp only [hashInput, List.cons_append, List.append_assoc, List.cons.injEq, true_and] at same
      obtain ⟨rfl, following⟩ := isPrefixFree_textHashInput same
      obtain ⟨rfl, rest⟩ := ih following
      exact ⟨rfl, rest⟩
    | _ => simp [hashInput] at same
  | deviceN names alternate ih =>
    intro b x y same
    cases b with
    | deviceN _ _ =>
      simp only [hashInput, List.cons_append, List.append_assoc, List.cons.injEq,
        HashStep.count.injEq, true_and] at same
      obtain ⟨rfl, following⟩ := isPrefixFree_textHashInput.flatMap same.1 same.2
      obtain ⟨rfl, rest⟩ := ih following
      exact ⟨rfl, rest⟩
    | _ => simp [hashInput] at same
  | patternOver underlying ih =>
    intro b x y same
    cases b with
    | patternOver _ =>
      simp only [hashInput, List.cons_append, List.cons.injEq, true_and] at same
      obtain ⟨rfl, rest⟩ := ih same
      exact ⟨rfl, rest⟩
    | _ => simp [hashInput] at same

/-- The first step tells the kind of a color, and each part tells where it ends. -/
theorem Color.isPrefixFree_hashInput : IsPrefixFree Color.hashInput := by
  intro a
  induction a with
  | gray | rgb | cmyk =>
    intro b x y same
    cases b <;> simp [hashInput, kind, Kind.index, bitsHashInput, Binary.toBits_inj] at same ⊢
    all_goals simp [same]
  | separation name tint alternate ih =>
    intro b x y same
    cases b with
    | separation _ _ _ =>
      simp only [hashInput, List.cons_append, List.append_assoc, List.cons.injEq] at same
      obtain ⟨rfl, following⟩ := isPrefixFree_textHashInput same.2
      simp only [List.cons.injEq, HashStep.word.injEq, Binary.toBits_inj] at following
      obtain ⟨rfl, nested⟩ := following
      obtain ⟨rfl, rest⟩ := ih nested
      exact ⟨rfl, rest⟩
    | _ => simp [hashInput, kind, Kind.index] at same
  | shading space =>
    intro b x y same
    cases b with
    | shading _ =>
      simp only [hashInput, List.cons_append, List.cons.injEq] at same
      obtain ⟨rfl, rest⟩ := ColorSpace.isPrefixFree_hashInput same.2
      exact ⟨rfl, rest⟩
    | _ => simp [hashInput, kind, Kind.index] at same
  | pattern color ih =>
    intro b x y same
    cases b with
    | pattern _ =>
      simp only [hashInput, List.cons_append, List.cons.injEq] at same
      obtain ⟨rfl, rest⟩ := ih same.2
      exact ⟨rfl, rest⟩
    | _ => simp [hashInput, kind, Kind.index] at same

namespace Color

theorem hashInput_injective : Function.Injective hashInput := by
  intro a b same
  refine (isPrefixFree_hashInput (x := []) (y := []) ?_).1
  rw [same]

/-- The numbers of every color that the operations give lie between 0 and 1, without a negative zero.
Two such colors are equal, and hashed from the same steps, exactly if they match. -/
theorem canonical_of_produced {a b : Color} (ha : a.Produced) (hb : b.Produced) :
    (∀ x ∈ a.numbers, 0 ≤ x ∧ x ≤ 1 ∧ x ≠ Binary.zero true) ∧
      ((a == b) = true ↔ a.Matches b) ∧
      (a.hashInput = b.hashInput ↔ a.Matches b) := by
  have equal : a = b ↔ a.Matches b := by
    constructor
    · rintro rfl
      exact ha.isCanonical.refl
    · exact fun matched => matched.eq ha.isCanonical hb.isCanonical
  refine ⟨fun x member => ?_, beq_iff_eq.trans equal, hashInput_injective.eq_iff.trans equal⟩
  have canonical := ha.isCanonical x member
  exact ⟨canonical.nonneg, canonical.le_one, canonical.not_negative_zero⟩

/-- A negative zero and what is not a number are both made into zero, read or built. -/
theorem canonical_of_produced_zeros :
    let gold := ofData (.separation "Gold" (Binary.zero true) (ofData (.gray Binary.nan)))
    let built := pattern (ofSeparation "Gold" Binary.nan black)
    (ofData (.pattern gold)).Produced ∧ built.Produced ∧
      (ofData (.pattern gold) == built) = true ∧ (ofData (.pattern gold)).Matches built ∧
      (ofData (.pattern gold)).hashInput = built.hashInput := by
  intro gold built
  have gold_produced : gold.Produced := by
    refine .ofData fun color inner => ?_
    cases inner
    exact .ofData nofun
  have read_produced : (ofData (.pattern gold)).Produced := by
    refine .ofData fun color inner => ?_
    cases inner
    exact gold_produced
  have built_produced : built.Produced := .pattern (.separation "Gold" _ .black)
  obtain ⟨-, equal, hashed⟩ := canonical_of_produced read_produced built_produced
  have same : (ofData (.pattern gold) == built) = true := by decide +kernel
  exact ⟨read_produced, built_produced, same, equal.1 same, hashed.2 (equal.1 same)⟩

end Color

end Preflight
