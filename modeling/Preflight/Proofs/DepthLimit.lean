import Mathlib
import Preflight.Proofs.ComparedChecks

/-!
# The limit on the nesting of content

A content stream that is judged with fewer levels of nesting left is judged as with more of them,
unless the levels run out. So what passes at one depth passes at every smaller depth.
-/

namespace Preflight

variable {ε α β : Type} {fault : ε}

/-! ## Computations that are cut short -/

/-- The first computation is the second one, or ends with the fault before it. -/
def CutShort (fault : ε) (x y : Except ε α) : Prop := x = y ∨ x = .error fault

namespace CutShort

theorem refl (x : Except ε α) : CutShort fault x x := Or.inl rfl

theorem eq_ok {x y : Except ε α} {a : α} (h : CutShort fault x y) (ok : x = .ok a) : y = .ok a := by
  rcases h with same | cut
  · rw [← same, ok]
  · rw [cut] at ok
    cases ok

theorem bind {x y : Except ε α} {f g : α → Except ε β} (first : CutShort fault x y)
    (following : ∀ a, CutShort fault (f a) (g a)) : CutShort fault (x >>= f) (y >>= g) := by
  rcases first with rfl | rfl
  · cases x with
    | error other => exact Or.inl rfl
    | ok a => exact following a
  · exact Or.inr rfl

end CutShort

theorem cutShort_congruence (fault : StreamFailure) :
    Congruence fun _ x y => CutShort fault x y :=
  ⟨.refl, .bind⟩

/-! ## Content streams -/

namespace Settings

variable [StreamDecoder] (settings : Settings)

/-- The failure of a content stream that nests too deep. -/
def depthFailure : StreamFailure :=
  .limitExceeded .recursionDepth settings.maxRecursionDepth (settings.maxRecursionDepth + 1)

/-- A content stream is judged as with more levels, unless they run out. -/
theorem checkContentWithin_cutShort (document : Option Document) {level more : ℕ}
    (h : level ≤ more) (content : Bytes) (resources : Dictionary) :
    CutShort settings.depthFailure (settings.checkContentWithin document level content resources)
      (settings.checkContentWithin document more content resources) := by
  -- On the levels that are left; a tiling pattern is judged with one level less.
  induction level generalizing more content resources with
  | zero => exact Or.inr rfl
  | succ level ih =>
    obtain ⟨more, rfl⟩ := Nat.exists_eq_add_of_le' ((Nat.le_add_left 1 level).trans h)
    rw [checkContentWithin, checkContentWithin]
    have congruence := cutShort_congruence settings.depthFailure
    refine CutShort.bind (congruence.obeyOperators (fun operators => ?_) _ content) fun _ => .refl _
    exact (Compares.same congruence document settings).steps (ih (Nat.le_of_succ_le_succ h))
      operators PaintState.initial

/-- What passes with all levels passes as the content of a page. -/
theorem checkContent_of_within {document : Option Document} {content : Bytes}
    {resources : Dictionary}
    (ok : settings.checkContentWithin document (settings.maxRecursionDepth + 1) content resources
      = .ok ()) :
    settings.checkContent document content resources = .ok () := by
  unfold checkContent checkContentAt
  split
  · rfl
  · rw [if_neg (Nat.not_lt_zero _), Nat.sub_zero]
    exact ok

end Settings

end Preflight
