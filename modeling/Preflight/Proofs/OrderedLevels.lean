import Mathlib
import Preflight.Proofs.ComparedWalks

/-!
# The order of the levels

A level that requires anything requires the same as the others, apart from the rules for colors, for
the color spaces of images and for RGB. Two levels that have related rules there give related
verdicts: where neither fails, both go on with the same operator, the same current color spaces and
the same references met. The levels that are not strict have the same rules, and the strict level
only adds failures to theirs.
-/

namespace Preflight

/-- The first computation succeeds wherever the second one does, with the same result. -/
def SucceedsWith {ε α : Type} (x y : Except ε α) : Prop := ∀ a, y = .ok a → x = .ok a

namespace SucceedsWith

variable {ε ε' α β : Type}

theorem refl (x : Except ε α) : SucceedsWith x x := fun _ ok => ok

theorem of_ok {x : Except ε Unit} (ok : x = .ok ()) (y : Except ε Unit) : SucceedsWith x y :=
  fun _ _ => ok

theorem bind {x y : Except ε α} {f g : α → Except ε β} (first : SucceedsWith x y)
    (following : ∀ a, SucceedsWith (f a) (g a)) : SucceedsWith (x >>= f) (y >>= g) := by
  intro b ok
  obtain ⟨a, first_ok, following_ok⟩ := bind_eq_ok.1 ok
  exact bind_eq_ok.2 ⟨a, first a first_ok, following a b following_ok⟩

theorem mapError {x y : Except ε α} (h : SucceedsWith x y) (f : ε → ε') :
    SucceedsWith (x.mapError f) (y.mapError f) :=
  fun a ok => mapError_eq_ok.2 (h a (mapError_eq_ok.1 ok))

/-- Where the first computation fails, so does the second. -/
theorem fails {x y : Except ε α} (h : SucceedsWith x y) {failure : ε} (fails : x = .error failure) :
    ∃ other, y = .error other := by
  cases second : y with
  | error other => exact ⟨other, rfl⟩
  | ok a => cases fails.symm.trans (h a second)

theorem congruence : Congruence fun _ x y => SucceedsWith x y := ⟨.refl, .bind⟩

end SucceedsWith

theorem eq_congruence : Congruence fun _ x y => x = y :=
  ⟨fun _ => rfl, fun first following => by rw [first, funext following]⟩

namespace Settings

/-- The same limits with another level. -/
def requiring (settings : Settings) (level : Level) : Settings := { settings with level := level }

@[simp] theorem level_requiring (settings : Settings) (level : Level) :
    (settings.requiring level).level = level := rfl

/-! ## The rules in which levels differ -/

variable {settings : Settings} {level : Level}

theorem checkColor_of_not_isStrict (relaxed : level.isStrict = false) (color : Color) :
    (settings.requiring level).checkColor color = .ok () := by
  unfold checkColor
  rw [level_requiring, relaxed]
  rfl

variable [StreamDecoder]

/-- Without the strict level, an image may have any color space. -/
theorem checkImage_of_not_isStrict (relaxed : level.isStrict = false) (document : Option Document)
    (image : Dictionary) :
    (settings.requiring level).checkImage document image
      = if image.has "SMask" then .error (.violation .image .softMask) else .ok () := by
  unfold checkImage
  rw [level_requiring, relaxed]
  rfl

theorem check_rgb_of_not_isStrict (relaxed : level.isStrict = false) :
    (settings.requiring level).check .rgb = .ok () := by
  unfold check
  rw [level_requiring, relaxed]
  cases level.isRequired <;> rfl

/-- Two levels that require something and have related rules for colors, images and RGB. -/
structure RelatedLevels
    (R : (α : Type) → Except StreamFailure α → Except StreamFailure α → Prop)
    (settings : Settings) (level other : Level) : Prop where
  congruence : Congruence R
  required : level.isRequired = true
  other_required : other.isRequired = true
  color : ∀ color, R Unit ((settings.requiring level).checkColor color)
    ((settings.requiring other).checkColor color)
  image : ∀ document image, R Unit ((settings.requiring level).checkImage document image)
    ((settings.requiring other).checkImage document image)
  rgb : R Unit ((settings.requiring level).check .rgb) ((settings.requiring other).check .rgb)

/-- The levels that are not strict have the same rules. -/
theorem relatedLevels_eq (settings : Settings) {level other : Level}
    (required : level.isRequired = true) (relaxed : level.isStrict = false)
    (other_required : other.isRequired = true) (other_relaxed : other.isStrict = false) :
    RelatedLevels (fun _ x y => x = y) settings level other where
  congruence := eq_congruence
  required := required
  other_required := other_required
  color color := by
    rw [checkColor_of_not_isStrict relaxed, checkColor_of_not_isStrict other_relaxed]
  image document image := by
    rw [checkImage_of_not_isStrict relaxed, checkImage_of_not_isStrict other_relaxed]
  rgb := by rw [check_rgb_of_not_isStrict relaxed, check_rgb_of_not_isStrict other_relaxed]

/-- What the strict level lets pass, the others let pass. -/
theorem relatedLevels_succeedsWith (settings : Settings) {level other : Level}
    (required : level.isRequired = true) (relaxed : level.isStrict = false)
    (other_required : other.isRequired = true) :
    RelatedLevels (fun _ x y => SucceedsWith x y) settings level other where
  congruence := SucceedsWith.congruence
  required := required
  other_required := other_required
  color color := .of_ok (checkColor_of_not_isStrict relaxed color) _
  image document image := by
    rw [checkImage_of_not_isStrict relaxed]
    unfold checkImage
    -- A soft mask is judged before the level is looked at.
    split
    · exact .refl _
    · exact .of_ok rfl _
  rgb := .of_ok (check_rgb_of_not_isStrict relaxed) _

namespace RelatedLevels

variable {R : (α : Type) → Except StreamFailure α → Except StreamFailure α → Prop} {other : Level}
  (related : RelatedLevels R settings level other)
include related

theorem compares (document : Option Document) :
    Compares R document (settings.requiring level) (settings.requiring other) where
  congruence := related.congruence
  color := related.color
  resolve _ := related.congruence.refl _

/-! ## Content streams and subjects -/

theorem checkContentWithin (document : Option Document) (levels : ℕ) (content : Bytes)
    (resources : Dictionary) :
    R Unit ((settings.requiring level).checkContentWithin document levels content resources)
      ((settings.requiring other).checkContentWithin document levels content resources) := by
  -- On the levels of nesting that are left; a tiling pattern is judged with one less.
  induction levels generalizing content resources with
  | zero => exact related.congruence.refl _
  | succ levels ih =>
    rw [Settings.checkContentWithin, Settings.checkContentWithin]
    refine related.congruence.bind ?_ fun _ => related.congruence.refl _
    refine related.congruence.obeyOperators (fun operators => ?_) _ content
    exact (related.compares document).steps ih operators PaintState.initial

theorem checkContent (document : Option Document) (content : Bytes) (resources : Dictionary) :
    R Unit ((settings.requiring level).checkContent document content resources)
      ((settings.requiring other).checkContent document content resources) := by
  have within := related.checkContentWithin document (settings.maxRecursionDepth + 1) content
    resources
  unfold Settings.checkContent checkContentAt
  rw [level_requiring, related.required, level_requiring, related.other_required]
  exact within

theorem check (subject : Subject) :
    R Unit ((settings.requiring level).check subject) ((settings.requiring other).check subject) := by
  have rgb := related.rgb
  unfold Settings.check at rgb ⊢
  rw [level_requiring, related.required, level_requiring, related.other_required] at rgb ⊢
  cases subject with
  | color color => exact related.color color
  | rgb => exact rgb
  | image document dictionary => exact related.image document dictionary
  | content document stream =>
    exact related.congruence.bind (related.congruence.refl _) fun content =>
      related.checkContent document content _
  | cmyk | font _ | graphicsState _ _ | layer => exact related.congruence.refl _

/-! ## Documents -/

theorem comparesWalks (document : Document) :
    ComparesWalks R document (settings.requiring level) (settings.requiring other) :=
  ⟨related.compares (some document), related.check⟩

/-- Both walks over a content stream and its resources meet the same references, as long as both go
on. -/
theorem checkContentTree (document : Document) (levels : ℕ) (content : Bytes)
    (resources : Dictionary) (before : List ObjectId) :
    R (Unit × List ObjectId)
      ((settings.requiring level).checkContentTree document levels content resources before)
      ((settings.requiring other).checkContentTree document levels content resources before) := by
  -- On the levels of nesting that are left; a form is walked with one less.
  induction levels generalizing content resources before with
  | zero => exact related.congruence.refl _
  | succ levels ih =>
    rw [checkContentTree_succ, checkContentTree_succ]
    refine related.congruence.bind
      (related.checkContentWithin (some document) _ content resources) fun _ => ?_
    exact (related.comparesWalks document).checkResources ih resources before

theorem checkPage (document : Document) (page : ObjectId) (before : List ObjectId) :
    R (Unit × List ObjectId) ((settings.requiring level).checkPage document page before)
      ((settings.requiring other).checkPage document page before) := by
  have congruence := related.congruence
  rw [checkPage_eq, checkPage_eq]
  refine congruence.bind (congruence.refl _) fun dictionary => congruence.bind (congruence.refl _)
    fun resources => congruence.bind (congruence.refl _) fun content => ?_
  exact related.checkContentTree document _ content resources before

theorem checkCatalog (document : Document) :
    R Unit ((settings.requiring level).checkCatalog document)
      ((settings.requiring other).checkCatalog document) := by
  unfold Settings.checkCatalog
  split
  · exact related.congruence.refl _
  · split
    · exact related.check _
    · exact related.congruence.refl _

/-- The verdicts on a document are related in every way in which related results are, once their
failures are reported. -/
theorem checkDocument (document : Document) {S : Except Failure Unit → Except Failure Unit → Prop}
    (report : ∀ {x y}, R Unit x y →
      S (x.mapError StreamFailure.toFailure) (y.mapError StreamFailure.toFailure)) :
    S ((settings.requiring level).checkDocument document)
      ((settings.requiring other).checkDocument document) := by
  have congruence := related.congruence
  have pages := congruence.forM_walk (related.checkPage document) document.pages []
  have whole := congruence.bind (related.checkCatalog document) fun _ =>
    congruence.bind pages fun _ => congruence.refl (Except.ok ())
  unfold Settings.checkDocument
  rw [level_requiring, related.required, level_requiring, related.other_required]
  exact report whole

end RelatedLevels

end Settings

/-! ## The order -/

/-- The verdicts of the levels on one thing are ordered. -/
structure OrderedVerdicts {ε : Type} (verdict : Level → Except ε Unit) : Prop where
  /-- The levels that are not strict have the same verdict, with the same failure. -/
  relaxed_eq : verdict .a1a = verdict .x3 ∧ verdict .a1b = verdict .x3
  /-- What fails them fails the strict level. -/
  strict_fails : ∀ failure, verdict .x3 = .error failure → ∃ other, verdict .x1a = .error other
  /-- What passes the strict level passes every level. -/
  passes : verdict .x1a = .ok () → ∀ level, verdict level = .ok ()

theorem OrderedVerdicts.of_rules {ε : Type} {verdict : Level → Except ε Unit}
    (none_ok : verdict .none = .ok ()) (a1a_eq : verdict .a1a = verdict .x3)
    (a1b_eq : verdict .a1b = verdict .x3) (relaxed : SucceedsWith (verdict .x3) (verdict .x1a)) :
    OrderedVerdicts verdict where
  relaxed_eq := ⟨a1a_eq, a1b_eq⟩
  strict_fails _ fails := relaxed.fails fails
  passes strict_ok level := by
    have x3_ok := relaxed () strict_ok
    cases level with
    | none => exact none_ok
    | x1a => exact strict_ok
    | x3 => exact x3_ok
    | a1a => exact a1a_eq.trans x3_ok
    | a1b => exact a1b_eq.trans x3_ok

namespace Settings

/-- Whatever the limits are, the levels are ordered in their verdicts on documents, on content
streams and on subjects. -/
theorem orderedVerdicts [StreamDecoder] (settings : Settings) :
    (∀ document, OrderedVerdicts fun level =>
      (settings.requiring level).checkDocument document) ∧
    (∀ document content resources, OrderedVerdicts fun level =>
      (settings.requiring level).checkContent document content resources) ∧
    ∀ subject, OrderedVerdicts fun level => (settings.requiring level).check subject := by
  have a1a : RelatedLevels (fun _ x y => x = y) settings .a1a .x3 :=
    relatedLevels_eq settings rfl rfl rfl rfl
  have a1b : RelatedLevels (fun _ x y => x = y) settings .a1b .x3 :=
    relatedLevels_eq settings rfl rfl rfl rfl
  have x3 : RelatedLevels (fun _ x y => SucceedsWith x y) settings .x3 .x1a :=
    relatedLevels_succeedsWith settings rfl rfl rfl
  refine ⟨fun document => .of_rules rfl ?_ ?_ ?_, fun document content resources => .of_rules rfl
    (a1a.checkContent document content resources) (a1b.checkContent document content resources)
    (x3.checkContent document content resources),
    fun subject => .of_rules rfl (a1a.check subject) (a1b.check subject) (x3.check subject)⟩
  · exact a1a.checkDocument document (congrArg (Except.mapError StreamFailure.toFailure))
  · exact a1b.checkDocument document (congrArg (Except.mapError StreamFailure.toFailure))
  · exact x3.checkDocument document fun h => h.mapError StreamFailure.toFailure

attribute [local instance] StreamDecoder.withoutFilters

/-- Two forms in a circle pass every level, as they pass the strict one; RGB passes the others only. -/
theorem orderedVerdicts_formCircle :
    (∀ level, ((ofLevel .x1a).requiring level).checkDocument formCircle = .ok ()) ∧
      ((ofLevel .x1a).requiring .x1a).check .rgb = .error (.violation .rgb .rgb) ∧
      ((ofLevel .x1a).requiring .x3).check .rgb = .ok () := by
  obtain ⟨documents, -, -⟩ := (ofLevel .x1a).orderedVerdicts
  exact ⟨(documents formCircle).passes checkDocument_formCircle, rfl, rfl⟩

end Settings

end Preflight
