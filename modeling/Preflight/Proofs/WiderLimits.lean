import Mathlib
import Preflight.Proofs.ComparedWalks

/-!
# Wider limits

The limits can end a check, but they do not decide it: what is judged without exceeding a limit is
judged in the same way wherever the limits are wider. Each check with the narrow limits gives the
result of the same check with the wide ones, or the failure that a limit is exceeded, and no step
turns that failure into anything else.
-/

namespace Preflight

/-! ## Failures at a limit -/

/-- A limit is exceeded. -/
def Failure.IsLimit : Failure → Prop
  | limitExceeded .. => True
  | _ => False

/-- A limit is exceeded. -/
def StreamFailure.IsLimit : StreamFailure → Prop
  | general failure => failure.IsLimit
  | _ => False

theorem StreamFailure.isLimit_limitExceeded (limit : Limit) (allowed actual : ℕ) :
    (limitExceeded limit allowed actual).IsLimit := trivial

theorem StreamFailure.isLimit_toFailure {failure : StreamFailure} (h : failure.IsLimit) :
    failure.toFailure.IsLimit := by
  cases failure with
  | general failure => exact h
  | _ => exact h.elim

/-- The first result is the second one, or says that a limit is exceeded. -/
def UnlessLimited {α : Type} (x y : Except StreamFailure α) : Prop :=
  x = y ∨ ∃ failure, failure.IsLimit ∧ x = .error failure

namespace UnlessLimited

variable {α β : Type}

theorem refl (x : Except StreamFailure α) : UnlessLimited x x := Or.inl rfl

theorem limitExceeded (limit : Limit) (allowed actual : ℕ) (y : Except StreamFailure α) :
    UnlessLimited (.error (.limitExceeded limit allowed actual)) y :=
  Or.inr ⟨_, StreamFailure.isLimit_limitExceeded limit allowed actual, rfl⟩

theorem bind {x y : Except StreamFailure α} {f g : α → Except StreamFailure β}
    (first : UnlessLimited x y) (following : ∀ a, UnlessLimited (f a) (g a)) :
    UnlessLimited (x >>= f) (y >>= g) := by
  rcases first with rfl | ⟨failure, limit, rfl⟩
  · cases x with
    | error other => exact Or.inl rfl
    | ok a => exact following a
  · exact Or.inr ⟨failure, limit, rfl⟩

/-- Where the first result does not say so, it is the second one. -/
theorem eq_of_settled {x y : Except StreamFailure α} (h : UnlessLimited x y)
    (settled : ∀ failure, x = .error failure → ¬failure.IsLimit) : y = x := by
  rcases h with same | ⟨failure, limit, limited⟩
  · exact same.symm
  · exact absurd limit (settled failure limited)

/-- A longer stream may be obeyed with the wider limit. -/
theorem obeyOperators {f g : List Operator → Except StreamFailure α} {limit wide : ℕ}
    (within : limit ≤ wide) (h : ∀ operators, UnlessLimited (f operators) (g operators))
    (content : Bytes) :
    UnlessLimited (obeyOperators (some limit) content f) (obeyOperators (some wide) content g) := by
  unfold Preflight.obeyOperators
  by_cases long : limit < content.length
  · rw [show (some limit).filter (· < content.length) = some limit by simp [long]]
    exact limitExceeded ..
  · have fits : ¬wide < content.length := fun above => long (within.trans_lt above)
    rw [show (some limit).filter (· < content.length) = none by simp; omega,
      show (some wide).filter (· < content.length) = none by simp; omega]
    exact (h _).bind fun _ => refl _

theorem congruence : Congruence fun _ x y => UnlessLimited x y := ⟨.refl, .bind⟩

end UnlessLimited

/-! ## Colors and color spaces -/

namespace ColorSpace

theorem checkWithin_unlessLimited (maxDepth wideDepth : ℕ) {level more : ℕ} (h : level ≤ more)
    (space : ColorSpace) :
    UnlessLimited (space.checkWithin maxDepth level) (space.checkWithin wideDepth more) := by
  induction level generalizing more space with
  | zero => exact .limitExceeded ..
  | succ level ih =>
    obtain ⟨more, rfl⟩ := Nat.exists_eq_add_of_le' ((Nat.le_add_left 1 level).trans h)
    have less := Nat.le_of_succ_le_succ h
    cases space with
    | deviceGray | deviceRgb | deviceCmyk | calGray | calRgb | lab | pattern => exact .refl _
    | iccBased _ inner | separation _ inner | deviceN _ inner => exact ih less inner
    | indexed inner _ _ | patternOver inner => exact ih less inner

variable {document : Option Document} {nested wider : Object → Except StreamFailure (Option ColorSpace)}

theorem resolveItem_unlessLimited (h : ∀ object, UnlessLimited (nested object) (wider object))
    (items : List Object) (index : ℕ) :
    UnlessLimited (resolveItem nested items index) (resolveItem wider items index) := by
  unfold resolveItem
  split
  · exact h _
  · exact .refl _

variable [StreamDecoder]

theorem resolveArray_unlessLimited (h : ∀ object, UnlessLimited (nested object) (wider object))
    (items : List Object) :
    UnlessLimited (resolveArray document nested items) (resolveArray document wider items) := by
  unfold resolveArray
  have item (index : ℕ) := resolveItem_unlessLimited h items index
  simp only
  -- The families of which the definition holds another one, and the others.
  split
  · exact .refl _
  · exact .refl _
  · exact .refl _
  · exact .refl _
  · split
    · exact .refl _
    · split
      · exact (h _).bind fun _ => .refl _
      · exact .refl _
  · exact (item 1).bind fun _ => .refl _
  · exact (item 1).bind fun _ => .refl _
  · split
    · exact .refl _
    · exact (item 2).bind fun _ => .refl _
  · split
    · exact .refl _
    · exact (item 2).bind fun _ => .refl _
  · exact (item 1).bind fun _ => .refl _
  · exact .refl _

theorem resolveWithin_unlessLimited (maxDepth wideDepth : ℕ) {level more : ℕ} (h : level ≤ more)
    (object : Object) :
    UnlessLimited (resolveWithin document maxDepth level object)
      (resolveWithin document wideDepth more object) := by
  -- On the levels that are left; a definition within an array is resolved with one level less.
  induction level generalizing more object with
  | zero => exact .limitExceeded ..
  | succ level ih =>
    obtain ⟨more, rfl⟩ := Nat.exists_eq_add_of_le' ((Nat.le_add_left 1 level).trans h)
    rw [resolveWithin, resolveWithin]
    split
    · exact .refl _
    · exact resolveArray_unlessLimited (ih (Nat.le_of_succ_le_succ h)) _
    · exact .refl _

theorem resolve_unlessLimited {maxDepth wideDepth : ℕ} (h : maxDepth ≤ wideDepth)
    (object : Object) :
    UnlessLimited (resolve document maxDepth object) (resolve document wideDepth object) :=
  resolveWithin_unlessLimited maxDepth wideDepth (Nat.succ_le_succ h) object

end ColorSpace

theorem Color.checkWithin_unlessLimited (maxDepth wideDepth : ℕ) {level more : ℕ}
    (h : level ≤ more) (color : Color) :
    UnlessLimited (color.checkWithin maxDepth level) (color.checkWithin wideDepth more) := by
  induction level generalizing more color with
  | zero => exact .limitExceeded ..
  | succ level ih =>
    obtain ⟨more, rfl⟩ := Nat.exists_eq_add_of_le' ((Nat.le_add_left 1 level).trans h)
    have less := Nat.le_of_succ_le_succ h
    cases color with
    | gray _ | rgb _ _ _ | cmyk _ _ _ _ => exact .refl _
    | separation name tint inner => exact ih less inner
    | shading space => exact ColorSpace.checkWithin_unlessLimited maxDepth wideDepth less space
    | pattern inner => exact ih less inner

namespace Settings

/-- The same level with limits that are nowhere narrower. -/
structure Within (settings wider : Settings) : Prop where
  level_eq : settings.level = wider.level
  colorDepth_le : settings.maxColorDepth ≤ wider.maxColorDepth
  recursionDepth_le : settings.maxRecursionDepth ≤ wider.maxRecursionDepth
  streamBytes_le : settings.maxStreamBytes ≤ wider.maxStreamBytes

namespace Within

variable {settings wider : Settings} (within : settings.Within wider)
include within

theorem checkColor (color : Color) :
    UnlessLimited (settings.checkColor color) (wider.checkColor color) := by
  unfold Settings.checkColor
  rw [within.level_eq]
  split
  · exact Color.checkWithin_unlessLimited _ _ (Nat.succ_le_succ within.colorDepth_le) color
  · exact .refl _

variable [StreamDecoder]

theorem compares (document : Option Document) :
    Compares (fun _ x y => UnlessLimited x y) document settings wider where
  congruence := UnlessLimited.congruence
  color := within.checkColor
  resolve := ColorSpace.resolve_unlessLimited within.colorDepth_le

/-! ## Content streams and subjects -/

/-- A content stream is judged in the same way with no fewer levels, unless a limit is exceeded. -/
theorem checkContentWithin (document : Option Document) {level more : ℕ} (h : level ≤ more)
    (content : Bytes) (resources : Dictionary) :
    UnlessLimited (settings.checkContentWithin document level content resources)
      (wider.checkContentWithin document more content resources) := by
  -- On the levels that are left; a tiling pattern is judged with one level less.
  induction level generalizing more content resources with
  | zero => exact .limitExceeded ..
  | succ level ih =>
    obtain ⟨more, rfl⟩ := Nat.exists_eq_add_of_le' ((Nat.le_add_left 1 level).trans h)
    rw [Settings.checkContentWithin, Settings.checkContentWithin]
    refine UnlessLimited.bind (UnlessLimited.obeyOperators within.streamBytes_le
      (fun operators => ?_) content) fun _ => .refl _
    exact (within.compares document).steps (ih (Nat.le_of_succ_le_succ h)) operators
      PaintState.initial

theorem checkContent (document : Option Document) (content : Bytes) (resources : Dictionary) :
    UnlessLimited (settings.checkContent document content resources)
      (wider.checkContent document content resources) := by
  unfold Settings.checkContent checkContentAt
  rw [within.level_eq]
  split
  · exact .refl _
  · rw [if_neg (Nat.not_lt_zero _), if_neg (Nat.not_lt_zero _)]
    exact within.checkContentWithin document (Nat.succ_le_succ within.recursionDepth_le) content
      resources

theorem checkImage (document : Option Document) (image : Dictionary) :
    UnlessLimited (settings.checkImage document image) (wider.checkImage document image) := by
  unfold Settings.checkImage
  rw [within.level_eq]
  split
  · exact .refl _
  split
  · split
    · unfold checkImageSpace
      split
      · exact .refl _
      · refine (ColorSpace.resolve_unlessLimited within.colorDepth_le _).bind fun space? => ?_
        exact .refl _
      · exact .refl _
    · exact .refl _
  · exact .refl _

theorem check (subject : Subject) :
    UnlessLimited (settings.check subject) (wider.check subject) := by
  unfold Settings.check
  rw [within.level_eq]
  split
  · exact .refl _
  · cases subject with
    | color color => exact within.checkColor color
    | image document dictionary => exact within.checkImage document dictionary
    | content document stream =>
      exact (UnlessLimited.refl _).bind fun content => within.checkContent document content _
    | cmyk | rgb | font _ | graphicsState _ _ | layer => exact .refl _

/-! ## Documents -/

theorem comparesWalks (document : Document) :
    ComparesWalks (fun _ x y => UnlessLimited x y) document settings wider :=
  ⟨within.compares (some document), within.check⟩

/-- A content stream and its resources are walked in the same way, unless a limit is exceeded. -/
theorem checkContentTree (document : Document) {level more : ℕ} (h : level ≤ more) (content : Bytes)
    (resources : Dictionary) (before : List ObjectId) :
    UnlessLimited (settings.checkContentTree document level content resources before)
      (wider.checkContentTree document more content resources before) := by
  -- On the levels that are left; what was met before a form is the same in both walks.
  induction level generalizing more content resources before with
  | zero => exact .limitExceeded ..
  | succ level ih =>
    obtain ⟨more, rfl⟩ := Nat.exists_eq_add_of_le' ((Nat.le_add_left 1 level).trans h)
    rw [checkContentTree_succ, checkContentTree_succ]
    refine (within.checkContentWithin (some document) h content resources).bind fun _ => ?_
    exact (within.comparesWalks document).checkResources (ih (Nat.le_of_succ_le_succ h)) resources
      before

theorem checkPage (document : Document) (page : ObjectId) (before : List ObjectId) :
    UnlessLimited (settings.checkPage document page before)
      (wider.checkPage document page before) := by
  rw [checkPage_eq, checkPage_eq]
  refine (UnlessLimited.refl _).bind fun dictionary => (UnlessLimited.refl _).bind
    fun resources => (UnlessLimited.refl _).bind fun content => ?_
  exact within.checkContentTree document (Nat.succ_le_succ within.recursionDepth_le) content resources
    before

theorem checkCatalog (document : Document) :
    UnlessLimited (settings.checkCatalog document) (wider.checkCatalog document) := by
  unfold Settings.checkCatalog
  split
  · exact .refl _
  · split
    · exact within.check _
    · exact .refl _

/-- A document is judged in the same way, unless a limit is exceeded. -/
theorem checkDocument (document : Document) :
    settings.checkDocument document = wider.checkDocument document ∨
      ∃ failure, failure.IsLimit ∧ settings.checkDocument document = .error failure := by
  have pages := UnlessLimited.congruence.forM_walk (within.checkPage document) document.pages []
  have whole := (within.checkCatalog document).bind fun _ => pages.bind fun _ => .refl (.ok ())
  unfold Settings.checkDocument
  rw [within.level_eq]
  split
  · exact Or.inl rfl
  · rcases whole with same | ⟨failure, limit, limited⟩
    · exact Or.inl (congrArg (Except.mapError StreamFailure.toFailure) same)
    · exact Or.inr ⟨failure.toFailure, failure.isLimit_toFailure limit,
        congrArg (Except.mapError StreamFailure.toFailure) limited⟩

end Within

/-- What a document, a content stream or a subject is judged to be without exceeding a limit, it is
judged to be with all wider limits. -/
theorem verdict_of_within [StreamDecoder] {settings wider : Settings}
    (within : settings.Within wider) :
    (∀ document,
      (∀ failure, settings.checkDocument document = .error failure → ¬failure.IsLimit) →
      wider.checkDocument document = settings.checkDocument document) ∧
    (∀ document content resources,
      (∀ failure, settings.checkContent document content resources = .error failure →
        ¬failure.IsLimit) →
      wider.checkContent document content resources
        = settings.checkContent document content resources) ∧
    ∀ subject,
      (∀ failure, settings.check subject = .error failure → ¬failure.IsLimit) →
      wider.check subject = settings.check subject := by
  refine ⟨fun document settled => ?_, fun document content resources settled => ?_,
    fun subject settled => ?_⟩
  · rcases within.checkDocument document with same | ⟨failure, limit, limited⟩
    · exact same.symm
    · exact absurd limit (settled failure limited)
  · exact (within.checkContent document content resources).eq_of_settled settled
  · exact (within.check subject).eq_of_settled settled

end Settings

/-! ## Two forms in a circle -/

attribute [local instance] StreamDecoder.withoutFilters

/-- The strict level, with room for two forms one below the other and for no nested color space. -/
def tightSettings : Settings where
  level := .x1a
  maxColorDepth := 1
  maxRecursionDepth := 2
  maxStreamBytes := 20

theorem tightSettings_within : tightSettings.Within (.ofLevel .x1a) where
  level_eq := rfl
  colorDepth_le := by decide
  recursionDepth_le := by decide
  streamBytes_le := by decide

theorem checkDocument_tightSettings : tightSettings.checkDocument formCircle = .ok () := by
  unfold Settings.checkDocument
  rw [pages_formCircle]
  decide +kernel

theorem verdict_of_within_formCircle :
    tightSettings.Within (.ofLevel .x1a) ∧ tightSettings.checkDocument formCircle = .ok () ∧
      (Settings.ofLevel .x1a).checkDocument formCircle = .ok () ∧
      (Settings.ofLevel .x1a).check .rgb = tightSettings.check .rgb := by
  obtain ⟨documents, -, subjects⟩ := Settings.verdict_of_within tightSettings_within
  refine ⟨tightSettings_within, checkDocument_tightSettings, ?_, ?_⟩
  · rw [documents formCircle fun failure fails => ?_]
    · exact checkDocument_tightSettings
    · cases checkDocument_tightSettings.symm.trans fails
  · refine subjects .rgb fun failure fails limit => ?_
    cases fails
    exact limit

end Preflight
