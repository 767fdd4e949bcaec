import Mathlib
import Preflight.Check.Document
import Preflight.Conversion.Document
import Preflight.Proofs.DepthLimit

/-!
# Walks over external objects

One step of a walk is given by one equation each for an external object, an entry, the resources and
a content stream. From them follows what a walk that succeeds accounts for: it forgets nothing that
was met before, and whatever it met was judged with the resources of some user, in a walk that met
nothing else.
-/

namespace Preflight

/-! ## Resources that a page uses -/

namespace Document

variable (document : Document)

/-- The subtype of an external object. -/
def subtype? (stream : Stream) : Option String :=
  (stream.dictionary.resolved? (some document) "Subtype").bind Object.name?

/-- The own resources of a form. -/
def ownResources? (form : Stream) : Option Dictionary :=
  form.dictionary.dictionary? (some document) "Resources"

/-- Resources list a form. -/
def ListsForm (resources : Dictionary) (form : Stream) : Prop :=
  document.subtype? form = some "Form" ∧
    ∃ entry ∈ document.externalObjects resources,
      (entry.resolve (some document)).stream? = some form

/-- The resources that a page uses: its own or inherited ones, and the own resources of every form
that such resources list. -/
inductive UsesResources (page : ObjectId) : Dictionary → Prop where
  | page {resources : Dictionary} (found : document.pageResources page = .ok resources) :
      UsesResources page resources
  | form {resources own : Dictionary} {form : Stream} (used : UsesResources page resources)
      (listed : document.ListsForm resources form)
      (own_found : document.ownResources? form = some own) : UsesResources page own

end Document

theorem eq_reference {entry : Object} {id : ObjectId} (h : entry.reference? = some id) :
    entry = .reference id := by
  cases entry with
  | reference other => exact congrArg Object.reference (Option.some.inj h)
  | _ => cases h

/-! ## Steps of a walk -/

section Steps

variable {α β : Type}

theorem walk_bind_eq_ok {x : Walk α} {f : α → Walk β} {b : β} {before after : List ObjectId} :
    (x >>= f) before = .ok (b, after) ↔
      ∃ a seen, x before = .ok (a, seen) ∧ f a seen = .ok (b, after) := by
  show (x before >>= fun p => f p.1 p.2) = _ ↔ _
  rw [bind_eq_ok, Prod.exists]

theorem walk_lift_bind (x : Except StreamFailure α) (f : α → Walk β) (before : List ObjectId) :
    (liftM x >>= f : Walk β) before = x >>= fun a => f a before := by
  cases x <;> rfl

/-- A walk that does nothing stands still. -/
theorem forM_still (entries : List α) (seen : List ObjectId) :
    entries.forM (fun _ => (pure () : Walk Unit)) seen = .ok ((), seen) := by
  induction entries with
  | nil => rfl
  | cons entry entries ih => exact ih

theorem run_forM_cons (f : α → Walk Unit) (first : α) (back : List α) (seen : List ObjectId) :
    ((first :: back).forM f).run' seen = f first seen >>= fun p => (back.forM f).run' p.2 := by
  show Prod.fst <$> (f first seen >>= fun p => back.forM f p.2) = _
  cases f first seen <;> rfl

/-- A walk of several things that fails does so at one of them, with what its steps keep. -/
theorem exists_of_walk_error {f : α → Walk Unit} {items : List α} {before : List ObjectId}
    {failure : StreamFailure} {P : List ObjectId → Prop}
    (keeps : ∀ item ∈ items, ∀ seen after, P seen → f item seen = .ok ((), after) → P after)
    (start : P before) (failed : items.forM f before = .error failure) :
    ∃ item ∈ items, ∃ middle, P middle ∧ f item middle = .error failure := by
  induction items generalizing before with
  | nil => cases failed
  | cons item items ih =>
    have failed : (f item before >>= fun p => items.forM f p.2) = .error failure := failed
    cases first : f item before with
    | error other =>
      rw [first] at failed
      cases failed
      exact ⟨item, List.mem_cons_self, before, start, first⟩
    | ok passed =>
      obtain ⟨⟨⟩, after⟩ := passed
      rw [first, ok_bind] at failed
      rw [List.forall_mem_cons] at keeps
      obtain ⟨other, member, middle, kept, stops⟩ :=
        ih keeps.2 (keeps.1 before after start first) failed
      exact ⟨other, List.mem_cons_of_mem _ member, middle, kept, stops⟩

end Steps

namespace Settings

variable [StreamDecoder] (settings : Settings) (document : Document)
variable (deeper : Bytes → Dictionary → Walk Unit) (resources : Dictionary)

theorem checkExternalObject_eq (object : Object) (before : List ObjectId) :
    settings.checkExternalObject document deeper resources object before =
      match object.stream? with
      | none => .ok ((), before)
      | some stream =>
        if document.subtype? stream = some "Image" then
          (settings.check (.image (some document) stream.dictionary)).map fun _ => ((), before)
        else if document.subtype? stream = some "Form" then
          stream.content >>= fun content =>
            deeper content (formResources document resources stream) before
        else .ok ((), before) := by
  unfold checkExternalObject
  cases object.stream? with
  | none => rfl
  | some stream =>
    simp only [show (stream.dictionary.resolved? (some document) "Subtype").bind Object.name?
      = document.subtype? stream from rfl]
    generalize document.subtype? stream = subtype?
    split
    · rw [if_pos rfl]
      cases settings.check (.image (some document) stream.dictionary) <;> rfl
    · rw [if_neg (by decide), if_pos rfl]
      exact walk_lift_bind ..
    · next not_image not_form =>
      rw [if_neg not_image, if_neg not_form]
      rfl

theorem checkExternalEntry_eq (entry : Object) (before : List ObjectId) :
    settings.checkExternalEntry document deeper resources entry before =
      match entry.reference? with
      | some id =>
        if id ∈ before then .ok ((), before)
        else settings.checkExternalObject document deeper resources
          (entry.resolve (some document)) (id :: before)
      | none =>
        settings.checkExternalObject document deeper resources (entry.resolve (some document))
          before := by
  unfold checkExternalEntry
  cases entry.reference? with
  | none => rfl
  | some id =>
    simp only
    show (Walk.visit id before >>= fun p => _) = _
    unfold Walk.visit
    split <;> rfl

theorem checkResources_eq (before : List ObjectId) :
    settings.checkResources document deeper resources before =
      (settings.checkOwnResources document resources >>= fun _ =>
        (document.externalObjects resources).forM
          (settings.checkExternalEntry document deeper resources) before) := by
  unfold checkResources Document.externalObjects
  rw [List.forM_eq_forM, List.forM_eq_forM, List.forM_map]
  exact walk_lift_bind ..

theorem checkContentTree_succ (level : ℕ) (content : Bytes) (before : List ObjectId) :
    settings.checkContentTree document (level + 1) content resources before =
      (settings.checkContentWithin (some document) (level + 1) content resources >>= fun _ =>
        settings.checkResources document (settings.checkContentTree document level) resources
          before) := by
  rw [checkContentTree]
  exact walk_lift_bind ..

/-- Judge entries of the external objects of resources, with the levels that are left. -/
abbrev checkEntries (level : ℕ) (resources : Dictionary) (entries : List Object) : Walk Unit :=
  entries.forM
    (settings.checkExternalEntry document (settings.checkContentTree document level) resources)

variable {settings document resources} in
/-- A walk succeeds if the content and what its resources hold themselves pass, and so do the walks
of all external objects. -/
theorem checkContentTree_succ_eq_ok {level : ℕ} {content : Bytes} {before after : List ObjectId} :
    settings.checkContentTree document (level + 1) content resources before = .ok ((), after) ↔
      settings.checkContentWithin (some document) (level + 1) content resources = .ok () ∧
        settings.checkOwnResources document resources = .ok () ∧
        settings.checkEntries document level resources (document.externalObjects resources) before
          = .ok ((), after) := by
  rw [checkContentTree_succ, bind_eq_ok, checkResources_eq, bind_eq_ok]
  constructor
  · rintro ⟨_, content_ok, _, own_ok, walk⟩
    exact ⟨content_ok, own_ok, walk⟩
  · rintro ⟨content_ok, own_ok, walk⟩
    exact ⟨(), content_ok, (), own_ok, walk⟩

/-! ## What a walk accounts for -/

/-- A content stream was walked with resources, and no reference outside `seen` was met on the way.
-/
def Walked (seen : List ObjectId) (content : Bytes) (resources : Dictionary) : Prop :=
  ∃ level before after, level ≤ settings.maxRecursionDepth + 1 ∧
    settings.checkContentTree document level content resources before = .ok ((), after) ∧
    after ⊆ seen

/-- An external object that `user` lists was judged: an image by itself, and the content of a form
by a walk. -/
def Judged (seen : List ObjectId) (user : Dictionary) (object : Object) : Prop :=
  ∀ stream, object.stream? = some stream →
    (document.subtype? stream = some "Image" →
      settings.check (.image (some document) stream.dictionary) = .ok ()) ∧
    (document.subtype? stream = some "Form" → ∃ content, stream.content = .ok content ∧
      settings.Walked document seen content (formResources document user stream))

/-- An entry of the external objects of `user` was met: as a reference, or else it was judged. -/
def Met (seen : List ObjectId) (user : Dictionary) (entry : Object) : Prop :=
  match entry.reference? with
  | some id => id ∈ seen
  | none => settings.Judged document seen user (entry.resolve (some document))

variable (users : Dictionary → Prop)

/-- A content stream passes with resources, and these pass as well: their fonts, graphics states and
shadings, and all entries of theirs were met. -/
structure Passed (seen : List ObjectId) (content : Bytes) (resources : Dictionary) : Prop where
  content_ok : settings.checkContentWithin (some document) (settings.maxRecursionDepth + 1) content
    resources = .ok ()
  own_ok : settings.checkOwnResources document resources = .ok ()
  met : ∀ entry ∈ document.externalObjects resources, settings.Met document seen resources entry

/-- What a reference leads to was judged as an object of one of the users that list it. -/
def Accounted (seen : List ObjectId) (id : ObjectId) : Prop :=
  ∃ user, users user ∧ .reference id ∈ document.externalObjects user ∧
    settings.Judged document seen user ((Object.reference id).resolve (some document))

/-- From one set of references to another: nothing is forgotten, and what is new is accounted for.
-/
structure Grows (before after : List ObjectId) : Prop where
  /-- Nothing is forgotten. -/
  subset : before ⊆ after
  /-- What is new is accounted for. -/
  accounted : ∀ id ∈ after, id ∈ before ∨ settings.Accounted document users after id

variable {settings document users} {seen more before middle after : List ObjectId}

theorem Walked.mono {content : Bytes} {resources : Dictionary} (subset : seen ⊆ more)
    (h : settings.Walked document seen content resources) :
    settings.Walked document more content resources := by
  obtain ⟨level, before, after, shallow, walk, within⟩ := h
  exact ⟨level, before, after, shallow, walk, List.Subset.trans within subset⟩

theorem Judged.mono {user : Dictionary} {object : Object} (subset : seen ⊆ more)
    (h : settings.Judged document seen user object) : settings.Judged document more user object := by
  intro stream found
  obtain ⟨image, form⟩ := h stream found
  refine ⟨image, fun subtype => ?_⟩
  obtain ⟨content, content_ok, walked⟩ := form subtype
  exact ⟨content, content_ok, walked.mono subset⟩

theorem Met.mono {user : Dictionary} {entry : Object} (subset : seen ⊆ more)
    (h : settings.Met document seen user entry) : settings.Met document more user entry := by
  unfold Met at h ⊢
  split at h
  · exact subset h
  · exact h.mono subset

theorem Accounted.mono {id : ObjectId} (subset : seen ⊆ more)
    (h : settings.Accounted document users seen id) :
    settings.Accounted document users more id := by
  obtain ⟨user, used, listed, judged⟩ := h
  exact ⟨user, used, listed, judged.mono subset⟩

theorem Grows.refl (before : List ObjectId) : settings.Grows document users before before :=
  ⟨List.Subset.refl before, fun _ member => Or.inl member⟩

theorem Grows.trans (first : settings.Grows document users before middle)
    (second : settings.Grows document users middle after) :
    settings.Grows document users before after := by
  refine ⟨List.Subset.trans first.subset second.subset, fun id member => ?_⟩
  rcases second.accounted id member with known | accounted
  · exact (first.accounted id known).imp_right fun accounted => accounted.mono second.subset
  · exact Or.inr accounted

/-! ## What the success of a walk says -/

section Success

variable (closed : ∀ {user own form}, users user → document.ListsForm user form →
  document.ownResources? form = some own → users own)
include closed

omit [StreamDecoder] in
theorem users_formResources {user : Dictionary} {form : Stream} (used : users user)
    (listed : document.ListsForm user form) : users (formResources document user form) := by
  unfold formResources
  cases own : form.dictionary.dictionary? (some document) "Resources" with
  | none => exact used
  | some resources => exact closed used listed own

variable {level : ℕ} (shallow : level ≤ settings.maxRecursionDepth + 1)
  (grows : ∀ {content resources before after}, users resources →
    settings.checkContentTree document level content resources before = .ok ((), after) →
    settings.Grows document users before after)
include shallow grows

/-- An external object that passes was judged, and what its walk met is accounted for. -/
theorem checkExternalObject_ok {user : Dictionary} {entry : Object} (used : users user)
    (listed : entry ∈ document.externalObjects user)
    (h : settings.checkExternalObject document (settings.checkContentTree document level) user
      (entry.resolve (some document)) before = .ok ((), after)) :
    settings.Grows document users before after ∧
      settings.Judged document after user (entry.resolve (some document)) := by
  rw [checkExternalObject_eq] at h
  split at h
  · next other =>
    cases h
    refine ⟨.refl _, fun stream found => ?_⟩
    rw [other] at found
    cases found
  next stream found =>
  -- What was judged is said of every stream that the object is, so of the one that was found.
  have only {stream'} (found' : (entry.resolve (some document)).stream? = some stream') :
      stream = stream' := Option.some.inj (found.symm.trans found')
  split at h
  · next image =>
    obtain ⟨_, passes, same⟩ := map_eq_ok.1 h
    cases same
    refine ⟨.refl _, fun stream' found' => ?_⟩
    cases only found'
    exact ⟨fun _ => passes, fun form => absurd (image.symm.trans form) (by decide)⟩
  next not_image =>
  split at h
  · next form =>
    obtain ⟨content, content_ok, walk⟩ := bind_eq_ok.1 h
    have growing := grows (users_formResources closed used ⟨form, entry, listed, found⟩) walk
    refine ⟨growing, fun stream' found' => ?_⟩
    cases only found'
    exact ⟨fun image => absurd image not_image, fun _ =>
      ⟨content, content_ok, level, before, after, shallow, walk, List.Subset.refl after⟩⟩
  · next not_form =>
    cases h
    refine ⟨.refl _, fun stream' found' => ?_⟩
    cases only found'
    exact ⟨fun image => absurd image not_image, fun form => absurd form not_form⟩

/-- An entry that passes was met. -/
theorem checkExternalEntry_ok {user : Dictionary} {entry : Object} (used : users user)
    (listed : entry ∈ document.externalObjects user)
    (h : settings.checkExternalEntry document (settings.checkContentTree document level) user entry
      before = .ok ((), after)) :
    settings.Grows document users before after ∧ settings.Met document after user entry := by
  rw [checkExternalEntry_eq] at h
  unfold Met
  split at h
  · next id reference =>
    split at h
    · next known =>
      cases h
      exact ⟨.refl _, known⟩
    · obtain ⟨growing, judged⟩ := checkExternalObject_ok closed shallow grows used listed h
      have met : id ∈ after := growing.subset List.mem_cons_self
      refine ⟨⟨fun other member => growing.subset (List.mem_cons_of_mem _ member),
        fun other member => ?_⟩, met⟩
      rcases growing.accounted other member with known | accounted
      · rcases List.mem_cons.1 known with rfl | known
        · cases eq_reference reference
          exact Or.inr ⟨user, used, listed, judged⟩
        · exact Or.inl known
      · exact Or.inr accounted
  · exact checkExternalObject_ok closed shallow grows used listed h

/-- Entries that pass, one after the other, were all met. -/
theorem checkEntries_ok {user : Dictionary} (used : users user) {entries : List Object}
    (listed : entries ⊆ document.externalObjects user)
    (h : settings.checkEntries document level user entries before = .ok ((), after)) :
    settings.Grows document users before after ∧
      ∀ entry ∈ entries, settings.Met document after user entry := by
  induction entries generalizing before with
  | nil =>
    cases h
    exact ⟨.refl _, fun entry member => absurd member List.not_mem_nil⟩
  | cons entry entries ih =>
    obtain ⟨_, middle, first, following⟩ := walk_bind_eq_ok.1 h
    obtain ⟨growing, met⟩ := checkExternalEntry_ok closed shallow grows used
      (listed List.mem_cons_self) first
    obtain ⟨growing_more, met_more⟩ :=
      ih (fun other member => listed (List.mem_cons_of_mem _ member)) following
    exact ⟨growing.trans growing_more,
      List.forall_mem_cons.2 ⟨met.mono growing_more.subset, met_more⟩⟩

omit shallow grows in
/-- A walk that succeeds accounts for what it met. -/
theorem checkContentTree_ok {content : Bytes} {resources : Dictionary} (used : users resources)
    (shallow : level ≤ settings.maxRecursionDepth + 1)
    (h : settings.checkContentTree document level content resources before = .ok ((), after)) :
    settings.Grows document users before after := by
  -- On the levels that are left; the entries of the resources are walked with one level less.
  induction level generalizing content resources before after with
  | zero => cases h
  | succ level ih =>
    obtain ⟨-, -, walk⟩ := checkContentTree_succ_eq_ok.1 h
    have less := Nat.le_of_succ_le shallow
    exact (checkEntries_ok closed less (fun used walk => ih used less walk) used
      (List.Subset.refl _) walk).1

end Success

/-- What was walked passes, also with all levels. -/
theorem Walked.passes {content : Bytes} {resources : Dictionary}
    (h : settings.Walked document seen content resources) :
    settings.Passed document seen content resources := by
  obtain ⟨level, before, after, shallow, walk, within⟩ := h
  cases level with
  | zero => cases walk
  | succ level =>
    obtain ⟨content_ok, own, walk⟩ := checkContentTree_succ_eq_ok.1 walk
    have less := Nat.le_of_succ_le shallow
    have closed {user own form} (_ : True) (_ : document.ListsForm user form)
        (_ : document.ownResources? form = some own) : True := trivial
    obtain ⟨-, met⟩ := checkEntries_ok closed less
      (fun used walk => checkContentTree_ok closed used less walk) trivial (List.Subset.refl _) walk
    exact ⟨(settings.checkContentWithin_cutShort (some document) shallow content
        resources).eq_ok content_ok, own,
      fun entry member => (met entry member).mono within⟩

end Settings

end Preflight
