import Mathlib
import Preflight.Proofs.RepeatedWalks

/-!
# Pages that pass by themselves

A page that passes in a walk of its own passes in the walk over several pages too, which has met more
objects before. An object that this walk passes over was judged with all that it lists; only a form
without resources of its own makes a difference, since there the other walk goes on with the
resources of the user. What is met there would be met next in any case, one level higher.
-/

namespace Preflight

/-- The single walk has met what the walk of its own has met, and what is in `seen`. -/
def Joined (seen shared own : List ObjectId) : Prop := ∀ id, id ∈ shared ↔ id ∈ own ∨ id ∈ seen

theorem Joined.cons {seen shared own : List ObjectId} (h : Joined seen shared own) (id : ObjectId) :
    Joined seen (id :: shared) (id :: own) := by
  intro other
  rw [List.mem_cons, List.mem_cons, h other, or_assoc]

theorem Joined.met {seen shared own : List ObjectId} (h : Joined seen shared own) {id : ObjectId}
    (met : id ∈ seen) : Joined seen shared (id :: own) := by
  intro other
  rw [List.mem_cons, h other]
  constructor
  · exact fun known => known.imp_left Or.inr
  · rintro ((rfl | known) | known)
    · exact Or.inr met
    · exact Or.inl known
    · exact Or.inr known

/-- Entries that pass are entries of which a first part passes, and then the others. -/
theorem forM_append_eq_ok {f : Object → Walk Unit} {front back : List Object}
    {before after : List ObjectId} :
    (front ++ back).forM f before = .ok ((), after) ↔
      ∃ middle, front.forM f before = .ok ((), middle) ∧ back.forM f middle = .ok ((), after) := by
  induction front generalizing before with
  | nil =>
    constructor
    · exact fun h => ⟨before, rfl, h⟩
    · rintro ⟨middle, same, h⟩
      cases same
      exact h
  | cons entry front ih =>
    show (f entry >>= fun _ => (front ++ back).forM f) before = _ ↔
      ∃ middle, (f entry >>= fun _ => front.forM f) before = _ ∧ _
    rw [walk_bind_eq_ok]
    constructor
    · rintro ⟨_, first, entry_ok, h⟩
      obtain ⟨middle, front_ok, back_ok⟩ := ih.1 h
      exact ⟨middle, walk_bind_eq_ok.2 ⟨_, first, entry_ok, front_ok⟩, back_ok⟩
    · rintro ⟨middle, h, back_ok⟩
      obtain ⟨_, first, entry_ok, front_ok⟩ := walk_bind_eq_ok.1 h
      exact ⟨_, first, entry_ok, ih.2 ⟨middle, front_ok, back_ok⟩⟩

namespace Settings

variable [StreamDecoder] {settings : Settings} {document : Document}
  {seen shared own : List ObjectId}

/-! ## The entries of the resources -/

theorem checkEntries_again {level : ℕ} (shallow : level ≤ settings.maxRecursionDepth + 1)
    {resources : Dictionary} {entries : List Object} {before after : List ObjectId}
    (listed : entries ⊆ document.externalObjects resources)
    (walk : settings.checkEntries document level resources entries before = .ok ((), after)) :
    settings.checkEntries document level resources entries after = .ok ((), after) :=
  (checkEntries_rerun (fun walk within => checkContentTree_rerun shallow walk within) shallow listed
    walk (List.Subset.refl after)).2

/-- What a walk passes at one level less, it passes at its own level. -/
theorem checkEntries_of_walk {level : ℕ} {content : Bytes} {resources : Dictionary}
    {before after : List ObjectId}
    (walk : settings.checkContentTree document level content resources before = .ok ((), after)) :
    settings.checkEntries document level resources (document.externalObjects resources) before
      = .ok ((), after) := by
  cases level with
  | zero => cases walk
  | succ level =>
    obtain ⟨-, -, walk⟩ := checkContentTree_succ_eq_ok.1 walk
    have deeper (content : Bytes) (own : Dictionary) (before : List ObjectId) :
        CutShort settings.depthFailure (settings.checkContentTree document level content own before)
          (settings.checkContentTree document (level + 1) content own before) :=
      checkContentTree_cutShort (Nat.le_succ level) content own before
    have congruence := cutShort_congruence settings.depthFailure
    have entries := (ComparesWalks.same congruence document settings).checkExternalEntry deeper
      resources
    exact (congruence.forM_walk entries (document.externalObjects resources) before).eq_ok walk

/-! ## Objects that were met before -/

/-- All external objects that resources list were met. -/
def MetAll (settings : Settings) (document : Document) (seen : List ObjectId)
    (resources : Dictionary) : Prop :=
  ∀ entry ∈ document.externalObjects resources, settings.Met document seen resources entry

variable {users : Dictionary → Prop}

/-- If the external objects that are listed were met, so were those that a form among them lists. -/
theorem MetAll.formResources (covered : settings.Covered document users seen)
    {resources : Dictionary} (met : settings.MetAll document seen resources) {entry : Object}
    (listed : entry ∈ document.externalObjects resources) {form : Stream}
    (found : (entry.resolve (some document)).stream? = some form)
    (subtype : document.subtype? form = some "Form") :
    settings.MetAll document seen (formResources document resources form) := by
  cases own_found : document.ownResources? form with
  | none =>
    rw [formResources_of_none own_found]
    exact met
  | some own =>
    obtain ⟨user, judged⟩ := (met entry listed).judged covered
    obtain ⟨content, -, walked⟩ := (judged form found).2 subtype
    rw [formResources_of_own own_found] at walked ⊢
    exact walked.passes.met

section Within

variable (covered : settings.Covered document users seen) {level : ℕ}
  (within : ∀ {content resources before after}, settings.MetAll document seen resources →
    settings.checkContentTree document level content resources before = .ok ((), after) →
    after ⊆ before ++ seen)
include covered within

theorem checkExternalObject_within {resources : Dictionary}
    (met : settings.MetAll document seen resources) {entry : Object}
    (listed : entry ∈ document.externalObjects resources) {before after : List ObjectId}
    (walk : settings.checkExternalObject document (settings.checkContentTree document level)
      resources (entry.resolve (some document)) before = .ok ((), after)) :
    after ⊆ before ++ seen := by
  rw [checkExternalObject_eq] at walk
  split at walk
  · cases walk
    exact List.subset_append_left _ seen
  next stream found =>
  split at walk
  · obtain ⟨_, -, same⟩ := map_eq_ok.1 walk
    cases same
    exact List.subset_append_left _ seen
  split at walk
  · next subtype =>
    obtain ⟨content, -, walk⟩ := bind_eq_ok.1 walk
    exact within (met.formResources covered listed found subtype) walk
  · cases walk
    exact List.subset_append_left _ seen

theorem checkExternalEntry_within {resources : Dictionary}
    (met : settings.MetAll document seen resources) {entry : Object}
    (listed : entry ∈ document.externalObjects resources) {before after : List ObjectId}
    (walk : settings.checkExternalEntry document (settings.checkContentTree document level)
      resources entry before = .ok ((), after)) : after ⊆ before ++ seen := by
  have entry_met := met entry listed
  rw [checkExternalEntry_eq] at walk
  unfold Met at entry_met
  split at entry_met
  · next id reference =>
    rw [reference] at walk
    simp only at walk
    split at walk
    · cases walk
      exact List.subset_append_left _ seen
    · intro other member
      have known := checkExternalObject_within covered within met listed walk member
      rcases List.mem_append.1 known with known | known
      · rcases List.mem_cons.1 known with rfl | known
        · exact List.mem_append_right before entry_met
        · exact List.mem_append_left seen known
      · exact List.mem_append_right before known
  · next direct =>
    rw [direct] at walk
    exact checkExternalObject_within covered within met listed walk

theorem checkEntries_within {resources : Dictionary}
    (met : settings.MetAll document seen resources) {entries : List Object}
    (listed : entries ⊆ document.externalObjects resources) {before after : List ObjectId}
    (walk : settings.checkEntries document level resources entries before = .ok ((), after)) :
    after ⊆ before ++ seen := by
  induction entries generalizing before with
  | nil =>
    cases walk
    exact List.subset_append_left _ seen
  | cons entry entries ih =>
    obtain ⟨_, middle, first, following⟩ := walk_bind_eq_ok.1 walk
    have first_within :=
      checkExternalEntry_within covered within met (listed List.mem_cons_self) first
    have rest_within := ih (List.subset_of_cons_subset listed) following
    intro id member
    rcases List.mem_append.1 (rest_within member) with known | known
    · exact first_within known
    · exact List.mem_append_right before known

end Within

/-- A walk over what was met before meets nothing new. -/
theorem checkContentTree_within (covered : settings.Covered document users seen) {level : ℕ}
    {content : Bytes} {resources : Dictionary} {before after : List ObjectId}
    (met : settings.MetAll document seen resources)
    (walk : settings.checkContentTree document level content resources before = .ok ((), after)) :
    after ⊆ before ++ seen := by
  -- On the levels that are left. What a form lists was met when the form was judged.
  induction level generalizing content resources before after with
  | zero => cases walk
  | succ level ih =>
    obtain ⟨-, -, walk⟩ := checkContentTree_succ_eq_ok.1 walk
    exact checkEntries_within covered ih met (List.Subset.refl _) walk

/-! ## A walk of its own that passes -/

/-- The single walk passes, and has met what the walk of its own has met in `after`. -/
def PassesJoined (seen after : List ObjectId)
    (result : Except StreamFailure (Unit × List ObjectId)) : Prop :=
  ∃ more, result = .ok ((), more) ∧ Joined seen more after

omit [StreamDecoder] in
theorem PassesJoined.cons {f : Object → Walk Unit} {entry : Object} {back : List Object}
    {next after : List ObjectId} (first : f entry shared = .ok ((), next))
    (following : PassesJoined seen after (back.forM f next)) :
    PassesJoined seen after ((entry :: back).forM f shared) := by
  obtain ⟨more, passes, joined⟩ := following
  exact ⟨more, walk_bind_eq_ok.2 ⟨(), next, first, passes⟩, joined⟩

/-- What the walk of its own passes with a level, the single walk passes too. -/
def Follows (settings : Settings) (document : Document) (seen : List ObjectId) (level : ℕ) : Prop :=
  ∀ {content resources shared own after},
    settings.checkContentTree document level content resources own = .ok ((), after) →
    Joined seen shared own →
    PassesJoined seen after (settings.checkContentTree document level content resources shared)

section Follow

variable (covered : settings.Covered document users seen) {level : ℕ}
  (shallow : level ≤ settings.maxRecursionDepth + 1)
  (follows : settings.Follows document seen level)

include follows in
/-- Both walks judge the same object. -/
theorem checkExternalObject_follow {resources : Dictionary} {object : Object}
    {after : List ObjectId}
    (walk : settings.checkExternalObject document (settings.checkContentTree document level)
      resources object own = .ok ((), after))
    (joined : Joined seen shared own) :
    PassesJoined seen after (settings.checkExternalObject document
      (settings.checkContentTree document level) resources object shared) := by
  rw [checkExternalObject_eq] at walk
  rw [checkExternalObject_eq]
  cases found : object.stream? with
  | none =>
    rw [found] at walk
    cases walk
    exact ⟨shared, rfl, joined⟩
  | some stream =>
    rw [found] at walk
    simp only at walk ⊢
    by_cases image : document.subtype? stream = some "Image"
    · rw [if_pos image] at walk ⊢
      obtain ⟨_, passes, same⟩ := map_eq_ok.1 walk
      cases same
      rw [passes]
      exact ⟨shared, rfl, joined⟩
    rw [if_neg image] at walk ⊢
    by_cases form : document.subtype? stream = some "Form"
    · rw [if_pos form] at walk ⊢
      obtain ⟨content, content_ok, walk⟩ := bind_eq_ok.1 walk
      rw [content_ok]
      exact follows walk joined
    · rw [if_neg form] at walk ⊢
      cases walk
      exact ⟨shared, rfl, joined⟩

include shallow follows in
/-- The walk of its own goes into a form without resources of its own, and so through the list of the
user with one level less. The single walk, which passes over the form, meets the rest of the list at
its own level, and afterwards the walk of its own finds nothing new there. -/
theorem checkEntries_inherited {resources : Dictionary} {entry : Object} {front back : List Object}
    (split : document.externalObjects resources = front ++ entry :: back)
    {start middle after : List ObjectId} {content : Bytes}
    (passed : settings.checkEntries document level resources front start = .ok ((), shared))
    (passes_over : settings.checkExternalEntry document (settings.checkContentTree document level)
      resources entry shared = .ok ((), shared))
    (walk : settings.checkContentTree document level content resources own = .ok ((), middle))
    (following : settings.checkEntries document level resources back middle = .ok ((), after))
    (joined : Joined seen shared own) :
    PassesJoined seen after (settings.checkEntries document level resources back shared) := by
  have front_listed : front ⊆ document.externalObjects resources := by
    rw [split]
    exact List.subset_append_left front _
  have back_listed : back ⊆ document.externalObjects resources := by
    rw [split]
    exact List.Subset.trans (List.subset_cons_self entry back) (List.subset_append_right front _)
  -- The single walk: the front was passed, and the form is passed over.
  obtain ⟨more, shared_walk, more_joined⟩ := follows walk joined
  have shared_list := checkEntries_of_walk shared_walk
  rw [split] at shared_list
  obtain ⟨_, shared_front, shared_back⟩ := forM_append_eq_ok.1 shared_list
  have front_again := checkEntries_again shallow front_listed passed
  cases front_again.symm.trans shared_front
  obtain ⟨_, _, shared_entry, shared_back⟩ := walk_bind_eq_ok.1 shared_back
  cases passes_over.symm.trans shared_entry
  -- The walk of its own: what comes after the form was passed inside it.
  have own_list := checkEntries_of_walk walk
  rw [split] at own_list
  obtain ⟨_, _, own_back⟩ := forM_append_eq_ok.1 own_list
  obtain ⟨_, _, _, own_back⟩ := walk_bind_eq_ok.1 own_back
  have back_again := checkEntries_again shallow back_listed own_back
  cases back_again.symm.trans following
  exact ⟨more, shared_back, more_joined⟩

include covered shallow in
/-- The walk of its own meets nothing new in a form with resources of its own that was met before. -/
theorem joined_of_own {id : ObjectId} {form : Stream} {own_resources : Dictionary}
    {middle : List ObjectId} {content : Bytes} (met : id ∈ seen)
    (found : ((Object.reference id).resolve (some document)).stream? = some form)
    (subtype : document.subtype? form = some "Form")
    (own_found : document.ownResources? form = some own_resources)
    (walk : settings.checkContentTree document level content own_resources (id :: own)
      = .ok ((), middle))
    (joined : Joined seen shared own) : Joined seen shared middle := by
  obtain ⟨user, -, -, judged⟩ := covered id met
  obtain ⟨_, -, walked⟩ := (judged form found).2 subtype
  rw [formResources_of_own own_found] at walked
  have met_all := walked.passes.met
  have within := checkContentTree_within covered met_all walk
  have grows : settings.Grows document (fun _ => True) (id :: own) middle :=
    checkContentTree_ok (fun _ _ _ => trivial) trivial shallow walk
  intro other
  rw [joined.met met other]
  constructor
  · exact fun known => known.imp_left fun own_met => grows.subset own_met
  · rintro (new | known)
    · exact List.mem_append.1 (within new)
    · exact Or.inr known

include covered shallow follows in
/-- The single walk passes over an object of the list that it met before, and the walk of its own
judges it once more. -/
theorem checkEntries_seen {resources : Dictionary} {id : ObjectId} {front back : List Object}
    (split : document.externalObjects resources = front ++ .reference id :: back)
    {start middle after : List ObjectId}
    (passed : settings.checkEntries document level resources front start = .ok ((), shared))
    (met : id ∈ seen)
    (walk : settings.checkExternalObject document (settings.checkContentTree document level) resources
      ((Object.reference id).resolve (some document)) (id :: own) = .ok ((), middle))
    (following : settings.checkEntries document level resources back middle = .ok ((), after))
    (joined : Joined seen shared own)
    (rest : Joined seen shared middle →
      PassesJoined seen after (settings.checkEntries document level resources back shared)) :
    PassesJoined seen after (settings.checkEntries document level resources back shared) := by
  rw [checkExternalObject_eq] at walk
  cases found : ((Object.reference id).resolve (some document)).stream? with
  | none =>
    rw [found] at walk
    cases walk
    exact rest (joined.met met)
  | some stream =>
    rw [found] at walk
    simp only at walk
    by_cases image : document.subtype? stream = some "Image"
    · rw [if_pos image] at walk
      obtain ⟨_, -, same⟩ := map_eq_ok.1 walk
      cases same
      exact rest (joined.met met)
    rw [if_neg image] at walk
    by_cases form : document.subtype? stream = some "Form"
    · rw [if_pos form] at walk
      obtain ⟨content, -, walk⟩ := bind_eq_ok.1 walk
      cases own_found : document.ownResources? stream with
      | none =>
        -- Inside the form, the walk of its own meets the whole list of the user.
        rw [formResources_of_none own_found] at walk
        have passes_over : settings.checkExternalEntry document
            (settings.checkContentTree document level) resources (.reference id) shared
              = .ok ((), shared) := by
          rw [checkExternalEntry_eq]
          exact if_pos ((joined id).2 (Or.inr met))
        exact checkEntries_inherited shallow follows split passed passes_over walk following
          (joined.met met)
      | some own_resources =>
        rw [formResources_of_own own_found] at walk
        exact rest (joined_of_own covered shallow met found form own_found walk joined)
    · rw [if_neg form] at walk
      cases walk
      exact rest (joined.met met)

include covered shallow follows in
/-- The single walk passes the entries after `front`, if the walk of its own does. -/
theorem checkEntries_follow {resources : Dictionary} {front back : List Object}
    (split : document.externalObjects resources = front ++ back) {start after : List ObjectId}
    (passed : settings.checkEntries document level resources front start = .ok ((), shared))
    (walk : settings.checkEntries document level resources back own = .ok ((), after))
    (joined : Joined seen shared own) :
    PassesJoined seen after (settings.checkEntries document level resources back shared) := by
  induction back generalizing front shared own with
  | nil =>
    cases walk
    exact ⟨shared, rfl, joined⟩
  | cons entry back ih =>
    obtain ⟨_, middle, first, following⟩ := walk_bind_eq_ok.1 walk
    have rest {next : List ObjectId} (entry_passes : settings.checkExternalEntry document
          (settings.checkContentTree document level) resources entry shared = .ok ((), next))
        (next_joined : Joined seen next middle) :
        PassesJoined seen after (settings.checkEntries document level resources back next) := by
      rw [List.append_cons] at split
      exact ih split (forM_append_eq_ok.2
        ⟨shared, passed, walk_bind_eq_ok.2 ⟨(), next, entry_passes, rfl⟩⟩) following next_joined
    have entry_eq := settings.checkExternalEntry_eq document
      (settings.checkContentTree document level) resources entry
    rw [entry_eq] at first
    cases reference : entry.reference? with
    | none =>
      rw [reference] at first entry_eq
      obtain ⟨next, passes, next_joined⟩ := checkExternalObject_follow follows first joined
      have entry_passes := (entry_eq shared).trans passes
      exact .cons entry_passes (rest entry_passes next_joined)
    | some id =>
      rw [reference] at first entry_eq
      simp only at first entry_eq
      by_cases own_met : id ∈ own
      · rw [if_pos own_met] at first
        cases first
        have entry_passes := (entry_eq shared).trans (if_pos ((joined id).2 (Or.inl own_met)))
        exact .cons entry_passes (rest entry_passes joined)
      rw [if_neg own_met] at first
      by_cases met : id ∈ seen
      · have entry_passes := (entry_eq shared).trans (if_pos ((joined id).2 (Or.inr met)))
        cases eq_reference reference
        -- The only case where the walks part: an entry that the single walk alone has met.
        exact .cons entry_passes (checkEntries_seen covered shallow follows split passed met first
          following joined (rest entry_passes))
      · have apart : id ∉ shared := fun known => ((joined id).1 known).elim own_met met
        obtain ⟨next, passes, next_joined⟩ :=
          checkExternalObject_follow follows first (joined.cons id)
        have entry_passes := (entry_eq shared).trans ((if_neg apart).trans passes)
        exact .cons entry_passes (rest entry_passes next_joined)

end Follow

/-- A content stream that passes in a walk of its own passes in the single walk. -/
theorem checkContentTree_follows (covered : settings.Covered document users seen) {level : ℕ}
    (shallow : level ≤ settings.maxRecursionDepth + 1) : settings.Follows document seen level := by
  -- On the levels that are left. An entry that the single walk met before is passed over there; what the
  -- walk of its own meets at it was met before as well.
  induction level with
  | zero =>
    intro content resources shared own after walk
    cases walk
  | succ level ih =>
    have less := Nat.le_of_succ_le shallow
    intro content resources shared own after walk joined
    obtain ⟨content_ok, own_ok, walk⟩ := checkContentTree_succ_eq_ok.1 walk
    obtain ⟨more, passes, joined⟩ :=
      checkEntries_follow covered less (ih less) (List.nil_append _).symm rfl walk joined
    exact ⟨more, checkContentTree_succ_eq_ok.2 ⟨content_ok, own_ok, passes⟩, joined⟩

/-- A page that passes by itself passes wherever more was met before. -/
theorem checkPage_follow (covered : settings.Covered document users seen) {page : ObjectId}
    {after : List ObjectId} (walk : settings.checkPage document page [] = .ok ((), after)) :
    ∃ more, settings.checkPage document page seen = .ok ((), more) := by
  obtain ⟨dictionary, resources, content, read, found, content_ok, walk⟩ := checkPage_eq_ok.1 walk
  have start : Joined seen seen [] := by
    intro id
    rw [List.mem_nil_iff, false_or]
  obtain ⟨more, passes, -⟩ := checkContentTree_follows covered le_rfl walk start
  exact ⟨more,
    checkPage_eq_ok.2 ⟨dictionary, resources, content, read, found, content_ok, passes⟩⟩

end Settings

end Preflight
