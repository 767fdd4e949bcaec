import Mathlib
import Preflight.Proofs.ComparedWalks

/-!
# Walks that are repeated

A walk that succeeded succeeds again wherever all that it met was met before, and then it meets
nothing new. A walk with fewer levels left goes the same way, unless the levels run out.
-/

namespace Preflight

namespace Settings

variable [StreamDecoder] {settings : Settings} {document : Document} {seen : List ObjectId}

/-! ## Passing again -/

variable {level : ℕ}

theorem checkExternalEntry_grows (shallow : level ≤ settings.maxRecursionDepth + 1)
    {resources : Dictionary} {entry : Object} {before after : List ObjectId}
    (listed : entry ∈ document.externalObjects resources)
    (walk : settings.checkExternalEntry document (settings.checkContentTree document level) resources
      entry before = .ok ((), after)) :
    before ⊆ after ∧ settings.Met document after resources entry := by
  have closed {user own form} (_ : True) (_ : document.ListsForm user form)
      (_ : document.ownResources? form = some own) : True := trivial
  obtain ⟨growing, met⟩ := checkExternalEntry_ok closed shallow
    (fun used walk => checkContentTree_ok closed used shallow walk) trivial listed walk
  exact ⟨growing.subset, met⟩

section Rerun

variable (rerun : ∀ {content resources before after},
    settings.checkContentTree document level content resources before = .ok ((), after) →
    after ⊆ seen →
    settings.checkContentTree document level content resources seen = .ok ((), seen))
include rerun

/-- An external object that passed passes again, and nothing new is met. -/
theorem checkExternalObject_rerun {resources : Dictionary} {object : Object}
    {before after : List ObjectId}
    (h : settings.checkExternalObject document (settings.checkContentTree document level) resources
      object before = .ok ((), after)) (within : after ⊆ seen) :
    settings.checkExternalObject document (settings.checkContentTree document level) resources
      object seen = .ok ((), seen) := by
  rw [checkExternalObject_eq] at h ⊢
  cases found : object.stream? with
  | none => rfl
  | some stream =>
    rw [found] at h
    simp only at h ⊢
    by_cases image : document.subtype? stream = some "Image"
    · rw [if_pos image] at h ⊢
      obtain ⟨_, passes, -⟩ := map_eq_ok.1 h
      rw [passes]
      rfl
    rw [if_neg image] at h ⊢
    by_cases form : document.subtype? stream = some "Form"
    · rw [if_pos form] at h ⊢
      obtain ⟨content, content_ok, walk⟩ := bind_eq_ok.1 h
      rw [content_ok]
      exact rerun walk within
    · rw [if_neg form]

/-- An entry that passed passes again, and nothing new is met. -/
theorem checkExternalEntry_rerun (shallow : level ≤ settings.maxRecursionDepth + 1)
    {resources : Dictionary} {entry : Object} {before after : List ObjectId}
    (listed : entry ∈ document.externalObjects resources)
    (walk : settings.checkExternalEntry document (settings.checkContentTree document level) resources
      entry before = .ok ((), after)) (within : after ⊆ seen) :
    settings.checkExternalEntry document (settings.checkContentTree document level) resources entry
      seen = .ok ((), seen) := by
  obtain ⟨-, met⟩ := checkExternalEntry_grows shallow listed walk
  rw [checkExternalEntry_eq] at walk ⊢
  unfold Met at met
  cases reference : entry.reference? with
  | some id =>
    rw [reference] at met
    exact if_pos (within met)
  | none =>
    rw [reference] at walk
    exact checkExternalObject_rerun rerun walk within

/-- Entries that passed pass again, and nothing new is met. -/
theorem checkEntries_rerun (shallow : level ≤ settings.maxRecursionDepth + 1)
    {resources : Dictionary} {entries : List Object} {before after : List ObjectId}
    (listed : entries ⊆ document.externalObjects resources)
    (walk : settings.checkEntries document level resources entries before = .ok ((), after))
    (within : after ⊆ seen) :
    before ⊆ seen ∧ settings.checkEntries document level resources entries seen = .ok ((), seen) := by
  induction entries generalizing before with
  | nil =>
    cases walk
    exact ⟨within, rfl⟩
  | cons entry entries ih =>
    obtain ⟨_, middle, first, following⟩ := walk_bind_eq_ok.1 walk
    obtain ⟨middle_within, rest⟩ := ih (List.subset_of_cons_subset listed) following
    have entry_listed := listed List.mem_cons_self
    obtain ⟨growing, -⟩ := checkExternalEntry_grows shallow entry_listed first
    refine ⟨List.Subset.trans growing middle_within, walk_bind_eq_ok.2 ⟨(), seen, ?_, rest⟩⟩
    exact checkExternalEntry_rerun rerun shallow entry_listed first middle_within

end Rerun

/-- A walk that succeeded succeeds again, and nothing new is met. -/
theorem checkContentTree_rerun (shallow : level ≤ settings.maxRecursionDepth + 1)
    {content : Bytes} {resources : Dictionary} {before after : List ObjectId}
    (walk : settings.checkContentTree document level content resources before = .ok ((), after))
    (within : after ⊆ seen) :
    settings.checkContentTree document level content resources seen = .ok ((), seen) := by
  -- On the levels that are left.
  induction level generalizing content resources before after with
  | zero => cases walk
  | succ level ih =>
    have less := Nat.le_of_succ_le shallow
    obtain ⟨content_ok, own_ok, walk⟩ := checkContentTree_succ_eq_ok.1 walk
    obtain ⟨-, again⟩ := checkEntries_rerun (fun walk within => ih less walk within) less
      (List.Subset.refl _) walk within
    exact checkContentTree_succ_eq_ok.2 ⟨content_ok, own_ok, again⟩

theorem checkPage_rerun {page : ObjectId} {before after : List ObjectId}
    (walk : settings.checkPage document page before = .ok ((), after)) (within : after ⊆ seen) :
    settings.checkPage document page seen = .ok ((), seen) := by
  obtain ⟨dictionary, resources, content, read, found, content_ok, walk⟩ := checkPage_eq_ok.1 walk
  exact checkPage_eq_ok.2 ⟨dictionary, resources, content, read, found, content_ok,
    checkContentTree_rerun le_rfl walk within⟩

/-! ## More levels -/

/-- A walk goes as with more levels, unless they run out. -/
theorem checkContentTree_cutShort {more : ℕ} (h : level ≤ more) (content : Bytes)
    (resources : Dictionary) (before : List ObjectId) :
    CutShort settings.depthFailure (settings.checkContentTree document level content resources before)
      (settings.checkContentTree document more content resources before) := by
  -- On the levels that are left; what is met before a form is the same in both walks.
  induction level generalizing more content resources before with
  | zero => exact Or.inr rfl
  | succ level ih =>
    obtain ⟨more, rfl⟩ := Nat.exists_eq_add_of_le' ((Nat.le_add_left 1 level).trans h)
    rw [checkContentTree_succ, checkContentTree_succ]
    refine (settings.checkContentWithin_cutShort (some document) h content resources).bind
      fun _ => ?_
    exact (ComparesWalks.same (cutShort_congruence _) document settings).checkResources
      (ih (Nat.le_of_succ_le_succ h)) resources before

end Settings

end Preflight
