import Mathlib
import Preflight.Proofs.Walk

/-!
# The streams that a conversion collects

The list of the collected streams is also the set of those that were met. The invariant says that
every collected stream belongs to the document's pages, and that whatever a collected form lists is
collected itself or waits to be, as does what the pages list that were turned already.
-/

namespace Preflight

namespace Document

variable (document : Document)

/-! ## What is to be collected -/

/-- A stream belongs to the content of a page. -/
def HasContent (page id : ObjectId) : Prop :=
  ∃ dictionary ids, document.pageDictionary page = .ok dictionary ∧
    contentIds dictionary = .ok ids ∧ id ∈ ids

/-- Resources that a page uses list a form by its identifier. -/
def UsesForm (page id : ObjectId) : Prop :=
  ∃ resources, document.UsesResources page resources ∧
    .reference id ∈ document.externalObjects resources ∧ (document.form? id).isSome

/-- What names the streams of a page can be read. -/
def PageReadable (page : ObjectId) : Prop :=
  ∃ dictionary ids resources, document.pageDictionary page = .ok dictionary ∧
    contentIds dictionary = .ok ids ∧ document.pageResources page = .ok resources

/-- How references are used in documents all of whose streams are found. -/
structure Regular : Prop where
  /-- External objects are listed by reference. -/
  references : ∀ page ∈ document.pages, ∀ resources, document.UsesResources page resources →
    ∀ entry ∈ document.externalObjects resources, ∃ id, entry = .reference id
  /-- No object is nothing but a reference. -/
  direct : ∀ id target, document.find? id ≠ some (.reference target)
  /-- The content of a page is no external object. -/
  apart : ∀ page ∈ document.pages, ∀ id, document.HasContent page id →
    ∀ other ∈ document.pages, ∀ resources, document.UsesResources other resources →
      .reference id ∉ document.externalObjects resources

/-- The list of the streams to convert: the content of all pages and the forms that they use, each
once. -/
structure HasTargets (targets : List ObjectId) : Prop where
  collected : document.conversionTargets = .ok targets
  nodup : targets.Nodup
  mem_iff : ∀ id, id ∈ targets ↔
    (∃ page ∈ document.pages, document.HasContent page id) ∨
      ∃ page ∈ document.pages, document.UsesForm page id

variable {document}

/-! ## Forms -/

theorem form?_eq_some {id : ObjectId} {form : Stream} :
    document.form? id = some form ↔
      ((Object.reference id).resolve (some document)).stream? = some form ∧
        document.subtype? form = some "Form" := by
  rw [Object.resolve_reference]
  unfold form? subtype?
  cases document.fetch id with
  | error fault => simp [Object.stream?]
  | ok object =>
    cases object with
    | stream entries data =>
      simp only [Object.stream?, Option.ite_none_right_eq_some, Option.some.injEq]
      constructor
      · rintro ⟨subtype, rfl⟩
        exact ⟨rfl, subtype⟩
      · rintro ⟨rfl, subtype⟩
        exact ⟨subtype, rfl⟩
    | _ => simp [Object.stream?]

theorem formObjects_of_own {form : Stream} {own : Dictionary}
    (h : document.ownResources? form = some own) :
    document.formObjects form = document.externalObjects own := by
  unfold formObjects
  unfold ownResources? at h
  rw [h]

theorem exists_own_of_mem_formObjects {form : Stream} {entry : Object}
    (h : entry ∈ document.formObjects form) :
    ∃ own, document.ownResources? form = some own ∧ entry ∈ document.externalObjects own := by
  cases found : document.ownResources? form with
  | none =>
    unfold formObjects at h
    unfold ownResources? at found
    rw [found] at h
    exact absurd h List.not_mem_nil
  | some own =>
    rw [formObjects_of_own found] at h
    exact ⟨own, rfl, h⟩

/-! ## The invariant -/

/-- All forms that resources list are collected or wait. -/
def Drained (document : Document) (collected : List ObjectId) (pending : List Object)
    (resources : Dictionary) : Prop :=
  ∀ id, .reference id ∈ document.externalObjects resources → (document.form? id).isSome →
    id ∈ collected ∨ .reference id ∈ pending

/-- What holds while the streams of the pages in `front` are collected. -/
structure Collecting (document : Document) (front collected : List ObjectId)
    (pending : List Object) : Prop where
  nodup : collected.Nodup
  sound : ∀ id ∈ collected, (∃ page ∈ document.pages, document.HasContent page id) ∨
    ∃ page ∈ document.pages, document.UsesForm page id
  waiting : ∀ entry ∈ pending, ∃ page ∈ document.pages, ∃ resources,
    document.UsesResources page resources ∧ entry ∈ document.externalObjects resources
  contents : ∀ page ∈ front, ∀ id, document.HasContent page id → id ∈ collected
  listed : ∀ page ∈ front, ∀ resources, document.pageResources page = .ok resources →
    document.Drained collected pending resources
  closed : ∀ id ∈ collected, (∀ page ∈ document.pages, ¬ document.HasContent page id) →
    ∀ form own, document.form? id = some form → document.ownResources? form = some own →
      document.Drained collected pending own

variable {front collected more : List ObjectId} {pending waiting : List Object}

theorem Drained.step {resources : Dictionary} (h : document.Drained collected pending resources)
    (step : ∀ id, (document.form? id).isSome → id ∈ collected ∨ .reference id ∈ pending →
      id ∈ more ∨ .reference id ∈ waiting) :
    document.Drained more waiting resources := by
  intro id member isForm
  exact step id isForm (h id member isForm)

/-- The first entry that waits is no form that is still to be collected. -/
theorem Collecting.skip {entry : Object}
    (h : document.Collecting front collected (entry :: pending))
    (known : ∀ id, entry = .reference id → (document.form? id).isSome → id ∈ collected) :
    document.Collecting front collected pending := by
  have step : ∀ id, (document.form? id).isSome →
      id ∈ collected ∨ .reference id ∈ entry :: pending →
      id ∈ collected ∨ .reference id ∈ pending := by
    intro id isForm due
    rcases due with member | member
    · exact Or.inl member
    · rcases List.mem_cons.1 member with same | member
      · exact Or.inl (known id same.symm isForm)
      · exact Or.inr member
  refine ⟨h.nodup, h.sound, ?_, h.contents, ?_, ?_⟩
  · intro other member
    exact h.waiting other (List.mem_cons_of_mem _ member)
  · intro page member resources found
    exact (h.listed page member resources found).step step
  · intro id member apart form own found own_found
    exact (h.closed id member apart form own found own_found).step step

/-- The first entry that waits is a form. It is collected, and what it lists waits from now on. -/
theorem Collecting.push {id : ObjectId} {form : Stream}
    (h : document.Collecting front collected (.reference id :: pending)) (fresh : id ∉ collected)
    (found : document.form? id = some form) :
    document.Collecting front (collected ++ [id]) (document.formObjects form ++ pending) := by
  have step : ∀ other, (document.form? other).isSome →
      other ∈ collected ∨ .reference other ∈ Object.reference id :: pending →
      other ∈ collected ++ [id] ∨ .reference other ∈ document.formObjects form ++ pending := by
    -- What is due stays due: the entry that no longer waits is the one that is collected.
    intro other isForm due
    rcases due with member | member
    · exact Or.inl (List.mem_append_left _ member)
    · rcases List.mem_cons.1 member with same | member
      · cases same
        exact Or.inl (List.mem_append_right _ List.mem_cons_self)
      · exact Or.inr (List.mem_append_right _ member)
  obtain ⟨page, page_mem, resources, used, id_listed⟩ := h.waiting _ List.mem_cons_self
  have isForm : (document.form? id).isSome := Option.isSome_of_eq_some found
  have listed : document.ListsForm resources form := by
    obtain ⟨stream, subtype⟩ := form?_eq_some.1 found
    exact ⟨subtype, _, id_listed, stream⟩
  refine ⟨?_, ?_, ?_, ?_, ?_, ?_⟩
  · exact h.nodup.append (List.nodup_singleton id) (List.disjoint_singleton.2 fresh)
  · intro other member
    rcases List.mem_append.1 member with member | member
    · exact h.sound other member
    · cases List.mem_singleton.1 member
      exact Or.inr ⟨page, page_mem, resources, used, id_listed, isForm⟩
  · intro entry member
    rcases List.mem_append.1 member with member | member
    · obtain ⟨own, own_found, own_listed⟩ := exists_own_of_mem_formObjects member
      exact ⟨page, page_mem, own, used.form listed own_found, own_listed⟩
    · exact h.waiting entry (List.mem_cons_of_mem _ member)
  · intro other member content has
    exact List.mem_append_left _ (h.contents other member content has)
  · intro other member resources found
    exact (h.listed other member resources found).step step
  · intro other member apart other_form own other_found own_found
    rcases List.mem_append.1 member with member | member
    · exact (h.closed other member apart other_form own other_found own_found).step step
    · cases List.mem_singleton.1 member
      cases found.symm.trans other_found
      intro inner inner_listed _
      rw [← formObjects_of_own own_found] at inner_listed
      exact Or.inr (List.mem_append_left _ inner_listed)

theorem collectForms_form {id : ObjectId} {form : Stream} (fresh : id ∉ collected)
    (found : document.form? id = some form) :
    document.collectForms collected (.reference id :: pending) =
      document.collectForms (collected ++ [id]) (document.formObjects form ++ pending) := by
  rw [Document.collectForms, if_neg fresh]
  split
  · next absent => cases absent.symm.trans found
  · next other same =>
    cases same.symm.trans found
    rfl

/-- When nothing waits any more, the forms of the pages are collected. The cases are those of the
recursion: an entry that is passed over, whatever the reason, or a form that is collected. -/
theorem Collecting.collectForms (h : document.Collecting front collected pending) :
    document.Collecting front (document.collectForms collected pending) [] := by
  fun_induction Document.collectForms document collected pending with
  | case1 collected => exact h
  | case2 collected id pending known ih =>
    apply ih
    apply h.skip
    intro other same _
    cases same
    exact known
  | case3 collected id pending fresh absent ih =>
    apply ih
    apply h.skip
    intro other same isForm
    cases same
    rw [absent] at isForm
    cases isForm
  | case4 collected id pending fresh form found ih => exact ih (h.push fresh found)
  | case5 collected entry pending other ih =>
    apply ih
    apply h.skip
    intro id same _
    exact absurd same (other id)

/-! ## Pages -/

theorem mem_collectContent {ids : List ObjectId} {id : ObjectId} :
    id ∈ collectContent collected ids ↔ id ∈ collected ∨ id ∈ ids := by
  induction ids generalizing collected with
  | nil => simp [collectContent]
  | cons first ids ih =>
    show id ∈ collectContent (if first ∈ collected then collected else collected ++ [first]) ids ↔ _
    rw [ih, List.mem_cons]
    by_cases known : first ∈ collected
    · rw [if_pos known]
      constructor
      · exact fun h => h.imp_right Or.inr
      · rintro (member | rfl | member)
        · exact Or.inl member
        · exact Or.inl known
        · exact Or.inr member
    · rw [if_neg known, List.mem_append, List.mem_singleton, or_assoc]

theorem nodup_collectContent {ids : List ObjectId} (h : collected.Nodup) :
    (collectContent collected ids).Nodup := by
  induction ids generalizing collected with
  | nil => exact h
  | cons first ids ih =>
    show (collectContent (if first ∈ collected then collected else collected ++ [first]) ids).Nodup
    apply ih
    by_cases known : first ∈ collected
    · rw [if_pos known]
      exact h
    · rw [if_neg known]
      exact h.append (List.nodup_singleton first) (List.disjoint_singleton.2 known)

/-- A page is turned: its content is collected, and what its resources list waits. -/
theorem Collecting.turn {page : ObjectId} {dictionary resources : Dictionary} {ids : List ObjectId}
    (h : document.Collecting front collected []) (member : page ∈ document.pages)
    (dictionary_ok : document.pageDictionary page = .ok dictionary)
    (ids_ok : contentIds dictionary = .ok ids)
    (resources_ok : document.pageResources page = .ok resources) :
    document.Collecting (front ++ [page])
      (collectContent collected ids) (document.externalObjects resources) := by
  have content : ∀ id, document.HasContent page id ↔ id ∈ ids := by
    intro id
    constructor
    · rintro ⟨other_dictionary, other_ids, dictionary_same, ids_same, id_mem⟩
      cases dictionary_ok.symm.trans dictionary_same
      cases ids_ok.symm.trans ids_same
      exact id_mem
    · intro id_mem
      exact ⟨dictionary, ids, dictionary_ok, ids_ok, id_mem⟩
  have step : ∀ id, (document.form? id).isSome → id ∈ collected ∨ .reference id ∈ ([] : List Object) →
      id ∈ collectContent collected ids ∨ .reference id ∈ document.externalObjects resources := by
    intro id _ due
    have id_mem : id ∈ collected := due.resolve_right List.not_mem_nil
    exact Or.inl (mem_collectContent.2 (Or.inl id_mem))
  refine ⟨nodup_collectContent h.nodup, ?_, ?_, ?_, ?_, ?_⟩
  · intro id id_mem
    rcases mem_collectContent.1 id_mem with known | new
    · exact h.sound id known
    · exact Or.inl ⟨page, member, (content id).2 new⟩
  · intro entry listed
    exact ⟨page, member, resources, .page resources_ok, listed⟩
  · intro other other_mem id has
    rcases List.mem_append.1 other_mem with turned | last
    · exact mem_collectContent.2 (Or.inl (h.contents other turned id has))
    · cases List.mem_singleton.1 last
      exact mem_collectContent.2 (Or.inr ((content id).1 has))
  · intro other other_mem found found_ok
    rcases List.mem_append.1 other_mem with turned | last
    · exact (h.listed other turned found found_ok).step step
    · cases List.mem_singleton.1 last
      cases resources_ok.symm.trans found_ok
      intro id listed _
      exact Or.inr listed
  · -- What a page has as content is not followed as a form, and the condition leaves it out.
    intro id id_mem apart form own found own_found
    rcases mem_collectContent.1 id_mem with known | new
    · exact (h.closed id known apart form own found own_found).step step
    · exact absurd ((content id).2 new) (apart page member)

theorem collectPage_eq_ok {page : ObjectId} {targets : List ObjectId} :
    document.collectPage collected page = .ok targets ↔
      ∃ dictionary ids resources, document.pageDictionary page = .ok dictionary ∧
        contentIds dictionary = .ok ids ∧ document.pageResources page = .ok resources ∧
        document.collectForms (collectContent collected ids) (document.externalObjects resources)
          = targets := by
  unfold collectPage
  rw [bind_eq_ok]
  constructor
  · rintro ⟨dictionary, dictionary_ok, h⟩
    obtain ⟨ids, ids_ok, h⟩ := bind_eq_ok.1 h
    obtain ⟨resources, resources_ok, h⟩ := bind_eq_ok.1 h
    exact ⟨dictionary, ids, resources, dictionary_ok, ids_ok, resources_ok, Except.ok.inj h⟩
  · rintro ⟨dictionary, ids, resources, dictionary_ok, ids_ok, resources_ok, rfl⟩
    exact ⟨dictionary, dictionary_ok, bind_eq_ok.2 ⟨ids, ids_ok,
      bind_eq_ok.2 ⟨resources, resources_ok, rfl⟩⟩⟩

theorem Collecting.pages {back targets : List ObjectId}
    (h : document.Collecting front collected []) (among : back ⊆ document.pages)
    (collects : back.foldlM document.collectPage collected = .ok targets) :
    document.Collecting (front ++ back) targets [] := by
  -- On the pages that are still to be turned; each leaves nothing pending behind.
  induction back generalizing front collected with
  | nil =>
    cases collects
    rw [List.append_nil]
    exact h
  | cons page back ih =>
    rw [List.foldlM_cons] at collects
    obtain ⟨more, first, following⟩ := bind_eq_ok.1 collects
    obtain ⟨dictionary, ids, resources, dictionary_ok, ids_ok, resources_ok, rfl⟩ :=
      collectPage_eq_ok.1 first
    have turned := h.turn (among List.mem_cons_self) dictionary_ok ids_ok resources_ok
    have rest := ih turned.collectForms (List.subset_of_cons_subset among) following
    rw [List.append_assoc] at rest
    exact rest

/-- If all pages can be read, the streams are collected, also where forms list one another in a
circle. -/
theorem exists_conversionTargets (readable : ∀ page ∈ document.pages, document.PageReadable page) :
    ∃ targets, document.conversionTargets = .ok targets := by
  unfold conversionTargets
  generalize ([] : List ObjectId) = collected
  generalize document.pages = pages at readable
  induction pages generalizing collected with
  | nil => exact ⟨collected, rfl⟩
  | cons page pages ih =>
    obtain ⟨dictionary, ids, resources, dictionary_ok, ids_ok, resources_ok⟩ :=
      readable page List.mem_cons_self
    have first : document.collectPage collected page = .ok _ := collectPage_eq_ok.2
      ⟨dictionary, ids, resources, dictionary_ok, ids_ok, resources_ok, rfl⟩
    obtain ⟨targets, following⟩ := ih _ fun other member =>
      readable other (List.mem_cons_of_mem _ member)
    refine ⟨targets, ?_⟩
    rw [List.foldlM_cons]
    exact bind_eq_ok.2 ⟨_, first, following⟩

/-! ## Documents -/

/-- At the end, all forms that a page uses are collected. -/
theorem Collecting.drained (regular : document.Regular)
    (h : document.Collecting document.pages collected []) {page : ObjectId}
    (member : page ∈ document.pages) {resources : Dictionary}
    (used : document.UsesResources page resources) : document.Drained collected [] resources := by
  -- On how the page reaches the resources. A form that is listed there is collected, and no page has
  -- its stream as content, so what it lists itself is collected too.
  induction used with
  | page found => exact h.listed page member _ found
  | @form user own form used listed own_found ih =>
    obtain ⟨subtype, entry, entry_listed, stream⟩ := listed
    obtain ⟨id, rfl⟩ := regular.references page member user used entry entry_listed
    have found : document.form? id = some form := form?_eq_some.2 ⟨stream, subtype⟩
    have due := ih id entry_listed (Option.isSome_of_eq_some found)
    have id_mem : id ∈ collected := due.resolve_right List.not_mem_nil
    have apart : ∀ other ∈ document.pages, ¬ document.HasContent other id := by
      intro other other_mem has
      exact regular.apart other other_mem id has page member user used entry_listed
    exact h.closed id id_mem apart form own found own_found

/-- What is collected are the streams that belong to the pages, each once. -/
theorem hasTargets_of_conversionTargets (regular : document.Regular) {targets : List ObjectId}
    (h : document.conversionTargets = .ok targets) : document.HasTargets targets := by
  have start : document.Collecting [] [] [] := by
    refine ⟨List.nodup_nil, ?_, ?_, ?_, ?_, ?_⟩ <;> intro other member <;>
      exact absurd member List.not_mem_nil
  have done := start.pages (List.Subset.refl document.pages) h
  rw [List.nil_append] at done
  refine ⟨h, done.nodup, ?_⟩
  intro id
  constructor
  · exact done.sound id
  · rintro (⟨page, member, has⟩ | ⟨page, member, resources, used, listed, isForm⟩)
    · exact done.contents page member id has
    · have due := done.drained regular member used id listed isForm
      exact due.resolve_right List.not_mem_nil

end Document

end Preflight
