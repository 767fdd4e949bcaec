import Mathlib
import Preflight.Proofs.CheckedResources
import Preflight.Proofs.DepthFailures

/-!
# The nesting of forms

The limit on the nesting of content counts the levels of the walk. Below a form the walk goes on with
the resources of that form, or with those of its user if it has none of its own; in these it meets
the other forms of the user again, a level deeper. So the limit can be exceeded where no form is
nested in another one. It is not exceeded where each chain of forms in which the walk can go down is
short enough, which are the chains of forms that list one another if every form has resources of its
own.
-/

namespace Preflight

namespace Document

/-- A chain of so many forms: the first one is listed by the resources, and each further one by the
resources that lie below the form before it. No reference occurs twice in the chain, or in `met`. -/
inductive FormChain (document : Document) (below : Dictionary → Stream → Dictionary) :
    List ObjectId → Dictionary → ℕ → Prop where
  | nil (met : List ObjectId) (resources : Dictionary) : FormChain document below met resources 0
  | reference {met : List ObjectId} {resources : Dictionary} {id : ObjectId} {form : Stream}
      {length : ℕ} (listed : .reference id ∈ document.externalObjects resources) (new : id ∉ met)
      (found : ((Object.reference id).resolve (some document)).stream? = some form)
      (isForm : document.subtype? form = some "Form")
      (further : FormChain document below (id :: met) (below resources form) length) :
      FormChain document below met resources (length + 1)
  | direct {met : List ObjectId} {resources : Dictionary} {entry : Object} {form : Stream}
      {length : ℕ} (listed : entry ∈ document.externalObjects resources)
      (held : entry.reference? = none)
      (found : (entry.resolve (some document)).stream? = some form)
      (isForm : document.subtype? form = some "Form")
      (further : FormChain document below met (below resources form) length) :
      FormChain document below met resources (length + 1)

/-- The own resources of a form, or none. -/
def resourcesBelow (document : Document) (_ : Dictionary) (form : Stream) : Dictionary :=
  (document.ownResources? form).getD []

end Document

namespace Settings

variable [StreamDecoder] {settings : Settings} {document : Document}

/-- No content that a page uses selects a space of patterns: neither that of the page, nor that of a
form, with the resources of the form or of any of its users. -/
structure Patternless (settings : Settings) (document : Document) : Prop where
  pages : ∀ page ∈ document.pages, ∀ dictionary resources content,
    document.pageDictionary page = .ok dictionary → document.pageResources page = .ok resources →
    document.pageContent dictionary = .ok content →
    ¬settings.ContentSelectsPattern (some document) content resources
  forms : ∀ page ∈ document.pages, ∀ resources, document.UsesResources page resources →
    ∀ form, document.ListsForm resources form → ∀ content, form.content = .ok content →
    ¬settings.ContentSelectsPattern (some document) content
      (formResources document resources form)

/-! ## Walks that go down too far -/

section

variable {level : ℕ} {before : List ObjectId} {failure : StreamFailure}

/-- Only the content of a form is a level deeper. -/
theorem exists_form_of_depthLimit {deeper : Bytes → Dictionary → Walk Unit} {user : Dictionary}
    {object : Object}
    (failed : settings.checkExternalObject document deeper user object before = .error failure)
    (limit : failure.IsDepthLimit) :
    ∃ form content, object.stream? = some form ∧ document.subtype? form = some "Form" ∧
      form.content = .ok content ∧
      deeper content (formResources document user form) before = .error failure := by
  rw [checkExternalObject_eq] at failed
  split at failed
  · cases failed
  next form found =>
  split at failed
  · have image : StaysWithin (settings.check (.image (some document) form.dictionary)) :=
      settings.check_staysWithin (by simp [Subject.aspect])
    cases verdict : settings.check (.image (some document) form.dictionary) with
    | ok => rw [verdict] at failed; cases failed
    | error other =>
      rw [verdict] at failed
      cases failed
      exact absurd limit (image _ verdict)
  split at failed
  · next isForm =>
    obtain ⟨content, content_ok, failed⟩ := form.content_staysWithin.exists_of_bind failed limit
    exact ⟨form, content, found, isForm, content_ok, failed⟩
  · cases failed

/-- A walk of entries that fails does so at one of them, when nothing that was met is forgotten. -/
theorem exists_of_checkEntries_error (shallow : level ≤ settings.maxRecursionDepth + 1)
    {user : Dictionary}
    (failed : settings.checkEntries document level user (document.externalObjects user) before
      = .error failure) :
    ∃ entry ∈ document.externalObjects user, ∃ middle, before ⊆ middle ∧
      settings.checkExternalEntry document (settings.checkContentTree document level) user entry
        middle = .error failure := by
  have closed {user own form} (_ : True) (_ : document.ListsForm user form)
      (_ : document.ownResources? form = some own) : True := trivial
  refine exists_of_walk_error (fun entry listed seen after within walk => ?_)
    (List.Subset.refl before) failed
  have growing := (checkExternalEntry_ok closed shallow
    (fun used walk => checkContentTree_ok closed used shallow walk) trivial listed walk).1
  exact List.Subset.trans within growing.subset

/-- If the levels run out in a walk, it went down a chain of as many forms as there were levels. -/
theorem formChain_of_depthLimit (patternless : settings.Patternless document) {page : ObjectId}
    (member : page ∈ document.pages) (shallow : level ≤ settings.maxRecursionDepth + 1)
    {content : Bytes} {resources : Dictionary} (used : document.UsesResources page resources)
    (selects : ¬settings.ContentSelectsPattern (some document) content resources)
    {met : List ObjectId} (within : met ⊆ before)
    (failed : settings.checkContentTree document level content resources before = .error failure)
    (limit : failure.IsDepthLimit) :
    document.FormChain (formResources document) met resources level := by
  -- On the levels that are left; what the chain has met is less than what the walk has met.
  induction level generalizing content resources before met with
  | zero => exact .nil met resources
  | succ level ih =>
    have less := Nat.le_of_succ_le shallow
    rw [checkContentTree_succ] at failed
    obtain ⟨-, -, failed⟩ :=
      (checkContentWithin_staysWithin selects level).exists_of_bind failed limit
    rw [checkResources_eq] at failed
    obtain ⟨-, -, failed⟩ :=
      (settings.checkOwnResources_staysWithin document resources).exists_of_bind failed limit
    obtain ⟨entry, listed, middle, grown, failed⟩ :=
      exists_of_checkEntries_error less failed
    have met_within := List.Subset.trans within grown
    rw [checkExternalEntry_eq] at failed
    split at failed
    · next id reference =>
      split at failed
      · cases failed
      next new =>
      cases eq_reference reference
      obtain ⟨form, content, found, isForm, content_ok, failed⟩ :=
        exists_form_of_depthLimit failed limit
      have lists : document.ListsForm resources form := ⟨isForm, _, listed, found⟩
      refine .reference listed (fun known => new (met_within known)) found isForm ?_
      exact ih less (users_formResources .form used lists)
        (patternless.forms page member resources used form lists content content_ok)
        (List.cons_subset_cons id met_within) failed
    · next held =>
      obtain ⟨form, content, found, isForm, content_ok, failed⟩ :=
        exists_form_of_depthLimit failed limit
      have lists : document.ListsForm resources form := ⟨isForm, _, listed, found⟩
      refine .direct listed held found isForm ?_
      exact ih less (users_formResources .form used lists)
        (patternless.forms page member resources used form lists content content_ok)
        met_within failed

end

/-! ## Documents -/

/-- A document whose check exceeds the limit has a page with a chain of too many forms. -/
theorem exists_formChain_of_depthLimit (patternless : settings.Patternless document)
    {failure : Failure} (failed : settings.checkDocument document = .error failure)
    (limit : failure.IsDepthLimit) :
    ∃ page ∈ document.pages, ∃ resources, document.pageResources page = .ok resources ∧
      document.FormChain (formResources document) [] resources (settings.maxRecursionDepth + 1) := by
  unfold checkDocument at failed
  split at failed
  · cases failed
  obtain ⟨cause, stopped, rfl⟩ := mapError_eq_error.1 failed
  have limit := StreamFailure.isDepthLimit_of_toFailure limit
  obtain ⟨-, -, walk⟩ := (settings.checkCatalog_staysWithin document).exists_of_bind stopped limit
  have walk : document.pages.forM (settings.checkPage document) [] = .error cause := by
    cases verdict : document.pages.forM (settings.checkPage document) [] with
    | ok passed =>
      rw [StateT.run, verdict] at walk
      cases walk
    | error other =>
      rw [StateT.run, verdict] at walk
      cases walk
      rfl
  obtain ⟨page, member, before, -, failed⟩ :=
    exists_of_walk_error (P := fun _ => True) (fun _ _ _ _ _ _ => trivial) trivial walk
  rw [checkPage_eq] at failed
  obtain ⟨dictionary, dictionary_ok, failed⟩ :=
    (StaysWithin.mapError_document _).exists_of_bind failed limit
  obtain ⟨resources, resources_ok, failed⟩ :=
    (StaysWithin.mapError_document _).exists_of_bind failed limit
  obtain ⟨content, content_ok, failed⟩ :=
    (document.pageContent_staysWithin dictionary).exists_of_bind failed limit
  have found := mapError_eq_ok.1 resources_ok
  exact ⟨page, member, resources, found, formChain_of_depthLimit patternless member le_rfl
    (.page found) (patternless.pages page member dictionary resources content
      (mapError_eq_ok.1 dictionary_ok) found content_ok) (List.nil_subset before) failed limit⟩

omit [StreamDecoder] in
/-- Where every form that a page uses has resources of its own, these are what lies below it. -/
theorem formChain_resourcesBelow {page : ObjectId}
    (own : ∀ resources, document.UsesResources page resources → ∀ form,
      document.ListsForm resources form → (document.ownResources? form).isSome)
    {met : List ObjectId} {resources : Dictionary} (used : document.UsesResources page resources)
    {length : ℕ} (chain : document.FormChain (formResources document) met resources length) :
    document.FormChain document.resourcesBelow met resources length := by
  have same {user : Dictionary} (used : document.UsesResources page user) {form : Stream}
      (lists : document.ListsForm user form) :
      formResources document user form = document.resourcesBelow user form := by
    obtain ⟨resources, found⟩ := Option.isSome_iff_exists.1 (own user used form lists)
    unfold Document.resourcesBelow
    rw [found]
    show Option.getD (document.ownResources? form) _ = _
    rw [found]
    rfl
  induction chain with
  | nil met resources => exact .nil met resources
  | reference listed new found isForm _ ih =>
    have lists : document.ListsForm _ _ := ⟨isForm, _, listed, found⟩
    have further := ih (users_formResources .form used lists)
    rw [same used lists] at further
    exact .reference listed new found isForm further
  | direct listed held found isForm _ ih =>
    have lists : document.ListsForm _ _ := ⟨isForm, _, listed, found⟩
    have further := ih (users_formResources .form used lists)
    rw [same used lists] at further
    exact .direct listed held found isForm further

/-- Without patterns, the limit on the nesting of content is not exceeded if the walk finds no chain
of more forms than that; and where all forms have resources of their own, it is enough that no more
forms list one another. -/
theorem checkDocument_staysWithin (patternless : settings.Patternless document) :
    ((∀ page ∈ document.pages, ∀ resources, document.pageResources page = .ok resources →
        ∀ length, document.FormChain (formResources document) [] resources length →
          length ≤ settings.maxRecursionDepth) →
      ∀ allowed actual,
        settings.checkDocument document ≠ .error (.limitExceeded .recursionDepth allowed actual)) ∧
    ((∀ page ∈ document.pages, ∀ resources, document.UsesResources page resources → ∀ form,
        document.ListsForm resources form → (document.ownResources? form).isSome) →
      (∀ page ∈ document.pages, ∀ resources, document.pageResources page = .ok resources →
        ∀ length, document.FormChain document.resourcesBelow [] resources length →
          length ≤ settings.maxRecursionDepth) →
      ∀ allowed actual,
        settings.checkDocument document ≠ .error (.limitExceeded .recursionDepth allowed actual)) := by
  constructor
  · intro short allowed actual failed
    obtain ⟨page, member, resources, found, chain⟩ :=
      exists_formChain_of_depthLimit patternless failed trivial
    exact absurd (short page member resources found _ chain) (Nat.not_succ_le_self _)
  · intro own short allowed actual failed
    obtain ⟨page, member, resources, found, chain⟩ :=
      exists_formChain_of_depthLimit patternless failed trivial
    have chain := formChain_resourcesBelow (own page member) (.page found) chain
    exact absurd (short page member resources found _ chain) (Nat.not_succ_le_self _)

end Settings

/-! ## Two forms side by side -/

attribute [local instance] StreamDecoder.withoutFilters

/-- The strict level, with so many levels of content. -/
def strictTo (depth : ℕ) : Settings := { Settings.ofLevel .x1a with maxRecursionDepth := depth }

/-- Resources with two forms. -/
def pairResources : Dictionary :=
  keyed [("XObject", .dictionary (keyed [("A", .reference ⟨4, 0⟩), ("B", .reference ⟨5, 0⟩)]))]

/-- A document with one page, which lists two forms without resources. -/
def formPair : Document := .ofList [
    (⟨1, 0⟩, .dictionary (keyed [("Type", .ofName "Catalog"), ("Pages", .reference ⟨2, 0⟩)])),
    (⟨2, 0⟩, .dictionary (keyed [("Type", .ofName "Pages"), ("Kids", .array [.reference ⟨3, 0⟩])])),
    (⟨3, 0⟩, .dictionary (keyed [("Type", .ofName "Page"),
      ("Resources", .dictionary pairResources)])),
    (⟨4, 0⟩, .stream (keyed [("Subtype", .ofName "Form")]) (Bytes.ofLatin "0 g")),
    (⟨5, 0⟩, .stream (keyed [("Subtype", .ofName "Form")]) (Bytes.ofLatin "1 G"))]
  (keyed [("Root", .reference ⟨1, 0⟩)])

theorem pages_formPair : formPair.pages = [⟨3, 0⟩] := by cbv

theorem externalObjects_formPair : formPair.externalObjects pairResources
    = [.reference ⟨4, 0⟩, .reference ⟨5, 0⟩] := rfl

/-- What the resources of the page list: one of the two forms. -/
theorem form_of_externalObjects_formPair {entry : Object}
    (listed : entry ∈ formPair.externalObjects pairResources) {form : Stream}
    (found : (entry.resolve (some formPair)).stream? = some form) :
    formPair.ownResources? form = none ∧
      ∃ content, form.content = .ok content ∧
        ∀ operator ∈ (readOperators content).operators,
          ¬(operator.name = "CS" ∨ operator.name = "cs") := by
  rw [externalObjects_formPair, List.mem_pair] at listed
  rcases listed with rfl | rfl
  · cases found
    exact ⟨rfl, _, rfl, by decide +kernel⟩
  · cases found
    exact ⟨rfl, _, rfl, by decide +kernel⟩

theorem eq_of_usesResources_formPair {resources : Dictionary}
    (used : formPair.UsesResources ⟨3, 0⟩ resources) : resources = pairResources := by
  induction used with
  | page found =>
    have page : formPair.pageResources ⟨3, 0⟩ = .ok pairResources := rfl
    cases page.symm.trans found
    rfl
  | form _ lists own_found ih =>
    subst ih
    obtain ⟨-, entry, listed, found⟩ := lists
    rw [(form_of_externalObjects_formPair listed found).1] at own_found
    cases own_found

theorem patternless_formPair (depth : ℕ) : (strictTo depth).Patternless formPair := by
  constructor
  · intro page member dictionary resources content dictionary_ok resources_ok content_ok
    rw [pages_formPair, List.mem_singleton] at member
    subst member
    have empty : (formPair.pageDictionary ⟨3, 0⟩).mapError StreamFailure.document
        >>= formPair.pageContent = .ok [] := rfl
    rw [dictionary_ok] at empty
    cases content_ok.symm.trans empty
    rintro ⟨operator, read, -⟩
    rw [show (readOperators []).operators = [] by cbv] at read
    cases read
  · intro page member resources used form lists content content_ok
    rw [pages_formPair, List.mem_singleton] at member
    subst member
    cases eq_of_usesResources_formPair used
    obtain ⟨-, entry, listed, found⟩ := lists
    obtain ⟨-, _, same, plain⟩ := form_of_externalObjects_formPair listed found
    cases content_ok.symm.trans same
    rintro ⟨operator, read, name, -⟩
    exact plain operator read name

/-- No form lists another one. -/
theorem length_le_of_formChain_formPair {length : ℕ}
    (chain : formPair.FormChain formPair.resourcesBelow [] pairResources length) : length ≤ 1 := by
  have ends {met : List ObjectId} {length : ℕ}
      (chain : formPair.FormChain formPair.resourcesBelow met [] length) : length = 0 := by
    cases chain with
    | nil => rfl
    | reference listed => cases listed
    | direct listed => cases listed
  cases chain with
  | nil => exact Nat.zero_le 1
  | reference listed new found isForm further =>
    have below := (form_of_externalObjects_formPair listed found).1
    rw [Document.resourcesBelow, below] at further
    rw [ends further]
  | direct listed held found isForm further =>
    have below := (form_of_externalObjects_formPair listed found).1
    rw [Document.resourcesBelow, below] at further
    rw [ends further]

/-- The walk goes down from each form to the other one. -/
theorem length_le_of_walk_formPair {met : List ObjectId} {length : ℕ}
    (chain : formPair.FormChain (Settings.formResources formPair) met pairResources length) :
    length ≤ (if ⟨4, 0⟩ ∈ met then 0 else 1) + (if ⟨5, 0⟩ ∈ met then 0 else 1) := by
  generalize same : pairResources = resources at chain
  induction chain with
  | nil => exact Nat.zero_le _
  | @reference met _ id form _ listed new found isForm further ih =>
    subst same
    have below := (form_of_externalObjects_formPair listed found).1
    have ih := ih (by
      show _ = Option.getD (formPair.ownResources? form) _
      rw [below]
      rfl)
    rw [externalObjects_formPair, List.mem_pair] at listed
    rcases listed with listed | listed
    · cases listed
      simp [new] at ih ⊢
      omega
    · cases listed
      simp [new] at ih ⊢
      omega
  | direct listed held =>
    subst same
    rw [externalObjects_formPair, List.mem_pair] at listed
    rcases listed with rfl | rfl <;> cases held

theorem checkDocument_staysWithin_formPair : (strictTo 2).Patternless formPair ∧
    ∀ allowed actual, (strictTo 2).checkDocument formPair
      ≠ .error (.limitExceeded .recursionDepth allowed actual) := by
  refine ⟨patternless_formPair 2,
    (Settings.checkDocument_staysWithin (patternless_formPair 2)).1 ?_⟩
  intro page member resources found length chain
  rw [pages_formPair, List.mem_singleton] at member
  subst member
  cases eq_of_usesResources_formPair (.page found)
  exact length_le_of_walk_formPair chain

/-- With room for one form, the pair fails, though neither of them lists the other: the walk meets the
second form below the first one. -/
theorem checkDocument_staysWithin_ne : (strictTo 1).Patternless formPair ∧
    (∀ page ∈ formPair.pages, ∀ resources, formPair.pageResources page = .ok resources →
      ∀ length, formPair.FormChain formPair.resourcesBelow [] resources length →
        length ≤ (strictTo 1).maxRecursionDepth) ∧
    (strictTo 1).checkDocument formPair = .error (.limitExceeded .recursionDepth 1 2) := by
  refine ⟨patternless_formPair 1, fun page member resources found length chain => ?_, ?_⟩
  · rw [pages_formPair, List.mem_singleton] at member
    subst member
    cases eq_of_usesResources_formPair (.page found)
    exact length_le_of_formChain_formPair chain
  · unfold Settings.checkDocument
    rw [pages_formPair]
    decide +kernel

end Preflight
