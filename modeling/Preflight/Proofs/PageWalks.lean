import Mathlib
import Preflight.Proofs.PassingPages

/-!
# One walk for all pages, or one for each

A document that passes when each page is judged in a walk of its own passes in a single walk over all
pages. Both give the same verdict as long as a form that two pages list is judged with the same
resources on both: then what the single walk passes over was judged before, and the two walks of a
page go on in step. The walk of its own may only run out of levels where the single walk passes over
a form that it met at a smaller depth.
-/

namespace Preflight

/-! ## Walks in step -/

/-- How a part of the single walk ends compared with the same part of the walk of its own. -/
inductive Agrees (fault : StreamFailure) (seen : List ObjectId) :
    Except StreamFailure (Unit × List ObjectId) → Except StreamFailure (Unit × List ObjectId) →
      Prop where
  | deep {shared : Except StreamFailure (Unit × List ObjectId)} :
      Agrees fault seen shared (.error fault)
  | fails (failure : StreamFailure) : Agrees fault seen (.error failure) (.error failure)
  | passes {shared own : List ObjectId} (joined : Joined seen shared own) :
      Agrees fault seen (.ok ((), shared)) (.ok ((), own))

namespace Agrees

variable {fault : StreamFailure} {seen shared own : List ObjectId}

/-- Both walks judge something in the same way. -/
theorem bind_same {α : Type} (x : Except StreamFailure α)
    {f g : α → Except StreamFailure (Unit × List ObjectId)}
    (h : ∀ a, x = .ok a → Agrees fault seen (f a) (g a)) :
    Agrees fault seen (x >>= f) (x >>= g) := by
  cases x with
  | error failure => exact .fails failure
  | ok a => exact h a rfl

/-- Walks that are in step at each entry are in step over all of them. -/
theorem forM {f g : Object → Walk Unit} {entries : List Object}
    (h : ∀ entry ∈ entries, ∀ {shared own}, Joined seen shared own →
      Agrees fault seen (f entry shared) (g entry own)) (joined : Joined seen shared own) :
    Agrees fault seen (entries.forM f shared) (entries.forM g own) := by
  induction entries generalizing shared own with
  | nil => exact .passes joined
  | cons entry entries ih =>
    have first := h entry List.mem_cons_self joined
    show Agrees fault seen (f entry shared >>= fun p => entries.forM f p.2)
      (g entry own >>= fun p => entries.forM g p.2)
    generalize f entry shared = x at first ⊢
    generalize g entry own = y at first ⊢
    cases first with
    | deep => exact .deep
    | fails failure => exact .fails failure
    | passes joined =>
      exact ih (fun other member => h other (List.mem_cons_of_mem _ member)) joined

end Agrees

/-- A form that users of both kinds list by one reference is judged with the same resources for both:
with its own, or else with theirs, which are the same. -/
def Document.FormsAgree (document : Document) (users others : Dictionary → Prop) : Prop :=
  ∀ {user other : Dictionary}, users user → others other → ∀ {id : ObjectId},
    .reference id ∈ document.externalObjects user → .reference id ∈ document.externalObjects other →
    ∀ {form : Stream}, ((Object.reference id).resolve (some document)).stream? = some form →
      document.subtype? form = some "Form" →
      Settings.formResources document user form = Settings.formResources document other form

/-- A form that two pages list is judged with the same resources on both. -/
def Document.PagesAgree (document : Document) : Prop :=
  ∀ page ∈ document.pages, ∀ other ∈ document.pages, page ≠ other →
    document.FormsAgree (document.UsesResources page) (document.UsesResources other)

namespace Settings

variable [StreamDecoder] {settings : Settings} {document : Document}
  {seen shared own : List ObjectId}
variable {here : Dictionary → Prop}

/-! ## Objects that were met before -/

section Revisit

variable {level : ℕ}
  (again : ∀ {content resources shared own}, here resources →
    settings.Walked document seen content resources → Joined seen shared own →
    Agrees settings.depthFailure seen (.ok ((), shared))
      (settings.checkContentTree document level content resources own))
include again

/-- An object that was judged for some user is passed again, if a form is judged with the same
resources. -/
theorem checkExternalObject_again {user resources : Dictionary} {object : Object}
    (judged : settings.Judged document seen user object)
    (same : ∀ form, object.stream? = some form → document.subtype? form = some "Form" →
      formResources document user form = formResources document resources form ∧
        here (formResources document resources form))
    (joined : Joined seen shared own) :
    Agrees settings.depthFailure seen (.ok ((), shared))
      (settings.checkExternalObject document (settings.checkContentTree document level) resources
        object own) := by
  rw [checkExternalObject_eq]
  split
  · exact .passes joined
  next stream found =>
  obtain ⟨image, form⟩ := judged stream found
  split
  · next subtype =>
    rw [image subtype]
    exact .passes joined
  split
  · next subtype =>
    obtain ⟨content, content_ok, walked⟩ := form subtype
    obtain ⟨equal, used⟩ := same stream found subtype
    rw [content_ok]
    rw [equal] at walked
    exact again used walked joined
  · exact .passes joined

/-- An entry that was met before is passed again. -/
theorem checkExternalEntry_again {users : Dictionary → Prop}
    (covered : settings.Covered document users seen)
    (agree : document.FormsAgree users here)
    (closed : ∀ {user own form}, here user → document.ListsForm user form →
      document.ownResources? form = some own → here own)
    {resources : Dictionary} {entry : Object} (used : here resources)
    (listed : entry ∈ document.externalObjects resources)
    (met : settings.Met document seen resources entry) (joined : Joined seen shared own) :
    Agrees settings.depthFailure seen (.ok ((), shared))
      (settings.checkExternalEntry document (settings.checkContentTree document level) resources
        entry own) := by
  have here_form {form : Stream} (found : (entry.resolve (some document)).stream? = some form)
      (subtype : document.subtype? form = some "Form") :
      here (formResources document resources form) :=
    users_formResources closed used ⟨subtype, entry, listed, found⟩
  rw [checkExternalEntry_eq]
  unfold Met at met
  split at met
  · next id reference =>
    cases eq_reference reference
    obtain ⟨user, user_used, user_listed, judged⟩ := covered id met
    split
    · exact .passes joined
    · exact checkExternalObject_again again judged (fun form found subtype =>
        ⟨agree user_used used user_listed listed found subtype, here_form found subtype⟩)
        (joined.met met)
  · next direct =>
    exact checkExternalObject_again again met
      (fun form found subtype => ⟨rfl, here_form found subtype⟩) joined

end Revisit

/-- A content stream that was walked before is passed again, unless the levels run out. -/
theorem checkContentTree_again {users : Dictionary → Prop}
    (covered : settings.Covered document users seen)
    (agree : document.FormsAgree users here)
    (closed : ∀ {user own form}, here user → document.ListsForm user form →
      document.ownResources? form = some own → here own)
    {level : ℕ} (shallow : level ≤ settings.maxRecursionDepth + 1) {content : Bytes}
    {resources : Dictionary} (used : here resources)
    (walked : settings.Walked document seen content resources) (joined : Joined seen shared own) :
    Agrees settings.depthFailure seen (.ok ((), shared))
      (settings.checkContentTree document level content resources own) := by
  -- On the levels that are left. All entries were met, so only the levels can end the walk.
  induction level generalizing content resources shared own with
  | zero => exact .deep
  | succ level ih =>
    obtain ⟨content_ok, own_ok, met⟩ := walked.passes
    rw [checkContentTree_succ]
    rcases settings.checkContentWithin_cutShort (some document) shallow content resources with
      same | deep
    · rw [same, content_ok, checkResources_eq, own_ok,
        ← forM_still (document.externalObjects resources) shared]
      refine Agrees.forM (fun entry listed {shared own} joined => ?_) joined
      exact checkExternalEntry_again (fun used walked joined =>
        ih (Nat.le_of_succ_le shallow) used walked joined) covered agree closed used listed
        (met entry listed) joined
    · rw [deep]
      exact .deep

/-! ## Two walks of the same content -/

section InStep

variable {level : ℕ}
  (step : ∀ {content resources shared own}, here resources → Joined seen shared own →
    Agrees settings.depthFailure seen
      (settings.checkContentTree document level content resources shared)
      (settings.checkContentTree document level content resources own))
include step

/-- Both walks judge an external object in step. -/
theorem checkExternalObject_agrees {resources : Dictionary} {object : Object}
    (used : ∀ form, object.stream? = some form → document.subtype? form = some "Form" →
      here (formResources document resources form))
    (joined : Joined seen shared own) :
    Agrees settings.depthFailure seen
      (settings.checkExternalObject document (settings.checkContentTree document level) resources
        object shared)
      (settings.checkExternalObject document (settings.checkContentTree document level) resources
        object own) := by
  rw [checkExternalObject_eq, checkExternalObject_eq]
  split
  · exact .passes joined
  next stream found =>
  split
  · cases settings.check (.image (some document) stream.dictionary) with
    | error failure => exact .fails failure
    | ok => exact .passes joined
  split
  · next subtype =>
    exact Agrees.bind_same _ fun content _ => step (used stream found subtype) joined
  · exact .passes joined

/-- Both walks judge an entry in step. An entry that only the single walk passes over was judged
before. -/
theorem checkExternalEntry_agrees {users : Dictionary → Prop}
    (covered : settings.Covered document users seen)
    (agree : document.FormsAgree users here)
    (closed : ∀ {user own form}, here user → document.ListsForm user form →
      document.ownResources? form = some own → here own)
    (again : ∀ {content resources shared own}, here resources →
      settings.Walked document seen content resources → Joined seen shared own →
      Agrees settings.depthFailure seen (.ok ((), shared))
        (settings.checkContentTree document level content resources own))
    {resources : Dictionary} {entry : Object} (used : here resources)
    (listed : entry ∈ document.externalObjects resources) (joined : Joined seen shared own) :
    Agrees settings.depthFailure seen
      (settings.checkExternalEntry document (settings.checkContentTree document level) resources
        entry shared)
      (settings.checkExternalEntry document (settings.checkContentTree document level) resources
        entry own) := by
  have object {shared own : List ObjectId} (joined : Joined seen shared own) :
      Agrees settings.depthFailure seen
        (settings.checkExternalObject document (settings.checkContentTree document level) resources
          (entry.resolve (some document)) shared)
        (settings.checkExternalObject document (settings.checkContentTree document level) resources
          (entry.resolve (some document)) own) :=
    checkExternalObject_agrees step
      (fun form found subtype => users_formResources closed used ⟨subtype, entry, listed, found⟩)
      joined
  rw [checkExternalEntry_eq]
  cases reference : entry.reference? with
  | none =>
    rw [checkExternalEntry_eq, reference]
    exact object joined
  | some id =>
    -- Met in both walks, met in the single walk alone, or new in both.
    have joined_id := joined id
    by_cases own_met : id ∈ own
    · rw [checkExternalEntry_eq, reference]
      simp only
      rw [if_pos own_met, if_pos (joined_id.2 (Or.inl own_met))]
      exact .passes joined
    by_cases seen_met : id ∈ seen
    · simp only
      rw [if_pos (joined_id.2 (Or.inr seen_met))]
      refine checkExternalEntry_again again covered agree closed used listed ?_ joined
      rw [Met, reference]
      exact seen_met
    · have apart : id ∉ shared := fun met => (joined_id.1 met).elim own_met seen_met
      rw [checkExternalEntry_eq, reference]
      simp only
      rw [if_neg own_met, if_neg apart]
      exact object (joined.cons id)

end InStep

/-- A content stream is judged in step by both walks, unless the levels run out in the walk of its
own. -/
theorem checkContentTree_agrees {users : Dictionary → Prop}
    (covered : settings.Covered document users seen)
    (agree : document.FormsAgree users here)
    (closed : ∀ {user own form}, here user → document.ListsForm user form →
      document.ownResources? form = some own → here own)
    {level : ℕ} (shallow : level ≤ settings.maxRecursionDepth + 1) {content : Bytes}
    {resources : Dictionary} (used : here resources) (joined : Joined seen shared own) :
    Agrees settings.depthFailure seen
      (settings.checkContentTree document level content resources shared)
      (settings.checkContentTree document level content resources own) := by
  -- On the levels that are left. At an entry that only the single walk passes over, the other one judges
  -- what was judged before.
  induction level generalizing content resources shared own with
  | zero => exact .deep
  | succ level ih =>
    have less := Nat.le_of_succ_le shallow
    rw [checkContentTree_succ, checkContentTree_succ]
    refine Agrees.bind_same _ fun _ _ => ?_
    rw [checkResources_eq, checkResources_eq]
    refine Agrees.bind_same _ fun _ _ =>
      Agrees.forM (fun entry listed {shared own} joined => ?_) joined
    exact checkExternalEntry_agrees (fun used joined => ih less used joined) covered agree
      closed (fun used walked joined =>
        checkContentTree_again covered agree closed less used walked joined)
      used listed joined

/-! ## Pages -/

/-- A page is judged in step by both walks, unless the levels run out in the walk of its own. -/
theorem checkPage_agrees {users : Dictionary → Prop} {page : ObjectId}
    (covered : settings.Covered document users seen)
    (agree : document.FormsAgree users (document.UsesResources page)) :
    Agrees settings.depthFailure seen (settings.checkPage document page seen)
      (settings.checkPage document page []) := by
  rw [checkPage_eq, checkPage_eq]
  refine Agrees.bind_same _ fun dictionary _ => Agrees.bind_same _ fun resources found => ?_
  refine Agrees.bind_same _ fun content _ => ?_
  exact checkContentTree_agrees covered agree (fun used => used.form) le_rfl
    (.page (mapError_eq_ok.1 found)) (fun id => by simp)

/-! ## Documents -/

/-- What the single walk over `front` leaves behind, where each page of it passes by itself too. -/
structure PassedBoth (settings : Settings) (document : Document) (front seen : List ObjectId) :
    Prop where
  /-- What was met is covered by the pages. -/
  covered : settings.Covered document (UsedBy document front) seen
  /-- The single walk passed each page, and met nothing that is not in `seen`. -/
  walked : ∀ page ∈ front, ∃ before after,
    settings.checkPage document page before = .ok ((), after) ∧ after ⊆ seen
  /-- Each page passes by itself. -/
  alone : ∀ page ∈ front, (settings.checkPage document page).run' [] = .ok ()

theorem covered_cons {front : List ObjectId} {page : ObjectId} {more : List ObjectId}
    (covered : settings.Covered document (UsedBy document front) seen)
    (walk : settings.checkPage document page seen = .ok ((), more)) :
    settings.Covered document (UsedBy document (page :: front)) more := by
  have growing := checkPage_grows (List.mem_cons_self : page ∈ page :: front) walk
  intro id met
  rcases growing.accounted id met with known | accounted
  · obtain ⟨user, ⟨other, member, uses⟩, listed, judged⟩ := covered id known
    exact ⟨user, ⟨other, List.mem_cons_of_mem _ member, uses⟩, listed, judged.mono growing.subset⟩
  · exact accounted

/-- One more page that passes. -/
theorem PassedBoth.cons {front : List ObjectId} {page : ObjectId} {more : List ObjectId}
    (passed : settings.PassedBoth document front seen)
    (walk : settings.checkPage document page seen = .ok ((), more))
    (alone : (settings.checkPage document page).run' [] = .ok ()) :
    settings.PassedBoth document (page :: front) more := by
  have growing := checkPage_grows (List.mem_singleton_self page) walk
  refine ⟨covered_cons passed.covered walk, List.forall_mem_cons.2 ⟨?_, ?_⟩,
    List.forall_mem_cons.2 ⟨alone, passed.alone⟩⟩
  · exact ⟨seen, more, walk, List.Subset.refl more⟩
  · intro other member
    obtain ⟨before, after, walk, within⟩ := passed.walked other member
    exact ⟨before, after, walk, List.Subset.trans within growing.subset⟩

/-- From where both ways of judging have passed the same pages, they go on to the same verdict,
unless the levels run out in the walk of a page of its own. -/
theorem checkPages_agree (agree : document.PagesAgree) {front back : List ObjectId}
    (front_among : front ⊆ document.pages) (back_among : back ⊆ document.pages)
    (passed : settings.PassedBoth document front seen) :
    (back.map fun page => (settings.checkPage document page).run' []).forM id
        = .error settings.depthFailure ∨
      (back.map fun page => (settings.checkPage document page).run' []).forM id
        = (back.forM (settings.checkPage document)).run' seen := by
  -- On the pages that are still to be judged. A page that comes a second time passes again in both.
  induction back generalizing front seen with
  | nil => exact Or.inr rfl
  | cons page back ih =>
    have among : page ∈ document.pages := back_among List.mem_cons_self
    have rest_among : back ⊆ document.pages :=
      fun other member => back_among (List.mem_cons_of_mem _ member)
    rw [run_forM_cons]
    show ((settings.checkPage document page).run' [] >>= fun _ => _) = _ ∨
      ((settings.checkPage document page).run' [] >>= fun _ => _) = _
    by_cases repeated : page ∈ front
    · obtain ⟨before, after, walk, within⟩ := passed.walked page repeated
      rw [passed.alone page repeated, checkPage_rerun walk within]
      exact ih front_among rest_among passed
    · have pages_agree : document.FormsAgree (UsedBy document front)
          (document.UsesResources page) := by
        rintro user own ⟨other, member, uses⟩ used
        refine agree other (front_among member) page among ?_ uses used
        rintro rfl
        exact repeated member
      have step := checkPage_agrees passed.covered pages_agree
      have passed_more {more : List ObjectId}
          (walk : settings.checkPage document page seen = .ok ((), more))
          (alone : (settings.checkPage document page).run' [] = .ok ()) :
          settings.PassedBoth document (page :: front) more := passed.cons walk alone
      have alone : (settings.checkPage document page).run' []
          = Prod.fst <$> settings.checkPage document page [] := rfl
      rw [alone] at passed_more ⊢
      generalize settings.checkPage document page [] = own at step passed_more ⊢
      generalize settings.checkPage document page seen = shared at step passed_more ⊢
      cases step with
      | deep => exact Or.inl rfl
      | fails failure => exact Or.inr rfl
      | passes joined =>
        exact ih (List.cons_subset.2 ⟨among, front_among⟩) rest_among (passed_more rfl rfl)

/-- Pages that all pass by themselves pass in the single walk, whatever forms they share. -/
theorem checkPages_follow {front back : List ObjectId}
    (covered : settings.Covered document (UsedBy document front) seen)
    (alone : ∀ page ∈ back, (settings.checkPage document page).run' [] = .ok ()) :
    ∃ after, back.forM (settings.checkPage document) seen = .ok ((), after) := by
  induction back generalizing front seen with
  | nil => exact ⟨seen, rfl⟩
  | cons page back ih =>
    obtain ⟨⟨_, met⟩, walk, -⟩ := map_eq_ok.1 (alone page List.mem_cons_self)
    obtain ⟨middle, passes⟩ := checkPage_follow covered walk
    obtain ⟨after, following⟩ := ih (covered_cons covered passes)
      fun other member => alone other (List.mem_cons_of_mem _ member)
    exact ⟨after, walk_bind_eq_ok.2 ⟨(), middle, passes, following⟩⟩

/-- A document that passes page by page passes in a single walk. -/
theorem checkDocument_of_byPages (h : settings.checkDocumentByPages document = .ok ()) :
    settings.checkDocument document = .ok () := by
  unfold checkDocumentByPages at h
  unfold checkDocument
  by_cases optional : (!settings.level.isRequired) = true
  · rw [if_pos optional]
  · rw [if_neg optional] at h ⊢
    obtain ⟨_, catalog, results⟩ := bind_eq_ok.1 (mapError_eq_ok.1 h)
    have alone (page : ObjectId) (member : page ∈ document.pages) :
        (settings.checkPage document page).run' [] = .ok () :=
      forM_eq_ok.1 results _ (List.mem_map_of_mem member)
    have nothing : settings.Covered document (UsedBy document []) [] :=
      fun id met => absurd met List.not_mem_nil
    obtain ⟨after, walk⟩ := checkPages_follow nothing alone
    refine mapError_eq_ok.2 (bind_eq_ok.2 ⟨(), catalog, ?_⟩)
    exact bind_eq_ok.2 ⟨((), after), walk, rfl⟩

/-- If a form that two pages list is judged with the same resources on both, judging page by page
gives the verdict of a single walk, unless the nesting exceeds its limit on a page by itself. -/
theorem checkDocumentByPages_eq (agree : document.PagesAgree) :
    settings.checkDocumentByPages document = settings.checkDocument document ∨
      settings.checkDocumentByPages document = .error settings.depthFailure.toFailure := by
  unfold checkDocumentByPages checkDocument
  split
  · exact Or.inl rfl
  cases settings.checkCatalog document with
  | error failure => exact Or.inl rfl
  | ok =>
    have start : settings.PassedBoth document [] [] :=
      ⟨fun id met => absurd met List.not_mem_nil, fun page member => absurd member List.not_mem_nil,
        fun page member => absurd member List.not_mem_nil⟩
    simp only [ok_bind]
    rcases checkPages_agree agree (List.nil_subset _) (List.Subset.refl document.pages) start with
      deep | same
    · exact Or.inr (congrArg (Except.mapError StreamFailure.toFailure) deep)
    · refine Or.inl (congrArg (Except.mapError StreamFailure.toFailure) (same.trans ?_))
      show Prod.fst <$> document.pages.forM (settings.checkPage document) [] =
        (document.pages.forM (settings.checkPage document) [] >>= fun _ => pure ())
      cases document.pages.forM (settings.checkPage document) [] <;> rfl

/-- A document that passes page by page passes in a single walk. Both ways of judging give the same
verdict if a form that two pages list is judged with the same resources on both, unless the nesting
exceeds its limit on a page by itself. -/
theorem checkDocumentByPages_agrees (settings : Settings) (document : Document) :
    (settings.checkDocumentByPages document = .ok () → settings.checkDocument document = .ok ()) ∧
    (document.PagesAgree →
      settings.checkDocumentByPages document = settings.checkDocument document ∨
        settings.checkDocumentByPages document = .error settings.depthFailure.toFailure) :=
  ⟨checkDocument_of_byPages, checkDocumentByPages_eq⟩

end Settings

/-! ## A form that two pages share -/

attribute [local instance] StreamDecoder.withoutFilters

namespace Document

/-- Where a look-up ends is the object with which it begins, or one of the document. -/
theorem exists_mem_of_follow {document : Document} {limit : ℕ} {id found : ObjectId}
    {object target : Object} (h : document.follow limit id object = .ok (found, target)) :
    target = object ∨ ∃ entry ∈ document.objects, entry.2 = target := by
  induction limit generalizing id object with
  | zero =>
    unfold follow at h
    split at h
    · split at h <;> cases h
    · cases h
      exact Or.inl rfl
  | succ limit ih =>
    unfold follow at h
    split at h
    · split at h
      · cases h
      · next found_next =>
        rcases ih h with rfl | listed
        · exact Or.inr ⟨_, mem_of_find? found_next, rfl⟩
        · exact Or.inr listed
    · cases h
      exact Or.inl rfl

/-- What a reference leads to is one of the objects. -/
theorem exists_mem_of_resolve {document : Document} {id : ObjectId} {stream : Stream}
    (h : ((Object.reference id).resolve (some document)).stream? = some stream) :
    ∃ entry ∈ document.objects, entry.2.stream? = some stream := by
  rw [Object.resolve_reference] at h
  split at h
  · next target fetched =>
    obtain ⟨⟨found, object⟩, located, rfl⟩ := map_eq_ok.1 fetched
    unfold locate at located
    split at located
    · cases located
    · next object' found_id =>
      rcases exists_mem_of_follow located with rfl | ⟨entry, member, rfl⟩
      · exact ⟨_, mem_of_find? found_id, h⟩
      · exact ⟨entry, member, h⟩
  · cases h

/-- If all forms have resources of their own, each is judged with them on all pages. -/
theorem pagesAgree_of_own {document : Document}
    (h : ∀ entry ∈ document.objects, ∀ form ∈ entry.2.stream?,
      document.subtype? form = some "Form" → (document.ownResources? form).isSome = true) :
    document.PagesAgree := by
  intro page _ other _ _ user own _ _ id _ _ form found subtype
  obtain ⟨entry, member, stream⟩ := exists_mem_of_resolve found
  obtain ⟨resources, own_found⟩ := Option.isSome_iff_exists.1 (h entry member form stream subtype)
  rw [Settings.formResources_of_own own_found, Settings.formResources_of_own own_found]

end Document

/-- A document with two pages that list the same form. The content of the form selects a color in a
space with a name that only the resources of the second page have. -/
def sharedForm (own : List (String × Object)) : Document := .ofList [
    (⟨1, 0⟩, .dictionary (keyed [("Type", .ofName "Catalog"), ("Pages", .reference ⟨2, 0⟩)])),
    (⟨2, 0⟩, .dictionary (keyed [("Type", .ofName "Pages"),
      ("Kids", .array [.reference ⟨3, 0⟩, .reference ⟨4, 0⟩])])),
    (⟨3, 0⟩, .dictionary (keyed [("Type", .ofName "Page"), ("Resources", listing [("F", 5)])])),
    (⟨4, 0⟩, .dictionary (keyed [("Type", .ofName "Page"), ("Resources", .dictionary (keyed [
      ("ColorSpace", .dictionary (keyed [("CS0", .ofName "DeviceRGB")])),
      ("XObject", .dictionary (keyed [("F", .reference ⟨5, 0⟩)]))]))])),
    (⟨5, 0⟩, .stream (keyed (("Subtype", .ofName "Form") :: own))
      (Bytes.ofLatin "/CS0 cs 1 0 0 sc"))]
  (keyed [("Root", .reference ⟨1, 0⟩)])

theorem pages_sharedForm (own : List (String × Object)) :
    (sharedForm own).pages = [⟨3, 0⟩, ⟨4, 0⟩] := by
  cbv

/-- The document in which the form has resources of its own, which are empty. -/
def separateForm : Document := sharedForm [("Resources", .dictionary [])]

theorem checkDocumentByPages_separateForm :
    (Settings.ofLevel .x1a).checkDocumentByPages separateForm = .ok () := by
  unfold Settings.checkDocumentByPages
  rw [separateForm, pages_sharedForm]
  decide +kernel

theorem checkDocumentByPages_agrees_separateForm :
    (Settings.ofLevel .x1a).checkDocument separateForm = .ok () ∧ separateForm.PagesAgree ∧
      ((Settings.ofLevel .x1a).checkDocumentByPages separateForm
          = (Settings.ofLevel .x1a).checkDocument separateForm ∨
        (Settings.ofLevel .x1a).checkDocumentByPages separateForm
          = .error (Settings.ofLevel .x1a).depthFailure.toFailure) := by
  obtain ⟨passes, same⟩ := Settings.checkDocumentByPages_agrees (.ofLevel .x1a) separateForm
  have agree : separateForm.PagesAgree := Document.pagesAgree_of_own (by decide +kernel)
  exact ⟨passes checkDocumentByPages_separateForm, agree, same agree⟩

/-- Without resources of its own, the form passes on the first page and fails on the second one, where
the single walk passes over it. -/
theorem checkDocumentByPages_ne :
    (Settings.ofLevel .x1a).checkDocument (sharedForm []) = .ok () ∧
      (Settings.ofLevel .x1a).checkDocumentByPages (sharedForm [])
        = .error (.conformance ⟨.color, .rgb⟩) := by
  constructor
  · unfold Settings.checkDocument
    rw [pages_sharedForm]
    decide +kernel
  · unfold Settings.checkDocumentByPages
    rw [pages_sharedForm]
    decide +kernel

end Preflight
