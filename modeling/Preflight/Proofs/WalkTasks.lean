import Mathlib
import Preflight.Proofs.DepthCounters
import Preflight.Proofs.PageWalks

/-!
# Walks as lists of tasks

A walk can be done without recursion: it has a list of tasks, takes the first one, and puts what
there is to do below it at the front. A reference that was met is not followed again, and each task
knows how deep it lies below a page. Every walk over the pages of a document comes to an end in this
way, with the result of the check.
-/

namespace Preflight

/-- Something that a walk has to do. -/
inductive Task where
  | page (id : ObjectId)
  /-- An entry of the external objects of `user`, which are the resources of a content stream that
  is nested `depth` deep below a page. -/
  | entry (depth : ℕ) (user : Dictionary) (object : Object)

namespace Task

/-- How deep below a page a task is met. -/
def depth : Task → ℕ
  | page _ => 0
  | entry depth _ _ => depth

/-- The reference by which a task is met. -/
def reference? : Task → Option ObjectId
  | page _ => none
  | entry _ _ object => object.reference?

/-- The identifier of the object to which the reference of a task leads. -/
def target? (document : Document) (task : Task) : Option ObjectId :=
  task.reference?.bind fun id => (document.locate id).toOption.map Prod.fst

end Task

namespace Settings

variable [StreamDecoder] (settings : Settings) (document : Document)

/-- The tasks that resources give a walk. -/
def entryTasks (depth : ℕ) (resources : Dictionary) : List Task :=
  (document.externalObjects resources).map (.entry depth resources)

/-- Judge a content stream and what its resources hold, apart from the external objects among them:
these are the tasks that are left. -/
def openContent (depth : ℕ) (content : Bytes) (resources : Dictionary) :
    Except StreamFailure (List Task) := do
  settings.checkContentAt (some document) depth content resources
  settings.checkOwnResources document resources
  return entryTasks document depth resources

/-- Judge an external object of `user`, by its subtype. The result is what is left to do below it.
-/
def openExternal (depth : ℕ) (user : Dictionary) (object : Object) :
    Except StreamFailure (List Task) :=
  match object.stream? with
  | none => .ok []
  | some stream =>
    if document.subtype? stream = some "Image" then
      (settings.check (.image (some document) stream.dictionary)).map fun _ => []
    else if document.subtype? stream = some "Form" then do
      let content ← stream.content
      settings.openContent document (depth + 1) content (formResources document user stream)
    else .ok []

/-- Do a task. The result is what is left to do below it. -/
def perform : Task → Except StreamFailure (List Task)
  | .page id => do
    let page ← (document.pageDictionary id).mapError StreamFailure.document
    let resources ← (document.pageResources id).mapError StreamFailure.document
    let content ← document.pageContent page
    settings.openContent document 0 content resources
  | .entry depth user object =>
    settings.openExternal document depth user (object.resolve (some document))

/-- A task is to be done, since it is not met by a reference that was met before. -/
def Fresh (met : List ObjectId) (task : Task) : Prop := ∀ id, task.reference? = some id → id ∉ met

/-- A walk does its tasks, one after the other, and ends: with what was met, or with the failure of
a task. The log holds the tasks that were done. -/
inductive Walks : List Task → List ObjectId → List Task → Except StreamFailure (List ObjectId) →
    Prop where
  /-- Nothing is left to do. -/
  | done (met : List ObjectId) : Walks [] met [] (.ok met)
  /-- The reference of the first task was met before. -/
  | known {task : Task} {tasks log : List Task} {met : List ObjectId} {id : ObjectId}
      {result : Except StreamFailure (List ObjectId)} (reference : task.reference? = some id)
      (old : id ∈ met) (following : Walks tasks met log result) :
      Walks (task :: tasks) met log result
  /-- The first task fails. -/
  | failed {task : Task} {tasks : List Task} {met : List ObjectId} {failure : StreamFailure}
      (fresh : Fresh met task) (fails : settings.perform document task = .error failure) :
      Walks (task :: tasks) met [task] (.error failure)
  /-- The first task is done, and what is left below it comes before the other tasks. -/
  | performed {task : Task} {tasks below log : List Task} {met : List ObjectId}
      {result : Except StreamFailure (List ObjectId)} (fresh : Fresh met task)
      (succeeds : settings.perform document task = .ok below)
      (following : Walks (below ++ tasks) (task.reference?.toList ++ met) log result) :
      Walks (task :: tasks) met (task :: log) result

variable {settings document}

/-! ## Tasks done by themselves -/

theorem openContent_eq_ok {depth : ℕ} {content : Bytes} {resources : Dictionary}
    {below : List Task} :
    settings.openContent document depth content resources = .ok below ↔
      settings.checkContentAt (some document) depth content resources = .ok () ∧
        settings.checkOwnResources document resources = .ok () ∧
        entryTasks document depth resources = below := by
  unfold openContent
  cases settings.checkContentAt (some document) depth content resources with
  | error failure => simp [bind, Except.bind]
  | ok =>
    cases settings.checkOwnResources document resources with
    | error failure => simp [bind, Except.bind]
    | ok => simp [bind, Except.bind, pure, Except.pure]

theorem perform_page {page : ObjectId} {dictionary resources : Dictionary} {content : Bytes}
    (found : document.pageDictionary page = .ok dictionary)
    (inherited : document.pageResources page = .ok resources)
    (decoded : document.pageContent dictionary = .ok content) :
    settings.perform document (.page page)
      = settings.openContent document 0 content resources := by
  rw [perform, found, inherited]
  show (document.pageContent dictionary >>= _) = _
  rw [decoded]
  rfl

theorem perform_form {depth : ℕ} {user : Dictionary} {object : Object} {form : Stream}
    {content : Bytes} (found : (object.resolve (some document)).stream? = some form)
    (isForm : document.subtype? form = some "Form") (decoded : form.content = .ok content) :
    settings.perform document (.entry depth user object)
      = settings.openContent document (depth + 1) content (formResources document user form) := by
  rw [perform, openExternal, found]
  simp only
  rw [isForm, if_neg (by decide), if_pos rfl, decoded]
  rfl

/-! ## What a step of a walk keeps -/

/-- A walk ends in one way only. -/
theorem Walks.unique {tasks log log' : List Task} {met : List ObjectId}
    {result result' : Except StreamFailure (List ObjectId)}
    (h : settings.Walks document tasks met log result)
    (h' : settings.Walks document tasks met log' result') : log' = log ∧ result' = result := by
  induction h generalizing log' result' with
  | done => cases h'; exact ⟨rfl, rfl⟩
  | known reference old _ ih =>
    cases h' with
    | known _ _ following' => exact ih following'
    | failed fresh => exact absurd old (fresh _ reference)
    | performed fresh => exact absurd old (fresh _ reference)
  | failed fresh fails =>
    cases h' with
    | known reference old => exact absurd old (fresh _ reference)
    | failed _ fails' =>
      cases fails.symm.trans fails'
      exact ⟨rfl, rfl⟩
    | performed _ succeeds => cases fails.symm.trans succeeds
  | performed fresh succeeds _ ih =>
    cases h' with
    | known reference old => exact absurd old (fresh _ reference)
    | failed _ fails => cases fails.symm.trans succeeds
    | performed _ succeeds' following' =>
      cases succeeds.symm.trans succeeds'
      obtain ⟨rfl, rfl⟩ := ih following'
      exact ⟨rfl, rfl⟩

/-- A walk does no task that is met by a reference that was met before, and none twice. -/
theorem Walks.references {tasks log : List Task} {met : List ObjectId}
    {result : Except StreamFailure (List ObjectId)}
    (h : settings.Walks document tasks met log result) :
    (log.filterMap Task.reference?).Nodup ∧ ∀ id ∈ log.filterMap Task.reference?, id ∉ met := by
  induction h with
  | done => exact ⟨List.nodup_nil, fun id member => absurd member List.not_mem_nil⟩
  | known _ _ _ ih => exact ih
  | @failed task tasks met failure fresh fails =>
    rw [List.filterMap_cons]
    cases reference : task.reference? with
    | none => exact ⟨List.nodup_nil, fun id member => absurd member List.not_mem_nil⟩
    | some id => exact ⟨List.nodup_singleton id, List.forall_mem_singleton.2 (fresh id reference)⟩
  | @performed task tasks below log met result fresh succeeds following ih =>
    obtain ⟨nodup, apart⟩ := ih
    rw [List.filterMap_cons]
    cases reference : task.reference? with
    | none =>
      rw [reference] at apart
      exact ⟨nodup, apart⟩
    | some id =>
      rw [reference] at apart
      refine ⟨List.nodup_cons.2 ⟨fun again => apart id again List.mem_cons_self, nodup⟩, ?_⟩
      refine List.forall_mem_cons.2 ⟨fresh id reference, fun other member old => ?_⟩
      exact apart other member (List.mem_cons_of_mem _ old)

omit [StreamDecoder] in
/-- A reference leads to its own object in a document in which no object is a reference. -/
theorem eq_of_mem_target
    (direct : ∀ id object, document.find? id = some object → object.reference? = none)
    {id target : ObjectId} (h : target ∈ (document.locate id).toOption.map Prod.fst) :
    target = id := by
  obtain ⟨⟨found, object⟩, located, rfl⟩ := Option.map_eq_some_iff.1 h
  have located := eq_ok_of_toOption located
  unfold Document.locate at located
  split at located
  · cases located
  · next held present =>
    have isDirect := direct id held present
    cases held with
    | reference next => cases isDirect
    | _ =>
      cases located
      rfl

/-- A walk does no two tasks with one object in a document in which no object is a reference. -/
theorem Walks.targets
    (direct : ∀ id object, document.find? id = some object → object.reference? = none)
    {tasks log : List Task} {met : List ObjectId} {result : Except StreamFailure (List ObjectId)}
    (h : settings.Walks document tasks met log result) :
    (log.filterMap (Task.target? document)).Nodup := by
  have followed : log.filterMap (Task.target? document)
      = (log.filterMap Task.reference?).filterMap fun id =>
        (document.locate id).toOption.map Prod.fst := by
    rw [List.filterMap_filterMap]
    rfl
  rw [followed]
  refine h.references.1.filterMap fun first second target led led' => ?_
  rw [← eq_of_mem_target direct led, eq_of_mem_target direct led']

section

variable (required : settings.level.isRequired = true)
include required

/-- Content that is judged is not deeper than the limit. -/
theorem depth_of_openContent {depth : ℕ} {content : Bytes} {resources : Dictionary}
    {below : List Task} (h : settings.openContent document depth content resources = .ok below) :
    ∀ task ∈ below, task.depth ≤ settings.maxRecursionDepth := by
  obtain ⟨judged, -, rfl⟩ := openContent_eq_ok.1 h
  intro task member
  obtain ⟨entry, -, rfl⟩ := List.mem_map.1 member
  show depth ≤ settings.maxRecursionDepth
  by_contra deep
  rw [checkContentAt_of_lt required (Nat.not_le.1 deep)] at judged
  cases judged

/-- What is left to do below an external object is not deeper than the limit. -/
theorem depth_of_openExternal {depth : ℕ} {user : Dictionary} {object : Object}
    {below : List Task} (h : settings.openExternal document depth user object = .ok below) :
    ∀ task ∈ below, task.depth ≤ settings.maxRecursionDepth := by
  have nothing : ∀ task ∈ ([] : List Task), task.depth ≤ settings.maxRecursionDepth :=
    fun _ member => absurd member List.not_mem_nil
  unfold openExternal at h
  split at h
  · cases h
    exact nothing
  split at h
  · obtain ⟨_, -, rfl⟩ := map_eq_ok.1 h
    exact nothing
  split at h
  · obtain ⟨_, -, h⟩ := bind_eq_ok.1 h
    exact depth_of_openContent required h
  · cases h
    exact nothing

/-- What is left to do below a task is not deeper than the limit. -/
theorem depth_of_perform {task : Task} {below : List Task}
    (h : settings.perform document task = .ok below) :
    ∀ other ∈ below, other.depth ≤ settings.maxRecursionDepth := by
  cases task with
  | page id =>
    obtain ⟨_, -, h⟩ := bind_eq_ok.1 h
    obtain ⟨_, -, h⟩ := bind_eq_ok.1 h
    obtain ⟨_, -, h⟩ := bind_eq_ok.1 h
    exact depth_of_openContent required h
  | entry depth user object => exact depth_of_openExternal required h

/-- No task of a walk is deeper than the limit. -/
theorem Walks.depth_le {tasks log : List Task} {met : List ObjectId}
    {result : Except StreamFailure (List ObjectId)}
    (h : settings.Walks document tasks met log result)
    (shallow : ∀ task ∈ tasks, task.depth ≤ settings.maxRecursionDepth) :
    ∀ task ∈ log, task.depth ≤ settings.maxRecursionDepth := by
  induction h with
  | done => exact shallow
  | known _ _ _ ih => exact ih (List.forall_mem_cons.1 shallow).2
  | failed => exact List.forall_mem_singleton.2 (List.forall_mem_cons.1 shallow).1
  | performed _ succeeds _ ih =>
    obtain ⟨first, others⟩ := List.forall_mem_cons.1 shallow
    exact List.forall_mem_cons.2 ⟨first, ih (List.forall_mem_append.2
      ⟨depth_of_perform required succeeds, others⟩)⟩

end

/-! ## Every walk ends -/

/-- After a part of a walk, with what it gave, the walk goes on with the tasks behind the part. -/
inductive Resumes (settings : Settings) (document : Document) (tasks : List Task) :
    Except StreamFailure (Unit × List ObjectId) → List Task →
    Except StreamFailure (List ObjectId) → Prop where
  | ok {met : List ObjectId} {log : List Task} {result : Except StreamFailure (List ObjectId)}
      (following : settings.Walks document tasks met log result) :
      Resumes settings document tasks (.ok ((), met)) log result
  | error (failure : StreamFailure) :
      Resumes settings document tasks (.error failure) [] (.error failure)

/-- Some tasks at the front of a walk are done, with an outcome, whatever stands behind them. -/
def Performs (settings : Settings) (document : Document) (front : List Task) (met : List ObjectId)
    (outcome : Except StreamFailure (Unit × List ObjectId)) : Prop :=
  ∃ log, ∀ tasks more result, settings.Resumes document tasks outcome more result →
    settings.Walks document (front ++ tasks) met (log ++ more) result

theorem Performs.nil (met : List ObjectId) : settings.Performs document [] met (.ok ((), met)) := by
  refine ⟨[], fun tasks more result resumes => ?_⟩
  cases resumes with
  | ok following => exact following

/-- Tasks are done one after the other. -/
theorem Performs.append {front back : List Task} {met : List ObjectId}
    {first : Except StreamFailure (Unit × List ObjectId)} {second : Walk Unit}
    (h : settings.Performs document front met first)
    (following : ∀ after, settings.Performs document back after (second after)) :
    settings.Performs document (front ++ back) met (first >>= fun outcome => second outcome.2) := by
  obtain ⟨log, walks⟩ := h
  cases first with
  | error failure =>
    refine ⟨log, fun tasks more result resumes => ?_⟩
    cases resumes
    rw [List.append_assoc]
    exact walks (back ++ tasks) [] _ (.error failure)
  | ok outcome =>
    obtain ⟨⟨⟩, after⟩ := outcome
    obtain ⟨log', walks'⟩ := following after
    refine ⟨log ++ log', fun tasks more result resumes => ?_⟩
    rw [List.append_assoc, List.append_assoc]
    exact walks (back ++ tasks) _ result (.ok (walks' tasks more result resumes))

/-- A task whose reference was met before is passed over. -/
theorem Performs.known {task : Task} {met : List ObjectId} {id : ObjectId}
    (reference : task.reference? = some id) (old : id ∈ met) :
    settings.Performs document [task] met (.ok ((), met)) := by
  refine ⟨[], fun tasks more result resumes => ?_⟩
  cases resumes with
  | ok following => exact .known reference old following

/-- A task that fails. -/
theorem Performs.failing {task : Task} {met : List ObjectId} {failure : StreamFailure}
    (fresh : Fresh met task) (fails : settings.perform document task = .error failure) :
    settings.Performs document [task] met (.error failure) := by
  refine ⟨[task], fun tasks more result resumes => ?_⟩
  cases resumes
  exact .failed fresh fails

/-- A task is done by itself, and then what is left below it. -/
theorem Performs.performed {task : Task} {below : List Task} {met : List ObjectId}
    {outcome : Except StreamFailure (Unit × List ObjectId)} (fresh : Fresh met task)
    (succeeds : settings.perform document task = .ok below)
    (following : settings.Performs document below (task.reference?.toList ++ met) outcome) :
    settings.Performs document [task] met outcome := by
  obtain ⟨log, walks⟩ := following
  exact ⟨task :: log, fun tasks more result resumes =>
    .performed fresh succeeds (walks tasks more result resumes)⟩

/-- A task below which nothing is left to do. -/
theorem Performs.leaf {task : Task} {met : List ObjectId} (fresh : Fresh met task)
    (succeeds : settings.perform document task = .ok []) :
    settings.Performs document [task] met (.ok ((), task.reference?.toList ++ met)) :=
  .performed fresh succeeds (.nil _)

section

-- The content of forms is done as it is walked.
variable {depth level : ℕ} (opened : ∀ {task met content resources}, Fresh met task →
  settings.perform document task = settings.openContent document (depth + 1) content resources →
  settings.Performs document [task] met
    (settings.checkContentTree document level content resources (task.reference?.toList ++ met)))
include opened

/-- An external object that is met for the first time is done as it is walked. -/
theorem performs_external {user : Dictionary} {object : Object} {met : List ObjectId}
    (fresh : Fresh met (.entry depth user object)) :
    settings.Performs document [.entry depth user object] met
      (settings.checkExternalObject document (settings.checkContentTree document level) user
        (object.resolve (some document)) (object.reference?.toList ++ met)) := by
  have performed : settings.perform document (.entry depth user object)
      = settings.openExternal document depth user (object.resolve (some document)) := rfl
  unfold openExternal at performed
  rw [checkExternalObject_eq]
  cases found : (object.resolve (some document)).stream? with
  | none =>
    rw [found] at performed
    exact .leaf fresh performed
  | some stream =>
    rw [found] at performed
    simp only at performed ⊢
    split at performed
    · next image =>
      rw [if_pos image]
      cases verdict : settings.check (.image (some document) stream.dictionary) with
      | error failure =>
        rw [verdict] at performed
        exact .failing fresh performed
      | ok =>
        rw [verdict] at performed
        exact .leaf fresh performed
    next notImage =>
    rw [if_neg notImage]
    split at performed
    · next isForm =>
      rw [if_pos isForm]
      cases decoded : stream.content with
      | error failure =>
        rw [decoded] at performed
        exact .failing fresh performed
      | ok content => exact opened fresh (perform_form found isForm decoded)
    · next notForm =>
      rw [if_neg notForm]
      exact .leaf fresh performed

/-- Entries of the external objects are done, one after the other, as they are walked. -/
theorem performs_entries_of_opened (user : Dictionary) (objects : List Object)
    (met : List ObjectId) :
    settings.Performs document (objects.map (.entry depth user)) met
      (settings.checkEntries document level user objects met) := by
  induction objects generalizing met with
  | nil => exact .nil met
  | cons object objects ih =>
    have first : settings.Performs document [.entry depth user object] met
        (settings.checkExternalEntry document (settings.checkContentTree document level) user object
          met) := by
      have external (fresh : Fresh met (.entry depth user object)) :=
        performs_external opened fresh
      rw [checkExternalEntry_eq]
      cases reference : object.reference? with
      | none =>
        rw [reference] at external
        refine external fun id found => ?_
        cases reference.symm.trans found
      | some id =>
        rw [reference] at external
        simp only
        split
        · next old => exact .known reference old
        · next new =>
          refine external fun other found => ?_
          cases reference.symm.trans found
          exact new
    exact first.append ih

end

section

variable (required : settings.level.isRequired = true) {depth level : ℕ}
include required

/-- The walk of a content stream judges the stream by itself, and then the external objects. -/
theorem checkContentTree_eq_openContent (sum : depth + level = settings.maxRecursionDepth + 1)
    (content : Bytes) (resources : Dictionary) (met : List ObjectId) :
    settings.checkContentTree document level content resources met =
      (settings.openContent document depth content resources >>= fun _ =>
        settings.checkEntries document (level - 1) resources (document.externalObjects resources)
          met) := by
  unfold openContent
  cases level with
  | zero =>
    have deepest : depth = settings.maxRecursionDepth + 1 := sum
    rw [checkContentAt_of_lt required (by omega), deepest]
    rfl
  | succ level =>
    have levels : settings.maxRecursionDepth + 1 - depth = level + 1 := by omega
    rw [checkContentAt_eq_within required (by omega), levels, checkContentTree_succ,
      checkResources_eq]
    cases settings.checkContentWithin (some document) (level + 1) content resources with
    | error failure => rfl
    | ok => cases settings.checkOwnResources document resources <;> rfl

/-- A task that opens a content stream is done as the stream is walked, if that is so for the
external objects of its resources. -/
theorem performs_openContent (sum : depth + level = settings.maxRecursionDepth + 1)
    (entries : ∀ lower, level = lower + 1 → ∀ user objects met,
      settings.Performs document (objects.map (.entry depth user)) met
        (settings.checkEntries document lower user objects met))
    {task : Task} {met : List ObjectId} {content : Bytes} {resources : Dictionary}
    (fresh : Fresh met task)
    (opens : settings.perform document task
      = settings.openContent document depth content resources) :
    settings.Performs document [task] met
      (settings.checkContentTree document level content resources
        (task.reference?.toList ++ met)) := by
  rw [checkContentTree_eq_openContent required sum]
  cases opened : settings.openContent document depth content resources with
  | error failure => exact .failing fresh (opens.trans opened)
  | ok below =>
    refine .performed fresh (opens.trans opened) ?_
    obtain ⟨judged, -, rfl⟩ := openContent_eq_ok.1 opened
    cases level with
    | zero =>
      rw [checkContentAt_of_lt required (by omega)] at judged
      cases judged
    | succ lower => exact entries lower rfl resources _ _

/-- Entries of the external objects are done, one after the other, as they are walked. -/
theorem performs_entries (sum : depth + level = settings.maxRecursionDepth) (user : Dictionary)
    (objects : List Object) (met : List ObjectId) :
    settings.Performs document (objects.map (.entry depth user)) met
      (settings.checkEntries document level user objects met) := by
  -- On the levels that are left; the external objects of a form are walked with one level less.
  induction level generalizing depth user objects met with
  | zero =>
    refine performs_entries_of_opened (performs_openContent required ?_ ?_) user objects met
    · omega
    · rintro lower ⟨⟩
  | succ level ih =>
    refine performs_entries_of_opened (performs_openContent required ?_ ?_) user objects met
    · omega
    · rintro lower ⟨⟩
      exact ih (by omega)

/-- Pages are done, one after the other, as they are walked. -/
theorem performs_pages (pages : List ObjectId) (met : List ObjectId) :
    settings.Performs document (pages.map .page) met
      (pages.forM (settings.checkPage document) met) := by
  induction pages generalizing met with
  | nil => exact .nil met
  | cons page pages ih =>
    have fresh : Fresh met (.page page) := fun id found => by cases found
    have first : settings.Performs document [.page page] met
        (settings.checkPage document page met) := by
      rw [checkPage_eq]
      cases found : document.pageDictionary page with
      | error fault =>
        refine .failing fresh ?_
        rw [perform, found]
        rfl
      | ok dictionary =>
      cases inherited : document.pageResources page with
      | error fault =>
        refine .failing fresh ?_
        rw [perform, found, inherited]
        rfl
      | ok resources =>
      show settings.Performs document [.page page] met (document.pageContent dictionary >>= _)
      cases decoded : document.pageContent dictionary with
      | error failure =>
        refine .failing fresh ?_
        rw [perform, found, inherited]
        show (document.pageContent dictionary >>= _) = _
        rw [decoded]
        rfl
      | ok content =>
        refine performs_openContent required (Nat.zero_add _) ?_ fresh
          (perform_page found inherited decoded)
        rintro lower ⟨⟩
        exact performs_entries required (Nat.zero_add _)
    exact first.append ih

/-- The walk over the pages of a document ends, with the references that were met, or the failure.
-/
theorem walks_pages (document : Document) :
    ∃ log, settings.Walks document (document.pages.map .page) [] log
      ((document.pages.forM (settings.checkPage document) []).map Prod.snd) := by
  have performs : settings.Performs document (document.pages.map .page) []
      (document.pages.forM (settings.checkPage document) []) := performs_pages required _ _
  obtain ⟨log, walks⟩ := performs
  have walk {result : Except StreamFailure (List ObjectId)}
      (resumes : settings.Resumes document [] (document.pages.forM (settings.checkPage document) [])
        [] result) :
      settings.Walks document (document.pages.map .page) [] log result := by
    have whole := walks [] [] result resumes
    rw [List.append_nil, List.append_nil] at whole
    exact whole
  refine ⟨log, walk ?_⟩
  cases document.pages.forM (settings.checkPage document) [] with
  | error failure => exact .error failure
  | ok outcome => exact .ok (.done outcome.2)

/-- The check of a document judges the catalog, and then walks over the pages. -/
theorem checkDocument_eq (document : Document) :
    settings.checkDocument document = ((settings.checkCatalog document >>= fun _ =>
      (document.pages.forM (settings.checkPage document) []).map fun _ => ()).mapError
        StreamFailure.toFailure) := by
  unfold checkDocument StateT.run
  rw [required, if_neg (by decide)]
  congr 2

end

/-- **The check ends on every document.** The walk over its pages comes to an end in one way, with
what the check reports; no external object is met deeper below a page than the limit, and no
reference is followed twice, so that no object is judged twice unless some object is itself a
reference. Judging content with the patterns that it selects, resolving color spaces, and searching
for inherited attributes return as well, within the limits on their depth. -/
theorem checkDocument_ends (settings : Settings) (document : Document)
    (required : settings.level.isRequired = true) :
    (∃ log result,
      (∀ log' result', settings.Walks document (document.pages.map .page) [] log' result' ↔
        log' = log ∧ result' = result) ∧
      result = (document.pages.forM (settings.checkPage document) []).map Prod.snd ∧
      settings.checkDocument document = ((settings.checkCatalog document >>= fun _ =>
        result.map fun _ => ()).mapError StreamFailure.toFailure) ∧
      (∀ task ∈ log, task.depth ≤ settings.maxRecursionDepth) ∧
      (log.filterMap Task.reference?).Nodup ∧
      ((∀ id object, document.find? id = some object → object.reference? = none) →
        (log.filterMap (Task.target? document)).Nodup)) ∧
    (∀ depth content resources result, depth ≤ settings.maxRecursionDepth →
      (Returns (settings.contentStep (some document)) (·.depth ≤ settings.maxRecursionDepth)
        ⟨depth, content, resources⟩ result ↔
        result = settings.checkContentAt (some document) depth content resources)) ∧
    (∀ object result,
      Returns (ColorSpace.resolveStep (some document) settings.maxColorDepth)
        (·.depth ≤ settings.maxColorDepth + 1) ⟨0, object⟩ result ↔
        result = ColorSpace.resolve (some document) settings.maxColorDepth object) ∧
    ∀ key id result,
      Returns (document.inheritStep key) (·.above ≤ Document.inheritanceLimit) ⟨0, id⟩ result ↔
        result = document.inherited id key := by
  refine ⟨?_, fun depth content resources result allowed =>
    returns_checkContentAt required allowed content resources result,
    fun object result => ColorSpace.returns_resolve _ object result,
    fun key id result => Document.returns_inherited id result⟩
  obtain ⟨log, walk⟩ := walks_pages required document
  have shallow : ∀ task ∈ document.pages.map Task.page,
      task.depth ≤ settings.maxRecursionDepth := by
    intro task member
    obtain ⟨page, -, rfl⟩ := List.mem_map.1 member
    exact Nat.zero_le _
  refine ⟨log, _, fun log' result' => ⟨walk.unique, ?_⟩, rfl, ?_, walk.depth_le required shallow,
    walk.references.1, fun direct => walk.targets direct⟩
  · rintro ⟨rfl, rfl⟩
    exact walk
  · rw [checkDocument_eq required]
    cases document.pages.forM (settings.checkPage document) [] <;> rfl

end Settings

/-! ## Circles -/

attribute [local instance] StreamDecoder.withoutFilters

/-- Resources with a tiling pattern. -/
def tiledResources : Dictionary :=
  keyed [("Pattern", .dictionary (keyed [("P", .reference ⟨6, 0⟩)]))]

/-- A document with two forms that list each other, a tiling pattern that selects itself, a color
space that is defined by itself, and a group of pages that belongs to itself. -/
def circles : Document :=
  ((formCircle.put ⟨6, 0⟩ (.stream (keyed [("PatternType", .integer 1),
    ("Resources", .dictionary tiledResources)]) (Bytes.ofLatin "/Pattern cs /P scn"))).put
    ⟨7, 0⟩ (.array [.ofName "Pattern", .reference ⟨7, 0⟩])).put
    ⟨8, 0⟩ (.dictionary (keyed [("Parent", .reference ⟨8, 0⟩)]))

theorem pages_circles : circles.pages = [⟨3, 0⟩] := by cbv

theorem checkDocument_circles : (Settings.ofLevel .x1a).checkDocument circles = .ok () := by
  unfold Settings.checkDocument
  rw [pages_circles]
  decide +kernel

theorem checkDocument_ends_circles :
    (Settings.ofLevel .x1a).level.isRequired = true ∧
    (∃ log met,
      (∀ log' result', (Settings.ofLevel .x1a).Walks circles (circles.pages.map .page) [] log'
        result' ↔ log' = log ∧ result' = .ok met) ∧
      (∀ task ∈ log, task.depth ≤ 10) ∧ (log.filterMap (Task.target? circles)).Nodup) ∧
    Returns ((Settings.ofLevel .x1a).contentStep (some circles)) (·.depth ≤ 10)
      ⟨0, Bytes.ofLatin "/Pattern cs /P scn", tiledResources⟩
      (.error (.limitExceeded .recursionDepth 10 11)) ∧
    Returns (ColorSpace.resolveStep (some circles) 16) (·.depth ≤ 17) ⟨0, .reference ⟨7, 0⟩⟩
      (.error (.limitExceeded .colorDepth 16 17)) ∧
    Returns (circles.inheritStep "Resources") (·.above ≤ 64) ⟨0, ⟨8, 0⟩⟩ (.error .parentChain) := by
  obtain ⟨⟨log, result, walks, -, same, shallow, -, once⟩, content, definition, inherited⟩ :=
    Settings.checkDocument_ends (.ofLevel .x1a) circles rfl
  have direct (id : ObjectId) (object : Object) (found : circles.find? id = some object) :
      object.reference? = none := by
    have all : ∀ entry ∈ circles.objects, entry.2.reference? = none := by decide +kernel
    exact all _ (Document.mem_of_find? found)
  refine ⟨rfl, ?_,
    (content 0 _ _ _ (by decide)).2 (by decide +kernel),
    (definition _ _).2 (by decide +kernel), (inherited _ _ _).2 ?_⟩
  · rw [checkDocument_circles] at same
    obtain ⟨_, -, passes⟩ := bind_eq_ok.1 (mapError_eq_ok.1 same.symm)
    obtain ⟨met, rfl, -⟩ := map_eq_ok.1 passes
    exact ⟨log, met, walks, shallow, once direct⟩
  · rfl

/-! ## A form with two references -/

/-- A document with two pages that list one form, the first one by a reference to a reference. -/
def aliasedForm : Document :=
  ((sharedForm []).put ⟨3, 0⟩ (.dictionary (keyed [("Type", .ofName "Page"),
    ("Resources", listing [("F", 6)])]))).put ⟨6, 0⟩ (.reference ⟨5, 0⟩)

theorem pages_aliasedForm : aliasedForm.pages = [⟨3, 0⟩, ⟨4, 0⟩] := by cbv

/-- The resources of the two pages of the document. -/
def aliasedResources : ℕ → Dictionary
  | 3 => keyed [("XObject", .dictionary (keyed [("F", .reference ⟨6, 0⟩)]))]
  | _ => keyed [("ColorSpace", .dictionary (keyed [("CS0", .ofName "DeviceRGB")])),
      ("XObject", .dictionary (keyed [("F", .reference ⟨5, 0⟩)]))]

theorem walks_aliasedForm : (Settings.ofLevel .x1a).Walks aliasedForm
    [.page ⟨3, 0⟩, .page ⟨4, 0⟩] []
    [.page ⟨3, 0⟩, .entry 0 (aliasedResources 3) (.reference ⟨6, 0⟩), .page ⟨4, 0⟩,
      .entry 0 (aliasedResources 4) (.reference ⟨5, 0⟩)]
    (.error (.conformance ⟨.color, .rgb⟩)) := by
  have opens {depth : ℕ} {content : Bytes} {resources : Dictionary}
      (content_ok : (Settings.ofLevel .x1a).checkContentAt (some aliasedForm) depth content
        resources = .ok ())
      (own_ok : (Settings.ofLevel .x1a).checkOwnResources aliasedForm resources = .ok ()) :=
    Settings.openContent_eq_ok.2 ⟨content_ok, own_ok, rfl⟩
  have first : (Settings.ofLevel .x1a).perform aliasedForm (.page ⟨3, 0⟩)
      = .ok [.entry 0 (aliasedResources 3) (.reference ⟨6, 0⟩)] :=
    (Settings.perform_page rfl rfl rfl).trans (opens (by decide +kernel) (by decide +kernel))
  have passing : (Settings.ofLevel .x1a).perform aliasedForm
      (.entry 0 (aliasedResources 3) (.reference ⟨6, 0⟩))
        = .ok [.entry 1 (aliasedResources 3) (.reference ⟨6, 0⟩)] :=
    (Settings.perform_form rfl (by decide +kernel) rfl).trans
      (opens (by decide +kernel) (by decide +kernel))
  have second : (Settings.ofLevel .x1a).perform aliasedForm (.page ⟨4, 0⟩)
      = .ok [.entry 0 (aliasedResources 4) (.reference ⟨5, 0⟩)] :=
    (Settings.perform_page rfl rfl rfl).trans (opens (by decide +kernel) (by decide +kernel))
  have fails : (Settings.ofLevel .x1a).checkContentAt (some aliasedForm) 1
      (Bytes.ofLatin "/CS0 cs 1 0 0 sc") (aliasedResources 4)
        = .error (.conformance ⟨.color, .rgb⟩) := by
    decide +kernel
  have failing : (Settings.ofLevel .x1a).perform aliasedForm
      (.entry 0 (aliasedResources 4) (.reference ⟨5, 0⟩))
        = .error (.conformance ⟨.color, .rgb⟩) := by
    rw [Settings.perform_form rfl (by decide +kernel) rfl]
    exact congrArg (· >>= _) fails
  have page {id : ObjectId} {met : List ObjectId} : Settings.Fresh met (.page id) := by
    rintro id ⟨⟩
  refine .performed page first (.performed ?_ passing
    (.known rfl List.mem_cons_self (.performed page second (.failed ?_ failing))))
  · rintro id ⟨⟩
    exact List.not_mem_nil
  · rintro id ⟨⟩
    decide

/-- The form is judged twice in one walk, once for each reference: it passes on the first page, and
fails on the second one, where the space that it selects is known. With one reference for both pages
the document passes. -/
theorem checkDocument_ends_ne :
    (∃ log result, (Settings.ofLevel .x1a).Walks aliasedForm (aliasedForm.pages.map .page) [] log
        result ∧
      log.filterMap (Task.target? aliasedForm) = [⟨5, 0⟩, ⟨5, 0⟩]) ∧
    (Settings.ofLevel .x1a).checkDocument aliasedForm = .error (.conformance ⟨.color, .rgb⟩) ∧
    (Settings.ofLevel .x1a).checkDocument (sharedForm []) = .ok () := by
  refine ⟨?_, ?_, ?_⟩
  · rw [pages_aliasedForm]
    exact ⟨_, _, walks_aliasedForm, by decide +kernel⟩
  · unfold Settings.checkDocument
    rw [pages_aliasedForm]
    decide +kernel
  · unfold Settings.checkDocument
    rw [pages_sharedForm]
    decide +kernel

end Preflight
