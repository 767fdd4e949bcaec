import Mathlib
import Preflight.Proofs.MetadataSteps

/-!
# Metadata that cannot be completed

Completing the metadata of a document fails if the information dictionary or the catalog cannot be
read. The information dictionary comes first: if it cannot be read, nothing has changed yet. When
the catalog turns out to be unreadable, the information dictionary is complete already and stays so,
and it is all that has changed.
-/

namespace Preflight

/-! ## Steps that fail -/

namespace Edit

variable {α β : Type} {document after : Document} {failure : Failure}
  {cause : AccessFault → StructureFault}

theorem run_bind_eq_error {edit : Edit α} {following : α → Edit β} :
    (edit >>= following).run.run document = (.error failure, after) ↔
      edit.run.run document = (.error failure, after) ∨
      ∃ value middle, edit.run.run document = (.ok value, middle) ∧
        (following value).run.run middle = (.error failure, after) := by
  rw [run_bind]
  rcases edit.run.run document with ⟨failed | value, middle⟩
  · constructor
    · intro run
      cases run
      exact .inl rfl
    · rintro (run | ⟨_, _, run, -⟩) <;> cases run
      rfl
  · constructor
    · exact fun run => .inr ⟨value, middle, rfl, run⟩
    · rintro (run | ⟨_, _, same, run⟩)
      · cases run
      · cases same
        exact run

/-- A part that cannot be read ends an edit, and nothing is changed by that. -/
theorem run_expect_error_bind {γ : Type} {fault : AccessFault} {following : α → Edit β} :
    (expect cause (.error fault) >>= following).run.run document = (.error failure, after) ↔
      after = document ∧ ∃ other, (.error fault : Except AccessFault γ) = .error other ∧
        failure = .document (cause other) := by
  constructor
  · intro run
    cases run
    exact ⟨rfl, fault, rfl, rfl⟩
  · rintro ⟨rfl, _, same, rfl⟩
    cases same
    rfl

/-- A change of a dictionary fails if the dictionary cannot be read, and changes nothing then. -/
theorem changeDictionary_eq_error {id : ObjectId} {change : Dictionary → Dictionary} :
    (changeDictionary cause id change).run.run document = (.error failure, after) ↔
      after = document ∧ ∃ fault, document.fetch id >>= Object.expectDictionary = .error fault ∧
        failure = .document (cause fault) := by
  unfold changeDictionary Document.fetch
  rw [run_get_bind]
  cases document.locate id with
  | error fault => exact run_expect_error_bind
  | ok found =>
    obtain ⟨target, object⟩ := found
    change (expect cause object.expectDictionary >>= _).run.run document = _ ↔
      after = document ∧ ∃ fault, object.expectDictionary = .error fault ∧ _
    cases object.expectDictionary with
    | ok dictionary => exact iff_of_false nofun nofun
    | error fault => exact run_expect_error_bind

/-- The last step of completing metadata fails if the catalog cannot be read, and changes nothing
then. -/
theorem changeCatalog_eq_error {change : Dictionary → Dictionary} :
    (do
      let root ← expect .catalog ((← get).trailer.expect "Root")
      let catalog ← expect .catalog root.expectReference
      changeDictionary .catalog catalog change : Edit Unit).run.run document
        = (.error failure, after) ↔
      after = document ∧ ∃ fault, document.catalog = .error fault ∧
        failure = .document (.catalog fault) := by
  unfold Document.catalog
  rw [run_get_bind]
  cases document.trailer.expect "Root" with
  | error fault => exact run_expect_error_bind
  | ok root =>
    change (expect .catalog root.expectReference >>= _).run.run document = _ ↔
      after = document ∧ ∃ fault, root.expectReference >>= _ = .error fault ∧ _
    cases root.expectReference with
    | error fault => exact run_expect_error_bind
    | ok id => exact changeDictionary_eq_error

end Edit

/-! ## The run -/

/-- How completing the metadata of a document ends at the catalog: the information dictionary `info`
is completed, and in what is left the catalog cannot be read. -/
structure StoppedCompletion (level : Level) (version : String) (document after : Document)
    (infoId : ObjectId) (info : Dictionary) (fault : AccessFault) : Prop where
  info_refers : document.withInfo.Refers "Info" infoId info
  after_eq :
    after = document.withInfo.put infoId (.dictionary (completeInfo level version info))
  unread : after.catalog = .error fault

/-- An information dictionary that cannot be read is not an added one, so the trailer referred to it
from the start. -/
theorem Document.withInfo_of_unread {document : Document} {start : ObjectId} {fault : AccessFault}
    (entered : document.withInfo.trailer.entry? "Info" = some (.reference start))
    (unread : document.withInfo.fetch start >>= Object.expectDictionary = .error fault) :
    document.withInfo = document := by
  cases before : (document.trailer.entry? "Info").bind Object.reference? with
  | some id => exact withInfo_of_reference before
  | none =>
    obtain ⟨start', entered', located⟩ := refers_withInfo before
    cases entered.symm.trans entered'
    unfold fetch at unread
    rw [located] at unread
    cases unread

theorem completeMetadata_eq_error {level : Level} {version : String} {document after : Document}
    {failure : Failure} (print : level.version? = some version) :
    (completeMetadata level).run.run document = (.error failure, after) ↔
      (after = document ∧ ∃ start fault,
        document.trailer.entry? "Info" = some (.reference start) ∧
        document.fetch start >>= Object.expectDictionary = .error fault ∧
          failure = .document (.info fault)) ∨
      ∃ infoId info fault, StoppedCompletion level version document after infoId info fault ∧
        failure = .document (.catalog fault) := by
  obtain ⟨start, infoId_ok, entered⟩ := infoId_run document
  unfold completeMetadata
  rw [print]
  simp only
  constructor
  · intro run
    rcases Edit.run_bind_eq_error.1 run with failed | ⟨_, _, started, run⟩
    · cases infoId_ok.symm.trans failed
    cases infoId_ok.symm.trans started
    rcases Edit.run_bind_eq_error.1 run with failed | ⟨_, _, changed, run⟩
    · obtain ⟨rfl, fault, unread, rfl⟩ := Edit.changeDictionary_eq_error.1 failed
      have same := Document.withInfo_of_unread entered unread
      rw [same] at entered unread ⊢
      exact .inl ⟨rfl, start, fault, entered, unread, rfl⟩
    · obtain ⟨infoId, info, info_located, rfl⟩ := Edit.changeDictionary_eq_ok.1 changed
      obtain ⟨rfl, fault, unread, rfl⟩ := Edit.changeCatalog_eq_error.1 run
      exact .inr ⟨infoId, info, fault, ⟨⟨start, entered, info_located⟩, rfl, unread⟩, rfl⟩
  · intro stopped
    refine Edit.run_bind_eq_error.2 (.inr ⟨start, _, infoId_ok, Edit.run_bind_eq_error.2 ?_⟩)
    rcases stopped with ⟨rfl, start', fault, entered', unread, rfl⟩ |
      ⟨infoId, info, fault, ⟨⟨start', entered', info_located⟩, rfl, unread⟩, rfl⟩
    · have same : after.withInfo = after :=
        Document.withInfo_of_reference (by rw [entered']; rfl)
      rw [same] at entered ⊢
      cases entered.symm.trans entered'
      exact .inl (Edit.changeDictionary_eq_error.2 ⟨rfl, fault, unread, rfl⟩)
    · cases entered.symm.trans entered'
      exact .inr ⟨(), _, Edit.changeDictionary_eq_ok.2 ⟨infoId, info, info_located, rfl⟩,
        Edit.changeCatalog_eq_error.2 ⟨rfl, fault, unread, rfl⟩⟩

/-! ## What is left -/

/-- What is left of a document when completing its metadata for a print level stops at the catalog.
Its information dictionary was `info`. -/
structure KeptButInfo (level : Level) (version : String) (document after : Document)
    (infoId : ObjectId) (info : Dictionary) : Prop where
  info_refers : after.Refers "Info" infoId (completeInfo level version info)
  /-- No other object differs. -/
  others : ∀ id, id ≠ infoId → after.find? id = document.find? id
  trailer : ∀ key, key ≠ Bytes.ofLatin "Info" →
    after.trailer.lookup key = document.trailer.lookup key
  /-- Behind a reference, the information dictionary stays in its place. -/
  behind : ∀ id old, document.Refers "Info" id old →
    id = infoId ∧ old = info ∧ after.trailer = document.trailer
  /-- In place of anything but a reference stands a new one, which says only what is added. -/
  added : (document.trailer.entry? "Info").bind Object.reference? = none →
    document.find? infoId = none ∧ info = []

namespace StoppedCompletion

variable {level : Level} {version : String} {document after : Document} {infoId : ObjectId}
  {info : Dictionary} {fault : AccessFault}

theorem kept (stopped : StoppedCompletion level version document after infoId info fault) :
    KeptButInfo level version document after infoId info where
  info_refers := by
    have refers :=
      stopped.info_refers.put stopped.info_refers.held (completeInfo level version info)
    rw [if_pos rfl, ← stopped.after_eq] at refers
    exact refers
  others id other := by
    rw [stopped.after_eq, Document.find?_put, if_neg other]
    exact stopped.info_refers.find?_withInfo_of_ne other
  trailer key other := by
    rw [stopped.after_eq]
    exact document.trailer_withInfo other
  behind id old refers := by
    obtain ⟨rfl, rfl⟩ := refers.eq_of_withInfo stopped.info_refers
    refine ⟨rfl, rfl, ?_⟩
    rw [stopped.after_eq, refers.withInfo_eq]
    rfl
  added entered := by
    obtain ⟨rfl, rfl⟩ := stopped.info_refers.of_withInfo entered
    exact ⟨document.find?_freshId, rfl⟩

/-- The catalog could not be read before either. -/
theorem catalog_ne_ok
    (stopped : StoppedCompletion level version document after infoId info fault)
    (catalog : Dictionary) : document.catalog ≠ .ok catalog := by
  intro read
  obtain ⟨id, refers⟩ := Document.catalog_eq_ok.1 read
  have left :=
    refers.root_withInfo.put stopped.info_refers.held (completeInfo level version info)
  rw [← stopped.after_eq] at left
  cases (Document.catalog_eq_ok.2 ⟨id, left⟩).symm.trans stopped.unread

/-- Nothing is changed exactly if the information dictionary stood behind a reference and had all
required keys already. -/
theorem unchanged_iff
    (stopped : StoppedCompletion level version document after infoId info fault) :
    (after.trailer = document.trailer ∧ ∀ id, after.find? id = document.find? id) ↔
      document.Refers "Info" infoId info ∧ ∀ key ∈ requiredKeys, info.has key := by
  have kept := stopped.kept
  constructor
  · rintro ⟨same_trailer, same⟩
    have refers : document.Refers "Info" infoId (completeInfo level version info) :=
      kept.info_refers.of_keptIn (.of_find? fun id => (same id).symm)
        (congrArg (fun trailer : Dictionary => trailer.entry? "Info") same_trailer.symm)
        ((same infoId).symm.trans kept.info_refers.held)
    obtain ⟨-, complete, -⟩ := kept.behind infoId _ refers
    rw [complete] at refers
    refine ⟨refers, fun key required => ?_⟩
    rw [← complete]
    exact has_completeInfo key required
  · rintro ⟨refers, complete⟩
    obtain ⟨-, -, same_trailer⟩ := kept.behind infoId info refers
    refine ⟨same_trailer, fun id => ?_⟩
    rw [stopped.after_eq, refers.withInfo_eq, completeInfo_of_has complete]
    exact Document.find?_put_held refers.held id

end StoppedCompletion

/-- Completing the metadata of a document fails for print levels only, and either at the information
dictionary or at the catalog. If the information dictionary cannot be read, the document is left as
it was. If the catalog cannot be read, nothing is left changed but the information dictionary, which
is complete then; so the document is as it was exactly if its information dictionary stood behind a
reference and had all required keys already. -/
theorem completeMetadata_fails {document after : Document} {level : Level} {failure : Failure}
    (failed : (completeMetadata level).run.run document = (.error failure, after)) :
    ∃ version, level.version? = some version ∧
      ((after = document ∧ ∃ start fault, failure = .document (.info fault) ∧
          document.trailer.entry? "Info" = some (.reference start) ∧
          document.fetch start >>= Object.expectDictionary = .error fault) ∨
        ∃ fault infoId info, failure = .document (.catalog fault) ∧
          after.catalog = .error fault ∧ (∀ catalog, document.catalog ≠ .ok catalog) ∧
          KeptButInfo level version document after infoId info ∧
          ((after.trailer = document.trailer ∧ ∀ id, after.find? id = document.find? id) ↔
            document.Refers "Info" infoId info ∧ ∀ key ∈ requiredKeys, info.has key)) := by
  cases print : level.version? with
  | none =>
    unfold completeMetadata at failed
    rw [print] at failed
    cases failed
  | some version =>
    refine ⟨version, rfl, ?_⟩
    rcases (completeMetadata_eq_error print).1 failed with
      ⟨same, start, fault, entered, unread, rfl⟩ | ⟨infoId, info, fault, stopped, rfl⟩
    · exact .inl ⟨same, start, fault, rfl, entered, unread⟩
    · exact .inr ⟨fault, infoId, info, rfl, stopped.unread, stopped.catalog_ne_ok, stopped.kept,
        stopped.unchanged_iff⟩

/-- A document without a catalog, with a title. -/
def rootlessDocument : Document :=
  .ofList [(⟨1, 0⟩, .dictionary [(Bytes.ofLatin "Title", .ofText "Brochure")])]
    [(Bytes.ofLatin "Info", .reference ⟨1, 0⟩)]

theorem completeMetadata_fails_rootless : ∃ after info,
    (completeMetadata .x3).run.run rootlessDocument
      = (.error (.document (.catalog (.missingKey "Root"))), after) ∧
    after.Refers "Info" ⟨1, 0⟩ info ∧ info.entry? "Title" = some (.ofText "Brochure") ∧
    ∀ key ∈ requiredKeys, info.has key := by
  have refers : rootlessDocument.Refers "Info" ⟨1, 0⟩
      [(Bytes.ofLatin "Title", .ofText "Brochure")] := ⟨⟨1, 0⟩, rfl, rfl⟩
  obtain ⟨after, failed⟩ : ∃ after, (completeMetadata .x3).run.run rootlessDocument
      = (.error (.document (.catalog (.missingKey "Root"))), after) := ⟨_, rfl⟩
  obtain ⟨version, -, ⟨-, _, _, other, -⟩ | ⟨_, infoId, info, -, -, -, kept, -⟩⟩ :=
    completeMetadata_fails failed
  · cases other
  · obtain ⟨rfl, rfl, -⟩ := kept.behind ⟨1, 0⟩ _ refers
    exact ⟨after, _, failed, kept.info_refers, lookup_completeInfo rfl, has_completeInfo⟩

/-- A catalog that cannot be read does not keep the information dictionary from being changed. -/
theorem completeMetadata_fails_ne : ∃ failure after,
    (completeMetadata .x3).run.run rootlessDocument = (.error failure, after) ∧
      after.find? ⟨1, 0⟩ ≠ rootlessDocument.find? ⟨1, 0⟩ := by
  refine ⟨_, _, rfl, fun same => ?_⟩
  cases same

end Preflight
