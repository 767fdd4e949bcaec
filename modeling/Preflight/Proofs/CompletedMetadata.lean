import Mathlib
import Preflight.Proofs.MetadataSteps

/-!
# Completed metadata

Completing the metadata of a document fills in what a print level requires, and only that. What the
information dictionary and the catalog said before they still say, with two exceptions: an
information dictionary that stands directly in the trailer is replaced, and the conformance of the
strict level is written, or left out, by whether a version is named. Whatever was there, completing
again changes nothing.
-/

namespace Preflight

/-! ## What stays -/

/-- Levels that require no metadata leave a document as it is. -/
theorem completeMetadata_of_version?_none {level : Level} (other : level.version? = none)
    (document : Document) : (completeMetadata level).run.run document = (.ok (), document) := by
  unfold completeMetadata
  rw [other]
  rfl

/-- What completing the metadata for a print level leaves of a document. In the end, `info` is the
information dictionary and `catalog` is the catalog. -/
structure KeptMetadata (level : Level) (version : String) (document after : Document)
    (infoId : ObjectId) (info : Dictionary) (catalogId : ObjectId) (catalog : Dictionary) :
    Prop where
  info_refers : after.Refers "Info" infoId info
  root_refers : after.Refers "Root" catalogId catalog
  /-- No other object differs. -/
  others : ∀ id, id ≠ infoId → id ≠ catalogId → after.find? id = document.find? id
  trailer : ∀ key, key ≠ Bytes.ofLatin "Info" →
    after.trailer.lookup key = document.trailer.lookup key
  /-- Behind a reference, the information dictionary stays in its place with all it says, but for
  the conformance beside a version that it did not name. -/
  info_entries : ∀ id old, document.Refers "Info" id old →
    id = infoId ∧ after.trailer = document.trailer ∧
      ∀ key value, old.lookup key = some value →
        info.lookup key = some (level.finalValue old key value)
  /-- In place of anything but a reference stands a new one, which says only what is added. -/
  added : (document.trailer.entry? "Info").bind Object.reference? = none →
    document.find? infoId = none ∧
      info = finalInfo level version infoId catalogId []
  /-- The catalog stays in its place with all it says, unless it is the information dictionary. -/
  catalog_entries : ∀ id old, document.Refers "Root" id old →
    id = catalogId ∧ ∀ key value, old.lookup key = some value →
      catalog.lookup key = some (if id = infoId then level.finalValue old key value else value)

theorem Completion.kept {level : Level} {version : String} {document after : Document}
    {infoId catalogId : ObjectId} {info catalog : Dictionary}
    (completion : Completion level version document after infoId info catalogId catalog) :
    KeptMetadata level version document after infoId
      (finalInfo level version infoId catalogId info) catalogId (completeCatalog catalog) where
  info_refers := completion.after_info
  root_refers := completion.after_root
  others _ := completion.find?_after
  trailer _ other := by
    rw [completion.after_eq]
    exact document.trailer_withInfo other
  info_entries id old refers := by
    obtain ⟨rfl, rfl⟩ := refers.eq_of_withInfo completion.info_refers
    refine ⟨rfl, ?_, fun key value => lookup_finalInfo⟩
    rw [completion.after_eq]
    change document.withInfo.trailer = document.trailer
    rw [refers.withInfo_eq]
  added entered := by
    obtain ⟨rfl, rfl⟩ := completion.info_refers.of_withInfo entered
    exact ⟨document.find?_freshId, rfl⟩
  catalog_entries id old refers := by
    obtain ⟨rfl, rfl⟩ := completion.of_root refers
    refine ⟨rfl, fun key value held => lookup_completeCatalog ?_⟩
    split
    · exact lookup_completeInfo held
    · exact held

/-- Completing the metadata of a document changes nothing but its information dictionary and its
catalog, and for levels that are not print levels nothing at all. What these two say stays, with two
exceptions: an information dictionary that is given directly in the trailer is replaced by a new
one, and the strict level writes its conformance over another one if no version is named. -/
theorem completeMetadata_keeps {document after : Document} {level : Level}
    (completed : (completeMetadata level).run.run document = (.ok (), after)) :
    (level = .none ∨ level.isArchival = true → after = document) ∧
    ∀ version, level.version? = some version → ∃ infoId info catalogId catalog,
      KeptMetadata level version document after infoId info catalogId catalog := by
  constructor
  · intro other
    have no_version : level.version? = none := by
      cases level <;> simp [Level.isArchival, Level.version?] at *
    cases (completeMetadata_of_version?_none no_version document).symm.trans completed
    rfl
  · intro version print
    obtain ⟨infoId, info, catalogId, catalog, completion⟩ :=
      (completeMetadata_eq_ok print).1 completed
    exact ⟨infoId, _, catalogId, _, completion.kept⟩

/-- A document with an empty catalog, another dictionary, and an information entry in its trailer.
-/
def describedDocument (info : Object) (entries : Dictionary) : Document :=
  .ofList [(⟨1, 0⟩, .dictionary []), (⟨2, 0⟩, .dictionary entries)]
    [(Bytes.ofLatin "Root", .reference ⟨1, 0⟩), (Bytes.ofLatin "Info", info)]

/-- What the information dictionary of a document with a title says. -/
def titled : Dictionary := [(Bytes.ofLatin "Title", .ofText "Brochure")]

theorem completeMetadata_keeps_titled : ∃ after info,
    (completeMetadata .x3).run.run (describedDocument (.reference ⟨2, 0⟩) titled)
      = (.ok (), after) ∧
    after.Refers "Info" ⟨2, 0⟩ info ∧ info.entry? "Title" = some (.ofText "Brochure") := by
  have refers : (describedDocument (.reference ⟨2, 0⟩) titled).Refers "Info" ⟨2, 0⟩ titled :=
    ⟨⟨2, 0⟩, rfl, rfl⟩
  obtain ⟨after, completed⟩ : ∃ after,
      (completeMetadata .x3).run.run (describedDocument (.reference ⟨2, 0⟩) titled)
        = (.ok (), after) := ⟨_, rfl⟩
  obtain ⟨infoId, info, catalogId, catalog, kept⟩ :=
    (completeMetadata_keeps completed).2 "PDF/X-3:2002" rfl
  obtain ⟨rfl, -, entries⟩ := kept.info_entries ⟨2, 0⟩ titled refers
  exact ⟨after, info, completed, kept.info_refers, entries (Bytes.ofLatin "Title") _ rfl⟩

/-- A title that stands directly in the trailer is lost, and so is a conformance without a version.
-/
theorem completeMetadata_keeps_ne :
    (∃ after info,
      (completeMetadata .x3).run.run (describedDocument (.dictionary titled) []) = (.ok (), after) ∧
      titled.entry? "Title" = some (.ofText "Brochure") ∧
      after.Refers "Info" ⟨3, 0⟩ info ∧ info.entry? "Title" = some (.ofText "Pdf document")) ∧
    ∃ after old info,
      (completeMetadata .x1a).run.run (describedDocument (.reference ⟨2, 0⟩) old)
        = (.ok (), after) ∧
      old.entry? "GTS_PDFXConformance" = some (.ofText "PDF/X-1a:2003") ∧
      after.Refers "Info" ⟨2, 0⟩ info ∧
        info.entry? "GTS_PDFXConformance" = some (.ofText "PDF/X-1a:2001") :=
  ⟨⟨_, _, rfl, rfl, ⟨⟨3, 0⟩, rfl, rfl⟩, rfl⟩,
    ⟨_, [(Bytes.ofLatin "GTS_PDFXConformance", .ofText "PDF/X-1a:2003")], _, rfl, rfl,
      ⟨⟨2, 0⟩, rfl, rfl⟩, rfl⟩⟩

/-! ## What is there in the end -/

/-- At the strict level, a conformance is missing in the end exactly if the information dictionary
stood behind a reference, with a version and no conformance. -/
theorem Completion.has_conformance {version : String} {document after : Document}
    {infoId catalogId : ObjectId} {info catalog : Dictionary}
    (completion : Completion .x1a version document after infoId info catalogId catalog) :
    (finalInfo .x1a version infoId catalogId info).has "GTS_PDFXConformance" = false ↔
      ∃ old, document.Refers "Info" infoId old ∧ old.has "GTS_PDFXVersion" = true ∧
        old.has "GTS_PDFXConformance" = false := by
  rw [has_finalInfo (by decide +kernel), has_conformance_completeInfo, Bool.or_eq_false_iff,
    Bool.not_eq_false']
  cases entered : (document.trailer.entry? "Info").bind Object.reference? with
  | some start =>
    have started := completion.info_refers
    rw [Document.withInfo_of_reference entered] at started
    constructor
    · exact fun ⟨unnamed, named⟩ => ⟨info, started, named, unnamed⟩
    · rintro ⟨old, refers, named, unnamed⟩
      obtain ⟨-, rfl⟩ := refers.unique started
      exact ⟨unnamed, named⟩
  | none =>
    -- What is added names no version, and the trailer referred to no dictionary before.
    obtain ⟨-, rfl⟩ := completion.info_refers.of_withInfo entered
    refine iff_of_false nofun ?_
    rintro ⟨old, ⟨start, start_entered, -⟩, -⟩
    rw [start_entered] at entered
    cases entered

/-- Completing the metadata of a document that has all of them changes nothing. -/
theorem completeMetadata_of_complete {document : Document} {level : Level} {version : String}
    {infoId catalogId : ObjectId} {info catalog : Dictionary}
    (print : level.version? = some version)
    (info_refers : document.Refers "Info" infoId info)
    (complete : ∀ key ∈ requiredKeys, info.has key)
    (root_refers : document.Refers "Root" catalogId catalog)
    (intended : catalog.has "OutputIntents") : ∃ after,
      (completeMetadata level).run.run document = (.ok (), after) ∧
      after.trailer = document.trailer ∧ (∀ id, after.find? id = document.find? id) ∧
        (document.Ordered → after = document) := by
  have informed := info_refers.withInfo_eq
  -- Each of the two dictionaries is put where it already stands.
  have same := Document.find?_put_held info_refers.held
  have held := (same catalogId).trans root_refers.held
  refine ⟨(document.put infoId (.dictionary info)).put catalogId (.dictionary catalog), ?_, rfl,
    fun id => (Document.find?_put_held held id).trans (same id), fun ordered => ?_⟩
  · refine (completeMetadata_eq_ok print).2 ⟨infoId, info, catalogId, catalog, ?_, ?_, ?_⟩
    · rw [informed]
      exact info_refers
    · rw [informed, completeInfo_of_has complete]
      exact root_refers.of_keptIn (.of_find? same) rfl held
    · rw [informed, completeInfo_of_has complete, completeCatalog,
        Dictionary.setDefault_of_has intended]
  · rw [ordered.put_held info_refers.held, ordered.put_held root_refers.held]

/-- Completing the metadata of a document for a print level succeeds only with an information
dictionary and a catalog that have all keys the level requires, except that the strict level does
not name its conformance in an information dictionary that names a version already. Completing them
again, for any print level, changes nothing. -/
theorem completeMetadata_completes {document after : Document} {level : Level} {version : String}
    (print : level.version? = some version)
    (completed : (completeMetadata level).run.run document = (.ok (), after)) :
    ∃ infoId info catalog, after.Refers "Info" infoId info ∧ after.catalog = .ok catalog ∧
      (∀ key ∈ requiredKeys, info.has key = true) ∧
      (level = .x1a → (info.has "GTS_PDFXConformance" = false ↔
        ∃ old, document.Refers "Info" infoId old ∧ old.has "GTS_PDFXVersion" = true ∧
          old.has "GTS_PDFXConformance" = false)) ∧
      catalog.has "OutputIntents" = true ∧
      ∀ other other_version, other.version? = some other_version → ∃ again,
        (completeMetadata other).run.run after = (.ok (), again) ∧ again.trailer = after.trailer ∧
          (∀ id, again.find? id = after.find? id) ∧ (document.Ordered → again = after) := by
  obtain ⟨infoId, info, catalogId, catalog, completion⟩ :=
    (completeMetadata_eq_ok print).1 completed
  have intended : (completeCatalog catalog).has "OutputIntents" = true := by
    rw [has_completeCatalog, beq_self_eq_true, Bool.true_or]
  refine ⟨infoId, finalInfo level version infoId catalogId info, completeCatalog catalog,
    completion.after_info, Document.catalog_eq_ok.2 ⟨catalogId, completion.after_root⟩,
    has_required_finalInfo, ?_, intended, fun other other_version print => ?_⟩
  · rintro rfl
    exact completion.has_conformance
  · obtain ⟨again, run, trailer, objects, same⟩ := completeMetadata_of_complete print
      completion.after_info has_required_finalInfo completion.after_root intended
    exact ⟨again, run, trailer, objects, fun ordered => same (completion.ordered_after ordered)⟩

theorem completeMetadata_completes_titled : ∃ after id info,
    (completeMetadata .x1a).run.run (describedDocument (.reference ⟨2, 0⟩) titled)
      = (.ok (), after) ∧
    after.Refers "Info" id info ∧
    (∀ key ∈ requiredKeys, info.has key = true) ∧
    info.has "GTS_PDFXConformance" = true ∧
    (completeMetadata .x3).run.run after = (.ok (), after) := by
  have refers : (describedDocument (.reference ⟨2, 0⟩) titled).Refers "Info" ⟨2, 0⟩ titled :=
    ⟨⟨2, 0⟩, rfl, rfl⟩
  obtain ⟨after, completed⟩ : ∃ after,
      (completeMetadata .x1a).run.run (describedDocument (.reference ⟨2, 0⟩) titled)
        = (.ok (), after) := ⟨_, rfl⟩
  obtain ⟨id, info, catalog, info_refers, -, keys, conformance, -, again⟩ :=
    completeMetadata_completes (show Level.x1a.version? = some "PDF/X-1:2001" from rfl) completed
  obtain ⟨_, second, -, -, same⟩ := again .x3 "PDF/X-3:2002" rfl
  cases same (Document.ordered_ofList _ _)
  have named : info.has "GTS_PDFXConformance" = true := by
    rw [← Bool.not_eq_false, conformance rfl]
    rintro ⟨old, old_refers, version, -⟩
    obtain ⟨-, rfl⟩ := refers.unique old_refers
    exact absurd version (by decide +kernel)
  exact ⟨after, id, info, completed, info_refers, keys, named, second⟩

/-- A document that names a version is not completed at the strict level. -/
theorem completeMetadata_completes_ne : ∃ after old info,
    (completeMetadata .x1a).run.run (describedDocument (.reference ⟨2, 0⟩) old) = (.ok (), after) ∧
    old.entry? "GTS_PDFXVersion" = some (.ofText "PDF/X-1:2001") ∧
    after.Refers "Info" ⟨2, 0⟩ info ∧ info.has "GTS_PDFXConformance" = false :=
  ⟨_, [(Bytes.ofLatin "GTS_PDFXVersion", .ofText "PDF/X-1:2001")], _, rfl, rfl,
    ⟨⟨2, 0⟩, rfl, rfl⟩, by decide +kernel⟩

end Preflight
