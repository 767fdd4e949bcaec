import Mathlib
import Preflight.Metadata
import Preflight.Proofs.ReplacedObjects

/-!
# Steps of completing metadata

Completing the metadata of a document for a print level changes two dictionaries to which the
trailer refers: the information dictionary, which is added if it is missing, and then the catalog.
They may be one and the same. Entries are added to both; none is taken out.
-/

namespace Preflight

/-! ## Dictionaries to which entries are added -/

namespace Dictionary

variable {dictionary : Dictionary} {key other : String} {value : Object}

theorem has_set : (dictionary.set key value).has other
    = (Bytes.ofLatin other == Bytes.ofLatin key || dictionary.has other) := by
  unfold has entry? set
  rw [lookup_put]
  by_cases same : Bytes.ofLatin other = Bytes.ofLatin key <;> simp [same]

theorem has_setDefault : (dictionary.setDefault key value).has other
    = (Bytes.ofLatin other == Bytes.ofLatin key || dictionary.has other) := by
  unfold setDefault
  split
  · next held =>
    by_cases same : Bytes.ofLatin other = Bytes.ofLatin key
    · rw [beq_iff_eq.2 same, Bool.true_or]
      unfold has entry? at *
      rw [same]
      exact held
    · rw [beq_eq_false_iff_ne.2 same, Bool.false_or]
  · exact has_set

theorem setDefault_of_has (held : dictionary.has key) :
    dictionary.setDefault key value = dictionary :=
  if_pos held

/-- What a dictionary says stays when a key that it lacks is added. -/
theorem lookup_setDefault {bytes : Bytes} {old : Object}
    (held : dictionary.lookup bytes = some old) :
    (dictionary.setDefault key value).lookup bytes = some old := by
  unfold setDefault
  split
  · exact held
  · next lacking =>
    rw [set, lookup_put, if_neg, held]
    rintro rfl
    exact lacking (Option.isSome_iff_exists.2 ⟨old, held⟩)

end Dictionary

/-! ## Information dictionaries and catalogs -/

section Info

variable {level : Level} {version : String} {info : Dictionary}

/-- What becomes of a value in an information dictionary: the strict level names its conformance
along with its version, in place of what an information dictionary without a version says. -/
def Level.finalValue (level : Level) (info : Dictionary) (key : Bytes) (value : Object) : Object :=
  if level = .x1a ∧ info.has "GTS_PDFXVersion" = false ∧
      key = Bytes.ofLatin "GTS_PDFXConformance" then
    .ofText "PDF/X-1a:2001"
  else value

theorem lookup_nameVersion {key : Bytes} {value : Object} (held : info.lookup key = some value) :
    (nameVersion level version info).lookup key = some (level.finalValue info key value) := by
  unfold nameVersion Level.finalValue
  split
  · next named => rw [if_neg (by simp [named]), held]
  · next unnamed =>
    have distinct : key ≠ Bytes.ofLatin "GTS_PDFXVersion" := by
      rintro rfl
      exact unnamed (Option.isSome_iff_exists.2 ⟨value, held⟩)
    have stays : (info.set "GTS_PDFXVersion" (.ofText version)).lookup key = some value := by
      rw [Dictionary.set, Dictionary.lookup_put, if_neg distinct, held]
    cases level
    case x1a =>
      change (Dictionary.set _ "GTS_PDFXConformance" _).lookup key = _
      rw [Dictionary.set, Dictionary.lookup_put, stays]
      simp only [Bool.not_eq_true] at unnamed
      simp only [unnamed, true_and]
      split <;> rfl
    all_goals exact stays.trans (congrArg some (if_neg (by simp)).symm)

/-- What an information dictionary says stays, but for the conformance beside a version that it did
not name. -/
theorem lookup_completeInfo {key : Bytes} {value : Object} (held : info.lookup key = some value) :
    (completeInfo level version info).lookup key = some (level.finalValue info key value) :=
  Dictionary.lookup_setDefault (Dictionary.lookup_setDefault
    (Dictionary.lookup_setDefault (lookup_nameVersion held)))

theorem lookup_completeCatalog {catalog : Dictionary} {key : Bytes} {value : Object}
    (held : catalog.lookup key = some value) : (completeCatalog catalog).lookup key = some value :=
  Dictionary.lookup_setDefault held

theorem has_nameVersion : (nameVersion level version info).has "GTS_PDFXVersion" := by
  unfold nameVersion
  split
  · next named => exact named
  · cases level <;> simp [Level.conformance?, Dictionary.has_set]

/-- The keys of an information dictionary that every print level requires. -/
def requiredKeys : List String := ["GTS_PDFXVersion", "Title", "Creator", "Trapped"]

/-- A completed information dictionary has all required keys. -/
theorem has_completeInfo :
    ∀ key ∈ requiredKeys, (completeInfo level version info).has key := by
  simp [requiredKeys, completeInfo, Dictionary.has_setDefault, has_nameVersion]

/-- The strict level names its conformance along with its version. -/
theorem has_conformance_completeInfo :
    (completeInfo .x1a version info).has "GTS_PDFXConformance"
      = (info.has "GTS_PDFXConformance" || !info.has "GTS_PDFXVersion") := by
  -- None of the keys that are set beside it is the key of the conformance.
  have title : (Bytes.ofLatin "GTS_PDFXConformance" == Bytes.ofLatin "Title") = false := by
    decide +kernel
  have creator : (Bytes.ofLatin "GTS_PDFXConformance" == Bytes.ofLatin "Creator") = false := by
    decide +kernel
  have trapped : (Bytes.ofLatin "GTS_PDFXConformance" == Bytes.ofLatin "Trapped") = false := by
    decide +kernel
  simp only [completeInfo, Dictionary.has_setDefault, title, creator, trapped, Bool.false_or]
  unfold nameVersion
  split
  · next held => simp [held]
  · next unnamed => simp [Level.conformance?, Dictionary.has_set, unnamed]

/-- Nothing is added to an information dictionary that has all required keys. -/
theorem completeInfo_of_has (complete : ∀ key ∈ requiredKeys, info.has key) :
    completeInfo level version info = info := by
  have named := complete "GTS_PDFXVersion" (by simp [requiredKeys])
  have title := complete "Title" (by simp [requiredKeys])
  have creator := complete "Creator" (by simp [requiredKeys])
  have trapped := complete "Trapped" (by simp [requiredKeys])
  rw [completeInfo, nameVersion, if_pos named, Dictionary.setDefault_of_has title,
    Dictionary.setDefault_of_has creator, Dictionary.setDefault_of_has trapped]

theorem has_completeCatalog {catalog : Dictionary} {key : String} :
    (completeCatalog catalog).has key
      = (Bytes.ofLatin key == Bytes.ofLatin "OutputIntents" || catalog.has key) :=
  Dictionary.has_setDefault

/-- The information dictionary in the end. Where it is the catalog too, it has the printing
condition as well. -/
def finalInfo (level : Level) (version : String) (infoId catalogId : ObjectId) (info : Dictionary) :
    Dictionary :=
  if infoId = catalogId then completeCatalog (completeInfo level version info)
  else completeInfo level version info

variable {infoId catalogId : ObjectId}

theorem lookup_finalInfo {key : Bytes} {value : Object} (held : info.lookup key = some value) :
    (finalInfo level version infoId catalogId info).lookup key
      = some (level.finalValue info key value) := by
  unfold finalInfo
  split
  · exact lookup_completeCatalog (lookup_completeInfo held)
  · exact lookup_completeInfo held

/-- Beside the printing condition, it has the keys of a completed information dictionary. -/
theorem has_finalInfo {key : String}
    (distinct : (Bytes.ofLatin key == Bytes.ofLatin "OutputIntents") = false) :
    (finalInfo level version infoId catalogId info).has key
      = (completeInfo level version info).has key := by
  unfold finalInfo
  split
  · rw [has_completeCatalog, distinct, Bool.false_or]
  · rfl

theorem has_required_finalInfo :
    ∀ key ∈ requiredKeys, (finalInfo level version infoId catalogId info).has key := by
  have distinct : ∀ key ∈ requiredKeys,
      (Bytes.ofLatin key == Bytes.ofLatin "OutputIntents") = false := by decide +kernel
  intro key required
  rw [has_finalInfo (distinct key required)]
  exact has_completeInfo key required

end Info

/-! ## The run -/

theorem Edit.run_bind_eq_ok {α β : Type} {document after : Document} {edit : Edit α}
    {following : α → Edit β} {result : β} :
    (edit >>= following).run.run document = (.ok result, after) ↔
      ∃ value middle, edit.run.run document = (.ok value, middle) ∧
        (following value).run.run middle = (.ok result, after) := by
  rw [Edit.run_bind]
  rcases edit.run.run document with ⟨failure | value, middle⟩
  · exact iff_of_false nofun nofun
  · constructor
    · exact fun run => ⟨value, middle, rfl, run⟩
    · rintro ⟨_, _, same, run⟩
      cases same
      exact run

theorem Edit.run_get_bind {β : Type} (document : Document) (following : Document → Edit β) :
    (get >>= following).run.run document = (following document).run.run document := by
  rw [Edit.run_bind, Edit.run_get]

theorem Edit.run_expect_bind_eq_ok {α β : Type} {document after : Document}
    {cause : AccessFault → StructureFault} {part : Except AccessFault α} {following : α → Edit β}
    {result : β} :
    (Edit.expect cause part >>= following).run.run document = (.ok result, after) ↔
      ∃ value, part = .ok value ∧ (following value).run.run document = (.ok result, after) := by
  rw [Edit.run_bind, Edit.run_expect]
  cases part with
  | ok value =>
    constructor
    · exact fun run => ⟨value, rfl, run⟩
    · rintro ⟨_, same, run⟩
      cases same
      exact run
  | error fault => exact iff_of_false nofun nofun

/-- A change of a dictionary puts the changed one in its place. -/
theorem Edit.changeDictionary_eq_ok {document after : Document}
    {cause : AccessFault → StructureFault} {id : ObjectId} {change : Dictionary → Dictionary} :
    (Edit.changeDictionary cause id change).run.run document = (.ok (), after) ↔
      ∃ target dictionary, document.locate id = .ok (target, .dictionary dictionary) ∧
        after = document.put target (.dictionary (change dictionary)) := by
  unfold Edit.changeDictionary
  rw [run_get_bind, run_expect_bind_eq_ok]
  constructor
  · rintro ⟨⟨target, object⟩, located, run⟩
    obtain ⟨dictionary, expected, changed⟩ := run_expect_bind_eq_ok.1 run
    cases Object.expectDictionary_eq_ok.1 expected
    cases changed
    exact ⟨target, dictionary, located, rfl⟩
  · rintro ⟨target, dictionary, located, rfl⟩
    exact ⟨(target, .dictionary dictionary), located,
      run_expect_bind_eq_ok.2 ⟨dictionary, rfl, rfl⟩⟩

namespace Document

variable {document : Document}

/-- The document with an information dictionary to which the trailer refers. An empty one is added
if the trailer does not refer to any. -/
def withInfo (document : Document) : Document :=
  match (document.trailer.entry? "Info").bind Object.reference? with
  | some _ => document
  | none =>
    { document.put document.freshId (.dictionary []) with
      trailer := document.trailer.set "Info" (.reference document.freshId) }

theorem withInfo_of_reference {id : ObjectId}
    (entered : (document.trailer.entry? "Info").bind Object.reference? = some id) :
    document.withInfo = document := by
  unfold withInfo
  rw [entered]

theorem withInfo_of_none
    (entered : (document.trailer.entry? "Info").bind Object.reference? = none) :
    document.withInfo = { document.put document.freshId (.dictionary []) with
      trailer := document.trailer.set "Info" (.reference document.freshId) } := by
  unfold withInfo
  rw [entered]

theorem entry?_of_reference? {dictionary : Dictionary} {key : String} {id : ObjectId}
    (h : (dictionary.entry? key).bind Object.reference? = some id) :
    dictionary.entry? key = some (.reference id) := by
  obtain ⟨object, entered, refers⟩ := Option.bind_eq_some_iff.1 h
  cases object <;> cases refers
  exact entered

end Document

theorem infoId_run (document : Document) : ∃ id,
    infoId.run.run document = (.ok id, document.withInfo) ∧
      document.withInfo.trailer.entry? "Info" = some (.reference id) := by
  cases entered : (document.trailer.entry? "Info").bind Object.reference? with
  | some id =>
    refine ⟨id, ?_, ?_⟩
    · rw [Document.withInfo_of_reference entered]
      unfold infoId
      rw [Edit.run_bind, Edit.run_get]
      simp only [entered]
      rfl
    · rw [Document.withInfo_of_reference entered, Document.entry?_of_reference? entered]
  | none =>
    refine ⟨document.freshId, ?_, ?_⟩
    · rw [Document.withInfo_of_none entered]
      unfold infoId
      rw [Edit.run_bind, Edit.run_get]
      simp only [entered]
      rfl
    · rw [Document.withInfo_of_none entered, Dictionary.entry?, Dictionary.set,
        Dictionary.lookup_put, if_pos rfl]

/-- What is held stays where it is when an information dictionary is added. -/
theorem Document.find?_withInfo {document : Document} {id : ObjectId} {object : Object}
    (held : document.find? id = some object) : document.withInfo.find? id = some object := by
  unfold withInfo
  split
  · exact held
  · refine (find?_put document document.freshId id _).trans ((if_neg ?_).trans held)
    rintro rfl
    rw [find?_freshId] at held
    cases held

theorem Document.keptIn_withInfo (document : Document) : document.KeptIn document.withInfo :=
  fun _ object held => ⟨object, find?_withInfo held, .same object⟩

/-- The trailer changes under no other key. -/
theorem Document.trailer_withInfo (document : Document) {key : Bytes}
    (other : key ≠ Bytes.ofLatin "Info") :
    document.withInfo.trailer.lookup key = document.trailer.lookup key := by
  unfold withInfo
  split
  · rfl
  · exact (Dictionary.lookup_put _ key _ _).trans (if_neg other)

theorem Document.Ordered.withInfo {document : Document} (ordered : document.Ordered) :
    document.withInfo.Ordered := by
  unfold Document.withInfo
  split
  · exact ordered
  · exact ordered.put _ _

/-- The information dictionary that is added has a fresh identifier and says nothing. -/
theorem Document.refers_withInfo {document : Document}
    (entered : (document.trailer.entry? "Info").bind Object.reference? = none) :
    document.withInfo.Refers "Info" document.freshId [] := by
  have held : document.withInfo.find? document.freshId = some (.dictionary []) := by
    rw [withInfo_of_none entered]
    exact (find?_put document document.freshId document.freshId _).trans (if_pos rfl)
  refine ⟨document.freshId, ?_, locate_dictionary held⟩
  rw [withInfo_of_none entered, Dictionary.entry?, Dictionary.set, Dictionary.lookup_put,
    if_pos rfl]

theorem Document.Refers.of_withInfo {document : Document} {id : ObjectId} {info : Dictionary}
    (entered : (document.trailer.entry? "Info").bind Object.reference? = none)
    (refers : document.withInfo.Refers "Info" id info) : id = document.freshId ∧ info = [] :=
  refers.unique (refers_withInfo entered)

/-- Only an information dictionary is added. -/
theorem Document.Refers.find?_withInfo_of_ne {document : Document} {infoId id : ObjectId}
    {info : Dictionary} (refers : document.withInfo.Refers "Info" infoId info)
    (other : id ≠ infoId) : document.withInfo.find? id = document.find? id := by
  cases entered : (document.trailer.entry? "Info").bind Object.reference? with
  | some start => rw [withInfo_of_reference entered]
  | none =>
    obtain ⟨rfl, -⟩ := refers.of_withInfo entered
    rw [withInfo_of_none entered]
    exact (find?_put document _ id _).trans (if_neg other)

/-- A document whose trailer refers to an information dictionary already needs none. -/
theorem Document.Refers.withInfo_eq {document : Document} {id : ObjectId} {info : Dictionary}
    (refers : document.Refers "Info" id info) : document.withInfo = document := by
  obtain ⟨start, entered, -⟩ := refers
  exact withInfo_of_reference (by rw [entered]; rfl)

theorem Document.Refers.eq_of_withInfo {document : Document} {id infoId : ObjectId}
    {old info : Dictionary} (refers : document.Refers "Info" id old)
    (started : document.withInfo.Refers "Info" infoId info) : id = infoId ∧ old = info := by
  rw [refers.withInfo_eq] at started
  exact refers.unique started

/-- The catalog stays when an information dictionary is added. -/
theorem Document.Refers.root_withInfo {document : Document} {id : ObjectId} {catalog : Dictionary}
    (refers : document.Refers "Root" id catalog) : document.withInfo.Refers "Root" id catalog :=
  refers.of_keptIn document.keptIn_withInfo (document.trailer_withInfo (by decide +kernel))
    (find?_withInfo refers.held)

/-- How the metadata of a document are completed: first the information dictionary `info`, then the
catalog, which is `catalog` at that time. -/
structure Completion (level : Level) (version : String) (document after : Document)
    (infoId : ObjectId) (info : Dictionary) (catalogId : ObjectId) (catalog : Dictionary) :
    Prop where
  info_refers : document.withInfo.Refers "Info" infoId info
  root_refers :
    (document.withInfo.put infoId (.dictionary (completeInfo level version info))).Refers "Root"
      catalogId catalog
  after_eq : after =
    (document.withInfo.put infoId (.dictionary (completeInfo level version info))).put catalogId
      (.dictionary (completeCatalog catalog))

theorem completeMetadata_eq_ok {level : Level} {version : String} {document after : Document}
    (print : level.version? = some version) :
    (completeMetadata level).run.run document = (.ok (), after) ↔
      ∃ infoId info catalogId catalog,
        Completion level version document after infoId info catalogId catalog := by
  obtain ⟨start, infoId_ok, entered⟩ := infoId_run document
  unfold completeMetadata
  rw [print]
  simp only
  constructor
  · intro run
    obtain ⟨_, _, started, run⟩ := Edit.run_bind_eq_ok.1 run
    cases infoId_ok.symm.trans started
    obtain ⟨_, _, changed, run⟩ := Edit.run_bind_eq_ok.1 run
    obtain ⟨infoId, info, info_located, rfl⟩ := Edit.changeDictionary_eq_ok.1 changed
    rw [Edit.run_get_bind] at run
    obtain ⟨_, expected, run⟩ := Edit.run_expect_bind_eq_ok.1 run
    obtain ⟨root, refers, run⟩ := Edit.run_expect_bind_eq_ok.1 run
    cases Object.expectReference_eq_ok.1 refers
    obtain ⟨catalogId, catalog, catalog_located, rfl⟩ := Edit.changeDictionary_eq_ok.1 run
    exact ⟨infoId, info, catalogId, catalog, ⟨start, entered, info_located⟩,
      ⟨root, Dictionary.expect_eq_ok.1 expected, catalog_located⟩, rfl⟩
  · rintro ⟨infoId, info, catalogId, catalog, ⟨start', entered', info_located⟩,
      ⟨root, root_entered, catalog_located⟩, rfl⟩
    cases entered.symm.trans entered'
    refine Edit.run_bind_eq_ok.2 ⟨start, _, infoId_ok, Edit.run_bind_eq_ok.2 ⟨(), _,
      Edit.changeDictionary_eq_ok.2 ⟨infoId, info, info_located, rfl⟩, ?_⟩⟩
    rw [Edit.run_get_bind]
    exact Edit.run_expect_bind_eq_ok.2 ⟨.reference root, Dictionary.expect_eq_ok.2 root_entered,
      Edit.run_expect_bind_eq_ok.2 ⟨root, rfl,
        Edit.changeDictionary_eq_ok.2 ⟨catalogId, catalog, catalog_located, rfl⟩⟩⟩

namespace Completion

variable {level : Level} {version : String} {document after : Document}
  {infoId catalogId : ObjectId} {info catalog : Dictionary}

/-- In the end the trailer refers to the completed catalog. -/
theorem after_root
    (completion : Completion level version document after infoId info catalogId catalog) :
    after.Refers "Root" catalogId (completeCatalog catalog) := by
  obtain ⟨-, root_refers, rfl⟩ := completion
  have refers := root_refers.put root_refers.held (completeCatalog catalog)
  rw [if_pos rfl] at refers
  exact refers

/-- In the end the trailer refers to the completed information dictionary, which has the printing
condition too if it is also the catalog. -/
theorem after_info
    (completion : Completion level version document after infoId info catalogId catalog) :
    after.Refers "Info" infoId
      (finalInfo level version infoId catalogId info) := by
  obtain ⟨info_refers, root_refers, rfl⟩ := completion
  have changed := info_refers.put info_refers.held (completeInfo level version info)
  rw [if_pos rfl] at changed
  have refers := changed.put root_refers.held (completeCatalog catalog)
  unfold finalInfo
  split at refers
  · next same =>
    subst same
    cases changed.held.symm.trans root_refers.held
    rw [if_pos rfl]
    exact refers
  · next distinct =>
    rw [if_neg distinct]
    exact refers

/-- Every object other than the information dictionary and the catalog stays. -/
theorem find?_after
    (completion : Completion level version document after infoId info catalogId catalog)
    {id : ObjectId} (no_info : id ≠ infoId) (no_catalog : id ≠ catalogId) :
    after.find? id = document.find? id := by
  obtain ⟨info_refers, -, rfl⟩ := completion
  rw [Document.find?_put, if_neg no_catalog, Document.find?_put, if_neg no_info]
  exact info_refers.find?_withInfo_of_ne no_info

/-- The catalog is where it was, and has what it had, completed as an information dictionary if it
is one too. -/
theorem of_root
    (completion : Completion level version document after infoId info catalogId catalog)
    {id : ObjectId} {old : Dictionary} (refers : document.Refers "Root" id old) :
    id = catalogId ∧
      catalog = if id = infoId then completeInfo level version old else old := by
  obtain ⟨info_refers, root_refers, -⟩ := completion
  have started := refers.root_withInfo
  obtain ⟨rfl, rfl⟩ := (started.put info_refers.held (completeInfo level version info)).unique
    root_refers
  refine ⟨rfl, ?_⟩
  split
  · next same =>
    subst same
    cases started.held.symm.trans info_refers.held
    rfl
  · rfl

theorem ordered_after
    (completion : Completion level version document after infoId info catalogId catalog)
    (ordered : document.Ordered) : after.Ordered := by
  obtain ⟨-, -, rfl⟩ := completion
  exact (ordered.withInfo.put _ _).put _ _

end Completion

end Preflight
