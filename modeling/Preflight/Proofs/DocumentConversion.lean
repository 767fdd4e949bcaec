import Mathlib
import Preflight.Proofs.CheckedResources
import Preflight.Proofs.ContentConversion
import Preflight.Proofs.ConversionTargets

/-!
# Documents whose streams are converted

The streams of a document are converted one after the other, in the document that changes with each
of them. As each was collected once, a stream is still the original one when its turn comes. So a
conversion that succeeds has changed the collected streams and nothing else, and one that fails has
changed those before the stream at which it fails.
-/

namespace Preflight

/-! ## Plain data -/

theorem mem_remove {dictionary : Dictionary} {key : String} {entry : Bytes × Object}
    (h : entry ∈ dictionary.remove key) : entry.1 ≠ Bytes.ofLatin key := by
  unfold Dictionary.remove at h
  simp only at h
  generalize stays_def : (fun entry : Bytes × Object => entry.1 != Bytes.ofLatin key) = stays at h
  have other (passes : stays entry = true) : entry.1 ≠ Bytes.ofLatin key := by
    rw [← stays_def] at passes
    exact bne_iff_ne.1 passes
  have front (member : entry ∈ dictionary.takeWhile stays) : entry.1 ≠ Bytes.ofLatin key :=
    other (List.mem_takeWhile_imp member)
  have back (member : entry ∈ (dictionary.dropWhile stays).filter stays) :
      entry.1 ≠ Bytes.ofLatin key :=
    other (List.mem_filter.1 member).2
  split at h
  · exact front h
  · next last found =>
    rcases List.mem_append.1 h with member | member
    · exact front member
    · rcases List.mem_cons.1 member with rfl | member
      · exact back (List.mem_of_getLast? found)
      · exact back (List.mem_of_mem_dropLast member)

theorem entry?_remove (dictionary : Dictionary) (key : String) :
    Dictionary.entry? (dictionary.remove key) key = none := by
  unfold Dictionary.entry?
  rw [List.lookup_eq_none_iff]
  intro entry member
  exact bne_iff_ne.2 (mem_remove member).symm

/-- The new data are the content of the stream. -/
theorem exists_plain [StreamDecoder] (stream : Stream) (data : Bytes) : ∃ plain : Stream,
    stream.withPlain data = .stream plain.dictionary plain.data ∧ plain.content = .ok data := by
  refine ⟨⟨_, data⟩, rfl, ?_⟩
  have taken := entry?_remove (stream.dictionary.remove "DecodeParms") "Filter"
  have distinct : Bytes.ofLatin "Filter" ≠ Bytes.ofLatin "Length" := by decide
  unfold Stream.content Dictionary.has Dictionary.entry?
  rw [Dictionary.lookup_put, if_neg distinct]
  unfold Dictionary.entry? at taken
  rw [taken]
  rfl

/-! ## One stream -/

namespace Document

/-- Where an object is no reference, it stands itself under its identifier. -/
theorem locate_of_direct {document : Document} {id : ObjectId}
    (direct : ∀ target, document.find? id ≠ some (.reference target)) :
    document.locate id =
      match document.find? id with
      | none => .error (.missingObject id)
      | some object => .ok (id, object) := by
  unfold locate
  cases found : document.find? id with
  | none => rfl
  | some object =>
    cases object with
    | reference target => exact absurd found (direct target)
    | _ => rfl

end Document

namespace Converter

variable [StreamDecoder] (converter : Converter)

/-- What is read of a stream to convert, and what its content is converted into. -/
def rewriting (located : Except AccessFault (ObjectId × Object)) :
    Except Failure (ObjectId × Stream × Bytes × Bytes) := do
  let (target, object) ← located.mapError fun fault => .document (.conversionSource fault)
  let stream ← object.expectStream.mapError fun fault => .document (.conversionSource fault)
  let content ← stream.content.mapError StreamFailure.toFailure
  let output ← (converter.convertContent Settings.usual.maxStreamBytes content).mapError
    StreamFailure.toFailure
  return (target, stream, content, output)

/-- All is read before the document is changed. -/
theorem convertStream_run (document : Document) (id : ObjectId) :
    (converter.convertStream id).run.run document =
      match converter.rewriting (document.locate id) with
      | .ok (target, stream, content, output) =>
        (.ok (content.length, output.length), document.put target (stream.withPlain output))
      | .error failure => (.error failure, document) := by
  unfold convertStream rewriting
  rw [Edit.run_bind, Edit.run_get]
  simp only
  rw [Edit.run_bind, Edit.run_expect]
  cases document.locate id with
  | error fault => rfl
  | ok found =>
    obtain ⟨target, object⟩ := found
    simp only [Except.mapError, ok_bind]
    rw [Edit.run_bind, Edit.run_expect]
    cases object.expectStream with
    | error fault => rfl
    | ok stream =>
      simp only [Except.mapError, ok_bind]
      rw [Edit.run_bind, Edit.run_lift]
      cases stream.content with
      | error failure => rfl
      | ok content =>
        simp only [ok_bind]
        rw [Edit.run_bind, Edit.run_lift]
        cases converter.convertContent Settings.usual.maxStreamBytes content <;> rfl

variable {converter}

theorem rewriting_eq_ok {located : Except AccessFault (ObjectId × Object)} {target : ObjectId}
    {stream : Stream} {content output : Bytes}
    (h : converter.rewriting located = .ok (target, stream, content, output)) :
    located = .ok (target, .stream stream.dictionary stream.data) ∧ stream.content = .ok content ∧
      converter.convertContent Settings.usual.maxStreamBytes content = .ok output := by
  unfold rewriting at h
  obtain ⟨⟨id, object⟩, located_ok, h⟩ := bind_eq_ok.1 h
  obtain ⟨found, found_ok, h⟩ := bind_eq_ok.1 h
  obtain ⟨before, before_ok, h⟩ := bind_eq_ok.1 h
  obtain ⟨after, after_ok, h⟩ := bind_eq_ok.1 h
  cases h
  have isStream : object = .stream stream.dictionary stream.data := by
    cases object with
    | stream entries data =>
      cases mapError_eq_ok.1 found_ok
      rfl
    | _ => cases found_ok
  rw [isStream] at located_ok
  exact ⟨mapError_eq_ok.1 located_ok, mapError_eq_ok.1 before_ok, mapError_eq_ok.1 after_ok⟩

/-! ## What a conversion leaves behind -/

/-- A stream with the content `content.1` has become one with the plain content `content.2`, into
which that is converted. -/
def ConvertsStream (converter : Converter) (document after : Document) (id : ObjectId)
    (content : Bytes × Bytes) : Prop :=
  ∃ stream plain : Stream,
    document.find? id = some (.stream stream.dictionary stream.data) ∧
    stream.content = .ok content.1 ∧
    converter.convertContent Settings.usual.maxStreamBytes content.1 = .ok content.2 ∧
    after.find? id = some (.stream plain.dictionary plain.data) ∧
    stream.withPlain content.2 = .stream plain.dictionary plain.data ∧
    plain.content = .ok content.2

/-- Some streams of a document are converted, each of which comes with its content before and after.
Everything else is unchanged. -/
structure Converts (converter : Converter) (document after : Document) (ids : List ObjectId)
    (contents : List (Bytes × Bytes)) : Prop where
  streams : List.Forall₂ (converter.ConvertsStream document after) ids contents
  others : ∀ id, id ∉ ids → after.find? id = document.find? id
  trailer : after.trailer = document.trailer

/-- How the conversion of the collected streams ends: with all of them converted, or with those
before the one that cannot be converted. -/
inductive Outcome (converter : Converter) (document : Document) (targets : List ObjectId) :
    Except Failure ConversionSummary × Document → Prop where
  | completed {contents : List (Bytes × Bytes)} {after : Document}
      (converts : converter.Converts document after targets contents) :
      Outcome converter document targets
        (.ok {
          pages := document.pages.length
          streams := targets.length
          bytesIn := (contents.map fun content => content.1.length).sum
          bytesOut := (contents.map fun content => content.2.length).sum }, after)
  | stopped {done rest : List ObjectId} {next : ObjectId} {contents : List (Bytes × Bytes)}
      {failure : Failure} {after : Document} (split : targets = done ++ next :: rest)
      (converts : converter.Converts document after done contents)
      (fails : (converter.convertStream next).run.run document = (.error failure, document)) :
      Outcome converter document targets (.error failure, after)

variable {document current : Document} {done : List ObjectId} {contents : List (Bytes × Bytes)}

theorem Converts.refl (converter : Converter) (document : Document) :
    converter.Converts document document [] [] :=
  ⟨.nil, fun _ _ => rfl, rfl⟩

/-- One more stream is converted. It was not touched before. -/
theorem Converts.step {id : ObjectId} {stream : Stream} {content output : Bytes}
    (h : converter.Converts document current done contents) (fresh : id ∉ done)
    (found : document.find? id = some (.stream stream.dictionary stream.data))
    (content_ok : stream.content = .ok content)
    (output_ok : converter.convertContent Settings.usual.maxStreamBytes content = .ok output) :
    converter.Converts document (current.put id (stream.withPlain output)) (done ++ [id])
      (contents ++ [(content, output)]) := by
  obtain ⟨plain, plain_eq, plain_content⟩ := exists_plain stream output
  refine ⟨?_, ?_, ?_⟩
  · have last : converter.ConvertsStream document (current.put id (stream.withPlain output)) id
        (content, output) := by
      refine ⟨stream, plain, found, content_ok, output_ok, ?_, plain_eq, plain_content⟩
      rw [Document.find?_put, if_pos rfl, plain_eq]
    obtain ⟨same, front⟩ := List.forall₂_iff_zip.1 h.streams
    have kept : List.Forall₂
        (converter.ConvertsStream document (current.put id (stream.withPlain output))) done
        contents := by
      refine List.forall₂_iff_zip.2 ⟨same, ?_⟩
      intro other between member
      obtain ⟨before, after, h₁, h₂, h₃, after_found, h₄⟩ := front member
      have distinct : other ≠ id := by
        rintro rfl
        exact fresh (List.of_mem_zip member).1
      refine ⟨before, after, h₁, h₂, h₃, ?_, h₄⟩
      rw [Document.find?_put, if_neg distinct]
      exact after_found
    exact List.rel_append kept (.cons last .nil)
  · intro other outside
    rw [List.mem_append, List.mem_singleton, not_or] at outside
    rw [Document.find?_put, if_neg outside.2]
    exact h.others other outside.1
  · exact h.trailer

/-! ## All streams -/

/-- The summary after some streams. -/
def summaryOf (pages : ℕ) (contents : List (Bytes × Bytes)) : ConversionSummary where
  pages := pages
  streams := contents.length
  bytesIn := (contents.map fun content => content.1.length).sum
  bytesOut := (contents.map fun content => content.2.length).sum

omit [StreamDecoder] in
theorem summaryOf_append (pages : ℕ) (contents : List (Bytes × Bytes)) (content output : Bytes) :
    summaryOf pages (contents ++ [(content, output)]) =
      (summaryOf pages contents).count content.length output.length := by
  simp [summaryOf, ConversionSummary.count]

/-- From where some of the streams are converted, the conversion of the others ends as it should. -/
theorem convertStreams_outcome (regular : document.Regular) {targets todo : List ObjectId}
    (split : targets = done ++ todo) (nodup : targets.Nodup)
    (h : converter.Converts document current done contents) :
    converter.Outcome document targets
      ((todo.foldlM (fun summary id => do
        let (sizeIn, sizeOut) ← converter.convertStream id
        return summary.count sizeIn sizeOut) (summaryOf document.pages.length contents)
          : Edit ConversionSummary).run.run current) := by
  -- On the streams that are still to be converted.
  induction todo generalizing done contents current with
  | nil =>
    rw [List.append_nil] at split
    subst split
    have lengths := h.streams.length_eq
    have completed := Outcome.completed h
    rw [lengths] at completed
    exact completed
  | cons id todo ih =>
    have fresh : id ∉ done := by
      rw [split] at nodup
      intro member
      exact (List.disjoint_of_nodup_append nodup) member List.mem_cons_self
    -- What is converted here is what the original document holds: nothing before touched it.
    have same : current.locate id = document.locate id := by
      have unchanged := h.others id fresh
      rw [Document.locate_of_direct (regular.direct id), ← unchanged]
      apply Document.locate_of_direct
      rw [unchanged]
      exact regular.direct id
    rw [List.foldlM_cons, bind_assoc, Edit.run_bind, convertStream_run, same]
    cases rewriting : converter.rewriting (document.locate id) with
    | error failure =>
      refine Outcome.stopped split h ?_
      rw [convertStream_run, rewriting]
    | ok found =>
      obtain ⟨target, stream, content, output⟩ := found
      obtain ⟨located, content_ok, output_ok⟩ := rewriting_eq_ok rewriting
      rw [Document.locate_of_direct (regular.direct id)] at located
      cases stored : document.find? id with
      | none =>
        rw [stored] at located
        cases located
      | some object =>
        rw [stored] at located
        cases located
        have step := h.step fresh stored content_ok output_ok
        have rest := ih (by rw [split, List.append_assoc]; rfl) step
        rw [summaryOf_append] at rest
        exact rest

/-- The conversion of a document with regular references changes the streams that belong to its pages,
each once and in the order in which they are collected, and nothing else. The collection ends, also
where forms list one another in a circle, and where a page cannot be read, nothing is changed. -/
theorem convertDocument_outcome (converter : Converter) (regular : document.Regular) :
    ((∀ page ∈ document.pages, document.PageReadable page) →
      ∃ targets, document.HasTargets targets) ∧
    ((∃ fault, document.conversionTargets = .error fault ∧
        converter.convertDocument.run.run document = (.error (.document fault), document)) ∨
      ∃ targets, document.HasTargets targets ∧
        converter.Outcome document targets (converter.convertDocument.run.run document)) := by
  constructor
  · intro readable
    obtain ⟨targets, collected⟩ := Document.exists_conversionTargets readable
    exact ⟨targets, Document.hasTargets_of_conversionTargets regular collected⟩
  · unfold convertDocument
    rw [Edit.run_bind, Edit.run_get]
    simp only
    rw [Edit.run_bind, Edit.run_lift]
    cases collected : document.conversionTargets with
    | error fault => exact Or.inl ⟨fault, rfl, rfl⟩
    | ok targets =>
      have has := Document.hasTargets_of_conversionTargets regular collected
      have outcome := convertStreams_outcome regular (List.nil_append targets).symm has.nodup
        (Converts.refl converter document)
      exact Or.inr ⟨targets, has, outcome⟩

end Converter

/-! ## A page with two forms in a circle -/

attribute [local instance] StreamDecoder.withoutFilters

/-- A document with one page that has content and lists a form. This lists another form, which lists
the first one again. -/
def drawnCircle : Document := .ofList [
    (⟨1, 0⟩, .dictionary (keyed [("Type", .ofName "Catalog"), ("Pages", .reference ⟨2, 0⟩)])),
    (⟨2, 0⟩, .dictionary (keyed [("Type", .ofName "Pages"), ("Kids", .array [.reference ⟨3, 0⟩])])),
    (⟨3, 0⟩, .dictionary (keyed [("Type", .ofName "Page"), ("Contents", .reference ⟨4, 0⟩),
      ("Resources", listing [("A", 5)])])),
    (⟨4, 0⟩, .stream [] (Bytes.ofLatin "1 0 0 rg /A Do")),
    (⟨5, 0⟩, .stream (keyed [("Subtype", .ofName "Form"), ("Resources", listing [("B", 6)])])
      (Bytes.ofLatin "0 g /B Do")),
    (⟨6, 0⟩, .stream (keyed [("Subtype", .ofName "Form"), ("Resources", listing [("A", 5)])])
      (Bytes.ofLatin "1 G /A Do"))]
  (keyed [("Root", .reference ⟨1, 0⟩)])

theorem pages_drawnCircle : drawnCircle.pages = [⟨3, 0⟩] := by cbv

theorem conversionTargets_drawnCircle :
    drawnCircle.conversionTargets = .ok [⟨4, 0⟩, ⟨5, 0⟩, ⟨6, 0⟩] := by
  have first : drawnCircle.collectPage [] ⟨3, 0⟩ = .ok [⟨4, 0⟩, ⟨5, 0⟩, ⟨6, 0⟩] := by
    refine Document.collectPage_eq_ok.2 ⟨_, [⟨4, 0⟩], _, rfl, rfl, rfl, ?_⟩
    show drawnCircle.collectForms [⟨4, 0⟩] [.reference ⟨5, 0⟩] = _
    rw [Document.collectForms_form (by decide)
      (Document.form?_eq_some.2 ⟨rfl, by decide +kernel⟩)]
    show drawnCircle.collectForms [⟨4, 0⟩, ⟨5, 0⟩] [.reference ⟨6, 0⟩] = _
    rw [Document.collectForms_form (by decide)
      (Document.form?_eq_some.2 ⟨rfl, by decide +kernel⟩)]
    show drawnCircle.collectForms [⟨4, 0⟩, ⟨5, 0⟩, ⟨6, 0⟩] [.reference ⟨5, 0⟩] = _
    rw [Document.collectForms, if_pos (by decide), Document.collectForms]
  unfold Document.conversionTargets
  rw [pages_drawnCircle]
  exact bind_eq_ok.2 ⟨_, first, rfl⟩

/-- Resources list nothing but the two forms. -/
def listsCircle (resources : Dictionary) : Bool :=
  (drawnCircle.externalObjects resources).all fun entry =>
    entry.reference? = some ⟨5, 0⟩ ∨ entry.reference? = some ⟨6, 0⟩

theorem eq_reference_of_listsCircle {resources : Dictionary} {entry : Object}
    (h : listsCircle resources = true) (listed : entry ∈ drawnCircle.externalObjects resources) :
    entry = .reference ⟨5, 0⟩ ∨ entry = .reference ⟨6, 0⟩ := by
  have form := of_decide_eq_true (List.all_eq_true.1 h entry listed)
  exact form.imp eq_reference eq_reference

theorem listsCircle_of_usesResources {resources : Dictionary}
    (h : drawnCircle.UsesResources ⟨3, 0⟩ resources) : listsCircle resources = true := by
  have own_lists (id : ObjectId) (form : id = ⟨5, 0⟩ ∨ id = ⟨6, 0⟩) :
      (((Object.reference id).resolve (some drawnCircle)).stream?.bind
        drawnCircle.ownResources?).all listsCircle = true := by
    rcases form with rfl | rfl <;> decide +kernel
  induction h with
  | @page resources found =>
    have page_lists : (drawnCircle.pageResources ⟨3, 0⟩).toOption.all listsCircle = true := by
      decide +kernel
    rw [found] at page_lists
    exact page_lists
  | @form user own form used listed own_found ih =>
    obtain ⟨-, entry, entry_listed, stream⟩ := listed
    rcases eq_reference_of_listsCircle ih entry_listed with rfl | rfl
    · have lists := own_lists ⟨5, 0⟩ (Or.inl rfl)
      rw [stream, Option.bind_some, own_found] at lists
      exact lists
    · have lists := own_lists ⟨6, 0⟩ (Or.inr rfl)
      rw [stream, Option.bind_some, own_found] at lists
      exact lists

theorem regular_drawnCircle : drawnCircle.Regular := by
  refine ⟨?_, ?_, ?_⟩
  · intro page member resources used entry listed
    rw [pages_drawnCircle, List.mem_singleton] at member
    subst member
    rcases eq_reference_of_listsCircle (listsCircle_of_usesResources used) listed with form | form
    · exact ⟨_, form⟩
    · exact ⟨_, form⟩
  · intro id target found
    have direct : ∀ entry ∈ drawnCircle.objects, entry.2.reference? = none := by decide +kernel
    exact absurd (direct _ (Document.mem_of_find? found)) (Option.some_ne_none _)
  · intro page member id has other other_member resources used listed
    rw [pages_drawnCircle, List.mem_singleton] at member other_member
    subst member other_member
    have contents : (drawnCircle.pageDictionary ⟨3, 0⟩ >>= Document.contentIds).toOption
        = some [⟨4, 0⟩] := by
      decide +kernel
    obtain ⟨dictionary, ids, dictionary_ok, ids_ok, id_mem⟩ := has
    rw [dictionary_ok, ok_bind, ids_ok] at contents
    cases contents
    cases List.mem_singleton.1 id_mem
    rcases eq_reference_of_listsCircle (listsCircle_of_usesResources used) listed with form | form
    · cases form
    · cases form

theorem convertDocument_drawnCircle :
    drawnCircle.HasTargets [⟨4, 0⟩, ⟨5, 0⟩, ⟨6, 0⟩] ∧
      Converter.blackInk.Outcome drawnCircle [⟨4, 0⟩, ⟨5, 0⟩, ⟨6, 0⟩]
        (Converter.blackInk.convertDocument.run.run drawnCircle) := by
  obtain ⟨-, ending⟩ := Converter.convertDocument_outcome Converter.blackInk regular_drawnCircle
  rcases ending with ⟨fault, fails, -⟩ | ⟨targets, has, outcome⟩
  · cases conversionTargets_drawnCircle.symm.trans fails
  · cases has.collected.symm.trans conversionTargets_drawnCircle
    exact ⟨has, outcome⟩

end Preflight
