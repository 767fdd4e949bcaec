import Preflight.Conversion.Content
import Preflight.Edit
import Preflight.Page

/-!
# Conversion of documents

The content of all pages, and of all forms that they use, is brought into the output profile. The
streams are collected first, each once; then they are converted one after the other.
-/

namespace Preflight

/-- What a conversion did. -/
structure ConversionSummary where
  pages : Nat
  /-- The number of converted streams. -/
  streams : Nat
  /-- The size of their content before. -/
  bytesIn : Nat
  /-- The size of their content after. -/
  bytesOut : Nat
deriving DecidableEq

namespace ConversionSummary

/-- The summary before the first stream. -/
def start (pages : Nat) : ConversionSummary := ⟨pages, 0, 0, 0⟩

/-- Count one more stream. -/
def count (summary : ConversionSummary) (sizeIn sizeOut : Nat) : ConversionSummary :=
  { summary with
    streams := summary.streams + 1
    bytesIn := summary.bytesIn + sizeIn
    bytesOut := summary.bytesOut + sizeOut }

end ConversionSummary

/-! ## The streams of a document -/

namespace Document

variable (document : Document)

/-- The form with an identifier. -/
def form? (id : ObjectId) : Option Stream :=
  match document.fetch id with
  | .ok (.stream entries data) =>
    if (Dictionary.resolved? (some document) entries "Subtype").bind Object.name? = some "Form" then
      some ⟨entries, data⟩
    else none
  | _ => none

/-- The external objects that resources name. -/
def externalObjects (resources : Dictionary) : List Object :=
  ((resources.dictionary? (some document) "XObject").getD []).map Prod.snd

/-- The external objects that the own resources of a form name. -/
def formObjects (form : Stream) : List Object :=
  match form.dictionary.dictionary? (some document) "Resources" with
  | some resources => document.externalObjects resources
  | none => []

/-- A form is one of the objects. -/
theorem exists_mem_of_form? {id : ObjectId} {form : Stream} (h : document.form? id = some form) :
    ∃ entry ∈ document.objects, entry.1 = id := by
  cases found : document.find? id with
  | none => simp [form?, fetch, locate, found, Except.map] at h
  | some object => exact ⟨_, mem_of_find? found, rfl⟩

/-- How many objects are not among the collected ones. -/
def uncollected (collected : List ObjectId) : Nat :=
  document.objects.countP fun entry => !collected.contains entry.1

/-- Collecting one more object leaves fewer. -/
theorem uncollected_append_lt {collected : List ObjectId} {id : ObjectId}
    (fresh : id ∉ collected) (member : ∃ entry ∈ document.objects, entry.1 = id) :
    document.uncollected (collected ++ [id]) < document.uncollected collected := by
  unfold uncollected
  obtain ⟨entry, member, rfl⟩ := member
  generalize document.objects = objects at member
  induction objects with
  | nil => simp at member
  | cons head objects ih =>
    have fewer : objects.countP (fun other => !(collected ++ [entry.1]).contains other.1)
        ≤ objects.countP (fun other => !collected.contains other.1) := by
      apply List.countP_mono_left
      intro other _ h
      simp at h ⊢
      exact h.1
    rw [List.countP_cons, List.countP_cons]
    rcases List.mem_cons.1 member with rfl | later
    · simp [fresh] at fewer ⊢
      omega
    · have rest := ih later
      by_cases seen : head.1 ∈ collected
      · simp [seen] at rest ⊢
        omega
      · by_cases same : head.1 = entry.1 <;> simp [seen, same] at rest ⊢ <;> omega

/-- Collect the forms among external objects, each followed by those that it uses itself. Only forms
that are reached by a reference are collected. -/
def collectForms (collected : List ObjectId) (pending : List Object) : List ObjectId :=
  match pending with
  | [] => collected
  | .reference id :: pending =>
    if id ∈ collected then collectForms collected pending
    else
      match _ : document.form? id with
      | none => collectForms collected pending
      | some form => collectForms (collected ++ [id]) (document.formObjects form ++ pending)
  | _ :: pending => collectForms collected pending
termination_by (document.uncollected collected, pending.length)
decreasing_by
  · exact Prod.Lex.right _ (Nat.lt_succ_self _)
  · exact Prod.Lex.right _ (Nat.lt_succ_self _)
  · exact Prod.Lex.left _ _
      (document.uncollected_append_lt ‹_› (document.exists_mem_of_form? ‹_›))
  · exact Prod.Lex.right _ (Nat.lt_succ_self _)

/-- Collect the streams of a page's content. -/
def collectContent (collected ids : List ObjectId) : List ObjectId :=
  ids.foldl (fun collected id => if id ∈ collected then collected else collected ++ [id]) collected

/-- Collect the streams of a page: its content, and the forms that its resources name. -/
def collectPage (collected : List ObjectId) (id : ObjectId) :
    Except StructureFault (List ObjectId) := do
  let page ← document.pageDictionary id
  let contents ← contentIds page
  let resources ← document.pageResources id
  return document.collectForms (collectContent collected contents)
    (document.externalObjects resources)

/-- The streams to convert, each once. -/
def conversionTargets : Except StructureFault (List ObjectId) :=
  document.pages.foldlM document.collectPage []

end Document

/-! ## Conversion -/

/-- The stream with other data, which no filter encodes. -/
def Stream.withPlain (stream : Stream) (data : Bytes) : Object :=
  .ofStream ((stream.dictionary.remove "DecodeParms").remove "Filter") data

namespace Converter

variable [StreamDecoder] (converter : Converter)

/-- Convert one stream. The result is the size of its content before and after. -/
def convertStream (id : ObjectId) : Edit (Nat × Nat) := do
  let (target, object) ← Edit.expect .conversionSource ((← get).locate id)
  let stream ← Edit.expect .conversionSource object.expectStream
  let content ← stream.content.mapError StreamFailure.toFailure
  let converted ← (converter.convertContent Settings.usual.maxStreamBytes content).mapError
    StreamFailure.toFailure
  modify fun document => document.put target (stream.withPlain converted)
  return (content.length, converted.length)

/-- Convert all streams of a document. -/
def convertDocument : Edit ConversionSummary := do
  let document ← get
  let targets ← document.conversionTargets.mapError Failure.document
  targets.foldlM (fun summary id => do
      let (sizeIn, sizeOut) ← converter.convertStream id
      return summary.count sizeIn sizeOut)
    (.start document.pages.length)

end Converter

end Preflight
