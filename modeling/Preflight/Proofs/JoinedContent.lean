import Mathlib
import Preflight.Proofs.CheckedResources
import Preflight.Proofs.FollowedReaders

/-!
# The content of a page, as a whole and stream by stream

A check reads the content of a page with its streams joined by spaces, a conversion reads each of its
streams by itself. They read the same operators, if no stream before the last one ends within a
comment, which goes on in the next stream, or between the parts of an operator, which only the whole
completes.
-/

namespace Preflight

/-- Whether a stream ends within a token or between the operands of an operator. -/
def endsUnfinished (input : Bytes) : Bool :=
  (readOperators input).stop.any (·.fault.isOpenEnd)

/-! ## Two streams -/

section

variable {first more : Bytes} {operators operators₁ : List Operator}

/-- Behind a stream that can be read, the operators of the next one follow. -/
theorem tokenize_append_eq_ok {separator : UInt8} (blank : isBlank separator = true)
    (closed : endsInComment first = false ∨ isLineEnd separator = true)
    (read : tokenize first = .ok operators₁) :
    tokenize (first ++ separator :: more) = .ok operators ↔
      ∃ operators₂, tokenize more = .ok operators₂ ∧ operators = operators₁ ++ operators₂ := by
  obtain ⟨ended, rfl⟩ := tokenize_eq_ok.1 read
  rw [tokenize_eq_ok, readOperators_append blank closed ended]
  constructor
  · rintro ⟨ended, rfl⟩
    exact ⟨_, tokenize_eq_ok.2 ⟨ended, rfl⟩, rfl⟩
  · rintro ⟨operators₂, read, rfl⟩
    obtain ⟨ended, rfl⟩ := tokenize_eq_ok.1 read
    exact ⟨ended, rfl⟩

/-- A stream that can be read with another one behind it can be read by itself, unless its end was
the fault. -/
theorem exists_tokenize_of_append {separator : UInt8} (blank : isBlank separator = true)
    (finished : endsUnfinished first = false)
    (read : tokenize (first ++ separator :: more) = .ok operators) :
    ∃ operators₁, tokenize first = .ok operators₁ := by
  have startsBlank : StartsBlank (separator :: more) := .cons blank more
  cases stopped : (readOperators first).stop with
  | none => exact ⟨_, tokenize_eq_ok.2 ⟨stopped, rfl⟩⟩
  | some stop =>
    rw [endsUnfinished, stopped] at finished
    have stops := readOperators_stop_append startsBlank stopped finished
    rw [tokenize_eq_ok, stops] at read
    cases read.1

end

/-! ## All streams of a page -/

/-- Each stream is read by itself. -/
def ReadApart (contents : List Bytes) (parts : List (List Operator)) : Prop :=
  List.Forall₂ (fun content operators => tokenize content = .ok operators) contents parts

/-- What reading streams with spaces between them has to do with reading each of them. -/
theorem tokenize_flatMap {first : Bytes} {rest : List Bytes}
    (closed : ∀ content ∈ (first :: rest).dropLast, endsInComment content = false) :
    (∀ parts, ReadApart (first :: rest) parts →
      tokenize (first ++ rest.flatMap (0x20 :: ·)) = .ok parts.flatten) ∧
    ((∀ content ∈ (first :: rest).dropLast, endsUnfinished content = false) →
      ∀ operators, tokenize (first ++ rest.flatMap (0x20 :: ·)) = .ok operators →
        ∃ parts, ReadApart (first :: rest) parts ∧ operators = parts.flatten) := by
  induction rest generalizing first with
  | nil =>
    rw [List.flatMap_nil, List.append_nil]
    constructor
    · rintro parts (_ | ⟨read, ⟨⟩⟩)
      rw [List.flatten_cons, List.flatten_nil, List.append_nil]
      exact read
    · intro _ operators read
      exact ⟨[operators], .cons read .nil, by rw [List.flatten_cons, List.flatten_nil,
        List.append_nil]⟩
  | cons second rest ih =>
    rw [List.flatMap_cons, List.cons_append]
    rw [List.dropLast_cons_cons, List.forall_mem_cons] at closed
    obtain ⟨first_closed, rest_closed⟩ := closed
    obtain ⟨joins, splits⟩ := ih rest_closed
    constructor
    · rintro parts (_ | ⟨first_read, rest_read⟩)
      rw [List.flatten_cons]
      exact (tokenize_append_eq_ok rfl (Or.inl first_closed) first_read).2
        ⟨_, joins _ rest_read, rfl⟩
    · intro finished operators read
      rw [List.dropLast_cons_cons, List.forall_mem_cons] at finished
      obtain ⟨first_finished, rest_finished⟩ := finished
      obtain ⟨operators₁, first_read⟩ := exists_tokenize_of_append rfl first_finished read
      obtain ⟨operators₂, more_read, rfl⟩ :=
        (tokenize_append_eq_ok rfl (Or.inl first_closed) first_read).1 read
      obtain ⟨parts, rest_read, rfl⟩ := splits rest_finished operators₂ more_read
      exact ⟨operators₁ :: parts, .cons first_read rest_read, rfl⟩

theorem foldl_joinContent {before : Bytes} (some : before ≠ []) (contents : List Bytes) :
    contents.foldl Document.joinContent before = before ++ contents.flatMap (0x20 :: ·) := by
  induction contents generalizing before with
  | nil => exact (List.append_nil before).symm
  | cons content contents ih =>
    have join : Document.joinContent before content = before ++ 0x20 :: content := by
      rw [Document.joinContent, if_neg (by simpa using some)]
    rw [List.foldl_cons, join, ih (by simp), List.flatMap_cons, List.append_assoc]

/-- What reading streams joined in turn has to do with reading each of them. -/
theorem tokenize_foldl_joinContent {contents : List Bytes}
    (closed : ∀ content ∈ contents.dropLast, endsInComment content = false) :
    (∀ parts, ReadApart contents parts →
      tokenize (contents.foldl Document.joinContent []) = .ok parts.flatten) ∧
    ((∀ content ∈ contents.dropLast, endsUnfinished content = false) →
      ∀ operators, tokenize (contents.foldl Document.joinContent []) = .ok operators →
        ∃ parts, ReadApart contents parts ∧ operators = parts.flatten) := by
  have nothing : tokenize [] = .ok [] := by
    rw [tokenize, readOperators_blanks skipBlanks_nil]
  induction contents with
  | nil =>
    constructor
    · rintro parts ⟨⟩
      exact nothing
    · intro _ operators read
      cases nothing.symm.trans read
      exact ⟨[], .nil, rfl⟩
  | cons content contents ih =>
    rw [List.foldl_cons, show Document.joinContent [] content = content from rfl]
    by_cases empty : content = []
    · -- Behind an empty stream there is no space yet, and it adds no operator.
      subst empty
      have before_last : contents.dropLast ⊆ ([] :: contents).dropLast := by
        cases contents with
        | nil => exact List.Subset.refl _
        | cons _ _ => exact List.subset_cons_self _ _
      obtain ⟨joins, splits⟩ := ih fun other member => closed other (before_last member)
      constructor
      · rintro parts (_ | ⟨empty_read, rest_read⟩)
        cases nothing.symm.trans empty_read
        rw [List.flatten_cons]
        exact joins _ rest_read
      · intro finished operators read
        obtain ⟨parts, rest_read, rfl⟩ :=
          splits (fun other member => finished other (before_last member)) operators read
        exact ⟨[] :: parts, .cons nothing rest_read, rfl⟩
    · rw [foldl_joinContent empty]
      exact tokenize_flatMap closed

namespace Document

/-- The decoded streams that a page lists as its content. -/
def HasContents [StreamDecoder] (document : Document) (page : Dictionary)
    (contents : List Bytes) : Prop :=
  ∃ ids, contentIds page = .ok ids ∧ List.Forall₂ (fun id content =>
    ∃ stream, document.fetch id >>= Object.expectStream = .ok stream ∧
      stream.content = .ok content) ids contents

variable [StreamDecoder] {document : Document} {page : Dictionary} {contents : List Bytes}

/-- The content of a page is that of its streams, joined in turn. -/
theorem pageContent_eq (h : document.HasContents page contents) :
    document.pageContent page = .ok (contents.foldl joinContent []) := by
  obtain ⟨ids, listed, streams⟩ := h
  unfold pageContent
  rw [listed]
  simp only
  clear listed
  generalize ([] : Bytes) = before
  induction streams generalizing before with
  | nil => rfl
  | cons decoded _ ih =>
    obtain ⟨stream, fetched, content⟩ := decoded
    rw [List.foldlM_cons, fetched]
    simp only
    rw [content, ok_bind, pure_bind]
    exact ih _

/-- The whole content of a page is read like its streams, as long as none but the last of them ends
within a comment, or between the parts of an operator. -/
theorem tokenize_pageContent (h : document.HasContents page contents)
    (closed : ∀ content ∈ contents.dropLast, endsInComment content = false) :
    ∃ joined, document.pageContent page = .ok joined ∧
      (∀ parts, ReadApart contents parts → tokenize joined = .ok parts.flatten) ∧
      ((∀ content ∈ contents.dropLast, endsUnfinished content = false) →
        ∀ operators, tokenize joined = .ok operators →
          ∃ parts, ReadApart contents parts ∧ operators = parts.flatten) :=
  ⟨_, pageContent_eq h, tokenize_foldl_joinContent closed⟩

end Document

/-! ## Two streams of a page -/

attribute [local instance] StreamDecoder.withoutFilters

/-- A page whose content is in two streams. -/
def twoPartPage : Dictionary :=
  keyed [("Type", .ofName "Page"), ("Contents", .array [.reference ⟨4, 0⟩, .reference ⟨5, 0⟩])]

/-- A document with one page, whose content is in two streams. -/
def twoPart (first second : String) : Document := .ofList [
    (⟨1, 0⟩, .dictionary (keyed [("Type", .ofName "Catalog"), ("Pages", .reference ⟨2, 0⟩)])),
    (⟨2, 0⟩, .dictionary (keyed [("Type", .ofName "Pages"), ("Kids", .array [.reference ⟨3, 0⟩])])),
    (⟨3, 0⟩, .dictionary twoPartPage),
    (⟨4, 0⟩, .stream [] (Bytes.ofLatin first)),
    (⟨5, 0⟩, .stream [] (Bytes.ofLatin second))]
  (keyed [("Root", .reference ⟨1, 0⟩)])

theorem hasContents_twoPart (first second : String) : (twoPart first second).HasContents twoPartPage
    [Bytes.ofLatin first, Bytes.ofLatin second] :=
  ⟨[⟨4, 0⟩, ⟨5, 0⟩], rfl, .cons ⟨_, rfl, rfl⟩ (.cons ⟨_, rfl, rfl⟩ .nil)⟩

theorem tokenize_pageContent_twoPart :
    (∀ content ∈ [Bytes.ofLatin "q % gray\n0 g"], endsInComment content = false) ∧
      ∃ joined, (twoPart "q % gray\n0 g" "(50%) Tj").pageContent twoPartPage = .ok joined ∧
        tokenize joined = .ok [⟨"q", []⟩, ⟨"g", [.integer 0]⟩,
          ⟨"Tj", [.literal (Bytes.ofLatin "50%")]⟩] := by
  have closed : ∀ content ∈ [Bytes.ofLatin "q % gray\n0 g"], endsInComment content = false := by
    intro content member
    rw [List.mem_singleton.1 member]
    cbv
  have parts : ReadApart [Bytes.ofLatin "q % gray\n0 g", Bytes.ofLatin "(50%) Tj"]
      [[⟨"q", []⟩, ⟨"g", [.integer 0]⟩], [⟨"Tj", [.literal (Bytes.ofLatin "50%")]⟩]] :=
    .cons (by cbv) (.cons (by cbv) .nil)
  obtain ⟨joined, content, joins, -⟩ :=
    Document.tokenize_pageContent (hasContents_twoPart "q % gray\n0 g" "(50%) Tj") closed
  exact ⟨closed, joined, content, joins _ parts⟩

/-- In a page of two streams, the second one may be a part of a comment that the first one begins, so
that only the second one by itself has an operator. Or it may complete an operator that the first one
begins, so that only the whole can be read. -/
theorem tokenize_pageContent_ne :
    ((twoPart "% c" "1 0 0 rg").pageContent twoPartPage = .ok (Bytes.ofLatin "% c 1 0 0 rg") ∧
      tokenize (Bytes.ofLatin "% c 1 0 0 rg") = .ok [] ∧
      ReadApart [Bytes.ofLatin "% c", Bytes.ofLatin "1 0 0 rg"]
        [[], [⟨"rg", [.integer 1, .integer 0, .integer 0]⟩]]) ∧
    ((twoPart "1 0 0" "rg").pageContent twoPartPage = .ok (Bytes.ofLatin "1 0 0 rg") ∧
      tokenize (Bytes.ofLatin "1 0 0 rg") = .ok [⟨"rg", [.integer 1, .integer 0, .integer 0]⟩] ∧
      ∀ operators, tokenize (Bytes.ofLatin "1 0 0") ≠ .ok operators) := by
  refine ⟨⟨Document.pageContent_eq (hasContents_twoPart _ _), by cbv, ?_⟩,
    Document.pageContent_eq (hasContents_twoPart _ _), by cbv, ?_⟩
  · exact .cons (by cbv) (.cons (by cbv) .nil)
  · intro operators read
    have stops : (readOperators (Bytes.ofLatin "1 0 0")).stop.isSome = true := by decide +kernel
    rw [(tokenize_eq_ok.1 read).1] at stops
    cases stops

end Preflight
