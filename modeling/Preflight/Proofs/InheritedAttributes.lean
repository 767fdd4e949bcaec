import Mathlib
import Preflight.Proofs.DepthCounters

/-!
# Inherited attributes

A page takes an attribute that it lacks from the nearest group above it. The groups above a page are
given here level by level, whether or not they come to an end, and the search for an attribute is
compared with them: it passes the levels that can be read, lack the attribute and belong to a group,
and the first level that is none of these decides. If there is no such level within the limit, the
search fails.
-/

namespace Preflight

namespace Document

variable (document : Document) (key : String) (page : ObjectId)

/-! ## The groups above a page -/

/-- The page at level 0, and at each further level the group to which the level below refers. There
is no level above one that cannot be read or refers to no group. -/
def above? : (level : ℕ) → Option ObjectId
  | 0 => some page
  | level + 1 => (above? level).bind document.parent?

/-- The dictionary at a level above a page. -/
def HasLevel (level : ℕ) (dictionary : Dictionary) : Prop :=
  ∃ id, document.above? page level = some id ∧ document.pageDictionary id = .ok dictionary

/-- All levels below `level` can be read, and all lack the attribute. -/
def LacksBelow (level : ℕ) : Prop :=
  ∀ lower < level, ∃ dictionary,
    document.HasLevel page lower dictionary ∧ dictionary.entry? key = none

/-! ## One level -/

/-- The search for an attribute ends at a page or a group, with the given result. -/
inductive Settles (id : ObjectId) : Except StructureFault (Option Object) → Prop where
  | unreadable {fault : StructureFault} (unread : document.pageDictionary id = .error fault) :
      Settles id (.error fault)
  | found {dictionary : Dictionary} {value : Object}
      (read : document.pageDictionary id = .ok dictionary)
      (entered : dictionary.entry? key = some value) : Settles id (.ok (some value))
  /-- The attribute is missing, and there is no group above. -/
  | top {dictionary : Dictionary} (read : document.pageDictionary id = .ok dictionary)
      (lacking : dictionary.entry? key = none) (alone : dictionary.entry? "Parent" = none) :
      Settles id (.ok none)
  /-- The attribute is missing, and something else than a reference stands for the group above. -/
  | misplaced {dictionary : Dictionary} {parent : Object} {fault : AccessFault}
      (read : document.pageDictionary id = .ok dictionary)
      (lacking : dictionary.entry? key = none)
      (entered : dictionary.entry? "Parent" = some parent)
      (refused : parent.expectReference = .error fault) : Settles id (.error (.parent fault))

variable {document key page}

theorem parent?_eq_some {id next : ObjectId} :
    document.parent? id = some next ↔ ∃ dictionary,
      document.pageDictionary id = .ok dictionary ∧
        dictionary.entry? "Parent" = some (.reference next) := by
  unfold parent?
  constructor
  · intro belongs
    obtain ⟨parent, entered, refers⟩ := Option.bind_eq_some_iff.1 belongs
    obtain ⟨dictionary, read, entered⟩ := Option.bind_eq_some_iff.1 entered
    cases parent <;> cases refers
    exact ⟨dictionary, eq_ok_of_toOption read, entered⟩
  · rintro ⟨dictionary, read, entered⟩
    rw [read]
    exact Option.bind_eq_some_iff.2 ⟨.reference next, entered, rfl⟩

/-- The search ends at a page or a group, or goes on at the group to which that belongs. -/
theorem settles_or_climbs (document : Document) (key : String) (id : ObjectId) :
    (∃ result, document.Settles key id result) ∨
      ∃ dictionary next, document.pageDictionary id = .ok dictionary ∧
        dictionary.entry? key = none ∧ document.parent? id = some next := by
  cases read : document.pageDictionary id with
  | error fault => exact .inl ⟨_, .unreadable read⟩
  | ok dictionary =>
  cases lacking : dictionary.entry? key with
  | some value => exact .inl ⟨_, .found read lacking⟩
  | none =>
  cases entered : dictionary.entry? "Parent" with
  | none => exact .inl ⟨_, .top read lacking entered⟩
  | some parent =>
  cases refused : parent.expectReference with
  | error fault => exact .inl ⟨_, .misplaced read lacking entered refused⟩
  | ok next =>
    cases parent <;> cases refused
    exact .inr ⟨dictionary, next, rfl, lacking, parent?_eq_some.2 ⟨dictionary, read, entered⟩⟩

theorem Settles.inheritedWithin_eq {id : ObjectId} {result : Except StructureFault (Option Object)}
    (settles : document.Settles key id result) (limit : ℕ) :
    document.inheritedWithin key (limit + 1) id = result := by
  rw [inheritedWithin]
  cases settles with
  | unreadable unread =>
    rw [unread]
    rfl
  | found read entered =>
    rw [read, ok_bind]
    simp only [entered]
    rfl
  | top read lacking alone =>
    rw [read, ok_bind]
    simp only [lacking, alone]
    rfl
  | misplaced read lacking entered refused =>
    rw [read, ok_bind]
    simp only [lacking, entered, refused]

theorem inheritedWithin_climb {id next : ObjectId} {dictionary : Dictionary}
    (read : document.pageDictionary id = .ok dictionary) (lacking : dictionary.entry? key = none)
    (belongs : document.parent? id = some next) (limit : ℕ) :
    document.inheritedWithin key (limit + 1) id = document.inheritedWithin key limit next := by
  obtain ⟨_, read', entered⟩ := parent?_eq_some.1 belongs
  cases read.symm.trans read'
  rw [inheritedWithin, read, ok_bind]
  simp only [lacking, entered, Object.expectReference]

/-! ## All levels -/

theorem lacksBelow_succ_iff {level : ℕ} {id : ObjectId} {dictionary : Dictionary}
    (stands : document.above? page level = some id)
    (read : document.pageDictionary id = .ok dictionary) :
    document.LacksBelow key page (level + 1) ↔
      document.LacksBelow key page level ∧ dictionary.entry? key = none := by
  constructor
  · intro lacks
    obtain ⟨other, ⟨_, same, other_read⟩, lacking⟩ := lacks level (Nat.lt_succ_self level)
    cases stands.symm.trans same
    cases read.symm.trans other_read
    exact ⟨fun lower below => lacks lower (below.trans (Nat.lt_succ_self level)), lacking⟩
  · rintro ⟨lacks, lacking⟩ lower below
    rcases Nat.lt_succ_iff_lt_or_eq.1 below with below | rfl
    · exact lacks lower below
    · exact ⟨dictionary, ⟨id, stands, read⟩, lacking⟩

/-- The search passes all levels that lack the attribute. -/
theorem LacksBelow.inheritedWithin_eq {level : ℕ} {id : ObjectId}
    (lacks : document.LacksBelow key page level) (stands : document.above? page level = some id)
    (limit : ℕ) :
    document.inheritedWithin key (level + limit) page = document.inheritedWithin key limit id := by
  -- On the level: the highest level that is passed is taken off the end of the chain, and the limit
  -- grows by one for it.
  induction level generalizing id limit with
  | zero =>
    cases stands
    rw [Nat.zero_add]
  | succ level ih =>
    obtain ⟨below, below_stands, belongs⟩ := Option.bind_eq_some_iff.1 stands
    obtain ⟨dictionary, read, -⟩ := parent?_eq_some.1 belongs
    obtain ⟨lacks, lacking⟩ := (lacksBelow_succ_iff below_stands read).1 lacks
    calc document.inheritedWithin key (level + 1 + limit) page
        = document.inheritedWithin key (level + (limit + 1)) page := by
          rw [Nat.add_assoc, Nat.add_comm 1]
      _ = document.inheritedWithin key (limit + 1) below :=
          ih lacks below_stands (limit + 1)
      _ = document.inheritedWithin key limit id := inheritedWithin_climb read lacking belongs limit

/-- Below a limit there is a level that decides, or all levels are passed. -/
theorem exists_settles_or_lacksBelow (document : Document) (key : String) (page : ObjectId)
    (limit : ℕ) :
    (∃ level < limit, ∃ id result, document.above? page level = some id ∧
      document.LacksBelow key page level ∧ document.Settles key id result) ∨
    document.LacksBelow key page limit ∧ ∃ id, document.above? page limit = some id := by
  -- On the limit: the level at the limit is the one that is looked at next.
  induction limit with
  | zero => exact .inr ⟨nofun, page, rfl⟩
  | succ limit ih =>
    rcases ih with ⟨level, below, decides⟩ | ⟨lacks, id, stands⟩
    · exact .inl ⟨level, below.trans (Nat.lt_succ_self limit), decides⟩
    · rcases document.settles_or_climbs key id with
        ⟨result, settles⟩ | ⟨dictionary, next, read, lacking, belongs⟩
      · exact .inl ⟨limit, Nat.lt_succ_self limit, id, result, stands, lacks, settles⟩
      · exact .inr ⟨(lacksBelow_succ_iff stands read).2 ⟨lacks, lacking⟩, next,
          Option.bind_eq_some_iff.2 ⟨id, stands, belongs⟩⟩

theorem Settles.inheritedWithin_of_lt {level limit : ℕ} {id : ObjectId}
    {result : Except StructureFault (Option Object)} (settles : document.Settles key id result)
    (stands : document.above? page level = some id) (lacks : document.LacksBelow key page level)
    (below : level < limit) : document.inheritedWithin key limit page = result := by
  obtain ⟨further, rfl⟩ := Nat.exists_eq_add_of_lt below
  rw [Nat.add_assoc, lacks.inheritedWithin_eq stands]
  exact settles.inheritedWithin_eq further

theorem LacksBelow.inheritedWithin_eq_error {limit : ℕ} {id : ObjectId}
    (lacks : document.LacksBelow key page limit) (stands : document.above? page limit = some id) :
    document.inheritedWithin key limit page = .error .parentChain := by
  rw [← Nat.add_zero limit, lacks.inheritedWithin_eq stands]
  rfl

/-- The first level that is not passed decides. -/
theorem inheritedWithin_eq_iff {limit : ℕ} {result : Except StructureFault (Option Object)} :
    document.inheritedWithin key limit page = result ↔
      (∃ level < limit, ∃ id, document.above? page level = some id ∧
        document.LacksBelow key page level ∧ document.Settles key id result) ∨
      document.LacksBelow key page limit ∧ (∃ id, document.above? page limit = some id) ∧
        result = .error .parentChain := by
  constructor
  · rintro rfl
    rcases document.exists_settles_or_lacksBelow key page limit with
      ⟨level, below, id, result, stands, lacks, settles⟩ | ⟨lacks, id, stands⟩
    · rw [settles.inheritedWithin_of_lt stands lacks below]
      exact .inl ⟨level, below, id, stands, lacks, settles⟩
    · exact .inr ⟨lacks, ⟨id, stands⟩, lacks.inheritedWithin_eq_error stands⟩
  · rintro (⟨level, below, id, stands, lacks, settles⟩ | ⟨lacks, ⟨id, stands⟩, rfl⟩)
    · exact settles.inheritedWithin_of_lt stands lacks below
    · exact lacks.inheritedWithin_eq_error stands

/-! ## Circles -/

theorem above?_add (document : Document) (page : ObjectId) (level further : ℕ) :
    document.above? page (level + further)
      = (document.above? page level).bind fun id => document.above? id further := by
  induction further with
  | zero => exact (Option.bind_fun_some _).symm
  | succ further ih =>
    change (document.above? page (level + further)).bind document.parent? = _
    rw [ih, Option.bind_assoc]
    rfl

/-- Where a level is the same as one `round + 1` levels above it, and none up to there has the
attribute, no level at all has it. -/
theorem LacksBelow.of_circle {start round : ℕ}
    (turns : document.above? page (start + round + 1) = document.above? page start)
    (lacks : document.LacksBelow key page (start + round + 1)) (level : ℕ) :
    document.LacksBelow key page level := by
  intro lower _
  -- On the level: from the end of the first round on, it is the same as the one a round below it.
  induction lower using Nat.strong_induction_on with
  | _ lower ih =>
    by_cases first : lower < start + round + 1
    · exact lacks lower first
    · obtain ⟨further, rfl⟩ := Nat.exists_eq_add_of_le (not_lt.1 first)
      obtain ⟨dictionary, ⟨id, stands, read⟩, lacking⟩ := ih (start + further) (by omega) (by omega)
      refine ⟨dictionary, ⟨id, ?_, read⟩, lacking⟩
      rw [above?_add, turns, ← above?_add]
      exact stands

/-! ## The search within its limit -/

theorem inherited_eq_some_iff {value : Object} :
    document.inherited page key = .ok (some value) ↔
      ∃ level < 64, ∃ dictionary, document.HasLevel page level dictionary ∧
        dictionary.entry? key = some value ∧ document.LacksBelow key page level := by
  unfold inherited
  rw [inheritedWithin_eq_iff]
  constructor
  · rintro (⟨level, below, id, stands, lacks, settles⟩ | ⟨-, -, ended⟩)
    · cases settles with
      | found read entered => exact ⟨level, below, _, ⟨id, stands, read⟩, entered, lacks⟩
    · cases ended
  · rintro ⟨level, below, dictionary, ⟨id, stands, read⟩, entered, lacks⟩
    exact .inl ⟨level, below, id, stands, lacks, .found read entered⟩

theorem inherited_eq_none_iff :
    document.inherited page key = .ok none ↔
      ∃ level < 64, ∃ dictionary, document.HasLevel page level dictionary ∧
        dictionary.entry? "Parent" = none ∧ document.LacksBelow key page (level + 1) := by
  unfold inherited
  rw [inheritedWithin_eq_iff]
  constructor
  · rintro (⟨level, below, id, stands, lacks, settles⟩ | ⟨-, -, ended⟩)
    · cases settles with
      | top read lacking alone =>
        exact ⟨level, below, _, ⟨id, stands, read⟩, alone,
          (lacksBelow_succ_iff stands read).2 ⟨lacks, lacking⟩⟩
    · cases ended
  · rintro ⟨level, below, dictionary, ⟨id, stands, read⟩, alone, lacks⟩
    obtain ⟨lacks, lacking⟩ := (lacksBelow_succ_iff stands read).1 lacks
    exact .inl ⟨level, below, id, stands, lacks, .top read lacking alone⟩

theorem inherited_eq_error_iff {fault : StructureFault} :
    document.inherited page key = .error fault ↔
      (∃ level < 64, ∃ id, document.above? page level = some id ∧
        document.LacksBelow key page level ∧ document.pageDictionary id = .error fault) ∨
      (∃ level < 64, ∃ dictionary parent cause, document.HasLevel page level dictionary ∧
        document.LacksBelow key page (level + 1) ∧ dictionary.entry? "Parent" = some parent ∧
        parent.expectReference = .error cause ∧ fault = .parent cause) ∨
      document.LacksBelow key page 64 ∧ (∃ id, document.above? page 64 = some id) ∧
        fault = .parentChain := by
  unfold inherited
  rw [inheritedWithin_eq_iff]
  constructor
  · rintro (⟨level, below, id, stands, lacks, settles⟩ | ⟨lacks, stands, ended⟩)
    · cases settles with
      | unreadable unread => exact .inl ⟨level, below, id, stands, lacks, unread⟩
      | misplaced read lacking entered refused =>
        exact .inr (.inl ⟨level, below, _, _, _, ⟨id, stands, read⟩,
          (lacksBelow_succ_iff stands read).2 ⟨lacks, lacking⟩, entered, refused, rfl⟩)
    · cases ended
      exact .inr (.inr ⟨lacks, stands, rfl⟩)
  · rintro (⟨level, below, id, stands, lacks, unread⟩ |
      ⟨level, below, dictionary, parent, cause, ⟨id, stands, read⟩, lacks, entered, refused, rfl⟩ |
      ⟨lacks, stands, rfl⟩)
    · exact .inl ⟨level, below, id, stands, lacks, .unreadable unread⟩
    · obtain ⟨lacks, lacking⟩ := (lacksBelow_succ_iff stands read).1 lacks
      exact .inl ⟨level, below, id, stands, lacks, .misplaced read lacking entered refused⟩
    · exact .inr ⟨lacks, stands, rfl⟩

/-- The search for an attribute that is missing on a circle ends at the limit. -/
theorem inherited_of_circle {start round : ℕ}
    (turns : document.above? page (start + round + 1) = document.above? page start)
    (lacks : document.LacksBelow key page (start + round + 1)) :
    document.inherited page key = .error .parentChain := by
  have never := lacks.of_circle turns
  obtain ⟨_, ⟨id, stands, -⟩, -⟩ := never 65 64 (Nat.lt_succ_self 64)
  exact (never 64).inheritedWithin_eq_error stands

/-- A page has an attribute with the value that it has at the nearest of 64 levels, of which the
page is the first, if all levels up to there can be read. It has none if the levels come to an end
before, at one that can be read and belongs to no group, and all lack the attribute. In every other
case the search fails: at the first level that cannot be read, at the first that has anything but a
reference for the group above it, or after the last of the 64 levels. The latter happens wherever
the levels go in a circle without the attribute. -/
theorem inherited_nearest (document : Document) (key : String) (page : ObjectId) :
    (∀ value, document.inherited page key = .ok (some value) ↔
      ∃ level < 64, ∃ dictionary, document.HasLevel page level dictionary ∧
        dictionary.entry? key = some value ∧ document.LacksBelow key page level) ∧
    (document.inherited page key = .ok none ↔
      ∃ level < 64, ∃ dictionary, document.HasLevel page level dictionary ∧
        dictionary.entry? "Parent" = none ∧ document.LacksBelow key page (level + 1)) ∧
    (∀ fault, document.inherited page key = .error fault ↔
      (∃ level < 64, ∃ id, document.above? page level = some id ∧
        document.LacksBelow key page level ∧ document.pageDictionary id = .error fault) ∨
      (∃ level < 64, ∃ dictionary parent cause, document.HasLevel page level dictionary ∧
        document.LacksBelow key page (level + 1) ∧ dictionary.entry? "Parent" = some parent ∧
        parent.expectReference = .error cause ∧ fault = .parent cause) ∨
      document.LacksBelow key page 64 ∧ (∃ id, document.above? page 64 = some id) ∧
        fault = .parentChain) ∧
    ∀ start round, document.above? page (start + round + 1) = document.above? page start →
      document.LacksBelow key page (start + round + 1) →
      document.inherited page key = .error .parentChain :=
  ⟨fun _ => inherited_eq_some_iff, inherited_eq_none_iff, fun _ => inherited_eq_error_iff,
    fun _ _ => inherited_of_circle⟩

/-- A page and a group that belong to each other; the group has a rotation. -/
def mutualGroups : Document :=
  ofList [(⟨1, 0⟩, .dictionary [(Bytes.ofLatin "Parent", .reference ⟨2, 0⟩)]),
    (⟨2, 0⟩, .dictionary [(Bytes.ofLatin "Parent", .reference ⟨1, 0⟩),
      (Bytes.ofLatin "Rotate", .integer 90)])] []

theorem inherited_nearest_mutualGroups :
    mutualGroups.inherited ⟨1, 0⟩ "Rotate" = .ok (some (.integer 90)) ∧
    mutualGroups.above? ⟨1, 0⟩ 2 = mutualGroups.above? ⟨1, 0⟩ 0 ∧
    mutualGroups.LacksBelow "Resources" ⟨1, 0⟩ 2 ∧
    mutualGroups.inherited ⟨1, 0⟩ "Resources" = .error .parentChain := by
  have page (key : String) (lacking : Dictionary.entry?
      [(Bytes.ofLatin "Parent", .reference ⟨2, 0⟩)] key = none) :
      mutualGroups.LacksBelow key ⟨1, 0⟩ 1 := by
    intro lower below
    obtain rfl := Nat.lt_one_iff.1 below
    exact ⟨_, ⟨⟨1, 0⟩, rfl, rfl⟩, lacking⟩
  have group : mutualGroups.above? ⟨1, 0⟩ 1 = some ⟨2, 0⟩ := rfl
  have both : mutualGroups.LacksBelow "Resources" ⟨1, 0⟩ 2 :=
    (lacksBelow_succ_iff group rfl).2 ⟨page "Resources" rfl, rfl⟩
  refine ⟨?_, rfl, both, ?_⟩
  · exact ((inherited_nearest mutualGroups "Rotate" ⟨1, 0⟩).1 _).2
      ⟨1, by decide, _, ⟨⟨2, 0⟩, group, rfl⟩, rfl, page "Rotate" rfl⟩
  · exact (inherited_nearest mutualGroups "Resources" ⟨1, 0⟩).2.2.2 0 1 rfl both

end Document

end Preflight
