import Mathlib
import Preflight.Proofs.Success

/-!
# Documents with replaced objects

A document in which dictionaries take the places of dictionaries, or to which objects are added,
is still read in the same way: references lead to the same places. Objects that are put into a
document in ascending order stay in that order, and an object that is put where it already stands
changes nothing.
-/

namespace Preflight

namespace ObjectId

theorem before_trans {a b c : ObjectId} (first : a.before b) (second : b.before c) :
    a.before c := by
  simp only [before, Bool.or_eq_true, Bool.and_eq_true, decide_eq_true_eq, beq_iff_eq] at *
  omega

theorem before_asymm {a b : ObjectId} (first : a.before b) : ¬b.before a := by
  simp only [before, Bool.or_eq_true, Bool.and_eq_true, decide_eq_true_eq, beq_iff_eq] at *
  omega

/-- One of two distinct identifiers comes before the other. -/
theorem before_of_not_before {a b : ObjectId} (distinct : b ≠ a)
    (not_before : ¬a.before b) : b.before a := by
  obtain ⟨number, generation⟩ := a
  obtain ⟨other_number, other_generation⟩ := b
  simp only [before, Bool.or_eq_true, Bool.and_eq_true, decide_eq_true_eq, beq_iff_eq, ne_eq,
    mk.injEq] at *
  omega

end ObjectId

theorem Dictionary.expect_eq_ok {dictionary : Dictionary} {key : String} {object : Object} :
    dictionary.expect key = .ok object ↔ dictionary.entry? key = some object := by
  unfold expect
  cases dictionary.entry? key <;> simp

theorem Object.expectReference_eq_ok {object : Object} {id : ObjectId} :
    object.expectReference = .ok id ↔ object = .reference id := by
  cases object <;> simp [expectReference]

theorem Object.expectDictionary_eq_ok {object : Object} {dictionary : Dictionary} :
    object.expectDictionary = .ok dictionary ↔ object = .dictionary dictionary := by
  cases object <;> simp [expectDictionary]

/-- Objects that references pass in the same way: equal ones, and two dictionaries. -/
inductive Object.Alike : Object → Object → Prop
  | same (object : Object) : Alike object object
  | dictionaries (old new : Dictionary) : Alike (.dictionary old) (.dictionary new)

namespace Document

variable {document other : Document}

/-! ## Where references lead -/

section Locate

variable {id found : ObjectId} {object target : Object}

/-- What references lead to stands under the identifier with which it is found. -/
theorem find?_of_follow {limit : ℕ} (held : document.find? id = some object)
    (leads : document.follow limit id object = .ok (found, target)) :
    document.find? found = some target := by
  induction limit generalizing id object with
  | zero =>
    unfold follow at leads
    split at leads
    · split at leads <;> cases leads
    · cases leads
      exact held
  | succ limit ih =>
    unfold follow at leads
    split at leads
    · split at leads
      · cases leads
      · next next_held => exact ih next_held leads
    · cases leads
      exact held

theorem find?_of_locate (leads : document.locate id = .ok (found, target)) :
    document.find? found = some target := by
  unfold locate at leads
  split at leads
  · cases leads
  · next held => exact find?_of_follow held leads

/-- A dictionary leads nowhere else. -/
theorem locate_dictionary {dictionary : Dictionary}
    (held : document.find? id = some (.dictionary dictionary)) :
    document.locate id = .ok (id, .dictionary dictionary) := by
  unfold locate
  rw [held]
  rfl

/-- Up to the entries of dictionaries, what a document holds is held by the other one too. -/
def KeptIn (document other : Document) : Prop :=
  ∀ id object, document.find? id = some object →
    ∃ new, other.find? id = some new ∧ object.Alike new

/-- References that lead somewhere lead to the same place in a document that holds as much. -/
theorem KeptIn.follow (kept : document.KeptIn other) {limit : ℕ} {new : Object}
    (alike : object.Alike new) (leads : document.follow limit id object = .ok (found, target)) :
    ∃ reached, other.follow limit id new = .ok (found, reached) := by
  -- On the number of references that can be followed: each leads to objects that are alike again.
  induction limit generalizing id object new with
  | zero =>
    cases alike with
    | dictionaries => cases leads; exact ⟨_, rfl⟩
    | same =>
      cases object
      case reference next =>
        unfold Document.follow at leads
        simp only at leads
        split at leads <;> cases leads
      all_goals cases leads; exact ⟨_, rfl⟩
  | succ limit ih =>
    cases alike with
    | dictionaries => cases leads; exact ⟨_, rfl⟩
    | same =>
      cases object
      case reference next =>
        unfold Document.follow at leads ⊢
        simp only at leads ⊢
        split at leads
        · cases leads
        · next held =>
          obtain ⟨there, there_held, alike⟩ := kept next _ held
          rw [there_held]
          exact ih alike leads
      all_goals cases leads; exact ⟨_, rfl⟩

theorem KeptIn.locate (kept : document.KeptIn other)
    (leads : document.locate id = .ok (found, target)) :
    ∃ reached, other.locate id = .ok (found, reached) := by
  unfold Document.locate at leads ⊢
  split at leads
  · cases leads
  · next held =>
    obtain ⟨there, there_held, alike⟩ := kept id _ held
    rw [there_held]
    exact kept.follow alike leads

end Locate

/-! ## Replaced dictionaries and added objects -/

section Put

variable {place : ObjectId} {old : Dictionary}

theorem KeptIn.of_find? (same : ∀ id, other.find? id = document.find? id) :
    document.KeptIn other :=
  fun id object held => ⟨object, (same id).trans held, .same object⟩

/-- A dictionary can take the place of another one. -/
theorem keptIn_put (held : document.find? place = some (.dictionary old)) (new : Dictionary) :
    document.KeptIn (document.put place (.dictionary new)) := by
  intro id object here
  rw [find?_put]
  by_cases replaced : id = place
  · subst replaced
    cases held.symm.trans here
    exact ⟨.dictionary new, if_pos rfl, .dictionaries old new⟩
  · exact ⟨object, (if_neg replaced).trans here, .same object⟩

end Put

/-- The fresh identifier belongs to no object. -/
theorem find?_freshId (document : Document) : document.find? document.freshId = none := by
  rw [Option.eq_none_iff_forall_ne_some]
  intro object held
  exact Nat.not_succ_le_self _ (document.number_le_lastNumber _ (mem_of_find? held))

/-- An object that is put where it already stands is found where it was, and so is any other. -/
theorem find?_put_held {place : ObjectId} {object : Object}
    (held : document.find? place = some object) (id : ObjectId) :
    (document.put place object).find? id = document.find? id := by
  rw [find?_put]
  split
  · next same => rw [same, held]
  · rfl

/-! ## Dictionaries to which the trailer refers -/

section Refers

variable {key : String} {id : ObjectId} {dictionary : Dictionary}

/-- The trailer refers under a key to the dictionary with an identifier. -/
def Refers (document : Document) (key : String) (id : ObjectId) (dictionary : Dictionary) : Prop :=
  ∃ start, document.trailer.entry? key = some (.reference start) ∧
    document.locate start = .ok (id, .dictionary dictionary)

/-- The catalog is the dictionary to which the trailer refers as the root. -/
theorem catalog_eq_ok :
    document.catalog = .ok dictionary ↔ ∃ id, document.Refers "Root" id dictionary := by
  unfold catalog fetch
  simp only [bind_eq_ok, map_eq_ok, Dictionary.expect_eq_ok, Object.expectReference_eq_ok,
    Object.expectDictionary_eq_ok]
  constructor
  · rintro ⟨_, entered, start, rfl, _, ⟨⟨id, _⟩, leads, rfl⟩, rfl⟩
    exact ⟨id, start, entered, leads⟩
  · rintro ⟨id, start, entered, leads⟩
    exact ⟨_, entered, start, rfl, _, ⟨_, leads, rfl⟩, rfl⟩

theorem Refers.held (refers : document.Refers key id dictionary) :
    document.find? id = some (.dictionary dictionary) := by
  obtain ⟨start, -, leads⟩ := refers
  exact find?_of_locate leads

/-- The trailer refers to one dictionary. -/
theorem Refers.unique {id' : ObjectId} {dictionary' : Dictionary}
    (refers : document.Refers key id dictionary) (refers' : document.Refers key id' dictionary') :
    id = id' ∧ dictionary = dictionary' := by
  obtain ⟨start, entered, leads⟩ := refers
  obtain ⟨start', entered', leads'⟩ := refers'
  cases entered.symm.trans entered'
  cases leads.symm.trans leads'
  exact ⟨rfl, rfl⟩

/-- In a document that holds as much, the trailer refers to the dictionary in the same place. -/
theorem Refers.of_keptIn {new : Dictionary} (refers : document.Refers key id dictionary)
    (kept : document.KeptIn other)
    (trailer : other.trailer.entry? key = document.trailer.entry? key)
    (held : other.find? id = some (.dictionary new)) : other.Refers key id new := by
  obtain ⟨start, entered, leads⟩ := refers
  obtain ⟨reached, leads⟩ := kept.locate leads
  cases held.symm.trans (find?_of_locate leads)
  exact ⟨start, trailer.trans entered, leads⟩

/-- After a dictionary has taken the place of another one, the trailer refers to the new one where
it referred to the old one, and to the same dictionary everywhere else. -/
theorem Refers.put {place : ObjectId} {old : Dictionary}
    (refers : document.Refers key id dictionary)
    (held : document.find? place = some (.dictionary old)) (new : Dictionary) :
    (document.put place (.dictionary new)).Refers key id
      (if id = place then new else dictionary) := by
  refine refers.of_keptIn (keptIn_put held new) rfl ?_
  rw [find?_put]
  split
  · rfl
  · exact refers.held

end Refers

/-! ## The order of the objects -/

/-- The objects stand in ascending order of their identifiers. -/
def Ordered (document : Document) : Prop :=
  document.objects.Pairwise fun first second => first.1.before second.1

theorem Ordered.put (ordered : document.Ordered) (id : ObjectId) (object : Object) :
    (document.put id object).Ordered := by
  change document.objects.Pairwise _ at ordered
  change (insertObject id object document.objects).Pairwise _
  generalize document.objects = objects at *
  induction objects with
  | nil => exact List.pairwise_singleton _ _
  | cons first objects ih =>
    obtain ⟨least, following⟩ := List.pairwise_cons.1 ordered
    rw [insertObject]
    split
    · next same =>
      subst same
      exact List.pairwise_cons.2 ⟨least, following⟩
    · next distinct =>
      split
      · next before =>
        refine List.pairwise_cons.2 ⟨fun entry entered => ?_, ordered⟩
        rcases List.mem_cons.1 entered with rfl | entered
        · exact before
        · exact ObjectId.before_trans before (least entry entered)
      · next not_before =>
        refine List.pairwise_cons.2 ⟨fun entry entered => ?_, ih following⟩
        rcases mem_insertObject entered with rfl | entered
        · exact ObjectId.before_of_not_before distinct not_before
        · exact least entry entered

/-- A document that is made of a list of objects is in order. -/
theorem ordered_ofList (objects : List (ObjectId × Object)) (trailer : Dictionary) :
    (ofList objects trailer).Ordered := by
  unfold ofList
  refine List.foldlRecOn objects _ (motive := Ordered) List.Pairwise.nil ?_
  exact fun document ordered entry _ => ordered.put entry.1 entry.2

/-- An object that is put where it already stands changes nothing. -/
theorem Ordered.put_held (ordered : document.Ordered) {id : ObjectId} {object : Object}
    (held : document.find? id = some object) : document.put id object = document := by
  refine Document.ext ?_ rfl
    (Nat.max_eq_left (document.number_le_lastNumber _ (mem_of_find? held)))
  change document.objects.lookup id = some object at held
  change document.objects.Pairwise _ at ordered
  change insertObject id object document.objects = document.objects
  generalize document.objects = objects at *
  induction objects with
  | nil => cases held
  | cons first objects ih =>
    obtain ⟨other, old⟩ := first
    obtain ⟨least, following⟩ := List.pairwise_cons.1 ordered
    rw [lookup_cons_eq_ite] at held
    rw [insertObject]
    by_cases same : other = id
    · subst same
      rw [if_pos rfl] at held ⊢
      cases held
      rfl
    · rw [if_neg fun equal => same equal.symm] at held
      -- What stands further down comes after the first object, so the search goes on past it.
      have after : other.before id := least (id, object) (mem_of_lookup held)
      rw [if_neg same, if_neg (ObjectId.before_asymm after), ih held following]

end Document

end Preflight
