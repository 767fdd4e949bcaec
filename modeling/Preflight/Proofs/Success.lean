import Mathlib
import Preflight.Interpreter

/-!
# Success of computations that can fail

What the success of a composed computation says about its parts: each part succeeded, and the result
is put together from theirs.
-/

namespace Preflight

variable {ε ε' α β : Type}

theorem map_eq_ok {x : Except ε α} {f : α → β} {b : β} :
    x.map f = .ok b ↔ ∃ a, x = .ok a ∧ f a = b := by
  cases x <;> simp [Except.map]

theorem eq_ok_of_toOption {x : Except ε α} {a : α} (h : x.toOption = some a) : x = .ok a := by
  cases x with
  | error => cases h
  | ok value => exact congrArg Except.ok (Option.some.inj h)

theorem mapError_eq_ok {x : Except ε α} {f : ε → ε'} {a : α} : x.mapError f = .ok a ↔ x = .ok a := by
  cases x <;> simp [Except.mapError]

theorem mapError_eq_error {x : Except ε α} {f : ε → ε'} {failure : ε'} :
    x.mapError f = .error failure ↔ ∃ cause, x = .error cause ∧ f cause = failure := by
  cases x <;> simp [Except.mapError]

theorem ok_bind (a : α) (f : α → Except ε β) : (Except.ok a >>= f) = f a := rfl

theorem bind_eq_ok {x : Except ε α} {f : α → Except ε β} {b : β} :
    x >>= f = .ok b ↔ ∃ a, x = .ok a ∧ f a = .ok b := by
  cases x <;> simp [bind, Except.bind]

/-- A check of several things succeeds if it succeeds for each of them. -/
theorem forM_eq_ok {f : α → Except ε Unit} {items : List α} :
    items.forM f = .ok () ↔ ∀ item ∈ items, f item = .ok () := by
  induction items with
  | nil => simp [pure, Except.pure]
  | cons item items ih =>
    rw [List.forM, bind_eq_ok, List.forall_mem_cons, ← ih]
    constructor
    · rintro ⟨⟨⟩, first, following⟩
      exact ⟨first, following⟩
    · rintro ⟨first, following⟩
      exact ⟨⟨⟩, first, following⟩

/-- Computing several results succeeds if each of them can be computed. -/
theorem mapM_eq_ok {f : α → Except ε β} {items : List α} {results : List β} :
    items.mapM f = .ok results ↔ List.Forall₂ (fun item result => f item = .ok result) items results := by
  induction items generalizing results with
  | nil => cases results <;> simp [pure, Except.pure]
  | cons item items ih =>
    rw [List.mapM_cons, bind_eq_ok]
    constructor
    · rintro ⟨first, first_ok, h⟩
      obtain ⟨following, following_ok, same⟩ := bind_eq_ok.1 h
      cases same
      exact .cons first_ok (ih.1 following_ok)
    · intro h
      cases h with
      | cons first_ok following_ok =>
        exact ⟨_, first_ok, bind_eq_ok.2 ⟨_, ih.2 following_ok, rfl⟩⟩

theorem tokenize_eq_ok {content : Bytes} {operators : List Operator} :
    tokenize content = .ok operators ↔
      (readOperators content).stop = none ∧ (readOperators content).operators = operators := by
  unfold tokenize
  simp only
  split
  · next stop stopped => simp [stopped]
  · next ended => simp [ended]

/-- Obeying the operators of a stream succeeds if the stream is not too long, has no faults, and its
operators can be obeyed. -/
theorem obeyOperators_eq_ok {limit : ℕ} {content : Bytes}
    {obey : List Operator → Except StreamFailure α} {result : α} :
    obeyOperators (some limit) content obey = .ok result ↔
      content.length ≤ limit ∧ (readOperators content).stop = none ∧
        obey (readOperators content).operators = .ok result := by
  unfold obeyOperators
  by_cases long : limit < content.length
  · rw [show (some limit).filter (· < content.length) = some limit by simp [long]]
    constructor
    · intro h
      cases h
    · exact fun ⟨short, _⟩ => absurd long (Nat.not_lt.2 short)
  · rw [show (some limit).filter (· < content.length) = none by simp; omega]
    simp only
    cases stop : (readOperators content).stop with
    | some fault =>
      constructor
      · intro h
        obtain ⟨value, -, fails⟩ := bind_eq_ok.1 h
        cases fails
      · rintro ⟨-, ended, -⟩
        cases ended
    | none =>
      rw [bind_eq_ok]
      constructor
      · rintro ⟨value, obeyed, same⟩
        cases same
        exact ⟨Nat.not_lt.1 long, rfl, obeyed⟩
      · exact fun ⟨_, _, obeyed⟩ => ⟨result, obeyed, rfl⟩

/-- Obeying a stream that is not too long and has no faults is obeying its operators. -/
theorem obeyOperators_of_tokenize {limit : ℕ} {content : Bytes} {operators : List Operator}
    (fits : content.length ≤ limit) (read : tokenize content = .ok operators)
    (obey : List Operator → Except StreamFailure α) :
    obeyOperators (some limit) content obey = obey operators := by
  obtain ⟨ended, rfl⟩ := tokenize_eq_ok.1 read
  have short : (some limit).filter (· < content.length) = none := by simp; omega
  unfold obeyOperators
  rw [short]
  simp only [ended]
  show (obey (readOperators content).operators >>= fun result => .ok result) = _
  cases obey (readOperators content).operators <;> rfl

end Preflight
