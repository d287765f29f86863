import Mathlib.Tactic

/-! Computations that may fail, seen from outside: whether they end with a value.
A sequence of checks succeeds when every check passes and the rest succeeds. -/

variable {ε α β : Type}

/-- The computation ends with a value. -/
def Succeeds (m : Except ε α) : Prop := ∃ a, m = .ok a

namespace Succeeds

@[simp] theorem of_ok (a : α) : Succeeds (Except.ok a : Except ε α) := ⟨a, rfl⟩

@[simp] theorem of_pure (a : α) : Succeeds (pure a : Except ε α) := ⟨a, rfl⟩

@[simp] theorem not_error (e : ε) : ¬Succeeds (Except.error e : Except ε α) := by
  rintro ⟨a, h⟩
  cases h

@[simp] theorem not_throw (e : ε) : ¬Succeeds (throw e : Except ε α) := not_error e

theorem bind_iff (m : Except ε α) (f : α → Except ε β) :
    Succeeds (m >>= f) ↔ ∃ a, m = .ok a ∧ Succeeds (f a) := by
  cases m with
  | error e => simp [bind, Except.bind]
  | ok a => simp [bind, Except.bind]

/-- A computation that ends with a value, taken apart at its first step. -/
theorem bind_eq_ok {m : Except ε α} {f : α → Except ε β} {b : β} (h : m >>= f = .ok b) :
    ∃ a, m = .ok a ∧ f a = .ok b := by
  cases m with
  | error e => cases h
  | ok a => exact ⟨a, rfl, h⟩

theorem bind_of_eq_ok {m : Except ε α} {a : α} (h : m = .ok a) (f : α → Except ε β) : m >>= f = f a := by
  rw [h]
  rfl

/-- An error that is renamed is an error still. -/
theorem mapError_eq_ok {ε' : Type} {m : Except ε α} {f : ε → ε'} {a : α} : m.mapError f = .ok a ↔ m = .ok a := by
  cases m with
  | error e => exact iff_of_false (fun h => nomatch h) fun h => nomatch h
  | ok a' => exact ⟨fun h => congrArg Except.ok (Except.ok.inj h), fun h => congrArg Except.ok (Except.ok.inj h)⟩

/-- A last step that cannot fail. -/
theorem bind_pure_iff (m : Except ε α) (f : α → β) :
    Succeeds (m >>= fun a => pure (f a)) ↔ Succeeds m := by
  simp only [bind_iff, of_pure, and_true]
  rfl

/-- A value that comes after a check that throws. -/
theorem check_eq_ok_iff {failed : Prop} [Decidable failed] {e : ε} {skipped : β → Except ε α} {rest : Except ε α}
    {a : α} : (if failed then throw e >>= skipped else rest) = .ok a ↔ ¬failed ∧ rest = .ok a := by
  by_cases h : failed
  · rw [if_pos h]
    refine iff_of_false (fun hok => ?_) fun hrest => hrest.1 h
    cases hok
  · rw [if_neg h, and_iff_right h]

/-- A check that throws, with the computation after it. -/
theorem check_iff (failed : Prop) [Decidable failed] (e : ε) (skipped : β → Except ε α) (rest : Except ε α) :
    Succeeds (if failed then throw e >>= skipped else rest) ↔ ¬failed ∧ Succeeds rest := by
  simp only [Succeeds, check_eq_ok_iff, exists_and_left]

theorem of_eq {m : Except ε α} {a : α} (h : m = .ok a) : Succeeds m := ⟨a, h⟩

end Succeeds
