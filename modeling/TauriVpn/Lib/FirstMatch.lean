import Mathlib.Tactic

/-! First-match evaluation of a rule list: the first rule that holds of a case
gives its verdict. A prefix in which some rule holds decides the case, so the
rules after it are never consulted. -/

namespace FirstMatch

variable {ρ κ δ : Type*}

/-- The verdict of the first rule that holds, if any does. -/
def outcome (holds : ρ → κ → Bool) (verdict : ρ → δ) (rules : List ρ) (c : κ) : Option δ :=
  (rules.find? fun r => holds r c).map verdict

variable {holds : ρ → κ → Bool} {verdict : ρ → δ} {c : κ}

@[simp] theorem outcome_nil : outcome holds verdict [] c = none := rfl

theorem outcome_cons (r : ρ) (rules : List ρ) : outcome holds verdict (r :: rules) c =
    if holds r c then some (verdict r) else outcome holds verdict rules c := by
  unfold outcome
  rw [List.find?_cons]
  cases holds r c <;> rfl

/-- Later rules matter only where no earlier one holds. -/
theorem outcome_append (xs ys : List ρ) : outcome holds verdict (xs ++ ys) c =
    (outcome holds verdict xs c).or (outcome holds verdict ys c) := by
  induction xs with
  | nil => rfl
  | cons r xs ih =>
    rw [List.cons_append, outcome_cons, outcome_cons, ih]
    split_ifs <;> rfl

/-- Rules behind a prefix that decides the case are unreachable. -/
theorem outcome_append_of_isSome {xs : List ρ} (h : (outcome holds verdict xs c).isSome) (ys : List ρ) :
    outcome holds verdict (xs ++ ys) c = outcome holds verdict xs c := by
  rw [outcome_append, Option.or_of_isSome h]

/-- A verdict is that of a rule that holds. -/
theorem exists_of_outcome {rules : List ρ} {d : δ} (h : outcome holds verdict rules c = some d) :
    ∃ r ∈ rules, holds r c = true ∧ verdict r = d := by
  obtain ⟨r, hfind, hverdict⟩ := Option.map_eq_some_iff.mp h
  have hholds : holds r c = true := List.find?_some (p := fun r => holds r c) hfind
  exact ⟨r, List.mem_of_find?_eq_some hfind, hholds, hverdict⟩

end FirstMatch
