import Mathlib.Tactic

/-! Cutting a list into pieces of a fixed size; only the last piece may be
shorter. The pieces are nonempty and concatenate to the list. -/

namespace Chunking

variable {α : Type*}

/-- At most `fuel` pieces of at most `n` elements. -/
def cut (n : ℕ) : ℕ → List α → List (List α)
  | 0, _ => []
  | _ + 1, [] => []
  | fuel + 1, x :: xs => (x :: xs).take n :: cut n fuel ((x :: xs).drop n)

/-- The pieces of `xs`; a list has no more nonempty pieces than elements. -/
def chunks (n : ℕ) (xs : List α) : List (List α) := cut n xs.length xs

theorem cut_flatten {n : ℕ} (hn : 0 < n) :
    ∀ (fuel : ℕ) (xs : List α), xs.length ≤ fuel → (cut n fuel xs).flatten = xs
  | 0, xs, h => by
    rw [List.length_eq_zero_iff.mp (Nat.le_zero.mp h)]
    rfl
  | fuel + 1, [], _ => rfl
  | fuel + 1, x :: xs, h => by
    have hd : ((x :: xs).drop n).length ≤ fuel := by
      simp only [List.length_drop, List.length_cons] at h ⊢
      omega
    rw [cut, List.flatten_cons, cut_flatten hn fuel _ hd, List.take_append_drop]

theorem cut_bounds {n : ℕ} (hn : 0 < n) :
    ∀ (fuel : ℕ) (xs : List α), ∀ c ∈ cut n fuel xs, 0 < c.length ∧ c.length ≤ n
  | 0, _, c, hc => by simp [cut] at hc
  | fuel + 1, [], c, hc => by simp [cut] at hc
  | fuel + 1, x :: xs, c, hc => by
    simp only [cut, List.mem_cons] at hc
    rcases hc with rfl | hc
    · simp only [List.length_take, List.length_cons]
      omega
    · exact cut_bounds hn fuel _ c hc

@[simp] theorem chunks_flatten {n : ℕ} (hn : 0 < n) (xs : List α) : (chunks n xs).flatten = xs :=
  cut_flatten hn _ _ le_rfl

theorem chunks_bounds {n : ℕ} (hn : 0 < n) {xs c : List α} (hc : c ∈ chunks n xs) :
    0 < c.length ∧ c.length ≤ n :=
  cut_bounds hn _ _ c hc

end Chunking
