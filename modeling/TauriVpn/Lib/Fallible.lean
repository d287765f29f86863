import Mathlib.Tactic

/-! Computations that may fail and that change a state: what was changed before
a failure stays changed. `exec` runs one; the lemmas say what each way of
building a computation does when it runs. -/

abbrev Fallible (ε σ α : Type) := ExceptT ε (StateM σ) α

namespace Fallible

variable {ε σ α β : Type}

/-- The result and the state after the computation. -/
def exec (m : Fallible ε σ α) (s : σ) : Except ε α × σ := m.run.run s

@[simp] theorem exec_pure (a : α) (s : σ) : exec (pure a : Fallible ε σ α) s = (.ok a, s) := rfl

@[simp] theorem exec_throw (e : ε) (s : σ) : exec (throw e : Fallible ε σ α) s = (.error e, s) := rfl

@[simp] theorem exec_get (s : σ) : exec (get : Fallible ε σ σ) s = (.ok s, s) := rfl

@[simp] theorem exec_modify (f : σ → σ) (s : σ) :
    exec (modify f : Fallible ε σ PUnit) s = (.ok ⟨⟩, f s) := rfl

/-- A step that does not touch the state. -/
@[simp] theorem exec_liftM (x : Except ε α) (s : σ) : exec (liftM x : Fallible ε σ α) s = (x, s) := rfl

theorem exec_bind (m : Fallible ε σ α) (f : α → Fallible ε σ β) (s : σ) :
    exec (m >>= f) s = match exec m s with
      | (.ok a, t) => exec (f a) t
      | (.error e, t) => (.error e, t) := by
  simp only [exec, ExceptT.run_bind, StateT.run_bind]
  rcases h : StateT.run m.run s with ⟨_ | a, t⟩
  · rfl
  · rfl

theorem exec_bind_ok {m : Fallible ε σ α} {s t : σ} {a : α} (h : exec m s = (.ok a, t))
    (f : α → Fallible ε σ β) : exec (m >>= f) s = exec (f a) t := by
  rw [exec_bind, h]

theorem exec_bind_error {m : Fallible ε σ α} {s t : σ} {e : ε} (h : exec m s = (.error e, t))
    (f : α → Fallible ε σ β) : exec (m >>= f) s = (.error e, t) := by
  rw [exec_bind, h]

/-- A handler runs in the state that the failure left. -/
theorem exec_tryCatch (m : Fallible ε σ α) (handle : ε → Fallible ε σ α) (s : σ) :
    exec (tryCatch m handle) s = match exec m s with
      | (.ok a, t) => (.ok a, t)
      | (.error e, t) => exec (handle e) t := by
  simp only [exec, ExceptT.run_tryCatch, StateT.run_bind]
  rcases h : StateT.run m.run s with ⟨_ | a, t⟩
  · rfl
  · rfl

/-- A sequence that ends with a value, taken apart after its first step. -/
theorem exec_bind_eq_ok_iff {m : Fallible ε σ α} {f : α → Fallible ε σ β} {s s' : σ} {b : β} :
    exec (m >>= f) s = (.ok b, s') ↔ ∃ a t, exec m s = (.ok a, t) ∧ exec (f a) t = (.ok b, s') := by
  rcases hm : exec m s with ⟨_ | a, t⟩
  · rw [exec_bind_error hm]
    simp
  · rw [exec_bind_ok hm]
    simp

/-- What each step leaves as it is, a sequence leaves as it is. -/
theorem exec_bind_keeps {τ : Type} {part : σ → τ} {m : Fallible ε σ α} {f : α → Fallible ε σ β}
    (hm : ∀ s, part (exec m s).2 = part s) (hf : ∀ a s, part (exec (f a) s).2 = part s) (s : σ) :
    part (exec (m >>= f) s).2 = part s := by
  have hm := hm s
  rcases hexec : exec m s with ⟨_ | a, t⟩
  · rw [hexec] at hm
    rw [exec_bind_error hexec, ← hm]
  · rw [hexec] at hm
    rw [exec_bind_ok hexec, hf, ← hm]

/-- A check that throws, with the computation after it. -/
theorem exec_check_eq_ok_iff {failed : Prop} [Decidable failed] {e : ε} {skipped : β → Fallible ε σ α}
    {rest : Fallible ε σ α} {s s' : σ} {a : α} :
    exec (if failed then throw e >>= skipped else rest) s = (.ok a, s') ↔ ¬failed ∧ exec rest s = (.ok a, s') := by
  by_cases h : failed
  · rw [if_pos h, exec_bind_error (exec_throw e s)]
    exact iff_of_false (fun h => nomatch h) fun hrest => hrest.1 h
  · rw [if_neg h, and_iff_right h]

/-- A counting loop whose steps succeed and keep an invariant succeeds, with the invariant
at its end. -/
theorem foldlM_range {m : Type → Type} [Monad m] [LawfulMonad m] {f : β → ℕ → m β} {n : ℕ} (inv : ℕ → β → Prop)
    (hstep : ∀ k < n, ∀ b, inv k b → ∃ b', f b k = pure b' ∧ inv (k + 1) b') {b : β} (h : inv 0 b) :
    ∃ b', (List.range n).foldlM f b = pure b' ∧ inv n b' := by
  induction n with
  | zero => exact ⟨b, rfl, h⟩
  | succ n ih =>
    obtain ⟨t, hloop, ht⟩ := ih fun k hk => hstep k (Nat.lt_succ_of_lt hk)
    obtain ⟨b', hlast, hb'⟩ := hstep n (Nat.lt_succ_self n) t ht
    refine ⟨b', ?_, hb'⟩
    rw [List.range_succ, List.foldlM_append, hloop, pure_bind, List.foldlM_cons, hlast, pure_bind, List.foldlM_nil]

/-- A computation on a part of the state; the rest of it is left alone. -/
def within {τ : Type} (part : σ → τ) (setPart : τ → σ → σ) (m : Fallible ε τ α) : Fallible ε σ α :=
  ExceptT.mk fun s => ((exec m (part s)).1, setPart (exec m (part s)).2 s)

@[simp] theorem exec_within {τ : Type} (part : σ → τ) (setPart : τ → σ → σ) (m : Fallible ε τ α) (s : σ) :
    exec (within part setPart m) s = ((exec m (part s)).1, setPart (exec m (part s)).2 s) := rfl

end Fallible
