import Mathlib.Tactic

/-! Runs of a system given by a partial step function: an event that is not
enabled in a state makes the run undefined. A guarded run takes every step in a
state in which a guard allows it, so an invariant that a step preserves under
the guard holds after every guarded run. -/

namespace StepSystem

variable {σ α : Type*}

/-- The state after the events, `none` when one of them is not enabled. -/
def run (step : σ → α → Option σ) : σ → List α → Option σ
  | s, [] => some s
  | s, a :: as => (step s a).bind fun t => run step t as

/-- Every event of the run is taken in a state in which `guard` allows it. -/
def Guarded (step : σ → α → Option σ) (guard : σ → α → Prop) : σ → List α → Prop
  | _, [] => True
  | s, a :: as => guard s a ∧ ∀ t, step s a = some t → Guarded step guard t as

/-- Every event of the run satisfies its `post`, from the state before to the state after. -/
def AfterEach (step : σ → α → Option σ) (post : σ → α → σ → Prop) : σ → List α → Prop
  | _, [] => True
  | s, a :: as => ∀ t, step s a = some t → post s a t ∧ AfterEach step post t as

instance Guarded.decidable (step : σ → α → Option σ) (guard : σ → α → Prop)
    [∀ s a, Decidable (guard s a)] : ∀ s as, Decidable (Guarded step guard s as)
  | _, [] => isTrue trivial
  | s, a :: as =>
    match h : step s a with
    | none => decidable_of_iff (guard s a) (by simp [Guarded, h])
    | some t =>
      have := Guarded.decidable step guard t as
      decidable_of_iff (guard s a ∧ Guarded step guard t as) (by simp [Guarded, h])

section Run
variable {step : σ → α → Option σ} {s s' : σ} {a : α} {as bs : List α}

@[simp] theorem run_nil : run step s [] = some s := rfl

theorem run_cons (h : step s a = some s') : run step s (a :: as) = run step s' as := by
  rw [run, h, Option.bind_some]

theorem run_cons_eq_some :
    run step s (a :: as) = some s' ↔ ∃ t, step s a = some t ∧ run step t as = some s' := by
  rw [run, Option.bind_eq_some_iff]

theorem run_append : run step s (as ++ bs) = (run step s as).bind fun t => run step t bs := by
  induction as generalizing s with
  | nil => rfl
  | cons a as ih => simp only [List.cons_append, run, ih, Option.bind_assoc]

end Run

section Invariant
variable {step : σ → α → Option σ} {guard : σ → α → Prop} {inv : σ → Prop} {s s' : σ} {as : List α}

/-- What every step that the guard allows preserves holds after every guarded run. -/
theorem run_invariant_of_guarded (hstep : ∀ s a t, inv s → guard s a → step s a = some t → inv t)
    (h : inv s) (hguard : Guarded step guard s as) (hrun : run step s as = some s') : inv s' := by
  induction as generalizing s with
  | nil => exact Option.some.inj hrun ▸ h
  | cons a as ih =>
    obtain ⟨t, ht, hrun⟩ := run_cons_eq_some.mp hrun
    exact ih (hstep s a t h hguard.1 ht) (hguard.2 t ht) hrun

/-- Following the verdict of the guard along a run: an invariant that records at
every step whether the guard allowed it records at the end whether the run is guarded. -/
theorem run_verdict (inv : Prop → σ → Prop)
    (hstep : ∀ ok s a t, inv ok s → step s a = some t → inv (ok ∧ guard s a) t)
    {ok : Prop} (h : inv ok s) (hrun : run step s as = some s') :
    inv (ok ∧ Guarded step guard s as) s' := by
  induction as generalizing s ok with
  | nil =>
    rw [Guarded, and_true]
    exact Option.some.inj hrun ▸ h
  | cons a as ih =>
    obtain ⟨t, ht, hrun⟩ := run_cons_eq_some.mp hrun
    have hguard : (ok ∧ guard s a) ∧ Guarded step guard t as ↔ ok ∧ Guarded step guard s (a :: as) := by
      simp only [Guarded, ht, Option.some.injEq, forall_eq', and_assoc]
    rw [← propext hguard]
    exact ih (hstep ok s a t h ht) hrun

variable (inv) in
/-- When a guard says exactly when an event reaches its postcondition, and then an
invariant is kept, the guarded runs are those with the postcondition after each event. -/
theorem afterEach_iff_guarded {post : σ → α → σ → Prop}
    (hstep : ∀ s a t, inv s → step s a = some t → (post s a t ↔ guard s a) ∧ (guard s a → inv t))
    (h : inv s) (hrun : run step s as = some s') :
    AfterEach step post s as ↔ Guarded step guard s as := by
  induction as generalizing s with
  | nil => rfl
  | cons a as ih =>
    obtain ⟨t, ht, hrest⟩ := run_cons_eq_some.mp hrun
    obtain ⟨hpost, hinv⟩ := hstep s a t h ht
    simp only [AfterEach, Guarded, ht, Option.some.injEq, forall_eq', hpost]
    exact and_congr_right fun hguard => ih (hinv hguard) hrest

variable (inv) in
/-- A guard follows from another along a run when an invariant kept under the other
makes it follow at every step. -/
theorem guarded_of_invariant {guard' : σ → α → Prop}
    (hstep : ∀ s a, inv s → guard s a → guard' s a ∧ ∀ t, step s a = some t → inv t)
    (h : inv s) (hguard : Guarded step guard s as) : Guarded step guard' s as := by
  induction as generalizing s with
  | nil => trivial
  | cons a as ih =>
    obtain ⟨hguard', hinv⟩ := hstep s a h hguard.1
    exact ⟨hguard', fun t ht => ih (hinv t ht) (hguard.2 t ht)⟩

/-- A guard on the events alone. -/
theorem guarded_of_forall {p : α → Prop} (h : ∀ a ∈ as, p a) : Guarded step (fun _ a => p a) s as := by
  induction as generalizing s with
  | nil => trivial
  | cons a as ih =>
    obtain ⟨ha, has⟩ := List.forall_mem_cons.mp h
    exact ⟨ha, fun t _ => ih has⟩

/-- What every step preserves holds after every run. -/
theorem run_invariant (hstep : ∀ s a t, inv s → step s a = some t → inv t) (h : inv s)
    (hrun : run step s as = some s') : inv s' := by
  have hguard : Guarded step (fun _ _ => True) s as := guarded_of_forall fun _ _ => trivial
  exact run_invariant_of_guarded (fun s a t hs _ => hstep s a t hs) h hguard hrun

theorem guarded_and {guard' : σ → α → Prop} :
    Guarded step (fun s a => guard s a ∧ guard' s a) s as ↔
      Guarded step guard s as ∧ Guarded step guard' s as := by
  induction as generalizing s with
  | nil => simp [Guarded]
  | cons a as ih =>
    simp only [Guarded, ih]
    constructor
    · exact fun h => ⟨⟨h.1.1, fun t ht => (h.2 t ht).1⟩, ⟨h.1.2, fun t ht => (h.2 t ht).2⟩⟩
    · exact fun h => ⟨⟨h.1.1, h.2.1⟩, fun t ht => ⟨h.1.2 t ht, h.2.2 t ht⟩⟩

variable (inv) in
/-- What every step that the guard allows ensures, an invariant given, holds of every
event of a guarded run. -/
theorem afterEach_of_guarded {post : σ → α → σ → Prop}
    (hstep : ∀ s a t, inv s → guard s a → step s a = some t → post s a t ∧ inv t)
    (h : inv s) (hguard : Guarded step guard s as) : AfterEach step post s as := by
  induction as generalizing s with
  | nil => trivial
  | cons a as ih =>
    intro t ht
    obtain ⟨hpost, hinv⟩ := hstep s a t h hguard.1 ht
    exact ⟨hpost, ih hinv (hguard.2 t ht)⟩

theorem afterEach_append {post : σ → α → σ → Prop} {bs : List α} : AfterEach step post s (as ++ bs) ↔
    AfterEach step post s as ∧ ∀ t, run step s as = some t → AfterEach step post t bs := by
  induction as generalizing s with
  | nil => simp [AfterEach]
  | cons a as ih =>
    simp only [List.cons_append, AfterEach, ih, run_cons_eq_some]
    constructor
    · exact fun h => ⟨fun t ht => ⟨(h t ht).1, (h t ht).2.1⟩, fun u ⟨t, ht, hu⟩ => (h t ht).2.2 u hu⟩
    · exact fun h t ht => ⟨(h.1 t ht).1, (h.1 t ht).2, fun u hu => h.2 u ⟨t, ht, hu⟩⟩

theorem guarded_append {bs : List α} : Guarded step guard s (as ++ bs) ↔
    Guarded step guard s as ∧ ∀ t, run step s as = some t → Guarded step guard t bs := by
  induction as generalizing s with
  | nil => simp [Guarded]
  | cons a as ih =>
    simp only [List.cons_append, Guarded, ih, run_cons_eq_some, and_assoc]
    refine and_congr_right fun _ => ?_
    constructor
    · exact fun h => ⟨fun t ht => (h t ht).1, fun u ⟨t, ht, hu⟩ => (h t ht).2 u hu⟩
    · exact fun h t ht => ⟨h.1 t ht, fun u hu => h.2 u ⟨t, ht, hu⟩⟩

end Invariant

end StepSystem
