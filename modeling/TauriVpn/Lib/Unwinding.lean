import TauriVpn.Lib.StepSystem

/-! Non-interference by unwinding. An observer sees some events of a run and what
they put out. When each event keeps a relation between two states, and an event
that is not seen may also be taken on one side alone, a run looks the same after
any of the unseen events are deleted from it. -/

namespace StepSystem

variable {σ α ω : Type*}

/-- What the events of a run put out. -/
def trace (step : σ → α → Option σ) (out : σ → α → List ω) : σ → List α → List ω
  | _, [] => []
  | s, a :: as => out s a ++ ((step s a).map fun t => trace step out t as).getD []

theorem trace_cons {step : σ → α → Option σ} (out : σ → α → List ω) {s t : σ} {a : α} (as : List α)
    (h : step s a = some t) : trace step out s (a :: as) = out s a ++ trace step out t as := by
  rw [trace, h, Option.map_some, Option.getD_some]

/-- A relation that the events in `dom` keep, and that those outside `seen` keep on one side. -/
structure Unwinding (step : σ → α → Option σ) (out : σ → α → List ω) (dom seen : α → Prop)
    (R : σ → σ → Prop) : Prop where
  consistent : ∀ {s s' a t}, R s s' → dom a → step s a = some t →
    ∃ t', step s' a = some t' ∧ R t t' ∧ out s' a = out s a
  respects : ∀ {s s' a t}, R s s' → dom a → ¬seen a → step s a = some t → R t s' ∧ out s a = []

variable {step : σ → α → Option σ} {out : σ → α → List ω} {dom seen : α → Prop} {R : σ → σ → Prop}

/-- Deleting unseen events from a run changes neither what is put out nor the related state. -/
theorem Unwinding.run_filter (u : Unwinding step out dom seen R) (keep : α → Bool)
    (hkeep : ∀ a, seen a → keep a = true) {as : List α} (hdom : ∀ a ∈ as, dom a) {s s' t : σ}
    (h : R s s') (hrun : run step s as = some t) :
    ∃ t', run step s' (as.filter keep) = some t' ∧ R t t' ∧
      trace step out s' (as.filter keep) = trace step out s as := by
  induction as generalizing s s' with
  | nil => exact ⟨s', rfl, Option.some.inj hrun ▸ h, rfl⟩
  | cons a as ih =>
    obtain ⟨ha, has⟩ := List.forall_mem_cons.mp hdom
    obtain ⟨u₁, hstep, hrest⟩ := run_cons_eq_some.mp hrun
    rw [trace_cons out as hstep]
    by_cases hk : keep a = true
    · obtain ⟨u₂, hstep', hR, hout⟩ := u.consistent h ha hstep
      obtain ⟨t', hrun', ht, htrace⟩ := ih has hR hrest
      refine ⟨t', ?_, ht, ?_⟩
      · rw [List.filter_cons_of_pos hk, run_cons hstep', hrun']
      · rw [List.filter_cons_of_pos hk, trace_cons out _ hstep', hout, htrace]
    · have hunseen : ¬seen a := fun hs => hk (hkeep a hs)
      obtain ⟨hR, hout⟩ := u.respects h ha hunseen hstep
      obtain ⟨t', hrun', ht, htrace⟩ := ih has hR hrest
      rw [List.filter_cons_of_neg hk, hout, List.nil_append]
      exact ⟨t', hrun', ht, htrace⟩

end StepSystem
