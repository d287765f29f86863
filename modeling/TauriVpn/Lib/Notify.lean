import Mathlib.Tactic
import Mathlib.Logic.Relation

/-! A waker with at most one waiter, and waiting for a condition with it. A
notification wakes the waiter that is registered or else leaves one permit; to wait
is to take the permit or to register. Whoever makes the condition true owes a
notification that it gives later, and a waiter looks at the condition first and
waits afterwards. Then a registered waiter whose condition is true is owed one. -/

/-- A `Notify` that at most one task waits for. -/
inductive Notify where
  | idle
  | permit
  | waiting
  deriving DecidableEq

namespace Notify

/-- `notify_one`. -/
def notifyOne : Notify → Notify
  | .waiting => .idle
  | _ => .permit

/-- `notified().await` up to where it returns or suspends the task. -/
def notified : Notify → Notify
  | .permit => .idle
  | _ => .waiting

theorem notifyOne_ne_waiting (n : Notify) : n.notifyOne ≠ .waiting := by
  cases n <;> decide

theorem notified_eq_waiting_iff {n : Notify} : n.notified = .waiting ↔ n ≠ .permit := by
  cases n <;> decide

end Notify

/-! ### Waiting for a condition -/

namespace CondWait

/-- The waiter is away, has seen the condition false, or is registered. -/
inductive Pc where
  | away
  | cloned
  | parked
  deriving DecidableEq

/-- `owed` counts the notifications that are promised and not given yet. -/
structure State (δ : Type*) where
  data : δ
  waker : Notify
  pc : Pc
  owed : ℕ

variable {δ : Type*} {ready : δ → Prop}

/-- The steps of the notifiers and of the waiter; what makes the condition true owes
a notification, and a woken waiter is away until it looks again. -/
inductive Step (ready : δ → Prop) : State δ → State δ → Prop
  | change {s : State δ} (data : δ) (owing : ℕ) (h : ready data → ready s.data ∨ 0 < owing) :
    Step ready s { s with data, owed := s.owed + owing }
  | notify {s : State δ} {n : ℕ} (h : s.owed = n + 1) :
    Step ready s { s with
      waker := s.waker.notifyOne
      pc := if s.waker = .waiting then .away else s.pc
      owed := n }
  | check {s : State δ} (hpc : s.pc = .away) (h : ¬ready s.data) : Step ready s { s with pc := .cloned }
  | park {s : State δ} (hpc : s.pc = .cloned) :
    Step ready s { s with
      waker := s.waker.notified
      pc := if s.waker = .permit then .away else .parked }

/-- A waiter that has seen the condition false is owed a notification if it is true. -/
structure Inv (ready : δ → Prop) (s : State δ) : Prop where
  waiting : s.waker = .waiting ↔ s.pc = .parked
  owed : ready s.data → s.pc ≠ .away → 0 < s.owed ∨ s.waker = .permit

section Inv
variable {s s' : State δ}

theorem Inv.step (h : Inv ready s) (hstep : Step ready s s') : Inv ready s' := by
  cases hstep with
  | change data owing hchange =>
    refine ⟨h.waiting, fun hready hpc => ?_⟩
    rcases hchange hready with hbefore | howing
    · exact (h.owed hbefore hpc).imp_left fun hpos => Nat.lt_of_lt_of_le hpos (Nat.le_add_right _ _)
    · exact Or.inl (Nat.lt_of_lt_of_le howing (Nat.le_add_left _ _))
  | notify hn =>
    constructor
    · refine iff_of_false (Notify.notifyOne_ne_waiting _) ?_
      dsimp only
      split_ifs with hwaiting
      · decide
      · exact fun hparked => hwaiting (h.waiting.mpr hparked)
    · intro _ hpc
      by_cases hwaiting : s.waker = .waiting
      · simp [hwaiting] at hpc
      · right
        show s.waker.notifyOne = .permit
        cases hw : s.waker with
        | waiting => exact absurd hw hwaiting
        | _ => rfl
  | check hpc hnot =>
    constructor
    · refine iff_of_false (fun hwaiting => ?_) (fun hparked => (nomatch hparked))
      rw [h.waiting.mp hwaiting] at hpc
      cases hpc
    · exact fun hready => absurd hready hnot
  | park hpc =>
    constructor
    · dsimp only
      rw [Notify.notified_eq_waiting_iff]
      split_ifs with hpermit
      · simp [hpermit]
      · simp [hpermit]
    · intro hready hnot
      by_cases hpermit : s.waker = .permit
      · simp [hpermit] at hnot
      · left
        exact (h.owed hready (by rw [hpc]; decide)).resolve_right hpermit

theorem Inv.steps (h : Inv ready s) (hsteps : Relation.ReflTransGen (Step ready) s s') : Inv ready s' := by
  induction hsteps with
  | refl => exact h
  | tail _ hstep ih => exact ih.step hstep

/-- Once every promised notification is given, nobody waits for a true condition. -/
theorem Inv.not_parked (h : Inv ready s) (howed : s.owed = 0) (hready : ready s.data) : s.pc ≠ .parked := by
  intro hparked
  rcases h.owed hready (by rw [hparked]; decide) with hpos | hpermit
  · omega
  · rw [h.waiting.mpr hparked] at hpermit
    cases hpermit

end Inv

end CondWait
