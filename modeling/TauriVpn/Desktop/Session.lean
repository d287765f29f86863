import TauriVpn.Commands
import TauriVpn.Desktop.Stop

/-! Commands in flight on the desktop. Each command is three steps (the status, the
engine, the status again), and the steps of several commands interleave. -/

namespace TauriVpn.Desktop

open Fallible

/-- A command between two of its steps. -/
inductive Call where
  | connectStarting (options : ConnectOptions)
  | connectStarted (options : ConnectOptions) (result : Except VpnError (List String))
  | disconnectStopping
  | disconnectStopped

structure Session where
  status : ConnectionStatus := {}
  host : Host := {}
  calls : List Call := []

/-- A step of a new command, or of the one at an index. -/
inductive CommandEvent where
  | connect (options : ConnectOptions)
  | engineStart (i : ℕ) (o : StartOutcomes)
  | connectReturns (i : ℕ)
  | disconnect
  | engineStop (i : ℕ) (o : StopOutcomes)
  | disconnectReturns (i : ℕ)

namespace Session

/-- `connect` takes the status lock; one that is refused is over. -/
def connect (s : Session) (options : ConnectOptions) : Option Session :=
  match s.status.beginConnect options with
  | .error _ => some s
  | .ok status => some { s with status, calls := s.calls ++ [.connectStarting options] }

/-- `connect` takes the engine lock. -/
def engineStart (os : DesktopOs) (s : Session) (i : ℕ) (o : StartOutcomes) : Option Session :=
  match s.calls[i]? with
  | some (.connectStarting options) =>
    let (result, host) := exec (startDesktop os o options) s.host
    some { s with host, calls := s.calls.set i (.connectStarted options result) }
  | _ => none

/-- `connect` takes the status lock again, and returns. -/
def connectReturns (s : Session) (i : ℕ) : Option Session :=
  match s.calls[i]? with
  | some (.connectStarted _ result) =>
    some { s with status := s.status.endConnect result, calls := s.calls.eraseIdx i }
  | _ => none

def disconnect (s : Session) : Option Session :=
  some { s with status := s.status.beginDisconnect, calls := s.calls ++ [.disconnectStopping] }

/-- `disconnect` takes the engine lock, and returns when the stop fails. -/
def engineStop (os : DesktopOs) (s : Session) (i : ℕ) (o : StopOutcomes) : Option Session :=
  match s.calls[i]? with
  | some .disconnectStopping =>
    match exec (stopDesktop os o) s.host with
    | (.ok _, host) => some { s with host, calls := s.calls.set i .disconnectStopped }
    | (.error _, host) => some { s with host, calls := s.calls.eraseIdx i }
  | _ => none

def disconnectReturns (s : Session) (i : ℕ) : Option Session :=
  match s.calls[i]? with
  | some .disconnectStopped =>
    some { s with status := s.status.endDisconnect, calls := s.calls.eraseIdx i }
  | _ => none

def step (os : DesktopOs) (s : Session) : CommandEvent → Option Session
  | .connect options => s.connect options
  | .engineStart i o => s.engineStart os i o
  | .connectReturns i => s.connectReturns i
  | .disconnect => s.disconnect
  | .engineStop i o => s.engineStop os i o
  | .disconnectReturns i => s.disconnectReturns i

/-- `engine.stop` succeeds when a child is held and else answers that nothing runs. -/
def StopAnswers (os : DesktopOs) (s : Session) : CommandEvent → Prop
  | .engineStop _ o =>
    (exec (stopDesktop os o) s.host).1 =
      if s.host.engine.child = none then .error .notRunning else .ok ()
  | _ => True

instance (os : DesktopOs) (s : Session) : (event : CommandEvent) → Decidable (StopAnswers os s event)
  | .engineStop _ _ => inferInstanceAs (Decidable (_ = _))
  | .connect _ | .engineStart _ _ | .connectReturns _ | .disconnect | .disconnectReturns _ =>
    isTrue trivial

/-- The status names the profile of the child that runs. -/
def NamesChild (s : Session) : Prop :=
  ∃ child, s.host.engine.child = some child ∧ s.status.activeProfileId = some child.profileId

/-- The last write of a command is not stale: `Connected` is written while the status
names the child that runs, and is not overwritten while there is one. -/
def Fresh (s : Session) : CommandEvent → Prop
  | .connectReturns i =>
    match s.calls[i]? with
    | some (.connectStarted _ (.ok _)) => s.NamesChild
    | some (.connectStarted _ (.error _)) => s.status.phase = .connected → s.host.engine.child = none
    | _ => True
  | .disconnectReturns i =>
    match s.calls[i]? with
    | some .disconnectStopped => s.status.phase = .connected → s.host.engine.child = none
    | _ => True
  | _ => True

/-- The status says `Connected` exactly when the engine holds a child, and then it
names the child's profile. -/
def Agrees (s : Session) : Prop :=
  (s.status.phase = .connected ↔ s.host.engine.child.isSome = true) ∧
    (s.status.phase = .connected →
      s.status.activeProfileId = s.host.engine.child.map Child.profileId)

/-- The status and the engine agree up to what the commands in flight still do. -/
structure Consistent (s : Session) : Prop where
  ofConnected : s.status.phase = .connected → s.NamesChild ∨ .disconnectStopped ∈ s.calls
  ofChild : s.host.engine.child ≠ none →
    (s.status.phase = .connected ∧ s.NamesChild) ∨
      (∃ options warnings, .connectStarted options (.ok warnings) ∈ s.calls) ∨
      .disconnectStopping ∈ s.calls

/-! ### The calls that one step leaves alone -/

section Calls
variable {calls : List Call} {i : ℕ} {call call' other : Call}

theorem mem_set_of_ne (hi : calls[i]? = some call) (hmem : other ∈ calls) (hne : other ≠ call) :
    other ∈ calls.set i call' := by
  obtain ⟨j, hj⟩ := List.mem_iff_getElem?.mp hmem
  refine List.mem_iff_getElem?.mpr ⟨j, ?_⟩
  rw [List.getElem?_set_ne, hj]
  rintro rfl
  exact hne (Option.some.inj (hj.symm.trans hi))

theorem mem_eraseIdx_of_ne (hi : calls[i]? = some call) (hmem : other ∈ calls) (hne : other ≠ call) :
    other ∈ calls.eraseIdx i := by
  obtain ⟨j, hj⟩ := List.mem_iff_getElem?.mp hmem
  refine List.mem_eraseIdx_iff_getElem?.mpr ⟨j, ?_, hj⟩
  rintro rfl
  exact hne (Option.some.inj (hj.symm.trans hi))

theorem mem_set_self (hi : calls[i]? = some call) : call' ∈ calls.set i call' := by
  obtain ⟨hlt, -⟩ := List.getElem?_eq_some_iff.mp hi
  exact List.mem_set hlt call'

end Calls

/-! ### One step of one command -/

section Steps
variable {os : DesktopOs} {s t : Session} {i : ℕ}

theorem consistent_connect (h : Consistent s) {options : ConnectOptions}
    (hstep : s.connect options = some t) : Consistent t := by
  unfold connect at hstep
  split at hstep
  · cases hstep
    exact h
  · rename_i status hbegin
    obtain ⟨hnot, -, hphase, -⟩ := ConnectionStatus.beginConnect_ok hbegin
    cases hstep
    refine ⟨fun hp => ?_, fun hchild => Or.inr ?_⟩
    · rw [hphase] at hp
      cases hp
    · rcases h.ofChild hchild with ⟨hp, -⟩ | ⟨options', warnings, hmem⟩ | hmem
      · exact absurd hp hnot
      · exact Or.inl ⟨options', warnings, List.mem_append_left _ hmem⟩
      · exact Or.inr (List.mem_append_left _ hmem)

/-- A start that succeeds found no child, so a status that says `Connected` is about
to be reset. -/
theorem consistent_engineStart (h : Consistent s) {o : StartOutcomes}
    (hstep : s.engineStart os i o = some t) : Consistent t := by
  unfold engineStart at hstep
  split at hstep
  · rename_i options hcall
    cases hexec : exec (startDesktop os o options) s.host with
    | mk result host =>
      rw [hexec] at hstep
      cases hstep
      have hkeep : ∀ call, call ∈ s.calls → call ≠ .connectStarting options →
          call ∈ s.calls.set i (.connectStarted options result) :=
        fun call hmem hne => mem_set_of_ne hcall hmem hne
      cases result with
      | ok warnings =>
        refine ⟨fun hp => ?_, fun _ => Or.inr (Or.inl ⟨options, warnings, mem_set_self hcall⟩)⟩
        rcases h.ofConnected hp with ⟨child, hc, -⟩ | hmem
        · rw [(startDesktop_ok hexec).1] at hc
          cases hc
        · exact Or.inr (hkeep _ hmem (by simp))
      | error error =>
        have hchild := startDesktop_error_child hexec
        have hnames : NamesChild { s with host } ↔ s.NamesChild := by
          simp only [NamesChild, hchild]
        refine ⟨fun hp => ?_, fun hc => ?_⟩
        · exact (h.ofConnected hp).imp hnames.mpr fun hmem => hkeep _ hmem (by simp)
        · rw [hchild] at hc
          refine (h.ofChild hc).imp (And.imp_right hnames.mpr) (Or.imp ?_ fun hmem => ?_)
          · exact fun ⟨options', warnings, hmem⟩ => ⟨options', warnings, hkeep _ hmem (by simp)⟩
          · exact hkeep _ hmem (by simp)
  · cases hstep

theorem consistent_connectReturns (h : Consistent s) (hfresh : Fresh s (.connectReturns i))
    (hstep : s.connectReturns i = some t) : Consistent t := by
  unfold connectReturns at hstep
  split at hstep
  · rename_i options result hcall
    cases hstep
    cases result with
    | ok warnings =>
      simp only [Fresh, hcall] at hfresh
      exact ⟨fun _ => Or.inl hfresh, fun _ => Or.inl ⟨rfl, hfresh⟩⟩
    | error error =>
      simp only [Fresh, hcall] at hfresh
      refine ⟨fun hp => (nomatch hp), fun hc => Or.inr ?_⟩
      rcases h.ofChild hc with ⟨hp, -⟩ | ⟨options', warnings, hmem⟩ | hmem
      · exact absurd (hfresh hp) hc
      · exact Or.inl ⟨options', warnings, mem_eraseIdx_of_ne hcall hmem (by simp)⟩
      · exact Or.inr (mem_eraseIdx_of_ne hcall hmem (by simp))
  · cases hstep

theorem consistent_disconnect (hstep : s.disconnect = some t) : Consistent t := by
  cases hstep
  exact ⟨fun hp => (nomatch hp), fun _ =>
    Or.inr (Or.inr (List.mem_append_right _ (List.mem_singleton_self _)))⟩

/-- A stop leaves no child; one that takes a child still has the reset to write. -/
theorem consistent_engineStop (h : Consistent s) {o : StopOutcomes}
    (hstop : StopAnswers os s (.engineStop i o)) (hstep : s.engineStop os i o = some t) :
    Consistent t := by
  unfold engineStop at hstep
  split at hstep
  · rename_i hcall
    have hnone := stopDesktop_child os o s.host
    simp only [StopAnswers] at hstop
    cases hexec : exec (stopDesktop os o) s.host with
    | mk result host =>
      rw [hexec] at hstep hstop hnone
      cases result with
      | ok _ =>
        cases hstep
        exact ⟨fun _ => Or.inr (mem_set_self hcall), fun hc => absurd hnone hc⟩
      | error error =>
        cases hstep
        have hchild : s.host.engine.child = none := by
          by_contra hsome
          rw [if_neg hsome] at hstop
          cases hstop
        refine ⟨fun hp => ?_, fun hc => absurd hnone hc⟩
        rcases h.ofConnected hp with ⟨child, hc, -⟩ | hmem
        · rw [hchild] at hc
          cases hc
        · exact Or.inr (mem_eraseIdx_of_ne hcall hmem (by simp))
  · cases hstep

theorem consistent_disconnectReturns (h : Consistent s) (hfresh : Fresh s (.disconnectReturns i))
    (hstep : s.disconnectReturns i = some t) : Consistent t := by
  unfold disconnectReturns at hstep
  split at hstep
  · rename_i hcall
    cases hstep
    simp only [Fresh, hcall] at hfresh
    refine ⟨fun hp => (nomatch hp), fun hc => Or.inr ?_⟩
    rcases h.ofChild hc with ⟨hp, -⟩ | ⟨options, warnings, hmem⟩ | hmem
    · exact absurd (hfresh hp) hc
    · exact Or.inl ⟨options, warnings, mem_eraseIdx_of_ne hcall hmem (by simp)⟩
    · exact Or.inr (mem_eraseIdx_of_ne hcall hmem (by simp))
  · cases hstep

theorem consistent_step {event : CommandEvent} (h : Consistent s) (hstop : StopAnswers os s event)
    (hfresh : Fresh s event) (hstep : step os s event = some t) : Consistent t := by
  cases event with
  | connect options => exact consistent_connect h hstep
  | engineStart i o => exact consistent_engineStart h hstep
  | connectReturns i => exact consistent_connectReturns h hfresh hstep
  | disconnect => exact consistent_disconnect hstep
  | engineStop i o => exact consistent_engineStop h hstop hstep
  | disconnectReturns i => exact consistent_disconnectReturns h hfresh hstep

/-- With no command in flight nothing is owed. -/
theorem Consistent.agrees (h : Consistent s) (hcalls : s.calls = []) : Agrees s := by
  have hconnected : s.status.phase = .connected → s.NamesChild := by
    intro hp
    rcases h.ofConnected hp with hnames | hmem
    · exact hnames
    · rw [hcalls] at hmem
      cases hmem
  refine ⟨⟨fun hp => ?_, fun hsome => ?_⟩, fun hp => ?_⟩
  · obtain ⟨child, hchild, -⟩ := hconnected hp
    rw [hchild]
    rfl
  · rcases h.ofChild (Option.isSome_iff_ne_none.mp hsome) with ⟨hp, -⟩ | ⟨_, _, hmem⟩ | hmem
    · exact hp
    · rw [hcalls] at hmem
      cases hmem
    · rw [hcalls] at hmem
      cases hmem
  · obtain ⟨child, hchild, hactive⟩ := hconnected hp
    rw [hchild, hactive]
    rfl

/-- A stale write that ends the last command in flight is there to see. -/
theorem disagrees_of_stale {event : CommandEvent} (hstale : ¬Fresh s event)
    (hstep : step os s event = some t) : ¬Agrees t := by
  rintro ⟨hphase, hactive⟩
  cases event with
  | connectReturns i =>
    simp only [step, connectReturns] at hstep
    split at hstep
    · rename_i options result hcall
      cases hstep
      cases result with
      | ok warnings =>
        simp only [Fresh, hcall] at hstale
        obtain ⟨child, hchild⟩ := Option.isSome_iff_exists.mp (hphase.mp rfl)
        have hid := hactive rfl
        rw [hchild] at hid
        exact hstale ⟨child, hchild, hid⟩
      | error error =>
        simp only [Fresh, hcall] at hstale
        obtain ⟨-, hchild⟩ := Classical.not_imp.mp hstale
        exact absurd (hphase.mpr (Option.isSome_iff_ne_none.mpr hchild)) (by simp [ConnectionStatus.endConnect])
    · cases hstep
  | disconnectReturns i =>
    simp only [step, disconnectReturns, disconnectReturns] at hstep
    split at hstep
    · rename_i hcall
      cases hstep
      simp only [Fresh, hcall] at hstale
      obtain ⟨-, hchild⟩ := Classical.not_imp.mp hstale
      exact absurd (hphase.mpr (Option.isSome_iff_ne_none.mpr hchild))
        (by simp [ConnectionStatus.endDisconnect])
    · cases hstep
  | connect | engineStart | disconnect | engineStop => exact hstale trivial

end Steps

/-- In a run without stale writes the status and the engine agree whenever no
command is in flight. -/
theorem phase_agrees (os : DesktopOs) (events : List CommandEvent) {s : Session}
    (hrun : StepSystem.run (step os) {} events = some s)
    (hstop : StepSystem.Guarded (step os) (StopAnswers os) {} events)
    (hfresh : StepSystem.Guarded (step os) Fresh {} events) (hcalls : s.calls = []) : Agrees s := by
  have hinit : Consistent {} := ⟨fun hp => (nomatch hp), fun hc => absurd rfl hc⟩
  have hguard := StepSystem.guarded_and.mpr ⟨hstop, hfresh⟩
  refine Consistent.agrees (StepSystem.run_invariant_of_guarded ?_ hinit hguard hrun) hcalls
  exact fun s event t h hg hstep => consistent_step h hg.1 hg.2 hstep

/-! ### Commands one after another -/

/-- A command is only called when no other is in flight. -/
def Alone (s : Session) : CommandEvent → Prop
  | .connect _ | .disconnect => s.calls = []
  | _ => True

instance (s : Session) : (event : CommandEvent) → Decidable (Alone s event)
  | .connect _ | .disconnect => inferInstanceAs (Decidable (s.calls = []))
  | .engineStart _ _ | .connectReturns _ | .engineStop _ _ | .disconnectReturns _ => isTrue trivial

/-- What the only command in flight has done so far. -/
def Progress (s : Session) : Call → Prop
  | .connectStarting options =>
    s.status.phase = .connecting ∧ s.status.activeProfileId = some options.profile.id
  | .connectStarted _ (.ok _) => s.NamesChild
  | .connectStarted _ (.error _) => s.status.phase = .connecting
  | .disconnectStopping => True
  | .disconnectStopped => s.host.engine.child = none

/-- At most one command is in flight. -/
def Sequential (s : Session) : Prop :=
  s.calls = [] ∨ ∃ call, s.calls = [call] ∧ s.Progress call

theorem Sequential.progress {s : Session} {i : ℕ} {call : Call} (h : Sequential s)
    (hcall : s.calls[i]? = some call) : s.calls = [call] ∧ i = 0 ∧ s.Progress call := by
  rcases h with hnone | ⟨call', hone, hprogress⟩
  · rw [hnone] at hcall
    cases hcall
  · rw [hone] at hcall
    cases i with
    | zero =>
      cases hcall
      exact ⟨hone, rfl, hprogress⟩
    | succ i => cases hcall

theorem sequential_step {os : DesktopOs} {s t : Session} {event : CommandEvent} (h : Sequential s)
    (halone : Alone s event) (hstep : step os s event = some t) : Sequential t := by
  cases event with
  | connect options =>
    simp only [step, connect] at hstep
    split at hstep
    · cases hstep
      exact h
    · rename_i status hbegin
      obtain ⟨-, -, hphase, hactive⟩ := ConnectionStatus.beginConnect_ok hbegin
      cases hstep
      refine Or.inr ⟨.connectStarting options, ?_, hphase, hactive⟩
      rw [show s.calls = [] from halone, List.nil_append]
  | engineStart i o =>
    simp only [step, engineStart] at hstep
    split at hstep
    · rename_i options hcall
      obtain ⟨hone, rfl, hphase, hactive⟩ := h.progress hcall
      cases hexec : exec (startDesktop os o options) s.host with
      | mk result host =>
        rw [hexec] at hstep
        cases hstep
        refine Or.inr ⟨.connectStarted options result, by rw [hone]; rfl, ?_⟩
        cases result with
        | ok warnings => exact ⟨_, startDesktop_ok_child hexec, hactive⟩
        | error error => exact hphase
    · cases hstep
  | disconnect =>
    cases hstep
    refine Or.inr ⟨.disconnectStopping, ?_, trivial⟩
    rw [show s.calls = [] from halone, List.nil_append]
  | engineStop i o =>
    simp only [step, engineStop] at hstep
    split at hstep
    · rename_i hcall
      obtain ⟨hone, rfl, -⟩ := h.progress hcall
      have hnone := stopDesktop_child os o s.host
      cases hexec : exec (stopDesktop os o) s.host with
      | mk result host =>
        rw [hexec] at hstep hnone
        cases result with
        | ok _ =>
          cases hstep
          exact Or.inr ⟨.disconnectStopped, by rw [hone]; rfl, hnone⟩
        | error error =>
          cases hstep
          exact Or.inl (by rw [hone]; rfl)
    · cases hstep
  | connectReturns i | disconnectReturns i =>
    simp only [step, connectReturns, disconnectReturns] at hstep
    split at hstep
    · rename_i hcall
      obtain ⟨hone, rfl, -⟩ := h.progress hcall
      cases hstep
      exact Or.inl (by rw [hone]; rfl)
    · cases hstep

theorem Sequential.fresh {s : Session} (h : Sequential s) (event : CommandEvent) : Fresh s event := by
  cases event with
  | connectReturns i =>
    simp only [Fresh]
    split
    · rename_i hcall
      exact (h.progress hcall).2.2
    · rename_i hcall
      intro hp
      have hphase : s.status.phase = .connecting := (h.progress hcall).2.2
      rw [hphase] at hp
      cases hp
    · trivial
  | disconnectReturns i =>
    simp only [Fresh]
    split
    · rename_i hcall
      exact fun _ => (h.progress hcall).2.2
    · trivial
  | connect | engineStart | disconnect | engineStop => trivial

/-- Commands called one after another write nothing stale. -/
theorem fresh_of_alone (os : DesktopOs) (events : List CommandEvent)
    (halone : StepSystem.Guarded (step os) Alone {} events) :
    StepSystem.Guarded (step os) Fresh {} events :=
  StepSystem.guarded_of_invariant Sequential
    (fun _ event h ha => ⟨h.fresh event, fun _ hstep => sequential_step h ha hstep⟩) (Or.inl rfl) halone

/-! ### Two runs -/

def sampleStop : StopOutcomes := ⟨.killed, .ok "sing-box.generated.json", .ok ()⟩

/-- A command after the other; the last one connects. -/
def connectAgain : List CommandEvent :=
  [.connect sampleOptions, .engineStart 0 readyOutcomes, .connectReturns 0,
    .disconnect, .engineStop 0 sampleStop, .disconnectReturns 0,
    .connect sampleOptions, .engineStart 0 readyOutcomes, .connectReturns 0]

theorem phase_agrees_sequential :
    ∃ s, StepSystem.run (step .linux) {} connectAgain = some s ∧ s.status.phase = .connected ∧
      s.host.engine.child = some ⟨1⟩ ∧ Agrees s :=
  ⟨_, rfl, rfl, rfl, phase_agrees .linux connectAgain rfl (by decide)
    (fresh_of_alone .linux connectAgain (by decide)) rfl⟩

/-- A disconnect between the engine's start and the last write of `connect`: the
status says `Connected` for good, and nothing runs. -/
theorem connected_without_child :
    ∃ s, StepSystem.run (step .linux) {}
        [.connect sampleOptions, .engineStart 0 readyOutcomes, .disconnect, .engineStop 1 sampleStop,
          .disconnectReturns 1, .connectReturns 0] = some s ∧
      StepSystem.Guarded (step .linux) (StopAnswers .linux) {}
        [.connect sampleOptions, .engineStart 0 readyOutcomes, .disconnect, .engineStop 1 sampleStop,
          .disconnectReturns 1, .connectReturns 0] ∧
      s.calls = [] ∧ s.status.phase = .connected ∧ s.host.engine.child = none ∧ ¬Agrees s := by
  refine ⟨_, rfl, by decide, rfl, rfl, rfl, fun h => ?_⟩
  exact absurd (h.1.mp rfl) (by decide)

end Session

end TauriVpn.Desktop
