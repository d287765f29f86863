import TauriVpn.Android.FailedStart
import TauriVpn.Desktop.Macos

/-! Commands one after another on every target. A target has an engine of its own; the
commands around it are the same, and write the status before and after they call it. -/

namespace TauriVpn

open Fallible Desktop Android

/-- The engine of a target, over the outcomes of the fallible steps of a start and of a
stop, with the condition under which a stop succeeds. -/
structure Engine where
  State : Type
  StartSteps : Type
  StopSteps : Type
  start : StartSteps → ConnectOptions → Fallible VpnError State (List String)
  stop : StopSteps → Fallible VpnError State Unit
  Stops : State → StopSteps → Prop
  stop_succeeds : ∀ s o, Succeeds (exec (stop o) s).1 ↔ Stops s o

/-- The status and the engine that the commands share. -/
structure VpnState (E : Engine) where
  status : ConnectionStatus := {}
  engine : E.State

/-- A command, with the outcomes of its engine's steps. -/
inductive Command (E : Engine) where
  | connect (options : ConnectOptions) (o : E.StartSteps)
  | disconnect (o : E.StopSteps)

namespace VpnState

variable {E : Engine}

/-- `connect`. -/
def connect (s : VpnState E) (options : ConnectOptions) (o : E.StartSteps) :
    Except VpnError ConnectionStatus × VpnState E :=
  match s.status.beginConnect options with
  | .error error => (.error error, s)
  | .ok status =>
    let (result, engine) := exec (E.start o options) s.engine
    let status := status.endConnect result
    (result.map fun _ => status, { status, engine })

/-- `disconnect`. -/
def disconnect (s : VpnState E) (o : E.StopSteps) : Except VpnError ConnectionStatus × VpnState E :=
  let status := s.status.beginDisconnect
  match exec (E.stop o) s.engine with
  | (.error error, engine) => (.error error, { status, engine })
  | (.ok _, engine) => (.ok status.endDisconnect, { status := status.endDisconnect, engine })

/-- The state after a whole command. -/
def step (s : VpnState E) : Command E → Option (VpnState E)
  | .connect options o => some (s.connect options o).2
  | .disconnect o => some (s.disconnect o).2

/-- The phase is not one that a command in flight has written. -/
def Settled (s : VpnState E) : Prop :=
  s.status.phase = .disconnected ∨ s.status.phase = .connected ∨ s.status.phase = .failed

/-- A command returns with a settled phase, and a `disconnect` that found nothing
running is not reported as one under way. -/
def ReturnsSettled (s : VpnState E) (command : Command E) (t : VpnState E) : Prop :=
  t.Settled ∧ ∀ o, command = .disconnect o → (s.disconnect o).1 = .error .notRunning →
    t.status.phase ≠ .connecting ∧ t.status.phase ≠ .disconnecting

/-- A `disconnect` finds something to stop, and the steps of its stop succeed. -/
def DisconnectStops (s : VpnState E) : Command E → Prop
  | .connect _ _ => True
  | .disconnect o => E.Stops s.engine o

theorem settled_connect {s : VpnState E} (h : s.Settled) (options : ConnectOptions) (o : E.StartSteps) :
    (s.connect options o).2.Settled := by
  unfold connect
  cases s.status.beginConnect options with
  | error error => exact h
  | ok status =>
    cases hexec : exec (E.start o options) s.engine with
    | mk result engine =>
      cases result with
      | ok warnings => exact Or.inr (Or.inl rfl)
      | error error => exact Or.inr (Or.inr rfl)

/-- A disconnect settles the phase exactly when its stop succeeds. -/
theorem settled_disconnect_iff (s : VpnState E) (o : E.StopSteps) :
    (s.disconnect o).2.Settled ↔ E.Stops s.engine o := by
  rw [← E.stop_succeeds]
  unfold disconnect
  cases hexec : exec (E.stop o) s.engine with
  | mk result engine =>
    cases result with
    | ok _ =>
      dsimp only
      exact iff_of_true (Or.inl rfl) (Succeeds.of_ok _)
    | error error =>
      dsimp only
      refine iff_of_false ?_ (Succeeds.not_error error)
      rintro (h | h | h)
      · cases h
      · cases h
      · cases h

theorem Settled.not_transitional {s : VpnState E} (h : s.Settled) :
    s.status.phase ≠ .connecting ∧ s.status.phase ≠ .disconnecting := by
  rcases h with h | h | h
  · simp [h]
  · simp [h]
  · simp [h]

theorem returnsSettled_iff {s t : VpnState E} {command : Command E} (h : s.Settled)
    (hstep : s.step command = some t) : ReturnsSettled s command t ↔ s.DisconnectStops command := by
  have hsettled : ReturnsSettled s command t ↔ t.Settled :=
    ⟨And.left, fun ht => ⟨ht, fun _ _ _ => ht.not_transitional⟩⟩
  rw [hsettled]
  cases command with
  | connect options o =>
    obtain rfl := Option.some.inj hstep
    exact iff_of_true (settled_connect h options o) trivial
  | disconnect o =>
    obtain rfl := Option.some.inj hstep
    exact settled_disconnect_iff s o

/-- Every command returns. -/
theorem run_total (s : VpnState E) (commands : List (Command E)) : ∃ t, StepSystem.run step s commands = some t := by
  induction commands generalizing s with
  | nil => exact ⟨s, rfl⟩
  | cons command commands ih =>
    cases command with
    | connect options o => exact ih (s.connect options o).2
    | disconnect o => exact ih (s.disconnect o).2

end VpnState

/-! ### When a stop succeeds -/

namespace Desktop

theorem cleanupAfterStop_succeeds (os : DesktopOs) (o : StopOutcomes) :
    Succeeds (cleanupAfterStop os o) ↔ Succeeds o.configPath ∧ (os = .windows → Succeeds o.cleanup) := by
  unfold cleanupAfterStop
  cases o.configPath with
  | error error => simp [bind, Except.bind]
  | ok path =>
    cases os with
    | linux => simp [bind, Except.bind, cleanupDesktopArtifacts]
    | windows => simp [bind, Except.bind, cleanupDesktopArtifacts]

theorem stopDesktop_succeeds (os : DesktopOs) (host : Host) (o : StopOutcomes) :
    Succeeds (exec (stopDesktop os o) host).1 ↔
      host.engine.child ≠ none ∧ o.kill = .killed ∧ Succeeds o.configPath ∧
        (os = .windows → Succeeds o.cleanup) := by
  by_cases hchild : host.engine.child = none
  · rw [stopDesktop_noChild os o host hchild]
    cases cleanupAfterStop os o <;> simp [hchild, Except.bind]
  · by_cases hkill : o.kill = .timedOut
    · rw [stopDesktop_timedOut os o host hchild hkill]
      simp [hkill]
    · rw [stopDesktop_killEnded os o host hchild hkill]
      cases hk : o.kill with
      | timedOut => exact absurd hk hkill
      | failed error =>
        cases o.configPath <;> simp [Except.bind]
      | killed =>
        dsimp only
        rw [cleanupAfterStop_succeeds]
        simp [hchild]

/-- What a stop takes on macOS, by what is there to stop. -/
def MacosHost.Stops (m : MacosHost) (o : MacosStopOutcomes) : Prop :=
  if m.macosSystemConnected then
    Succeeds o.stopProfile ∧ Succeeds o.configPath ∧ Succeeds o.cleanup
  else if m.privilegedPid.isSome then
    Succeeds o.configPath ∧ Succeeds o.stopPrivileged
  else
    m.host.engine.child ≠ none ∧ o.kill = .killed ∧ Succeeds o.configPath ∧ Succeeds o.cleanup

theorem stopMacosChild_succeeds (m : MacosHost) (o : MacosStopOutcomes) :
    Succeeds (exec (stopMacosChild o) m).1 ↔
      m.host.engine.child ≠ none ∧ o.kill = .killed ∧ Succeeds o.configPath ∧ Succeeds o.cleanup := by
  unfold stopMacosChild
  simp only [exec_bind, exec_get, exec_modify]
  cases m.host.engine.child with
  | none =>
    cases o.configPath with
    | error error => simp [exec_bind]
    | ok path => cases o.cleanup <;> simp [exec_bind]
  | some child =>
    cases o.kill with
    | timedOut => simp [exec_bind, killChild]
    | failed error => cases o.configPath <;> simp [exec_bind, killChild]
    | killed => cases o.configPath <;> simp [exec_bind, killChild]

theorem stopMacos_succeeds (m : MacosHost) (o : MacosStopOutcomes) :
    Succeeds (exec (stopMacos o) m).1 ↔ m.Stops o := by
  unfold stopMacos MacosHost.Stops
  simp only [exec_bind, exec_modify, exec_get, MacosHost.onHost]
  by_cases hconnected : m.macosSystemConnected = true
  · simp only [hconnected, if_true]
    cases o.stopProfile with
    | error error => simp [exec_bind]
    | ok _ => cases o.configPath <;> simp [exec_bind]
  · simp only [hconnected]
    cases hpid : m.privilegedPid with
    | none => simp [exec_bind, stopMacosChild_succeeds, Host.stopStatsPolling]
    | some pid => cases o.configPath <;> simp [exec_bind]

end Desktop

namespace Android

theorem stopMobile_succeeds (e : MobileEngine) (registered : Bool) (native : Except String Unit) :
    Succeeds (exec (MobileEngine.stopMobile registered native) e).1 ↔
      e.mobileConnected = true ∧ registered = true ∧ Succeeds native := by
  unfold MobileEngine.stopMobile
  simp only [exec_bind, exec_get]
  cases e.mobileConnected with
  | false => simp
  | true =>
    cases registered with
    | false => simp
    | true => cases native <;> simp [exec_bind, Except.mapError]

/-- The outcomes of the steps of `start_mobile`. -/
structure MobileStartSteps where
  before : StartMobileOutcomes
  native : Except String Unit
  answers : List (Except String Bool)

/-- Whether the plugin is registered, and what its `stopNativeVpn` answers. -/
structure MobileStopSteps where
  registered : Bool
  native : Except String Unit

end Android

/-! ### The targets -/

def desktopEngine (os : DesktopOs) : Engine where
  State := Host
  StartSteps := StartOutcomes
  StopSteps := StopOutcomes
  start := startDesktop os
  stop := stopDesktop os
  Stops host o := host.engine.child ≠ none ∧ o.kill = .killed ∧ Succeeds o.configPath ∧
    (os = .windows → Succeeds o.cleanup)
  stop_succeeds := stopDesktop_succeeds os

def macosEngine : Engine where
  State := MacosHost
  StartSteps := MacosStartOutcomes
  StopSteps := MacosStopOutcomes
  start := startMacos
  stop := stopMacos
  Stops := MacosHost.Stops
  stop_succeeds := stopMacos_succeeds

/-- Android and iOS differ in what `check_platform_requirements` warns of. -/
def mobileEngine (warnings : List String) : Engine where
  State := MobileEngine
  StartSteps := MobileStartSteps
  StopSteps := MobileStopSteps
  start o options := do
    let _ ← MobileEngine.startMobile options o.before o.native o.answers
    return warnings
  stop o := MobileEngine.stopMobile o.registered o.native
  Stops e o := e.mobileConnected = true ∧ o.registered = true ∧ Succeeds o.native
  stop_succeeds e o := stopMobile_succeeds e o.registered o.native

def TargetOs.engine : TargetOs → Engine
  | .windows => desktopEngine .windows
  | .linux => desktopEngine .linux
  | .macos => macosEngine
  | .android => mobileEngine ["Android requires VpnService consent before connecting"]
  | .ios => mobileEngine ["iOS requires NetworkExtension entitlements and an app group"]

/-- On every target, and whatever the engine holds to begin with: every command of a
sequence returns with a settled phase exactly when every `disconnect` in it finds
something to stop and stops it. -/
theorem returns_settled_iff (os : TargetOs) (engine : os.engine.State) (commands : List (Command os.engine)) :
    StepSystem.AfterEach VpnState.step VpnState.ReturnsSettled { engine } commands ↔
      StepSystem.Guarded VpnState.step VpnState.DisconnectStops { engine } commands := by
  have hsteps : ∀ (s : VpnState os.engine) command t, s.Settled → s.step command = some t →
      (VpnState.ReturnsSettled s command t ↔ s.DisconnectStops command) ∧
        (s.DisconnectStops command → t.Settled) := by
    intro s command t h hstep
    have hreturns := VpnState.returnsSettled_iff h hstep
    exact ⟨hreturns, fun hstops => (hreturns.mpr hstops).1⟩
  obtain ⟨t, hrun⟩ : ∃ t, StepSystem.run VpnState.step { engine } commands = some t := VpnState.run_total _ _
  exact StepSystem.afterEach_iff_guarded VpnState.Settled hsteps (Or.inl rfl) hrun

def newDesktop : VpnState TargetOs.linux.engine := { engine := ({} : Host) }

def newPhone : VpnState TargetOs.android.engine := { engine := ({} : MobileEngine) }

def plainStop : StopOutcomes := ⟨.killed, .ok "sing-box.generated.json", .ok ()⟩

/-- A `disconnect` with nothing running returns `NotRunning`, and the status says
`Disconnecting` from then on, on a desktop and on a phone alike. -/
theorem disconnecting_for_good :
    ((newDesktop.disconnect plainStop).1 = .error .notRunning ∧
        (newDesktop.disconnect plainStop).2.status.phase = .disconnecting) ∧
      ((newPhone.disconnect ⟨true, .ok ()⟩).1 = .error .notRunning ∧
        (newPhone.disconnect ⟨true, .ok ()⟩).2.status.phase = .disconnecting) ∧
      ¬StepSystem.AfterEach VpnState.step VpnState.ReturnsSettled newDesktop [.disconnect plainStop] ∧
      ¬StepSystem.AfterEach VpnState.step VpnState.ReturnsSettled newPhone [.disconnect ⟨true, .ok ()⟩] := by
  refine ⟨⟨rfl, rfl⟩, ⟨rfl, rfl⟩, fun h => ?_, fun h => ?_⟩
  · exact ((h _ rfl).1.2 plainStop rfl rfl).2 rfl
  · exact ((h _ rfl).1.2 ⟨true, .ok ()⟩ rfl rfl).2 rfl

end TauriVpn
