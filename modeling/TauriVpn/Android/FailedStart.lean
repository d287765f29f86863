import TauriVpn.Android.App
import TauriVpn.Lib.Fallible

/-! What a failed start leaves behind. `start_mobile` asks the native side for a tunnel
and polls until it is up or the time is over; when the time is over it returns the
error and does not take the request back. -/

namespace TauriVpn.Android

open Fallible

/-- A call that starts or stops the native side, by whether it was accepted. -/
inductive NativeCall where
  | startNativeVpn (accepted : Bool)
  | stopNativeVpn (accepted : Bool)
  deriving DecidableEq

/-- `mobile_connected`, and the native calls that were made. -/
structure MobileEngine where
  mobileConnected : Bool := false
  calls : List NativeCall := []
  deriving DecidableEq

/-- A native start was accepted, and no stop was called after it. -/
def Outstanding (calls : List NativeCall) : Prop :=
  ∃ before after, calls = before ++ .startNativeVpn true :: after ∧ ∀ accepted, .stopNativeVpn accepted ∉ after

namespace MobileEngine

def called (e : MobileEngine) (call : NativeCall) : MobileEngine := { e with calls := e.calls ++ [call] }

/-- `wait_for_mobile_system_tunnel`, by the answers to its status queries until the time
is over; the last error so far goes into the message. -/
def waitForMobileSystemTunnel : Option String → List (Except String Bool) → Except VpnError Unit
  | lastError, [] => .error (.platform
      ("mobile system VPN tunnel did not become connected within 20 seconds." ++
        ((lastError.map fun error => " Last status error: " ++ error).getD "")))
  | _, .ok true :: _ => .ok ()
  | lastError, .ok false :: answers => waitForMobileSystemTunnel lastError answers
  | _, .error error :: answers => waitForMobileSystemTunnel (some error) answers

/-- `start_mobile`. -/
def startMobile (options : ConnectOptions) (o : StartMobileOutcomes) (native : Except String Unit)
    (answers : List (Except String Bool)) : Fallible VpnError MobileEngine (List String) := do
  let e ← get
  let (warnings, _) ← liftM (Android.startMobile options e.mobileConnected o)
  modify fun e => e.called (.startNativeVpn native.isOk)
  liftM (native.mapError fun error => VpnError.platform ("native VPN start failed: " ++ error))
  liftM (waitForMobileSystemTunnel none answers)
  modify fun e => { e with mobileConnected := true }
  return warnings

/-- `stop_mobile`. -/
def stopMobile (registered : Bool) (native : Except String Unit) : Fallible VpnError MobileEngine Unit := do
  let e ← get
  if !e.mobileConnected then
    throw .notRunning
  if !registered then
    throw (.platform "native VPN plugin is not registered for this mobile platform")
  modify fun e => e.called (.stopNativeVpn native.isOk)
  liftM (native.mapError fun error => VpnError.platform ("native VPN stop failed: " ++ error))
  modify fun e => { e with mobileConnected := false }

/-! ### Runs of `start_mobile` -/

theorem waitForMobileSystemTunnel_error_iff (answers : List (Except String Bool)) (lastError : Option String) :
    (∃ error, waitForMobileSystemTunnel lastError answers = .error error) ↔ .ok true ∉ answers := by
  induction answers generalizing lastError with
  | nil => simp [waitForMobileSystemTunnel]
  | cons answer answers ih =>
    cases answer with
    | error error => simp [waitForMobileSystemTunnel, ih]
    | ok established =>
      cases established with
      | true => simp [waitForMobileSystemTunnel]
      | false => simp [waitForMobileSystemTunnel, ih]

/-- The steps before the native call succeed. -/
theorem startMobile_ok_iff (options : ConnectOptions) (mobileConnected : Bool) (o : StartMobileOutcomes) :
    (∃ started, Android.startMobile options mobileConnected o = .ok started) ↔
      options.profile.protocol ≠ .olcRtc ∧ mobileConnected = false ∧ (∃ config, o.config = .ok config) ∧
        (∃ text, o.serialize = .ok text) ∧ o.registered = true := by
  unfold Android.startMobile
  simp only [bind, Except.bind, throw, throwThe, MonadExceptOf.throw, pure, Except.pure]
  by_cases hprotocol : options.profile.protocol = .olcRtc
  · simp [hprotocol]
  · cases mobileConnected with
    | true => simp [hprotocol]
    | false =>
      cases hconfig : o.config with
      | error error => simp [hprotocol]
      | ok config =>
        cases hserialize : o.serialize with
        | error error => simp [hprotocol, Except.mapError]
        | ok text =>
          cases hregistered : o.registered with
          | true => simp [hprotocol, Except.mapError]
          | false => simp [hprotocol, Except.mapError]

section Exec
variable {options : ConnectOptions} {o : StartMobileOutcomes} {native : Except String Unit}
  {answers : List (Except String Bool)} {s : MobileEngine}

/-- What `start_mobile` returns and leaves behind, by how far it comes. -/
theorem exec_startMobile (s : MobileEngine) : exec (startMobile options o native answers) s =
    match Android.startMobile options s.mobileConnected o with
    | .error error => (.error error, s)
    | .ok (warnings, _) =>
      match native with
      | .error error =>
        (.error (.platform ("native VPN start failed: " ++ error)), s.called (.startNativeVpn false))
      | .ok _ =>
        match waitForMobileSystemTunnel none answers with
        | .error error => (.error error, s.called (.startNativeVpn true))
        | .ok _ => (.ok warnings, { s.called (.startNativeVpn true) with mobileConnected := true }) := by
  unfold startMobile
  rw [exec_bind, exec_get]
  dsimp only
  rw [exec_bind, exec_liftM]
  cases Android.startMobile options s.mobileConnected o with
  | error error => rfl
  | ok started =>
    dsimp only
    rw [exec_bind, exec_modify]
    dsimp only
    rw [exec_bind, exec_liftM]
    cases native with
    | error error => rfl
    | ok _ =>
      dsimp only [Except.mapError]
      rw [exec_bind, exec_liftM]
      cases waitForMobileSystemTunnel none answers with
      | error error => rfl
      | ok _ => rfl

end Exec

theorem outstanding_singleton (accepted : Bool) :
    Outstanding [.startNativeVpn accepted] ↔ accepted = true := by
  constructor
  · rintro ⟨before, after, heq, -⟩
    cases before with
    | nil => exact NativeCall.startNativeVpn.inj (List.cons.inj heq).1
    | cons first before => exact absurd (congrArg List.length heq) (by simp)
  · rintro rfl
    exact ⟨[], [], rfl, fun _ hmem => nomatch hmem⟩

theorem not_outstanding_nil : ¬Outstanding [] := by
  rintro ⟨before, after, heq, -⟩
  exact absurd (congrArg List.length heq) (by simp)

/-- The native side accepts a start, and does not report its tunnel while `start_mobile` waits. -/
def TunnelLate (options : ConnectOptions) (mobileConnected : Bool) (o : StartMobileOutcomes)
    (native : Except String Unit) (answers : List (Except String Bool)) : Prop :=
  (options.profile.protocol ≠ .olcRtc ∧ mobileConnected = false ∧ (∃ config, o.config = .ok config) ∧
      (∃ text, o.serialize = .ok text) ∧ o.registered = true) ∧
    native = .ok () ∧ .ok true ∉ answers

theorem TunnelLate.exec_startMobile {options : ConnectOptions} {mobileConnected : Bool}
    {o : StartMobileOutcomes} {native : Except String Unit} {answers : List (Except String Bool)}
    (h : TunnelLate options mobileConnected o native answers) :
    ∃ error warnings config, Android.startMobile options mobileConnected o = .ok (warnings, config) ∧
      waitForMobileSystemTunnel none answers = .error error ∧
      exec (startMobile options o native answers) { mobileConnected } =
        (.error error, { mobileConnected, calls := [.startNativeVpn true] }) := by
  obtain ⟨hbefore, rfl, hlate⟩ := h
  obtain ⟨⟨warnings, config⟩, hstarted⟩ := (startMobile_ok_iff _ _ _).mpr hbefore
  obtain ⟨error, herror⟩ := (waitForMobileSystemTunnel_error_iff answers none).mpr hlate
  refine ⟨error, warnings, config, hstarted, herror, ?_⟩
  rw [MobileEngine.exec_startMobile]
  simp only [hstarted, herror]
  rfl

/-- The disconnect that follows answers `NotRunning` and calls nothing. -/
theorem TunnelLate.stopMobile {options : ConnectOptions} {mobileConnected : Bool}
    {o : StartMobileOutcomes} {native : Except String Unit} {answers : List (Except String Bool)}
    (h : TunnelLate options mobileConnected o native answers) (registered : Bool) (stop : Except String Unit) :
    exec (stopMobile registered stop) (exec (startMobile options o native answers) { mobileConnected }).2 =
      (.error .notRunning, (exec (startMobile options o native answers) { mobileConnected }).2) := by
  obtain ⟨error, -, -, -, -, hexec⟩ := h.exec_startMobile
  obtain rfl : mobileConnected = false := h.1.2.1
  rw [hexec]
  rfl

/-- A failed `start_mobile` leaves no native start outstanding, except exactly where the
native side accepted it and was late with the tunnel. -/
theorem failed_start_leaves_nothing_iff (options : ConnectOptions) (mobileConnected : Bool)
    (o : StartMobileOutcomes) (native : Except String Unit) (answers : List (Except String Bool)) :
    ((∃ error, (exec (startMobile options o native answers) { mobileConnected }).1 = .error error) →
        ¬Outstanding (exec (startMobile options o native answers) { mobileConnected }).2.calls) ↔
      ¬TunnelLate options mobileConnected o native answers := by
  unfold TunnelLate
  rw [exec_startMobile, ← startMobile_ok_iff]
  cases Android.startMobile options mobileConnected o with
  | error error => simp [not_outstanding_nil]
  | ok started =>
    cases native with
    | error error => simp [called, outstanding_singleton]
    | ok _ =>
      have hwait := waitForMobileSystemTunnel_error_iff answers none
      cases hresult : waitForMobileSystemTunnel none answers with
      | error error =>
        rw [hresult] at hwait
        have hlate := hwait.mp ⟨error, rfl⟩
        simp [called, outstanding_singleton, hlate]
      | ok _ =>
        rw [hresult] at hwait
        have hup : .ok true ∈ answers := by
          by_contra hnot
          obtain ⟨error, herror⟩ := hwait.mpr hnot
          cases herror
        simp [hup]

end MobileEngine

/-! ### The app after a failed start -/

namespace App

open MobileEngine

theorem waitForMobileSystemTunnel_error {answers : List (Except String Bool)} {lastError : Option String}
    {error : VpnError} (h : waitForMobileSystemTunnel lastError answers = .error error) :
    ∃ detail, error = .platform
      ("mobile system VPN tunnel did not become connected within 20 seconds." ++ detail) := by
  induction answers generalizing lastError with
  | nil => exact ⟨_, (Except.error.inj h).symm⟩
  | cons answer answers ih =>
    cases answer with
    | error error => exact ih h
    | ok established =>
      cases established with
      | true => cases h
      | false => exact ih h

/-- A start that fails for a late tunnel, as steps of the app. -/
theorem run_failed_start (s : App) (i : ℕ) (options : ConnectOptions) (o : StartMobileOutcomes)
    (native : Except String Unit) (answers : List (Except String Bool))
    (hcall : s.calls i = some (.connect options .starting))
    (hlate : TunnelLate options s.mobileConnected o native answers) :
    ∃ error detail t, (exec (MobileEngine.startMobile options o native answers)
        { mobileConnected := s.mobileConnected }).1 = .error error ∧
      StepSystem.run step s [.startMobile i o, .startNativeVpn i native, .startTimesOut i detail] = some t ∧
      t.calls i = some (.connectFailed error) := by
  obtain ⟨error, warnings, config, hstarted, hwait, hexec⟩ := hlate.exec_startMobile
  obtain ⟨detail, rfl⟩ := waitForMobileSystemTunnel_error hwait
  obtain rfl : native = .ok () := hlate.2.1
  let requesting := s.setCall i (some (.connect options (.requesting warnings config)))
  have hmobile : s.step (.startMobile i o) = some requesting := by
    show s.startMobile i o = some requesting
    unfold App.startMobile
    rw [hcall]
    dsimp only
    rw [hstarted]
  let waiting := (requesting.startVpn config options.profile.id).setCall i
    (some (.connect options (.waiting warnings config)))
  have hnative : requesting.step (.startNativeVpn i (.ok ())) = some waiting := by
    have hrequesting : requesting.calls i = some (.connect options (.requesting warnings config)) :=
      setCall_self _ _ _
    show requesting.startNativeVpn i (.ok ()) = some waiting
    unfold App.startNativeVpn
    rw [hrequesting]
  have htimeout : waiting.step (.startTimesOut i detail) = some (waiting.setCall i (some (.connectFailed
      (.platform ("mobile system VPN tunnel did not become connected within 20 seconds." ++ detail))))) := by
    have hwaiting : waiting.calls i = some (.connect options (.waiting warnings config)) := setCall_self _ _ _
    show waiting.startTimesOut i detail = _
    unfold App.startTimesOut
    rw [hwaiting]
  refine ⟨_, detail, waiting.setCall i _, congrArg Prod.fst hexec, ?_, setCall_self _ _ _⟩
  rw [StepSystem.run_cons hmobile, StepSystem.run_cons hnative, StepSystem.run_cons htimeout, StepSystem.run_nil]

/-- The tunnel of a failed start comes up late: the status says `Failed`, and a
disconnect leaves the tunnel and asks for no stop. -/
theorem late_tunnel (s : App) (i j : ℕ) (error : VpnError) (registered : Bool)
    (hcall : s.calls i = some (.connectFailed error)) (hquery : s.query = none)
    (hmobile : s.mobileConnected = false) (hfree : s.calls j = none) (hcore : s.service.core.isSome = true) :
    ∃ t u, StepSystem.run step s [.connectReturns i, .tunUp] = some t ∧ t.status.phase = .failed ∧
      t.service.tunEstablished = true ∧
      StepSystem.run step t [.disconnect j, .stopMobile j registered] = some u ∧
      u.service = t.service ∧ u.intents = t.intents ∧ u.calls j = none := by
  have hij : j ≠ i := fun heq => by rw [heq, hcall] at hfree; cases hfree
  let failed := ({ s with status := s.status.endConnect (.error error) } : App).setCall i none
  have hreturns : s.step (.connectReturns i) = some failed := by
    show s.connectReturns i = some failed
    unfold App.connectReturns
    rw [if_neg (by simp [hquery]), hcall]
  let up : App := { failed with service := { failed.service with tunEstablished := true } }
  have htun : failed.step .tunUp = some up := if_pos hcore
  let stopping := ({ up with status := up.status.beginDisconnect } : App).setCall j (some .disconnectStopping)
  have hdisconnect : up.step (.disconnect j) = some stopping := by
    refine if_neg ?_
    have hnone : up.calls j = none := (setCall_of_ne _ _ hij).trans hfree
    have hnoquery : up.query = none := hquery
    simp [hnone, hnoquery]
  have hstop : stopping.step (.stopMobile j registered) = some (stopping.setCall j none) := by
    have hstopping : stopping.calls j = some .disconnectStopping := setCall_self _ _ _
    have hdown : stopping.mobileConnected = false := hmobile
    show stopping.stopMobile j registered = _
    unfold App.stopMobile
    rw [hstopping]
    simp [hdown]
  refine ⟨up, stopping.setCall j none, ?_, rfl, rfl, ?_, rfl, rfl, setCall_self _ _ _⟩
  · rw [StepSystem.run_cons hreturns, StepSystem.run_cons htun, StepSystem.run_nil]
  · rw [StepSystem.run_cons hdisconnect, StepSystem.run_cons hstop, StepSystem.run_nil]

/-! ### One run -/

def lateOptions : ConnectOptions where
  profile := {
    id := 1, name := "VLESS", protocol := .vless, server := "vpn.example", port := 443, auth := {} }

def lateOutcomes : StartMobileOutcomes :=
  { config := .ok .null, serialize := .ok ⟨"config", by decide⟩, registered := true }

/-- The native side accepts the start and answers once that the tunnel is not up; it
comes up after `connect` has returned the error, and a disconnect does not stop it. -/
theorem tunnel_after_failed_start :
    ((∃ error, (exec (MobileEngine.startMobile lateOptions lateOutcomes (.ok ()) [.ok false]) {}).1 = .error error) ∧
      Outstanding (exec (MobileEngine.startMobile lateOptions lateOutcomes (.ok ()) [.ok false]) {}).2.calls) ∧
    ∃ t u, StepSystem.run step {} [.connect 0 lateOptions, .startMobile 0 lateOutcomes,
        .startNativeVpn 0 (.ok ()), .deliverIntent true, .pollStatus 0, .startTimesOut 0 "", .connectReturns 0,
        .tunUp] = some t ∧
      t.status.phase = .failed ∧ t.service.tunEstablished = true ∧
      StepSystem.run step t [.disconnect 1, .stopMobile 1 true] = some u ∧
      u.service.tunEstablished = true ∧ u.intents = [] ∧ u.calls 1 = none :=
  ⟨⟨⟨_, rfl⟩, [], [], rfl, fun _ hmem => nomatch hmem⟩, _, _, rfl, rfl, rfl, rfl, rfl, rfl, rfl⟩

end App

end TauriVpn.Android
