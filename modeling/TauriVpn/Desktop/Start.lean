import TauriVpn.Desktop.Engine
import TauriVpn.Json
import TauriVpn.Olcrtc.Config
import TauriVpn.Olcrtc.Mux

/-! `start_desktop` and the runtime it may start, over every outcome of the steps
that can fail. -/

namespace TauriVpn.Desktop

open Fallible Olcrtc

/-! ### What the steps answer -/

/-- The fallible steps of `OlcRtcRuntime::start`. -/
structure OlcRtcOutcomes where
  parseAddr : Except String Unit
  bind : Except String Unit
  cipher : Except VpnError Unit
  connect : Except VpnError Unit
  clientId : UInt32
  send : SendFn

/-- An exit status, as it is displayed. -/
abbrev ExitStatus := String

/-- One look at the process and its ports while it starts. -/
structure Probe where
  tryWait : Except String (Option ExitStatus)
  proxyPort : Bool
  clashPort : Bool
  tryWaitAgain : Except String (Option ExitStatus)

/-- The fallible steps of `start_desktop`. -/
structure StartOutcomes where
  elevated : Bool
  config : Except VpnError Value
  serialize : Except String String
  configPath : Except VpnError String
  coreBinary : Except VpnError String
  tunPermissions : Except VpnError Unit
  checkConfig : Except VpnError Unit
  cleanup : Except VpnError Unit
  olcrtc : OlcRtcOutcomes
  coreBinaryAgain : Except VpnError String
  spawn : Except String Unit
  assignJob : Except VpnError WindowsJob
  probes : ℕ → Probe
  tryWaitLast : Except String (Option ExitStatus)

/-! ### The steps -/

/-- `check_platform_requirements`. -/
def checkPlatformRequirements (os : DesktopOs) (elevated : Bool) : Except VpnError (List String) :=
  match os with
  | .windows =>
    if elevated then
      .ok []
    else
      .error (.platform "Windows TUN mode requires running KOSTRA VPN as Administrator")
  | .linux => .ok ["Linux TUN mode may require CAP_NET_ADMIN or root privileges"]

/-- `ensure_linux_tun_permissions`, which checks nothing on Windows. -/
def ensureLinuxTunPermissions (os : DesktopOs) (outcome : Except VpnError Unit) :
    Except VpnError Unit :=
  match os with
  | .linux => outcome
  | .windows => .ok ()

/-- What `start_desktop` does before it acquires anything; the result is the warnings. -/
def prepare (os : DesktopOs) (o : StartOutcomes) : Except VpnError (List String) := do
  let warnings ← checkPlatformRequirements os o.elevated
  let _ ← o.config
  let _ ← o.serialize.mapError fun error => .engine ("failed to serialize config: " ++ error)
  let _ ← o.configPath
  let _ ← o.coreBinary
  ensureLinuxTunPermissions os o.tunPermissions
  o.checkConfig
  cleanupDesktopArtifacts os o.cleanup
  return warnings

/-- The steps of `start_platform` up to the connected peer. -/
def connectPeer (o : OlcRtcOutcomes) (config : OlcRtcConfig) : Except VpnError Unit := do
  if config.provider ≠ defaultProvider then
    throw (.unsupported ("unsupported OLC RTC provider " ++ config.provider))
  o.parseAddr.mapError fun error => .invalidProfile ("invalid OLC RTC local address: " ++ error)
  o.bind.mapError fun error => .engine ("OLC RTC SOCKS5 bind failed: " ++ error)
  o.cipher
  o.connect

/-- `send_client_reset` on the multiplexer that was just made. -/
def sendReset (o : OlcRtcOutcomes) : Except VpnError Unit :=
  ((Multiplexer.new o.clientId).sendClientReset o.send).result

/-- `OlcRtcRuntime::start`, that is `start_platform`. -/
def startRuntime (o : OlcRtcOutcomes) (config : OlcRtcConfig) :
    Fallible VpnError Host OlcRtcRuntime := do
  connectPeer o config
  let peer := (← get).peers.length
  modify (Host.addPeer {})
  sendReset o
  modify fun host =>
    { host with peers := host.peers.modify peer fun p => { p with accepting := true } }
  return ⟨peer⟩

/-- The runtime that an OLC RTC profile needs; none for the others. -/
def startRuntimeFor (o : OlcRtcOutcomes) (profile : VpnProfile) :
    Fallible VpnError Host (Option OlcRtcRuntime) := do
  if profile.protocol = .olcRtc then
    let config ← OlcRtcConfig.fromProfile profile
    let runtime ← startRuntime o config
    return some runtime
  else
    return none

def inspect (answer : Except String (Option ExitStatus)) : Except VpnError (Option ExitStatus) :=
  answer.mapError fun error => .engine ("failed to inspect sing-box process: " ++ error)

/-- The loop of `wait_for_desktop_readiness`, with `attempts` looks left. -/
def readinessLoop (o : StartOutcomes) (attempts i : ℕ) : Except VpnError (Option ExitStatus) :=
  match attempts with
  | 0 => do
    match ← inspect o.tryWaitLast with
    | some status => return some status
    | none => throw (.engine "sing-box did not open local proxy ports during startup")
  | attempts + 1 => do
    match ← inspect (o.probes i).tryWait with
    | some status => return some status
    | none =>
      if (o.probes i).proxyPort || (o.probes i).clashPort then
        inspect (o.probes i).tryWaitAgain
      else
        readinessLoop o attempts (i + 1)

/-- `wait_for_desktop_readiness`: the exit status of a process that did not stay. -/
def waitForDesktopReadiness (o : StartOutcomes) : Except VpnError (Option ExitStatus) :=
  readinessLoop o 20 0

/-- The look finds the process running and no port open. -/
def Probe.Undecided (p : Probe) : Prop :=
  p.tryWait = .ok none ∧ p.proxyPort = false ∧ p.clashPort = false

/-- The process cannot be inspected, at once or after a port was found open. -/
def Probe.Breaks (p : Probe) : Prop :=
  (∃ error, p.tryWait = .error error) ∨
    (p.tryWait = .ok none ∧ (p.proxyPort || p.clashPort) = true ∧ ∃ error, p.tryWaitAgain = .error error)

theorem inspect_eq_error_iff {answer : Except String (Option ExitStatus)} :
    (∃ error, inspect answer = .error error) ↔ ∃ error, answer = .error error := by
  cases answer <;> simp [inspect, Except.mapError]

theorem readinessLoop_zero (o : StartOutcomes) (i : ℕ) :
    readinessLoop o 0 i = match inspect o.tryWaitLast with
      | .error error => .error error
      | .ok (some status) => .ok (some status)
      | .ok none => .error (.engine "sing-box did not open local proxy ports during startup") := by
  rw [readinessLoop]
  cases inspect o.tryWaitLast with
  | error error => rfl
  | ok status => cases status <;> rfl

/-- One look of the loop. -/
theorem readinessLoop_succ (o : StartOutcomes) (attempts i : ℕ) :
    readinessLoop o (attempts + 1) i = match inspect (o.probes i).tryWait with
      | .error error => .error error
      | .ok (some status) => .ok (some status)
      | .ok none =>
        if (o.probes i).proxyPort || (o.probes i).clashPort then
          inspect (o.probes i).tryWaitAgain
        else
          readinessLoop o attempts (i + 1) := by
  rw [readinessLoop]
  cases inspect (o.probes i).tryWait with
  | error error => rfl
  | ok status => cases status <;> rfl

/-- The loop fails when a look breaks before one decides, or when none decides and
the last inspection finds no exit. -/
theorem readinessLoop_error_iff (o : StartOutcomes) (attempts i : ℕ) :
    (∃ error, readinessLoop o attempts i = .error error) ↔
      (∃ j < attempts, (∀ k < j, (o.probes (i + k)).Undecided) ∧ (o.probes (i + j)).Breaks) ∨
        ((∀ k < attempts, (o.probes (i + k)).Undecided) ∧ ∀ status, o.tryWaitLast ≠ .ok (some status)) := by
  induction attempts generalizing i with
  | zero =>
    rw [readinessLoop_zero]
    rcases o.tryWaitLast with error | status
    · simp [inspect, Except.mapError]
    · cases status with
      | none => simp [inspect, Except.mapError]
      | some status => simp [inspect, Except.mapError]
  | succ attempts ih =>
    -- the look at `i` comes first on both sides
    simp only [Nat.exists_lt_succ_left, Nat.forall_lt_succ_left, Nat.add_zero, ← Nat.add_assoc,
      Nat.add_right_comm i _ 1]
    rw [readinessLoop_succ]
    cases hwait : (o.probes i).tryWait with
    | error error =>
      have hbreaks : (o.probes i).Breaks := Or.inl ⟨error, hwait⟩
      simp [inspect, Except.mapError, hbreaks]
    | ok status =>
      have hinspect : inspect (.ok status) = .ok status := rfl
      rw [hinspect]
      cases status with
      | some status =>
        have hnot : ¬(o.probes i).Undecided ∧ ¬(o.probes i).Breaks := by
          simp [Probe.Undecided, Probe.Breaks, hwait]
        simp [hnot]
      | none =>
        by_cases hport : ((o.probes i).proxyPort || (o.probes i).clashPort) = true
        · have hnot : ¬(o.probes i).Undecided := by
            rintro ⟨-, hproxy, hclash⟩
            rw [hproxy, hclash] at hport
            cases hport
          have hbreaks : (o.probes i).Breaks ↔ ∃ error, (o.probes i).tryWaitAgain = .error error := by
            simp only [Probe.Breaks, hwait, hport]
            simp
          rw [hbreaks, ← inspect_eq_error_iff]
          simp [hport, hnot]
        · have hclosed : (o.probes i).proxyPort = false ∧ (o.probes i).clashPort = false := by
            simpa using hport
          have hundecided : (o.probes i).Undecided := ⟨hwait, hclosed⟩
          have hnot : ¬(o.probes i).Breaks := by
            simp [Probe.Breaks, hwait, hclosed]
          have hloop : (∃ error, readinessLoop o attempts (i + 1) = .error error) ↔ _ := ih (i + 1)
          simp [hport, hnot, hundecided, hloop]

/-- The part of `start_desktop` that starts the process. -/
def launch (os : DesktopOs) (o : StartOutcomes) (options : ConnectOptions) (warnings : List String)
    (runtime : Option OlcRtcRuntime) : Fallible VpnError Host (List String) := do
  match o.coreBinaryAgain with
  | .error error =>
    -- `?` drops the runtime
    modify (Host.dropRuntime? runtime)
    throw error
  | .ok binary =>
    match o.spawn with
    | .ok _ =>
      modify (Host.attachJob os o.assignJob)
      match waitForDesktopReadiness o with
      | .error error =>
        -- `?` again; the job is in the engine and stays there
        modify (Host.dropRuntime? runtime)
        throw error
      | .ok (some status) =>
        modify (Host.stopRuntime? runtime)
        modify (Host.takeWindowsJob os)
        throw (.engine ("sing-box exited during startup with status " ++ status ++
          ". Check vpn logs for details."))
      | .ok none =>
        modify (Host.setChild (some ⟨options.profile.id⟩))
        modify (Host.replaceOlcrtc runtime)
        modify Host.startStatsPolling
        return warnings
    | .error error =>
      modify (Host.stopRuntime? runtime)
      throw (.engine ("failed to start bundled sing-box core at " ++ binary ++ ": " ++ error))

/-- `start_desktop`. -/
def startDesktop (os : DesktopOs) (o : StartOutcomes) (options : ConnectOptions) :
    Fallible VpnError Host (List String) := do
  if (← get).engine.child.isSome then
    throw .alreadyRunning
  let warnings ← prepare os o
  let runtime ← startRuntimeFor o.olcrtc options.profile
  launch os o options warnings runtime

/-! ### What each part leaves behind -/

section Parts
variable (os : DesktopOs) (o : StartOutcomes) (options : ConnectOptions) (host : Host)

theorem startRuntime_exec (olc : OlcRtcOutcomes) (config : OlcRtcConfig) :
    exec (startRuntime olc config) host =
      match connectPeer olc config, sendReset olc with
      | .error error, _ => (.error error, host)
      | .ok _, .error error => (.error error, host.addPeer {})
      | .ok _, .ok _ => (.ok ⟨host.peers.length⟩, host.addPeer { accepting := true }) := by
  unfold startRuntime
  cases hconnect : connectPeer olc config with
  | error error => rw [exec_bind, exec_liftM]
  | ok _ =>
    cases hreset : sendReset olc with
    | error error => simp [exec_bind]
    | ok _ =>
      simp only [exec_bind, exec_liftM, exec_get, exec_modify, exec_pure, Host.modify_last_peer]
      rfl

/-- The profile needs a runtime, and every step up to its connected peer succeeds. -/
def PeerConnects (olc : OlcRtcOutcomes) (profile : VpnProfile) : Prop :=
  profile.protocol = .olcRtc ∧
    ∃ config, OlcRtcConfig.fromProfile profile = .ok config ∧ connectPeer olc config = .ok ()

/-- The four ways the runtime's part can go: not needed, failed before a peer was
connected, failed after that, started. -/
theorem startRuntimeFor_cases (olc : OlcRtcOutcomes) (profile : VpnProfile) :
    (profile.protocol ≠ .olcRtc ∧ exec (startRuntimeFor olc profile) host = (.ok none, host)) ∨
    (¬PeerConnects olc profile ∧ profile.protocol = .olcRtc ∧
      ∃ error, exec (startRuntimeFor olc profile) host = (.error error, host)) ∨
    (PeerConnects olc profile ∧ ∃ error, sendReset olc = .error error ∧
      exec (startRuntimeFor olc profile) host = (.error error, host.addPeer {})) ∨
    (PeerConnects olc profile ∧ sendReset olc = .ok () ∧
      exec (startRuntimeFor olc profile) host =
        (.ok (some ⟨host.peers.length⟩), host.addPeer { accepting := true })) := by
  unfold startRuntimeFor
  by_cases hp : profile.protocol = .olcRtc
  · rw [if_pos hp]
    right
    cases hconfig : OlcRtcConfig.fromProfile profile with
    | error error =>
      refine Or.inl ⟨?_, hp, error, by rw [exec_bind, exec_liftM]⟩
      rintro ⟨-, config, h, -⟩
      rw [hconfig] at h
      cases h
    | ok config =>
      rw [exec_bind, exec_liftM]
      simp only [exec_bind, startRuntime_exec]
      cases hconnect : connectPeer olc config with
      | error error =>
        refine Or.inl ⟨?_, hp, error, rfl⟩
        rintro ⟨-, config', h, h'⟩
        rw [hconfig] at h
        cases h
        rw [hconnect] at h'
        cases h'
      | ok _ =>
        have hpeer : PeerConnects olc profile := ⟨hp, config, hconfig, hconnect⟩
        cases hreset : sendReset olc with
        | error error => exact Or.inr (Or.inl ⟨hpeer, error, rfl, rfl⟩)
        | ok _ => exact Or.inr (Or.inr ⟨hpeer, rfl, rfl⟩)
  · exact Or.inl ⟨hp, by rw [if_neg hp, exec_pure]⟩

theorem launch_exec (warnings : List String) (runtime : Option OlcRtcRuntime) :
    exec (launch os o options warnings runtime) host =
      match o.coreBinaryAgain with
      | .error error => (.error error, host.dropRuntime? runtime)
      | .ok binary =>
        match o.spawn with
        | .error error =>
          (.error (.engine ("failed to start bundled sing-box core at " ++ binary ++ ": " ++ error)),
            host.stopRuntime? runtime)
        | .ok _ =>
          match waitForDesktopReadiness o with
          | .error error => (.error error, (host.attachJob os o.assignJob).dropRuntime? runtime)
          | .ok (some status) =>
            (.error (.engine ("sing-box exited during startup with status " ++ status ++
                ". Check vpn logs for details.")),
              ((host.attachJob os o.assignJob).stopRuntime? runtime).takeWindowsJob os)
          | .ok none =>
            (.ok warnings, (((host.attachJob os o.assignJob).setChild
              (some ⟨options.profile.id⟩)).replaceOlcrtc runtime).startStatsPolling) := by
  unfold launch
  cases o.coreBinaryAgain with
  | error error => simp only [exec_bind, exec_modify, exec_throw]
  | ok binary =>
    cases o.spawn with
    | error error => simp only [exec_bind, exec_modify, exec_throw]
    | ok _ =>
      simp only [exec_bind, exec_modify]
      cases waitForDesktopReadiness o with
      | error error => simp only [exec_bind, exec_modify, exec_throw]
      | ok status =>
        cases status with
        | none => simp only [exec_bind, exec_modify, exec_pure]
        | some status => simp only [exec_bind, exec_modify, exec_throw]

theorem startDesktop_exec (hchild : host.engine.child = none) :
    exec (startDesktop os o options) host =
      exec (do
        let warnings ← prepare os o
        let runtime ← startRuntimeFor o.olcrtc options.profile
        launch os o options warnings runtime : Fallible VpnError Host (List String)) host := by
  unfold startDesktop
  rw [exec_bind, exec_get]
  simp only [hchild, Option.isSome_none, Bool.false_eq_true, if_false]

theorem startDesktop_unprepared {error : VpnError} (hchild : host.engine.child = none)
    (hprepare : prepare os o = .error error) :
    exec (startDesktop os o options) host = (.error error, host) := by
  rw [startDesktop_exec os o options host hchild, exec_bind_error]
  rw [exec_liftM, hprepare]

theorem startDesktop_prepared {warnings : List String} (hchild : host.engine.child = none)
    (hprepare : prepare os o = .ok warnings) :
    exec (startDesktop os o options) host =
      exec (startRuntimeFor o.olcrtc options.profile >>= launch os o options warnings) host := by
  rw [startDesktop_exec os o options host hchild, exec_bind_ok]
  rw [exec_liftM, hprepare]

theorem startDesktop_alreadyRunning (hchild : host.engine.child ≠ none) :
    exec (startDesktop os o options) host = (.error .alreadyRunning, host) := by
  unfold startDesktop
  rw [exec_bind, exec_get]
  simp only [Option.isSome_iff_ne_none.mpr hchild, if_true]
  rw [exec_bind, exec_throw]

/-- What `launch` is given: a runtime, and the host with its peer. -/
inductive Passed : Option OlcRtcRuntime → Host → Prop where
  | nothing : Passed none host
  | runtime : Passed (some ⟨host.peers.length⟩) (host.addPeer { accepting := true })

theorem Passed.engine_eq {runtime : Option OlcRtcRuntime} {host host' : Host}
    (h : Passed host runtime host') : host'.engine = host.engine := by
  cases h with
  | nothing => rfl
  | runtime => rfl

/-- A start either fails before the launch, with the engine as it was, or it launches. -/
theorem startDesktop_cases :
    (∃ error host', exec (startDesktop os o options) host = (.error error, host') ∧
        host'.engine = host.engine) ∨
      (host.engine.child = none ∧ ∃ warnings runtime host', Passed host runtime host' ∧
        exec (startDesktop os o options) host =
          exec (launch os o options warnings runtime) host') := by
  by_cases hchild : host.engine.child = none
  · cases hprepare : prepare os o with
    | error error =>
      exact Or.inl ⟨error, host, startDesktop_unprepared os o options host hchild hprepare, rfl⟩
    | ok warnings =>
      rw [startDesktop_prepared os o options host hchild hprepare]
      rcases startRuntimeFor_cases host o.olcrtc options.profile with
        ⟨-, hexec⟩ | ⟨-, -, error, hexec⟩ | ⟨-, error, -, hexec⟩ | ⟨-, -, hexec⟩
      · rw [exec_bind_ok hexec]
        exact Or.inr ⟨hchild, warnings, none, host, .nothing, rfl⟩
      · rw [exec_bind_error hexec]
        exact Or.inl ⟨error, host, rfl, rfl⟩
      · rw [exec_bind_error hexec]
        exact Or.inl ⟨error, host.addPeer {}, rfl, rfl⟩
      · rw [exec_bind_ok hexec]
        exact Or.inr ⟨hchild, warnings, _, _, .runtime, rfl⟩
  · exact Or.inl ⟨_, host, startDesktop_alreadyRunning os o options host hchild, rfl⟩

theorem launch_cases (warnings : List String) (runtime : Option OlcRtcRuntime) :
    exec (launch os o options warnings runtime) host =
        (.ok warnings, (((host.attachJob os o.assignJob).setChild
          (some ⟨options.profile.id⟩)).replaceOlcrtc runtime).startStatsPolling) ∨
      ∃ error host', exec (launch os o options warnings runtime) host = (.error error, host') ∧
        host'.engine.child = host.engine.child := by
  rw [launch_exec]
  cases o.coreBinaryAgain with
  | error error => exact Or.inr ⟨_, _, rfl, by simp⟩
  | ok binary =>
    cases o.spawn with
    | error error => exact Or.inr ⟨_, _, rfl, by simp⟩
    | ok _ =>
      cases waitForDesktopReadiness o with
      | error error => exact Or.inr ⟨_, _, rfl, by simp⟩
      | ok status =>
        cases status with
        | some status => exact Or.inr ⟨_, _, rfl, by simp⟩
        | none => exact Or.inl rfl

end Parts

section Results
variable {os : DesktopOs} {o : StartOutcomes} {options : ConnectOptions} {host host' : Host}

theorem startDesktop_ok {warnings : List String}
    (h : exec (startDesktop os o options) host = (.ok warnings, host')) :
    host.engine.child = none ∧ ∃ runtime host₁, Passed host runtime host₁ ∧
      host' = (((host₁.attachJob os o.assignJob).setChild (some ⟨options.profile.id⟩)).replaceOlcrtc
        runtime).startStatsPolling := by
  rcases startDesktop_cases os o options host with
    ⟨error, _, hexec, -⟩ | ⟨hchild, _, runtime, host₁, hpassed, hexec⟩
  · rw [hexec] at h
    cases h
  · rw [hexec] at h
    rcases launch_cases os o options host₁ _ runtime with hlaunch | ⟨error, _, hlaunch, -⟩
    · rw [hlaunch] at h
      cases h
      exact ⟨hchild, runtime, host₁, hpassed, rfl⟩
    · rw [hlaunch] at h
      cases h

theorem startDesktop_ok_child {warnings : List String}
    (h : exec (startDesktop os o options) host = (.ok warnings, host')) :
    host'.engine.child = some ⟨options.profile.id⟩ := by
  obtain ⟨-, runtime, host₁, -, rfl⟩ := startDesktop_ok h
  simp [Host.startStatsPolling, Host.setChild]

/-- A start that fails leaves the child as it is. -/
theorem startDesktop_error_child {error : VpnError}
    (h : exec (startDesktop os o options) host = (.error error, host')) :
    host'.engine.child = host.engine.child := by
  rcases startDesktop_cases os o options host with
    ⟨_, _, hexec, hengine⟩ | ⟨-, _, runtime, host₁, hpassed, hexec⟩
  · rw [hexec] at h
    cases h
    rw [hengine]
  · rw [hexec] at h
    rcases launch_cases os o options host₁ _ runtime with hlaunch | ⟨_, _, hlaunch, hchild⟩
    · rw [hlaunch] at h
      cases h
    · rw [hlaunch] at h
      cases h
      rw [hchild, hpassed.engine_eq]

end Results

/-! ### A start for examples -/

def sampleOptions : ConnectOptions where
  profile :=
    { id := 1, name := "OLC", protocol := .olcRtc, server := "room", port := 443
      auth := { password := some "000102030405060708090a0b0c0d0e0f101112131415161718191a1b1c1d1e1f" } }

/-- Every step succeeds, but the process never opens its ports. -/
def sampleOutcomes : StartOutcomes where
  elevated := true
  config := .ok .null
  serialize := .ok "null"
  configPath := .ok "sing-box.generated.json"
  coreBinary := .ok "sing-box"
  tunPermissions := .ok ()
  checkConfig := .ok ()
  cleanup := .ok ()
  olcrtc :=
    { parseAddr := .ok (), bind := .ok (), cipher := .ok (), connect := .ok (), clientId := 7
      send := fun _ => .ok () }
  coreBinaryAgain := .ok "sing-box"
  spawn := .ok ()
  assignJob := .ok ⟨64⟩
  probes := fun _ =>
    { tryWait := .ok none, proxyPort := false, clashPort := false, tryWaitAgain := .ok none }
  tryWaitLast := .ok none

/-- The same with a process that opens its proxy port at once. -/
def readyOutcomes : StartOutcomes :=
  { sampleOutcomes with
    probes := fun _ =>
      { tryWait := .ok none, proxyPort := true, clashPort := false, tryWaitAgain := .ok none } }

end TauriVpn.Desktop
