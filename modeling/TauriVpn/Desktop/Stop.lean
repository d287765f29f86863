import TauriVpn.Desktop.Start
import TauriVpn.Lib.StepSystem

/-! `stop_desktop`, and runs of starts that succeed and stops: when an engine
without a child may still hold a runtime, a job or the statistics task. -/

namespace TauriVpn.Desktop

open Fallible

/-- How the kill step ends within its time limit. -/
inductive KillOutcome where
  | killed
  | failed (error : String)
  | timedOut
  deriving DecidableEq

/-- The fallible steps of `stop_desktop`. -/
structure StopOutcomes where
  kill : KillOutcome
  configPath : Except VpnError String
  cleanup : Except VpnError Unit

/-- `timeout(DESKTOP_STOP_TIMEOUT, child.kill())`, with its first `?`. -/
def killChild (outcome : KillOutcome) : Except VpnError (Except String Unit) :=
  match outcome with
  | .killed => .ok (.ok ())
  | .failed error => .ok (.error error)
  | .timedOut => .error (.engine "timed out while stopping sing-box")

/-- `cleanup_desktop_artifacts(&runtime_config_path(app)?).await?`. -/
def cleanupAfterStop (os : DesktopOs) (o : StopOutcomes) : Except VpnError Unit := do
  let _ ← o.configPath
  cleanupDesktopArtifacts os o.cleanup

/-- Takes the runtime out of the engine and stops it. -/
def Host.takeOlcrtc (host : Host) : Host :=
  (host.setOlcrtc none).stopRuntime? host.engine.olcrtc

/-- `stop_desktop`. -/
def stopDesktop (os : DesktopOs) (o : StopOutcomes) : Fallible VpnError Host Unit := do
  modify Host.stopStatsPolling
  let child := (← get).engine.child
  modify (Host.setChild none)
  match child with
  | none =>
    modify (Host.takeWindowsJob os)
    cleanupAfterStop os o
    throw .notRunning
  | some _ =>
    let killResult ← killChild o.kill
    modify Host.takeOlcrtc
    match killResult with
    | .error error =>
      modify (Host.takeWindowsJob os)
      let _ ← o.configPath
      throw (.engine ("failed to stop sing-box: " ++ error))
    | .ok _ =>
      modify (Host.takeWindowsJob os)
      cleanupAfterStop os o

/-! ### What a stop leaves behind -/

section Stop
variable (os : DesktopOs) (o : StopOutcomes) (host : Host)

theorem stopDesktop_noChild (hchild : host.engine.child = none) :
    exec (stopDesktop os o) host =
      ((cleanupAfterStop os o).bind fun _ => .error .notRunning,
        (host.stopStatsPolling.setChild none).takeWindowsJob os) := by
  unfold stopDesktop
  have hchild' : host.stopStatsPolling.engine.child = none := hchild
  simp only [exec_bind, exec_modify, exec_get, hchild', exec_liftM, exec_throw]
  cases cleanupAfterStop os o <;> rfl

theorem stopDesktop_timedOut (hchild : host.engine.child ≠ none) (hkill : o.kill = .timedOut) :
    exec (stopDesktop os o) host =
      (.error (.engine "timed out while stopping sing-box"), host.stopStatsPolling.setChild none) := by
  unfold stopDesktop
  obtain ⟨child, hchild⟩ := Option.ne_none_iff_exists'.mp hchild
  have hchild' : host.stopStatsPolling.engine.child = some child := hchild
  simp only [exec_bind, exec_modify, exec_get, hchild', exec_liftM, killChild, hkill]

theorem stopDesktop_killEnded (hchild : host.engine.child ≠ none) (hkill : o.kill ≠ .timedOut) :
    exec (stopDesktop os o) host =
      (match o.kill with
        | .failed error => o.configPath.bind fun _ => .error (.engine ("failed to stop sing-box: " ++ error))
        | _ => cleanupAfterStop os o,
        (host.stopStatsPolling.setChild none).takeOlcrtc.takeWindowsJob os) := by
  unfold stopDesktop
  obtain ⟨child, hchild⟩ := Option.ne_none_iff_exists'.mp hchild
  have hchild' : host.stopStatsPolling.engine.child = some child := hchild
  simp only [exec_bind, exec_modify, exec_get, hchild', exec_liftM]
  cases hk : o.kill with
  | timedOut => exact absurd hk hkill
  | failed error =>
    simp only [killChild]
    cases o.configPath <;> rfl
  | killed => rfl

/-- Whatever a stop returns, the engine holds no child afterwards. -/
theorem stopDesktop_child : (exec (stopDesktop os o) host).2.engine.child = none := by
  by_cases hchild : host.engine.child = none
  · rw [stopDesktop_noChild os o host hchild]
    simp [Host.setChild]
  · by_cases hkill : o.kill = .timedOut
    · rw [stopDesktop_timedOut os o host hchild hkill]
      rfl
    · rw [stopDesktop_killEnded os o host hchild hkill]
      simp [Host.takeOlcrtc, Host.setChild, Host.setOlcrtc]

end Stop

/-! ### Runs of starts and stops -/

inductive EngineEvent where
  | start (o : StartOutcomes) (options : ConnectOptions)
  | stop (o : StopOutcomes)

/-- A start that succeeds, or a stop whatever it returns. -/
def engineStep (os : DesktopOs) (host : Host) : EngineEvent → Option Host
  | .start o options =>
    match exec (startDesktop os o options) host with
    | (.ok _, host') => some host'
    | (.error _, _) => none
  | .stop o => some (exec (stopDesktop os o) host).2

/-- An engine without a child holds nothing else. -/
def Whole (host : Host) : Prop :=
  host.engine.child = none →
    host.engine.olcrtc = none ∧ host.engine.windowsJob = none ∧ host.engine.statsTask = none

/-- A stop leaves the engine whole. -/
def StopsWhole (_ : Host) : EngineEvent → Host → Prop
  | .start _ _, _ => True
  | .stop _, host => Whole host

/-- The kill of a child does not time out while a runtime or a job is held. -/
def KillEnds (host : Host) : EngineEvent → Prop
  | .start _ _ => True
  | .stop o =>
    host.engine.child ≠ none → o.kill = .timedOut →
      host.engine.olcrtc = none ∧ host.engine.windowsJob = none

/-- Only Windows has job objects. -/
def JobFits (os : DesktopOs) (host : Host) : Prop :=
  os = .linux → host.engine.windowsJob = none

section Runs
variable {os : DesktopOs} {host host' : Host}

theorem engineStep_start {o : StartOutcomes} {options : ConnectOptions}
    (h : engineStep os host (.start o options) = some host') :
    host'.engine.child = some ⟨options.profile.id⟩ ∧ (JobFits os host → JobFits os host') := by
  unfold engineStep at h
  cases hexec : exec (startDesktop os o options) host with
  | mk result host₁ =>
    cases result with
    | error error =>
      simp only [hexec] at h
      cases h
    | ok warnings =>
      simp only [hexec, Option.some.injEq] at h
      subst h
      refine ⟨startDesktop_ok_child hexec, fun hfits hos => ?_⟩
      obtain ⟨-, runtime, host₂, hpassed, rfl⟩ := startDesktop_ok hexec
      subst hos
      have hjob : host₂.engine.windowsJob = none :=
        (congrArg SingBoxEngine.windowsJob hpassed.engine_eq).trans (hfits rfl)
      simpa [Host.startStatsPolling, Host.setChild, Host.attachJob] using hjob

theorem engineStep_stop {o : StopOutcomes} (hinv : Whole host ∧ JobFits os host)
    (h : engineStep os host (.stop o) = some host') :
    (Whole host' ↔ KillEnds host (.stop o)) ∧ JobFits os host' := by
  obtain ⟨hwhole, hfits⟩ := hinv
  have hstop : (exec (stopDesktop os o) host).2 = host' := Option.some.inj h
  by_cases hchild : host.engine.child = none
  · obtain ⟨holcrtc, hjob, hstats⟩ := hwhole hchild
    rw [stopDesktop_noChild os o host hchild] at hstop
    have hjob' : host'.engine.windowsJob = none := hstop ▸ Host.takeWindowsJob_windowsJob _ os hfits
    refine ⟨iff_of_true (fun _ => ⟨?_, hjob', ?_⟩) fun h => absurd hchild h, fun _ => hjob'⟩
    · rw [← hstop, Host.takeWindowsJob_olcrtc]
      exact holcrtc
    · rw [← hstop, Host.takeWindowsJob_statsTask]
      rfl
  · by_cases hkill : o.kill = .timedOut
    · rw [stopDesktop_timedOut os o host hchild hkill] at hstop
      subst hstop
      refine ⟨?_, hfits⟩
      simp [Whole, KillEnds, hchild, hkill, Host.setChild, Host.stopStatsPolling]
    · rw [stopDesktop_killEnded os o host hchild hkill] at hstop
      have hjob' : host'.engine.windowsJob = none := by
        rw [← hstop]
        refine Host.takeWindowsJob_windowsJob _ os ?_
        rwa [Host.takeOlcrtc, Host.stopRuntime?_engine]
      refine ⟨iff_of_true (fun _ => ⟨?_, hjob', ?_⟩) fun _ h => absurd h hkill, fun _ => hjob'⟩
      · rw [← hstop]
        simp [Host.takeOlcrtc, Host.setOlcrtc]
      · rw [← hstop]
        simp [Host.takeOlcrtc, Host.setOlcrtc, Host.setChild, Host.stopStatsPolling]

/-- Every stop of a run leaves the engine whole exactly when no kill times out while
a runtime or a job is held. -/
theorem stops_whole_iff (os : DesktopOs) (events : List EngineEvent) {host : Host}
    (hrun : StepSystem.run (engineStep os) {} events = some host) :
    StepSystem.AfterEach (engineStep os) StopsWhole {} events ↔
      StepSystem.Guarded (engineStep os) KillEnds {} events := by
  refine StepSystem.afterEach_iff_guarded (fun host => Whole host ∧ JobFits os host) ?_
    ⟨fun _ => ⟨rfl, rfl, rfl⟩, fun _ => rfl⟩ hrun
  intro host event host' hinv hstep
  cases event with
  | start o options =>
    obtain ⟨hchild, hfits⟩ := engineStep_start hstep
    refine ⟨iff_of_true trivial trivial, fun _ => ⟨fun hnone => ?_, hfits hinv.2⟩⟩
    rw [hchild] at hnone
    cases hnone
  | stop o =>
    obtain ⟨hwhole, hfits⟩ := engineStep_stop hinv hstep
    exact ⟨hwhole, fun hguard => ⟨hwhole.mpr hguard, hfits⟩⟩

end Runs

/-- A stop whose kill fails outright: the runtime is stopped all the same. -/
theorem stops_whole_failed_kill :
    StepSystem.AfterEach (engineStep .linux) StopsWhole {}
      [.start readyOutcomes sampleOptions, .stop ⟨.failed "gone", .ok "c", .ok ()⟩] :=
  (stops_whole_iff .linux
    [.start readyOutcomes sampleOptions, .stop ⟨.failed "gone", .ok "c", .ok ()⟩] rfl).mpr
    ⟨trivial, fun _ _ => ⟨fun _ h => (nomatch h), fun _ _ => trivial⟩⟩

/-- A kill that times out: the child is gone, and its runtime still accepts. -/
theorem runtime_outlives_child :
    StepSystem.run (engineStep .linux) {}
        [.start readyOutcomes sampleOptions, .stop ⟨.timedOut, .ok "c", .ok ()⟩] =
      some { engine := { olcrtc := some ⟨0⟩ }, peers := [{ accepting := true }], statsTasks := 1 } ∧
    ¬StepSystem.AfterEach (engineStep .linux) StopsWhole {}
      [.start readyOutcomes sampleOptions, .stop ⟨.timedOut, .ok "c", .ok ()⟩] := by
  refine ⟨rfl, fun h => ?_⟩
  have hwhole := ((h _ rfl).2 _ rfl).1 rfl
  exact absurd hwhole.1 (by decide)

end TauriVpn.Desktop
