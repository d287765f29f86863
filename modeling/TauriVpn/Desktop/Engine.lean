import TauriVpn.Lib.Fallible
import TauriVpn.Errors
import TauriVpn.Models

/-! The engine on Linux and Windows: what `SingBoxEngine` holds, and the OLC RTC
peers that outlive it unless they are closed. A peer is shared, so the runtime
holds its position among all peers connected so far. -/

namespace TauriVpn.Desktop

inductive DesktopOs where
  | linux | windows
  deriving DecidableEq, Repr

/-- The sing-box process, by the profile whose configuration it runs. -/
structure Child where
  profileId : Uuid
  deriving DecidableEq

structure WindowsJob where
  handle : UInt64
  deriving DecidableEq

/-- A task that polls the statistics, by its place among those spawned so far. -/
structure StatsTask where
  index : ℕ
  deriving DecidableEq

structure OlcRtcRuntime where
  peer : ℕ
  deriving DecidableEq

structure SingBoxEngine where
  child : Option Child := none
  windowsJob : Option WindowsJob := none
  olcrtc : Option OlcRtcRuntime := none
  statsTask : Option StatsTask := none
  deriving DecidableEq

/-- A connected peer, and whether the accept loop of its runtime is running. -/
structure WbStreamPeer where
  closed : Bool := false
  accepting : Bool := false
  deriving DecidableEq

/-- The engine, every peer connected so far and the number of statistics tasks spawned. -/
structure Host where
  engine : SingBoxEngine := {}
  peers : List WbStreamPeer := []
  statsTasks : ℕ := 0
  deriving DecidableEq

namespace Host

def addPeer (peer : WbStreamPeer) (host : Host) : Host :=
  { host with peers := host.peers ++ [peer] }

def setChild (child : Option Child) (host : Host) : Host :=
  { host with engine := { host.engine with child } }

def setOlcrtc (olcrtc : Option OlcRtcRuntime) (host : Host) : Host :=
  { host with engine := { host.engine with olcrtc } }

def setWindowsJob (windowsJob : Option WindowsJob) (host : Host) : Host :=
  { host with engine := { host.engine with windowsJob } }

/-- `OlcRtcRuntime::stop`: ends the accept loop and closes the peer. -/
def stopRuntime (runtime : OlcRtcRuntime) (host : Host) : Host :=
  { host with
    peers := host.peers.modify runtime.peer fun _ => { closed := true, accepting := false } }

/-- Stops the runtime, if there is one. -/
def stopRuntime? (runtime : Option OlcRtcRuntime) (host : Host) : Host :=
  match runtime with
  | some runtime => host.stopRuntime runtime
  | none => host

/-- A runtime that is dropped: the accept loop ends with the sender it watches, and the
peer stays connected. -/
def dropRuntime (runtime : OlcRtcRuntime) (host : Host) : Host :=
  { host with
    peers := host.peers.modify runtime.peer fun peer => { peer with accepting := false } }

/-- Drops the runtime, if there is one. -/
def dropRuntime? (runtime : Option OlcRtcRuntime) (host : Host) : Host :=
  match runtime with
  | some runtime => host.dropRuntime runtime
  | none => host

/-- Puts a runtime into the engine, which drops the one that was there. -/
def replaceOlcrtc (olcrtc : Option OlcRtcRuntime) (host : Host) : Host :=
  (host.dropRuntime? host.engine.olcrtc).setOlcrtc olcrtc

/-- Keeps the job object that the process was assigned to, on Windows. -/
def attachJob (os : DesktopOs) (job : Except VpnError WindowsJob) (host : Host) : Host :=
  match os, job with
  | .windows, .ok job => host.setWindowsJob (some job)
  | _, _ => host

/-- Drops the job object; there is none on Linux. -/
def takeWindowsJob (os : DesktopOs) (host : Host) : Host :=
  match os with
  | .windows => host.setWindowsJob none
  | .linux => host

def startStatsPolling (host : Host) : Host :=
  { host with
    engine := { host.engine with statsTask := some ⟨host.statsTasks⟩ }
    statsTasks := host.statsTasks + 1 }

def stopStatsPolling (host : Host) : Host :=
  { host with engine := { host.engine with statsTask := none } }

/-! ### What each of them changes -/

section Fields
variable (host : Host) (runtime : Option OlcRtcRuntime) (os : DesktopOs)
  (job : Except VpnError WindowsJob)

@[simp] theorem addPeer_engine (peer : WbStreamPeer) : (host.addPeer peer).engine = host.engine := rfl

@[simp] theorem stopRuntime?_engine : (host.stopRuntime? runtime).engine = host.engine := by
  cases runtime with
  | none => rfl
  | some runtime => rfl

@[simp] theorem dropRuntime?_engine : (host.dropRuntime? runtime).engine = host.engine := by
  cases runtime with
  | none => rfl
  | some runtime => rfl

@[simp] theorem replaceOlcrtc_engine :
    (host.replaceOlcrtc runtime).engine = { host.engine with olcrtc := runtime } := by
  simp only [replaceOlcrtc, setOlcrtc, dropRuntime?_engine]

@[simp] theorem attachJob_child : (host.attachJob os job).engine.child = host.engine.child := by
  cases os with
  | linux => rfl
  | windows => cases job <;> rfl

@[simp] theorem attachJob_peers : (host.attachJob os job).peers = host.peers := by
  cases os with
  | linux => rfl
  | windows => cases job <;> rfl

@[simp] theorem takeWindowsJob_peers : (host.takeWindowsJob os).peers = host.peers := by
  cases os <;> rfl

@[simp] theorem takeWindowsJob_child : (host.takeWindowsJob os).engine.child = host.engine.child := by
  cases os <;> rfl

@[simp] theorem takeWindowsJob_olcrtc :
    (host.takeWindowsJob os).engine.olcrtc = host.engine.olcrtc := by
  cases os <;> rfl

@[simp] theorem takeWindowsJob_statsTask :
    (host.takeWindowsJob os).engine.statsTask = host.engine.statsTask := by
  cases os <;> rfl

theorem takeWindowsJob_windowsJob (h : os = .linux → host.engine.windowsJob = none) :
    (host.takeWindowsJob os).engine.windowsJob = none := by
  cases os with
  | linux => exact h rfl
  | windows => rfl

/-- The peer that was just connected is the last one. -/
theorem modify_last_peer (peer : WbStreamPeer) (f : WbStreamPeer → WbStreamPeer) :
    (host.addPeer peer).peers.modify host.peers.length f = (host.addPeer (f peer)).peers := by
  rw [List.modify_eq_take_drop]
  simp [addPeer]

theorem stopRuntime_addPeer (peer : WbStreamPeer) :
    (host.addPeer peer).stopRuntime ⟨host.peers.length⟩ =
      host.addPeer { closed := true, accepting := false } := by
  rw [stopRuntime, modify_last_peer]
  rfl

theorem dropRuntime_addPeer (peer : WbStreamPeer) :
    (host.addPeer peer).dropRuntime ⟨host.peers.length⟩ =
      host.addPeer { peer with accepting := false } := by
  rw [dropRuntime, modify_last_peer]
  rfl

theorem stopRuntime?_attachJob_peers :
    ((host.attachJob os job).stopRuntime? runtime).peers = (host.stopRuntime? runtime).peers := by
  cases runtime with
  | none => exact attachJob_peers host os job
  | some runtime => simp only [stopRuntime?, stopRuntime, attachJob_peers]

theorem dropRuntime?_attachJob_peers :
    ((host.attachJob os job).dropRuntime? runtime).peers = (host.dropRuntime? runtime).peers := by
  cases runtime with
  | none => exact attachJob_peers host os job
  | some runtime => simp only [dropRuntime?, dropRuntime, attachJob_peers]

theorem setWindowsJob_engine_eq_iff (windowsJob : Option WindowsJob) :
    (host.setWindowsJob windowsJob).engine = host.engine ↔ host.engine.windowsJob = windowsJob := by
  constructor
  · intro h
    rw [← h]
    rfl
  · rintro rfl
    rfl

/-- Attaching a job leaves the engine as it was only when that job was there. -/
theorem attachJob_engine_eq_iff :
    (host.attachJob os job).engine = host.engine ↔
      (os = .windows → ∀ j, job = .ok j → host.engine.windowsJob = some j) := by
  cases os with
  | linux => simp [attachJob]
  | windows =>
    cases job with
    | error error => simp [attachJob]
    | ok j => simp [attachJob, setWindowsJob_engine_eq_iff]

/-- Attaching a job and dropping it again loses the one that was there before. -/
theorem takeWindowsJob_attachJob_engine :
    ((host.attachJob os job).takeWindowsJob os).engine = (host.takeWindowsJob os).engine := by
  cases os with
  | linux => rfl
  | windows => cases job <;> rfl

theorem takeWindowsJob_stopRuntime?_engine :
    ((host.stopRuntime? runtime).takeWindowsJob os).engine = (host.takeWindowsJob os).engine := by
  cases os with
  | linux => exact stopRuntime?_engine host runtime
  | windows => simp only [takeWindowsJob, setWindowsJob, stopRuntime?_engine]

theorem takeWindowsJob_engine_eq_iff :
    (host.takeWindowsJob os).engine = host.engine ↔ (os = .windows → host.engine.windowsJob = none) := by
  cases os with
  | linux => simp [takeWindowsJob]
  | windows => simp [takeWindowsJob, setWindowsJob_engine_eq_iff]

end Fields

end Host

/-- `cleanup_desktop_artifacts`, which cannot fail on Linux. -/
def cleanupDesktopArtifacts (os : DesktopOs) (outcome : Except VpnError Unit) : Except VpnError Unit :=
  match os with
  | .windows => outcome
  | .linux => .ok ()

end TauriVpn.Desktop
