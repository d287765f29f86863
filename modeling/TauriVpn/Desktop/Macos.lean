import TauriVpn.Desktop.Stop
import TauriVpn.Lib.Succeeds

/-! The engine on macOS, where the system runs the tunnel from a VPN profile. A child
or a privileged process is never started there, and a stop still looks for both. -/

namespace TauriVpn.Desktop

open Fallible Olcrtc

/-- The engine with the fields that only macOS has. -/
structure MacosHost where
  host : Host := {}
  privilegedPid : Option UInt32 := none
  macosSystemConnected : Bool := false

namespace MacosHost

def onHost (f : Host → Host) (m : MacosHost) : MacosHost := { m with host := f m.host }

/-- A part of a command that only concerns what every desktop has. -/
def withHost {α : Type} : Fallible VpnError Host α → Fallible VpnError MacosHost α :=
  within host fun host m => { m with host }

end MacosHost

/-- The fallible steps of `start_desktop` on macOS; `answers` are those of the looks at
the tunnel until the time is over. -/
structure MacosStartOutcomes where
  config : Except VpnError Value
  serialize : Except String String
  configPath : Except VpnError String
  installProfile : Except VpnError Unit
  cleanup : Except VpnError Unit
  olcrtc : OlcRtcOutcomes
  startProfile : Except VpnError Unit
  answers : List (Except VpnError Bool)

/-- The fallible steps of `stop_desktop` on macOS. -/
structure MacosStopOutcomes where
  stopProfile : Except VpnError Unit
  configPath : Except VpnError String
  cleanup : Except VpnError Unit
  stopPrivileged : Except VpnError Unit
  kill : KillOutcome

/-- `wait_for_macos_system_tunnel`. -/
def waitForMacosSystemTunnel : Option VpnError → List (Except VpnError Bool) → Except VpnError Unit
  | lastError, [] => .error (.platform
      ("macOS system VPN tunnel did not become connected within 20 seconds." ++
        ((lastError.map fun error => " Last status error: " ++ error.toString).getD "")))
  | _, .ok true :: _ => .ok ()
  | lastError, .ok false :: answers => waitForMacosSystemTunnel lastError answers
  | _, .error error :: answers => waitForMacosSystemTunnel (some error) answers

/-- `start_desktop`. -/
def startMacos (o : MacosStartOutcomes) (options : ConnectOptions) :
    Fallible VpnError MacosHost (List String) := do
  let m ← get
  if m.host.engine.child.isSome then
    throw .alreadyRunning
  if m.privilegedPid.isSome then
    throw .alreadyRunning
  if m.macosSystemConnected then
    throw .alreadyRunning
  let warnings := ["macOS system tunnel requires administrator approval to configure the TUN interface"]
  let _ ← o.config
  let _ ← o.serialize.mapError fun error => VpnError.engine ("failed to serialize config: " ++ error)
  let _ ← o.configPath
  o.installProfile
  o.cleanup
  let runtime ← MacosHost.withHost (startRuntimeFor o.olcrtc options.profile)
  match o.startProfile with
  | .error error =>
    modify (MacosHost.onHost (Host.stopRuntime? runtime))
    throw error
  | .ok _ =>
    match waitForMacosSystemTunnel none o.answers with
    | .error error =>
      modify (MacosHost.onHost (Host.stopRuntime? runtime))
      throw error
    | .ok _ =>
      modify fun m => { m with macosSystemConnected := true }
      modify (MacosHost.onHost (Host.replaceOlcrtc runtime))
      modify (MacosHost.onHost Host.startStatsPolling)
      return warnings

/-- What `stop_desktop` does when the system does not run the tunnel. -/
def stopMacosChild (o : MacosStopOutcomes) : Fallible VpnError MacosHost Unit := do
  let child := (← get).host.engine.child
  modify (MacosHost.onHost (Host.setChild none))
  match child with
  | none =>
    let _ ← o.configPath
    o.cleanup
    throw .notRunning
  | some _ =>
    let killResult ← killChild o.kill
    modify (MacosHost.onHost Host.takeOlcrtc)
    match killResult with
    | .error error =>
      let _ ← o.configPath
      throw (.engine ("failed to stop sing-box: " ++ error))
    | .ok _ =>
      let _ ← o.configPath
      o.cleanup

/-- `stop_desktop`. -/
def stopMacos (o : MacosStopOutcomes) : Fallible VpnError MacosHost Unit := do
  modify (MacosHost.onHost Host.stopStatsPolling)
  let m ← get
  if m.macosSystemConnected then
    modify (MacosHost.onHost Host.takeOlcrtc)
    o.stopProfile
    modify fun m => { m with macosSystemConnected := false }
    let _ ← o.configPath
    o.cleanup
  else
    modify fun m => { m with privilegedPid := none }
    match m.privilegedPid with
    | some _ =>
      modify (MacosHost.onHost Host.takeOlcrtc)
      let _ ← o.configPath
      o.stopPrivileged
    | none => stopMacosChild o

end TauriVpn.Desktop
