import TauriVpn.Android.Service
import TauriVpn.Commands
import TauriVpn.Json
import TauriVpn.Lib.StepSystem

/-! The app on Android: the commands of the Rust side, each as its atomic steps, over
the native service. `status` holds the status lock from its query to its return; the
other commands take it for their first and for their last step. -/

namespace TauriVpn.Android

/-- A config text is never blank. -/
structure ConfigText where
  text : String
  notBlank : isBlank text = false

/-- How far a `connect` that may still return `Ok` has come. -/
inductive ConnectStage where
  | starting
  | requesting (warnings : List String) (config : ConfigText)
  | waiting (warnings : List String) (config : ConfigText)
  | up (warnings : List String) (config : ConfigText)
  | succeeded (warnings : List String) (config : ConfigText)

inductive Call where
  | connect (options : ConnectOptions) (stage : ConnectStage)
  | connectFailed (error : VpnError)
  | disconnectStopping
  | disconnectRequesting
  | disconnectRequested
  | disconnectStopped

/-- The answer a `status` in flight has got, and whether it has recorded it in `mobile_connected`. -/
structure StatusQuery where
  established : Bool
  profileId : Option Uuid
  recorded : Bool := false

/-- The Rust side, the native service, the intents on their way to it, and whether
the alarm of a recovery is set. -/
structure App where
  status : ConnectionStatus := {}
  mobileConnected : Bool := false
  calls : ℕ → Option Call := fun _ => none
  query : Option StatusQuery := none
  service : Service := {}
  intents : List Intent := []
  alarm : Bool := false

/-- The fallible steps of `start_mobile` before its native call. -/
structure StartMobileOutcomes where
  config : Except VpnError Value
  serialize : Except String ConfigText
  registered : Bool

/-- The steps of the commands and of the native side. A command is named by a number
of its own. -/
inductive Event where
  | connect (i : ℕ) (options : ConnectOptions)
  | startMobile (i : ℕ) (o : StartMobileOutcomes)
  | startNativeVpn (i : ℕ) (outcome : Except String Unit)
  | pollStatus (i : ℕ)
  | startTimesOut (i : ℕ) (detail : String)
  | markConnected (i : ℕ)
  | connectReturns (i : ℕ)
  | disconnect (i : ℕ)
  | stopMobile (i : ℕ) (registered : Bool)
  | stopNativeVpn (i : ℕ) (outcome : Except String Unit)
  | markDisconnected (i : ℕ)
  | disconnectReturns (i : ℕ)
  | queryStatus (activity : Bool)
  | recordStatus
  | statusReturns
  | deliverIntent (coreStarts : Bool)
  | tunUp
  | scheduleServiceRestart
  | alarmFires
  | appRestarts
  | processDies

/-- `start_mobile` up to its native call: the warnings and the config text to start with. -/
def startMobile (options : ConnectOptions) (mobileConnected : Bool) (o : StartMobileOutcomes) :
    Except VpnError (List String × ConfigText) := do
  if options.profile.protocol = .olcRtc then
    throw (.unsupported
      "OLC RTC mobile support needs a native/Rust WebRTC adapter; Windows desktop is implemented first")
  if mobileConnected then
    throw .alreadyRunning
  let warnings := ["Android requires VpnService consent before connecting"]
  let _ ← o.config
  let config ← o.serialize.mapError fun error => .engine ("failed to serialize config: " ++ error)
  if !o.registered then
    throw (.platform "native VPN plugin is not registered for this mobile platform")
  return (warnings, config)

namespace App

def setCall (s : App) (i : ℕ) (call : Option Call) : App :=
  { s with calls := Function.update s.calls i call }

/-- The Rust side starts anew; the service is left as it is. -/
def restarted (s : App) : App :=
  { s with status := {}, mobileConnected := false, calls := fun _ => none, query := none }

/-- The process ends, and the system starts the sticky service again. -/
def died (s : App) : App :=
  { s.restarted with service := s.service.stopCoreLocked, intents := s.intents ++ [.sticky] }

/-- `startVpn` of the plugin, which has nothing to do when a tunnel is up. -/
def startVpn (s : App) (config : ConfigText) (profileId : Uuid) : App :=
  if s.service.tunEstablished then
    s
  else
    { s with intents := s.intents ++ [.start config.text (some profileId)] }

/-- `connect` takes the status lock. -/
def connect (s : App) (i : ℕ) (options : ConnectOptions) : Option App :=
  if s.query.isSome ∨ (s.calls i).isSome then
    none
  else match s.status.beginConnect options with
    | .error _ => some s
    | .ok status => some ({ s with status }.setCall i (some (.connect options .starting)))

def startMobile (s : App) (i : ℕ) (o : StartMobileOutcomes) : Option App :=
  match s.calls i with
  | some (.connect options .starting) =>
    match Android.startMobile options s.mobileConnected o with
    | .error error => some (s.setCall i (some (.connectFailed error)))
    | .ok (warnings, config) =>
      some (s.setCall i (some (.connect options (.requesting warnings config))))
  | _ => none

def startNativeVpn (s : App) (i : ℕ) (outcome : Except String Unit) : Option App :=
  match s.calls i, outcome with
  | some (.connect _ (.requesting _ _)), .error error =>
    some (s.setCall i (some (.connectFailed (.platform ("native VPN start failed: " ++ error)))))
  | some (.connect options (.requesting warnings config)), .ok _ =>
    some ((s.startVpn config options.profile.id).setCall i
      (some (.connect options (.waiting warnings config))))
  | _, _ => none

/-- One poll of the native side, which a connect repeats until its tunnel is up. -/
def pollStatus (s : App) (i : ℕ) : Option App :=
  match s.calls i with
  | some (.connect options (.waiting warnings config)) =>
    if s.service.tunEstablished then
      some (s.setCall i (some (.connect options (.up warnings config))))
    else
      some s
  | _ => none

def startTimesOut (s : App) (i : ℕ) (detail : String) : Option App :=
  match s.calls i with
  | some (.connect _ (.waiting _ _)) =>
    some (s.setCall i (some (.connectFailed (.platform
      ("mobile system VPN tunnel did not become connected within 20 seconds." ++ detail)))))
  | _ => none

def markConnected (s : App) (i : ℕ) : Option App :=
  match s.calls i with
  | some (.connect options (.up warnings config)) =>
    some ({ s with mobileConnected := true }.setCall i
      (some (.connect options (.succeeded warnings config))))
  | _ => none

/-- `connect` takes the status lock again, and returns. -/
def connectReturns (s : App) (i : ℕ) : Option App :=
  if s.query.isSome then
    none
  else match s.calls i with
    | some (.connect _ (.succeeded warnings _)) =>
      some ({ s with status := s.status.endConnect (.ok warnings) }.setCall i none)
    | some (.connectFailed error) =>
      some ({ s with status := s.status.endConnect (.error error) }.setCall i none)
    | _ => none

/-- `disconnect` takes the status lock. -/
def disconnect (s : App) (i : ℕ) : Option App :=
  if s.query.isSome ∨ (s.calls i).isSome then
    none
  else
    some ({ s with status := s.status.beginDisconnect }.setCall i (some .disconnectStopping))

def stopMobile (s : App) (i : ℕ) (registered : Bool) : Option App :=
  match s.calls i with
  | some .disconnectStopping =>
    if s.mobileConnected ∧ registered then
      some (s.setCall i (some .disconnectRequesting))
    else
      some (s.setCall i none)
  | _ => none

def stopNativeVpn (s : App) (i : ℕ) (outcome : Except String Unit) : Option App :=
  match s.calls i, outcome with
  | some .disconnectRequesting, .error _ => some (s.setCall i none)
  | some .disconnectRequesting, .ok _ =>
    some ({ s with intents := s.intents ++ [Intent.stop] }.setCall i (some .disconnectRequested))
  | _, _ => none

def markDisconnected (s : App) (i : ℕ) : Option App :=
  match s.calls i with
  | some .disconnectRequested =>
    some ({ s with mobileConnected := false }.setCall i (some .disconnectStopped))
  | _ => none

def disconnectReturns (s : App) (i : ℕ) : Option App :=
  if s.query.isSome then
    none
  else match s.calls i with
    | some .disconnectStopped =>
      some ({ s with status := s.status.endDisconnect }.setCall i none)
    | _ => none

/-- `status` takes the status lock and asks the native side, which names a profile
only when it has an activity. -/
def queryStatus (s : App) (activity : Bool) : Option App :=
  if s.query.isSome then
    none
  else
    some { s with query := some {
      established := s.service.tunEstablished
      profileId := if activity then s.service.lastProfileId else none } }

def recordStatus (s : App) : Option App :=
  match s.query with
  | some query =>
    some { s with
      mobileConnected := query.established
      query := some { query with recorded := true } }
  | none => none

def statusReturns (s : App) : Option App :=
  match s.query with
  | some query =>
    if query.recorded then
      some { s with
        status := s.status.reconcile query.established query.profileId
        query := none }
    else
      none
  | none => none

/-- A command that throws takes the process with it. -/
def deliverIntent (s : App) (coreStarts : Bool) : Option App :=
  match s.intents with
  | [] => none
  | intent :: intents =>
    match s.service.onStartCommand coreStarts intent with
    | some service => some { s with service, intents }
    | none => some { s with intents }.died

def tunUp (s : App) : Option App :=
  if s.service.core.isSome then
    some { s with service := { s.service with tunEstablished := true } }
  else
    none

def scheduleServiceRestart (s : App) : Option App :=
  if s.service.tunEstablished ∧ s.service.lastConfig.isSome then
    some { s with alarm := true }
  else
    none

def alarmFires (s : App) : Option App :=
  if s.alarm then
    some { s with alarm := false, intents := s.intents ++ [.restart] }
  else
    none

def step (s : App) : Event → Option App
  | .connect i options => s.connect i options
  | .startMobile i o => s.startMobile i o
  | .startNativeVpn i outcome => s.startNativeVpn i outcome
  | .pollStatus i => s.pollStatus i
  | .startTimesOut i detail => s.startTimesOut i detail
  | .markConnected i => s.markConnected i
  | .connectReturns i => s.connectReturns i
  | .disconnect i => s.disconnect i
  | .stopMobile i registered => s.stopMobile i registered
  | .stopNativeVpn i outcome => s.stopNativeVpn i outcome
  | .markDisconnected i => s.markDisconnected i
  | .disconnectReturns i => s.disconnectReturns i
  | .queryStatus activity => s.queryStatus activity
  | .recordStatus => s.recordStatus
  | .statusReturns => s.statusReturns
  | .deliverIntent coreStarts => s.deliverIntent coreStarts
  | .tunUp => s.tunUp
  | .scheduleServiceRestart => s.scheduleServiceRestart
  | .alarmFires => s.alarmFires
  | .appRestarts => some s.restarted
  | .processDies => some s.died

@[simp] theorem setCall_self (s : App) (i : ℕ) (call : Option Call) : (s.setCall i call).calls i = call :=
  Function.update_self ..

theorem setCall_of_ne (s : App) {i j : ℕ} (call : Option Call) (h : j ≠ i) :
    (s.setCall i call).calls j = s.calls j :=
  Function.update_of_ne h ..

end App

end TauriVpn.Android
