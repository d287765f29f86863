import TauriVpn.Errors
import TauriVpn.Models

/-! What the commands write to the shared status: `connect` and `disconnect` before
and after they call the engine, `status` from the native side's answer. -/

namespace TauriVpn.ConnectionStatus

/-- The first block of `connect`. -/
def beginConnect (status : ConnectionStatus) (options : ConnectOptions) :
    Except VpnError ConnectionStatus :=
  if status.phase = .connected ∨ status.phase = .connecting then
    .error .alreadyRunning
  else
    .ok { status with
      phase := .connecting
      activeProfileId := some options.profile.id
      message := some "Connecting" }

/-- The last block of `connect`, by what the engine's start returned. -/
def endConnect (status : ConnectionStatus) (result : Except VpnError (List String)) :
    ConnectionStatus :=
  match result with
  | .ok warnings =>
    { status with phase := .connected, message := warnings.head?.or (some "Connected") }
  | .error error => { status with phase := .failed, message := some error.toString }

/-- The first block of `disconnect`. -/
def beginDisconnect (status : ConnectionStatus) : ConnectionStatus :=
  { status with phase := .disconnecting, message := some "Disconnecting" }

/-- The last block of `disconnect`, which resets the status. -/
def endDisconnect (_ : ConnectionStatus) : ConnectionStatus := {}

/-- What `status` makes of the native side's answer on a mobile target. -/
def reconcile (status : ConnectionStatus) (established : Bool) (profileId : Option Uuid) :
    ConnectionStatus :=
  if established then
    let status :=
      if status.phase = .disconnected then
        { status with phase := .connected, message := some "Connected (Recovered)" }
      else
        status
    match profileId with
    | some id => { status with activeProfileId := some id }
    | none => status
  else if status.phase = .connected ∨ status.phase = .connecting then
    { status with phase := .disconnected, message := none }
  else
    status

@[simp] theorem endConnect_activeProfileId (status : ConnectionStatus)
    (result : Except VpnError (List String)) :
    (status.endConnect result).activeProfileId = status.activeProfileId := by
  cases result <;> rfl

/-- Only an established tunnel whose profile is known renames the profile. -/
theorem reconcile_activeProfileId (status : ConnectionStatus) (established : Bool)
    (profileId : Option Uuid) :
    (status.reconcile established profileId).activeProfileId =
      if established then profileId.or status.activeProfileId else status.activeProfileId := by
  cases established with
  | false =>
    simp only [reconcile, Bool.false_eq_true, if_false]
    split_ifs <;> rfl
  | true =>
    cases profileId with
    | none =>
      simp only [reconcile, if_true, Option.none_or]
      split_ifs <;> rfl
    | some id => rfl

/-- A status says `Connected` after the native side's answer when the tunnel is established
and the phase was one that the answer may turn into it. -/
theorem reconcile_connected_iff (status : ConnectionStatus) (established : Bool) (profileId : Option Uuid) :
    (status.reconcile established profileId).phase = .connected ↔
      established = true ∧ (status.phase = .disconnected ∨ status.phase = .connected) := by
  cases established with
  | false =>
    simp only [reconcile, Bool.false_eq_true, if_false, false_and, iff_false]
    split_ifs with h
    · simp
    · exact fun hp => h (Or.inl hp)
  | true =>
    simp only [reconcile, if_true, true_and]
    cases profileId <;> cases hphase : status.phase <;> simp [hphase]

/-- An answer does not make a status say `Connecting`. -/
theorem reconcile_connecting {status : ConnectionStatus} {established : Bool} {profileId : Option Uuid}
    (h : (status.reconcile established profileId).phase = .connecting) : status.phase = .connecting := by
  by_contra hphase
  cases established with
  | false =>
    simp only [reconcile, Bool.false_eq_true, if_false] at h
    split_ifs at h
    exact hphase h
  | true =>
    simp only [reconcile, if_true] at h
    cases profileId <;> split_ifs at h <;> exact hphase h

theorem beginConnect_ok {status status' : ConnectionStatus} {options : ConnectOptions}
    (h : status.beginConnect options = .ok status') :
    status.phase ≠ .connected ∧ status.phase ≠ .connecting ∧ status'.phase = .connecting ∧
      status'.activeProfileId = some options.profile.id := by
  unfold beginConnect at h
  split at h
  · cases h
  · rename_i hphase
    cases h
    exact ⟨fun hp => hphase (Or.inl hp), fun hp => hphase (Or.inr hp), rfl, rfl⟩

end TauriVpn.ConnectionStatus
