import TauriVpn.Android.Service
import TauriVpn.Lib.StepSystem

/-! Is a stop final? The service remembers its last config across the death of its
process, and starts the core from it when a scheduled restart or the system asks for it.
Intents come in any order, and those that were sent before a stop may come after it.
Only `start` and `stop` take the lock; what a handler does to the preferences comes
before, and `onRevoke` has a thread of its own. -/

namespace TauriVpn.Android

/-- What a handler of `onStartCommand` has still to do under the lock. -/
inductive Handler where
  | starting (configJson : String) (profileId : Option Uuid)
  | recovering (configJson : String) (profileId : Option Uuid)
  | stopping

/-- The service and what outlives its process: the preferences, which are in the service,
and the restarts that were scheduled and have not come. `handler` is that of the main
thread, which has one at a time; `revoking` counts the calls of `onRevoke` that have
removed the config and not stopped yet; `restarting` is a watchdog that has read a config
and is about to schedule a restart; `coreCalls` are the configs that `startCoreLocked`
was called with so far. -/
structure Device where
  service : Service := {}
  handler : Option Handler := none
  revoking : ℕ := 0
  restarting : Bool := false
  scheduled : ℕ := 0
  coreCalls : List String := []

/-- A handler of `onStartCommand` begins, and takes the lock, with whether
`startCoreLocked` returns if it is called; `onRevoke` begins, and takes the lock; the
service is stopped by `onDestroy` or by the core; the tunnel comes up; the watchdog gives
up on the core, in two steps; the process dies. -/
inductive DeviceEvent where
  | onStartCommand (intent : Intent)
  | takesLock (coreStarts : Bool)
  | onRevoke
  | revokeTakesLock
  | stop
  | openTun
  | watchdogReads
  | watchdogSchedules
  | processDies

/-- An `ACTION_START` with a config of its own comes in. -/
def DeviceEvent.Arrives : DeviceEvent → Prop
  | .onStartCommand (.start configJson _) => isBlank configJson = false
  | _ => False

namespace Device

def processDies (d : Device) : Device :=
  { d with
    service := { lastConfig := d.service.lastConfig, lastProfileId := d.service.lastProfileId }
    handler := none
    revoking := 0
    restarting := false }

/-- `startCoreLocked` is called. -/
def callCore (d : Device) (configJson : String) : Device :=
  { d with coreCalls := d.coreCalls ++ [configJson] }

/-- `start`; an exception that leaves the service takes the process with it. -/
def start (d : Device) (coreStarts : Bool) (configJson : String) (profileId : Option Uuid) : Device :=
  if isBlank configJson then
    { d with service := d.service.stopSelf }
  else match d.service.core with
    | some _ =>
      if d.service.tunEstablished then d
      else if coreStarts then
        { d.callCore configJson with
          service := d.service.stopCoreLocked.startCoreLocked configJson profileId }
      else
        (d.callCore configJson).processDies
    | none =>
      if coreStarts then
        { d.callCore configJson with service := d.service.startCoreLocked configJson profileId }
      else
        { d.callCore configJson with service := d.service.stopSelf }

/-- A recovery up to its `start`: what `ACTION_RESTART` and the null intent do alike. -/
def recover (d : Device) : Device :=
  match d.service.lastConfig with
  | some configJson =>
    if isBlank configJson then
      { d with service := d.service.stopSelf }
    else
      { d with handler := some (.recovering configJson d.service.lastProfileId) }
  | none => { d with service := d.service.stopSelf }

/-- `onStartCommand` up to its `start` or `stop`. -/
def onStartCommand (d : Device) : Intent → Device
  | .start configJson profileId =>
    let remembered : Device :=
      if isBlank configJson then d
      else { d with service := { d.service with lastConfig := some configJson, lastProfileId := profileId } }
    { remembered with handler := some (.starting configJson profileId) }
  | .stop =>
    { d with
      service := { d.service with lastConfig := none, lastProfileId := none }
      handler := some .stopping }
  | .restart | .sticky => d.recover

/-- The rest of `onStartCommand`, under the lock. -/
def takesLock (d : Device) (coreStarts : Bool) : Device :=
  match d.handler with
  | some (.starting configJson profileId) | some (.recovering configJson profileId) =>
    { d with handler := none }.start coreStarts configJson profileId
  | some .stopping => { d with service := d.service.stop, handler := none }
  | none => d

/-- `restartCoreFromWatchdog` goes on only with a config. -/
def watchdogReads (d : Device) : Device :=
  { d with restarting := d.restarting || d.service.lastConfig.any fun configJson => !isBlank configJson }

/-- A restart only comes when one was scheduled, and an intent when none is being handled. -/
def step (d : Device) : DeviceEvent → Option Device
  | .onStartCommand .restart =>
    if d.handler.isNone ∧ 0 < d.scheduled then
      some ({ d with scheduled := d.scheduled - 1 }.onStartCommand .restart)
    else none
  | .onStartCommand intent => if d.handler.isNone then some (d.onStartCommand intent) else none
  | .takesLock coreStarts => if d.handler.isSome then some (d.takesLock coreStarts) else none
  | .onRevoke =>
    some { d with service := { d.service with lastConfig := none }, revoking := d.revoking + 1 }
  | .revokeTakesLock =>
    if 0 < d.revoking then
      some { d with service := d.service.stop, revoking := d.revoking - 1 }
    else none
  | .stop => some { d with service := d.service.stop }
  | .openTun =>
    if d.service.core.isSome then
      some { d with service := { d.service with tunEstablished := true } }
    else none
  | .watchdogReads => some d.watchdogReads
  | .watchdogSchedules =>
    if d.restarting then some { d with scheduled := d.scheduled + 1 } else none
  | .processDies => some d.processDies

/-! ### When a stop is final -/

/-- With this step an `ACTION_STOP` or an `onRevoke` has been handled. -/
def Stops (d : Device) : DeviceEvent → Prop
  | .takesLock _ => d.handler = some .stopping
  | .revokeTakesLock => True
  | _ => False

/-- An `ACTION_START` with a config of its own is about to take the lock. -/
def StartPending (d : Device) : Prop :=
  ∃ configJson profileId, d.handler = some (.starting configJson profileId) ∧ isBlank configJson = false

/-- A step of the handling of an `ACTION_START` with a config of its own. -/
def HandlesStart (d : Device) : DeviceEvent → Prop
  | .takesLock _ => d.StartPending
  | event => event.Arrives

/-- Until an event of the kind `anew` `startCoreLocked` is not called. -/
def NotCalledUntil (anew : Device → DeviceEvent → Prop) (d : Device) : Prop :=
  ∀ events ended, StepSystem.run step d events = some ended →
    StepSystem.Guarded step (fun u event => ¬anew u event) d events → ended.coreCalls = d.coreCalls

/-- No config is remembered, and no handler has one that it read. -/
def Forgotten (d : Device) : Prop :=
  d.service.lastConfig = none ∧ ∀ configJson profileId, d.handler ≠ some (.recovering configJson profileId)

/-- When an `onRevoke` takes the lock, no config has been stored since it removed the one
that was there, and no restart or sticky handler is between its read and its start. -/
def RevokesAll (d : Device) : DeviceEvent → Prop
  | .revokeTakesLock => d.Forgotten
  | _ => True

/-! ### What the steps do -/

section Steps
variable {d d' : Device} {coreStarts : Bool} {configJson : String} {profileId : Option Uuid}

/-- The log leaves the service to do what it does without one, and where an exception
leaves the service the process is dead. -/
theorem start_service (coreStarts : Bool) (configJson : String) (profileId : Option Uuid) :
    (d.start coreStarts configJson profileId).service =
      (d.service.start coreStarts configJson profileId).getD d.processDies.service := by
  unfold start Service.start
  cases isBlank configJson with
  | true => rfl
  | false =>
    cases d.service.core with
    | none => cases coreStarts <;> rfl
    | some core =>
      cases d.service.tunEstablished with
      | true => rfl
      | false => cases coreStarts <;> rfl

/-- A recovery goes on with a remembered config that is not blank, and else stops the service. -/
theorem recover_cases (d : Device) :
    (∃ configJson, d.service.lastConfig = some configJson ∧ isBlank configJson = false ∧
        d.recover = { d with handler := some (.recovering configJson d.service.lastProfileId) }) ∨
      ((∀ configJson, d.service.lastConfig = some configJson → isBlank configJson = true) ∧
        d.recover = { d with service := d.service.stopSelf }) := by
  unfold recover
  cases d.service.lastConfig with
  | none => exact Or.inr ⟨fun _ h => (nomatch h), rfl⟩
  | some configJson =>
    by_cases hblank : isBlank configJson = true
    · refine Or.inr ⟨fun _ h => ?_, if_pos hblank⟩
      rw [← Option.some.inj h]
      exact hblank
    · exact Or.inl ⟨configJson, rfl, Bool.eq_false_of_not_eq_true hblank, if_neg hblank⟩

/-- With nothing between its two parts a handler does what the service's does in one. -/
theorem onStartCommand_service {intent : Intent} {service : Service} (hidle : d.handler = none)
    (h : d.service.onStartCommand coreStarts intent = some service) :
    ((d.onStartCommand intent).takesLock coreStarts).service = service := by
  cases intent with
  | start configJson profileId =>
    simp only [Service.onStartCommand] at h
    simp only [onStartCommand, takesLock, start_service]
    split_ifs with hblank
    · rw [if_pos hblank] at h
      rw [h, Option.getD_some]
    · rw [if_neg hblank] at h
      rw [h, Option.getD_some]
  | stop => exact Option.some.inj h
  | restart | sticky =>
    simp only [Service.onStartCommand] at h
    simp only [onStartCommand, recover]
    cases hconfig : d.service.lastConfig with
    | none =>
      rw [hconfig] at h
      simp only [takesLock, hidle]
      exact Option.some.inj h
    | some configJson =>
      simp only [hconfig] at h
      dsimp only
      split_ifs with hblank
      · rw [if_pos hblank] at h
        simp only [takesLock, hidle]
        exact Option.some.inj h
      · rw [if_neg hblank] at h
        simp only [takesLock, start_service, h, Option.getD_some]

/-- A start does not touch the config that is remembered, and the handler stays over. -/
theorem start_kept (coreStarts : Bool) (configJson : String) (profileId : Option Uuid)
    (hidle : d.handler = none) :
    (d.start coreStarts configJson profileId).service.lastConfig = d.service.lastConfig ∧
      (d.start coreStarts configJson profileId).handler = none := by
  unfold start
  cases isBlank configJson with
  | true => exact ⟨rfl, hidle⟩
  | false =>
    cases d.service.core with
    | none =>
      cases coreStarts with
      | true => exact ⟨rfl, hidle⟩
      | false => exact ⟨rfl, hidle⟩
    | some core =>
      cases d.service.tunEstablished with
      | true => exact ⟨rfl, hidle⟩
      | false =>
        cases coreStarts with
        | true => exact ⟨rfl, hidle⟩
        | false => exact ⟨rfl, rfl⟩

theorem start_blank (hblank : isBlank configJson = true) :
    (d.start coreStarts configJson profileId).coreCalls = d.coreCalls := by
  simp only [start, hblank, if_true]

/-- Without a core a config that is not blank gets to `startCoreLocked`. -/
theorem start_calls (hcore : d.service.core = none) (hblank : isBlank configJson = false) :
    (d.start true configJson profileId).coreCalls = d.coreCalls ++ [configJson] := by
  simp only [start, hblank, hcore]
  rfl

/-- A restart that comes is one less that is scheduled. -/
theorem step_onStartCommand {intent : Intent} (h : d.step (.onStartCommand intent) = some d') :
    ∃ scheduled, d' = { d with scheduled }.onStartCommand intent := by
  cases intent with
  | restart =>
    simp only [step] at h
    split_ifs at h
    exact ⟨_, (Option.some.inj h).symm⟩
  | start | stop | sticky =>
    simp only [step] at h
    split_ifs at h
    exact ⟨d.scheduled, (Option.some.inj h).symm⟩

/-- What takes the lock is the handler that has begun. -/
theorem step_takesLock (h : d.step (.takesLock coreStarts) = some d') :
    (∃ configJson profileId, (d.handler = some (.starting configJson profileId) ∨
        d.handler = some (.recovering configJson profileId)) ∧
      d' = { d with handler := none }.start coreStarts configJson profileId) ∨
    (d.handler = some .stopping ∧ d' = { d with service := d.service.stop, handler := none }) := by
  simp only [step] at h
  split_ifs at h
  obtain rfl := Option.some.inj h
  unfold takesLock
  cases hhandler : d.handler with
  | none => simp_all
  | some handler =>
    cases handler with
    | starting configJson profileId => exact Or.inl ⟨configJson, profileId, Or.inl rfl, rfl⟩
    | recovering configJson profileId => exact Or.inl ⟨configJson, profileId, Or.inr rfl, rfl⟩
    | stopping => exact Or.inr ⟨rfl, rfl⟩

/-- The config is kept or forgotten, and the handler goes on or is over. -/
structure Keeps (d d' : Device) : Prop where
  config : d'.service.lastConfig = d.service.lastConfig ∨ d'.service.lastConfig = none
  handler : d'.handler = d.handler ∨ d'.handler = none

/-- Only an intent that comes in has a config remembered or a handler begin. -/
theorem step_cases {event : DeviceEvent} (h : d.step event = some d') :
    (∃ intent scheduled, event = .onStartCommand intent ∧ d' = { d with scheduled }.onStartCommand intent) ∨
      d.Keeps d' := by
  cases event with
  | onStartCommand intent =>
    obtain ⟨scheduled, hcommand⟩ := step_onStartCommand h
    exact Or.inl ⟨intent, scheduled, rfl, hcommand⟩
  | takesLock coreStarts =>
    rcases step_takesLock h with ⟨configJson, profileId, -, rfl⟩ | ⟨-, rfl⟩
    · have hover : Device.handler { d with handler := none } = none := rfl
      obtain ⟨hconfig, hhandler⟩ := start_kept coreStarts configJson profileId hover
      exact Or.inr ⟨Or.inl hconfig, Or.inr hhandler⟩
    · exact Or.inr ⟨Or.inl rfl, Or.inr rfl⟩
  | onRevoke =>
    cases h
    exact Or.inr ⟨Or.inr rfl, Or.inl rfl⟩
  | stop | watchdogReads =>
    cases h
    exact Or.inr ⟨Or.inl rfl, Or.inl rfl⟩
  | processDies =>
    cases h
    exact Or.inr ⟨Or.inl rfl, Or.inr rfl⟩
  | revokeTakesLock | openTun | watchdogSchedules =>
    simp only [step] at h
    split_ifs at h
    cases h
    exact Or.inr ⟨Or.inl rfl, Or.inl rfl⟩

/-- Only a handler with a config that takes the lock calls `startCoreLocked`. -/
theorem step_coreCalls {event : DeviceEvent} (h : d.step event = some d') :
    d'.coreCalls = d.coreCalls ∨ ∃ coreStarts configJson profileId, event = .takesLock coreStarts ∧
      isBlank configJson = false ∧ (d.handler = some (.starting configJson profileId) ∨
        d.handler = some (.recovering configJson profileId)) := by
  cases event with
  | onStartCommand intent =>
    obtain ⟨scheduled, rfl⟩ := step_onStartCommand h
    left
    cases intent with
    | start configJson profileId =>
      simp only [onStartCommand]
      split_ifs
      · rfl
      · rfl
    | stop => rfl
    | restart | sticky =>
      simp only [onStartCommand]
      rcases Device.recover_cases { d with scheduled } with ⟨_, -, -, hrecover⟩ | ⟨-, hrecover⟩
      · rw [hrecover]
      · rw [hrecover]
  | takesLock coreStarts =>
    rcases step_takesLock h with ⟨configJson, profileId, hhandler, rfl⟩ | ⟨-, rfl⟩
    · by_cases hblank : isBlank configJson = true
      · exact Or.inl (start_blank hblank)
      · exact Or.inr ⟨coreStarts, configJson, profileId, rfl, Bool.eq_false_of_not_eq_true hblank, hhandler⟩
    · exact Or.inl rfl
  | onRevoke | stop | watchdogReads | processDies =>
    cases h
    exact Or.inl rfl
  | revokeTakesLock | openTun | watchdogSchedules =>
    simp only [step] at h
    split_ifs at h
    cases h
    exact Or.inl rfl

end Steps

/-! ### What holds of a device -/

/-- What is remembered or read is not blank, and an `ACTION_STOP` that waits for the lock
has left nothing remembered. -/
structure Coherent (d : Device) : Prop where
  remembered : ∀ configJson, d.service.lastConfig = some configJson → isBlank configJson = false
  recovering : ∀ configJson profileId,
    d.handler = some (.recovering configJson profileId) → isBlank configJson = false
  stopping : d.handler = some .stopping → d.service.lastConfig = none

section Coherent
variable {d d' : Device}

theorem Coherent.keeps (h : d.Coherent) (hkeeps : d.Keeps d') : d'.Coherent := by
  obtain ⟨hconfig, hhandler⟩ := hkeeps
  refine ⟨fun configJson hlast => ?_, fun configJson profileId hh => ?_, fun hh => ?_⟩
  · rcases hconfig with hconfig | hconfig
    · exact h.remembered configJson (hconfig ▸ hlast)
    · rw [hconfig] at hlast
      cases hlast
  · rcases hhandler with hhandler | hhandler
    · exact h.recovering configJson profileId (hhandler ▸ hh)
    · rw [hhandler] at hh
      cases hh
  · rcases hhandler with hhandler | hhandler
    · rcases hconfig with hconfig | hconfig
      · exact hconfig.trans (h.stopping (hhandler ▸ hh))
      · exact hconfig
    · rw [hhandler] at hh
      cases hh

theorem Coherent.onStartCommand (h : d.Coherent) (intent : Intent) : (d.onStartCommand intent).Coherent := by
  cases intent with
  | start configJson profileId =>
    refine ⟨fun configJson' hlast => ?_, fun _ _ hh => (nomatch hh), fun hh => (nomatch hh)⟩
    simp only [Device.onStartCommand] at hlast
    split_ifs at hlast with hblank
    · exact h.remembered configJson' hlast
    · cases hlast
      exact Bool.eq_false_of_not_eq_true hblank
  | stop => exact ⟨fun _ hlast => (nomatch hlast), fun _ _ hh => (nomatch hh), fun _ => rfl⟩
  | restart | sticky =>
    simp only [Device.onStartCommand]
    rcases d.recover_cases with ⟨configJson, -, hblank, hrecover⟩ | ⟨-, hrecover⟩
    · rw [hrecover]
      refine ⟨h.remembered, fun configJson' profileId hh => ?_, fun hh => (nomatch hh)⟩
      cases hh
      exact hblank
    · rw [hrecover]
      exact h.keeps ⟨Or.inl rfl, Or.inl rfl⟩

theorem coherent_step {event : DeviceEvent} (h : d.Coherent) (hstep : d.step event = some d') :
    d'.Coherent := by
  rcases step_cases hstep with ⟨intent, scheduled, -, rfl⟩ | hkeeps
  · have hd : Coherent { d with scheduled } := h.keeps ⟨Or.inl rfl, Or.inl rfl⟩
    exact hd.onStartCommand intent
  · exact h.keeps hkeeps

theorem coherent_run {events : List DeviceEvent} (hrun : StepSystem.run step {} events = some d) :
    d.Coherent :=
  StepSystem.run_invariant (fun _ _ _ h hstep => coherent_step h hstep)
    ⟨by simp, by simp, by simp⟩ hrun

end Coherent

/-! ### After a stop -/

section Stopped
variable {d d' stopped : Device} {event : DeviceEvent}

theorem Forgotten.keeps (h : d.Forgotten) (hkeeps : d.Keeps d') : d'.Forgotten := by
  refine ⟨hkeeps.config.elim (fun hconfig => hconfig.trans h.1) id, ?_⟩
  rcases hkeeps.handler with hhandler | hhandler
  · rw [hhandler]
    exact h.2
  · rw [hhandler]
    exact fun _ _ hh => (nomatch hh)

/-- Without a config to remember only an `ACTION_START` brings one. -/
theorem Forgotten.onStartCommand {intent : Intent} (h : d.Forgotten)
    (hnew : ¬(DeviceEvent.onStartCommand intent).Arrives) : (d.onStartCommand intent).Forgotten := by
  cases intent with
  | start configJson profileId =>
    have hblank : isBlank configJson = true := Bool.eq_true_of_not_eq_false hnew
    simp only [Device.onStartCommand, hblank, if_true]
    exact ⟨h.1, fun _ _ hh => (nomatch hh)⟩
  | stop => exact ⟨rfl, fun _ _ hh => (nomatch hh)⟩
  | restart | sticky =>
    simp only [Device.onStartCommand]
    rcases d.recover_cases with ⟨configJson, hconfig, -, -⟩ | ⟨-, hrecover⟩
    · cases hconfig.symm.trans h.1
    · rw [hrecover]
      exact h

/-- Where no config is remembered or read nothing but an `ACTION_START` with one of its
own calls `startCoreLocked`, or makes one remembered. -/
theorem forgotten_step (hforgotten : d.Forgotten) (hnew : ¬d.HandlesStart event)
    (h : d.step event = some d') : d'.Forgotten ∧ d'.coreCalls = d.coreCalls := by
  constructor
  · rcases step_cases h with ⟨intent, scheduled, rfl, rfl⟩ | hkeeps
    · have hd : Forgotten { d with scheduled } := hforgotten
      exact hd.onStartCommand hnew
    · exact hforgotten.keeps hkeeps
  · rcases step_coreCalls h with hsame | ⟨coreStarts, configJson, profileId, rfl, hblank, hstarting | hrecovering⟩
    · exact hsame
    · exact absurd ⟨configJson, profileId, hstarting, hblank⟩ hnew
    · exact absurd hrecovering (hforgotten.2 configJson profileId)

/-- Only an `ACTION_START` that comes in gets one to wait for the lock. -/
theorem startPending_step (hpending : ¬d.StartPending) (hnew : ¬event.Arrives) (h : d.step event = some d') :
    ¬d'.StartPending := by
  rintro ⟨configJson, profileId, hhandler, hblank⟩
  rcases step_cases h with ⟨intent, scheduled, rfl, rfl⟩ | hkeeps
  · cases intent with
    | start configJson' profileId' =>
      cases hhandler
      exact hnew hblank
    | stop => cases hhandler
    | restart | sticky =>
      simp only [onStartCommand] at hhandler
      rcases Device.recover_cases { d with scheduled } with ⟨_, -, -, hrecover⟩ | ⟨-, hrecover⟩
      · rw [hrecover] at hhandler
        cases hhandler
      · rw [hrecover] at hhandler
        exact hpending ⟨configJson, profileId, hhandler, hblank⟩
  · rcases hkeeps.handler with hkept | hover
    · exact hpending ⟨configJson, profileId, hkept ▸ hhandler, hblank⟩
    · cases hover.symm.trans hhandler

/-- Until an `ACTION_START` is handled nothing calls `startCoreLocked`. -/
theorem Forgotten.notCalledUntil_handlesStart (h : d.Forgotten) : d.NotCalledUntil HandlesStart := by
  intro events ended hrun hnew
  let kept : Device → Prop := fun u => u.Forgotten ∧ u.coreCalls = d.coreCalls
  have hstep : ∀ u e t, kept u → ¬u.HandlesStart e → step u e = some t → kept t := by
    intro u e t hu hnew hstep
    obtain ⟨hforgotten, hcalls⟩ := forgotten_step hu.1 hnew hstep
    exact ⟨hforgotten, hcalls.trans hu.2⟩
  have hinitial : kept d := ⟨h, rfl⟩
  exact (StepSystem.run_invariant_of_guarded hstep hinitial hnew hrun).2

/-- With none waiting for the lock, an `ACTION_START` is only handled after it comes in. -/
theorem guarded_handlesStart {events : List DeviceEvent} (hpending : ¬d.StartPending)
    (h : StepSystem.Guarded step (fun _ event => ¬event.Arrives) d events) :
    StepSystem.Guarded step (fun u event => ¬u.HandlesStart event) d events := by
  refine StepSystem.guarded_of_invariant (fun u => ¬u.StartPending) ?_ hpending h
  intro u event hu hnew
  refine ⟨?_, fun t hstep => startPending_step hu hnew hstep⟩
  cases event with
  | takesLock coreStarts => exact hu
  | _ => exact hnew

/-- A handler that has a config and finds no core calls `startCoreLocked` with it. -/
theorem step_calls {configJson : String} {profileId : Option Uuid} (hcore : d.service.core = none)
    (hblank : isBlank configJson = false)
    (hhandler : d.handler = some (.starting configJson profileId) ∨
      d.handler = some (.recovering configJson profileId)) :
    ∃ d', d.step (.takesLock true) = some d' ∧ d'.coreCalls = d.coreCalls ++ [configJson] := by
  refine ⟨Device.start { d with handler := none } true configJson profileId, ?_, start_calls hcore hblank⟩
  rcases hhandler with hhandler | hhandler
  · simp only [step, takesLock, hhandler, Option.isSome_some, if_true]
  · simp only [step, takesLock, hhandler, Option.isSome_some, if_true]

/-- A config that is still remembered is started when the process dies and the system
restarts the service. -/
theorem run_sticky_calls {configJson : String} (hconfig : d.service.lastConfig = some configJson)
    (hblank : isBlank configJson = false) :
    ∃ ended, StepSystem.run step d [.processDies, .onStartCommand .sticky, .takesLock true] = some ended ∧
      ended.coreCalls = d.coreCalls ++ [configJson] ∧
      StepSystem.Guarded step (fun u event => ¬u.HandlesStart event) d
        [.processDies, .onStartCommand .sticky, .takesLock true] := by
  let read : Device := { d.processDies with handler := some (.recovering configJson d.service.lastProfileId) }
  have hdies : d.step .processDies = some d.processDies := rfl
  have hread : d.processDies.step (.onStartCommand .sticky) = some read := by
    rcases d.processDies.recover_cases with ⟨configJson', hconfig', -, hrecover⟩ | ⟨hno, -⟩
    · cases hconfig.symm.trans hconfig'
      exact congrArg some hrecover
    · rw [hno configJson hconfig] at hblank
      cases hblank
  obtain ⟨ended, hended, hcalls⟩ := step_calls (d := read) rfl hblank (Or.inr rfl)
  refine ⟨ended, ?_, hcalls, id, fun t ht => ?_⟩
  · rw [StepSystem.run_cons hdies, StepSystem.run_cons hread, StepSystem.run_cons hended, StepSystem.run_nil]
  · obtain rfl := Option.some.inj (hdies.symm.trans ht)
    refine ⟨id, fun t ht => ?_⟩
    obtain rfl := Option.some.inj (hread.symm.trans ht)
    exact ⟨fun ⟨_, _, hh, _⟩ => (nomatch hh), fun _ _ => trivial⟩

/-- A stop that has been handled leaves no core. -/
theorem stopped_of_stops (hstops : d.Stops event) (hstep : d.step event = some stopped) :
    stopped.service.core = none ∧ stopped.service.lastConfig = d.service.lastConfig ∧
      (event = .revokeTakesLock ∧ stopped.handler = d.handler ∨
        d.handler = some .stopping ∧ stopped.handler = none ∧ event ≠ .revokeTakesLock) := by
  cases event with
  | takesLock coreStarts =>
    have hstopping : d.handler = some .stopping := hstops
    rcases step_takesLock hstep with ⟨_, _, hhandler | hhandler, -⟩ | ⟨-, rfl⟩
    · cases hstopping.symm.trans hhandler
    · cases hstopping.symm.trans hhandler
    · exact ⟨rfl, rfl, Or.inr ⟨hstopping, rfl, by simp⟩⟩
  | revokeTakesLock =>
    simp only [step] at hstep
    split_ifs at hstep
    cases hstep
    exact ⟨rfl, rfl, Or.inl ⟨rfl, rfl⟩⟩
  | _ => exact hstops.elim

/-- What a handled stop leaves behind is decided by what it finds. -/
theorem forgotten_stopped_iff (hcoherent : d.Coherent) (hstops : d.Stops event)
    (hstep : d.step event = some stopped) : stopped.Forgotten ↔ d.RevokesAll event := by
  obtain ⟨-, hconfig, ⟨rfl, hhandler⟩ | ⟨hstopping, hhandler, hne⟩⟩ := stopped_of_stops hstops hstep
  · simp only [Forgotten, RevokesAll, hconfig, hhandler]
  · refine iff_of_true ⟨hconfig.trans (hcoherent.stopping hstopping), ?_⟩ ?_
    · rw [hhandler]
      exact fun _ _ hh => (nomatch hh)
    · cases event with
      | revokeTakesLock => exact absurd rfl hne
      | _ => trivial

/-- One call is enough to say that `startCoreLocked` was called. -/
theorem NotCalledUntil.not_called {anew : Device → DeviceEvent → Prop} {events : List DeviceEvent}
    {ended : Device} {configJson : String} (h : d.NotCalledUntil anew)
    (hrun : StepSystem.run step d events = some ended)
    (hcalls : ended.coreCalls = d.coreCalls ++ [configJson]) :
    ¬StepSystem.Guarded step (fun u event => ¬anew u event) d events := by
  intro hnew
  have hsame : d.coreCalls ++ [configJson] = d.coreCalls := hcalls.symm.trans (h events ended hrun hnew)
  simp at hsame

theorem NotCalledUntil.of_arrives (h : d.NotCalledUntil fun _ event => event.Arrives) :
    d.NotCalledUntil HandlesStart := by
  intro events ended hrun hnew
  refine h events ended hrun (StepSystem.guarded_of_invariant (fun _ => True) ?_ trivial hnew)
  intro u event _ hhandles
  refine ⟨fun harrives => hhandles ?_, fun _ _ => trivial⟩
  cases event with
  | onStartCommand intent => exact harrives
  | _ => exact harrives.elim

/-- A config that is left behind, remembered or read, is started. -/
theorem forgotten_of_notCalledUntil (hcoherent : d.Coherent) (hcore : d.service.core = none)
    (h : d.NotCalledUntil HandlesStart) : d.Forgotten := by
  refine ⟨?_, fun configJson profileId hhandler => ?_⟩
  · by_contra hconfig
    obtain ⟨configJson, hconfig⟩ := Option.ne_none_iff_exists'.mp hconfig
    obtain ⟨ended, hrun, hcalls, hnew⟩ := run_sticky_calls hconfig (hcoherent.remembered configJson hconfig)
    exact h.not_called hrun hcalls hnew
  · have hblank : isBlank configJson = false := hcoherent.recovering configJson profileId hhandler
    obtain ⟨ended, hstep, hcalls⟩ := step_calls hcore hblank (Or.inr hhandler)
    refine h.not_called ((StepSystem.run_cons hstep).trans StepSystem.run_nil) hcalls ⟨?_, fun _ _ => trivial⟩
    rintro ⟨_, _, hstarting, -⟩
    cases hhandler.symm.trans hstarting

theorem not_startPending_of_notCalledUntil (hcore : d.service.core = none)
    (h : d.NotCalledUntil fun _ event => event.Arrives) : ¬d.StartPending := by
  rintro ⟨configJson, profileId, hhandler, hblank⟩
  obtain ⟨ended, hstep, hcalls⟩ := step_calls hcore hblank (Or.inl hhandler)
  exact h.not_called ((StepSystem.run_cons hstep).trans StepSystem.run_nil) hcalls ⟨id, fun _ _ => trivial⟩

theorem startPending_stopped_iff (hstops : d.Stops event) (hstep : d.step event = some stopped) :
    stopped.StartPending ↔ d.StartPending := by
  obtain ⟨-, -, ⟨-, hhandler⟩ | ⟨hstopping, hhandler, -⟩⟩ := stopped_of_stops hstops hstep
  · simp only [StartPending, hhandler]
  · simp [StartPending, hhandler, hstopping]

/-- In every run, at every `ACTION_STOP` or `onRevoke` that has been handled:
`startCoreLocked` is not called until an `ACTION_START` with a config of its own is
handled, exactly when the stop leaves no config behind; and not until one comes in,
exactly when none was being handled either. -/
theorem stop_is_final_iff {events : List DeviceEvent} (hrun : StepSystem.run step {} events = some d)
    (hstops : d.Stops event) (hstep : d.step event = some stopped) :
    (stopped.NotCalledUntil HandlesStart ↔ d.RevokesAll event) ∧
      ((stopped.NotCalledUntil fun _ event => event.Arrives) ↔ d.RevokesAll event ∧ ¬d.StartPending) := by
  have hcoherent : d.Coherent := coherent_run hrun
  have hcore : stopped.service.core = none := (stopped_of_stops hstops hstep).1
  have hfinal : stopped.NotCalledUntil HandlesStart ↔ stopped.Forgotten :=
    ⟨forgotten_of_notCalledUntil (coherent_step hcoherent hstep) hcore,
      Forgotten.notCalledUntil_handlesStart⟩
  rw [← forgotten_stopped_iff hcoherent hstops hstep, ← startPending_stopped_iff hstops hstep]
  refine ⟨hfinal, fun h => ?_, fun ⟨hforgotten, hpending⟩ => ?_⟩
  · exact ⟨hfinal.mp h.of_arrives, not_startPending_of_notCalledUntil hcore h⟩
  · exact fun rest ended hrest hnew =>
      hforgotten.notCalledUntil_handlesStart rest ended hrest (guarded_handlesStart hpending hnew)

end Stopped

/-- The watchdog has read the config of a running core, and an `ACTION_STOP` comes in. -/
def stopping : List DeviceEvent :=
  [.onStartCommand (.start "config" none), .takesLock true, .openTun, .watchdogReads, .onStartCommand .stop]

/-- A stop is final when the watchdog schedules its restart after it. -/
theorem stop_is_final_late : ∃ d stopped, StepSystem.run step {} stopping = some d ∧
    d.step (.takesLock true) = some stopped ∧
    stopped.coreCalls = ["config"] ∧ stopped.NotCalledUntil fun _ event => event.Arrives := by
  have hrun : ∃ d stopped, StepSystem.run step {} stopping = some d ∧ d.step (.takesLock true) = some stopped ∧
      stopped.coreCalls = ["config"] ∧ d.handler = some .stopping := ⟨_, _, rfl, rfl, rfl, rfl⟩
  obtain ⟨d, stopped, hrun, hstep, hcalls, hstopping⟩ := hrun
  have hstops : d.Stops (.takesLock true) := hstopping
  have hidle : ¬d.StartPending := by
    rintro ⟨_, _, hstarting, -⟩
    cases hstopping.symm.trans hstarting
  exact ⟨d, stopped, hrun, hstep, hcalls, (stop_is_final_iff hrun hstops hstep).2.mpr ⟨trivial, hidle⟩⟩

/-- The process has died, the system restarts the service, and between the read of the
config and the start the VPN is revoked. -/
def revoked : List DeviceEvent :=
  [.onStartCommand (.start "config" none), .takesLock true, .openTun, .processDies,
    .onStartCommand .sticky, .onRevoke]

/-- The start that follows calls `startCoreLocked`. -/
theorem called_after_revoke : ∃ d stopped ended, StepSystem.run step {} revoked = some d ∧
    d.step .revokeTakesLock = some stopped ∧ stopped.coreCalls = ["config"] ∧
    stopped.step (.takesLock true) = some ended ∧ ended.coreCalls = ["config", "config"] ∧
    ¬stopped.NotCalledUntil HandlesStart := by
  have hrun : ∃ d stopped ended, StepSystem.run step {} revoked = some d ∧
      d.step .revokeTakesLock = some stopped ∧ stopped.coreCalls = ["config"] ∧
      stopped.step (.takesLock true) = some ended ∧ ended.coreCalls = ["config", "config"] ∧
      stopped.handler = some (.recovering "config" none) := ⟨_, _, _, rfl, rfl, rfl, rfl, rfl, rfl⟩
  obtain ⟨d, stopped, ended, hrun, hstep, hcalls, hended, hcalled, hrecovering⟩ := hrun
  refine ⟨d, stopped, ended, hrun, hstep, hcalls, hended, hcalled, fun hfinal => ?_⟩
  have hnot : ¬stopped.StartPending := by
    rintro ⟨_, _, hstarting, -⟩
    cases hrecovering.symm.trans hstarting
  have hlonger : ended.coreCalls = stopped.coreCalls ++ ["config"] := by
    rw [hcalled, hcalls]
    rfl
  exact hfinal.not_called ((StepSystem.run_cons hended).trans StepSystem.run_nil) hlonger
    ⟨hnot, fun _ _ => trivial⟩

end Device

end TauriVpn.Android
