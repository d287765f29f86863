import TauriVpn.Models
import TauriVpn.Text

/-! The Android service: what its preferences keep, what its process holds, and what
each intent does to it. A start may be asked for by the plugin, by a recovery that
the health watchdog scheduled, or by the system for a sticky service. -/

namespace TauriVpn.Android

/-- A running core: its config text, and the profile id that was kept with it. -/
structure Core where
  configJson : String
  profileId : Option Uuid

/-- The intents of `onStartCommand`; `sticky` is the null intent of a restart by the system. -/
inductive Intent where
  | start (configJson : String) (profileId : Option Uuid)
  | stop
  | restart
  | sticky

/-- `core` is the command server; the last two fields are the preferences. -/
structure Service where
  core : Option Core := none
  tunEstablished : Bool := false
  lastConfig : Option String := none
  lastProfileId : Option Uuid := none

namespace Service

def startCoreLocked (service : Service) (configJson : String) (profileId : Option Uuid) : Service :=
  { service with core := some ⟨configJson, profileId⟩ }

def stopCoreLocked (service : Service) : Service :=
  { service with core := none, tunEstablished := false }

/-- Stopping itself destroys the service, and that stops its core. -/
def stopSelf (service : Service) : Service := service.stopCoreLocked

/-- `start`, by whether `startCoreLocked` returns if it is called; `none` when its
exception leaves the service. -/
def start (service : Service) (coreStarts : Bool) (configJson : String) (profileId : Option Uuid) :
    Option Service :=
  if isBlank configJson then
    some service.stopSelf
  else match service.core with
    | some _ =>
      if service.tunEstablished then
        some service
      else if coreStarts then
        some (service.stopCoreLocked.startCoreLocked configJson profileId)
      else
        none
    | none =>
      if coreStarts then
        some (service.startCoreLocked configJson profileId)
      else
        some service.stopSelf

/-- `onStartCommand`. -/
def onStartCommand (service : Service) (coreStarts : Bool) : Intent → Option Service
  | .start configJson profileId =>
    let service :=
      if isBlank configJson then
        service
      else
        { service with lastConfig := some configJson, lastProfileId := profileId }
    service.start coreStarts configJson profileId
  | .stop => some { service with lastConfig := none, lastProfileId := none }.stopCoreLocked
  | .restart | .sticky =>
    match service.lastConfig with
    | some configJson =>
      if isBlank configJson then
        some service.stopSelf
      else
        service.start coreStarts configJson service.lastProfileId
    | none => some service.stopSelf

/-- `stop`, which is also what `onDestroy` and the core's `serviceStop` do. -/
def stop (service : Service) : Service := service.stopCoreLocked.stopSelf

/-- `onRevoke`, which forgets the config and keeps the profile id. -/
def onRevoke (service : Service) : Service := { service with lastConfig := none }.stop

/-- The tunnel is only up while there is a core. -/
def TunHasCore (service : Service) : Prop := service.tunEstablished = true → service.core ≠ none

section Lemmas
variable {service service' : Service} {coreStarts : Bool} {configJson : String}
  {profileId : Option Uuid}

theorem tunHasCore_stopCoreLocked : service.stopCoreLocked.TunHasCore := fun h => (nomatch h)

theorem stopCoreLocked_of_noCore (h : service.TunHasCore) (hcore : service.core = none) :
    service.stopCoreLocked = service := by
  have htun : service.tunEstablished = false := by
    by_contra htun
    exact h (Bool.eq_true_of_not_eq_false htun) hcore
  cases service
  simp_all [stopCoreLocked]

/-- A start stops, keeps what is up, or runs the given config from scratch. -/
theorem start_cases (h : service.TunHasCore)
    (hstart : service.start coreStarts configJson profileId = some service') :
    service' = service.stopCoreLocked ∨ (service' = service ∧ service.tunEstablished = true) ∨
      service' = service.stopCoreLocked.startCoreLocked configJson profileId := by
  unfold start at hstart
  split at hstart
  · exact Or.inl (Option.some.inj hstart).symm
  · split at hstart
    · split at hstart
      · rename_i htun
        exact Or.inr (Or.inl ⟨(Option.some.inj hstart).symm, htun⟩)
      · split at hstart
        · exact Or.inr (Or.inr (Option.some.inj hstart).symm)
        · cases hstart
    · rename_i hcore
      split at hstart
      · rw [stopCoreLocked_of_noCore h hcore]
        exact Or.inr (Or.inr (Option.some.inj hstart).symm)
      · exact Or.inl (Option.some.inj hstart).symm

theorem start_established (h : service.TunHasCore) (htun : service.tunEstablished = true)
    (hblank : isBlank configJson = false) :
    service.start coreStarts configJson profileId = some service := by
  obtain ⟨core, hcore⟩ := Option.ne_none_iff_exists'.mp (h htun)
  simp [start, hblank, hcore, htun]

theorem tunHasCore_start (h : service.TunHasCore)
    (hstart : service.start coreStarts configJson profileId = some service') : service'.TunHasCore := by
  rcases start_cases h hstart with rfl | ⟨rfl, -⟩ | rfl
  · exact tunHasCore_stopCoreLocked
  · exact h
  · exact fun htun => (nomatch htun)

theorem tunHasCore_onStartCommand {intent : Intent} (h : service.TunHasCore)
    (hcommand : service.onStartCommand coreStarts intent = some service') : service'.TunHasCore := by
  cases intent with
  | start configJson profileId =>
    simp only [onStartCommand] at hcommand
    refine tunHasCore_start ?_ hcommand
    split_ifs
    · exact h
    · exact h
  | stop =>
    cases hcommand
    exact tunHasCore_stopCoreLocked
  | restart | sticky =>
    simp only [onStartCommand] at hcommand
    split at hcommand
    · split_ifs at hcommand
      · cases hcommand
        exact tunHasCore_stopCoreLocked
      · exact tunHasCore_start h hcommand
    · cases hcommand
      exact tunHasCore_stopCoreLocked

end Lemmas

end Service

end TauriVpn.Android
