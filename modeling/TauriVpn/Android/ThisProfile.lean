import TauriVpn.Android.App

/-! When a `connect` returns `Ok`, which tunnel is up? A connect whose start finds the
native side quiet, and that no other command overtakes, ends with a tunnel that
runs its own config. -/

namespace TauriVpn.Android

/-- Asks for a core of the config that the preferences keep. -/
def Intent.IsRecovery : Intent → Prop
  | .restart | .sticky => True
  | _ => False

/-- The call is past its native start. -/
def ConnectStage.Requested : ConnectStage → Prop
  | .starting | .requesting _ _ => False
  | _ => True

namespace App

/-- A `connect` that may still return `Ok`. -/
def InFlight (s : App) (i : ℕ) (options : ConnectOptions) (stage : ConnectStage) : Prop :=
  s.calls i = some (.connect options stage)

/-- No core, and no intent on its way that starts one. -/
def Quiet (s : App) : Prop :=
  s.service.core = none ∧ (∀ configJson profileId, .start configJson profileId ∉ s.intents) ∧
    (s.service.lastConfig = none ∨ ∀ intent ∈ s.intents, intent = .stop)

/-- A connect is admitted when no other is in flight, its native start finds the
native side quiet, and no disconnect and no query of another tunnel overtakes it. -/
def Undisturbed (s : App) : Event → Prop
  | .connect _ options =>
    (∃ status, s.status.beginConnect options = .ok status) →
      ∀ i options' stage, ¬s.InFlight i options' stage
  | .startNativeVpn _ _ => s.Quiet
  | .stopNativeVpn _ _ => ∀ i options stage, s.InFlight i options stage → ¬stage.Requested
  | .disconnectReturns _ => ∀ i options stage, ¬s.InFlight i options stage
  | .queryStatus _ =>
    s.service.tunEstablished = true → ∀ i options stage, s.InFlight i options stage → stage.Requested
  | _ => True

/-- A `connect` that returns `Ok` leaves its own config running and its profile active. -/
def RunsThisProfile (s : App) (event : Event) (t : App) : Prop :=
  ∀ i options warnings config, event = .connectReturns i →
    s.InFlight i options (.succeeded warnings config) →
      t.service.tunEstablished = true ∧
        t.service.core = some ⟨config.text, some options.profile.id⟩ ∧
        t.status.activeProfileId = some options.profile.id

end App

/-! ### The native side of a connect -/

/-- The start intent is on its way, and what comes before it starts nothing. -/
def Awaiting (service : Service) (intents : List Intent) (config : ConfigText) (profileId : Uuid) : Prop :=
  service.core = none ∧ ∃ before after,
    intents = before ++ .start config.text (some profileId) :: after ∧
      (∀ configJson profileId', .start configJson profileId' ∉ before) ∧
      (service.lastConfig = none ∨ ∀ intent ∈ before, intent = .stop) ∧
      ∀ intent ∈ after, intent.IsRecovery

/-- The start intent was handled, and only its config can run from now on. -/
def Started (service : Service) (intents : List Intent) (config : ConfigText) (profileId : Uuid) : Prop :=
  service.lastConfig = some config.text ∧ service.lastProfileId = some profileId ∧
    (∀ intent ∈ intents, intent.IsRecovery) ∧
    (service.core = none ∨ service.core = some ⟨config.text, some profileId⟩)

/-- What the native side has made of a connect in flight. -/
def Native (service : Service) (intents : List Intent) (options : ConnectOptions) : ConnectStage → Prop
  | .starting | .requesting _ _ => True
  | .waiting _ config =>
    Awaiting service intents config options.profile.id ∨ Started service intents config options.profile.id
  | .up _ config | .succeeded _ config =>
    Started service intents config options.profile.id ∧ service.tunEstablished = true

section Native
variable {service service' : Service} {intents : List Intent} {config : ConfigText} {profileId : Uuid}
  {coreStarts : Bool}

theorem Awaiting.noTun (h : Awaiting service intents config profileId) (htun : service.TunHasCore) :
    service.tunEstablished ≠ true := fun hup => htun hup h.1

theorem Awaiting.append (h : Awaiting service intents config profileId) {intent : Intent}
    (hintent : intent.IsRecovery) : Awaiting service (intents ++ [intent]) config profileId := by
  obtain ⟨hcore, before, after, rfl, hbefore, hlast, hafter⟩ := h
  refine ⟨hcore, before, after ++ [intent], by simp, hbefore, hlast, ?_⟩
  simpa [or_imp, forall_and] using ⟨hafter, hintent⟩

theorem Started.append (h : Started service intents config profileId) {intent : Intent}
    (hintent : intent.IsRecovery) : Started service (intents ++ [intent]) config profileId := by
  obtain ⟨hconfig, hid, hintents, hcore⟩ := h
  refine ⟨hconfig, hid, ?_, hcore⟩
  simpa [or_imp, forall_and] using ⟨hintents, hintent⟩

/-- A start of the config that is already kept. -/
theorem Started.start (htun : service.TunHasCore) (h : Started service intents config profileId)
    (hstart : service.start coreStarts config.text (some profileId) = some service') :
    Started service' intents config profileId ∧
      (service.tunEstablished = true → service'.tunEstablished = true) := by
  obtain ⟨hconfig, hid, hintents, hcore⟩ := h
  rcases Service.start_cases htun hstart with rfl | ⟨rfl, hup⟩ | rfl
  · refine ⟨⟨hconfig, hid, hintents, Or.inl rfl⟩, fun hup => ?_⟩
    rw [Service.start_established htun hup config.notBlank] at hstart
    rw [← Option.some.inj hstart]
    exact hup
  · exact ⟨⟨hconfig, hid, hintents, hcore⟩, fun h => h⟩
  · refine ⟨⟨hconfig, hid, hintents, Or.inr rfl⟩, fun hup => ?_⟩
    rw [Service.start_established htun hup config.notBlank] at hstart
    rw [← Option.some.inj hstart]
    exact hup

theorem Started.deliver {intent : Intent} (htun : service.TunHasCore)
    (h : Started service (intent :: intents) config profileId)
    (hcommand : service.onStartCommand coreStarts intent = some service') :
    Started service' intents config profileId ∧
      (service.tunEstablished = true → service'.tunEstablished = true) := by
  obtain ⟨hconfig, hid, hintents, hcore⟩ := h
  have hrest : Started service intents config profileId :=
    ⟨hconfig, hid, fun x hx => hintents x (List.mem_cons_of_mem _ hx), hcore⟩
  have hrecovery := hintents intent List.mem_cons_self
  cases intent with
  | start configJson id => exact hrecovery.elim
  | stop => exact hrecovery.elim
  | restart | sticky =>
    simp only [Service.onStartCommand, hconfig, config.notBlank, Bool.false_eq_true, if_false, hid] at hcommand
    exact hrest.start htun hcommand

theorem Awaiting.deliver {intent : Intent} (htun : service.TunHasCore)
    (h : Awaiting service (intent :: intents) config profileId)
    (hcommand : service.onStartCommand coreStarts intent = some service') :
    Awaiting service' intents config profileId ∨ Started service' intents config profileId := by
  obtain ⟨hcore, before, after, hintents, hbefore, hlast, hafter⟩ := h
  cases before with
  | nil =>
    obtain ⟨rfl, rfl⟩ := List.cons.inj hintents
    right
    let kept : Service :=
      { service with lastConfig := some config.text, lastProfileId := some profileId }
    have hstart : kept.start coreStarts config.text (some profileId) = some service' := by
      simpa only [Service.onStartCommand, config.notBlank, Bool.false_eq_true, if_false] using hcommand
    have htun' : kept.TunHasCore := htun
    have hkept : Started kept intents config profileId := ⟨rfl, rfl, hafter, Or.inl hcore⟩
    exact (hkept.start htun' hstart).1
  | cons first before =>
    obtain ⟨rfl, rfl⟩ := List.cons.inj hintents
    left
    have hbefore' : ∀ configJson id, .start configJson id ∉ before :=
      fun configJson id hmem => hbefore configJson id (List.mem_cons_of_mem _ hmem)
    cases intent with
    | start configJson id => exact absurd List.mem_cons_self (hbefore configJson id)
    | stop =>
      cases hcommand
      exact ⟨rfl, before, after, rfl, hbefore', Or.inl rfl, hafter⟩
    | restart | sticky =>
      have hnone : service.lastConfig = none :=
        hlast.resolve_right fun hall => Intent.noConfusion (hall _ List.mem_cons_self)
      simp only [Service.onStartCommand, hnone] at hcommand
      cases hcommand
      exact ⟨rfl, before, after, rfl, hbefore', Or.inl hnone, hafter⟩

theorem Native.deliver {intent : Intent} {options : ConnectOptions} {stage : ConnectStage}
    (htun : service.TunHasCore) (h : Native service (intent :: intents) options stage)
    (hcommand : service.onStartCommand coreStarts intent = some service') :
    Native service' intents options stage := by
  cases stage with
  | starting | requesting _ _ => trivial
  | waiting warnings config =>
    rcases h with hawaiting | hstarted
    · exact hawaiting.deliver htun hcommand
    · exact Or.inr (hstarted.deliver htun hcommand).1
  | up warnings config | succeeded warnings config =>
    exact (h.1.deliver htun hcommand).imp id fun hup => hup h.2

theorem Native.append {intent : Intent} {options : ConnectOptions} {stage : ConnectStage}
    (h : Native service intents options stage) (hintent : intent.IsRecovery) :
    Native service (intents ++ [intent]) options stage := by
  cases stage with
  | starting | requesting _ _ => trivial
  | waiting warnings config => exact h.imp (fun ha => ha.append hintent) fun hs => hs.append hintent
  | up warnings config | succeeded warnings config => exact ⟨h.1.append hintent, h.2⟩

end Native

namespace App

/-! ### The invariant -/

structure Inv (s : App) : Prop where
  tun : s.service.TunHasCore
  single : ∀ i j options options' stage stage', s.InFlight i options stage →
    s.InFlight j options' stage' → i = j
  active : ∀ i options stage, s.InFlight i options stage →
    s.status.activeProfileId = some options.profile.id
  native : ∀ i options stage, s.InFlight i options stage → Native s.service s.intents options stage
  query : ∀ query id, s.query = some query → query.established = true → query.profileId = some id →
    ∀ i options stage, s.InFlight i options stage → options.profile.id = id

section Steps
variable {s t : App} {i : ℕ}

theorem inFlight_setCall {call : Option Call} {j : ℕ} {options : ConnectOptions} {stage : ConnectStage}
    (h : (s.setCall i call).InFlight j options stage) :
    (j = i ∧ call = some (.connect options stage)) ∨ (j ≠ i ∧ s.InFlight j options stage) := by
  unfold InFlight at h
  by_cases hj : j = i
  · rw [hj, setCall_self] at h
    exact Or.inl ⟨hj, h⟩
  · rw [setCall_of_ne s call hj] at h
    exact Or.inr ⟨hj, h⟩

/-- With no connect in flight only the tunnel matters. -/
theorem Inv.of_none (htun : t.service.TunHasCore) (hnone : ∀ i options stage, ¬t.InFlight i options stage) :
    Inv t where
  tun := htun
  single i _ _ _ _ _ h := absurd h (hnone i _ _)
  active i _ _ h := absurd h (hnone i _ _)
  native i _ _ h := absurd h (hnone i _ _)
  query _ _ _ _ _ i _ _ h := absurd h (hnone i _ _)

/-- The connects in flight are those from before, and the status and the query are the same. -/
theorem Inv.of_same (h : Inv s) (htun : t.service.TunHasCore)
    (hactive : t.status.activeProfileId = s.status.activeProfileId) (hquery : t.query = s.query)
    (hcalls : ∀ i options stage, t.InFlight i options stage → ∃ stage', s.InFlight i options stage')
    (hnative : ∀ i options stage, t.InFlight i options stage → Native t.service t.intents options stage) :
    Inv t where
  tun := htun
  single i j options options' stage stage' hi hj := by
    obtain ⟨_, hi⟩ := hcalls i options stage hi
    obtain ⟨_, hj⟩ := hcalls j options' stage' hj
    exact h.single i j _ _ _ _ hi hj
  active i options stage hi := by
    obtain ⟨stage', hi⟩ := hcalls i options stage hi
    rw [hactive]
    exact h.active i options stage' hi
  native := hnative
  query query id hq hestablished hid i options stage hi := by
    obtain ⟨stage', hi⟩ := hcalls i options stage hi
    rw [hquery] at hq
    exact h.query query id hq hestablished hid i options stage' hi

/-- One call takes a step of its own, and the native side none. -/
theorem Inv.setCall {call : Option Call} (h : Inv s) (hservice : t.service = s.service)
    (hintents : t.intents = s.intents) (hquery : t.query = s.query)
    (hactive : t.status.activeProfileId = s.status.activeProfileId) (hcalls : t.calls = s.calls)
    (hcall : ∀ options stage, call = some (.connect options stage) →
      ∃ stage', s.InFlight i options stage' ∧ Native s.service s.intents options stage) :
    Inv (t.setCall i call) := by
  have hold : ∀ j options stage, t.InFlight j options stage → s.InFlight j options stage := by
    intro j options stage hj
    rwa [InFlight, hcalls] at hj
  refine h.of_same (hservice ▸ h.tun) hactive hquery (fun j options stage hj => ?_)
    fun j options stage hj => ?_
  · rcases inFlight_setCall hj with ⟨rfl, hc⟩ | ⟨-, hj⟩
    · obtain ⟨stage', hs, -⟩ := hcall options stage hc
      exact ⟨stage', hs⟩
    · exact ⟨stage, hold j options stage hj⟩
  · rw [show (t.setCall i call).service = s.service from hservice,
      show (t.setCall i call).intents = s.intents from hintents]
    rcases inFlight_setCall hj with ⟨rfl, hc⟩ | ⟨-, hj⟩
    · obtain ⟨-, -, hn⟩ := hcall options stage hc
      exact hn
    · exact h.native j options stage (hold j options stage hj)

theorem inv_connect (h : Inv s) {options : ConnectOptions} (hguard : s.Undisturbed (.connect i options))
    (hstep : s.connect i options = some t) : Inv t := by
  unfold connect at hstep
  split at hstep
  · cases hstep
  · rename_i hlock
    have hquery : s.query = none := by
      simpa using (not_or.mp hlock).1
    split at hstep
    · cases hstep
      exact h
    · rename_i status hbegin
      have hnone := hguard ⟨status, hbegin⟩
      obtain ⟨-, -, -, hactive⟩ := ConnectionStatus.beginConnect_ok hbegin
      cases hstep
      -- the new call is the only connect in flight
      have hnew : ∀ j options' stage,
          ({ s with status }.setCall i (some (.connect options .starting))).InFlight j options' stage →
            j = i ∧ options' = options ∧ stage = .starting := by
        intro j options' stage hj
        rcases inFlight_setCall hj with ⟨rfl, hc⟩ | ⟨-, hj⟩
        · cases hc
          exact ⟨rfl, rfl, rfl⟩
        · exact absurd hj (hnone j options' stage)
      refine ⟨h.tun, fun j k o o' st st' hj hk => ?_, fun j o st hj => ?_, fun j o st hj => ?_,
        fun query id hq => ?_⟩
      · rw [(hnew j o st hj).1, (hnew k o' st' hk).1]
      · obtain ⟨-, rfl, -⟩ := hnew j o st hj
        exact hactive
      · obtain ⟨-, -, rfl⟩ := hnew j o st hj
        trivial
      · rw [show s.query = some query from hq] at hquery
        cases hquery

theorem inv_startMobile (h : Inv s) {o : StartMobileOutcomes}
    (hstep : s.startMobile i o = some t) : Inv t := by
  unfold startMobile at hstep
  split at hstep
  · rename_i options hcall
    split at hstep
    · cases hstep
      exact h.setCall rfl rfl rfl rfl rfl fun _ _ hc => nomatch hc
    · cases hstep
      refine h.setCall rfl rfl rfl rfl rfl fun _ _ hc => ?_
      cases hc
      exact ⟨_, hcall, trivial⟩
  · cases hstep

/-- The native start of a connect that finds the native side quiet. -/
theorem inv_startNativeVpn (h : Inv s) {outcome : Except String Unit} (hquiet : s.Quiet)
    (hstep : s.startNativeVpn i outcome = some t) : Inv t := by
  unfold startNativeVpn at hstep
  split at hstep
  · cases hstep
    exact h.setCall rfl rfl rfl rfl rfl fun _ _ hc => nomatch hc
  · rename_i options warnings config _ hcall
    cases hstep
    obtain ⟨hcore, hnostart, hlast⟩ := hquiet
    have hdown : ¬s.service.tunEstablished = true := fun hup => h.tun hup hcore
    have hstart : s.startVpn config options.profile.id =
        { s with intents := s.intents ++ [.start config.text (some options.profile.id)] } := by
      rw [startVpn, if_neg hdown]
    have hawaiting : Awaiting s.service (s.intents ++ [.start config.text (some options.profile.id)])
        config options.profile.id :=
      ⟨hcore, s.intents, [], rfl, hnostart, hlast, fun _ hmem => nomatch hmem⟩
    rw [hstart]
    have hsingle : ∀ j options' stage, s.InFlight j options' stage → j = i :=
      fun j options' stage hj => h.single j i _ _ _ _ hj hcall
    refine h.of_same h.tun rfl rfl (fun j o st hj => ?_) fun j o st hj => ?_
    · rcases inFlight_setCall hj with ⟨rfl, hc⟩ | ⟨hne, hj⟩
      · cases hc
        exact ⟨_, hcall⟩
      · exact absurd (hsingle j o st hj) hne
    · rcases inFlight_setCall hj with ⟨rfl, hc⟩ | ⟨hne, hj⟩
      · cases hc
        exact Or.inl hawaiting
      · exact absurd (hsingle j o st hj) hne
  · cases hstep

theorem inv_pollStatus (h : Inv s) (hstep : s.pollStatus i = some t) : Inv t := by
  unfold pollStatus at hstep
  split at hstep
  · rename_i options warnings config hcall
    split at hstep
    · rename_i hup
      cases hstep
      refine h.setCall rfl rfl rfl rfl rfl fun _ _ hc => ?_
      cases hc
      rcases h.native i options _ hcall with hawaiting | hstarted
      · exact absurd hup (hawaiting.noTun h.tun)
      · exact ⟨_, hcall, hstarted, hup⟩
    · cases hstep
      exact h
  · cases hstep

theorem inv_startTimesOut (h : Inv s) {detail : String}
    (hstep : s.startTimesOut i detail = some t) : Inv t := by
  unfold startTimesOut at hstep
  split at hstep
  · cases hstep
    exact h.setCall rfl rfl rfl rfl rfl fun _ _ hc => nomatch hc
  · cases hstep

theorem inv_markConnected (h : Inv s) (hstep : s.markConnected i = some t) : Inv t := by
  unfold markConnected at hstep
  split at hstep
  · rename_i options warnings config hcall
    cases hstep
    refine h.setCall rfl rfl rfl rfl rfl fun _ _ hc => ?_
    cases hc
    exact ⟨_, hcall, h.native i options (.up warnings config) hcall⟩
  · cases hstep

theorem inv_connectReturns (h : Inv s) (hstep : s.connectReturns i = some t) : Inv t := by
  unfold connectReturns at hstep
  split at hstep
  · cases hstep
  · split at hstep
    · cases hstep
      exact h.setCall rfl rfl rfl (ConnectionStatus.endConnect_activeProfileId _ _) rfl
        fun _ _ hc => nomatch hc
    · cases hstep
      exact h.setCall rfl rfl rfl (ConnectionStatus.endConnect_activeProfileId _ _) rfl
        fun _ _ hc => nomatch hc
    · cases hstep

theorem inv_disconnect (h : Inv s) (hstep : s.disconnect i = some t) : Inv t := by
  unfold disconnect at hstep
  split at hstep
  · cases hstep
  · cases hstep
    exact h.setCall rfl rfl rfl rfl rfl fun _ _ hc => nomatch hc

theorem inv_stopMobile (h : Inv s) {registered : Bool}
    (hstep : s.stopMobile i registered = some t) : Inv t := by
  unfold stopMobile at hstep
  split at hstep
  · split at hstep
    · cases hstep
      exact h.setCall rfl rfl rfl rfl rfl fun _ _ hc => nomatch hc
    · cases hstep
      exact h.setCall rfl rfl rfl rfl rfl fun _ _ hc => nomatch hc
  · cases hstep

/-- A stop that no connect past its native start has in front of it. -/
theorem inv_stopNativeVpn (h : Inv s) {outcome : Except String Unit}
    (hguard : s.Undisturbed (.stopNativeVpn i outcome))
    (hstep : s.stopNativeVpn i outcome = some t) : Inv t := by
  unfold stopNativeVpn at hstep
  split at hstep
  · cases hstep
    exact h.setCall rfl rfl rfl rfl rfl fun _ _ hc => nomatch hc
  · cases hstep
    refine h.of_same h.tun rfl rfl (fun j o st hj => ?_) fun j o st hj => ?_
    · rcases inFlight_setCall hj with ⟨-, hc⟩ | ⟨-, hj⟩
      · cases hc
      · exact ⟨st, hj⟩
    · rcases inFlight_setCall hj with ⟨-, hc⟩ | ⟨-, hj⟩
      · cases hc
      · have hearly := hguard j o st hj
        cases st with
        | starting | requesting _ _ => trivial
        | waiting _ _ | up _ _ | succeeded _ _ => exact absurd trivial hearly
  · cases hstep

theorem inv_markDisconnected (h : Inv s) (hstep : s.markDisconnected i = some t) : Inv t := by
  unfold markDisconnected at hstep
  split at hstep
  · cases hstep
    exact h.setCall rfl rfl rfl rfl rfl fun _ _ hc => nomatch hc
  · cases hstep

theorem inv_disconnectReturns (h : Inv s) (hguard : s.Undisturbed (.disconnectReturns i))
    (hstep : s.disconnectReturns i = some t) : Inv t := by
  unfold disconnectReturns at hstep
  split at hstep
  · cases hstep
  · split at hstep
    · cases hstep
      refine Inv.of_none h.tun fun j o st hj => ?_
      rcases inFlight_setCall hj with ⟨-, hc⟩ | ⟨-, hj⟩
      · cases hc
      · exact hguard j o st hj
    · cases hstep

/-- An answer that a tunnel is up is about the connect in flight. -/
theorem inv_queryStatus (h : Inv s) {activity : Bool} (hguard : s.Undisturbed (.queryStatus activity))
    (hstep : s.queryStatus activity = some t) : Inv t := by
  unfold queryStatus at hstep
  split at hstep
  · cases hstep
  · cases hstep
    refine ⟨h.tun, h.single, h.active, h.native, ?_⟩
    rintro _ id ⟨⟩ hup hid j o st hj
    have hlast : s.service.lastProfileId = some id := by
      cases activity with
      | true => exact hid
      | false => cases hid
    have hrequested := hguard hup j o st hj
    have hnative := h.native j o st hj
    have hstarted : s.service.lastProfileId = some o.profile.id := by
      cases st with
      | starting | requesting _ _ => exact hrequested.elim
      | waiting _ config =>
        rcases hnative with hawaiting | hstarted
        · exact absurd hup (hawaiting.noTun h.tun)
        · exact hstarted.2.1
      | up _ config | succeeded _ config => exact hnative.1.2.1
    rw [hstarted] at hlast
    exact Option.some.inj hlast

theorem inv_recordStatus (h : Inv s) (hstep : s.recordStatus = some t) : Inv t := by
  unfold recordStatus at hstep
  split at hstep
  · rename_i query hquery
    cases hstep
    refine ⟨h.tun, h.single, h.active, h.native, ?_⟩
    rintro _ id ⟨⟩ hup hid
    exact h.query query id hquery hup hid
  · cases hstep

theorem inv_statusReturns (h : Inv s) (hstep : s.statusReturns = some t) : Inv t := by
  unfold statusReturns at hstep
  split at hstep
  · rename_i query hquery
    split at hstep
    · cases hstep
      refine ⟨h.tun, h.single, fun j o st hj => ?_, h.native, fun _ _ hq => (nomatch hq)⟩
      have hactive := h.active j o st hj
      rw [ConnectionStatus.reconcile_activeProfileId]
      split
      · rename_i hup
        cases hid : query.profileId with
        | none => exact hactive
        | some id => rw [h.query query id hquery hup hid j o st hj, Option.some_or]
      · exact hactive
    · cases hstep
  · cases hstep

theorem inv_restarted (h : Inv s) : Inv s.restarted :=
  Inv.of_none h.tun fun _ _ _ hj => nomatch hj

theorem inv_died : Inv s.died :=
  Inv.of_none Service.tunHasCore_stopCoreLocked fun _ _ _ hj => nomatch hj

theorem inv_deliverIntent (h : Inv s) {coreStarts : Bool}
    (hstep : s.deliverIntent coreStarts = some t) : Inv t := by
  unfold deliverIntent at hstep
  split at hstep
  · cases hstep
  · rename_i intent intents hintents
    split at hstep
    · rename_i service hcommand
      cases hstep
      refine h.of_same (Service.tunHasCore_onStartCommand h.tun hcommand) rfl rfl
        (fun j o st hj => ⟨st, hj⟩) fun j o st hj => ?_
      have hnative := h.native j o st hj
      rw [hintents] at hnative
      exact hnative.deliver h.tun hcommand
    · cases hstep
      exact inv_died

theorem inv_tunUp (h : Inv s) (hstep : s.tunUp = some t) : Inv t := by
  unfold tunUp at hstep
  split at hstep
  · rename_i hcore
    cases hstep
    have hcore' : s.service.core ≠ none := Option.isSome_iff_ne_none.mp hcore
    refine h.of_same (fun _ => hcore') rfl rfl (fun j o st hj => ⟨st, hj⟩) fun j o st hj => ?_
    have hnative := h.native j o st hj
    cases st with
    | starting | requesting _ _ => trivial
    | waiting _ config =>
      rcases hnative with hawaiting | hstarted
      · exact absurd hawaiting.1 hcore'
      · exact Or.inr hstarted
    | up _ config | succeeded _ config => exact ⟨hnative.1, rfl⟩
  · cases hstep

theorem inv_alarmFires (h : Inv s) (hstep : s.alarmFires = some t) : Inv t := by
  unfold alarmFires at hstep
  split at hstep
  · cases hstep
    exact h.of_same h.tun rfl rfl (fun j o st hj => ⟨st, hj⟩)
      fun j o st hj => (h.native j o st hj).append trivial
  · cases hstep

theorem inv_scheduleServiceRestart (h : Inv s) (hstep : s.scheduleServiceRestart = some t) :
    Inv t := by
  unfold scheduleServiceRestart at hstep
  split at hstep
  · cases hstep
    exact ⟨h.tun, h.single, h.active, h.native, h.query⟩
  · cases hstep

theorem inv_step (h : Inv s) {event : Event} (hguard : s.Undisturbed event)
    (hstep : s.step event = some t) : Inv t := by
  cases event with
  | connect i options => exact inv_connect h hguard hstep
  | startMobile i o => exact inv_startMobile h hstep
  | startNativeVpn i outcome => exact inv_startNativeVpn h hguard hstep
  | pollStatus i => exact inv_pollStatus h hstep
  | startTimesOut i detail => exact inv_startTimesOut h hstep
  | markConnected i => exact inv_markConnected h hstep
  | connectReturns i => exact inv_connectReturns h hstep
  | disconnect i => exact inv_disconnect h hstep
  | stopMobile i registered => exact inv_stopMobile h hstep
  | stopNativeVpn i outcome => exact inv_stopNativeVpn h hguard hstep
  | markDisconnected i => exact inv_markDisconnected h hstep
  | disconnectReturns i => exact inv_disconnectReturns h hguard hstep
  | queryStatus activity => exact inv_queryStatus h hguard hstep
  | recordStatus => exact inv_recordStatus h hstep
  | statusReturns => exact inv_statusReturns h hstep
  | deliverIntent coreStarts => exact inv_deliverIntent h hstep
  | tunUp => exact inv_tunUp h hstep
  | scheduleServiceRestart => exact inv_scheduleServiceRestart h hstep
  | alarmFires => exact inv_alarmFires h hstep
  | appRestarts =>
    cases hstep
    exact inv_restarted h
  | processDies =>
    cases hstep
    exact inv_died

/-- What the invariant says when a connect returns `Ok`. -/
theorem Inv.runsThisProfile (h : Inv s) {event : Event} (hstep : s.step event = some t) :
    RunsThisProfile s event t := by
  rintro i options warnings config rfl hcall
  obtain ⟨⟨-, -, -, hcore⟩, hup⟩ := h.native i options _ hcall
  have hactive := h.active i options _ hcall
  rw [step, connectReturns] at hstep
  split at hstep
  · cases hstep
  · rw [hcall] at hstep
    cases hstep
    refine ⟨hup, hcore.resolve_left (h.tun hup), ?_⟩
    exact (ConnectionStatus.endConnect_activeProfileId _ _).trans hactive

end Steps

/-- In a run in which nothing disturbs a connect, every connect that returns `Ok`
leaves a tunnel up that runs its config, and its profile active. -/
theorem connected_means_this_profile (events : List Event)
    (hguard : StepSystem.Guarded step Undisturbed {} events) :
    StepSystem.AfterEach step RunsThisProfile {} events := by
  have hinit : Inv {} := Inv.of_none (fun hup => (nomatch hup)) fun _ _ _ hj => nomatch hj
  refine StepSystem.afterEach_of_guarded Inv ?_ hinit hguard
  exact fun s event t h hg hstep => ⟨h.runsThisProfile hstep, inv_step h hg hstep⟩

/-- A native start that finds the tunnel of another config up has its connect return
`Ok` over that tunnel. -/
theorem other_profile_of_established {s : App} (i : ℕ) (options : ConnectOptions)
    (warnings : List String) (config : ConfigText)
    (hcall : s.InFlight i options (.requesting warnings config)) (hquery : s.query = none)
    (hup : s.service.tunEstablished = true)
    (hother : s.service.core ≠ some ⟨config.text, some options.profile.id⟩) :
    ¬StepSystem.AfterEach step RunsThisProfile s
      [.startNativeVpn i (.ok ()), .pollStatus i, .markConnected i, .connectReturns i] := by
  intro h
  have hstart : s.startNativeVpn i (.ok ()) =
      some (s.setCall i (some (.connect options (.waiting warnings config)))) := by
    unfold startNativeVpn startVpn
    rw [show s.calls i = _ from hcall]
    simp only [if_pos hup]
  obtain ⟨-, h⟩ := h _ hstart
  obtain ⟨-, h⟩ := h _ (by rw [step, pollStatus, setCall_self]; exact if_pos hup)
  obtain ⟨-, h⟩ := h _ (by rw [step, markConnected, setCall_self])
  obtain ⟨hruns, -⟩ := h _ (by
    rw [step, connectReturns, setCall_self, if_neg (by simp [setCall, hquery])])
  exact hother (hruns i options warnings config rfl (setCall_self _ _ _)).2.1

/-! ### Two runs -/

def sampleOptions (id : Uuid) : ConnectOptions where
  profile := { id, name := "VLESS", protocol := .vless, server := "vpn.example", port := 443, auth := {} }

/-- Every step of `start_mobile` before its native call succeeds. -/
def sampleOutcomes (config : ConfigText) : StartMobileOutcomes :=
  { config := .ok .null, serialize := .ok config, registered := true }

def firstConfig : ConfigText := ⟨"first", by decide⟩
def secondConfig : ConfigText := ⟨"second", by decide⟩

/-- A connect to the first profile, up to its return. -/
def connectFirst : List Event :=
  [.connect 0 (sampleOptions 1), .startMobile 0 (sampleOutcomes firstConfig),
    .startNativeVpn 0 (.ok ()), .deliverIntent true, .tunUp, .pollStatus 0, .markConnected 0,
    .connectReturns 0]

theorem connected_means_this_profile_first :
    StepSystem.AfterEach step RunsThisProfile {} connectFirst := by
  refine connected_means_this_profile connectFirst ⟨fun _ _ _ _ hj => (nomatch hj), fun _ h => ?_⟩
  obtain rfl := Option.some.inj h
  refine ⟨trivial, fun _ h => ?_⟩
  obtain rfl := Option.some.inj h
  refine ⟨⟨rfl, fun _ _ hmem => (nomatch hmem), Or.inl rfl⟩, fun _ h => ?_⟩
  obtain rfl := Option.some.inj h
  refine ⟨trivial, fun _ _ => ⟨trivial, fun _ _ => ⟨trivial, fun _ _ => ⟨trivial, fun _ _ =>
    ⟨trivial, fun _ _ => trivial⟩⟩⟩⟩⟩

/-- The process dies after the first connect and the service restarts on its own; the
connect to the second profile returns `Ok` over the first one's tunnel. -/
def connectSecond : List Event :=
  connectFirst ++ [.processDies, .deliverIntent true, .tunUp, .connect 1 (sampleOptions 2),
    .startMobile 1 (sampleOutcomes secondConfig)]

theorem second_over_first_tunnel :
    (∃ t, StepSystem.run step {} (connectSecond ++
        [.startNativeVpn 1 (.ok ()), .pollStatus 1, .markConnected 1, .connectReturns 1]) = some t ∧
      t.status.phase = .connected ∧ t.status.activeProfileId = some 2 ∧
      t.service.tunEstablished = true ∧ t.service.core = some ⟨firstConfig.text, some 1⟩) ∧
    ¬StepSystem.AfterEach step RunsThisProfile {} (connectSecond ++
      [.startNativeVpn 1 (.ok ()), .pollStatus 1, .markConnected 1, .connectReturns 1]) := by
  refine ⟨⟨_, rfl, rfl, rfl, rfl, rfl⟩, fun h => ?_⟩
  refine absurd ((StepSystem.afterEach_append.mp h).2 _ rfl) (other_profile_of_established 1
    (sampleOptions 2) ["Android requires VpnService consent before connecting"] secondConfig ?_ ?_ ?_ ?_)
  · rfl
  · rfl
  · rfl
  · exact fun hcore => absurd (congrArg Core.configJson (Option.some.inj hcore)) (by decide)

end App

end TauriVpn.Android
