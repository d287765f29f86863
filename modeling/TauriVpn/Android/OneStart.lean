import TauriVpn.Android.App

/-! How many starts can be in flight? The phase of the status admits a connect only
while no other is under way, as long as nobody else moves the phase; a disconnect, or a
status query that finds no tunnel yet, moves it while a connect still waits. -/

namespace TauriVpn.Android

/-- A `connect` that has passed the phase check. -/
def Call.IsConnect : Call → Prop
  | .connect _ _ | .connectFailed _ => True
  | _ => False

namespace App

/-- Call `i` is a `connect` that has passed the phase check and has not returned. -/
def Connecting (s : App) (i : ℕ) : Prop := ∃ call, s.calls i = some call ∧ call.IsConnect

/-- No disconnect begins or ends, and no status query returns without a tunnel, while
a connect is in flight. -/
def NotOvertaken (s : App) : Event → Prop
  | .disconnect _ | .disconnectReturns _ => ∀ i, ¬s.Connecting i
  | .statusReturns => (∃ query, s.query = some query ∧ query.established = false) → ∀ i, ¬s.Connecting i
  | _ => True

/-- One connect at most is in flight, and the phase says so. -/
structure OneStart (s : App) : Prop where
  single : ∀ i j, s.Connecting i → s.Connecting j → i = j
  phase : ∀ i, s.Connecting i → s.status.phase = .connecting

/-! ### What a step does to the commands in flight -/

/-- What a step does to the status and to the commands in flight. -/
inductive Moved (s : App) (event : Event) (t : App) : Prop where
  | kept (hstatus : t.status = s.status) (hcalls : t.calls = s.calls)
  | connectBegins (i : ℕ) (options : ConnectOptions)
      (hbegin : s.status.beginConnect options = .ok t.status)
      (hcalls : t.calls = Function.update s.calls i (some (.connect options .starting)))
  | connectGoesOn (i : ℕ) (call next : Call) (hcall : s.calls i = some call) (hconnect : call.IsConnect)
      (hnext : next.IsConnect) (hstatus : t.status = s.status)
      (hcalls : t.calls = Function.update s.calls i (some next))
  | connectReturns (i : ℕ) (call : Call) (result : Except VpnError (List String)) (hcall : s.calls i = some call)
      (hconnect : call.IsConnect) (hstatus : t.status = s.status.endConnect result)
      (hcalls : t.calls = Function.update s.calls i none)
  | disconnectBegins (i : ℕ) (hevent : event = .disconnect i) (hstatus : t.status = s.status.beginDisconnect)
      (hcalls : t.calls = Function.update s.calls i (some .disconnectStopping))
  | disconnectGoesOn (i : ℕ) (call : Call) (next : Option Call) (hcall : s.calls i = some call)
      (hother : ¬call.IsConnect) (hnext : ∀ c, next = some c → ¬c.IsConnect) (hstatus : t.status = s.status)
      (hcalls : t.calls = Function.update s.calls i next)
  | disconnectReturns (i : ℕ) (hevent : event = .disconnectReturns i) (hstatus : t.status = {})
      (hcalls : t.calls = Function.update s.calls i none)
  | statusReturns (query : StatusQuery) (hevent : event = .statusReturns) (hquery : s.query = some query)
      (hstatus : t.status = s.status.reconcile query.established query.profileId) (hcalls : t.calls = s.calls)
  | restarts (hstatus : t.status = {}) (hcalls : t.calls = fun _ => none)

section Moved
variable {s t : App} {i : ℕ}

/-- A call takes its next step, after whatever else the step has changed. -/
theorem Moved.goesOn {s' : App} {event : Event} {call next : Call} (hcall : s.calls i = some call)
    (hconnect : call.IsConnect) (hstatus : s'.status = s.status) (hcalls : s'.calls = s.calls)
    (hnext : next.IsConnect) : Moved s event (s'.setCall i (some next)) :=
  .connectGoesOn i call next hcall hconnect hnext hstatus (by simp only [setCall, hcalls])

theorem Moved.goesOnOther {s' : App} {event : Event} {call : Call} {next : Option Call} (hcall : s.calls i = some call)
    (hother : ¬call.IsConnect) (hstatus : s'.status = s.status) (hcalls : s'.calls = s.calls)
    (hnext : ∀ c, next = some c → ¬c.IsConnect) : Moved s event (s'.setCall i next) :=
  .disconnectGoesOn i call next hcall hother hnext hstatus (by simp only [setCall, hcalls])

theorem Moved.connect {options : ConnectOptions} (hstep : s.connect i options = some t) :
    Moved s (.connect i options) t := by
  unfold App.connect at hstep
  split_ifs at hstep
  split at hstep
  · obtain rfl := Option.some.inj hstep
    exact .kept rfl rfl
  · rename_i status hbegin
    obtain rfl := Option.some.inj hstep
    exact .connectBegins i options hbegin rfl

theorem Moved.startMobile {o : StartMobileOutcomes} (hstep : s.startMobile i o = some t) :
    Moved s (.startMobile i o) t := by
  unfold App.startMobile at hstep
  split at hstep
  case h_1 options hcall =>
    split at hstep
    · obtain rfl := Option.some.inj hstep
      exact .goesOn hcall trivial rfl rfl trivial
    · obtain rfl := Option.some.inj hstep
      exact .goesOn hcall trivial rfl rfl trivial
  case h_2 => cases hstep

theorem startVpn_status (s : App) (config : ConfigText) (profileId : Uuid) :
    (s.startVpn config profileId).status = s.status ∧ (s.startVpn config profileId).calls = s.calls := by
  unfold startVpn
  split_ifs
  · exact ⟨rfl, rfl⟩
  · exact ⟨rfl, rfl⟩

theorem Moved.startNativeVpn {outcome : Except String Unit} (hstep : s.startNativeVpn i outcome = some t) :
    Moved s (.startNativeVpn i outcome) t := by
  unfold App.startNativeVpn at hstep
  split at hstep
  case h_1 hcall =>
    obtain rfl := Option.some.inj hstep
    exact .goesOn hcall trivial rfl rfl trivial
  case h_2 options warnings config value hcall =>
    obtain rfl := Option.some.inj hstep
    obtain ⟨hstatus, hcalls⟩ := startVpn_status s config options.profile.id
    exact .goesOn hcall trivial hstatus hcalls trivial
  case h_3 => cases hstep

theorem Moved.pollStatus (hstep : s.pollStatus i = some t) : Moved s (.pollStatus i) t := by
  unfold App.pollStatus at hstep
  split at hstep
  case h_1 hcall =>
    split_ifs at hstep
    · obtain rfl := Option.some.inj hstep
      exact .goesOn hcall trivial rfl rfl trivial
    · obtain rfl := Option.some.inj hstep
      exact .kept rfl rfl
  case h_2 => cases hstep

theorem Moved.startTimesOut {detail : String} (hstep : s.startTimesOut i detail = some t) :
    Moved s (.startTimesOut i detail) t := by
  unfold App.startTimesOut at hstep
  split at hstep
  case h_1 hcall =>
    obtain rfl := Option.some.inj hstep
    exact .goesOn hcall trivial rfl rfl trivial
  case h_2 => cases hstep

theorem Moved.markConnected (hstep : s.markConnected i = some t) : Moved s (.markConnected i) t := by
  unfold App.markConnected at hstep
  split at hstep
  case h_1 hcall =>
    obtain rfl := Option.some.inj hstep
    exact .goesOn hcall trivial rfl rfl trivial
  case h_2 => cases hstep

theorem Moved.connectEnds (hstep : s.connectReturns i = some t) : Moved s (.connectReturns i) t := by
  unfold App.connectReturns at hstep
  split_ifs at hstep
  split at hstep
  case h_1 options warnings config hcall =>
    obtain rfl := Option.some.inj hstep
    exact .connectReturns i _ (.ok warnings) hcall trivial rfl rfl
  case h_2 error hcall =>
    obtain rfl := Option.some.inj hstep
    exact .connectReturns i _ (.error error) hcall trivial rfl rfl
  case h_3 => cases hstep

theorem Moved.disconnect (hstep : s.disconnect i = some t) : Moved s (.disconnect i) t := by
  unfold App.disconnect at hstep
  split_ifs at hstep
  obtain rfl := Option.some.inj hstep
  exact .disconnectBegins i rfl rfl rfl

theorem Moved.stopMobile {registered : Bool} (hstep : s.stopMobile i registered = some t) :
    Moved s (.stopMobile i registered) t := by
  unfold App.stopMobile at hstep
  split at hstep
  case h_1 hcall =>
    split_ifs at hstep
    · obtain rfl := Option.some.inj hstep
      exact .goesOnOther hcall id rfl rfl fun c hc => Option.some.inj hc ▸ id
    · obtain rfl := Option.some.inj hstep
      exact .goesOnOther hcall id rfl rfl fun c hc => nomatch hc
  case h_2 => cases hstep

theorem Moved.stopNativeVpn {outcome : Except String Unit} (hstep : s.stopNativeVpn i outcome = some t) :
    Moved s (.stopNativeVpn i outcome) t := by
  unfold App.stopNativeVpn at hstep
  split at hstep
  case h_1 hcall =>
    obtain rfl := Option.some.inj hstep
    exact .goesOnOther hcall id rfl rfl fun c hc => nomatch hc
  case h_2 hcall =>
    obtain rfl := Option.some.inj hstep
    exact .goesOnOther hcall id rfl rfl fun c hc => Option.some.inj hc ▸ id
  case h_3 => cases hstep

theorem Moved.markDisconnected (hstep : s.markDisconnected i = some t) : Moved s (.markDisconnected i) t := by
  unfold App.markDisconnected at hstep
  split at hstep
  case h_1 hcall =>
    obtain rfl := Option.some.inj hstep
    exact .goesOnOther hcall id rfl rfl fun c hc => Option.some.inj hc ▸ id
  case h_2 => cases hstep

theorem Moved.disconnectEnds (hstep : s.disconnectReturns i = some t) : Moved s (.disconnectReturns i) t := by
  unfold App.disconnectReturns at hstep
  split_ifs at hstep
  split at hstep
  case h_1 =>
    obtain rfl := Option.some.inj hstep
    exact .disconnectReturns i rfl rfl rfl
  case h_2 => cases hstep

theorem Moved.status (activity : Bool) {event : Event}
    (hevent : event = .queryStatus activity ∨ event = .recordStatus ∨ event = .statusReturns)
    (hstep : s.step event = some t) : Moved s event t := by
  rcases hevent with rfl | rfl | rfl
  · simp only [App.step, queryStatus] at hstep
    split at hstep
    · cases hstep
    · obtain rfl := Option.some.inj hstep
      exact .kept rfl rfl
  · simp only [App.step, recordStatus] at hstep
    split at hstep
    · obtain rfl := Option.some.inj hstep
      exact .kept rfl rfl
    · cases hstep
  · simp only [App.step, App.statusReturns] at hstep
    split at hstep
    case h_1 query hquery =>
      split_ifs at hstep
      obtain rfl := Option.some.inj hstep
      exact .statusReturns query rfl hquery rfl rfl
    case h_2 => cases hstep

theorem Moved.deliverIntent {coreStarts : Bool} (hstep : s.deliverIntent coreStarts = some t) :
    Moved s (.deliverIntent coreStarts) t := by
  unfold App.deliverIntent at hstep
  split at hstep
  case h_1 => cases hstep
  case h_2 intent intents hintents =>
    split at hstep
    · obtain rfl := Option.some.inj hstep
      exact .kept rfl rfl
    · obtain rfl := Option.some.inj hstep
      exact .restarts rfl rfl

theorem moved_of_step {event : Event} (hstep : s.step event = some t) : Moved s event t := by
  cases event with
  | connect i options => exact .connect hstep
  | startMobile i o => exact .startMobile hstep
  | startNativeVpn i outcome => exact .startNativeVpn hstep
  | pollStatus i => exact .pollStatus hstep
  | startTimesOut i detail => exact .startTimesOut hstep
  | markConnected i => exact .markConnected hstep
  | connectReturns i => exact .connectEnds hstep
  | disconnect i => exact .disconnect hstep
  | stopMobile i registered => exact .stopMobile hstep
  | stopNativeVpn i outcome => exact .stopNativeVpn hstep
  | markDisconnected i => exact .markDisconnected hstep
  | disconnectReturns i => exact .disconnectEnds hstep
  | queryStatus activity => exact .status activity (.inl rfl) hstep
  | recordStatus => exact .status false (.inr (.inl rfl)) hstep
  | statusReturns => exact .status false (.inr (.inr rfl)) hstep
  | deliverIntent coreStarts => exact .deliverIntent hstep
  | tunUp | scheduleServiceRestart | alarmFires =>
    simp only [App.step, tunUp, scheduleServiceRestart, alarmFires] at hstep
    split_ifs at hstep
    obtain rfl := Option.some.inj hstep
    exact .kept rfl rfl
  | appRestarts | processDies =>
    obtain rfl := Option.some.inj hstep
    exact .restarts rfl rfl

/-- A connect that is in flight after the step. -/
theorem connecting_update {next : Option Call} (hcalls : t.calls = Function.update s.calls i next) {j : ℕ}
    (h : t.Connecting j) : (j = i ∧ ∃ c, next = some c ∧ c.IsConnect) ∨ (j ≠ i ∧ s.Connecting j) := by
  obtain ⟨c, hc, hconnect⟩ := h
  rw [hcalls] at hc
  by_cases hj : j = i
  · subst hj
    rw [Function.update_self] at hc
    exact Or.inl ⟨rfl, c, hc, hconnect⟩
  · rw [Function.update_of_ne hj] at hc
    exact Or.inr ⟨hj, c, hc, hconnect⟩

end Moved

/-! ### One connect at most -/

section Steps
variable {s t : App}

theorem OneStart.of_none (h : ∀ i, ¬t.Connecting i) : OneStart t where
  single i _ hi := absurd hi (h i)
  phase i hi := absurd hi (h i)

theorem OneStart.of_subset (h : OneStart s) (hphase : t.status.phase = s.status.phase)
    (hcalls : ∀ j, t.Connecting j → s.Connecting j) : OneStart t where
  single i j hi hj := h.single i j (hcalls i hi) (hcalls j hj)
  phase i hi := by
    rw [hphase]
    exact h.phase i (hcalls i hi)

theorem OneStart.step (h : OneStart s) {event : Event} (hguard : s.NotOvertaken event)
    (hstep : s.step event = some t) : OneStart t := by
  cases moved_of_step hstep with
  | kept hstatus hcalls =>
    exact h.of_subset (congrArg ConnectionStatus.phase hstatus) fun j ⟨c, hc, hconnect⟩ => ⟨c, hcalls ▸ hc, hconnect⟩
  | connectBegins i options hbegin hcalls =>
    obtain ⟨-, hphase, hconnecting, -⟩ := ConnectionStatus.beginConnect_ok hbegin
    have honly : ∀ j, t.Connecting j → j = i := by
      intro j hj
      rcases connecting_update hcalls hj with ⟨rfl, -⟩ | ⟨-, hold⟩
      · rfl
      · exact absurd (h.phase j hold) hphase
    exact ⟨fun j k hj hk => (honly j hj).trans (honly k hk).symm, fun _ _ => hconnecting⟩
  | connectGoesOn i call next hcall hconnect hnext hstatus hcalls =>
    refine h.of_subset (congrArg ConnectionStatus.phase hstatus) fun j hj => ?_
    rcases connecting_update hcalls hj with ⟨rfl, -⟩ | ⟨-, hold⟩
    · exact ⟨call, hcall, hconnect⟩
    · exact hold
  | connectReturns i call result hcall hconnect hstatus hcalls =>
    -- the connect that returns was the only one
    refine OneStart.of_none fun j hj => ?_
    rcases connecting_update hcalls hj with ⟨-, c, hc, -⟩ | ⟨hne, hold⟩
    · cases hc
    · exact hne (h.single j i hold ⟨call, hcall, hconnect⟩)
  | disconnectBegins i hevent hstatus hcalls =>
    subst hevent
    refine OneStart.of_none fun j hj => ?_
    rcases connecting_update hcalls hj with ⟨-, c, hc, hconnect⟩ | ⟨-, hold⟩
    · cases hc
      exact hconnect
    · exact hguard j hold
  | disconnectGoesOn i call next hcall hother hnext hstatus hcalls =>
    refine h.of_subset (congrArg ConnectionStatus.phase hstatus) fun j hj => ?_
    rcases connecting_update hcalls hj with ⟨-, c, hc, hconnect⟩ | ⟨-, hold⟩
    · exact absurd hconnect (hnext c hc)
    · exact hold
  | disconnectReturns i hevent hstatus hcalls =>
    subst hevent
    refine OneStart.of_none fun j hj => ?_
    rcases connecting_update hcalls hj with ⟨-, c, hc, -⟩ | ⟨-, hold⟩
    · cases hc
    · exact hguard j hold
  | statusReturns query hevent hquery hstatus hcalls =>
    subst hevent
    have hback : ∀ j, t.Connecting j → s.Connecting j := fun j ⟨c, hc, hconnect⟩ => ⟨c, hcalls ▸ hc, hconnect⟩
    cases hestablished : query.established with
    | false => exact OneStart.of_none fun j hj => hguard ⟨query, hquery, hestablished⟩ j (hback j hj)
    | true =>
      -- a query that found a tunnel leaves the phase of a connect in flight alone
      refine ⟨fun i j hi hj => h.single i j (hback i hi) (hback j hj), fun j hj => ?_⟩
      have hphase := h.phase j (hback j hj)
      rw [hstatus, hestablished]
      simp only [ConnectionStatus.reconcile, if_true]
      cases query.profileId with
      | none => simp [hphase]
      | some id => simp [hphase]
  | restarts hstatus hcalls =>
    refine OneStart.of_none fun j ⟨c, hc, _⟩ => ?_
    rw [hcalls] at hc
    cases hc

end Steps

/-- In every run in which no connect in flight is overtaken, at most one connect at a
time is past the phase check, and so at most one has a native start under way. -/
theorem one_start_in_flight (events : List Event) (hguard : StepSystem.Guarded step NotOvertaken {} events)
    (t : App) (hrun : StepSystem.run step {} events = some t) (i j : ℕ) (hi : t.Connecting i)
    (hj : t.Connecting j) : i = j := by
  have hinit : OneStart {} := OneStart.of_none fun j ⟨c, hc, _⟩ => nomatch hc
  have hend : OneStart t := StepSystem.run_invariant_of_guarded
    (fun _ _ _ h hg hstep => OneStart.step h hg hstep) hinit hguard hrun
  exact hend.single i j hi hj

/-- Once the phase has moved on while a connect waits, a second one passes the phase
check and the look at `mobile_connected`, and starts the native side as well. -/
theorem second_start (s : App) (i j : ℕ) (options options' : ConnectOptions) (warnings warnings' : List String)
    (config config' : ConfigText) (o : StartMobileOutcomes)
    (hwaits : s.calls i = some (.connect options (.waiting warnings config))) (hfree : s.calls j = none)
    (hquery : s.query = none) (hphase : ¬(s.status.phase = .connected ∨ s.status.phase = .connecting))
    (hstart : Android.startMobile options' s.mobileConnected o = .ok (warnings', config')) :
    ∃ t, StepSystem.run step s [.connect j options', .startMobile j o, .startNativeVpn j (.ok ())] = some t ∧
      t.calls i = some (.connect options (.waiting warnings config)) ∧
      t.calls j = some (.connect options' (.waiting warnings' config')) := by
  have hij : i ≠ j := fun heq => by rw [heq, hfree] at hwaits; cases hwaits
  obtain ⟨status, hbegin⟩ : ∃ status, s.status.beginConnect options' = .ok status :=
    ⟨_, if_neg hphase⟩
  let admitted := ({ s with status } : App).setCall j (some (.connect options' .starting))
  have hconnect : s.step (.connect j options') = some admitted := by
    simp [App.step, App.connect, hquery, hfree, hbegin, admitted]
  let requesting := admitted.setCall j (some (.connect options' (.requesting warnings' config')))
  have hmobile : admitted.step (.startMobile j o) = some requesting := by
    have hcall : admitted.calls j = some (.connect options' .starting) := setCall_self _ _ _
    rw [App.step, App.startMobile, hcall]
    dsimp only
    rw [show admitted.mobileConnected = s.mobileConnected from rfl, hstart]
  let waiting := (requesting.startVpn config' options'.profile.id).setCall j
    (some (.connect options' (.waiting warnings' config')))
  have hnative : requesting.step (.startNativeVpn j (.ok ())) = some waiting := by
    have hcall : requesting.calls j = some (.connect options' (.requesting warnings' config')) :=
      setCall_self _ _ _
    show requesting.startNativeVpn j (.ok ()) = some waiting
    unfold App.startNativeVpn
    rw [hcall]
  have hvpn : (requesting.startVpn config' options'.profile.id).calls = requesting.calls := by
    unfold startVpn
    split_ifs <;> rfl
  refine ⟨waiting, ?_, ?_, setCall_self _ _ _⟩
  · rw [StepSystem.run_cons hconnect, StepSystem.run_cons hmobile, StepSystem.run_cons hnative, StepSystem.run_nil]
  · rw [setCall_of_ne _ _ hij, hvpn, setCall_of_ne _ _ hij, setCall_of_ne _ _ hij]
    exact hwaits

/-! ### Two runs -/

def pollOptions : ConnectOptions where
  profile := {
    id := 1, name := "VLESS", protocol := .vless, server := "vpn.example", port := 443, auth := {} }

def pollConfig : ConfigText := ⟨"polled", by decide⟩

/-- A connect up to where it waits for its tunnel. -/
def startUp (i : ℕ) : List Event :=
  [.connect i pollOptions, .startMobile i { config := .ok .null, serialize := .ok pollConfig, registered := true },
    .startNativeVpn i (.ok ())]

/-- A query finds the tunnel up before the connect that waits for it does. -/
theorem one_start_in_flight_polled :
    ∃ t, StepSystem.run step {} (startUp 0 ++ [.deliverIntent true, .tunUp, .queryStatus true, .recordStatus,
        .statusReturns]) = some t ∧ t.Connecting 0 ∧ ∀ i j, t.Connecting i → t.Connecting j → i = j := by
  refine ⟨_, rfl, ⟨_, rfl, trivial⟩, one_start_in_flight (startUp 0 ++ [.deliverIntent true, .tunUp,
    .queryStatus true, .recordStatus, .statusReturns]) ?_ _ rfl⟩
  refine ⟨trivial, fun _ h => ?_⟩
  obtain rfl := Option.some.inj h
  refine ⟨trivial, fun _ h => ?_⟩
  obtain rfl := Option.some.inj h
  refine ⟨trivial, fun _ h => ?_⟩
  obtain rfl := Option.some.inj h
  refine ⟨trivial, fun _ h => ?_⟩
  obtain rfl := Option.some.inj h
  refine ⟨trivial, fun _ h => ?_⟩
  obtain rfl := Option.some.inj h
  refine ⟨trivial, fun _ h => ?_⟩
  obtain rfl := Option.some.inj h
  refine ⟨trivial, fun _ h => ?_⟩
  obtain rfl := Option.some.inj h
  refine ⟨?_, fun _ _ => trivial⟩
  rintro ⟨query, hquery, hestablished⟩
  rw [← Option.some.inj hquery] at hestablished
  cases hestablished

/-- A status poll, or a disconnect that answers `NotRunning`, while the first connect
waits: the second connect starts the native side as well. -/
theorem two_starts_in_flight :
    (∃ t w w' c c', StepSystem.run step {}
        (startUp 0 ++ [.queryStatus true, .recordStatus, .statusReturns] ++ startUp 1) = some t ∧
      t.calls 0 = some (.connect pollOptions (.waiting w c)) ∧
      t.calls 1 = some (.connect pollOptions (.waiting w' c'))) ∧
    ∃ t w w' c c', StepSystem.run step {}
        (startUp 0 ++ [.disconnect 2, .stopMobile 2 true] ++ startUp 1) = some t ∧
      t.calls 0 = some (.connect pollOptions (.waiting w c)) ∧
      t.calls 1 = some (.connect pollOptions (.waiting w' c')) :=
  ⟨⟨_, _, _, _, _, rfl, rfl, rfl⟩, _, _, _, _, _, rfl, rfl, rfl⟩

end App

end TauriVpn.Android
