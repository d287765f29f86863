import TauriVpn.Android.OneStart

/-! Does `status` tell the truth? It asks the native side whether the tunnel is up and
corrects the recorded phase by the answer, but only some phases; the others it returns as
they are. The native side moves on its own account meanwhile. -/

namespace TauriVpn.Android

/-- A step of a command or of the service, a status whose query fails, or what the
system does to the tunnel: it revokes the VPN, the core stops the service, and on iOS
the tunnel comes and goes by itself. -/
inductive Happening where
  | step (event : Event)
  | statusFails
  | onRevoke
  | serviceStop
  | tunnelTurns (established : Bool)

/-- The app, and whether no other command was in flight when the last `status` began. -/
structure Phone where
  app : App := {}
  alone : Prop := False

namespace App

/-- No command but `status` is in flight. -/
def Idle (s : App) : Prop := ∀ i, s.calls i = none

/-- The phase says `Connecting` only on behalf of a connect in flight. -/
def ConnectInFlight (s : App) : Prop := s.status.phase = .connecting → ∃ i, s.Connecting i


section Steps
variable {s t : App}

theorem ConnectInFlight.of_phase (h : t.status.phase ≠ .connecting) : ConnectInFlight t := fun hp => absurd hp h

theorem ConnectInFlight.of_superset (h : ConnectInFlight s) (hphase : t.status.phase = s.status.phase)
    (hcalls : ∀ j, s.Connecting j → t.Connecting j) : ConnectInFlight t := by
  intro hp
  obtain ⟨j, hj⟩ := h (hphase ▸ hp)
  exact ⟨j, hcalls j hj⟩

/-- `Connecting` is written when a connect begins, and overwritten when it returns. -/
theorem ConnectInFlight.step (h : ConnectInFlight s) {event : Event} (hstep : s.step event = some t) :
    ConnectInFlight t := by
  cases moved_of_step hstep with
  | kept hstatus hcalls =>
    exact h.of_superset (congrArg ConnectionStatus.phase hstatus) fun j ⟨c, hc, hconnect⟩ =>
      ⟨c, hcalls ▸ hc, hconnect⟩
  | connectBegins i options hbegin hcalls =>
    exact fun _ => ⟨i, .connect options .starting, by rw [hcalls, Function.update_self], trivial⟩
  | connectGoesOn i call next hcall hconnect hnext hstatus hcalls =>
    refine h.of_superset (congrArg ConnectionStatus.phase hstatus) fun j ⟨c, hc, hconnect⟩ => ?_
    by_cases hj : j = i
    · subst hj
      exact ⟨next, by rw [hcalls, Function.update_self], hnext⟩
    · exact ⟨c, by rw [hcalls, Function.update_of_ne hj, hc], hconnect⟩
  | connectReturns i call result hcall hconnect hstatus hcalls =>
    refine ConnectInFlight.of_phase ?_
    rw [hstatus]
    cases result <;> simp [ConnectionStatus.endConnect]
  | disconnectBegins i hevent hstatus hcalls =>
    refine ConnectInFlight.of_phase ?_
    simp [hstatus, ConnectionStatus.beginDisconnect]
  | disconnectGoesOn i call next hcall hother hnext hstatus hcalls =>
    refine h.of_superset (congrArg ConnectionStatus.phase hstatus) fun j ⟨c, hc, hconnect⟩ => ?_
    have hj : j ≠ i := by
      rintro rfl
      rw [hcall] at hc
      exact hother (Option.some.inj hc ▸ hconnect)
    exact ⟨c, by rw [hcalls, Function.update_of_ne hj, hc], hconnect⟩
  | disconnectReturns i hevent hstatus hcalls | restarts hstatus hcalls =>
    refine ConnectInFlight.of_phase ?_
    simp [hstatus]
  | statusReturns query hevent hquery hstatus hcalls =>
    intro hp
    rw [hstatus] at hp
    obtain ⟨j, c, hc, hconnect⟩ := h (ConnectionStatus.reconcile_connecting hp)
    exact ⟨j, c, hcalls ▸ hc, hconnect⟩

/-- With no command in flight the phase is not `Connecting`. -/
theorem ConnectInFlight.phase_of_idle (h : ConnectInFlight s) (hidle : s.Idle) : s.status.phase ≠ .connecting := by
  intro hp
  obtain ⟨j, c, hc, -⟩ := h hp
  rw [hidle j] at hc
  cases hc

end Steps

end App

namespace Phone

def withService (p : Phone) (service : Service) : Phone := { p with app := { p.app with service } }

/-- The step of a command or of the service; a `status` that begins looks around. -/
def appStep (p : Phone) (event : Event) : Option Phone :=
  (p.app.step event).map fun app =>
    match event with
    | .queryStatus _ => { app, alone := p.app.Idle }
    | _ => { p with app }

def step (p : Phone) : Happening → Option Phone
  | .step event => p.appStep event
  | .statusFails => if p.app.query.isSome then none else some p
  | .onRevoke => some (p.withService p.app.service.onRevoke)
  | .serviceStop => some (p.withService p.app.service.stop)
  | .tunnelTurns established =>
    some (p.withService { p.app.service with tunEstablished := established })

/-- A `status` whose query was answered returns, and no other command was in flight
when it began nor is one now. -/
def ReturnsAlone (p : Phone) (happening : Happening) (query : StatusQuery) : Prop :=
  happening = .step .statusReturns ∧ p.app.query = some query ∧ p.alone ∧ p.app.Idle

/-- It returns the phase `Connected` exactly when it found the tunnel established. -/
def Truthful (p : Phone) (happening : Happening) (q : Phone) : Prop :=
  ∀ query, p.ReturnsAlone happening query → (q.app.status.phase = .connected ↔ query.established = true)

/-- No established tunnel meets a phase that `status` leaves as it is. -/
def Corrects (p : Phone) (happening : Happening) : Prop :=
  ∀ query, p.ReturnsAlone happening query → query.established = true →
    p.app.status.phase ≠ .failed ∧ p.app.status.phase ≠ .disconnecting

theorem connectInFlight_step {p q : Phone} {happening : Happening} (h : p.app.ConnectInFlight)
    (hstep : p.step happening = some q) : q.app.ConnectInFlight := by
  cases happening with
  | step event =>
    obtain ⟨app, happ, rfl⟩ := Option.map_eq_some_iff.mp hstep
    cases event <;> exact h.step happ
  | statusFails =>
    simp only [step] at hstep
    split_ifs at hstep
    exact Option.some.inj hstep ▸ h
  | onRevoke | serviceStop | tunnelTurns established =>
    obtain rfl := Option.some.inj hstep
    exact h

theorem truthful_iff {p q : Phone} {happening : Happening} (h : p.app.ConnectInFlight)
    (hstep : p.step happening = some q) : p.Truthful happening q ↔ p.Corrects happening := by
  refine forall_congr' fun query => forall_congr' fun hreturns => ?_
  obtain ⟨rfl, hquery, halone, hidle⟩ := hreturns
  have hphase : q.app.status.phase =
      (p.app.status.reconcile query.established query.profileId).phase := by
    obtain ⟨app, happ, rfl⟩ := Option.map_eq_some_iff.mp hstep
    simp only [App.step, App.statusReturns, hquery] at happ
    split_ifs at happ
    exact Option.some.inj happ ▸ rfl
  have hconnecting := h.phase_of_idle hidle
  rw [hphase, ConnectionStatus.reconcile_connected_iff]
  cases query.established with
  | false => simp
  | true => cases hp : p.app.status.phase <;> simp_all

/-- Over every run of the commands and of the native side: each `status` that runs alone
tells the truth exactly when none of them finds the tunnel established with the phase
`Failed` or `Disconnecting`. -/
theorem status_truthful_iff (happenings : List Happening) {p : Phone}
    (hrun : StepSystem.run step {} happenings = some p) :
    StepSystem.AfterEach step Truthful {} happenings ↔ StepSystem.Guarded step Corrects {} happenings :=
  StepSystem.afterEach_iff_guarded (fun p => p.app.ConnectInFlight)
    (fun _ _ _ h hstep => ⟨truthful_iff h hstep, fun _ => connectInFlight_step h hstep⟩)
    (App.ConnectInFlight.of_phase (by simp)) hrun

/-- Only the return of a `status` has something to correct. -/
theorem corrects_of_ne {p : Phone} {happening : Happening} (h : happening ≠ .step .statusReturns) :
    p.Corrects happening := fun _ hreturns => absurd hreturns.1 h

theorem guarded_of_ne {p : Phone} {happenings : List Happening}
    (h : ∀ happening ∈ happenings, happening ≠ .step .statusReturns) :
    StepSystem.Guarded step Corrects p happenings :=
  StepSystem.guarded_of_invariant (fun _ => True) (fun _ _ _ hne => ⟨corrects_of_ne hne, fun _ _ => trivial⟩) trivial
    (StepSystem.guarded_of_forall h)

/-! ### Two runs -/

/-- The service brings the tunnel up, and the app starts anew and asks for the status. -/
def recovered : List Happening :=
  (App.startUp 0).map .step ++ [.step (.deliverIntent true), .step .tunUp, .step .appRestarts,
    .step (.queryStatus true), .step .recordStatus]

theorem status_truthful_recovered :
    ∃ p, StepSystem.run step {} (recovered ++ [.step .statusReturns]) = some p ∧
      p.app.status.phase = .connected ∧
      StepSystem.AfterEach step Truthful {} (recovered ++ [.step .statusReturns]) := by
  refine ⟨_, rfl, rfl, (status_truthful_iff (recovered ++ [.step .statusReturns]) rfl).mpr ?_⟩
  refine StepSystem.guarded_append.mpr ⟨guarded_of_ne ?_, fun p hrun => ⟨fun _ _ _ => ?_, fun _ _ => trivial⟩⟩
  · simp [recovered, App.startUp]
  · obtain rfl := Option.some.inj hrun
    exact ⟨nofun, nofun⟩

/-- A connect gives up on its tunnel, which comes up late; then the app asks for the status. -/
def late : List Happening :=
  (App.startUp 0).map .step ++ [.step (.deliverIntent true), .step (.startTimesOut 0 ""), .step (.connectReturns 0),
    .step .tunUp, .step (.queryStatus true), .step .recordStatus]

theorem late_idle {p : Phone} (hrun : StepSystem.run step {} late = some p) : p.alone ∧ p.app.Idle := by
  obtain rfl := Option.some.inj hrun
  constructor
  · intro i
    cases i <;> rfl
  · intro i
    cases i <;> rfl

/-- The tunnel is established, no command is in flight, and `status` says `Failed`. -/
theorem failed_while_established :
    (∃ p, StepSystem.run step {} (late ++ [.step .statusReturns]) = some p ∧
      p.app.service.tunEstablished = true ∧ p.app.status.phase = .failed) ∧
    ¬StepSystem.AfterEach step Truthful {} (late ++ [.step .statusReturns]) := by
  refine ⟨⟨_, rfl, rfl, rfl⟩, fun h => ?_⟩
  obtain ⟨halone, hidle⟩ := late_idle rfl
  have htruthful := ((StepSystem.afterEach_append.mp h).2 _ rfl _ rfl).1
  have hconnected := (htruthful _ ⟨rfl, rfl, halone, hidle⟩).mpr rfl
  cases hconnected

end Phone

end TauriVpn.Android
