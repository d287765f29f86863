import TauriVpn.Lib.Fallible
import TauriVpn.Lib.StepSystem
import TauriVpn.Text

/-! The command servers of the Android service. A start makes a server, starts it and has
it load the config; only then does the service remember it. What a stop closes is the
server that the service remembers, so a server whose load fails is never closed. -/

namespace TauriVpn.Android

open Fallible

/-- A call on a command server. A close that throws counts, since its failure is dropped. -/
inductive ServerCall where
  | start (server : ℕ)
  | closeService (server : ℕ)
  | close (server : ℕ)
  deriving DecidableEq

def ServerCall.server : ServerCall → ℕ
  | .start server | .closeService server | .close server => server

/-- The service with the calls on its servers so far, which are numbered as they are made. -/
structure ServerHost where
  constructed : ℕ := 0
  calls : List ServerCall := []
  commandServer : Option ℕ := none
  tunEstablished : Bool := false
  lastStartError : Option String := none

/-- What `startCoreLocked` meets on its way; `opensTun` says that the core opens the
tunnel before `startOrReloadService` returns or throws. -/
structure CoreOutcomes where
  construct : Except String Unit := .ok ()
  start : Except String Unit := .ok ()
  opensTun : Bool := true
  startOrReloadService : Except String Unit := .ok ()

/-- A start, a stop (by `onDestroy`, `serviceStop` or an intent), or a core that opens the
tunnel later. -/
inductive ServerEvent where
  | start (configJson : String) (o : CoreOutcomes)
  | stop
  | openTun

namespace ServerHost

def called (h : ServerHost) (call : ServerCall) : ServerHost := { h with calls := h.calls ++ [call] }

/-- `openTun` where it establishes the tunnel. -/
def openTun (h : ServerHost) : ServerHost := { h with tunEstablished := true, lastStartError := none }

def startCoreLocked (o : CoreOutcomes) : Fallible String ServerHost Unit := do
  liftM o.construct
  let h ← get
  let server := h.constructed
  modify fun h => { h with constructed := server + 1 }
  liftM o.start
  modify fun h => h.called (.start server)
  modify fun h => if o.opensTun then h.openTun else h
  liftM o.startOrReloadService
  modify fun h => { h with commandServer := some server }

/-- The calls that close the server that is remembered. -/
def closing (h : ServerHost) : List ServerCall :=
  match h.commandServer with
  | some server => [.closeService server, .close server]
  | none => []

def stopCoreLocked (h : ServerHost) : ServerHost :=
  { h with calls := h.calls ++ h.closing, commandServer := none, tunEstablished := false }

/-- `stop`. The system destroys the service afterwards, which is a stop of its own. -/
def stop (h : ServerHost) : ServerHost := h.stopCoreLocked

/-- `start`. Only a start without a server catches the exception of the core. -/
def start (configJson : String) (o : CoreOutcomes) : Fallible String ServerHost Unit := do
  let h ← get
  if isBlank configJson then
    modify fun h => { h with lastStartError := some "empty sing-box config" }
  else if h.commandServer.isSome then
    if h.tunEstablished then
      modify fun h => { h with lastStartError := none }
    else do
      modify stopCoreLocked
      startCoreLocked o
  else
    tryCatch (startCoreLocked o) fun error =>
      modify fun h => { h with lastStartError := some error }.stop

/-- A call that throws leaves the state where it was when it threw. -/
def step (h : ServerHost) : ServerEvent → Option ServerHost
  | .start configJson o => some (exec (start configJson o) h).2
  | .stop => some h.stop
  | .openTun => some h.openTun

/-- The server has been started and not closed. -/
def Running (h : ServerHost) (server : ℕ) : Prop := .start server ∈ h.calls ∧ .close server ∉ h.calls

/-- Every server that has been started and not closed is the one that is remembered. -/
def NoLeak (h : ServerHost) : Prop := ∀ server, h.Running server → h.commandServer = some server

/-- The start comes to a new server, which starts, and its load throws. -/
def LoadThrows (h : ServerHost) : ServerEvent → Prop
  | .start configJson o =>
    isBlank configJson = false ∧ ¬(h.commandServer.isSome = true ∧ h.tunEstablished = true) ∧
      o.construct = .ok () ∧ o.start = .ok () ∧ ∃ error, o.startOrReloadService = .error error
  | _ => False

/-- The numbers given out so far are those of the calls and of the server that is remembered. -/
structure Numbered (h : ServerHost) : Prop where
  calls : ∀ call ∈ h.calls, call.server < h.constructed
  commandServer : ∀ server, h.commandServer = some server → server < h.constructed

/-! ### What the calls do to the servers -/

section Calls
variable {h : ServerHost}

theorem numbered_stopCoreLocked (hn : h.Numbered) : h.stopCoreLocked.Numbered := by
  refine ⟨fun call hcall => ?_, fun server hserver => nomatch hserver⟩
  rcases List.mem_append.mp hcall with hold | hnew
  · exact hn.calls call hold
  · unfold closing at hnew
    cases hheld : h.commandServer with
    | none => simp [hheld] at hnew
    | some server =>
      have hlt := hn.commandServer server hheld
      rw [hheld] at hnew
      rcases List.mem_pair.mp hnew with rfl | rfl
      · exact hlt
      · exact hlt

/-- A stop closes the remembered server and no other. -/
theorem running_stopCoreLocked_iff (server : ℕ) :
    h.stopCoreLocked.Running server ↔ h.Running server ∧ h.commandServer ≠ some server := by
  unfold Running stopCoreLocked closing
  cases hheld : h.commandServer with
  | none => simp
  | some held =>
    simp only [List.mem_append, List.mem_pair, not_or, ServerCall.close.injEq, ne_eq, Option.some.injEq, reduceCtorEq,
      not_false_eq_true, true_and, or_false]
    rw [and_assoc, eq_comm (a := server)]

theorem noLeak_stopCoreLocked (hheld : h.NoLeak) : ∀ server, ¬h.stopCoreLocked.Running server := by
  intro server hrunning
  obtain ⟨hold, hne⟩ := (running_stopCoreLocked_iff server).mp hrunning
  exact hne (hheld server hold)

/-- The new server after its start. -/
def started (h : ServerHost) (opensTun : Bool) : ServerHost :=
  let h := { h with constructed := h.constructed + 1 }.called (.start h.constructed)
  if opensTun then h.openTun else h

@[simp] theorem started_constructed (opensTun : Bool) : (h.started opensTun).constructed = h.constructed + 1 := by
  cases opensTun <;> rfl

@[simp] theorem started_calls (opensTun : Bool) : (h.started opensTun).calls = h.calls ++ [.start h.constructed] := by
  cases opensTun <;> rfl

@[simp] theorem started_commandServer (opensTun : Bool) : (h.started opensTun).commandServer = h.commandServer := by
  cases opensTun <;> rfl

theorem exec_startCoreLocked (o : CoreOutcomes) (h : ServerHost) : exec (startCoreLocked o) h =
    match o.construct with
    | .error error => (.error error, h)
    | .ok _ =>
      match o.start with
      | .error error => (.error error, { h with constructed := h.constructed + 1 })
      | .ok _ =>
        match o.startOrReloadService with
        | .error error => (.error error, h.started o.opensTun)
        | .ok _ => (.ok (), { h.started o.opensTun with commandServer := some h.constructed }) := by
  unfold startCoreLocked
  rw [exec_bind, exec_liftM]
  cases o.construct with
  | error error => rfl
  | ok _ =>
    dsimp only
    rw [exec_bind, exec_get]
    dsimp only
    rw [exec_bind, exec_modify]
    dsimp only
    rw [exec_bind, exec_liftM]
    cases o.start with
    | error error => rfl
    | ok _ =>
      dsimp only
      rw [exec_bind, exec_modify]
      dsimp only
      rw [exec_bind, exec_modify]
      dsimp only
      rw [exec_bind, exec_liftM]
      cases o.startOrReloadService with
      | error error => rfl
      | ok _ => rfl

theorem numbered_constructed (hn : h.Numbered) : ({ h with constructed := h.constructed + 1 } : ServerHost).Numbered :=
  ⟨fun call hcall => (hn.calls call hcall).trans (Nat.lt_succ_self _),
    fun server hserver => (hn.commandServer server hserver).trans (Nat.lt_succ_self _)⟩

theorem numbered_started (hn : h.Numbered) (opensTun : Bool) : (h.started opensTun).Numbered := by
  constructor
  · intro call hcall
    rw [started_calls] at hcall
    rw [started_constructed]
    rcases List.mem_append.mp hcall with hold | hnew
    · exact (hn.calls call hold).trans (Nat.lt_succ_self _)
    · rw [List.mem_singleton.mp hnew]
      exact Nat.lt_succ_self _
  · intro server hserver
    rw [started_commandServer] at hserver
    rw [started_constructed]
    exact (hn.commandServer server hserver).trans (Nat.lt_succ_self _)

theorem numbered_remembered (hn : h.Numbered) (opensTun : Bool) :
    ({ h.started opensTun with commandServer := some h.constructed } : ServerHost).Numbered := by
  refine ⟨(numbered_started hn opensTun).calls, fun server hserver => ?_⟩
  rw [← Option.some.inj hserver]
  exact (started_constructed opensTun).symm ▸ Nat.lt_succ_self _

/-- A new number has no calls, so its server runs beside those that ran before. -/
theorem running_started_iff (hn : h.Numbered) (opensTun : Bool) (server : ℕ) :
    (h.started opensTun).Running server ↔ server = h.constructed ∨ h.Running server := by
  have hclose : .close h.constructed ∉ h.calls := fun hmem => lt_irrefl _ (hn.calls _ hmem)
  unfold Running
  simp only [started_calls, List.mem_append, List.mem_singleton, ServerCall.start.injEq, reduceCtorEq, or_false]
  constructor
  · rintro ⟨hold | rfl, hopen⟩
    · exact .inr ⟨hold, hopen⟩
    · exact .inl rfl
  · rintro (rfl | ⟨hold, hopen⟩)
    · exact ⟨.inr rfl, hclose⟩
    · exact ⟨.inl hold, hopen⟩

/-- Where no server is remembered, a stop closes none. -/
theorem noLeak_stop_iff (hnone : h.commandServer = none) : h.stop.NoLeak ↔ h.NoLeak := by
  have hrunning : ∀ server, h.stop.Running server ↔ h.Running server := fun server =>
    (running_stopCoreLocked_iff server).trans (and_iff_left (by simp [hnone]))
  have hheld : h.stop.commandServer = h.commandServer := hnone.symm
  simp only [NoLeak, hrunning, hheld]

/-- From an idle service a new server is the only one that runs, and it is remembered
unless its load throws. -/
theorem startCoreLocked_from_idle (o : CoreOutcomes) (hn : h.Numbered) (hidle : ∀ server, ¬h.Running server)
    (hnone : h.commandServer = none) :
    (exec (startCoreLocked o) h).2.Numbered ∧
      (∀ error, (exec (startCoreLocked o) h).1 = .error error → (exec (startCoreLocked o) h).2.commandServer = none) ∧
      ((exec (startCoreLocked o) h).2.NoLeak ↔
        ¬(o.construct = .ok () ∧ o.start = .ok () ∧ ∃ error, o.startOrReloadService = .error error)) := by
  have hrunning := running_started_iff hn o.opensTun
  have hnumbered := numbered_started hn o.opensTun
  rw [exec_startCoreLocked]
  cases o.construct with
  | error error => exact ⟨hn, fun _ _ => hnone, by simp [NoLeak, hidle]⟩
  | ok _ =>
    cases o.start with
    | error error =>
      refine ⟨numbered_constructed hn, fun _ _ => hnone, ?_⟩
      exact iff_of_true (fun server hserver => absurd hserver (hidle server)) fun h => nomatch h.2.1
    | ok _ =>
      cases o.startOrReloadService with
      | error error =>
        refine ⟨hnumbered, fun _ _ => (started_commandServer _).trans hnone, iff_of_false (fun hheld => ?_) ?_⟩
        · -- the new server runs and no server is remembered
          have hnew := hheld h.constructed ((hrunning _).mpr (.inl rfl))
          rw [started_commandServer, hnone] at hnew
          cases hnew
        · exact not_not.mpr ⟨rfl, rfl, error, rfl⟩
      | ok _ =>
        refine ⟨numbered_remembered hn _, (fun _ h => nomatch h), iff_of_true (fun server hserver => ?_) ?_⟩
        · obtain rfl := ((hrunning server).mp hserver).resolve_right (hidle server)
          rfl
        · rintro ⟨-, -, error, herror⟩
          cases herror

/-- Where a start leaves the service: it only notes an error, it starts the core again after
a stop, it starts the core, or it catches the exception of the core and stops. -/
inductive StartEnds (h : ServerHost) (configJson : String) (o : CoreOutcomes) : ServerHost → Prop where
  | noted (lastStartError : Option String)
      (hwhen : isBlank configJson = true ∨ (h.commandServer.isSome = true ∧ h.tunEstablished = true)) :
      StartEnds h configJson o { h with lastStartError }
  | restarted (hblank : isBlank configJson = false) (hdown : h.tunEstablished = false) :
      StartEnds h configJson o (exec (startCoreLocked o) h.stopCoreLocked).2
  | started {t : ServerHost} (hblank : isBlank configJson = false) (hnone : h.commandServer = none)
      (hexec : exec (startCoreLocked o) h = (.ok (), t)) : StartEnds h configJson o t
  | caught {t : ServerHost} {error : String} (hblank : isBlank configJson = false) (hnone : h.commandServer = none)
      (hexec : exec (startCoreLocked o) h = (.error error, t)) :
      StartEnds h configJson o { t with lastStartError := some error }.stop

theorem start_ends (h : ServerHost) (configJson : String) (o : CoreOutcomes) :
    StartEnds h configJson o (exec (start configJson o) h).2 := by
  unfold start
  rw [exec_bind, exec_get]
  dsimp only
  cases hblank : isBlank configJson with
  | true => exact .noted _ (.inl hblank)
  | false =>
    cases hserver : h.commandServer with
    | some server =>
      cases htun : h.tunEstablished with
      | true => exact .noted none (.inr ⟨by rw [hserver]; rfl, htun⟩)
      | false => exact .restarted hblank htun
    | none =>
      simp only [Bool.false_eq_true, if_false, Option.isSome_none]
      rw [exec_tryCatch]
      rcases hexec : exec (startCoreLocked o) h with ⟨error | _, t⟩
      · exact .caught hblank hserver hexec
      · exact .started hblank hserver hexec

/-- What every call keeps. -/
def Tidy (h : ServerHost) : Prop := h.Numbered ∧ h.NoLeak

theorem Tidy.idle (htidy : h.Tidy) (hnone : h.commandServer = none) (server : ℕ) : ¬h.Running server := by
  intro hrunning
  have hsome := htidy.2 server hrunning
  rw [hnone] at hsome
  cases hsome

theorem start_noLeak_iff (configJson : String) (o : CoreOutcomes) (htidy : h.Tidy) :
    (exec (start configJson o) h).2.Numbered ∧
      ((exec (start configJson o) h).2.NoLeak ↔ ¬h.LoadThrows (.start configJson o)) := by
  have hends := start_ends h configJson o
  unfold LoadThrows
  generalize (exec (start configJson o) h).2 = h' at hends ⊢
  cases hends with
  | noted lastStartError hwhen =>
    refine ⟨⟨htidy.1.calls, htidy.1.commandServer⟩, iff_of_true htidy.2 ?_⟩
    rintro ⟨hblank, hdown, -⟩
    rcases hwhen with hempty | hup
    · rw [hblank] at hempty
      cases hempty
    · exact hdown hup
  | restarted hblank hdown =>
    obtain ⟨hnumbered, -, hleak⟩ :=
      startCoreLocked_from_idle o (numbered_stopCoreLocked htidy.1) (noLeak_stopCoreLocked htidy.2) rfl
    exact ⟨hnumbered, hleak.trans (by simp [hblank, hdown])⟩
  | started hblank hnone hexec =>
    obtain ⟨hnumbered, -, hleak⟩ := startCoreLocked_from_idle o htidy.1 (htidy.idle hnone) hnone
    rw [hexec] at hnumbered hleak
    exact ⟨hnumbered, hleak.trans (by simp [hblank, hnone])⟩
  | @caught t error hblank hnone hexec =>
    obtain ⟨hnumbered, hforgotten, hleak⟩ := startCoreLocked_from_idle o htidy.1 (htidy.idle hnone) hnone
    rw [hexec] at hnumbered hforgotten hleak
    -- the handler stops the service, which remembers no server
    have hstop : ({ t with lastStartError := some error } : ServerHost).stop.NoLeak ↔ t.NoLeak :=
      noLeak_stop_iff (hforgotten error rfl)
    have hnum : ({ t with lastStartError := some error } : ServerHost).Numbered :=
      ⟨hnumbered.calls, hnumbered.commandServer⟩
    exact ⟨numbered_stopCoreLocked hnum, hstop.trans (hleak.trans (by simp [hblank, hnone]))⟩

theorem stop_tidy (htidy : h.Tidy) : h.stop.Tidy :=
  ⟨numbered_stopCoreLocked htidy.1, fun server hrunning => absurd hrunning (noLeak_stopCoreLocked htidy.2 server)⟩

end Calls

/-! ### Runs -/

theorem tidy_initial : ({} : ServerHost).Tidy :=
  ⟨⟨(fun _ hmem => nomatch hmem), (fun _ hserver => nomatch hserver)⟩, fun _ hrunning => nomatch hrunning.1⟩

/-- One call of a tidy service leaks nothing exactly when it is no start whose load throws. -/
theorem step_noLeak_iff {h h' : ServerHost} {event : ServerEvent} (htidy : h.Tidy) (hstep : step h event = some h') :
    (h'.NoLeak ↔ ¬h.LoadThrows event) ∧ (¬h.LoadThrows event → h'.Tidy) := by
  cases event with
  | start configJson o =>
    obtain rfl := Option.some.inj hstep
    obtain ⟨hnumbered, hleak⟩ := start_noLeak_iff configJson o htidy
    exact ⟨hleak, fun hloads => ⟨hnumbered, hleak.mpr hloads⟩⟩
  | stop =>
    obtain rfl := Option.some.inj hstep
    have hstop := stop_tidy htidy
    exact ⟨iff_of_true hstop.2 id, fun _ => hstop⟩
  | openTun =>
    obtain rfl := Option.some.inj hstep
    have hopen : h.openTun.Tidy := ⟨⟨htidy.1.calls, htidy.1.commandServer⟩, htidy.2⟩
    exact ⟨iff_of_true hopen.2 id, fun _ => hopen⟩

theorem step_total (h : ServerHost) (event : ServerEvent) : ∃ h', step h event = some h' := by
  cases event with
  | start configJson o => exact ⟨_, rfl⟩
  | stop => exact ⟨_, rfl⟩
  | openTun => exact ⟨_, rfl⟩

theorem run_total (h : ServerHost) (events : List ServerEvent) : ∃ h', StepSystem.run step h events = some h' := by
  induction events generalizing h with
  | nil => exact ⟨h, rfl⟩
  | cons event events ih =>
    obtain ⟨t, ht⟩ := step_total h event
    obtain ⟨h', hrun⟩ := ih t
    exact ⟨h', (StepSystem.run_cons ht).trans hrun⟩

/-- No server is leaked after any call of a run, exactly when no start of the run has its
load throw after the server started. -/
theorem no_server_leaked_iff (events : List ServerEvent) :
    StepSystem.AfterEach step (fun _ _ h => h.NoLeak) {} events ↔
      StepSystem.Guarded step (fun h event => ¬h.LoadThrows event) {} events := by
  obtain ⟨h, hrun⟩ := run_total {} events
  exact StepSystem.afterEach_iff_guarded Tidy (fun _ _ _ htidy hstep => step_noLeak_iff htidy hstep) tidy_initial hrun

def failingLoad : CoreOutcomes := { startOrReloadService := .error "permission denied" }

/-- The load of a started server throws: the service remembers no server, and the stop
that follows closes none. -/
theorem failed_load_leaks :
    ¬StepSystem.AfterEach step (fun _ _ h => h.NoLeak) {} [.start "config" failingLoad] ∧
      ∃ h, StepSystem.run step {} [.start "config" failingLoad, .stop] = some h ∧ h.Running 0 ∧
        h.commandServer = none := by
  let leaked : ServerHost := { constructed := 1, calls := [.start 0], lastStartError := some "permission denied" }
  have hstart : step {} (.start "config" failingLoad) = some leaked := rfl
  have hrunning : leaked.Running 0 := ⟨List.mem_singleton.mpr rfl, by simp [leaked]⟩
  refine ⟨fun hafter => ?_, leaked, rfl, hrunning, rfl⟩
  have hheld := (hafter leaked hstart).1 0 hrunning
  cases hheld

/-! ### A leaked server stays -/

/-- The server runs and the service does not remember it. -/
structure Leaked (server : ℕ) (h : ServerHost) : Prop where
  numbered : h.Numbered
  running : h.Running server
  forgotten : h.commandServer ≠ some server

section Leaked
variable {h : ServerHost} {server : ℕ}

theorem Leaked.stopCoreLocked (hleaked : Leaked server h) : Leaked server h.stopCoreLocked :=
  ⟨numbered_stopCoreLocked hleaked.numbered, (running_stopCoreLocked_iff server).mpr ⟨hleaked.running, hleaked.forgotten⟩,
    fun hserver => nomatch hserver⟩

/-- A start remembers only the server that it makes. -/
theorem Leaked.startCoreLocked (hleaked : Leaked server h) (o : CoreOutcomes) :
    Leaked server (exec (startCoreLocked o) h).2 := by
  have hn := hleaked.numbered
  have hnumbered := numbered_started hn o.opensTun
  have hrunning := (running_started_iff hn o.opensTun server).mpr (.inr hleaked.running)
  rw [exec_startCoreLocked]
  cases o.construct with
  | error error => exact hleaked
  | ok _ =>
    cases o.start with
    | error error =>
      exact ⟨numbered_constructed hn, hleaked.running, hleaked.forgotten⟩
    | ok _ =>
      cases o.startOrReloadService with
      | error error => exact ⟨hnumbered, hrunning, (started_commandServer _).symm ▸ hleaked.forgotten⟩
      | ok _ =>
        have hold : server < h.constructed := hn.calls _ hleaked.running.1
        exact ⟨numbered_remembered hn _, hrunning, fun hnew => hold.ne' (Option.some.inj hnew)⟩

theorem Leaked.noted (hleaked : Leaked server h) (lastStartError : Option String) :
    Leaked server { h with lastStartError } :=
  ⟨⟨hleaked.numbered.calls, hleaked.numbered.commandServer⟩, hleaked.running, hleaked.forgotten⟩

theorem Leaked.start (hleaked : Leaked server h) (configJson : String) (o : CoreOutcomes) :
    Leaked server (exec (start configJson o) h).2 := by
  have hcore := hleaked.startCoreLocked o
  have hends := start_ends h configJson o
  generalize (exec (ServerHost.start configJson o) h).2 = h' at hends ⊢
  cases hends with
  | noted lastStartError => exact hleaked.noted lastStartError
  | restarted => exact hleaked.stopCoreLocked.startCoreLocked o
  | started hblank hnone hexec => rwa [hexec] at hcore
  | caught hblank hnone hexec =>
    rw [hexec] at hcore
    exact (hcore.noted _).stopCoreLocked

theorem Leaked.step {h' : ServerHost} {event : ServerEvent} (hleaked : Leaked server h)
    (hstep : step h event = some h') : Leaked server h' := by
  cases event with
  | start configJson o =>
    obtain rfl := Option.some.inj hstep
    exact hleaked.start configJson o
  | stop =>
    obtain rfl := Option.some.inj hstep
    exact hleaked.stopCoreLocked
  | openTun =>
    obtain rfl := Option.some.inj hstep
    exact ⟨⟨hleaked.numbered.calls, hleaked.numbered.commandServer⟩, hleaked.running, hleaked.forgotten⟩

/-- No later call closes a leaked server. -/
theorem Leaked.run {h' : ServerHost} {events : List ServerEvent} (hleaked : Leaked server h)
    (hrun : StepSystem.run ServerHost.step h events = some h') : Leaked server h' :=
  StepSystem.run_invariant (fun s _ _ (hs : Leaked server s) hstep => hs.step hstep) hleaked hrun

end Leaked

end ServerHost

end TauriVpn.Android
