import TauriVpn.Android.Service
import TauriVpn.Lib.StepSystem

/-! The health watchdog of the service: a thread that sleeps, probes the connection and
asks for a restart when too many probes fail. One flag tells a thread to leave its loop;
the next start of the watchdog takes it back. Starts and stops hold the lifecycle lock,
and the threads take their steps between them. -/

namespace TauriVpn.Android

/-- Where a watchdog thread stands: before it reads the flag, asleep, before it reads the
flag again, about to probe, in the probe, with the answer of the probe, asleep before it
kills the process, or at its end. -/
inductive Stage where
  | testing | sleeping | checking | ready | probing
  | counting (passed : Bool)
  | restarting | ended
  deriving DecidableEq

/-- The thread may come back to the head of its loop. -/
def Stage.inLoop : Stage → Bool
  | .restarting | .ended => false
  | _ => true

/-- `interrupted` is the interrupt that no sleep has taken yet. -/
structure HealthThread where
  stage : Stage := .ended
  interrupted : Bool := false

def HealthThread.isAlive (thread : HealthThread) : Bool := thread.stage != .ended

/-- The service with its watchdog; `started` threads have been started so far. -/
structure Watched where
  service : Service := {}
  healthCheckStop : Bool := false
  healthCheckThread : Option ℕ := none
  consecutiveHealthFailures : ℕ := 0
  started : ℕ := 0
  threads : ℕ → HealthThread := fun _ => {}

namespace Watched

def failuresBeforeRestart : ℕ := 2

/-! ### Starts and stops -/

/-- The thread that the service knows has not ended. -/
def watching (w : Watched) : Bool := w.healthCheckThread.any fun i => (w.threads i).isAlive

def startHealthWatchdog (w : Watched) : Watched :=
  if w.watching then w
  else { w with
    healthCheckStop := false
    healthCheckThread := some w.started
    started := w.started + 1
    threads := Function.update w.threads w.started { stage := .testing } }

/-- `Thread.interrupt` of the thread that the service knows. -/
def interrupt (threads : ℕ → HealthThread) : Option ℕ → ℕ → HealthThread
  | some i => Function.update threads i { threads i with interrupted := true }
  | none => threads

def stopHealthWatchdog (w : Watched) : Watched :=
  { w with
    healthCheckStop := true
    threads := interrupt w.threads w.healthCheckThread
    healthCheckThread := none
    consecutiveHealthFailures := 0 }

def stop (w : Watched) : Watched := { w.stopHealthWatchdog with service := w.service.stop }

def startCoreLocked (w : Watched) (configJson : String) (profileId : Option Uuid) : Watched :=
  { w with service := w.service.startCoreLocked configJson profileId, consecutiveHealthFailures := 0 }

/-- `start`, by whether `startCoreLocked` returns; `none` when its exception leaves the
service. A service that stops itself is destroyed, and that stops it. -/
def start (w : Watched) (coreStarts : Bool) (configJson : String) (profileId : Option Uuid) : Option Watched :=
  if isBlank configJson then
    some w.stop
  else match w.service.core with
    | some _ =>
      if w.service.tunEstablished then
        some w
      else if coreStarts then
        let stopped : Watched := { w with service := w.service.stopCoreLocked }
        some (stopped.startCoreLocked configJson profileId).startHealthWatchdog
      else
        none
    | none =>
      if coreStarts then
        some (w.startCoreLocked configJson profileId).startHealthWatchdog
      else
        some w.stop

/-- The process dies; a new one has the preferences alone. -/
def kill (w : Watched) : Watched :=
  { service := { lastConfig := w.service.lastConfig, lastProfileId := w.service.lastProfileId }
    started := w.started }

/-! ### The thread -/

def setThread (w : Watched) (i : ℕ) (thread : HealthThread) : Watched :=
  { w with threads := Function.update w.threads i thread }

/-- The thread goes on, its interrupt left as it is. -/
def goTo (w : Watched) (i : ℕ) (stage : Stage) : Watched := w.setThread i { w.threads i with stage := stage }

/-- The update of the failure count, and `restartCoreFromWatchdog` when there are enough:
it returns without a config, and otherwise schedules a restart and sleeps. -/
def countProbe (w : Watched) (i : ℕ) (passed : Bool) : Watched :=
  if passed then
    { w.goTo i .testing with consecutiveHealthFailures := 0 }
  else
    let counted : Watched := { w with consecutiveHealthFailures := w.consecutiveHealthFailures + 1 }
    if failuresBeforeRestart ≤ counted.consecutiveHealthFailures ∧
        counted.service.lastConfig.any (fun configJson => !isBlank configJson) then
      counted.goTo i .restarting
    else
      counted.goTo i .testing

/-- The next step of a thread, with the answer of the probe if it is in one. An interrupt
ends a sleep: in the loop the flag is read again, before the kill the thread dies of it. -/
def turn (w : Watched) (i : ℕ) (passed : Bool) : Option Watched :=
  match (w.threads i).stage with
  | .testing => some (w.goTo i (if w.healthCheckStop then .ended else .sleeping))
  | .sleeping =>
    some (if (w.threads i).interrupted then w.setThread i { stage := .testing } else w.goTo i .checking)
  | .checking =>
    some (w.goTo i
      (if w.healthCheckStop ∨ ¬w.service.tunEstablished ∨ w.service.core.isNone then .testing else .ready))
  | .ready => some (w.goTo i .probing)
  | .probing => some (w.goTo i (.counting passed))
  | .counting passed => some (w.countProbe i passed)
  | .restarting => some (if (w.threads i).interrupted then w.goTo i .ended else w.kill)
  | .ended => none

end Watched

/-- A start, a stop (`onDestroy`, `serviceStop` or one of the intents), an edit of the
preferences, the tunnel coming up, a step of a thread, or the death of the process. -/
inductive WatchdogEvent where
  | start (coreStarts : Bool) (configJson : String) (profileId : Option Uuid)
  | stop
  | edit (lastConfig : Option String) (lastProfileId : Option Uuid)
  | openTun
  | turn (i : ℕ) (passed : Bool)
  | kill

namespace Watched

/-- An exception that leaves the service takes the process with it. -/
def step (w : Watched) : WatchdogEvent → Option Watched
  | .start coreStarts configJson profileId =>
    some ((w.start coreStarts configJson profileId).getD w.kill)
  | .stop => some w.stop
  | .edit lastConfig lastProfileId =>
    some { w with service := { w.service with lastConfig, lastProfileId } }
  | .openTun =>
    if w.service.core.isSome then
      some { w with service := { w.service with tunEstablished := true } }
    else none
  | .turn i passed => w.turn i passed
  | .kill => some w.kill

/-- The event starts a thread: the start brings a core up and finds no watchdog at work. -/
def Spawns (w : Watched) : WatchdogEvent → Prop
  | .start coreStarts configJson _ =>
    isBlank configJson = false ∧ coreStarts = true ∧ w.watching = false ∧
      ¬(w.service.core.isSome = true ∧ w.service.tunEstablished = true)
  | _ => False

/-- The thread is in its loop. -/
def Looping (w : Watched) (i : ℕ) : Prop := (w.threads i).stage.inLoop = true

/-- With the flag down, no two threads keep looping. -/
def AtMostOne (w : Watched) : Prop :=
  w.healthCheckStop = false → ∀ i j, w.Looping i → w.Looping j → i = j

/-- A thread is only started once every earlier one has left its loop. -/
def StartsAlone (w : Watched) (event : WatchdogEvent) : Prop :=
  w.Spawns event → ∀ i < w.started, ¬w.Looping i

/-- A thread that was started before a stop has left its loop after a later start, and
probes no more. -/
def LeavesOnStop (events : List WatchdogEvent) : Prop :=
  ∀ before between after event w₀ w₁ w₂ w i, before ++ .stop :: between ++ event :: after <+: events →
    StepSystem.run step {} before = some w₀ → StepSystem.run step {} (before ++ .stop :: between) = some w₁ →
    w₁.Spawns event → step w₁ event = some w₂ → StepSystem.run step w₂ after = some w →
    i < w₀.started → ¬w.Looping i

section Lemmas
variable {w w' : Watched}

/-- The watchdog leaves the service to do what it does without one. -/
theorem start_service (coreStarts : Bool) (configJson : String) (profileId : Option Uuid) :
    (w.start coreStarts configJson profileId).map service = w.service.start coreStarts configJson profileId := by
  have hstart : ∀ v : Watched, v.startHealthWatchdog.service = v.service := by
    intro v
    unfold startHealthWatchdog
    split <;> rfl
  unfold start Service.start
  cases isBlank configJson with
  | true => rfl
  | false =>
    cases hcore : w.service.core with
    | none =>
      cases coreStarts with
      | true => exact congrArg some (hstart _)
      | false => rfl
    | some core =>
      cases w.service.tunEstablished with
      | true => rfl
      | false =>
        cases coreStarts with
        | true => exact congrArg some (hstart _)
        | false => rfl

theorem stage_interrupt (threads : ℕ → HealthThread) (known : Option ℕ) (i : ℕ) :
    (interrupt threads known i).stage = (threads i).stage := by
  cases known with
  | none => rfl
  | some j =>
    by_cases hj : i = j
    · rw [interrupt, hj, Function.update_self]
    · rw [interrupt, Function.update_of_ne hj]

/-- A stop moves no thread. -/
theorem looping_stop (i : ℕ) : w.stop.Looping i ↔ w.Looping i := by
  rw [Looping, Looping, ← stage_interrupt w.threads w.healthCheckThread i]
  rfl

theorem not_looping_kill (i : ℕ) : ¬w.kill.Looping i := fun h => nomatch h

/-- Where a thread that was in its loop is moved, no thread comes to be in its loop. -/
theorem looping_setThread {i j : ℕ} {thread : HealthThread} (hthread : thread.stage.inLoop = true → w.Looping i)
    (h : (w.setThread i thread).Looping j) : w.Looping j := by
  simp only [Looping, setThread] at h
  by_cases hj : j = i
  · rw [hj, Function.update_self] at h
    exact hj ▸ hthread h
  · rwa [Function.update_of_ne hj] at h

theorem looping_countProbe {i j : ℕ} {passed : Bool} (hi : w.Looping i) (h : (w.countProbe i passed).Looping j) :
    w.Looping j := by
  unfold countProbe at h
  dsimp only at h
  split_ifs at h
  · exact looping_setThread (fun _ => hi) h
  · exact looping_setThread (fun _ => hi) h
  · exact looping_setThread (fun _ => hi) h

/-- A step of a thread starts none, and brings none back into its loop. -/
theorem turn_looping {i : ℕ} {passed : Bool} (h : w.turn i passed = some w') :
    w'.started = w.started ∧ ∀ j, w'.Looping j → w.Looping j := by
  have hin : ∀ stage, (w.threads i).stage = stage → stage.inLoop = true → w.Looping i := by
    rintro stage rfl hloop
    exact hloop
  unfold turn at h
  cases hstage : (w.threads i).stage with
  | testing | checking | ready | probing =>
    simp only [hstage, Option.some.injEq] at h
    subst h
    exact ⟨rfl, fun j => looping_setThread fun _ => hin _ hstage rfl⟩
  | sleeping =>
    simp only [hstage, Option.some.injEq] at h
    split_ifs at h
    · subst h
      exact ⟨rfl, fun j => looping_setThread fun _ => hin _ hstage rfl⟩
    · subst h
      exact ⟨rfl, fun j => looping_setThread fun _ => hin _ hstage rfl⟩
  | counting passed =>
    simp only [hstage, Option.some.injEq] at h
    subst h
    refine ⟨?_, fun j => looping_countProbe (hin _ hstage rfl)⟩
    unfold countProbe
    dsimp only
    split_ifs <;> rfl
  | restarting =>
    simp only [hstage, Option.some.injEq] at h
    split_ifs at h
    · subst h
      exact ⟨rfl, fun j => looping_setThread fun hloop => nomatch hloop⟩
    · subst h
      exact ⟨rfl, fun j hj => absurd hj (not_looping_kill j)⟩
  | ended =>
    simp only [hstage] at h
    cases h

end Lemmas

/-- What a step does to the threads: it starts one, or it starts none and brings none
back into its loop. -/
inductive Moved (w : Watched) (event : WatchdogEvent) (w' : Watched) : Prop where
  | spawned (hspawns : w.Spawns event) (hstarted : w'.started = w.started + 1)
      (hflag : w'.healthCheckStop = false) (hloop : ∀ j, w'.Looping j ↔ j = w.started ∨ w.Looping j)
  | kept (hspawns : ¬w.Spawns event) (hstarted : w'.started = w.started)
      (hloop : ∀ j, w'.Looping j → w.Looping j)

section Steps
variable {w w' : Watched}

theorem moved_of_startHealthWatchdog (w v : Watched) {event : WatchdogEvent} (hthreads : v.threads = w.threads)
    (hknown : v.healthCheckThread = w.healthCheckThread) (hstarted : v.started = w.started)
    (hspawns : w.Spawns event ↔ w.watching = false) : Moved w event v.startHealthWatchdog := by
  have hwatching : v.watching = w.watching := by rw [watching, watching, hthreads, hknown]
  unfold startHealthWatchdog
  rw [hwatching]
  cases hw : w.watching with
  | true =>
    rw [if_pos rfl]
    apply Moved.kept
    · rw [hspawns, hw]
      decide
    · exact hstarted
    · intro j hj
      rwa [Looping, hthreads] at hj
  | false =>
    rw [if_neg (by decide)]
    apply Moved.spawned
    · exact hspawns.mpr hw
    · exact congrArg (· + 1) hstarted
    · rfl
    · intro j
      simp only [Looping, hthreads, hstarted]
      by_cases hj : j = w.started
      · rw [hj, Function.update_self]
        exact iff_of_true rfl (.inl rfl)
      · rw [Function.update_of_ne hj]
        exact (or_iff_right hj).symm

theorem moved_of_start {coreStarts : Bool} {configJson : String} {profileId : Option Uuid}
    (h : (w.start coreStarts configJson profileId).getD w.kill = w') :
    Moved w (.start coreStarts configJson profileId) w' := by
  have hstop : ∀ {event}, ¬w.Spawns event → Moved w event w.stop :=
    fun hspawns => .kept hspawns rfl fun j hj => (looping_stop j).mp hj
  subst h
  unfold start
  cases hblank : isBlank configJson with
  | true => exact hstop fun hspawns => by simp [Spawns, hblank] at hspawns
  | false =>
    cases hcore : w.service.core with
    | none =>
      cases coreStarts with
      | true =>
        apply moved_of_startHealthWatchdog w (w.startCoreLocked configJson profileId) rfl rfl rfl
        simp [Spawns, hblank, hcore]
      | false => exact hstop fun hspawns => by simp [Spawns] at hspawns
    | some core =>
      cases htun : w.service.tunEstablished with
      | true =>
        apply Moved.kept
        · simp [Spawns, hcore, htun]
        · rfl
        · exact fun j hj => hj
      | false =>
        cases coreStarts with
        | true =>
          apply moved_of_startHealthWatchdog w
            (startCoreLocked { w with service := w.service.stopCoreLocked } configJson profileId) rfl rfl rfl
          simp [Spawns, hblank, htun]
        | false =>
          apply Moved.kept
          · simp [Spawns]
          · rfl
          · exact fun j hj => absurd hj (not_looping_kill j)

theorem moved_of_step {event : WatchdogEvent} (h : step w event = some w') : Moved w event w' := by
  cases event with
  | start coreStarts configJson profileId => exact moved_of_start (Option.some.inj h)
  | stop =>
    cases h
    exact .kept (fun hspawns => hspawns) rfl fun j hj => (looping_stop j).mp hj
  | edit lastConfig lastProfileId =>
    cases h
    exact .kept (fun hspawns => hspawns) rfl fun j hj => hj
  | openTun =>
    simp only [step] at h
    split_ifs at h
    cases h
    exact .kept (fun hspawns => hspawns) rfl fun j hj => hj
  | turn i passed =>
    obtain ⟨hstarted, hloop⟩ := turn_looping h
    exact .kept (fun hspawns => hspawns) hstarted hloop
  | kill =>
    cases h
    exact .kept (fun hspawns => hspawns) rfl fun j hj => absurd hj (not_looping_kill j)

/-- Only the thread that was started last may be in its loop. -/
def OnlyLastLoops (w : Watched) : Prop := ∀ i, w.Looping i → i + 1 = w.started

theorem onlyLastLoops_initial : OnlyLastLoops {} := by
  intro i hi
  cases hi

theorem OnlyLastLoops.atMostOne (h : w.OnlyLastLoops) : w.AtMostOne := by
  intro _ i j hi hj
  have hilast := h i hi
  have hjlast := h j hj
  omega

/-- The guard decides: a thread started beside another makes two, and one started alone
is the only one. -/
theorem step_alone {event : WatchdogEvent} (hlast : w.OnlyLastLoops) (h : step w event = some w') :
    (w'.AtMostOne ↔ w.StartsAlone event) ∧ (w.StartsAlone event → w'.OnlyLastLoops) := by
  cases moved_of_step h with
  | spawned hspawns hstarted hflag hloop =>
    have halone : w.StartsAlone event → w'.OnlyLastLoops := by
      intro halone i hi
      rw [hstarted]
      rcases (hloop i).mp hi with rfl | hi
      · rfl
      · have hi' := hlast i hi
        exact absurd hi (halone hspawns i (by omega))
    refine ⟨⟨fun hone _ i hi hloops => ?_, fun h => (halone h).atMostOne⟩, halone⟩
    have heq := hone hflag i w.started ((hloop i).mpr (.inr hloops)) ((hloop _).mpr (.inl rfl))
    omega
  | kept hspawns hstarted hloop =>
    have hlast' : w'.OnlyLastLoops := fun i hi => hstarted ▸ hlast i (hloop i hi)
    exact ⟨iff_of_true hlast'.atMostOne fun hs => absurd hs hspawns, fun _ => hlast'⟩

theorem started_le_of_run {events : List WatchdogEvent} (h : StepSystem.run step w events = some w') :
    w.started ≤ w'.started := by
  induction events generalizing w with
  | nil => exact le_of_eq (congrArg started (Option.some.inj h))
  | cons event events ih =>
    obtain ⟨v, hv, hrest⟩ := StepSystem.run_cons_eq_some.mp h
    refine le_trans ?_ (ih hrest)
    cases moved_of_step hv with
    | spawned _ hstarted _ _ => omega
    | kept _ hstarted _ => omega

/-- In a run whose threads are all started alone, no earlier thread loops after a start. -/
theorem leavesOnStop_of_guarded {events : List WatchdogEvent}
    (h : StepSystem.Guarded step StartsAlone {} events) : LeavesOnStop events := by
  rintro before between after event w₀ w₁ w₂ w i ⟨rest, rfl⟩ hbefore hstop hspawns hstart hafter hi
  have hrun : StepSystem.run step {} (before ++ .stop :: between ++ event :: after) = some w := by
    rw [StepSystem.run_append, hstop, Option.bind_some, StepSystem.run_cons hstart, hafter]
  have hlast : w.OnlyLastLoops := by
    refine StepSystem.run_invariant_of_guarded (fun v event v' hv hguard hstep => (step_alone hv hstep).2 hguard)
      onlyLastLoops_initial (StepSystem.guarded_append.mp h).1 hrun
  have hfirst : w₀.started ≤ w₁.started := by
    rw [StepSystem.run_append, hbefore, Option.bind_some] at hstop
    exact started_le_of_run hstop
  have hsecond : w₁.started < w₂.started := by
    cases moved_of_step hstart with
    | spawned _ hstarted _ _ => omega
    | kept hnot _ _ => exact absurd hspawns hnot
  have hthird := started_le_of_run hafter
  intro hloop
  have hindex := hlast i hloop
  omega

end Steps

/-- The watchdogs of a run are one at a time, and leave their loops when they are
stopped, just when every one of them is started alone. -/
theorem one_watchdog_iff {events : List WatchdogEvent} {w : Watched}
    (hrun : StepSystem.run step {} events = some w) :
    StepSystem.AfterEach step (fun _ _ w => w.AtMostOne) {} events ∧ LeavesOnStop events ↔
      StepSystem.Guarded step StartsAlone {} events := by
  have hiff := StepSystem.afterEach_iff_guarded OnlyLastLoops
    (fun w event w' hlast hstep => step_alone hlast hstep) onlyLastLoops_initial hrun
  rw [hiff, and_iff_left_iff_imp]
  exact leavesOnStop_of_guarded

instance (w : Watched) (event : WatchdogEvent) : Decidable (w.Spawns event) :=
  match event with
  | .start _ _ _ => inferInstanceAs (Decidable (_ ∧ _ ∧ _ ∧ _))
  | .stop | .edit _ _ | .openTun | .turn _ _ | .kill => isFalse id

instance (w : Watched) (i : ℕ) : Decidable (w.Looping i) := inferInstanceAs (Decidable (_ = true))

instance (w : Watched) (event : WatchdogEvent) : Decidable (w.StartsAlone event) :=
  inferInstanceAs (Decidable (_ → _))

/-- A stop, the thread at the flag, and a start. -/
def unhurried : List WatchdogEvent :=
  [.start true "config" none, .turn 0 false, .stop, .turn 0 false, .turn 0 false, .start true "config" none]

theorem one_watchdog_unhurried : StepSystem.AfterEach step (fun _ _ w => w.AtMostOne) {} unhurried ∧
    LeavesOnStop unhurried := by
  obtain ⟨w, hrun⟩ : ∃ w, StepSystem.run step {} unhurried = some w := ⟨_, rfl⟩
  exact (one_watchdog_iff hrun).mpr (by decide)

/-- A probe that outlasts a stop and a start. -/
def hurried : List WatchdogEvent :=
  [.start true "config" none, .openTun, .turn 0 false, .turn 0 false, .turn 0 false, .turn 0 false, .stop,
    .start true "config" none, .openTun]

/-- Both threads loop, and the one that was stopped comes to probe again. -/
theorem two_watchdogs : ∃ w w', StepSystem.run step {} hurried = some w ∧ w.healthCheckStop = false ∧
    w.Looping 0 ∧ w.Looping 1 ∧ StepSystem.run step w (List.replicate 8 (.turn 0 false)) = some w' ∧
    w'.healthCheckStop = false ∧ (w'.threads 0).stage = .probing ∧ w'.Looping 1 :=
  ⟨_, _, rfl, rfl, rfl, rfl, rfl, rfl, rfl, rfl⟩

end Watched

end TauriVpn.Android
