import TauriVpn.Olcrtc.Finality
import TauriVpn.Olcrtc.Pump
import TauriVpn.Olcrtc.Wakeup

/-! A client reset and the pumps of its streams. The reset closes, notifies and removes
an entry in one locked step; the pump that it wakes looks its entry up again, finds
none and puts an open one in its place, whose new waker nobody else holds. -/

namespace TauriVpn.Olcrtc

open StepSystem

/-- `pump_from_mux` with the steps of its `wait_for_data`. -/
structure PumpTask where
  wait : Waiting
  pc : PumpPc

inductive TaskEvent where
  | look
  | park
  | read
  | write
  | writeFail
  | test
  | notify (waker : NotifyId)
  | call (op : Operation)

/-- An operation of another task. -/
def TaskEvent.isCall : TaskEvent → Bool
  | .call _ => true
  | _ => false

namespace PumpTask

/-- The pump takes one step, or another task does. -/
def step (sid : UInt16) (s : PumpTask) : TaskEvent → Option PumpTask
  | .look =>
    if s.pc = .waiting then
      (s.wait.step sid .look).map fun wait =>
        { s with wait, pc := if wait.waiter = .away then .reading else .waiting }
    else none
  | .park => if s.pc = .waiting then (s.wait.step sid .park).map fun wait => { s with wait } else none
  | .read =>
    if s.pc = .reading then
      some { s with
        wait := { s.wait with mux := (s.wait.mux.readStream sid).2 }
        pc := .writing (s.wait.mux.readStream sid).1 }
    else none
  | .write =>
    match s.pc with
    | .writing _ => some { s with pc := .testing }
    | _ => none
  | .writeFail =>
    match s.pc with
    | .writing data => if data = [] then none else some { s with pc := .exited .writeFailed }
    | _ => none
  | .test =>
    if s.pc = .testing then
      some (if s.wait.mux.streamClosed sid then { s with pc := .exited .closed }
        else { wait := { s.wait with waiter := .looking }, pc := .waiting })
    else none
  | .notify waker => (s.wait.step sid (.notify waker)).map fun wait => { s with wait }
  | .call op => (s.wait.step sid (.call op)).map fun wait => { s with wait }

/-- The pump is parked in `wait_for_data`. -/
def Parked (s : PumpTask) : Prop := s.pc = .waiting ∧ ∃ waker, s.wait.waiter = .parked waker

/-- The pump waits, and what it finds under its sid gives it no reason to return. -/
structure Doomed (sid : UInt16) (s : PumpTask) : Prop where
  pc : s.pc = .waiting
  entry : ¬s.wait.mux.Ready sid

section Doomed
variable {sid : UInt16} {s s' : PumpTask}

/-- A look that gives no reason to return clones the waker of the entry, or of a new one. -/
theorem look_of_not_ready {w : Waiting} (h : ¬w.mux.Ready sid) :
    w.look sid = { w with
        mux := (w.mux.waitForData sid).2
        waiter := .cloned (w.mux.streamOr sid w.mux.clientId).notify } ∧
      ¬(w.look sid).mux.Ready sid := by
  have hready : ¬((w.mux.entryOrInsert sid w.mux.clientId).1.recvBuf ≠ [] ∨
      (w.mux.entryOrInsert sid w.mux.clientId).1.closed = true) := by
    rw [Multiplexer.entryOrInsert_fst, Multiplexer.streamOr]
    cases hget : w.mux.streams[sid]? with
    | none => simp [Stream.fresh]
    | some stream => exact fun hr => h ⟨stream, hget, hr⟩
  have hlook : w.look sid = { w with
      mux := (w.mux.waitForData sid).2
      waiter := .cloned (w.mux.streamOr sid w.mux.clientId).notify } := by
    unfold Waiting.look Multiplexer.waitForData
    dsimp only
    rw [if_neg hready, Multiplexer.entryOrInsert_fst]
  refine ⟨hlook, ?_⟩
  rw [hlook, Multiplexer.waitForData_snd, Multiplexer.ready_iff (Multiplexer.entryOrInsert_get _ _ _),
    ← Multiplexer.entryOrInsert_fst]
  exact hready

theorem Doomed.step (h : Doomed sid s) {e : TaskEvent} (he : e.isCall = false)
    (hstep : s.step sid e = some s') : Doomed sid s' := by
  cases e with
  | look =>
    simp only [PumpTask.step, if_pos h.pc] at hstep
    obtain ⟨wait, hlook, rfl⟩ := Option.map_eq_some_iff.mp hstep
    simp only [Waiting.step] at hlook
    split_ifs at hlook
    obtain rfl := Option.some.inj hlook
    obtain ⟨hlooked, hready⟩ := look_of_not_ready h.entry
    refine ⟨?_, hready⟩
    dsimp only
    rw [hlooked]
    exact if_neg fun heq => WaiterPc.noConfusion heq
  | park =>
    simp only [PumpTask.step, if_pos h.pc] at hstep
    obtain ⟨wait, hpark, rfl⟩ := Option.map_eq_some_iff.mp hstep
    simp only [Waiting.step] at hpark
    split at hpark
    · obtain rfl := Option.some.inj hpark
      exact ⟨h.pc, h.entry⟩
    · cases hpark
  | notify waker =>
    obtain ⟨wait, hnotify, rfl⟩ := Option.map_eq_some_iff.mp hstep
    simp only [Waiting.step] at hnotify
    split_ifs at hnotify
    obtain rfl := Option.some.inj hnotify
    exact ⟨h.pc, h.entry⟩
  | call op => cases he
  | read => simp [PumpTask.step, h.pc] at hstep
  | write => simp [PumpTask.step, h.pc] at hstep
  | writeFail => simp [PumpTask.step, h.pc] at hstep
  | test => simp [PumpTask.step, h.pc] at hstep

end Doomed

theorem foldl_notifyOne_mux (ids : List NotifyId) (s : Waiting) :
    (ids.foldl Waiting.notifyOne s).mux = s.mux := by
  induction ids generalizing s with
  | nil => rfl
  | cons id ids ih => exact ih _

/-- The reset of a client as a step: it notifies before the lock is released. -/
theorem step_reset (sid : UInt16) (s : PumpTask) (clientId : UInt32) :
    s.step sid (.call (.handleFrame (resetFrame clientId))) = some { s with
      wait := (s.wait.mux.resetClient clientId).2.foldl Waiting.notifyOne
        { s.wait with mux := (s.wait.mux.resetClient clientId).1 } } := by
  have hlocked : (Operation.handleFrame (resetFrame clientId)).notifiesLocked = true := by
    simp [Operation.notifiesLocked, Operation.isReset, classify_resetFrame]
  simp only [step, Waiting.step, Waiting.waitsOn, Waiting.call, Multiplexer.perform, hlocked,
    Multiplexer.notifiedBy, Multiplexer.handleFrame_resetFrame]
  rfl

/-! ### What the woken pump does -/

theorem foldl_notifyOne_looking (ids : List NotifyId) {w : Waiting} (h : w.waiter = .looking) :
    (ids.foldl Waiting.notifyOne w).waiter = .looking := by
  induction ids generalizing w with
  | nil => exact h
  | cons id ids ih => exact ih (by simp [Waiting.notifyOne, h])

/-- A notification of its waker wakes a registered waiter. -/
theorem foldl_notifyOne_woken {ids : List NotifyId} {waker : NotifyId} (hmem : waker ∈ ids) {w : Waiting}
    (hparked : w.waiter = .parked waker) (hwaiting : w.notifies waker = .waiting) :
    (ids.foldl Waiting.notifyOne w).waiter = .looking := by
  induction ids generalizing w with
  | nil => cases hmem
  | cons id ids ih =>
    by_cases hid : waker = id
    · subst hid
      exact foldl_notifyOne_looking ids (by simp [Waiting.notifyOne, hparked, hwaiting])
    · refine ih ((List.mem_cons.mp hmem).resolve_left hid) ?_ ?_
      · simp [Waiting.notifyOne, hparked, hid]
      · simp [Waiting.notifyOne, hid, hwaiting]

theorem foldl_notifyOne_of_notMem {ids : List NotifyId} {waker : NotifyId} (h : waker ∉ ids) (w : Waiting) :
    (ids.foldl Waiting.notifyOne w).notifies waker = w.notifies waker := by
  induction ids generalizing w with
  | nil => rfl
  | cons id ids ih =>
    rw [List.mem_cons, not_or] at h
    obtain ⟨hid, hids⟩ := h
    rw [List.foldl_cons, ih hids]
    simp [Waiting.notifyOne, hid]

theorem mem_resetClient_notified {m : Multiplexer} {clientId : UInt32} {waker : NotifyId} :
    waker ∈ (m.resetClient clientId).2 ↔
      ∃ sid : UInt16, ∃ stream : Stream, m.streams[sid]? = some stream ∧ stream.clientId = clientId ∧ stream.notify = waker := by
  simp only [Multiplexer.resetClient, List.mem_map, List.mem_filter, Prod.exists,
    Std.ExtTreeMap.mem_toList_iff_getElem?_eq_some, beq_iff_eq, and_assoc]

/-- The reset wakes the pump, which parks again on a waker that it makes itself. -/
theorem reset_parks_again (sid : UInt16) (s : PumpTask) (stream : Stream) (hpc : s.pc = .waiting)
    (hget : s.wait.mux.streams[sid]? = some stream) (hparked : s.wait.waiter = .parked stream.notify)
    (hwaiting : s.wait.notifies stream.notify = .waiting)
    (hused : s.wait.mux.Each fun _ stream => stream.notify < s.wait.mux.nextNotify)
    (hnew : s.wait.notifies s.wait.mux.nextNotify = .idle) :
    ∃ s', run (step sid) s [.call (.handleFrame (resetFrame stream.clientId)), .look, .park] = some s' ∧
      s'.pc = .waiting ∧ s'.wait.waiter = .parked s.wait.mux.nextNotify ∧
      s'.wait.mux.streams[sid]? = some (Stream.fresh s.wait.mux.clientId s.wait.mux.nextNotify) := by
  have hnone := Multiplexer.resetClient_get_own hget
  generalize hw : (s.wait.mux.resetClient stream.clientId).2.foldl Waiting.notifyOne
    { s.wait with mux := (s.wait.mux.resetClient stream.clientId).1 } = w
  have hmux : w.mux = (s.wait.mux.resetClient stream.clientId).1 := by rw [← hw, foldl_notifyOne_mux]
  have hlooking : w.waiter = .looking := by
    rw [← hw]
    exact foldl_notifyOne_woken (mem_resetClient_notified.mpr ⟨sid, stream, hget, rfl, rfl⟩) hparked hwaiting
  have hidle : w.notifies s.wait.mux.nextNotify = .idle := by
    rw [← hw, foldl_notifyOne_of_notMem, hnew]
    intro hmem
    obtain ⟨sid', stream', hget', -, hnotify⟩ := mem_resetClient_notified.mp hmem
    exact absurd hnotify (Nat.ne_of_lt (hused sid' stream' hget'))
  have hready : ¬w.mux.Ready sid := by
    rintro ⟨stream', hget', -⟩
    rw [hmux, hnone] at hget'
    cases hget'
  have hfresh : w.mux.streamOr sid w.mux.clientId =
      Stream.fresh s.wait.mux.clientId s.wait.mux.nextNotify := by
    rw [hmux, Multiplexer.streamOr, hnone]
    rfl
  obtain ⟨hlook, -⟩ := look_of_not_ready hready
  rw [hfresh] at hlook
  refine ⟨{ s with wait := (w.look sid).park s.wait.mux.nextNotify }, ?_, hpc, ?_, ?_⟩
  · rw [run_cons (step_reset sid s stream.clientId), hw]
    have hstep : step sid { s with wait := w } .look = some { s with wait := w.look sid } := by
      simp only [step, Waiting.step, if_pos hpc, if_pos hlooking, Option.map_some, hlook]
      rw [if_neg fun heq => WaiterPc.noConfusion heq, hpc]
    have hpark : step sid { s with wait := w.look sid } .park =
        some { s with wait := (w.look sid).park s.wait.mux.nextNotify } := by
      simp only [step, Waiting.step, if_pos hpc, hlook]
      rfl
    rw [run_cons hstep, run_cons hpark, run_nil]
  · rw [hlook]
    simp [Waiting.park, hidle]
  · rw [hlook]
    simp only [Waiting.park]
    rw [Multiplexer.waitForData_snd, Multiplexer.entryOrInsert_get, hfresh]

/-- A pump that is parked on a stream of the client when the reset is handled does not
leave its loop, whatever steps it takes and whatever notifications are still outstanding. -/
theorem reset_never_releases (sid : UInt16) (s : PumpTask) (stream : Stream) (hparked : s.Parked)
    (hget : s.wait.mux.streams[sid]? = some stream) (s₀ : PumpTask)
    (hreset : s.step sid (.call (.handleFrame (resetFrame stream.clientId))) = some s₀)
    (events : List TaskEvent) (halone : ∀ e ∈ events, e.isCall = false) (s' : PumpTask)
    (hrun : run (step sid) s₀ events = some s') : s'.pc = .waiting := by
  have hdoomed : Doomed sid s₀ := by
    rw [step_reset] at hreset
    obtain rfl := Option.some.inj hreset
    refine ⟨hparked.1, ?_⟩
    rintro ⟨stream', hget', -⟩
    dsimp only at hget'
    rw [foldl_notifyOne_mux, Multiplexer.resetClient_get_own hget] at hget'
    cases hget'
  have hguard : Guarded (step sid) (fun _ e => e.isCall = false) s₀ events := guarded_of_forall halone
  have hend : Doomed sid s' := run_invariant_of_guarded (fun _ _ _ h hg hstep => Doomed.step h hg hstep)
    hdoomed hguard hrun
  exact hend.pc

/-- A pump about to wait for the first bytes of a stream that has just been opened. -/
def firstWait (m₀ : Multiplexer) : PumpTask where
  wait := ⟨m₀, fun _ => .idle, .looking, []⟩
  pc := .waiting

theorem reset_never_releases_first_wait :
    ∃ m₀ s s₀, (Multiplexer.new 3).openStream = some (1, m₀) ∧
      run (step 1) (firstWait m₀) [.look, .park] = some s ∧
      s.step 1 (.call (.handleFrame (resetFrame 0))) = some s₀ ∧
      ∀ s', run (step 1) s₀ [.look, .park] = some s' → s'.pc = .waiting := by
  have hopen := (Option.some_get (show (Multiplexer.new 3).openStream.isSome by decide)).symm
  have hrun := (Option.some_get (show (run (step 1) (firstWait ((Multiplexer.new 3).openStream.get
    (by decide)).2) [.look, .park]).isSome by decide)).symm
  refine ⟨_, _, _, hopen, hrun, step_reset 1 _ 0, fun s' hrun' => ?_⟩
  exact reset_never_releases 1 _ (Stream.fresh 0 0) ⟨by decide, 0, by decide⟩ (by decide) _ (step_reset 1 _ 0)
    [.look, .park] (by decide) s' hrun'

/-- The pump parks again, on an open stream that nobody else knows. -/
theorem reset_hangs_pump :
    ∃ m₀ s s', (Multiplexer.new 3).openStream = some (1, m₀) ∧
      run (step 1) (firstWait m₀) [.look, .park] = some s ∧ s.Parked ∧
      run (step 1) s [.call (.handleFrame (resetFrame 0)), .look, .park] = some s' ∧ s'.Parked ∧
      s'.wait.mux.streamClosed 1 = false := by
  have hopen := (Option.some_get (show (Multiplexer.new 3).openStream.isSome by decide)).symm
  have hrun := (Option.some_get (show (run (step 1) (firstWait ((Multiplexer.new 3).openStream.get
    (by decide)).2) [.look, .park]).isSome by decide)).symm
  have hused : ((run (step 1) (firstWait ((Multiplexer.new 3).openStream.get (by decide)).2)
      [.look, .park]).get (by decide)).wait.mux.Each fun _ stream => stream.notify < 1 :=
    (Multiplexer.each_new 3).insert (show (Stream.fresh 0 0).notify < 1 by decide)
      (show _ = (Multiplexer.new 3).streams.insert 1 (Stream.fresh 0 0) by decide)
  obtain ⟨s', hrun', hpc, hparked, hentry⟩ := reset_parks_again 1 _ (Stream.fresh 0 0) (by decide) (by decide)
    (by decide) (by decide) hused (by decide)
  refine ⟨_, _, s', hopen, hrun, ⟨by decide, 0, by decide⟩, hrun', ⟨hpc, _, hparked⟩, ?_⟩
  rw [Multiplexer.streamClosed, hentry]
  rfl

end PumpTask

end TauriVpn.Olcrtc
