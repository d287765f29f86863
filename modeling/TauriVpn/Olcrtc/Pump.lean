import TauriVpn.Lib.StepSystem
import TauriVpn.Olcrtc.Delivery

/-! `pump_from_mux`, interleaved with the frames that arrive on its stream. The
read and the closed test take the stream table separately, with the write in
between, so a last data frame and the close can both arrive in that gap. -/

namespace TauriVpn.Olcrtc

open StepSystem

/-! ### The pump -/

inductive PumpExit where
  | closed
  | writeFailed
  deriving DecidableEq

/-- Where `pump_from_mux` stands. -/
inductive PumpPc where
  | waiting
  | reading
  | writing (data : Bytes)
  | testing
  | exited (exit : PumpExit)
  deriving DecidableEq

/-- Bytes taken from the multiplexer and not yet written. -/
def PumpPc.inHand : PumpPc → Bytes
  | .writing data => data
  | _ => []

@[simp] theorem PumpPc.inHand_waiting : PumpPc.waiting.inHand = [] := rfl
@[simp] theorem PumpPc.inHand_reading : PumpPc.reading.inHand = [] := rfl
@[simp] theorem PumpPc.inHand_writing (data : Bytes) : (PumpPc.writing data).inHand = data := rfl
@[simp] theorem PumpPc.inHand_testing : PumpPc.testing.inHand = [] := rfl
@[simp] theorem PumpPc.inHand_exited (exit : PumpExit) : (PumpPc.exited exit).inHand = [] := rfl

inductive PumpEvent where
  | wait
  | read
  | write
  | writeFail (count : ℕ)
  | test
  deriving DecidableEq

/-- The pump, its multiplexer and what it has written to the local socket. -/
structure Pump where
  mux : Multiplexer
  pc : PumpPc
  written : Bytes
  deriving DecidableEq

namespace Pump

/-- A wait that does not return parks and is tried again when it is woken. Empty
data is not written, and a write that fails may have written a part. -/
def step (sid : UInt16) (p : Pump) (e : PumpEvent) : Option Pump :=
  match p.pc, e with
  | .waiting, .wait => some { p with
      mux := (p.mux.waitForData sid).2
      pc := if (p.mux.waitForData sid).1.isSome then .waiting else .reading }
  | .reading, .read => some { p with
      mux := (p.mux.readStream sid).2
      pc := .writing (p.mux.readStream sid).1 }
  | .writing data, .write => some { p with written := p.written ++ data, pc := .testing }
  | .writing data, .writeFail count =>
    if data = [] then none
    else some { p with written := p.written ++ data.take count, pc := .exited .writeFailed }
  | .testing, .test =>
    some { p with pc := if p.mux.streamClosed sid then .exited .closed else .waiting }
  | _, _ => none

/-- The stream entry exists once the pump has waited. -/
def Present (p : Pump) (sid : UInt16) : Prop := p.pc = .waiting ∨ p.mux.closedFlag sid ≠ none

section Step
variable {sid : UInt16} {p p' : Pump} {e : PumpEvent}

/-- What a step of the pump can be. -/
theorem step_cases (h : p.step sid e = some p') :
    (p.pc = .waiting ∧ e = .wait ∧ ∃ pc, pc.inHand = [] ∧ pc ≠ .exited .closed ∧
      p' = { p with mux := (p.mux.waitForData sid).2, pc := pc }) ∨
    (p.pc = .reading ∧ e = .read ∧ p' = { p with
      mux := (p.mux.readStream sid).2
      pc := .writing (p.mux.readStream sid).1 }) ∨
    (∃ data, p.pc = .writing data ∧ e = .write ∧
      p' = { p with written := p.written ++ data, pc := .testing }) ∨
    (∃ data count, p.pc = .writing data ∧ e = .writeFail count ∧ data ≠ [] ∧
      p' = { p with written := p.written ++ data.take count, pc := .exited .writeFailed }) ∨
    (p.pc = .testing ∧ e = .test ∧
      p' = { p with pc := if p.mux.streamClosed sid then .exited .closed else .waiting }) := by
  unfold step at h
  split at h
  case h_1 hpc =>
    refine Or.inl ⟨hpc, rfl, _, ?_, ?_, (Option.some.inj h).symm⟩ <;> split_ifs <;> simp
  case h_2 hpc => exact Or.inr (Or.inl ⟨hpc, rfl, (Option.some.inj h).symm⟩)
  case h_3 data hpc => exact Or.inr (Or.inr (Or.inl ⟨data, hpc, rfl, (Option.some.inj h).symm⟩))
  case h_4 data count hpc =>
    split_ifs at h with hdata
    exact Or.inr (Or.inr (Or.inr (Or.inl ⟨data, count, hpc, rfl, hdata, (Option.some.inj h).symm⟩)))
  case h_5 hpc => exact Or.inr (Or.inr (Or.inr (Or.inr ⟨hpc, rfl, (Option.some.inj h).symm⟩)))
  case h_6 => cases h

/-- A step moves bytes from the receive buffer through the hand to the socket. -/
theorem step_conserves (hstep : p.step sid e = some p') {clientId seq : UInt32} {buffered : Bytes}
    (h : p.mux.Expects sid clientId seq buffered) :
    ∃ buffered', p'.mux.Expects sid clientId seq buffered' ∧
      (p'.pc ≠ .exited .writeFailed →
        p'.written ++ p'.pc.inHand ++ buffered' = p.written ++ p.pc.inHand ++ buffered) := by
  obtain ⟨hpc, -, pc, hhand, -, rfl⟩ | ⟨hpc, -, rfl⟩ | ⟨data, hpc, -, rfl⟩ |
    ⟨data, count, -, -, -, rfl⟩ | ⟨hpc, -, rfl⟩ := step_cases hstep
  · exact ⟨buffered, h.waitForData, fun _ => by simp [hpc, hhand]⟩
  · obtain ⟨hdata, hmux⟩ := h.readStream
    exact ⟨[], hmux, fun _ => by simp [hpc, hdata]⟩
  · exact ⟨buffered, h, fun _ => by simp [hpc]⟩
  · exact ⟨buffered, h, fun hne => absurd rfl hne⟩
  · refine ⟨buffered, h, fun _ => ?_⟩
    dsimp only
    split_ifs <;> simp [hpc]

theorem step_written (hstep : p.step sid e = some p') : p.written <+: p'.written := by
  obtain ⟨-, -, pc, -, -, rfl⟩ | ⟨-, -, rfl⟩ | ⟨data, -, -, rfl⟩ |
    ⟨data, count, -, -, -, rfl⟩ | ⟨-, -, rfl⟩ := step_cases hstep
  all_goals simp

/-- The pump does not close its stream. -/
theorem step_openAt (hstep : p.step sid e = some p') (h : p.mux.OpenAt sid) : p'.mux.OpenAt sid := by
  obtain ⟨-, -, pc, -, -, rfl⟩ | ⟨-, -, rfl⟩ | ⟨data, -, -, rfl⟩ |
    ⟨data, count, -, -, -, rfl⟩ | ⟨-, -, rfl⟩ := step_cases hstep
  · exact h.waitForData
  · exact h.readStream
  all_goals exact h

theorem step_present (hstep : p.step sid e = some p') (h : p.Present sid) : p'.Present sid := by
  obtain ⟨-, -, pc, -, -, rfl⟩ | ⟨hpc, -, rfl⟩ | ⟨data, hpc, -, rfl⟩ |
    ⟨data, count, hpc, -, -, rfl⟩ | ⟨hpc, -, rfl⟩ := step_cases hstep
  · right
    rw [Multiplexer.closedFlag_waitForData]
    simp
  · right
    rw [Multiplexer.closedFlag_readStream]
    exact h.resolve_left (by simp [hpc])
  all_goals exact Or.inr (h.resolve_left (by simp [hpc]))

/-- A pump that leaves its loop at the test has found the stream closed. -/
theorem step_exit_closed (hstep : p.step sid e = some p') (hexit : p'.pc = .exited .closed) :
    p.pc = .testing ∧ e = .test ∧ p.mux.streamClosed sid = true := by
  obtain ⟨-, -, pc, -, hpc, rfl⟩ | ⟨-, -, rfl⟩ | ⟨data, -, -, rfl⟩ |
    ⟨data, count, -, -, -, rfl⟩ | ⟨hpc, he, rfl⟩ := step_cases hstep
  · exact absurd hexit hpc
  · cases hexit
  · cases hexit
  · cases hexit
  · dsimp only at hexit
    split_ifs at hexit with hclosed
    exact ⟨hpc, he, hclosed⟩

theorem step_of_exited {exit : PumpExit} (h : p.pc = .exited exit) : p.step sid e = none := by
  unfold step
  rw [h]

end Step

end Pump

/-! ### The pump and its stream -/

/-- The pump, with the frames of its stream that are still to arrive. -/
structure PumpLink extends Pump where
  incoming : List Bytes
  deriving DecidableEq

inductive PumpLinkEvent where
  | pump (e : PumpEvent)
  | deliver
  deriving DecidableEq

namespace PumpLink

/-- `deliver` is one `handle_frame` call, with the next frame of the stream. -/
def step (sid : UInt16) (s : PumpLink) : PumpLinkEvent → Option PumpLink
  | .pump e => (s.toPump.step sid e).map fun p => { s with toPump := p }
  | .deliver =>
    match s.incoming with
    | [] => none
    | frame :: rest => some { s with mux := (s.mux.handleFrame frame).1, incoming := rest }

/-- A closed test that finds the stream closed finds its receive buffer empty: no
data frame was handled since the last `read_stream`. -/
def DrainedAtClose (sid : UInt16) (s : PumpLink) : PumpLinkEvent → Prop
  | .pump .test => s.mux.streamClosed sid = true → s.mux.recvBuf sid = []
  | _ => True

instance (sid : UInt16) (s : PumpLink) (e : PumpLinkEvent) : Decidable (DrainedAtClose sid s e) := by
  unfold DrainedAtClose
  split <;> infer_instance

/-- The server's data frames from number `seq` on, then its close frame. -/
def serverFrames (clientId : UInt32) (sid : UInt16) (seq : UInt32) (payloads : List Bytes) :
    List Bytes :=
  framesFrom clientId sid seq payloads ++ [closeFrame clientId sid]

/-- Nothing is lost or reordered: what was written, what is in hand, what is
buffered and what is still to come are the data. Until the close frame arrives
the stream is open. -/
structure Inv (sid : UInt16) (clientId : UInt32) (data : Bytes) (s : PumpLink) : Prop where
  present : s.Present sid
  conserved : ∃ seq buffered payloads, s.mux.Expects sid clientId seq buffered ∧
    (∀ p ∈ payloads, IsPayload sid p) ∧
    (s.pc ≠ .exited .writeFailed →
      s.written ++ s.pc.inHand ++ buffered ++ payloads.flatten = data) ∧
    (s.incoming = serverFrames clientId sid seq payloads ∧ s.mux.OpenAt sid ∧
        s.pc ≠ .exited .closed ∨
      s.incoming = [] ∧ payloads = [])

section Inv
variable {sid : UInt16} {clientId : UInt32} {data : Bytes} {s s' : PumpLink}

theorem Inv.pump {e : PumpEvent} {p : Pump} (h : Inv sid clientId data s)
    (hstep : s.toPump.step sid e = some p) : Inv sid clientId data { s with toPump := p } := by
  obtain ⟨hpresent, seq, buffered, payloads, hexp, hlegal, hdata, hcases⟩ := h
  obtain ⟨buffered', hexp', hdata'⟩ := Pump.step_conserves hstep hexp
  refine ⟨Pump.step_present hstep hpresent, seq, buffered', payloads, hexp', hlegal, fun hne => ?_, ?_⟩
  · have hbefore : s.pc ≠ .exited .writeFailed := fun hc => by
      rw [Pump.step_of_exited hc] at hstep
      cases hstep
    rw [← hdata hbefore, ← hdata' hne]
  · rcases hcases with ⟨hin, hopen, hpc⟩ | hdone
    · refine Or.inl ⟨hin, Pump.step_openAt hstep hopen, fun hexit => ?_⟩
      -- an open stream whose entry exists does not let the pump out
      obtain ⟨htest, -, hclosed⟩ := Pump.step_exit_closed hstep hexit
      rw [Multiplexer.openAt_iff] at hopen
      rw [Multiplexer.streamClosed_eq] at hclosed
      have hflag : s.mux.closedFlag sid ≠ none := hpresent.resolve_left (by simp [htest])
      cases hf : s.mux.closedFlag sid with
      | none => exact hflag hf
      | some closed =>
        rw [hf, Option.getD_some] at hclosed
        exact hopen (by rw [hf, hclosed])
    · exact Or.inr hdone

theorem Inv.deliver {frame : Bytes} {rest : List Bytes} (h : Inv sid clientId data s)
    (hin : s.incoming = frame :: rest) :
    Inv sid clientId data { s with mux := (s.mux.handleFrame frame).1, incoming := rest } := by
  obtain ⟨hpresent, seq, buffered, payloads, hexp, hlegal, hdata, hcases⟩ := h
  obtain ⟨hframes, hopen, hpc⟩ | ⟨hnil, -⟩ := hcases
  · rw [hin, serverFrames] at hframes
    cases payloads with
    | nil =>
      simp only [framesFrom, List.nil_append, List.cons.injEq] at hframes
      obtain ⟨rfl, rfl⟩ := hframes
      refine ⟨hpresent.imp_right fun hflag => ?_, seq, buffered, [], hexp.closeFrame, by simp, hdata,
        Or.inr ⟨rfl, rfl⟩⟩
      exact Multiplexer.closedFlag_closeFrame_ne_none hflag
    | cons payload payloads =>
      simp only [framesFrom, List.cons_append, List.cons.injEq] at hframes
      obtain ⟨rfl, rfl⟩ := hframes
      have hpl := hlegal payload (by simp)
      refine ⟨Or.inr ?_, seq + 1, buffered ++ payload, payloads, hexp.dataFrame hpl,
        fun p hp => hlegal p (by simp [hp]), fun hne => ?_,
        Or.inl ⟨rfl, hopen.dataFrame hpl, hpc⟩⟩
      · exact Multiplexer.closedFlag_dataFrame_ne_none _ _ hpl
      · rw [← hdata hne]
        simp [List.append_assoc]
  · rw [hin] at hnil
    cases hnil

theorem Inv.step {e : PumpLinkEvent} (h : Inv sid clientId data s) (hstep : s.step sid e = some s') :
    Inv sid clientId data s' := by
  cases e with
  | pump e =>
    simp only [PumpLink.step, Option.map_eq_some_iff] at hstep
    obtain ⟨p, hp, rfl⟩ := hstep
    exact h.pump hp
  | deliver =>
    simp only [PumpLink.step] at hstep
    split at hstep
    · cases hstep
    · cases hstep
      exact h.deliver ‹_›

/-- A pump that has left its loop at a closed test has been sent everything, and
has written all of it when the receive buffer is empty. -/
theorem Inv.exited (h : Inv sid clientId data s) (hexit : s.pc = .exited .closed) :
    s.incoming = [] ∧ s.written ++ s.mux.recvBuf sid = data := by
  obtain ⟨-, seq, buffered, payloads, hexp, -, hdata, hcases⟩ := h
  obtain ⟨-, -, hpc⟩ | ⟨hnil, rfl⟩ := hcases
  · exact absurd hexit hpc
  · refine ⟨hnil, ?_⟩
    have := hdata (by rw [hexit]; simp)
    rw [hexp.recvBuf, ← this, hexit]
    simp

/-- After the exit at a closed test nothing can happen any more. -/
theorem Inv.not_step_of_exited {e : PumpLinkEvent} (h : Inv sid clientId data s)
    (hexit : s.pc = .exited .closed) : s.step sid e ≠ some s' := by
  cases e with
  | pump e => simp [PumpLink.step, Pump.step_of_exited hexit]
  | deliver => simp [PumpLink.step, (h.exited hexit).1]

end Inv

/-! ### No tail loss -/

/-- `pump_from_mux` at its start, before frames of its stream. -/
def start (mux : Multiplexer) (incoming : List Bytes) : PumpLink := ⟨⟨mux, .waiting, []⟩, incoming⟩

theorem inv_start {mux : Multiplexer} {sid : UInt16} {clientId seq : UInt32} {payloads : List Bytes}
    (hexp : mux.Expects sid clientId seq []) (hopen : mux.OpenAt sid)
    (hlegal : ∀ p ∈ payloads, IsPayload sid p) :
    Inv sid clientId payloads.flatten (start mux (serverFrames clientId sid seq payloads)) where
  present := Or.inl rfl
  conserved := ⟨seq, [], payloads, hexp, hlegal, fun _ => by simp [start],
    Or.inl ⟨rfl, hopen, by simp [start]⟩⟩

/-- The pump leaves its loop at a closed test that finds the stream closed. -/
theorem step_test_of_closed {sid : UInt16} {s s' : PumpLink}
    (hstep : s.step sid (.pump .test) = some s') (hclosed : s.mux.streamClosed sid = true) :
    s'.mux = s.mux ∧ s'.pc = .exited .closed := by
  simp only [step, Option.map_eq_some_iff] at hstep
  obtain ⟨p, hp, rfl⟩ := hstep
  obtain ⟨-, he, -⟩ | ⟨-, he, -⟩ | ⟨_, -, he, -⟩ | ⟨_, _, -, he, -⟩ | ⟨-, -, rfl⟩ := Pump.step_cases hp
  any_goals cases he
  exact ⟨rfl, by simp [hclosed]⟩

theorem Inv.step_exit {sid : UInt16} {clientId : UInt32} {data : Bytes} {s s' : PumpLink}
    {e : PumpLinkEvent} (h : Inv sid clientId data s) (hstep : s.step sid e = some s')
    (hexit : s'.pc = .exited .closed) :
    e = .pump .test ∧ s.mux.streamClosed sid = true ∧ s'.mux = s.mux := by
  cases e with
  | pump e =>
    have hp := hstep
    simp only [PumpLink.step, Option.map_eq_some_iff] at hp
    obtain ⟨p, hp, rfl⟩ := hp
    obtain ⟨-, rfl, hclosed⟩ := Pump.step_exit_closed hp hexit
    exact ⟨rfl, hclosed, (step_test_of_closed hstep hclosed).1⟩
  | deliver =>
    simp only [PumpLink.step] at hstep
    split at hstep
    · cases hstep
    · rename_i hin
      cases hstep
      rw [(h.exited hexit).1] at hin
      cases hin

/-- The invariant together with the verdict on the run so far: only the test that
lets the pump out can be at fault. -/
def Judged (sid : UInt16) (clientId : UInt32) (data : Bytes) (ok : Prop) (s : PumpLink) : Prop :=
  Inv sid clientId data s ∧ (s.pc ≠ .exited .closed → ok) ∧
    (s.pc = .exited .closed → (ok ↔ s.mux.recvBuf sid = []))

theorem Judged.step {sid : UInt16} {clientId : UInt32} {data : Bytes} {ok : Prop} {s s' : PumpLink}
    {e : PumpLinkEvent} (h : Judged sid clientId data ok s) (hstep : s.step sid e = some s') :
    Judged sid clientId data (ok ∧ DrainedAtClose sid s e) s' := by
  obtain ⟨hinv, hok, -⟩ := h
  replace hok := hok fun hexit => hinv.not_step_of_exited hexit hstep
  refine ⟨hinv.step hstep, fun hexit => ⟨hok, ?_⟩, fun hexit => ?_⟩
  · match e, hstep with
    | .pump .test, hstep => exact fun hclosed => absurd (step_test_of_closed hstep hclosed).2 hexit
    | .pump .wait, _ | .pump .read, _ | .pump .write, _ | .pump (.writeFail _), _ | .deliver, _ =>
      trivial
  · obtain ⟨rfl, hclosed, hmux⟩ := hinv.step_exit hstep hexit
    simp [DrainedAtClose, hok, hclosed, hmux]

/-- When the pump leaves its loop because the stream is closed, it has written the
payloads of all data frames before the close exactly if the closed test that let
it out found the receive buffer drained. -/
theorem writes_all_iff (mux : Multiplexer) (sid : UInt16) (clientId seq : UInt32)
    (payloads : List Bytes) (hexp : mux.Expects sid clientId seq []) (hopen : mux.OpenAt sid)
    (hlegal : ∀ p ∈ payloads, IsPayload sid p) (events : List PumpLinkEvent) (s : PumpLink)
    (hrun : run (step sid) (start mux (serverFrames clientId sid seq payloads)) events = some s)
    (hexit : s.pc = .exited .closed) :
    s.written = payloads.flatten ↔
      Guarded (step sid) (DrainedAtClose sid)
        (start mux (serverFrames clientId sid seq payloads)) events := by
  have hstart : Judged sid clientId payloads.flatten True
      (start mux (serverFrames clientId sid seq payloads)) :=
    ⟨inv_start hexp hopen hlegal, fun _ => trivial, by simp [start]⟩
  obtain ⟨hinv, -, hok⟩ := run_verdict (Judged sid clientId payloads.flatten)
    (fun _ _ _ _ h hstep => h.step hstep) hstart hrun
  rw [← true_and (Guarded _ _ _ _), hok hexit, ← (hinv.exited hexit).2, List.self_eq_append_right]

/-- The last frame and the close arrive before the last read. -/
theorem writes_all_two_frames :
    let mux := (Multiplexer.new 9).setStream 1 (Stream.fresh 0 0)
    let events : List PumpLinkEvent := [.deliver, .pump .wait, .pump .read, .pump .write, .pump .test,
      .deliver, .deliver, .pump .wait, .pump .read, .pump .write, .pump .test]
    ∃ s, run (step 1) (start mux (serverFrames 0 1 0 [[1, 2], [3]])) events = some s ∧
      s.written = [[1, 2], [3]].flatten := by
  intro mux events
  have hrun := Option.some_get (show (run (step 1) (start mux (serverFrames 0 1 0 [[1, 2], [3]]))
    events).isSome by decide)
  refine ⟨_, hrun.symm, ?_⟩
  refine (writes_all_iff mux 1 0 0 [[1, 2], [3]] ?_ ?_ (by decide) events _ hrun.symm (by decide)).mpr
    (by decide)
  · rw [Multiplexer.expects_iff_of_get (Multiplexer.setStream_get _ _ _)]
    decide
  · rw [Multiplexer.openAt_iff]
    decide

/-- The last frame and the close arrive after the read, while it is written. -/
theorem tail_lost :
    ∃ s, run (step 1) (start ((Multiplexer.new 9).setStream 1 (Stream.fresh 0 0))
        (serverFrames 0 1 0 [[1, 2], [3]]))
        [.deliver, .pump .wait, .pump .read, .deliver, .deliver, .pump .write, .pump .test] = some s ∧
      s.pc = .exited .closed ∧ s.written ≠ [[1, 2], [3]].flatten := by
  refine ⟨_, (Option.some_get (by decide)).symm, ?_, ?_⟩ <;> decide

end PumpLink

end TauriVpn.Olcrtc
