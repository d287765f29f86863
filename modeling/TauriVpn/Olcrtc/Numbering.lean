import TauriVpn.Olcrtc.Slot

/-! The numbers of a stream's data frames. Calls of `send_data` take the lock once a
chunk, so calls on one stream interleave with each other and with everything else
that works on the multiplexer. The counter lives in the entry that the receive path
replaces when a frame of another client arrives. -/

namespace TauriVpn.Olcrtc

open StepSystem

/-- A step of a client that sends on one stream. -/
inductive SendEvent where
  | begin (data : Bytes)
  | chunk (call : ℕ)
  | call (op : Operation)

/-- The multiplexer, the chunks that each `send_data` in flight still has to send,
and the data frames of the stream in the order in which they got their numbers. -/
structure Sending where
  mux : Multiplexer
  calls : List (List Bytes) := []
  emitted : List Bytes := []

def SendEvent.isReset : SendEvent → Bool
  | .call op => op.isReset
  | _ => false

/-- A `send_data` on the stream. -/
def Operation.sendsOn (sid : UInt16) : Operation → Bool
  | .sendData _ sid' _ => sid' == sid
  | _ => false

namespace Sending

/-- One chunk of a `send_data` whose sends succeed: without chunks, or without an
open stream, the call returns. -/
def chunk (sid : UInt16) (s : Sending) (i : ℕ) : Option Sending :=
  match s.calls[i]? with
  | none => none
  | some [] => some { s with calls := s.calls.eraseIdx i }
  | some (chunk :: rest) =>
    match s.mux.allocSeq sid with
    | none => some { s with calls := s.calls.eraseIdx i }
    | some (seq, mux) => some {
        mux, calls := s.calls.set i rest
        emitted := s.emitted ++ [dataFrame mux.clientId sid seq chunk] }

/-- A whole `send_data` on the stream is no single step. -/
def step (sid : UInt16) (s : Sending) : SendEvent → Option Sending
  | .begin data => some { s with calls := s.calls ++ [Chunking.chunks chunkSize data] }
  | .chunk i => s.chunk sid i
  | .call op => if op.sendsOn sid then none else (s.mux.perform op).map fun mux => { s with mux }

/-- What a chunk step can be. -/
theorem chunk_cases {sid : UInt16} {s s' : Sending} {i : ℕ} (h : s.chunk sid i = some s') :
    (s'.mux = s.mux ∧ s'.emitted = s.emitted) ∨
      ∃ seq payload, s.mux.allocSeq sid = some (seq, s'.mux) ∧
        s'.emitted = s.emitted ++ [dataFrame s'.mux.clientId sid seq payload] := by
  unfold chunk at h
  cases hcall : s.calls[i]? with
  | none => simp [hcall] at h
  | some chunks =>
    rw [hcall] at h
    cases chunks with
    | nil => exact Or.inl (Option.some.inj h ▸ ⟨rfl, rfl⟩)
    | cons payload rest =>
      dsimp only at h
      cases halloc : s.mux.allocSeq sid with
      | none =>
        rw [halloc] at h
        exact Or.inl (Option.some.inj h ▸ ⟨rfl, rfl⟩)
      | some alloc =>
        rw [halloc] at h
        exact Or.inr ⟨alloc.1, payload, Option.some.inj h ▸ rfl, Option.some.inj h ▸ rfl⟩

theorem step_call_cases {sid : UInt16} {s s' : Sending} {op : Operation}
    (h : s.step sid (.call op) = some s') :
    op.sendsOn sid = false ∧ s.mux.perform op = some s'.mux ∧ s'.emitted = s.emitted := by
  simp only [step] at h
  split_ifs at h with hsends
  obtain ⟨mux, hmux, rfl⟩ := Option.map_eq_some_iff.mp h
  exact ⟨Bool.eq_false_of_not_eq_true hsends, hmux, rfl⟩

/-- A call that runs without interruption does what `send_data` does. -/
theorem chunks_run_alone (sid : UInt16) (chunks : List Bytes) (m : Multiplexer) (emitted : List Bytes) :
    ∃ n, run (step sid) { mux := m, calls := [chunks], emitted } (List.replicate n (.chunk 0)) = some {
      mux := (Multiplexer.sendChunks (fun _ => .ok ()) sid m chunks).mux
      emitted := emitted ++ (Multiplexer.sendChunks (fun _ => .ok ()) sid m chunks).frames } := by
  induction chunks generalizing m emitted with
  | nil => exact ⟨1, by simp [run, step, chunk, Multiplexer.sendChunks]⟩
  | cons payload rest ih =>
    cases halloc : m.allocSeq sid with
    | none => exact ⟨1, by simp [run, step, chunk, Multiplexer.sendChunks, halloc]⟩
    | some alloc =>
      obtain ⟨n, hrun⟩ := ih alloc.2 (emitted ++ [dataFrame alloc.2.clientId sid alloc.1 payload])
      have hstep : step sid { mux := m, calls := [payload :: rest], emitted } (.chunk 0) = some {
          mux := alloc.2, calls := [rest]
          emitted := emitted ++ [dataFrame alloc.2.clientId sid alloc.1 payload] } := by
        simp [step, chunk, halloc]
      refine ⟨n + 1, ?_⟩
      rw [List.replicate_succ, run_cons hstep, hrun]
      simp [Multiplexer.sendChunks, halloc]

end Sending

/-! ### The counter of an entry -/

namespace Multiplexer

/-- The operation does not replace an entry of `sid` that has given out numbers. -/
def KeepsCounter (sid : UInt16) (m : Multiplexer) : Operation → Prop
  | .handleFrame frame =>
    match classify frame with
    | .data sid' clientId _ _ => sid' = sid →
        ∀ stream ∈ m.streams[sid]?, stream.clientId = clientId ∨ stream.nextSendSeq = 0
    | _ => True
  | _ => True

instance (sid : UInt16) (m : Multiplexer) (op : Operation) : Decidable (m.KeepsCounter sid op) :=
  match op with
  | .handleFrame frame =>
    match h : classify frame with
    | .data sid' clientId _ _ =>
      decidable_of_iff (sid' = sid → ∀ stream ∈ m.streams[sid]?, stream.clientId = clientId ∨
        stream.nextSendSeq = 0) (by simp [KeepsCounter, h])
    | .ignored => isTrue (by simp [KeepsCounter, h])
    | .reset _ => isTrue (by simp [KeepsCounter, h])
    | .close _ _ => isTrue (by simp [KeepsCounter, h])
  | .waitForData _ => isTrue trivial
  | .openStream => isTrue trivial
  | .sendData _ _ _ => isTrue trivial
  | .closeStream _ _ => isTrue trivial
  | .sendClientReset _ => isTrue trivial
  | .readStream _ => isTrue trivial

section Counter
variable {m m' : Multiplexer} {sid : UInt16} {stream : Stream}

/-- A payload leaves the counter where the client id is the entry's, and resets it elsewhere. -/
theorem nextSendSeq_accept (clientId seq : UInt32) (payload : Bytes) :
    ((stream.adopt clientId).accept seq payload).1.nextSendSeq =
      if stream.clientId = clientId then stream.nextSendSeq else 0 := by
  rw [(Stream.accept_frame _ _ _).2.2.1]
  split_ifs with hid
  · rw [Stream.adopt_of_eq _ hid]
  · rw [Stream.adopt_of_ne _ hid]
    rfl

/-- Every operation but sending on the stream and a reset keeps the entry and its counter. -/
theorem perform_nextSendSeq {op : Operation} (hget : m.streams[sid]? = some stream)
    (hsend : op.sendsOn sid = false) (hreset : op.isReset = false)
    (hkeeps : m.KeepsCounter sid op) (hstep : m.perform op = some m') :
    ∃ stream', m'.streams[sid]? = some stream' ∧ stream'.nextSendSeq = stream.nextSendSeq := by
  cases perform_effect hget hreset hstep with
  | kept hget' => exact ⟨stream, hget', rfl⟩
  | sent send data hmux => simp [Operation.sendsOn] at hsend
  | closed send hget' hnotified => exact ⟨_, hget', rfl⟩
  | read hget' => exact ⟨_, hget', rfl⟩
  | closedByFrame hget' hnotified => exact ⟨_, hget', rfl⟩
  | received hkind hframe hmux =>
    refine ⟨_, by rw [hmux, receiveData_get], ?_⟩
    rw [streamOr, hget, Option.getD_some, nextSendSeq_accept]
    simp only [KeepsCounter, hkind, forall_true_left] at hkeeps
    split_ifs with hid
    · rfl
    · exact ((hkeeps stream hget).resolve_left hid).symm

end Counter

end Multiplexer

/-! ### Runs of a sender -/

namespace Sending

/-- The entry counts the frames, and they carry the numbers from 0 on. -/
structure Numbered (sid : UInt16) (s : Sending) : Prop where
  counter : ∃ stream, s.mux.streams[sid]? = some stream ∧
    stream.nextSendSeq = UInt32.ofNat s.emitted.length
  numbers : s.emitted.map frameSeq = (List.range s.emitted.length).map UInt32.ofNat

/-- No event replaces an entry that has given out numbers. -/
def KeepsCounter (sid : UInt16) (s : Sending) : SendEvent → Prop
  | .call op => s.mux.KeepsCounter sid op
  | _ => True

instance (sid : UInt16) (s : Sending) (e : SendEvent) : Decidable (s.KeepsCounter sid e) :=
  match e with
  | .call op => inferInstanceAs (Decidable (s.mux.KeepsCounter sid op))
  | .begin _ => isTrue trivial
  | .chunk _ => isTrue trivial

section Run
variable {sid : UInt16} {s s' : Sending}

/-- The next frame gets the next number. -/
theorem Numbered.chunk (h : Numbered sid s) {i : ℕ} (hstep : s.chunk sid i = some s') : Numbered sid s' := by
  obtain ⟨hmux, hemitted⟩ | ⟨seq, payload, halloc, hemitted⟩ := chunk_cases hstep
  · exact ⟨by rw [hmux, hemitted]; exact h.counter, by rw [hemitted]; exact h.numbers⟩
  · obtain ⟨stream, hget, hcounter⟩ := h.counter
    obtain ⟨stream', hget', -, hseq, hmux⟩ := Multiplexer.allocSeq_eq_some halloc
    obtain rfl : stream = stream' := Option.some.inj (hget.symm.trans hget')
    have hlength : s'.emitted.length = s.emitted.length + 1 := by simp [hemitted]
    constructor
    · refine ⟨_, by rw [hmux]; exact Multiplexer.setStream_get _ _ _, ?_⟩
      rw [hlength, UInt32.ofNat_add, hcounter]
      rfl
    · rw [hlength, hemitted, List.map_append, h.numbers, List.range_succ, List.map_append, List.map_singleton,
        List.map_singleton, frameSeq_dataFrame, ← hseq, hcounter]

theorem Numbered.step (h : Numbered sid s) {e : SendEvent} (hreset : e.isReset = false)
    (hkeeps : s.KeepsCounter sid e) (hstep : s.step sid e = some s') : Numbered sid s' := by
  cases e with
  | begin data => exact Option.some.inj hstep ▸ ⟨h.counter, h.numbers⟩
  | chunk i => exact h.chunk hstep
  | call op =>
    obtain ⟨hsend, hperform, hemitted⟩ := step_call_cases hstep
    obtain ⟨stream, hget, hcounter⟩ := h.counter
    obtain ⟨stream', hget', hseq⟩ := Multiplexer.perform_nextSendSeq hget hsend hreset hkeeps hperform
    exact ⟨⟨stream', hget', by rw [hseq, hcounter, hemitted]⟩, by rw [hemitted]; exact h.numbers⟩

end Run

/-- Where `open_stream` has returned. -/
def start (mux : Multiplexer) : Sending := { mux }

theorem numbered_start {m m₀ : Multiplexer} {sid : UInt16} (hopen : m.openStream = some (sid, m₀)) :
    Numbered sid (start m₀) := by
  obtain ⟨-, -, hstreams, -⟩ := Multiplexer.openLoop_spec hopen
  refine ⟨⟨Stream.fresh 0 m.nextNotify, ?_, rfl⟩, rfl⟩
  show m₀.streams[sid]? = some (Stream.fresh 0 m.nextNotify)
  rw [hstreams, Std.ExtTreeMap.getElem?_insert_self]

/-- After `open_stream`, with no reset and no replacement of an entry that has given
out numbers, the data frames carry `0, 1, 2, …` modulo `2 ^ 32` at every moment. -/
theorem numbers_consecutive (m m₀ : Multiplexer) (sid : UInt16) (hopen : m.openStream = some (sid, m₀))
    (events : List SendEvent) (hreset : ∀ e ∈ events, e.isReset = false)
    (hkeeps : Guarded (step sid) (KeepsCounter sid) (start m₀) events) (s : Sending)
    (hrun : run (step sid) (start m₀) events = some s) :
    s.emitted.map frameSeq = (List.range s.emitted.length).map UInt32.ofNat := by
  have hguard := guarded_and.mpr ⟨guarded_of_forall hreset, hkeeps⟩
  have hinv : Numbered sid s := run_invariant_of_guarded
    (fun s e t h hg hstep => Numbered.step h hg.1 hg.2 hstep) (numbered_start hopen) hguard hrun
  exact hinv.numbers

/-- Elsewhere the numbers start again: after a frame of another client has replaced the
entry, the next chunk of any call gets number 0. -/
theorem number_restarts (sid : UInt16) (s s' : Sending) (stream : Stream)
    (hget : s.mux.streams[sid]? = some stream) (clientId seq : UInt32) (hid : stream.clientId ≠ clientId)
    (payload : Bytes) (hlegal : IsPayload sid payload) (i : ℕ) (chunk : Bytes) (rest : List Bytes)
    (hcall : s.calls[i]? = some (chunk :: rest))
    (hrun : run (step sid) s [.call (.handleFrame (dataFrame clientId sid seq payload)), .chunk i] = some s') :
    s'.emitted = s.emitted ++ [dataFrame s.mux.clientId sid 0 chunk] := by
  obtain ⟨t, ht, hrest⟩ := run_cons_eq_some.mp hrun
  obtain rfl := Option.some.inj ht
  obtain ⟨u, hu, hnil⟩ := run_cons_eq_some.mp hrest
  obtain rfl := Option.some.inj hnil
  have hentry : (s.mux.handleFrame (dataFrame clientId sid seq payload)).1.streams[sid]? =
      some ((Stream.fresh clientId stream.notify).accept seq payload).1 := by
    rw [Multiplexer.handleFrame_dataFrame _ _ _ hlegal, Multiplexer.receiveData_get, Multiplexer.streamOr, hget,
      Option.getD_some, Stream.adopt_of_ne _ hid]
  obtain ⟨-, hclosed, hcounter, -⟩ := Stream.accept_frame (Stream.fresh clientId stream.notify) seq payload
  have halloc : ∃ m, (s.mux.handleFrame (dataFrame clientId sid seq payload)).1.allocSeq sid = some (0, m) := by
    unfold Multiplexer.allocSeq
    rw [hentry]
    dsimp only
    rw [hclosed, hcounter]
    exact ⟨_, rfl⟩
  obtain ⟨m, hm⟩ := halloc
  have hclient : m.clientId = s.mux.clientId := by
    obtain ⟨_, -, -, -, rfl⟩ := Multiplexer.allocSeq_eq_some hm
    have hframe : s.mux.perform (.handleFrame (dataFrame clientId sid seq payload)) =
        some (s.mux.handleFrame (dataFrame clientId sid seq payload)).1 := rfl
    rw [Multiplexer.setStream_clientId]
    exact Multiplexer.perform_clientId hframe
  simp only [step, Sending.chunk, hcall, hm, Option.some.injEq] at hu
  rw [← hu, hclient]

/-- Two calls take turns around a read, a close frame and data of the stream's own client. -/
theorem numbers_consecutive_two_calls :
    ∃ m₀ s, (Multiplexer.new 7).openStream = some (1, m₀) ∧
      run (step 1) (start m₀) [.call (.handleFrame (dataFrame 5 1 0 [3])), .begin [1], .begin [2], .chunk 1,
        .call (.readStream 1), .call (.handleFrame (dataFrame 5 1 1 [4])), .chunk 0,
        .call (.handleFrame (closeFrame 9 1))] = some s ∧
      s.emitted.map frameSeq = (List.range s.emitted.length).map UInt32.ofNat := by
  have hopen := (Option.some_get (show (Multiplexer.new 7).openStream.isSome by decide)).symm
  have hrun := (Option.some_get (show (run (step 1) (start ((Multiplexer.new 7).openStream.get (by decide)).2)
    [.call (.handleFrame (dataFrame 5 1 0 [3])), .begin [1], .begin [2], .chunk 1, .call (.readStream 1),
      .call (.handleFrame (dataFrame 5 1 1 [4])), .chunk 0,
      .call (.handleFrame (closeFrame 9 1))]).isSome by decide)).symm
  exact ⟨_, _, hopen, hrun, numbers_consecutive (Multiplexer.new 7) _ 1 hopen _ (by decide) (by decide) _ hrun⟩

/-- A client sends one byte, receives the first data frame of another client id and
sends again: both data frames carry number 0. -/
theorem number_reused :
    ∃ m₀ s, (Multiplexer.new 7).openStream = some (1, m₀) ∧
      run (step 1) (start m₀) [.begin [1], .chunk 0, .call (.handleFrame (dataFrame 5 1 0 [3])), .begin [2],
        .chunk 1] = some s ∧
      s.emitted = [dataFrame 7 1 0 [1], dataFrame 7 1 0 [2]] ∧
      s.emitted.map frameSeq ≠ (List.range s.emitted.length).map UInt32.ofNat := by
  have hopen := (Option.some_get (show (Multiplexer.new 7).openStream.isSome by decide)).symm
  have hrun := (Option.some_get (show (run (step 1) (start ((Multiplexer.new 7).openStream.get (by decide)).2)
    [.begin [1], .chunk 0, .call (.handleFrame (dataFrame 5 1 0 [3])), .begin [2], .chunk 1]).isSome
      by decide)).symm
  exact ⟨_, _, hopen, hrun, by decide, by decide⟩

end Sending

end TauriVpn.Olcrtc
