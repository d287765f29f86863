import TauriVpn.Olcrtc.Operation

/-! Two clients in one room. Every frame is published to all participants, and
the streams a client opens carry client id 0. The close and reset branches of
`handle_frame` ignore frames of another client id; the data branch replaces the
stream that has the frame's sid by an empty one of that client. -/

namespace TauriVpn.Olcrtc

open StepSystem

/-! ### The frames of a client -/

namespace Multiplexer

/-- A frame that the client can hand to the transport. -/
def Emits (m : Multiplexer) (frame : Bytes) : Prop :=
  ∃ send, (∃ sid data, frame ∈ (m.sendData send sid data).frames) ∨
    (∃ sid, frame ∈ (m.closeStream send sid).frames) ∨ frame ∈ (m.sendClientReset send).frames

theorem mem_sendChunks {send : SendFn} {sid : UInt16} {frame : Bytes} {chunks : List Bytes}
    {m : Multiplexer} (h : frame ∈ (sendChunks send sid m chunks).frames) :
    ∃ seq, ∃ chunk ∈ chunks, frame = dataFrame m.clientId sid seq chunk := by
  induction chunks generalizing m with
  | nil => simp [sendChunks] at h
  | cons chunk rest ih =>
    unfold sendChunks at h
    cases halloc : m.allocSeq sid with
    | none => simp [halloc] at h
    | some alloc =>
      obtain ⟨seq, m'⟩ := alloc
      have hid : m'.clientId = m.clientId := by
        obtain ⟨stream, -, -, -, rfl⟩ := allocSeq_eq_some halloc
        rfl
      simp only [halloc] at h
      cases hsend : send (dataFrame m'.clientId sid seq chunk) with
      | error error =>
        rw [hsend, hid] at h
        exact ⟨seq, chunk, by simp, by simpa using h⟩
      | ok _ =>
        rw [hsend] at h
        rcases List.mem_cons.mp h with h | h
        · exact ⟨seq, chunk, by simp, by rw [h, hid]⟩
        · obtain ⟨seq', chunk', hmem, he⟩ := ih h
          exact ⟨seq', chunk', by simp [hmem], by rw [he, hid]⟩

theorem Emits.cases {m : Multiplexer} {frame : Bytes} (h : m.Emits frame) :
    (∃ sid seq payload, IsPayload sid payload ∧ frame = dataFrame m.clientId sid seq payload) ∨
      (∃ sid, frame = closeFrame m.clientId sid) ∨ frame = resetFrame m.clientId := by
  obtain ⟨send, ⟨sid, data, h⟩ | ⟨sid, h⟩ | h⟩ := h
  · obtain ⟨seq, chunk, hmem, he⟩ := mem_sendChunks h
    obtain ⟨h0, h1⟩ := Chunking.chunks_bounds (by decide) hmem
    exact Or.inl ⟨sid, seq, chunk, IsPayload.of_chunk h0 h1, he⟩
  · refine Or.inr (Or.inl ⟨sid, ?_⟩)
    unfold closeStream at h
    cases hget : m.streams[sid]? <;> simpa [hget] using h
  · refine Or.inr (Or.inr ?_)
    unfold sendClientReset at h
    split_ifs at h
    · simp at h
    · simpa using h

/-! ### Streams of client id 0 -/

/-- Frames carry client id 0, and only existing streams are waited for. -/
def LocalOnly (m : Multiplexer) : Operation → Prop
  | .handleFrame frame => frameClientId frame = 0
  | .waitForData sid => m.streams[sid]?.isSome = true
  | _ => True

instance (m : Multiplexer) (op : Operation) : Decidable (m.LocalOnly op) := by
  unfold LocalOnly
  split <;> infer_instance

/-- Every entry carries client id 0. -/
def AllLocal (m : Multiplexer) : Prop := m.Each fun _ stream => stream.clientId = 0

theorem AllLocal.perform {m m' : Multiplexer} {op : Operation} (h : m.AllLocal)
    (hlocal : m.LocalOnly op) (hstep : m.perform op = some m') : m'.AllLocal := by
  cases op with
  | openStream =>
    obtain ⟨⟨sid, m''⟩, hopen, rfl⟩ := Option.map_eq_some_iff.mp hstep
    exact Each.openStream h (fun _ _ => rfl) hopen
  | sendData send sid data =>
    exact Option.some.inj hstep ▸ Each.sendData h (fun _ hs => hs) send data
  | closeStream send sid => exact Option.some.inj hstep ▸ Each.closeStream h (fun _ hs => hs) send
  | sendClientReset send => rwa [← Option.some.inj hstep, sendClientReset_mux]
  | handleFrame frame =>
    replace hlocal : frameClientId frame = 0 := hlocal
    refine Option.some.inj hstep ▸ Each.handleFrame h frame (fun _ _ hs => hs) (fun _ _ => hlocal)
      fun sid stream seq payload _ _ _ => ?_
    rw [(Stream.accept_frame _ _ _).1, Stream.adopt_clientId, hlocal]
  | readStream sid => exact Option.some.inj hstep ▸ Each.readStream h fun _ hs => hs
  | waitForData sid =>
    refine Option.some.inj hstep ▸ Each.waitForData h fun hnone => ?_
    rw [LocalOnly, hnone] at hlocal
    cases hlocal

end Multiplexer

/-! ### A frame of another client -/

/-- The buffer, the closed flag, the sequence numbers and the pending map agree. -/
structure Stream.SameContent (stream stream' : Stream) : Prop where
  recvBuf : stream'.recvBuf = stream.recvBuf
  closed : stream'.closed = stream.closed
  nextRecvSeq : stream'.nextRecvSeq = stream.nextRecvSeq
  nextSendSeq : stream'.nextSendSeq = stream.nextSendSeq
  outOfOrder : stream'.outOfOrder = stream.outOfOrder

theorem Stream.SameContent.refl (stream : Stream) : stream.SameContent stream := ⟨rfl, rfl, rfl, rfl, rfl⟩

/-- The stream has sent nothing and has received this very frame and no other. -/
def Stream.HoldsOnly (stream : Stream) (seq : UInt32) (payload : Bytes) : Prop :=
  stream.closed = false ∧ stream.nextSendSeq = 0 ∧
    (seq = 0 ∧ stream.recvBuf = payload ∧ stream.nextRecvSeq = 1 ∧ stream.outOfOrder = ∅ ∨
      seq ≠ 0 ∧ stream.recvBuf = [] ∧ stream.nextRecvSeq = 0 ∧
        stream.outOfOrder = (∅ : Std.ExtTreeMap UInt32 Bytes).insert seq payload)

/-- A data frame of another client id leaves an empty stream that has received it. -/
theorem Stream.accept_adopt_of_ne {stream : Stream} {clientId : UInt32} (h : stream.clientId ≠ clientId)
    (seq : UInt32) (payload : Bytes) :
    ((stream.adopt clientId).accept seq payload).1 = if seq = 0
      then { Stream.fresh clientId stream.notify with recvBuf := payload, nextRecvSeq := 1 }
      else { Stream.fresh clientId stream.notify with
        outOfOrder := (∅ : Std.ExtTreeMap UInt32 Bytes).insert seq payload } := by
  rw [Stream.adopt_of_ne _ h, Stream.accept]
  by_cases hseq : seq = 0
  · subst hseq
    simp [Stream.fresh, Stream.drain]
  · have hpos : 0 < seq := by
      rw [UInt32.lt_iff_toNat_lt]
      exact Nat.pos_of_ne_zero fun h0 => hseq (UInt32.toNat_inj.mp h0)
    simp [Stream.fresh, hseq, hpos]

theorem Stream.sameContent_accept_iff {stream : Stream} {clientId : UInt32}
    (h : stream.clientId ≠ clientId) (seq : UInt32) (payload : Bytes) :
    stream.SameContent ((stream.adopt clientId).accept seq payload).1 ↔ stream.HoldsOnly seq payload := by
  rw [Stream.accept_adopt_of_ne h]
  unfold Stream.HoldsOnly
  by_cases hseq : seq = 0
  · simp only [hseq, if_true, ne_eq, not_true_eq_false, false_and, or_false, true_and]
    exact ⟨fun ⟨hr, hc, hn, hs, ho⟩ => ⟨hc.symm, hs.symm, hr.symm, hn.symm, ho.symm⟩,
      fun ⟨hc, hs, hr, hn, ho⟩ => ⟨hr.symm, hc.symm, hn.symm, hs.symm, ho.symm⟩⟩
  · simp only [hseq, if_false, ne_eq, not_false_eq_true, false_and, false_or, true_and]
    exact ⟨fun ⟨hr, hc, hn, hs, ho⟩ => ⟨hc.symm, hs.symm, hr.symm, hn.symm, ho.symm⟩,
      fun ⟨hc, hs, hr, hn, ho⟩ => ⟨hr.symm, hc.symm, hn.symm, hs.symm, ho.symm⟩⟩

namespace Multiplexer

/-- Every existing stream keeps its content. -/
def Undisturbed (m m' : Multiplexer) : Prop :=
  m.Each fun sid stream => ∃ stream', m'.streams[sid]? = some stream' ∧ stream.SameContent stream'

theorem Undisturbed.recvBuf {m m' : Multiplexer} (h : m.Undisturbed m') (sid : UInt16) {stream : Stream}
    (hget : m.streams[sid]? = some stream) : m'.recvBuf sid = m.recvBuf sid := by
  obtain ⟨stream', hget', hsame⟩ := h sid stream hget
  simp [Multiplexer.recvBuf, hget, hget', hsame.recvBuf]

/-- A data frame that names a stream of the table, and not one that holds just this frame. -/
def Strikes (m : Multiplexer) (frame : Bytes) : Prop :=
  parseControlFrame frame = none ∧ frameLength frame ≠ 0 ∧
    ∃ stream, m.streams[frameSid frame]? = some stream ∧
      ¬stream.HoldsOnly (frameSeq frame) (framePayload frame)

/-- The close branch ignores a client id that the stream does not carry. -/
theorem AllLocal.markClosed {m : Multiplexer} (h : m.AllLocal) (sid : UInt16) {clientId : UInt32}
    (hid : clientId ≠ 0) : m.markClosed sid clientId = (m, []) := by
  unfold Multiplexer.markClosed
  cases hget : m.streams[sid]? with
  | none => rfl
  | some stream =>
    dsimp only
    rw [if_neg]
    rw [h sid stream hget]
    exact hid.symm

/-- The reset branch removes streams of its own client id only. -/
theorem AllLocal.resetClient_get {m : Multiplexer} (h : m.AllLocal) {clientId : UInt32}
    (hid : clientId ≠ 0) (sid : UInt16) :
    (m.resetClient clientId).1.streams[sid]? = m.streams[sid]? := by
  rw [Multiplexer.resetClient_get]
  cases hget : m.streams[sid]? with
  | none => rfl
  | some stream =>
    rw [Option.filter_some, if_pos]
    rw [h sid stream hget, bne_iff_ne]
    exact hid.symm

/-- A client with local streams handles a frame that another client emits. Its
streams are undisturbed exactly if the frame is not a data frame for one of them. -/
theorem undisturbed_iff (a : UInt32) (ops : List Operation) (A : Multiplexer)
    (hlocal : Guarded perform LocalOnly (new a) ops) (hrun : run perform (new a) ops = some A)
    (B : Multiplexer) (hb : B.clientId ≠ 0) (frame : Bytes) (hframe : B.Emits frame) :
    A.Undisturbed (A.handleFrame frame).1 ↔ ¬A.Strikes frame := by
  have hA : A.AllLocal := run_invariant_of_guarded (fun _ _ _ h hg hs => AllLocal.perform h hg hs)
    (each_new a) hlocal hrun
  obtain ⟨sid, seq, payload, hlegal, rfl⟩ | ⟨sid, rfl⟩ | rfl := hframe.cases
  · have hstrikes : A.Strikes (dataFrame B.clientId sid seq payload) ↔
        ∃ stream, A.streams[sid]? = some stream ∧ ¬stream.HoldsOnly seq payload := by
      simp only [Strikes, parseControlFrame_dataFrame _ _ hlegal, framePayload_dataFrame _ _ hlegal,
        frameSid_dataFrame, frameSeq_dataFrame, ne_eq, frameLength_dataFrame_ne_zero _ _ hlegal,
        not_false_eq_true, true_and]
    rw [hstrikes, handleFrame_dataFrame _ _ _ hlegal, not_exists]
    constructor
    · rintro h stream ⟨hget, hnot⟩
      obtain ⟨stream', hget', hsame⟩ := h sid stream hget
      rw [receiveData_get, Option.some.injEq, streamOr, hget, Option.getD_some] at hget'
      subst hget'
      refine hnot ((Stream.sameContent_accept_iff ?_ seq payload).mp hsame)
      rw [hA sid stream hget]
      exact hb.symm
    · intro h sid' stream hget
      by_cases hsid : sid = sid'
      · subst hsid
        refine ⟨_, receiveData_get _ _ _ _ _, ?_⟩
        rw [streamOr, hget, Option.getD_some, Stream.sameContent_accept_iff]
        · by_contra hnot
          exact h stream ⟨hget, hnot⟩
        · rw [hA sid stream hget]
          exact hb.symm
      · exact ⟨stream, by rw [receiveData_get_ne _ _ _ _ hsid, hget], Stream.SameContent.refl _⟩
  · have hnot : ¬A.Strikes (closeFrame B.clientId sid) := fun h => h.2.1 (by simp [closeFrame])
    rw [handleFrame_closeFrame, hA.markClosed sid hb]
    exact iff_of_true (fun _ stream hget => ⟨stream, hget, Stream.SameContent.refl _⟩) hnot
  · have hnot : ¬A.Strikes (resetFrame B.clientId) := fun h => by
      rw [Strikes, parseControlFrame_resetFrame] at h
      cases h.1
    rw [handleFrame_resetFrame]
    refine iff_of_true (fun sid stream hget => ⟨stream, ?_, Stream.SameContent.refl _⟩) hnot
    rw [hA.resetClient_get hb, hget]

/-- The close of another client's stream 1 leaves stream 1 of this one alone. -/
theorem undisturbed_close :
    ∃ A, run perform (new 1) [.openStream, .handleFrame (dataFrame 0 1 0 [5])] = some A ∧
      A.Undisturbed (A.handleFrame (closeFrame 2 1)).1 := by
  have hrun := (Option.some_get (show (run perform (new 1)
    [.openStream, .handleFrame (dataFrame 0 1 0 [5])]).isSome by decide)).symm
  refine ⟨_, hrun, (undisturbed_iff 1 _ _ (by decide) hrun ((new 2).setStream 1 (Stream.fresh 0 0))
    (by decide) _ ⟨fun _ => .ok (), Or.inr (Or.inl ⟨1, by decide⟩)⟩).mpr ?_⟩
  exact fun h => h.2.1 (by decide)

/-- Data that another client sends on its own stream 1 replaces stream 1 of this one. -/
theorem other_client_replaces_stream :
    ∃ A, Guarded perform LocalOnly (new 1) [.openStream, .handleFrame (dataFrame 0 1 0 [5])] ∧
      run perform (new 1) [.openStream, .handleFrame (dataFrame 0 1 0 [5])] = some A ∧
      ((new 2).setStream 1 (Stream.fresh 0 0)).Emits (dataFrame 2 1 0 [9]) ∧
      A.recvBuf 1 = [5] ∧ (A.handleFrame (dataFrame 2 1 0 [9])).1.recvBuf 1 = [9] ∧
      ¬A.Undisturbed (A.handleFrame (dataFrame 2 1 0 [9])).1 := by
  have hrun := (Option.some_get (show (run perform (new 1)
    [.openStream, .handleFrame (dataFrame 0 1 0 [5])]).isSome by decide)).symm
  refine ⟨_, by decide, hrun, ⟨fun _ => .ok (), Or.inl ⟨1, [9], by decide⟩⟩, by decide, by decide,
    fun h => absurd (h.recvBuf 1 (show _ = some { Stream.fresh 0 0 with recvBuf := [5], nextRecvSeq := 1 }
      by decide)) (by decide)⟩

end Multiplexer

end TauriVpn.Olcrtc
