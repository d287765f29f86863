import TauriVpn.Olcrtc.Sender

/-! In-order delivery to one stream. While the frames of a stream arrive in
sequence order the entry holds nothing back, and each of them appends its
payload to the receive buffer. Sequence numbers may wrap. -/

namespace TauriVpn.Olcrtc

namespace Multiplexer

/-- The stream of `sid` waits for frame `seq` of `clientId` and buffers `buffered`.
Until that client's first frame the entry may be missing or carry another
client id: the frame then makes a fresh one. -/
def Expects (m : Multiplexer) (sid : UInt16) (clientId seq : UInt32) (buffered : Bytes) : Prop :=
  match m.streams[sid]? with
  | none => seq = 0 ∧ buffered = []
  | some stream => stream.recvBuf = buffered ∧ stream.outOfOrder = ∅ ∧
      (stream.clientId = clientId ∧ stream.nextRecvSeq = seq ∨
        stream.clientId ≠ clientId ∧ seq = 0 ∧ buffered = [])

/-- An entry of `sid` that exists is open. -/
def OpenAt (m : Multiplexer) (sid : UInt16) : Prop :=
  ∀ stream, m.streams[sid]? = some stream → stream.closed = false

theorem Expects.recvBuf {m : Multiplexer} {sid : UInt16} {clientId seq : UInt32} {buffered : Bytes}
    (h : m.Expects sid clientId seq buffered) : m.recvBuf sid = buffered := by
  unfold Expects at h
  unfold Multiplexer.recvBuf
  cases hget : m.streams[sid]? with
  | none => rw [hget] at h; simpa using h.2.symm
  | some stream => rw [hget] at h; simpa using h.1

theorem expects_iff_of_get {m : Multiplexer} {sid : UInt16} {stream : Stream}
    (hget : m.streams[sid]? = some stream) (clientId seq : UInt32) (buffered : Bytes) :
    m.Expects sid clientId seq buffered ↔ stream.recvBuf = buffered ∧ stream.outOfOrder = ∅ ∧
      (stream.clientId = clientId ∧ stream.nextRecvSeq = seq ∨
        stream.clientId ≠ clientId ∧ seq = 0 ∧ buffered = []) := by
  simp only [Expects, hget]

/-- Whether the entry exists and whether it is closed. -/
def closedFlag (m : Multiplexer) (sid : UInt16) : Option Bool := m.streams[sid]?.map Stream.closed

theorem openAt_iff (m : Multiplexer) (sid : UInt16) :
    m.OpenAt sid ↔ m.closedFlag sid ≠ some true := by
  unfold OpenAt closedFlag
  cases m.streams[sid]? with
  | none => simp
  | some stream => simp

theorem streamClosed_eq (m : Multiplexer) (sid : UInt16) :
    m.streamClosed sid = (m.closedFlag sid).getD true := by
  unfold streamClosed closedFlag
  cases m.streams[sid]? <;> rfl

section Delivery
variable {m : Multiplexer} {sid : UInt16} {clientId seq : UInt32} {buffered : Bytes}

/-- The stream a data frame of `clientId` is delivered to, once it is adopted. -/
theorem Expects.adopt (h : m.Expects sid clientId seq buffered) :
    ((m.streamOr sid clientId).adopt clientId).recvBuf = buffered ∧
      ((m.streamOr sid clientId).adopt clientId).outOfOrder = ∅ ∧
      ((m.streamOr sid clientId).adopt clientId).nextRecvSeq = seq := by
  unfold streamOr
  cases hget : m.streams[sid]? with
  | none =>
    simp only [Expects, hget] at h
    obtain ⟨rfl, rfl⟩ := h
    rw [Option.getD_none, Stream.adopt_fresh]
    exact ⟨rfl, rfl, rfl⟩
  | some stream =>
    rw [expects_iff_of_get hget] at h
    rw [Option.getD_some]
    obtain ⟨hbuf, hooo, ⟨hid, hseq⟩ | ⟨hid, rfl, rfl⟩⟩ := h
    · rw [Stream.adopt_of_eq _ hid]
      exact ⟨hbuf, hooo, hseq⟩
    · rw [Stream.adopt_of_ne _ hid]
      exact ⟨rfl, rfl, rfl⟩

theorem Expects.dataFrame (h : m.Expects sid clientId seq buffered) {payload : Bytes}
    (hlegal : IsPayload sid payload) :
    (m.handleFrame (dataFrame clientId sid seq payload)).1.Expects sid clientId (seq + 1)
      (buffered ++ payload) := by
  rw [handleFrame_dataFrame _ _ _ hlegal, expects_iff_of_get (receiveData_get m clientId sid seq payload)]
  obtain ⟨hbuf, hooo, hseq⟩ := h.adopt
  obtain ⟨hid, -⟩ := Stream.accept_frame ((m.streamOr sid clientId).adopt clientId) seq payload
  rw [hid, Stream.adopt_clientId, Stream.accept, if_pos hseq.symm, hooo]
  simp [Stream.drain, hbuf, hseq]

theorem OpenAt.dataFrame (h : m.OpenAt sid) {payload : Bytes} (hlegal : IsPayload sid payload) :
    (m.handleFrame (dataFrame clientId sid seq payload)).1.OpenAt sid := by
  rw [handleFrame_dataFrame _ _ _ hlegal]
  intro stream hget
  rw [receiveData_get, Option.some.injEq] at hget
  rw [← hget, (Stream.accept_frame _ _ _).2.1]
  unfold Stream.adopt streamOr
  split_ifs with hid
  · rfl
  · cases hs : m.streams[sid]? with
    | none => rfl
    | some stream => exact h stream hs

theorem Expects.closeFrame (h : m.Expects sid clientId seq buffered) :
    (m.handleFrame (closeFrame clientId sid)).1.Expects sid clientId seq buffered := by
  rw [handleFrame_closeFrame, markClosed]
  cases hget : m.streams[sid]? with
  | none => exact h
  | some stream =>
    rw [expects_iff_of_get hget] at h
    by_cases hid : stream.clientId = clientId
    · simp only [hid, if_true]
      rw [expects_iff_of_get (setStream_get _ _ _)]
      simpa [hid] using h
    · simp only [hid, if_false]
      rwa [expects_iff_of_get hget]

theorem Expects.readStream (h : m.Expects sid clientId seq buffered) :
    (m.readStream sid).1 = buffered ∧ (m.readStream sid).2.Expects sid clientId seq [] := by
  unfold Multiplexer.readStream
  cases hget : m.streams[sid]? with
  | none =>
    simp only [Expects, hget] at h ⊢
    exact ⟨h.2.symm, h.1, trivial⟩
  | some stream =>
    rw [expects_iff_of_get hget] at h
    obtain ⟨hbuf, hooo, hid⟩ := h
    refine ⟨hbuf, ?_⟩
    rw [expects_iff_of_get (setStream_get _ _ _)]
    exact ⟨rfl, hooo, hid.imp_right fun h => ⟨h.1, h.2.1, rfl⟩⟩

theorem closedFlag_readStream (m : Multiplexer) (sid : UInt16) :
    (m.readStream sid).2.closedFlag sid = m.closedFlag sid := by
  unfold Multiplexer.readStream closedFlag
  cases hget : m.streams[sid]? with
  | none => simp [hget]
  | some stream => simp

theorem closedFlag_dataFrame_ne_none (clientId seq : UInt32) {payload : Bytes}
    (hlegal : IsPayload sid payload) :
    (m.handleFrame (dataFrame clientId sid seq payload)).1.closedFlag sid ≠ none := by
  rw [handleFrame_dataFrame _ _ _ hlegal, closedFlag, receiveData_get]
  simp

theorem closedFlag_closeFrame_ne_none (h : m.closedFlag sid ≠ none) :
    (m.handleFrame (Olcrtc.closeFrame clientId sid)).1.closedFlag sid ≠ none := by
  rw [handleFrame_closeFrame, markClosed]
  cases hget : m.streams[sid]? with
  | none => exact h
  | some stream =>
    dsimp only
    split_ifs
    · simp [closedFlag]
    · exact h

theorem Expects.waitForData (h : m.Expects sid clientId seq buffered) :
    (m.waitForData sid).2.Expects sid clientId seq buffered := by
  rw [waitForData_snd, expects_iff_of_get (entryOrInsert_get m sid m.clientId)]
  unfold streamOr
  cases hget : m.streams[sid]? with
  | none =>
    simp only [Expects, hget] at h
    obtain ⟨rfl, rfl⟩ := h
    simp only [Option.getD_none, Stream.fresh, true_and, and_true]
    exact em _
  | some stream =>
    rwa [expects_iff_of_get hget] at h

/-- After an iteration of `wait_for_data` the entry exists, and is closed only if
it was before. -/
theorem closedFlag_waitForData (m : Multiplexer) (sid : UInt16) :
    (m.waitForData sid).2.closedFlag sid = some ((m.closedFlag sid).getD false) := by
  rw [waitForData_snd, closedFlag, entryOrInsert_get, closedFlag, streamOr]
  cases m.streams[sid]? <;> rfl

/-- Sending only advances the stream's own send number. -/
theorem Expects.sendData (h : m.Expects sid clientId seq buffered) (send : SendFn) (data : Bytes) :
    (m.sendData send sid data).mux.Expects sid clientId seq buffered := by
  refine sendData_keeps (P := fun m => m.Expects sid clientId seq buffered)
    (fun m n m' h halloc => ?_) h send data
  obtain ⟨stream, hget, -, -, rfl⟩ := allocSeq_eq_some halloc
  rw [expects_iff_of_get hget] at h
  rw [expects_iff_of_get (setStream_get _ _ _)]
  exact h

theorem OpenAt.readStream (h : m.OpenAt sid) : (m.readStream sid).2.OpenAt sid := by
  rw [openAt_iff, closedFlag_readStream]
  exact (openAt_iff m sid).mp h

theorem OpenAt.waitForData (h : m.OpenAt sid) : (m.waitForData sid).2.OpenAt sid := by
  rw [openAt_iff] at h ⊢
  rw [closedFlag_waitForData]
  cases hflag : m.closedFlag sid with
  | none => simp
  | some closed => rwa [hflag] at h

end Delivery

end Multiplexer

end TauriVpn.Olcrtc
