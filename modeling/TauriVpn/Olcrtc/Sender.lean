import TauriVpn.Olcrtc.Mux

/-! What `send_data` puts on the wire. On an open stream the calls of a sender
produce data frames with consecutive sequence numbers, whose payloads are
chunks of the data in order; if every call succeeds they are all of it. -/

namespace TauriVpn.Olcrtc

/-- The data frames of consecutive payloads, numbered from `seq` on. -/
def framesFrom (clientId : UInt32) (sid : UInt16) : UInt32 → List Bytes → List Bytes
  | _, [] => []
  | seq, payload :: rest =>
    dataFrame clientId sid seq payload :: framesFrom clientId sid (seq + 1) rest

theorem add_one_add_ofNat (seq : UInt32) (n : ℕ) :
    seq + 1 + UInt32.ofNat n = seq + UInt32.ofNat (n + 1) := by
  rw [UInt32.ofNat_add, UInt32.add_assoc, UInt32.add_comm 1]
  rfl

section Frames
variable (clientId : UInt32) (sid : UInt16)

@[simp] theorem framesFrom_length (seq : UInt32) (payloads : List Bytes) :
    (framesFrom clientId sid seq payloads).length = payloads.length := by
  induction payloads generalizing seq with
  | nil => rfl
  | cons payload rest ih => simp [framesFrom, ih]

theorem framesFrom_append (seq : UInt32) (xs ys : List Bytes) :
    framesFrom clientId sid seq (xs ++ ys) =
      framesFrom clientId sid seq xs ++ framesFrom clientId sid (seq + UInt32.ofNat xs.length) ys := by
  induction xs generalizing seq with
  | nil => simp [framesFrom]
  | cons x xs ih =>
    simp only [List.cons_append, framesFrom, ih, List.length_cons, add_one_add_ofNat]

theorem framesFrom_getElem? (seq : UInt32) (payloads : List Bytes) (i : ℕ) :
    (framesFrom clientId sid seq payloads)[i]? =
      payloads[i]?.map (dataFrame clientId sid (seq + UInt32.ofNat i)) := by
  induction payloads generalizing seq i with
  | nil => rfl
  | cons payload rest ih =>
    cases i with
    | zero => simp [framesFrom]
    | succ i =>
      simp only [framesFrom, List.getElem?_cons_succ, ih, add_one_add_ofNat]

theorem framesFrom_payloads (seq : UInt32) {payloads : List Bytes}
    (h : ∀ p ∈ payloads, IsPayload sid p) :
    (framesFrom clientId sid seq payloads).map framePayload = payloads := by
  induction payloads generalizing seq with
  | nil => rfl
  | cons payload rest ih =>
    rw [framesFrom, List.map_cons, framePayload_dataFrame _ _ (h payload (by simp)),
      ih _ fun p hp => h p (by simp [hp])]

end Frames

namespace Multiplexer

/-- Consecutive `send_data` calls on one stream. -/
def sendAll (send : SendFn) (sid : UInt16) : Multiplexer → List Bytes →
    Multiplexer × List Bytes × List (Except VpnError Unit)
  | m, [] => (m, [], [])
  | m, data :: rest =>
    let sent := m.sendData send sid data
    let (m, frames, results) := sendAll send sid sent.mux rest
    (m, sent.frames ++ frames, sent.result :: results)

section Send
variable (send : SendFn) (sid : UInt16)

/-- The chunks of one call that reach the transport, and the stream afterwards. -/
theorem sendChunks_spec (chunks : List Bytes) :
    ∀ (m : Multiplexer) (stream : Stream), m.streams[sid]? = some stream → stream.closed = false →
      ∃ cut, cut <+: chunks ∧
        (sendChunks send sid m chunks).frames = framesFrom m.clientId sid stream.nextSendSeq cut ∧
        (sendChunks send sid m chunks).mux.clientId = m.clientId ∧
        (sendChunks send sid m chunks).mux.streams[sid]? =
          some { stream with nextSendSeq := stream.nextSendSeq + UInt32.ofNat cut.length } ∧
        ((sendChunks send sid m chunks).result = .ok () → cut = chunks) := by
  induction chunks with
  | nil =>
    intro m stream hget _
    exact ⟨[], List.prefix_rfl, rfl, rfl, by simpa [sendChunks] using hget, fun _ => rfl⟩
  | cons chunk rest ih =>
    intro m stream hget hopen
    have halloc : m.allocSeq sid = some (stream.nextSendSeq,
        m.setStream sid { stream with nextSendSeq := stream.nextSendSeq + 1 }) := by
      simp [allocSeq, hget, hopen]
    simp only [sendChunks, halloc, setStream_clientId]
    cases hsend : send (dataFrame m.clientId sid stream.nextSendSeq chunk) with
    | error error =>
      exact ⟨[chunk], ⟨rest, rfl⟩, by simp [framesFrom], rfl, by simp, fun h => by simp at h⟩
    | ok _ =>
      obtain ⟨cut, hpre, hframes, hid, hstream, hall⟩ :=
        ih (m.setStream sid { stream with nextSendSeq := stream.nextSendSeq + 1 }) _
          (setStream_get _ _ _) hopen
      refine ⟨chunk :: cut, List.cons_prefix_cons.mpr ⟨rfl, hpre⟩, ?_, hid, ?_, ?_⟩
      · simp [hframes, framesFrom]
      · rw [hstream, List.length_cons, ← add_one_add_ofNat]
      · intro hok
        rw [hall hok]

/-- A sequence of calls on an open stream: frames with consecutive numbers, every
payload a legal one, and all the data when every call succeeded. -/
theorem sendAll_spec (datas : List Bytes) :
    ∀ (m : Multiplexer) (stream : Stream), m.streams[sid]? = some stream → stream.closed = false →
      ∃ payloads, (sendAll send sid m datas).2.1 =
          framesFrom m.clientId sid stream.nextSendSeq payloads ∧
        (∀ p ∈ payloads, IsPayload sid p) ∧
        ((∀ r ∈ (sendAll send sid m datas).2.2, r = .ok ()) → payloads.flatten = datas.flatten) := by
  induction datas with
  | nil =>
    intro m stream _ _
    exact ⟨[], rfl, by simp, fun _ => rfl⟩
  | cons data rest ih =>
    intro m stream hget hopen
    obtain ⟨cut, hpre, hframes, hid, hstream, hall⟩ :=
      sendChunks_spec send sid (Chunking.chunks chunkSize data) m stream hget hopen
    obtain ⟨payloads, hrest, hlegal, hdata⟩ := ih _ _ hstream hopen
    refine ⟨cut ++ payloads, ?_, ?_, ?_⟩
    · rw [framesFrom_append, ← hframes]
      simp only [sendAll, sendData, hrest, hid]
    · intro p hp
      rcases List.mem_append.mp hp with hp | hp
      · obtain ⟨h0, h1⟩ := Chunking.chunks_bounds (by decide) (hpre.subset hp)
        exact IsPayload.of_chunk h0 h1
      · exact hlegal p hp
    · intro hok
      simp only [sendAll, sendData, List.mem_cons, forall_eq_or_imp] at hok
      rw [List.flatten_append, hall hok.1, hdata hok.2, Chunking.chunks_flatten (by decide),
        List.flatten_cons]

end Send

end Multiplexer

end TauriVpn.Olcrtc
