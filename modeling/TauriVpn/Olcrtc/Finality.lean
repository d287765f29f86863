import TauriVpn.Olcrtc.Slot

/-! Whether closed is final. A missing entry counts as closed for `stream_closed`
and `send_data`, while `wait_for_data` and the data branch of `handle_frame` put an
open entry in its place; and a data frame of another client id replaces a closed
entry by an open one. Nothing else opens a closed stream again. -/

namespace TauriVpn.Olcrtc

open StepSystem

namespace Multiplexer

/-- The frames that the call hands to the transport. -/
def emitted (m : Multiplexer) : Operation → List Bytes
  | .sendData send sid data => (m.sendData send sid data).frames
  | .closeStream send sid => (m.closeStream send sid).frames
  | .sendClientReset send => (m.sendClientReset send).frames
  | _ => []

/-- A data frame of `sid` is among the frames. -/
def SendsData (sid : UInt16) (frames : List Bytes) : Prop :=
  ∃ frame ∈ frames, ∃ clientId seq payload, classify frame = .data sid clientId seq payload

theorem sendChunks_of_none {m : Multiplexer} {sid : UInt16} (h : m.allocSeq sid = none) (send : SendFn)
    (chunks : List Bytes) : sendChunks send sid m chunks = { mux := m, result := .ok () } := by
  cases chunks with
  | nil => rfl
  | cons chunk rest => simp [sendChunks, h]

/-- A stream that is closed or missing gets no sequence number. -/
theorem allocSeq_of_closed {m : Multiplexer} {sid : UInt16} (h : m.streamClosed sid = true) :
    m.allocSeq sid = none := by
  unfold streamClosed at h
  unfold allocSeq
  cases hget : m.streams[sid]? with
  | none => rfl
  | some stream =>
    rw [hget] at h
    exact if_pos h

theorem not_sendsData_of_closed {m : Multiplexer} {sid : UInt16} (h : m.streamClosed sid = true)
    (op : Operation) : ¬SendsData sid (m.emitted op) := by
  rintro ⟨frame, hframe, clientId, seq, payload, hkind⟩
  cases op with
  | sendData send sid' data =>
    obtain ⟨seq', chunk, hchunk, rfl⟩ := mem_sendChunks hframe
    obtain ⟨h0, h1⟩ := Chunking.chunks_bounds (show 0 < chunkSize by decide) hchunk
    rw [classify_dataFrame _ _ (IsPayload.of_chunk h0 h1)] at hkind
    obtain rfl : sid' = sid := (FrameKind.data.inj hkind).1
    rw [emitted, sendData, sendChunks_of_none (allocSeq_of_closed h)] at hframe
    cases hframe
  | closeStream send sid' =>
    rw [emitted, (closeStream_sent m send sid').1, List.mem_singleton] at hframe
    rw [hframe, classify_closeFrame] at hkind
    cases hkind
  | sendClientReset send =>
    rw [mem_sendClientReset hframe, classify_resetFrame] at hkind
    cases hkind
  | openStream => cases hframe
  | handleFrame frame => cases hframe
  | readStream sid' => cases hframe
  | waitForData sid' => cases hframe

/-- The operation opens `sid` again: a data frame of a client that its entry does not
carry, a wait that finds no entry, or an `open_stream` that returns this id. -/
def Revives (sid : UInt16) (m : Multiplexer) : Operation → Prop
  | .handleFrame frame =>
    match classify frame with
    | .data sid' clientId _ _ => sid' = sid ∧ m.streams[sid]?.map Stream.clientId ≠ some clientId
    | _ => False
  | .waitForData sid' => sid' = sid ∧ m.streams[sid]? = none
  | .openStream => m.openStream.map Prod.fst = some sid
  | _ => False

theorem revives_handleFrame {sid : UInt16} {m : Multiplexer} {frame : Bytes} :
    m.Revives sid (.handleFrame frame) ↔ ∃ clientId seq payload,
      classify frame = .data sid clientId seq payload ∧ m.streams[sid]?.map Stream.clientId ≠ some clientId := by
  show (match classify frame with | .data sid' clientId _ _ => _ | _ => False) ↔ _
  cases classify frame with
  | data sid' clientId seq payload =>
    constructor
    · rintro ⟨rfl, hid⟩
      exact ⟨clientId, seq, payload, rfl, hid⟩
    · rintro ⟨_, _, _, hkind, hid⟩
      obtain ⟨rfl, rfl, -, -⟩ := FrameKind.data.inj hkind
      exact ⟨rfl, hid⟩
  | _ => simp

instance (sid : UInt16) (m : Multiplexer) (op : Operation) : Decidable (m.Revives sid op) :=
  match op with
  | .handleFrame frame =>
    match h : classify frame with
    | .data sid' clientId _ _ =>
      decidable_of_iff (sid' = sid ∧ m.streams[sid]?.map Stream.clientId ≠ some clientId) (by simp [Revives, h])
    | .ignored => isFalse (by simp [Revives, h])
    | .reset _ => isFalse (by simp [Revives, h])
    | .close _ _ => isFalse (by simp [Revives, h])
  | .waitForData sid' => inferInstanceAs (Decidable (sid' = sid ∧ m.streams[sid]? = none))
  | .openStream => inferInstanceAs (Decidable (m.openStream.map Prod.fst = some sid))
  | .sendData _ _ _ => isFalse id
  | .closeStream _ _ => isFalse id
  | .sendClientReset _ => isFalse id
  | .readStream _ => isFalse id

section Closed
variable {m m' : Multiplexer} {sid : UInt16}

theorem streamClosed_eq_of_get (h : m'.streams[sid]? = m.streams[sid]?) :
    m'.streamClosed sid = m.streamClosed sid := by
  rw [streamClosed, streamClosed, h]

theorem streamClosed_slot (m : Multiplexer) (sid : UInt16) :
    m.streamClosed sid = ((m.slot sid).map Stream.closed).getD true := by
  unfold streamClosed slot
  cases m.streams[sid]? <;> rfl

theorem streamClosed_openStream (h : m.streamClosed sid = true)
    (hstep : m.perform .openStream = some m') :
    m'.streamClosed sid = true ↔ ¬m.Revives sid .openStream := by
  obtain ⟨⟨sid', m''⟩, hopen, rfl⟩ := Option.map_eq_some_iff.mp hstep
  obtain ⟨-, -, hstreams, -⟩ := openLoop_spec hopen
  have hrevives : m.Revives sid .openStream ↔ sid' = sid := by
    rw [Revives, hopen, Option.map_some, Option.some.injEq]
  rw [hrevives]
  by_cases hsid : sid' = sid
  · subst hsid
    refine iff_of_false ?_ (not_not.mpr rfl)
    rw [streamClosed, hstreams, Std.ExtTreeMap.getElem?_insert_self]
    exact Bool.false_ne_true
  · refine iff_of_true ?_ hsid
    rw [← h]
    refine streamClosed_eq_of_get ?_
    rw [hstreams, Std.ExtTreeMap.getElem?_insert]
    simp [hsid]

/-- Waiting keeps an entry and creates a missing one, which is open. -/
theorem streamClosed_waitForData (h : m.streamClosed sid = true) :
    (m.waitForData sid).2.streamClosed sid = true ↔ m.streams[sid]? ≠ none := by
  rw [streamClosed_slot] at h
  rw [streamClosed_slot, (slot_waitForData m sid).2, Option.map_some, Option.getD_some]
  unfold slot at h ⊢
  cases hget : m.streams[sid]? with
  | none => simp [Stream.fresh]
  | some stream => simpa [hget] using h

/-- A payload keeps the closed flag of an entry of its own client, and only of such a one. -/
theorem streamClosed_receiveData (h : m.streamClosed sid = true) (clientId seq : UInt32) (payload : Bytes) :
    (m.receiveData clientId sid seq payload).1.streamClosed sid = true ↔
      m.streams[sid]?.map Stream.clientId = some clientId := by
  rw [streamClosed, receiveData_get]
  dsimp only
  rw [(Stream.accept_frame _ _ _).2.1]
  unfold streamClosed at h
  unfold streamOr
  cases hget : m.streams[sid]? with
  | none => simp [Stream.fresh, Stream.adopt]
  | some stream =>
    rw [hget] at h
    rw [Option.getD_some, Option.map_some, Option.some.injEq]
    by_cases hid : stream.clientId = clientId
    · rw [Stream.adopt_of_eq _ hid]
      exact iff_of_true h hid
    · rw [Stream.adopt_of_ne _ hid]
      exact iff_of_false Bool.false_ne_true hid

theorem streamClosed_resetClient (h : m.streamClosed sid = true) (clientId : UInt32) :
    (m.resetClient clientId).1.streamClosed sid = true := by
  rw [streamClosed_slot] at h ⊢
  rw [slot_resetClient]
  cases hslot : m.slot sid with
  | none => rfl
  | some stream =>
    rw [Option.filter_some]
    split_ifs
    · rwa [hslot] at h
    · rfl

theorem streamClosed_markClosed (h : m.streamClosed sid = true) (clientId : UInt32) :
    (m.markClosed sid clientId).1.streamClosed sid = true := by
  rw [streamClosed_slot] at h ⊢
  rw [slot_markClosed]
  cases hslot : m.slot sid with
  | none => rfl
  | some stream =>
    rw [hslot] at h
    rw [Option.map_some, Option.map_some, Option.getD_some]
    split_ifs
    · rfl
    · exact h

/-- One operation: a closed stream stays closed exactly if it is not revived. -/
theorem streamClosed_perform (h : m.streamClosed sid = true) {op : Operation}
    (hstep : m.perform op = some m') : m'.streamClosed sid = true ↔ ¬m.Revives sid op := by
  by_cases hop : op.Concerns sid
  · have hsid : op.isReset = false → op.sid? = some sid := fun hreset => hop.resolve_right (by simp [hreset])
    cases op with
    | openStream => exact streamClosed_openStream h hstep
    | sendClientReset send => exact absurd (hsid rfl) (by simp [Operation.sid?])
    | sendData send sid' data =>
      obtain rfl : sid' = sid := Option.some.inj (hsid rfl)
      refine iff_of_true ?_ not_false
      rwa [← Option.some.inj hstep, sendData, sendChunks_of_none (allocSeq_of_closed h)]
    | closeStream send sid' =>
      obtain rfl : sid' = sid := Option.some.inj (hsid rfl)
      refine iff_of_true ?_ not_false
      rw [← Option.some.inj hstep, streamClosed_slot, slot_closeStream]
      cases m.slot sid' <;> rfl
    | readStream sid' =>
      obtain rfl : sid' = sid := Option.some.inj (hsid rfl)
      refine iff_of_true ?_ not_false
      rw [streamClosed_slot] at h
      rw [← Option.some.inj hstep, streamClosed_slot, (slot_readStream m sid').2]
      cases hslot : m.slot sid' with
      | none => rfl
      | some stream => rwa [hslot] at h
    | waitForData sid' =>
      obtain rfl : sid' = sid := Option.some.inj (hsid rfl)
      rw [← Option.some.inj hstep, streamClosed_waitForData h]
      simp [Revives]
    | handleFrame frame =>
      rw [← Option.some.inj hstep, handleFrame_classify, revives_handleFrame]
      cases hkind : classify frame with
      | ignored => simpa using h
      | reset clientId => simpa using streamClosed_resetClient h clientId
      | close sid' clientId =>
        obtain rfl : sid' = sid := by simpa [Operation.sid?, Operation.isReset, hkind] using hsid
        simpa using streamClosed_markClosed h clientId
      | data sid' clientId seq payload =>
        obtain rfl : sid' = sid := by simpa [Operation.sid?, Operation.isReset, hkind] using hsid
        dsimp only
        rw [streamClosed_receiveData h]
        constructor
        · rintro hid ⟨_, _, _, heq, hne⟩
          exact hne (by rw [hid, (FrameKind.data.inj heq).2.1])
        · intro hnot
          by_contra hne
          exact hnot ⟨clientId, seq, payload, rfl, hne⟩
  · by_cases hopen : op.isOpen = true
    · cases op with
      | openStream => exact streamClosed_openStream h hstep
      | _ => cases hopen
    · rw [streamClosed_eq_of_get (perform_get_of_not_concerns (Bool.eq_false_of_not_eq_true hopen) hop hstep)]
      refine iff_of_true h fun hrevives => ?_
      cases op with
      | openStream => exact hopen rfl
      | handleFrame frame =>
        obtain ⟨clientId, seq, payload, hkind, -⟩ := revives_handleFrame.mp hrevives
        exact hop (Or.inl (by simp [Operation.sid?, hkind]))
      | waitForData sid' => exact hop (Or.inl (congrArg some hrevives.1))
      | _ => exact hrevives

end Closed

/-- From a state with the entry closed, every state of a run has the stream closed and
no data frame for it is emitted, exactly if no operation of the run revives it. -/
theorem closed_final_iff (m m' : Multiplexer) (sid : UInt16) (stream : Stream)
    (hget : m.streams[sid]? = some stream) (hclosed : stream.closed = true) (ops : List Operation)
    (hrun : run perform m ops = some m') :
    AfterEach perform
        (fun m op t => t.streamClosed sid = true ∧ ¬SendsData sid (m.emitted op)) m ops ↔
      Guarded perform (fun m op => ¬m.Revives sid op) m ops := by
  refine afterEach_iff_guarded (fun m => m.streamClosed sid = true) (fun m op t h hstep => ?_) ?_ hrun
  · rw [streamClosed_perform h hstep, and_iff_left (not_sendsData_of_closed h op)]
    exact ⟨Iff.rfl, id⟩
  · rw [streamClosed, hget]
    exact hclosed

/-- A reset removes the streams of its client. -/
theorem resetClient_get_own {m : Multiplexer} {sid : UInt16} {stream : Stream}
    (hget : m.streams[sid]? = some stream) : (m.resetClient stream.clientId).1.streams[sid]? = none := by
  rw [resetClient_get, hget, Option.filter_some, if_neg]
  simp

/-- A wait on a stream that a reset has removed puts an open one in its place. -/
theorem streamClosed_wait_after_reset {m : Multiplexer} {sid : UInt16} {clientId : UInt32}
    (hid : m.streams[sid]?.map Stream.clientId = some clientId) :
    ((m.handleFrame (resetFrame clientId)).1.waitForData sid).2.streamClosed sid = false := by
  obtain ⟨stream, hget, rfl⟩ := Option.map_eq_some_iff.mp hid
  have hnone := resetClient_get_own hget
  rw [handleFrame_resetFrame, ← Bool.not_eq_true, streamClosed_waitForData, not_not]
  · exact hnone
  · rw [streamClosed, hnone]

/-- Late frames of its own client, a read, a wait and a reset leave a closed stream closed. -/
theorem closed_final_late_frames :
    let ops : List Operation := [.handleFrame (dataFrame 0 1 0 [5]), .waitForData 1, .readStream 1,
      .handleFrame (closeFrame 0 1), .handleFrame (resetFrame 0), .sendData (fun _ => .ok ()) 1 [6]]
    ∃ m, run perform (new 1) [.openStream, .closeStream (fun _ => .ok ()) 1] = some m ∧
      AfterEach perform (fun m op t => t.streamClosed 1 = true ∧ ¬SendsData 1 (m.emitted op)) m ops := by
  intro ops
  have hrun := (Option.some_get (show (run perform (new 1)
    [.openStream, .closeStream (fun _ => .ok ()) 1]).isSome by decide)).symm
  refine ⟨_, hrun, (closed_final_iff _ _ 1 { Stream.fresh 0 0 with closed := true } (by decide) rfl ops
    (Option.some_get (by decide)).symm).mpr (by decide)⟩

/-- A client closes its stream, and a data frame of another client opens it again; or
a reset of its client removes it, and the next wait opens it again. -/
theorem closed_then_open :
    ∃ m, run perform (new 1) [.openStream, .closeStream (fun _ => .ok ()) 1] = some m ∧
      m.streams[(1 : UInt16)]?.map Stream.closed = some true ∧
      (m.handleFrame (dataFrame 9 1 0 [5])).1.streamClosed 1 = false ∧
      (m.handleFrame (dataFrame 9 1 0 [5])).1.emitted (.sendData (fun _ => .ok ()) 1 [6]) =
        [dataFrame 1 1 0 [6]] ∧
      ((m.handleFrame (resetFrame 0)).1.waitForData 1).2.streamClosed 1 = false := by
  have hrun := (Option.some_get (show (run perform (new 1)
    [.openStream, .closeStream (fun _ => .ok ()) 1]).isSome by decide)).symm
  exact ⟨_, hrun, by decide, by decide, by decide, streamClosed_wait_after_reset (by decide)⟩

end Multiplexer

end TauriVpn.Olcrtc
