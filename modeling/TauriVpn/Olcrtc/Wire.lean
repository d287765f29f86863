import TauriVpn.Olcrtc.Ownership

/-! What `handle_frame` takes a byte string for. The three kinds of frames share
one header and are told apart by the values of its stream id and length, so the
frames of the senders are classified here, and so are the strict prefixes of them.
The checked reading of a frame fails where the source would index out of bounds. -/

namespace TauriVpn.Olcrtc

/-! ### Reading with checked indices -/

/-- `&frame[i..j]`, which panics beyond the end. -/
def slice? (frame : Bytes) (i j : ℕ) : Option Bytes :=
  if i ≤ j ∧ j ≤ frame.length then some (slice frame i j) else none

theorem slice?_eq {frame : Bytes} {i j : ℕ} (hij : i ≤ j) (hj : j ≤ frame.length) :
    slice? frame i j = some (slice frame i j) :=
  if_pos ⟨hij, hj⟩

def frameClientId? (frame : Bytes) : Option UInt32 := (slice? frame 0 4).map u32FromBeBytes
def frameSid? (frame : Bytes) : Option UInt16 := (slice? frame 4 6).map u16FromBeBytes
def frameLength? (frame : Bytes) : Option UInt16 := (slice? frame 6 8).map u16FromBeBytes
def frameSeq? (frame : Bytes) : Option UInt32 := (slice? frame 8 12).map u32FromBeBytes

def parseControlFrame? (frame : Bytes) : Option (Option ControlFrame) := do
  let sid ← frameSid? frame
  let length ← frameLength? frame
  if sid ≠ controlStreamId ∨ length ≠ 0xFFFF then
    return none
  return some ⟨← frameClientId? frame, ← frameSeq? frame⟩

section Checked
variable {frame : Bytes} (h : headerSize ≤ frame.length)
include h

theorem frameClientId?_eq : frameClientId? frame = some (frameClientId frame) := by
  rw [frameClientId?, slice?_eq (by omega) (Nat.le_trans (by decide) h)]
  rfl

theorem frameSid?_eq : frameSid? frame = some (frameSid frame) := by
  rw [frameSid?, slice?_eq (by omega) (Nat.le_trans (by decide) h)]
  rfl

theorem frameLength?_eq : frameLength? frame = some (frameLength frame) := by
  rw [frameLength?, slice?_eq (by omega) (Nat.le_trans (by decide) h)]
  rfl

theorem frameSeq?_eq : frameSeq? frame = some (frameSeq frame) := by
  rw [frameSeq?, slice?_eq (by omega) (Nat.le_trans (by decide) h)]
  rfl

theorem parseControlFrame?_eq : parseControlFrame? frame = some (parseControlFrame frame) := by
  unfold parseControlFrame? parseControlFrame
  rw [frameSid?_eq h, frameLength?_eq h, frameClientId?_eq h, frameSeq?_eq h]
  simp only [Option.bind_eq_bind, Option.bind_some]
  split_ifs
  · rfl
  · rfl

end Checked

namespace Multiplexer

/-- `handle_frame`, with every index checked. -/
def handleFrame? (m : Multiplexer) (frame : Bytes) : Option (Multiplexer × List NotifyId) := do
  if frame.length < headerSize then
    return (m, [])
  match ← parseControlFrame? frame with
  | some control =>
    return if control.kind = controlResetClient then m.resetClient control.clientId else (m, [])
  | none =>
    let clientId ← frameClientId? frame
    let sid ← frameSid? frame
    let length := (← frameLength? frame).toNat
    let seq ← frameSeq? frame
    if length = 0 then
      return m.markClosed sid clientId
    if frame.length < headerSize + length then
      return (m, [])
    let payload ← slice? frame headerSize (headerSize + length)
    return m.receiveData clientId sid seq payload

/-- No byte string makes `handle_frame` index out of bounds. -/
theorem handleFrame?_eq (m : Multiplexer) (frame : Bytes) :
    m.handleFrame? frame = some (m.handleFrame frame) := by
  unfold handleFrame? handleFrame
  by_cases hshort : frame.length < headerSize
  · rw [if_pos hshort, if_pos hshort]
    rfl
  · have hlong : headerSize ≤ frame.length := Nat.not_lt.mp hshort
    rw [if_neg hshort, if_neg hshort, parseControlFrame?_eq hlong]
    simp only [Option.bind_eq_bind, Option.bind_some]
    cases parseControlFrame frame with
    | some control => rfl
    | none =>
      simp only [frameClientId?_eq hlong, frameSid?_eq hlong, frameLength?_eq hlong, frameSeq?_eq hlong,
        Option.bind_some]
      split_ifs with hzero hcut
      · rfl
      · rfl
      · rw [slice?_eq (Nat.le_add_right _ _) (Nat.not_lt.mp hcut)]
        rfl

end Multiplexer

/-! ### The kinds of frames -/

/-- What `handle_frame` takes a byte string for. -/
inductive FrameKind where
  | ignored
  | reset (clientId : UInt32)
  | close (sid : UInt16) (clientId : UInt32)
  | data (sid : UInt16) (clientId seq : UInt32) (payload : Bytes)
  deriving DecidableEq

def classify (frame : Bytes) : FrameKind :=
  if frame.length < headerSize then .ignored
  else match parseControlFrame frame with
    | some control => if control.kind = controlResetClient then .reset control.clientId else .ignored
    | none =>
      if (frameLength frame).toNat = 0 then .close (frameSid frame) (frameClientId frame)
      else if frame.length < headerSize + (frameLength frame).toNat then .ignored
      else .data (frameSid frame) (frameClientId frame) (frameSeq frame) (framePayload frame)

theorem Multiplexer.handleFrame_classify (m : Multiplexer) (frame : Bytes) :
    m.handleFrame frame = match classify frame with
      | .ignored => (m, [])
      | .reset clientId => m.resetClient clientId
      | .close sid clientId => m.markClosed sid clientId
      | .data sid clientId seq payload => m.receiveData clientId sid seq payload := by
  unfold handleFrame classify
  by_cases hshort : frame.length < headerSize
  · rw [if_pos hshort, if_pos hshort]
  · rw [if_neg hshort, if_neg hshort]
    cases parseControlFrame frame with
    | some control =>
      dsimp only
      split_ifs
      · rfl
      · rfl
    | none =>
      dsimp only
      split_ifs
      · rfl
      · rfl
      · rfl

section Kinds
variable (clientId : UInt32) (sid : UInt16) (seq : UInt32)

theorem classify_dataFrame {sid : UInt16} {payload : Bytes} (h : IsPayload sid payload) :
    classify (dataFrame clientId sid seq payload) = .data sid clientId seq payload := by
  have hlen := frameLength_dataFrame clientId seq h
  have hsize : (dataFrame clientId sid seq payload).length = headerSize + payload.length := by
    simp [dataFrame]
  have hpos := h.1
  unfold classify
  rw [if_neg (by omega), parseControlFrame_dataFrame _ _ h]
  simp only [hlen, hsize, framePayload_dataFrame _ _ h, frameSid_dataFrame, frameClientId_dataFrame,
    frameSeq_dataFrame]
  rw [if_neg (by omega), if_neg (by omega)]

theorem classify_closeFrame : classify (closeFrame clientId sid) = .close sid clientId := by
  unfold classify
  rw [if_neg (by simp [closeFrame]), parseControlFrame_closeFrame]
  simp [closeFrame]

theorem classify_resetFrame : classify (resetFrame clientId) = .reset clientId := by
  unfold classify
  rw [if_neg (by simp [resetFrame]), parseControlFrame_resetFrame]
  simp

end Kinds

/-- A header alone is read whole or not at all. -/
theorem classify_of_short {frame : Bytes} (h : frame.length < headerSize) : classify frame = .ignored :=
  if_pos h

/-- The bytes of a prefix are those of the frame. -/
theorem slice_take {frame : Bytes} {i j n : ℕ} (hj : j ≤ n) :
    slice (frame.take n) i j = slice frame i j := by
  rw [slice, slice, List.drop_take, List.take_take, Nat.min_eq_left (by omega)]

/-- A data frame that is cut short anywhere is ignored. -/
theorem classify_take_dataFrame (clientId : UInt32) {sid : UInt16} (seq : UInt32) {payload : Bytes}
    (h : IsPayload sid payload) {n : ℕ} (hn : n < (dataFrame clientId sid seq payload).length) :
    classify ((dataFrame clientId sid seq payload).take n) = .ignored := by
  have htake : ((dataFrame clientId sid seq payload).take n).length = n := by
    rw [List.length_take]
    omega
  by_cases hshort : n < headerSize
  · exact classify_of_short (by omega)
  · have h12 : 12 ≤ n := Nat.not_lt.mp hshort
    have hlength : frameLength ((dataFrame clientId sid seq payload).take n) =
        frameLength (dataFrame clientId sid seq payload) := by
      rw [frameLength, frameLength, slice_take (by omega)]
    have hsid : frameSid ((dataFrame clientId sid seq payload).take n) = sid := by
      rw [frameSid, slice_take (by omega)]
      exact frameSid_dataFrame _ _
    have hcontrol : parseControlFrame ((dataFrame clientId sid seq payload).take n) = none := by
      have hwhole := parseControlFrame_dataFrame clientId seq h
      unfold parseControlFrame at hwhole ⊢
      rw [hlength, hsid]
      rw [frameSid_dataFrame] at hwhole
      split_ifs at hwhole ⊢
      rfl
    have hsize : (dataFrame clientId sid seq payload).length = headerSize + payload.length := by
      simp [dataFrame]
    have hlen := frameLength_dataFrame clientId seq h
    have hpos := h.1
    unfold classify
    rw [htake, if_neg hshort, hcontrol]
    simp only [hlength, hlen]
    rw [if_neg (by omega), if_pos (by omega)]

namespace Multiplexer

/-- A strict prefix of a frame that a client emits is ignored. -/
theorem Emits.classify_take {m : Multiplexer} {frame : Bytes} (h : m.Emits frame) {n : ℕ}
    (hn : n < frame.length) : classify (frame.take n) = .ignored := by
  obtain ⟨sid, seq, payload, hlegal, rfl⟩ | ⟨sid, rfl⟩ | rfl := h.cases
  · exact classify_take_dataFrame _ _ hlegal hn
  · refine classify_of_short ?_
    rw [List.length_take]
    have hsize : (closeFrame m.clientId sid).length = headerSize := by simp [closeFrame]
    omega
  · refine classify_of_short ?_
    rw [List.length_take]
    have hsize : (resetFrame m.clientId).length = headerSize := by simp [resetFrame]
    omega

/-- `close_stream` sends its frame also where there is no entry. -/
theorem closeStream_sent (m : Multiplexer) (send : SendFn) (sid : UInt16) :
    (m.closeStream send sid).frames = [closeFrame m.clientId sid] ∧
      (m.closeStream send sid).result = send (closeFrame m.clientId sid) := by
  unfold closeStream
  cases m.streams[sid]? with
  | none => exact ⟨rfl, rfl⟩
  | some stream => exact ⟨rfl, rfl⟩

theorem mem_sendClientReset {m : Multiplexer} {send : SendFn} {frame : Bytes}
    (h : frame ∈ (m.sendClientReset send).frames) : frame = resetFrame m.clientId := by
  unfold sendClientReset at h
  split_ifs at h
  · simp at h
  · simpa using h

/-- Every receiver takes the frame for these data, and the length field counts them. -/
structure Carries (frame : Bytes) (sid : UInt16) (clientId seq : UInt32) (payload : Bytes) : Prop where
  size : frame.length = headerSize + payload.length
  length : (frameLength frame).toNat = payload.length
  kind : classify frame = .data sid clientId seq payload
  received : ∀ rx : Multiplexer, rx.handleFrame frame = rx.receiveData clientId sid seq payload

theorem carries_dataFrame (clientId : UInt32) {sid : UInt16} (seq : UInt32) {payload : Bytes}
    (h : IsPayload sid payload) : Carries (dataFrame clientId sid seq payload) sid clientId seq payload where
  size := by simp [dataFrame]
  length := frameLength_dataFrame clientId seq h
  kind := classify_dataFrame clientId seq h
  received rx := handleFrame_dataFrame rx clientId seq h

/-- The frames of `send_data` on an open stream carry consecutive pieces of the data,
all of them when the call succeeds; no frame is taken for one of another kind; and
a strict prefix of any frame changes nothing and is read without a bad index. -/
theorem frames_read_back (m : Multiplexer) (send : SendFn) :
    (∀ sid data stream, m.streams[sid]? = some stream → stream.closed = false →
      ∃ payloads : List Bytes,
        payloads.flatten <+: data ∧
        ((m.sendData send sid data).result = .ok () → payloads.flatten = data) ∧
        (m.sendData send sid data).frames.length = payloads.length ∧
        ∀ i payload, payloads[i]? = some payload →
          ∃ frame, (m.sendData send sid data).frames[i]? = some frame ∧
            Carries frame sid m.clientId (stream.nextSendSeq + UInt32.ofNat i) payload) ∧
    (∀ sid data, ∀ frame ∈ (m.sendData send sid data).frames,
      ∃ seq payload, classify frame = .data sid m.clientId seq payload) ∧
    (∀ sid, ∀ frame ∈ (m.closeStream send sid).frames, classify frame = .close sid m.clientId) ∧
    (∀ frame ∈ (m.sendClientReset send).frames, classify frame = .reset m.clientId) ∧
    ∀ frame, m.Emits frame → ∀ n < frame.length, ∀ rx : Multiplexer,
      rx.handleFrame? (frame.take n) = some (rx, []) := by
  refine ⟨?_, ?_, ?_, ?_, ?_⟩
  · intro sid data stream hget hopen
    obtain ⟨cut, hpre, hframes, -, -, hall⟩ :=
      sendChunks_spec send sid (Chunking.chunks chunkSize data) m stream hget hopen
    have hflat := Chunking.chunks_flatten (show 0 < chunkSize by decide) data
    refine ⟨cut, ?_, fun hok => ?_, ?_, fun i payload hi => ?_⟩
    · obtain ⟨rest, hrest⟩ := hpre
      rw [← hflat, ← hrest, List.flatten_append]
      exact List.prefix_append _ _
    · rw [hall hok, hflat]
    · rw [sendData, hframes, framesFrom_length]
    · obtain ⟨h0, h1⟩ := Chunking.chunks_bounds (show 0 < chunkSize by decide)
        (hpre.subset (List.mem_of_getElem? hi))
      refine ⟨_, ?_, carries_dataFrame _ _ (IsPayload.of_chunk h0 h1)⟩
      rw [sendData, hframes, framesFrom_getElem?, hi, Option.map_some]
  · intro sid data frame hframe
    obtain ⟨seq, chunk, hchunk, rfl⟩ := mem_sendChunks hframe
    obtain ⟨h0, h1⟩ := Chunking.chunks_bounds (show 0 < chunkSize by decide) hchunk
    exact ⟨seq, chunk, classify_dataFrame _ _ (IsPayload.of_chunk h0 h1)⟩
  · intro sid frame hframe
    rw [(closeStream_sent m send sid).1, List.mem_singleton] at hframe
    rw [hframe]
    exact classify_closeFrame _ _
  · intro frame hframe
    rw [mem_sendClientReset hframe]
    exact classify_resetFrame _
  · intro frame hemits n hn rx
    rw [handleFrame?_eq, handleFrame_classify, hemits.classify_take hn]

/-- Three bytes on stream `0xFFFF`, which is also the stream id of control frames. -/
theorem frames_read_back_control_id :
    ∃ payloads : List Bytes, payloads.flatten = [97, 98, 99] ∧
      ∀ i payload, payloads[i]? = some payload → ∃ frame,
        (((new 0x01020304).setStream 0xFFFF (Stream.fresh 0 0)).sendData (fun _ => .ok ()) 0xFFFF
          [97, 98, 99]).frames[i]? = some frame ∧
        Carries frame 0xFFFF 0x01020304 (0 + UInt32.ofNat i) payload := by
  obtain ⟨payloads, -, hall, -, hcarries⟩ := (frames_read_back
    ((new 0x01020304).setStream 0xFFFF (Stream.fresh 0 0)) fun _ => .ok ()).1 0xFFFF [97, 98, 99]
    (Stream.fresh 0 0) (setStream_get _ _ _) rfl
  exact ⟨payloads, hall rfl, hcarries⟩

end Multiplexer

end TauriVpn.Olcrtc
