import TauriVpn.Lib.BigEndian

/-! The frame format of the multiplexer: a 12-byte header (client id, stream id,
payload length, sequence number, all big endian) followed by the payload. A
zero length closes the stream; the reserved stream id together with length
`0xFFFF` marks a control frame, whose sequence field is the control kind. -/

namespace TauriVpn.Olcrtc

abbrev Bytes := List UInt8

def headerSize : ℕ := 12
def chunkSize : ℕ := 7000
def controlStreamId : UInt16 := 0xFFFF
def controlResetClient : UInt32 := 1

/-! ### Big-endian integers -/

def u16ToBeBytes (x : UInt16) : Bytes := BigEndian.encode 2 x.toNat
def u32ToBeBytes (x : UInt32) : Bytes := BigEndian.encode 4 x.toNat
def u16FromBeBytes (bs : Bytes) : UInt16 := UInt16.ofNat (BigEndian.decode bs)
def u32FromBeBytes (bs : Bytes) : UInt32 := UInt32.ofNat (BigEndian.decode bs)

@[simp] theorem u16ToBeBytes_length (x : UInt16) : (u16ToBeBytes x).length = 2 := by
  simp [u16ToBeBytes]

@[simp] theorem u32ToBeBytes_length (x : UInt32) : (u32ToBeBytes x).length = 4 := by
  simp [u32ToBeBytes]

@[simp] theorem u16FromBeBytes_toBeBytes (x : UInt16) : u16FromBeBytes (u16ToBeBytes x) = x := by
  rw [u16FromBeBytes, u16ToBeBytes, BigEndian.decode_encode_of_lt (by simpa using x.toNat_lt)]
  simp

@[simp] theorem u32FromBeBytes_toBeBytes (x : UInt32) : u32FromBeBytes (u32ToBeBytes x) = x := by
  rw [u32FromBeBytes, u32ToBeBytes, BigEndian.decode_encode_of_lt (by simpa using x.toNat_lt)]
  simp

theorem u16ToBeBytes_fromBeBytes {bs : Bytes} (h : bs.length = 2) : u16ToBeBytes (u16FromBeBytes bs) = bs := by
  have hlt := BigEndian.decode_lt bs
  rw [h] at hlt
  rw [u16ToBeBytes, u16FromBeBytes, UInt16.toNat_ofNat_of_lt' (by simpa using hlt), ← h, BigEndian.encode_decode]

/-! ### Frames -/

/-- A header with the given fields, followed by the payload. -/
def frameBytes (clientId : UInt32) (sid length : UInt16) (seq : UInt32) (payload : Bytes) : Bytes :=
  u32ToBeBytes clientId ++ u16ToBeBytes sid ++ u16ToBeBytes length ++ u32ToBeBytes seq ++ payload

/-- The frame `send_data` builds; the length field is cut to 16 bits. -/
def dataFrame (clientId : UInt32) (sid : UInt16) (seq : UInt32) (chunk : Bytes) : Bytes :=
  frameBytes clientId sid (UInt16.ofNat chunk.length) seq chunk

def closeFrame (clientId : UInt32) (sid : UInt16) : Bytes :=
  frameBytes clientId sid 0 0 []

def resetFrame (clientId : UInt32) : Bytes :=
  frameBytes clientId controlStreamId 0xFFFF controlResetClient []

/-- The bytes of `frame[i..j]`. -/
def slice (frame : Bytes) (i j : ℕ) : Bytes := (frame.drop i).take (j - i)

theorem slice_middle {before middle after : Bytes} {i j : ℕ} (hi : before.length = i)
    (hj : middle.length = j - i) : slice (before ++ (middle ++ after)) i j = middle := by
  subst hi
  rw [slice, List.drop_left, ← hj, List.take_left]

def frameClientId (frame : Bytes) : UInt32 := u32FromBeBytes (slice frame 0 4)
def frameSid (frame : Bytes) : UInt16 := u16FromBeBytes (slice frame 4 6)
def frameLength (frame : Bytes) : UInt16 := u16FromBeBytes (slice frame 6 8)
def frameSeq (frame : Bytes) : UInt32 := u32FromBeBytes (slice frame 8 12)

/-- The payload of a frame, `frame[HEADER_SIZE..HEADER_SIZE + length]`. -/
def framePayload (frame : Bytes) : Bytes :=
  slice frame headerSize (headerSize + (frameLength frame).toNat)

theorem framePayload_length {frame : Bytes} (h : headerSize + (frameLength frame).toNat ≤ frame.length) :
    (framePayload frame).length = (frameLength frame).toNat := by
  rw [framePayload, slice, List.length_take, List.length_drop]
  omega

structure ControlFrame where
  clientId : UInt32
  kind : UInt32
  deriving DecidableEq

def parseControlFrame (frame : Bytes) : Option ControlFrame :=
  if frameSid frame ≠ controlStreamId ∨ frameLength frame ≠ 0xFFFF then none
  else some ⟨frameClientId frame, frameSeq frame⟩

section Fields
variable (clientId : UInt32) (sid length : UInt16) (seq : UInt32) (payload : Bytes)

@[simp] theorem frameBytes_length :
    (frameBytes clientId sid length seq payload).length = headerSize + payload.length := by
  simp [frameBytes, headerSize]; omega

@[simp] theorem frameClientId_frameBytes :
    frameClientId (frameBytes clientId sid length seq payload) = clientId := by
  simp [frameClientId, slice, frameBytes, List.append_assoc]

@[simp] theorem frameSid_frameBytes :
    frameSid (frameBytes clientId sid length seq payload) = sid := by
  rw [frameSid, frameBytes, List.append_assoc, List.append_assoc, List.append_assoc,
    slice_middle (by simp) (by simp), u16FromBeBytes_toBeBytes]

@[simp] theorem frameLength_frameBytes :
    frameLength (frameBytes clientId sid length seq payload) = length := by
  rw [frameLength, frameBytes, List.append_assoc, List.append_assoc,
    slice_middle (by simp) (by simp), u16FromBeBytes_toBeBytes]

@[simp] theorem frameSeq_frameBytes :
    frameSeq (frameBytes clientId sid length seq payload) = seq := by
  rw [frameSeq, frameBytes, List.append_assoc, slice_middle (by simp) (by simp),
    u32FromBeBytes_toBeBytes]

end Fields

/-- Payloads that a data frame can carry: the length fits its field, is not the
zero of a close frame, and does not turn the frame into a control frame. -/
def IsPayload (sid : UInt16) (payload : Bytes) : Prop :=
  0 < payload.length ∧ payload.length < 2 ^ 16 ∧ ¬(sid = controlStreamId ∧ payload.length = 0xFFFF)

instance (sid : UInt16) (payload : Bytes) : Decidable (IsPayload sid payload) := by
  unfold IsPayload; infer_instance

theorem IsPayload.of_chunk {sid : UInt16} {payload : Bytes} (h0 : 0 < payload.length)
    (h1 : payload.length ≤ chunkSize) : IsPayload sid payload := by
  have h2 : chunkSize = 7000 := rfl
  exact ⟨h0, by omega, fun h => by omega⟩

section Data
variable (clientId : UInt32) {sid : UInt16} (seq : UInt32) {payload : Bytes}

theorem frameLength_dataFrame (h : IsPayload sid payload) :
    (frameLength (dataFrame clientId sid seq payload)).toNat = payload.length := by
  rw [dataFrame, frameLength_frameBytes, UInt16.toNat_ofNat', Nat.mod_eq_of_lt h.2.1]

@[simp] theorem frameClientId_dataFrame :
    frameClientId (dataFrame clientId sid seq payload) = clientId := frameClientId_frameBytes ..

@[simp] theorem frameSid_dataFrame : frameSid (dataFrame clientId sid seq payload) = sid :=
  frameSid_frameBytes ..

@[simp] theorem frameSeq_dataFrame : frameSeq (dataFrame clientId sid seq payload) = seq :=
  frameSeq_frameBytes ..

theorem frameLength_dataFrame_ne_zero (h : IsPayload sid payload) :
    frameLength (dataFrame clientId sid seq payload) ≠ 0 := fun hzero => by
  have hpos := h.1
  rw [← frameLength_dataFrame clientId seq h, hzero] at hpos
  exact absurd hpos (by decide)

theorem framePayload_dataFrame (h : IsPayload sid payload) :
    framePayload (dataFrame clientId sid seq payload) = payload := by
  rw [framePayload, frameLength_dataFrame _ _ h, dataFrame, frameBytes,
    ← List.append_nil payload, slice_middle (by simp [headerSize]) (by simp), List.append_nil]

theorem parseControlFrame_dataFrame (h : IsPayload sid payload) :
    parseControlFrame (dataFrame clientId sid seq payload) = none := by
  rw [parseControlFrame, if_pos]
  by_contra hc
  push Not at hc
  obtain ⟨hsid, hlen⟩ := hc
  rw [frameSid_dataFrame] at hsid
  have hnat := frameLength_dataFrame clientId seq h
  rw [hlen] at hnat
  exact h.2.2 ⟨hsid, hnat.symm⟩

end Data

theorem parseControlFrame_closeFrame (clientId : UInt32) (sid : UInt16) :
    parseControlFrame (closeFrame clientId sid) = none := by
  simp [parseControlFrame, closeFrame]

theorem parseControlFrame_resetFrame (clientId : UInt32) :
    parseControlFrame (resetFrame clientId) = some ⟨clientId, controlResetClient⟩ := by
  simp [parseControlFrame, resetFrame]

end TauriVpn.Olcrtc
