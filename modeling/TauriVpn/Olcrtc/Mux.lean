import TauriVpn.Errors
import TauriVpn.Lib.Chunking
import TauriVpn.Olcrtc.Frame

/-! The stream multiplexer. Every operation takes the stream table from one lock
acquisition to the next as one step and returns the wakers it notified
(`notify_one`); `send_data` is the sequence of its per-chunk steps, and
`wait_for_data` is one iteration of its loop. The transport is a parameter
that says for each frame whether sending it succeeds. -/

namespace TauriVpn.Olcrtc

open Std (ExtTreeMap)

/-- The identity of one `Arc<Notify>`. -/
abbrev NotifyId := ℕ

structure Stream where
  clientId : UInt32 := 0
  recvBuf : Bytes := []
  closed : Bool := false
  nextRecvSeq : UInt32 := 0
  nextSendSeq : UInt32 := 0
  outOfOrder : ExtTreeMap UInt32 Bytes := ∅
  notify : NotifyId
  deriving DecidableEq

/-- `Stream { client_id, notify, ..Stream::default() }`. -/
def Stream.fresh (clientId : UInt32) (notify : NotifyId) : Stream := { clientId, notify }

/-- `nextNotify` is the identity the next `Arc::new(Notify::new())` gets. -/
structure Multiplexer where
  clientId : UInt32
  streams : ExtTreeMap UInt16 Stream
  nextId : UInt16
  nextNotify : NotifyId
  deriving DecidableEq

/-- The outcome of handing a frame to the transport. -/
abbrev SendFn := Bytes → Except VpnError Unit

namespace Multiplexer

def new (clientId : UInt32) : Multiplexer :=
  { clientId, streams := ∅, nextId := 1, nextNotify := 0 }

def setStream (m : Multiplexer) (sid : UInt16) (stream : Stream) : Multiplexer :=
  { m with streams := m.streams.insert sid stream }

@[simp] theorem setStream_clientId (m : Multiplexer) (sid : UInt16) (stream : Stream) :
    (m.setStream sid stream).clientId = m.clientId := rfl

@[simp] theorem setStream_get (m : Multiplexer) (sid : UInt16) (stream : Stream) :
    (m.setStream sid stream).streams[sid]? = some stream := by
  simp [setStream]

theorem setStream_get_ne (m : Multiplexer) {sid sid' : UInt16} (stream : Stream) (h : sid ≠ sid') :
    (m.setStream sid stream).streams[sid']? = m.streams[sid']? := by
  simp [setStream, Std.ExtTreeMap.getElem?_insert, h]

/-- `streams.entry(sid).or_insert_with(..)` with a fresh stream of `clientId`. -/
def entryOrInsert (m : Multiplexer) (sid : UInt16) (clientId : UInt32) : Stream × Multiplexer :=
  match m.streams[sid]? with
  | some stream => (stream, m)
  | none =>
    let stream := Stream.fresh clientId m.nextNotify
    (stream, { m.setStream sid stream with nextNotify := m.nextNotify + 1 })

/-- The stream of `sid`, or what `entry(sid).or_insert_with(..)` would insert. -/
def streamOr (m : Multiplexer) (sid : UInt16) (clientId : UInt32) : Stream :=
  (m.streams[sid]?).getD (Stream.fresh clientId m.nextNotify)

theorem entryOrInsert_fst (m : Multiplexer) (sid : UInt16) (clientId : UInt32) :
    (m.entryOrInsert sid clientId).1 = m.streamOr sid clientId := by
  unfold entryOrInsert streamOr
  cases m.streams[sid]? <;> rfl

theorem entryOrInsert_get (m : Multiplexer) (sid : UInt16) (clientId : UInt32) :
    (m.entryOrInsert sid clientId).2.streams[sid]? = some (m.streamOr sid clientId) := by
  unfold entryOrInsert streamOr
  cases h : m.streams[sid]? with
  | none => simp [setStream]
  | some stream => simpa using h

theorem entryOrInsert_get_ne (m : Multiplexer) {sid sid' : UInt16} (clientId : UInt32)
    (h : sid ≠ sid') : (m.entryOrInsert sid clientId).2.streams[sid']? = m.streams[sid']? := by
  unfold entryOrInsert
  cases m.streams[sid]? with
  | none => exact setStream_get_ne m _ h
  | some stream => rfl

theorem entryOrInsert_clientId (m : Multiplexer) (sid : UInt16) (clientId : UInt32) :
    (m.entryOrInsert sid clientId).2.clientId = m.clientId := by
  unfold entryOrInsert
  cases m.streams[sid]? <;> rfl

/-! ### Opening -/

/-- One draw of `next_id`, with `0` mapped to `1`. -/
def drawId (m : Multiplexer) : UInt16 := if m.nextId = 0 then 1 else m.nextId

/-- The allocation loop of `open_stream`; `none` when `fuel` draws find no free id. -/
def openLoop : ℕ → Multiplexer → Option (UInt16 × Multiplexer)
  | 0, _ => none
  | fuel + 1, m =>
    let sid := m.drawId
    let m := { m with nextId := m.nextId + 1 }
    match m.streams[sid]? with
    | none =>
      some (sid, { m.setStream sid (Stream.fresh 0 m.nextNotify) with nextNotify := m.nextNotify + 1 })
    | some _ => openLoop fuel m

theorem drawId_ne_zero (m : Multiplexer) : m.drawId ≠ 0 := by
  unfold drawId
  split_ifs with h
  · decide
  · exact h

/-- What `open_stream` returns: an id that was free, with a fresh entry under it. -/
theorem openLoop_spec {fuel : ℕ} {m m' : Multiplexer} {sid : UInt16}
    (h : openLoop fuel m = some (sid, m')) :
    sid ≠ 0 ∧ m.streams[sid]? = none ∧
      m'.streams = m.streams.insert sid (Stream.fresh 0 m.nextNotify) ∧ m'.clientId = m.clientId := by
  induction fuel generalizing m with
  | zero => simp [openLoop] at h
  | succ fuel ih =>
    simp only [openLoop] at h
    split at h
    · rename_i hfree
      rw [Option.some.injEq, Prod.mk.injEq] at h
      obtain ⟨rfl, rfl⟩ := h
      exact ⟨m.drawId_ne_zero, hfree, rfl, rfl⟩
    · have hrest := ih h
      exact hrest

/-- Every id has been drawn after `2 ^ 16` draws: a call that has not returned by
then holds the lock forever. -/
def openStream (m : Multiplexer) : Option (UInt16 × Multiplexer) := openLoop (2 ^ 16) m

/-! ### Sending -/

/-- What an operation that sends leaves behind: the new state, the frames handed
to the transport, the notified wakers and the result. -/
structure Sent where
  mux : Multiplexer
  frames : List Bytes := []
  notified : List NotifyId := []
  result : Except VpnError Unit

/-- The locked step of `send_data`: the sequence number of the next chunk, unless
the stream is missing or closed. -/
def allocSeq (m : Multiplexer) (sid : UInt16) : Option (UInt32 × Multiplexer) :=
  match m.streams[sid]? with
  | none => none
  | some stream =>
    if stream.closed then none
    else some (stream.nextSendSeq,
      m.setStream sid { stream with nextSendSeq := stream.nextSendSeq + 1 })

def sendChunks (send : SendFn) (sid : UInt16) : Multiplexer → List Bytes → Sent
  | m, [] => { mux := m, result := .ok () }
  | m, chunk :: rest =>
    match m.allocSeq sid with
    | none => { mux := m, result := .ok () }
    | some (seq, m) =>
      let frame := dataFrame m.clientId sid seq chunk
      match send frame with
      | .error error => { mux := m, frames := [frame], result := .error error }
      | .ok () =>
        let sent := sendChunks send sid m rest
        { sent with frames := frame :: sent.frames }

def sendData (m : Multiplexer) (send : SendFn) (sid : UInt16) (data : Bytes) : Sent :=
  sendChunks send sid m (Chunking.chunks chunkSize data)

/-- A sequence number is handed out on an open stream, and only advances its own counter. -/
theorem allocSeq_eq_some {m m' : Multiplexer} {sid : UInt16} {seq : UInt32}
    (h : m.allocSeq sid = some (seq, m')) :
    ∃ stream, m.streams[sid]? = some stream ∧ stream.closed = false ∧ stream.nextSendSeq = seq ∧
      m' = m.setStream sid { stream with nextSendSeq := stream.nextSendSeq + 1 } := by
  unfold allocSeq at h
  cases hget : m.streams[sid]? with
  | none => simp [hget] at h
  | some stream =>
    simp only [hget] at h
    split_ifs at h with hclosed
    obtain ⟨rfl, rfl⟩ := Prod.mk.inj (Option.some.inj h)
    exact ⟨stream, rfl, by simpa using hclosed, rfl, rfl⟩

/-- What handing out a sequence number keeps, `send_data` keeps. -/
theorem sendData_keeps {P : Multiplexer → Prop} {sid : UInt16}
    (halloc : ∀ m seq m', P m → m.allocSeq sid = some (seq, m') → P m') {m : Multiplexer} (h : P m)
    (send : SendFn) (data : Bytes) : P (m.sendData send sid data).mux := by
  unfold sendData
  induction Chunking.chunks chunkSize data generalizing m with
  | nil => exact h
  | cons chunk rest ih =>
    unfold sendChunks
    cases hseq : m.allocSeq sid with
    | none => exact h
    | some alloc =>
      have hm := halloc m alloc.1 alloc.2 h hseq
      dsimp only
      cases send (dataFrame alloc.2.clientId sid alloc.1 chunk) with
      | error error => exact hm
      | ok _ => exact ih hm

def closeStream (m : Multiplexer) (send : SendFn) (sid : UInt16) : Sent :=
  let frame := closeFrame m.clientId sid
  match m.streams[sid]? with
  | some stream =>
    { mux := m.setStream sid { stream with closed := true }, frames := [frame],
      notified := [stream.notify], result := send frame }
  | none => { mux := m, frames := [frame], result := send frame }

def sendClientReset (m : Multiplexer) (send : SendFn) : Sent :=
  if m.clientId = 0 then
    { mux := m, result := .error (.engine "OLC RTC client reset requires a non-zero client id") }
  else
    let frame := resetFrame m.clientId
    { mux := m, frames := [frame], result := send frame }

end Multiplexer

/-! ### Receiving on one stream -/

namespace Stream

/-- A frame of another client replaces the stream and keeps its waker. -/
def adopt (stream : Stream) (clientId : UInt32) : Stream :=
  if stream.clientId ≠ clientId then Stream.fresh clientId stream.notify else stream

/-- The `while let Some(data) = out_of_order.remove(..)` loop. -/
def drain : ℕ → Stream → Stream
  | 0, stream => stream
  | fuel + 1, stream =>
    match stream.outOfOrder[stream.nextRecvSeq]? with
    | some data =>
      drain fuel { stream with
        outOfOrder := stream.outOfOrder.erase stream.nextRecvSeq
        recvBuf := stream.recvBuf ++ data
        nextRecvSeq := stream.nextRecvSeq + 1 }
    | none => stream

/-- The sequence window. The drain loop removes one entry an iteration, so the
number of entries bounds its iterations. -/
def accept (stream : Stream) (seq : UInt32) (payload : Bytes) : Stream × List NotifyId :=
  if seq = stream.nextRecvSeq then
    let stream := { stream with
      recvBuf := stream.recvBuf ++ payload
      nextRecvSeq := stream.nextRecvSeq + 1 }
    (stream.drain stream.outOfOrder.size, [stream.notify])
  else if stream.nextRecvSeq < seq ∧ stream.outOfOrder.size < 100 then
    ({ stream with outOfOrder := stream.outOfOrder.insert seq payload }, [])
  else (stream, [])

section Frame
variable (stream : Stream) (fuel : ℕ) (seq : UInt32) (payload : Bytes)

/-- The drain loop touches the receive side only. -/
theorem drain_frame (stream : Stream) :
    (stream.drain fuel).clientId = stream.clientId ∧ (stream.drain fuel).closed = stream.closed ∧
      (stream.drain fuel).nextSendSeq = stream.nextSendSeq ∧
      (stream.drain fuel).notify = stream.notify := by
  induction fuel generalizing stream with
  | zero => exact ⟨rfl, rfl, rfl, rfl⟩
  | succ fuel ih =>
    simp only [drain]
    split
    · exact ih _
    · exact ⟨rfl, rfl, rfl, rfl⟩

theorem accept_frame :
    (stream.accept seq payload).1.clientId = stream.clientId ∧
      (stream.accept seq payload).1.closed = stream.closed ∧
      (stream.accept seq payload).1.nextSendSeq = stream.nextSendSeq ∧
      (stream.accept seq payload).1.notify = stream.notify := by
  unfold accept
  split_ifs
  · exact drain_frame _ _
  · exact ⟨rfl, rfl, rfl, rfl⟩
  · exact ⟨rfl, rfl, rfl, rfl⟩

@[simp] theorem adopt_clientId (clientId : UInt32) : (stream.adopt clientId).clientId = clientId := by
  unfold adopt
  split_ifs with h
  · rfl
  · exact not_not.mp h

theorem adopt_of_eq {clientId : UInt32} (h : stream.clientId = clientId) :
    stream.adopt clientId = stream := by
  simp [adopt, h]

@[simp] theorem adopt_fresh (clientId : UInt32) (notify : NotifyId) :
    (Stream.fresh clientId notify).adopt clientId = Stream.fresh clientId notify :=
  adopt_of_eq _ rfl

theorem adopt_of_ne {clientId : UInt32} (h : stream.clientId ≠ clientId) :
    stream.adopt clientId = Stream.fresh clientId stream.notify := by
  simp [adopt, h]

end Frame

end Stream

namespace Multiplexer

/-! ### Receiving -/

def markClosed (m : Multiplexer) (sid : UInt16) (clientId : UInt32) : Multiplexer × List NotifyId :=
  match m.streams[sid]? with
  | some stream =>
    if stream.clientId = clientId then
      (m.setStream sid { stream with closed := true }, [stream.notify])
    else (m, [])
  | none => (m, [])

def resetClient (m : Multiplexer) (clientId : UInt32) : Multiplexer × List NotifyId :=
  ({ m with streams := m.streams.filter fun _ stream => stream.clientId != clientId },
    (m.streams.toList.filter fun e => e.2.clientId == clientId).map fun e => e.2.notify)

/-- The part of `handle_frame` that runs for a data frame. -/
def receiveData (m : Multiplexer) (clientId : UInt32) (sid : UInt16) (seq : UInt32)
    (payload : Bytes) : Multiplexer × List NotifyId :=
  let (stream, m) := m.entryOrInsert sid clientId
  let (stream, notified) := (stream.adopt clientId).accept seq payload
  (m.setStream sid stream, notified)

theorem receiveData_get (m : Multiplexer) (clientId : UInt32) (sid : UInt16) (seq : UInt32)
    (payload : Bytes) : (m.receiveData clientId sid seq payload).1.streams[sid]? =
      some (((m.streamOr sid clientId).adopt clientId).accept seq payload).1 := by
  simp [receiveData, entryOrInsert_fst]

theorem receiveData_get_ne (m : Multiplexer) (clientId : UInt32) {sid sid' : UInt16} (seq : UInt32)
    (payload : Bytes) (h : sid ≠ sid') :
    (m.receiveData clientId sid seq payload).1.streams[sid']? = m.streams[sid']? := by
  simp only [receiveData]
  rw [setStream_get_ne _ _ h, entryOrInsert_get_ne _ _ h]

def handleFrame (m : Multiplexer) (frame : Bytes) : Multiplexer × List NotifyId :=
  if frame.length < headerSize then (m, [])
  else match parseControlFrame frame with
    | some control =>
      if control.kind = controlResetClient then m.resetClient control.clientId else (m, [])
    | none =>
      let clientId := frameClientId frame
      let sid := frameSid frame
      let length := (frameLength frame).toNat
      let seq := frameSeq frame
      if length = 0 then m.markClosed sid clientId
      else if frame.length < headerSize + length then (m, [])
      else m.receiveData clientId sid seq (framePayload frame)

theorem handleFrame_dataFrame (m : Multiplexer) (clientId : UInt32) {sid : UInt16} (seq : UInt32)
    {payload : Bytes} (h : IsPayload sid payload) :
    m.handleFrame (dataFrame clientId sid seq payload) = m.receiveData clientId sid seq payload := by
  have hlen := frameLength_dataFrame clientId seq h
  have hsize : (dataFrame clientId sid seq payload).length = headerSize + payload.length := by
    simp [dataFrame]
  have hpos := h.1
  unfold handleFrame
  rw [if_neg (by omega), parseControlFrame_dataFrame _ _ h]
  simp only [hlen, hsize, framePayload_dataFrame _ _ h]
  rw [if_neg (by omega), if_neg (by omega)]
  simp [dataFrame]

theorem handleFrame_closeFrame (m : Multiplexer) (clientId : UInt32) (sid : UInt16) :
    m.handleFrame (closeFrame clientId sid) = m.markClosed sid clientId := by
  unfold handleFrame
  rw [if_neg (by simp [closeFrame]), parseControlFrame_closeFrame]
  simp [closeFrame]

theorem handleFrame_resetFrame (m : Multiplexer) (clientId : UInt32) :
    m.handleFrame (resetFrame clientId) = m.resetClient clientId := by
  unfold handleFrame
  rw [if_neg (by simp [resetFrame]), parseControlFrame_resetFrame]
  simp

/-! ### Reading -/

/-- `recv_buf` and `next_recv_seq` of a stream; a missing entry has received nothing. -/
def recvBuf (m : Multiplexer) (sid : UInt16) : Bytes :=
  (m.streams[sid]?.map Stream.recvBuf).getD []

def nextRecvSeq (m : Multiplexer) (sid : UInt16) : UInt32 :=
  (m.streams[sid]?.map Stream.nextRecvSeq).getD 0

def readStream (m : Multiplexer) (sid : UInt16) : Bytes × Multiplexer :=
  match m.streams[sid]? with
  | none => ([], m)
  | some stream => (stream.recvBuf, m.setStream sid { stream with recvBuf := [] })

/-- One iteration of the `wait_for_data` loop: `none` when it returns, otherwise
the waker it parks on. -/
def waitForData (m : Multiplexer) (sid : UInt16) : Option NotifyId × Multiplexer :=
  let (stream, m) := m.entryOrInsert sid m.clientId
  if stream.recvBuf ≠ [] ∨ stream.closed then (none, m) else (some stream.notify, m)

/-- `wait_for_data` at most inserts an entry. -/
theorem waitForData_snd (m : Multiplexer) (sid : UInt16) :
    (m.waitForData sid).2 = (m.entryOrInsert sid m.clientId).2 := by
  unfold waitForData
  simp only
  split_ifs <;> rfl

def streamClosed (m : Multiplexer) (sid : UInt16) : Bool :=
  match m.streams[sid]? with
  | some stream => stream.closed
  | none => true

end Multiplexer

end TauriVpn.Olcrtc
