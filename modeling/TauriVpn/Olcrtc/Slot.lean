import TauriVpn.Lib.Unwinding
import TauriVpn.Olcrtc.Wire

/-! One entry of the stream table by itself. What an operation does to the entry of
a stream, and what it puts out for it, is decided by that entry and the client id
alone, and operations on other streams leave the entry as it is. -/

namespace TauriVpn.Olcrtc

open StepSystem

/-! ### Which operations concern a stream -/

namespace Operation

/-- The stream that the operation works on. -/
def sid? : Operation → Option UInt16
  | .sendData _ sid _ => some sid
  | .closeStream _ sid => some sid
  | .readStream sid => some sid
  | .waitForData sid => some sid
  | .handleFrame frame =>
    match classify frame with
    | .close sid _ => some sid
    | .data sid _ _ _ => some sid
    | _ => none
  | _ => none

/-- The arrival of a client reset, which works on every stream of that client. -/
def isReset : Operation → Bool
  | .handleFrame frame =>
    match classify frame with
    | .reset _ => true
    | _ => false
  | _ => false

def Concerns (sid : UInt16) (op : Operation) : Prop := op.sid? = some sid ∨ op.isReset = true

instance (sid : UInt16) (op : Operation) : Decidable (op.Concerns sid) := by
  unfold Concerns; infer_instance

def isOpen : Operation → Bool
  | .openStream => true
  | _ => false

end Operation

/-! ### The content of an entry -/

namespace Stream

/-- The stream without the identity of its waker, which is an address and not data. -/
def content (stream : Stream) : Stream := { stream with notify := 0 }

@[simp] theorem content_fresh (clientId : UInt32) (notify : NotifyId) :
    (Stream.fresh clientId notify).content = Stream.fresh clientId 0 := rfl

variable (stream : Stream)

theorem content_drain (fuel : ℕ) : (stream.drain fuel).content = stream.content.drain fuel := by
  induction fuel generalizing stream with
  | zero => rfl
  | succ fuel ih =>
    unfold drain
    cases h : stream.outOfOrder[stream.nextRecvSeq]? with
    | some data =>
      rw [show stream.content.outOfOrder[stream.content.nextRecvSeq]? = some data from h]
      exact ih _
    | none => rw [show stream.content.outOfOrder[stream.content.nextRecvSeq]? = none from h]

theorem content_adopt (clientId : UInt32) : (stream.adopt clientId).content = stream.content.adopt clientId := by
  by_cases h : stream.clientId = clientId
  · rw [adopt_of_eq _ h, adopt_of_eq stream.content h]
  · rw [adopt_of_ne _ h, adopt_of_ne stream.content h]
    rfl

theorem content_accept (seq : UInt32) (payload : Bytes) :
    (stream.accept seq payload).1.content = (stream.content.accept seq payload).1 := by
  unfold accept
  by_cases hseq : seq = stream.nextRecvSeq
  · rw [if_pos hseq, if_pos (show seq = stream.content.nextRecvSeq from hseq)]
    exact content_drain _ _
  · rw [if_neg hseq, if_neg (show ¬seq = stream.content.nextRecvSeq from hseq)]
    by_cases hahead : stream.nextRecvSeq < seq ∧ stream.outOfOrder.size < 100
    · rw [if_pos hahead, if_pos (show stream.content.nextRecvSeq < seq ∧
        stream.content.outOfOrder.size < 100 from hahead)]
      rfl
    · rw [if_neg hahead, if_neg (show ¬(stream.content.nextRecvSeq < seq ∧
        stream.content.outOfOrder.size < 100) from hahead)]

end Stream

namespace Multiplexer

/-- The entry of `sid`, without the identity of its waker. -/
def slot (m : Multiplexer) (sid : UInt16) : Option Stream := m.streams[sid]?.map Stream.content

section Slot
variable (m : Multiplexer) (sid : UInt16)

@[simp] theorem slot_setStream (stream : Stream) : (m.setStream sid stream).slot sid = some stream.content := by
  simp [slot]

theorem slot_streamOr (clientId : UInt32) :
    (m.streamOr sid clientId).content = (m.slot sid).getD (Stream.fresh clientId 0) := by
  unfold streamOr slot
  cases m.streams[sid]? <;> rfl

theorem slot_allocSeq : (m.allocSeq sid).map (fun alloc => (alloc.1, alloc.2.slot sid)) =
    (m.slot sid).bind fun stream =>
      if stream.closed then none
      else some (stream.nextSendSeq, some { stream with nextSendSeq := stream.nextSendSeq + 1 }) := by
  unfold allocSeq slot
  cases hget : m.streams[sid]? with
  | none => rfl
  | some stream =>
    rw [Option.map_some, Option.bind_some]
    dsimp only
    by_cases hclosed : stream.closed = true
    · rw [if_pos hclosed, if_pos (show stream.content.closed = true from hclosed), Option.map_none]
    · rw [if_neg hclosed, if_neg (show ¬stream.content.closed = true from hclosed), Option.map_some,
        setStream_get, Option.map_some]
      rfl

theorem slot_closeStream (send : SendFn) : (m.closeStream send sid).mux.slot sid =
    (m.slot sid).map fun stream => { stream with closed := true } := by
  unfold closeStream
  cases hget : m.streams[sid]? with
  | none => simp [slot, hget]
  | some stream =>
    rw [slot_setStream, slot, hget]
    rfl

theorem slot_markClosed (clientId : UInt32) : (m.markClosed sid clientId).1.slot sid =
    (m.slot sid).map fun stream =>
      if stream.clientId = clientId then { stream with closed := true } else stream := by
  unfold markClosed
  cases hget : m.streams[sid]? with
  | none => simp [slot, hget]
  | some stream =>
    have hslot : m.slot sid = some stream.content := by rw [slot, hget, Option.map_some]
    rw [hslot, Option.map_some]
    dsimp only
    by_cases hid : stream.clientId = clientId
    · rw [if_pos hid, if_pos (show stream.content.clientId = clientId from hid), slot_setStream]
      rfl
    · rw [if_neg hid, if_neg (show ¬stream.content.clientId = clientId from hid), hslot]

theorem slot_resetClient (clientId : UInt32) : (m.resetClient clientId).1.slot sid =
    (m.slot sid).filter fun stream => stream.clientId != clientId := by
  unfold slot
  rw [resetClient_get]
  cases m.streams[sid]? with
  | none => rfl
  | some stream =>
    rw [Option.map_some, Option.filter_some, Option.filter_some]
    by_cases hid : (stream.clientId != clientId) = true
    · rw [if_pos hid, if_pos (show (stream.content.clientId != clientId) = true from hid), Option.map_some]
    · rw [if_neg hid, if_neg (show ¬(stream.content.clientId != clientId) = true from hid), Option.map_none]

theorem slot_receiveData (clientId seq : UInt32) (payload : Bytes) :
    (m.receiveData clientId sid seq payload).1.slot sid =
      some ((((m.slot sid).getD (Stream.fresh clientId 0)).adopt clientId).accept seq payload).1 := by
  rw [slot, receiveData_get, Option.map_some, Stream.content_accept, Stream.content_adopt, slot_streamOr]

theorem slot_readStream : (m.readStream sid).1 = ((m.slot sid).map Stream.recvBuf).getD [] ∧
    (m.readStream sid).2.slot sid = (m.slot sid).map fun stream => { stream with recvBuf := [] } := by
  unfold readStream
  cases hget : m.streams[sid]? with
  | none => simp [slot, hget]
  | some stream =>
    rw [slot_setStream, slot, hget]
    exact ⟨rfl, rfl⟩

theorem slot_waitForData : (m.waitForData sid).1.isNone =
      (let stream := (m.slot sid).getD (Stream.fresh m.clientId 0)
       decide (stream.recvBuf ≠ [] ∨ stream.closed)) ∧
    (m.waitForData sid).2.slot sid = some ((m.slot sid).getD (Stream.fresh m.clientId 0)) := by
  constructor
  · rw [← slot_streamOr, ← entryOrInsert_fst]
    unfold waitForData
    dsimp only [Stream.content]
    split_ifs with h
    · simp [h]
    · simp [h]
  · rw [waitForData_snd, slot, entryOrInsert_get, Option.map_some, slot_streamOr]

end Slot

/-! ### Operations on other streams -/

section Frame
variable (m : Multiplexer) {sid sid' : UInt16} (h : sid ≠ sid')
include h

theorem sendData_get_ne (send : SendFn) (data : Bytes) :
    (m.sendData send sid data).mux.streams[sid']? = m.streams[sid']? := by
  refine sendData_keeps (P := fun m' => m'.streams[sid']? = m.streams[sid']?) (fun m₁ seq m₂ h₁ halloc => ?_)
    rfl send data
  obtain ⟨stream, -, -, -, rfl⟩ := allocSeq_eq_some halloc
  rw [setStream_get_ne _ _ h, h₁]

theorem closeStream_get_ne (send : SendFn) :
    (m.closeStream send sid).mux.streams[sid']? = m.streams[sid']? := by
  unfold closeStream
  cases m.streams[sid]? with
  | none => rfl
  | some stream => exact setStream_get_ne _ _ h

theorem markClosed_get_ne (clientId : UInt32) :
    (m.markClosed sid clientId).1.streams[sid']? = m.streams[sid']? := by
  unfold markClosed
  cases m.streams[sid]? with
  | none => rfl
  | some stream =>
    dsimp only
    split_ifs
    · exact setStream_get_ne _ _ h
    · rfl

theorem readStream_get_ne : (m.readStream sid).2.streams[sid']? = m.streams[sid']? := by
  unfold readStream
  cases m.streams[sid]? with
  | none => rfl
  | some stream => exact setStream_get_ne _ _ h

theorem waitForData_get_ne : (m.waitForData sid).2.streams[sid']? = m.streams[sid']? := by
  rw [waitForData_snd, entryOrInsert_get_ne _ _ h]

end Frame

/-- Opening a stream leaves the entries of the others as they are. -/
theorem openStream_get_of_some {m m' : Multiplexer} {sid : UInt16} {stream : Stream}
    (hget : m.streams[sid]? = some stream) (hstep : m.perform .openStream = some m') :
    m'.streams[sid]? = m.streams[sid]? := by
  obtain ⟨⟨sid', m''⟩, hopened, rfl⟩ := Option.map_eq_some_iff.mp hstep
  obtain ⟨-, hfree, hstreams, -⟩ := openLoop_spec hopened
  have hne : sid' ≠ sid := fun heq => by rw [heq, hget] at hfree; cases hfree
  rw [hstreams, Std.ExtTreeMap.getElem?_insert]
  simp [hne]

/-- An operation that does not concern a stream leaves its entry as it is. -/
theorem perform_get_of_not_concerns {m m' : Multiplexer} {sid : UInt16} {op : Operation}
    (hopen : op.isOpen = false) (hop : ¬op.Concerns sid) (hstep : m.perform op = some m') :
    m'.streams[sid]? = m.streams[sid]? := by
  have hne : ∀ sid', op.sid? = some sid' → sid' ≠ sid := fun sid' hsid heq => hop (Or.inl (heq ▸ hsid))
  cases op with
  | openStream => cases hopen
  | sendData send sid' data => exact Option.some.inj hstep ▸ sendData_get_ne m (hne _ rfl) send data
  | closeStream send sid' => exact Option.some.inj hstep ▸ closeStream_get_ne m (hne _ rfl) send
  | sendClientReset send => rw [← Option.some.inj hstep, sendClientReset_mux]
  | readStream sid' => exact Option.some.inj hstep ▸ readStream_get_ne m (hne _ rfl)
  | waitForData sid' => exact Option.some.inj hstep ▸ waitForData_get_ne m (hne _ rfl)
  | handleFrame frame =>
    rw [← Option.some.inj hstep, handleFrame_classify]
    cases hkind : classify frame with
    | ignored => rfl
    | reset clientId => exact absurd (Or.inr (by simp [Operation.isReset, hkind])) hop
    | close sid' clientId => exact markClosed_get_ne m (hne sid' (by simp [Operation.sid?, hkind])) clientId
    | data sid' clientId seq payload =>
      exact receiveData_get_ne m clientId seq payload (hne sid' (by simp [Operation.sid?, hkind]))

/-- An entry that is there stays as it is through operations on other streams and `open_stream`. -/
theorem perform_get_of_some {m m' : Multiplexer} {sid : UInt16} {stream : Stream} {op : Operation}
    (hget : m.streams[sid]? = some stream) (hop : op.sid? ≠ some sid) (hreset : op.isReset = false)
    (hstep : m.perform op = some m') : m'.streams[sid]? = some stream := by
  rw [← hget]
  by_cases hopen : op.isOpen = true
  · cases op with
    | openStream => exact openStream_get_of_some hget hstep
    | _ => cases hopen
  · refine perform_get_of_not_concerns (Bool.eq_false_of_not_eq_true hopen) ?_ hstep
    rintro (hsid | hisreset)
    · exact hop hsid
    · rw [hreset] at hisreset
      cases hisreset

/-- What a call does to an entry that is there; a reset, which may remove it, is left out. -/
inductive EntryEffect (m : Multiplexer) (sid : UInt16) (stream : Stream) (m' : Multiplexer) : Operation → Prop
  | kept {op : Operation} (hget : m'.streams[sid]? = some stream) : EntryEffect m sid stream m' op
  | sent (send : SendFn) (data : Bytes) (hmux : m' = (m.sendData send sid data).mux) :
    EntryEffect m sid stream m' (.sendData send sid data)
  | closed (send : SendFn) (hget : m'.streams[sid]? = some { stream with closed := true })
      (hnotified : (m.closeStream send sid).notified = [stream.notify]) :
    EntryEffect m sid stream m' (.closeStream send sid)
  | read (hget : m'.streams[sid]? = some { stream with recvBuf := [] }) :
    EntryEffect m sid stream m' (.readStream sid)
  | closedByFrame {frame : Bytes} (hget : m'.streams[sid]? = some { stream with closed := true })
      (hnotified : (m.handleFrame frame).2 = [stream.notify]) :
    EntryEffect m sid stream m' (.handleFrame frame)
  | received {frame : Bytes} {clientId seq : UInt32} {payload : Bytes}
      (hkind : classify frame = .data sid clientId seq payload)
      (hframe : m.handleFrame frame = m.receiveData clientId sid seq payload)
      (hmux : m' = (m.receiveData clientId sid seq payload).1) :
    EntryEffect m sid stream m' (.handleFrame frame)

/-- A call on the stream does one of these to its entry, and any other call keeps it. -/
theorem perform_effect {m m' : Multiplexer} {sid : UInt16} {stream : Stream} {op : Operation}
    (hget : m.streams[sid]? = some stream) (hreset : op.isReset = false) (hstep : m.perform op = some m') :
    EntryEffect m sid stream m' op := by
  by_cases hop : op.sid? = some sid
  · cases op with
    | openStream => cases hop
    | sendClientReset send => cases hop
    | sendData send sid' data =>
      obtain rfl : sid' = sid := Option.some.inj hop
      exact .sent send data (Option.some.inj hstep).symm
    | closeStream send sid' =>
      obtain rfl : sid' = sid := Option.some.inj hop
      rw [perform, Option.some.injEq] at hstep
      refine .closed send ?_ ?_
      · rw [← hstep]
        simp [closeStream, hget]
      · simp [closeStream, hget]
    | readStream sid' =>
      obtain rfl : sid' = sid := Option.some.inj hop
      refine .read ?_
      rw [← Option.some.inj hstep]
      simp [readStream, hget]
    | waitForData sid' =>
      obtain rfl : sid' = sid := Option.some.inj hop
      refine .kept ?_
      rw [← Option.some.inj hstep, waitForData_snd, entryOrInsert_get, streamOr, hget, Option.getD_some]
    | handleFrame frame =>
      have hmux := (Option.some.inj hstep).symm
      have hframe := handleFrame_classify m frame
      cases hkind : classify frame with
      | ignored =>
        rw [hkind] at hframe
        exact .kept (by rw [hmux, hframe, hget])
      | reset clientId => simp [Operation.isReset, hkind] at hreset
      | close sid' clientId =>
        obtain rfl : sid' = sid := by simpa [Operation.sid?, hkind] using hop
        rw [hkind] at hframe
        by_cases hid : stream.clientId = clientId
        · refine .closedByFrame ?_ ?_
          · simp [hmux, hframe, markClosed, hget, hid]
          · simp [hframe, markClosed, hget, hid]
        · exact .kept (by simp [hmux, hframe, markClosed, hget, hid])
      | data sid' clientId seq payload =>
        obtain rfl : sid' = sid := by simpa [Operation.sid?, hkind] using hop
        rw [hkind] at hframe
        exact .received hkind hframe (by rw [hmux, hframe])
  · exact .kept (perform_get_of_some hget hop hreset hstep)

theorem perform_clientId {m m' : Multiplexer} {op : Operation} (hstep : m.perform op = some m') :
    m'.clientId = m.clientId := by
  cases op with
  | openStream =>
    obtain ⟨⟨sid, m''⟩, hopen, rfl⟩ := Option.map_eq_some_iff.mp hstep
    exact (openLoop_spec hopen).2.2.2
  | sendData send sid data =>
    refine Option.some.inj hstep ▸ sendData_keeps (P := fun m' => m'.clientId = m.clientId)
      (fun m₁ seq m₂ h₁ halloc => ?_) rfl send data
    obtain ⟨stream, -, -, -, rfl⟩ := allocSeq_eq_some halloc
    exact h₁
  | closeStream send sid =>
    rw [← Option.some.inj hstep, closeStream]
    cases m.streams[sid]? <;> rfl
  | sendClientReset send => rw [← Option.some.inj hstep, sendClientReset_mux]
  | readStream sid =>
    rw [← Option.some.inj hstep, readStream]
    cases m.streams[sid]? <;> rfl
  | waitForData sid =>
    rw [← Option.some.inj hstep, waitForData_snd, entryOrInsert_clientId]
  | handleFrame frame =>
    rw [← Option.some.inj hstep, handleFrame_classify]
    cases classify frame with
    | ignored => rfl
    | reset clientId => rfl
    | close sid clientId =>
      dsimp only [markClosed]
      cases m.streams[sid]? with
      | none => rfl
      | some stream => dsimp only; split_ifs <;> rfl
    | data sid clientId seq payload => exact entryOrInsert_clientId m sid clientId

end Multiplexer

end TauriVpn.Olcrtc
