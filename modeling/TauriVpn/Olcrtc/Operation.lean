import TauriVpn.Lib.StepSystem
import TauriVpn.Olcrtc.Sender

/-! The operations of a multiplexer as one type, and the rules by which a
property of every entry of the stream table is carried through each of them. -/

namespace TauriVpn.Olcrtc

/-- A call on the multiplexer. Sending carries the outcome of the transport; a
`wait_for_data` is one iteration of its loop. -/
inductive Operation where
  | openStream
  | sendData (send : SendFn) (sid : UInt16) (data : Bytes)
  | closeStream (send : SendFn) (sid : UInt16)
  | sendClientReset (send : SendFn)
  | handleFrame (frame : Bytes)
  | readStream (sid : UInt16)
  | waitForData (sid : UInt16)

namespace Multiplexer

/-- The multiplexer after the call; `none` when `open_stream` does not return. -/
def perform (m : Multiplexer) : Operation → Option Multiplexer
  | .openStream => m.openStream.map Prod.snd
  | .sendData send sid data => some (m.sendData send sid data).mux
  | .closeStream send sid => some (m.closeStream send sid).mux
  | .sendClientReset send => some (m.sendClientReset send).mux
  | .handleFrame frame => some (m.handleFrame frame).1
  | .readStream sid => some (m.readStream sid).2
  | .waitForData sid => some (m.waitForData sid).2

/-! ### A property of every entry -/

def Each (m : Multiplexer) (P : UInt16 → Stream → Prop) : Prop :=
  ∀ sid stream, m.streams[sid]? = some stream → P sid stream

section Each
variable {m : Multiplexer} {P : UInt16 → Stream → Prop} {sid : UInt16}

theorem each_new (clientId : UInt32) : (new clientId).Each P := by
  intro sid stream h
  simp [new] at h

theorem Each.insert (h : m.Each P) {stream : Stream} (hs : P sid stream) {m' : Multiplexer}
    (hm : m'.streams = m.streams.insert sid stream) : m'.Each P := by
  intro sid' stream' hget
  rw [hm, Std.ExtTreeMap.getElem?_insert] at hget
  simp only [Std.compare_eq_iff_eq] at hget
  split_ifs at hget with heq
  · rw [← heq, ← Option.some.inj hget]
    exact hs
  · exact h sid' stream' hget

theorem Each.setStream (h : m.Each P) {stream : Stream} (hs : P sid stream) :
    (m.setStream sid stream).Each P := h.insert hs rfl

theorem Each.entryOrInsert (h : m.Each P) {clientId : UInt32}
    (hfresh : m.streams[sid]? = none → P sid (Stream.fresh clientId m.nextNotify)) :
    P sid (m.entryOrInsert sid clientId).1 ∧ (m.entryOrInsert sid clientId).2.Each P := by
  unfold Multiplexer.entryOrInsert
  cases hget : m.streams[sid]? with
  | none => exact ⟨hfresh hget, h.insert (hfresh hget) rfl⟩
  | some stream => exact ⟨h sid stream hget, h⟩

theorem Each.openStream (h : m.Each P) (hfresh : ∀ sid notify, P sid (Stream.fresh 0 notify))
    {m' : Multiplexer} (hopen : m.openStream = some (sid, m')) : m'.Each P :=
  h.insert (hfresh sid m.nextNotify) (openLoop_spec hopen).2.2.1

theorem Each.sendData (h : m.Each P)
    (hnext : ∀ stream, P sid stream → P sid { stream with nextSendSeq := stream.nextSendSeq + 1 })
    (send : SendFn) (data : Bytes) : (m.sendData send sid data).mux.Each P := by
  refine sendData_keeps (P := fun m => m.Each P) (fun m seq m' h halloc => ?_) h send data
  obtain ⟨stream, hget, -, -, rfl⟩ := allocSeq_eq_some halloc
  exact h.setStream (hnext stream (h sid stream hget))

theorem Each.closeStream (h : m.Each P)
    (hclose : ∀ stream, P sid stream → P sid { stream with closed := true }) (send : SendFn) :
    (m.closeStream send sid).mux.Each P := by
  unfold Multiplexer.closeStream
  cases hget : m.streams[sid]? with
  | none => exact h
  | some stream => exact h.setStream (hclose stream (h sid stream hget))

theorem sendClientReset_mux (m : Multiplexer) (send : SendFn) : (m.sendClientReset send).mux = m := by
  unfold sendClientReset
  split_ifs <;> rfl

theorem Each.markClosed (h : m.Each P)
    (hclose : ∀ stream, P sid stream → P sid { stream with closed := true }) (clientId : UInt32) :
    (m.markClosed sid clientId).1.Each P := by
  unfold Multiplexer.markClosed
  cases hget : m.streams[sid]? with
  | none => exact h
  | some stream =>
    dsimp only
    split_ifs
    · exact h.setStream (hclose stream (h sid stream hget))
    · exact h

theorem resetClient_get (m : Multiplexer) (clientId : UInt32) (sid : UInt16) :
    (m.resetClient clientId).1.streams[sid]? =
      m.streams[sid]?.filter fun stream => stream.clientId != clientId := by
  simp [resetClient]

theorem Each.resetClient (h : m.Each P) (clientId : UInt32) : (m.resetClient clientId).1.Each P := by
  intro sid stream hget
  rw [resetClient_get, Option.filter_eq_some_iff] at hget
  exact h sid stream hget.1

theorem Each.receiveData (h : m.Each P) {clientId seq : UInt32} {payload : Bytes}
    (hfresh : m.streams[sid]? = none → P sid (Stream.fresh clientId m.nextNotify))
    (haccept : ∀ stream, P sid stream → P sid ((stream.adopt clientId).accept seq payload).1) :
    (m.receiveData clientId sid seq payload).1.Each P := by
  obtain ⟨hstream, hm⟩ := h.entryOrInsert hfresh
  exact hm.setStream (haccept _ hstream)

/-- A frame marks a stream closed, resets a client or delivers a payload of the length that
its header gives. -/
theorem Each.handleFrame (h : m.Each P) (frame : Bytes)
    (hclose : ∀ sid stream, P sid stream → P sid { stream with closed := true })
    (hfresh : ∀ sid notify, P sid (Stream.fresh (frameClientId frame) notify))
    (haccept : ∀ sid stream seq payload, 0 < payload.length → payload.length < 65536 → P sid stream →
      P sid ((stream.adopt (frameClientId frame)).accept seq payload).1) :
    (m.handleFrame frame).1.Each P := by
  unfold Multiplexer.handleFrame
  split_ifs
  · exact h
  · cases parseControlFrame frame with
    | some control =>
      dsimp only
      split_ifs
      · exact h.resetClient _
      · exact h
    | none =>
      dsimp only
      split_ifs with hzero hcut
      · exact h.markClosed (hclose _) _
      · exact h
      · have hlength := framePayload_length (Nat.le_of_not_lt hcut)
        have hlt : (frameLength frame).toNat < 65536 := (frameLength frame).toNat_lt
        exact h.receiveData (fun _ => hfresh _ _) fun stream => haccept _ stream _ _ (by omega) (by omega)

theorem Each.readStream (h : m.Each P)
    (hread : ∀ stream, P sid stream → P sid { stream with recvBuf := [] }) :
    (m.readStream sid).2.Each P := by
  unfold Multiplexer.readStream
  cases hget : m.streams[sid]? with
  | none => exact h
  | some stream => exact h.setStream (hread stream (h sid stream hget))

theorem Each.waitForData (h : m.Each P)
    (hfresh : m.streams[sid]? = none → P sid (Stream.fresh m.clientId m.nextNotify)) :
    (m.waitForData sid).2.Each P := by
  rw [waitForData_snd]
  exact (h.entryOrInsert hfresh).2

end Each

end Multiplexer

end TauriVpn.Olcrtc
