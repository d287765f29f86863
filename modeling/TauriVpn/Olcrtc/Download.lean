import TauriVpn.Olcrtc.Upload

/-! From the far end of a stream to the client of the local proxy. The frames of the far end
come in any order, with repeats and omissions, among those of other streams; what the
connection reads are the payloads in the order of their numbers. It reads first for the answer
to its request, and of that read it keeps the first byte alone. -/

namespace TauriVpn.Olcrtc

open Receiver (frameAt)
open StepSystem

section Far
variable (sid : UInt16) (farId : UInt32) (payloads : List Bytes)

/-- A frame with nothing for the stream, or one that the far end sent on it. -/
def FromFar (frame : Bytes) : Prop :=
  payloadOn sid frame = none ∨ ∃ k < payloads.length, frame = frameAt farId sid payloads k

/-- A call of another task does not use the stream, and a frame that is handed in is from the
far end or has nothing for the stream, and does not reset what the far end has sent. -/
def Operation.FromFar (m : Multiplexer) : Operation → Prop
  | .sendData _ sid' _ | .readStream sid' => sid' ≠ sid
  | .handleFrame frame => Olcrtc.FromFar sid farId payloads frame ∧
      (classify frame = .reset farId → ∀ stream ∈ m.streams[sid]?, stream.clientId ≠ farId)
  | _ => True

instance (frame : Bytes) : Decidable (FromFar sid farId payloads frame) :=
  inferInstanceAs (Decidable (_ ∨ ∃ k < payloads.length, _))

instance (m : Multiplexer) : (op : Operation) → Decidable (op.FromFar sid farId payloads m)
  | .sendData _ sid' _ | .readStream sid' => inferInstanceAs (Decidable (sid' ≠ sid))
  | .handleFrame _ => inferInstanceAs (Decidable (_ ∧ (_ → ∀ stream ∈ m.streams[sid]?, _)))
  | .openStream | .closeStream _ _ | .sendClientReset _ | .waitForData _ => isTrue trivial

end Far

section Perform
variable {m m' : Multiplexer} {sid : UInt16} {farId : UInt32} {payloads : List Bytes} {read : Bytes}

/-- A call of another task. -/
theorem Multiplexer.Tracked.perform (h : m.Tracked sid farId payloads read) (hcount : payloads.length < 2 ^ 32)
    (hlegal : ∀ payload ∈ payloads, IsPayload sid payload) {op : Operation} (hfar : op.FromFar sid farId payloads m)
    (hm : m.perform op = some m') : m'.Tracked sid farId payloads read := by
  cases op with
  | openStream =>
    obtain ⟨b, htracks, hseen⟩ := h
    obtain ⟨opened, hopened, rfl⟩ := Option.map_eq_some_iff.mp hm
    exact ⟨b, htracks.openStream hopened, hseen⟩
  | sendData send sid' data =>
    obtain ⟨b, htracks, hseen⟩ := h
    obtain rfl := Option.some.inj hm
    exact ⟨b, htracks.of_get (sendData_get_ne m hfar send data), hseen⟩
  | closeStream send sid' =>
    obtain ⟨b, htracks, hseen⟩ := h
    exact ⟨b, Option.some.inj hm ▸ htracks.closeStream send sid', hseen⟩
  | sendClientReset send =>
    obtain rfl := Option.some.inj hm
    rwa [sendClientReset_mux]
  | handleFrame frame => exact Option.some.inj hm ▸ h.handleFrame hcount hlegal hfar.1 hfar.2
  | readStream sid' =>
    obtain ⟨b, htracks, hseen⟩ := h
    exact ⟨b, Option.some.inj hm ▸ htracks.readOther hfar, hseen⟩
  | waitForData sid' =>
    obtain ⟨b, htracks, hseen⟩ := h
    exact ⟨b, Option.some.inj hm ▸ htracks.waitForData sid', hseen⟩

end Perform

namespace Connection

/-- Once the stream is open, other tasks leave it to the far end. -/
def HearsFar (farId : UInt32) (payloads : List Bytes) (c : Connection) (e : ConnectionEvent) : Prop :=
  ∀ sid ∈ c.stream, ∀ op, e = .env op → op.FromFar sid farId payloads c.mux

instance (farId : UInt32) (payloads : List Bytes) (c : Connection) (e : ConnectionEvent) :
    Decidable (c.HearsFar farId payloads e) :=
  match e with
  | .env op =>
    haveI : Decidable (∀ sid ∈ c.stream, op.FromFar sid farId payloads c.mux) := Option.decidableForallMem c.stream
    decidable_of_iff (∀ sid ∈ c.stream, op.FromFar sid farId payloads c.mux)
      ⟨fun h sid hsid op' heq => ConnectionEvent.env.inj heq ▸ h sid hsid, fun h sid hsid => h sid hsid op rfl⟩
  | .prologue | .openStream | .number | .sent _ | .wait | .timeout | .read | .reply | .replyFail _ | .upload _
  | .uploadEnd | .down _ | .closeStream => isTrue fun _ _ _ heq => by cases heq

section Steps
variable {connectRequest : String → UInt16 → Bytes} {utf8Error : Bytes → String} {c c' : Connection}
  {e : ConnectionEvent} {incoming : Bytes} {farId : UInt32} {payloads : List Bytes}

/-- The connection reads its own stream. -/
theorem Hands.receiving {ok : Prop} (h : c.Hands connectRequest incoming ok) {sid : UInt16} (hreceiving : c.pc.receiving? = some sid) :
    c.stream = some sid := by
  unfold Hands at h
  cases hpc : c.pc with
  | reading sid' =>
    rw [hpc] at h hreceiving
    cases hreceiving
    exact h.stream
  | relaying sid' upload down =>
    rw [hpc] at h hreceiving
    cases hreceiving
    cases upload with
    | none => exact h.stream
    | some send => exact h.1.stream
  | prologue | opening | requesting | waiting | replying | refusing | closing | ended =>
    rw [hpc] at hreceiving
    cases hreceiving

/-- Nothing has been read before the stream is open, and then the payloads of the far end. -/
def Hears (farId : UInt32) (payloads : List Bytes) (c : Connection) : Prop :=
  match c.stream with
  | none => c.taken = []
  | some sid => (∀ payload ∈ payloads, IsPayload sid payload) → c.mux.Tracked sid farId payloads c.taken

theorem hears_none (hstream : c.stream = none) : c.Hears farId payloads ↔ c.taken = [] := by
  rw [Hears, hstream]

theorem hears_some {sid : UInt16} (hstream : c.stream = some sid) : c.Hears farId payloads ↔
    ((∀ payload ∈ payloads, IsPayload sid payload) → c.mux.Tracked sid farId payloads c.taken) := by
  rw [Hears, hstream]

/-- A step that reads nothing, and after which the stream represents what it did. -/
theorem Hears.of_tracked (h : c.Hears farId payloads) (hstream : c'.stream = c.stream) (htaken : c'.taken = c.taken)
    (htracked : ∀ sid, c.stream = some sid → (∀ payload ∈ payloads, IsPayload sid payload) →
      c.mux.Tracked sid farId payloads c.taken → c'.mux.Tracked sid farId payloads c.taken) :
    c'.Hears farId payloads := by
  cases hsid : c.stream with
  | none => exact (hears_none (hstream.trans hsid)).mpr (htaken.trans ((hears_none hsid).mp h))
  | some sid =>
    refine (hears_some (hstream.trans hsid)).mpr fun hlegal => ?_
    rw [htaken]
    exact htracked sid hsid hlegal ((hears_some hsid).mp h hlegal)

/-- Every step reads the payloads of the far end in their order. -/
theorem hears_step (hspeaks : c.Speaks connectRequest incoming) (h : c.Hears farId payloads) (hcount : payloads.length < 2 ^ 32)
    (hfar : c.HearsFar farId payloads e) (hstep : c.step connectRequest utf8Error e = some c') : c'.Hears farId payloads := by
  obtain ⟨hsaid, ok, hhands⟩ := hspeaks
  cases step_traffic hsaid hstep with
  | env op event mux stream frames taken =>
    exact h.of_tracked stream taken fun sid hsid hlegal htracked =>
      htracked.perform hcount hlegal (hfar sid hsid op event) mux
  | opened sid mux stream frames taken before =>
    obtain ⟨addr, port, hpc⟩ := before
    have hnothing : c.taken = [] := (hears_none (hhands.opening hpc).2).mp h
    refine (hears_some stream).mpr fun _ => ?_
    rw [taken, hnothing]
    exact (Multiplexer.openLoop_unused mux).tracked farId payloads
  | numbered sid' seq chunk rest sending mux stream frames taken =>
    exact h.of_tracked stream taken fun _ _ _ ⟨b, htracks, hseen⟩ => ⟨b, htracks.allocSeq mux, hseen⟩
  | closed sid' mux stream frames taken =>
    exact h.of_tracked stream taken fun _ _ _ ⟨b, htracks, hseen⟩ => ⟨b, mux ▸ htracks.closeStream _ sid', hseen⟩
  | waited sid' mux stream frames taken =>
    exact h.of_tracked stream taken fun _ _ _ ⟨b, htracks, hseen⟩ => ⟨b, mux ▸ htracks.waitForData sid', hseen⟩
  | read sid receiving mux stream frames taken =>
    have hsid := hhands.receiving receiving
    refine (hears_some (stream.trans hsid)).mpr fun hlegal => ?_
    obtain ⟨b, htracks, hseen⟩ := (hears_some hsid).mp h hlegal
    rw [taken, mux]
    exact ⟨b, htracks.readStream, hseen⟩
  | quiet mux stream frames taken => exact h.of_tracked stream taken fun _ _ _ htracked => mux ▸ htracked

end Steps

/-! ### Whole connections -/

section Runs
variable (connectRequest : String → UInt16 → Bytes) (utf8Error : Bytes → String) (mux : Multiplexer)
  (incoming : Bytes) (events : List ConnectionEvent)

/-- The far end has sent its payloads on the stream of the connection, and the frames reach the
multiplexer in any order, with repeats and omissions, among those of other streams. What the
connection has read for the answer to its request, what its download pump took after that and
what is buffered are the payloads before the expected number, in their order; and what it has
written to the client is a refusal, or a reply of success and the start of what the pump took. -/
theorem download_in_order (c : Connection) (sid : UInt16) (farId : UInt32) (payloads : List Bytes)
    (hcount : payloads.length < 2 ^ 32) (hlegal : ∀ payload ∈ payloads, IsPayload sid payload)
    (hfar : Guarded (step connectRequest utf8Error) (HearsFar farId payloads) (accepted mux incoming) events)
    (hrun : run (step connectRequest utf8Error) (accepted mux incoming) events = some c) (hopened : c.stream = some sid) :
    (c.mux.nextRecvSeq sid).toNat ≤ payloads.length ∧
      c.response ++ c.downloaded ++ c.mux.recvBuf sid = (payloads.take (c.mux.nextRecvSeq sid).toNat).flatten ∧
      (c.client.written <+: [5, 0] ++ replyHostUnreachable ∨
        c.client.written <+: [5, 0] ++ replySuccess ++ c.downloaded) := by
  have hstep : ∀ (c : Connection) e c', (c.Speaks connectRequest incoming ∧ c.Hears farId payloads) → c.HearsFar farId payloads e →
      step connectRequest utf8Error c e = some c' → c'.Speaks connectRequest incoming ∧ c'.Hears farId payloads :=
    fun _ _ _ h hfar hstep => ⟨h.1.step hstep, hears_step h.1 h.2 hcount hfar hstep⟩
  have hstart : (accepted mux incoming).Hears farId payloads := (hears_none rfl).mpr rfl
  obtain ⟨hspeaks, hhears⟩ :=
    run_invariant_of_guarded hstep ⟨speaks_accepted connectRequest mux incoming, hstart⟩ hfar hrun
  obtain ⟨hle, hbytes⟩ := ((hears_some hopened).mp hhears hlegal).delivered
  exact ⟨hle, hbytes, hspeaks.1.told.imp And.right id⟩

/-- The far end sends two bytes behind its answer, and the client gets them. -/
def oneDownload : List ConnectionEvent :=
  oneConnection.take 9 ++ [.env (.handleFrame (dataFrame 0 1 1 [7, 8])), .down .wait, .down .read, .down .write]

theorem download_in_order_one : ∃ c,
    run (step sampleRequest fun _ => "") (accepted (Multiplexer.new 9) oneClient) oneDownload = some c ∧
      c.response ++ c.downloaded ++ c.mux.recvBuf 1 =
        (([[0], [7, 8]] : List Bytes).take (c.mux.nextRecvSeq 1).toNat).flatten := by
  have hsome : (run (step sampleRequest fun _ => "") (accepted (Multiplexer.new 9) oneClient) oneDownload).map stream = some (some 1) := by
    decide +kernel
  obtain ⟨c, hrun, hstream⟩ := Option.map_eq_some_iff.mp hsome
  exact ⟨c, hrun, (download_in_order sampleRequest (fun _ => "") (Multiplexer.new 9) oneClient oneDownload c 1 0 [[0], [7, 8]]
    (by decide) (by decide) (by decide +kernel) hrun hstream).2.1⟩

end Runs
end Connection
end TauriVpn.Olcrtc
