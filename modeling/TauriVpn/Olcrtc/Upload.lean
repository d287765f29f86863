import TauriVpn.Olcrtc.Connection

/-! From a client of the local proxy to the far end of its stream. What the client sends goes
behind the request for its target, in frames with the numbers from 0 on, and the far end puts
them in order again: it reads the request and then what the client sent. -/

namespace TauriVpn.Olcrtc

open SequenceBuffer StepSystem

/-! ### What a step does to the numbers -/

/-- A call of another task neither sends on the stream nor hands in a frame that takes its
entry away. -/
def Operation.KeepsNumbers (sid : UInt16) (m : Multiplexer) : Operation → Prop
  | .sendData _ sid' _ => sid' ≠ sid
  | .handleFrame frame => m.KeepsNumbers sid frame
  | _ => True

instance (sid : UInt16) (m : Multiplexer) : (op : Operation) → Decidable (op.KeepsNumbers sid m)
  | .sendData _ sid' _ => inferInstanceAs (Decidable (sid' ≠ sid))
  | .handleFrame frame => inferInstanceAs (Decidable (m.KeepsNumbers sid frame))
  | .openStream | .closeStream _ _ | .sendClientReset _ | .readStream _ | .waitForData _ => isTrue trivial

theorem Multiplexer.sendSeq_perform {sid : UInt16} {m m' : Multiplexer} {op : Operation} (hkeeps : op.KeepsNumbers sid m)
    (h : m.perform op = some m') : m'.sendSeq sid = m.sendSeq sid := by
  cases op with
  | openStream =>
    obtain ⟨opened, hopened, rfl⟩ := Option.map_eq_some_iff.mp h
    exact sendSeq_openStream hopened
  | sendData send sid' data =>
    obtain rfl := Option.some.inj h
    exact sendSeq_of_get (sendData_get_ne m hkeeps send data)
  | closeStream send sid' => exact Option.some.inj h ▸ sendSeq_closeStream send
  | sendClientReset send =>
    obtain rfl := Option.some.inj h
    rw [sendClientReset_mux]
  | handleFrame frame => exact Option.some.inj h ▸ sendSeq_handleFrame hkeeps
  | readStream sid' => exact Option.some.inj h ▸ sendSeq_readStream
  | waitForData sid' => exact Option.some.inj h ▸ sendSeq_waitForData

/-- The stream that the connection reads next, for the answer or for the download pump. -/
def ConnectionPc.receiving? : ConnectionPc → Option UInt16
  | .reading sid | .relaying sid _ _ => some sid
  | _ => none

namespace Connection

/-- What the connection has read from its stream. -/
def taken (c : Connection) : Bytes := c.response ++ c.downloaded

/-- What a step does to the multiplexer, to the frames that were handed over and to what was
read from the stream. -/
inductive Traffic (c : Connection) (e : ConnectionEvent) (c' : Connection) : Prop
  | env (op : Operation) (event : e = .env op) (mux : c.mux.perform op = some c'.mux) (stream : c'.stream = c.stream)
      (frames : c'.frames = c.frames) (taken : c'.taken = c.taken)
  | opened (sid : UInt16) (mux : c.mux.openStream = some (sid, c'.mux)) (stream : c'.stream = some sid)
      (frames : c'.frames = c.frames) (taken : c'.taken = c.taken) (before : ∃ addr port, c.pc = .opening addr port)
  | numbered (sid : UInt16) (seq : UInt32) (chunk : Bytes) (rest : List Bytes)
      (sending : c.pc.sending? = some (sid, .numbering (chunk :: rest))) (mux : c.mux.allocSeq sid = some (seq, c'.mux))
      (stream : c'.stream = c.stream) (frames : c'.frames = c.frames ++ [dataFrame c'.mux.clientId sid seq chunk])
      (taken : c'.taken = c.taken)
  | closed (sid : UInt16) (mux : c'.mux = (c.mux.closeStream (fun _ => .ok ()) sid).mux) (stream : c'.stream = c.stream)
      (frames : c'.frames = c.frames ++ [closeFrame c.mux.clientId sid]) (taken : c'.taken = c.taken)
  | waited (sid : UInt16) (mux : c'.mux = (c.mux.waitForData sid).2) (stream : c'.stream = c.stream)
      (frames : c'.frames = c.frames) (taken : c'.taken = c.taken)
  | read (sid : UInt16) (receiving : c.pc.receiving? = some sid) (mux : c'.mux = (c.mux.readStream sid).2)
      (stream : c'.stream = c.stream) (frames : c'.frames = c.frames)
      (taken : c'.taken = c.taken ++ (c.mux.readStream sid).1)
  | quiet (mux : c'.mux = c.mux) (stream : c'.stream = c.stream) (frames : c'.frames = c.frames)
      (taken : c'.taken = c.taken)

section Steps
variable {connectRequest : String → UInt16 → Bytes} {utf8Error : Bytes → String} {c c' : Connection}
  {e : ConnectionEvent}

/-- The locked step of a `send_data`. -/
theorem number_traffic {sid : UInt16} {chunks : List Bytes} (hsending : c.pc.sending? = some (sid, .numbering chunks))
    (next : Option SendPc → ConnectionPc) : c.Traffic e (c.number sid chunks next) := by
  unfold number
  cases hnumber : numberChunk c.mux sid chunks with
  | none => exact .quiet rfl rfl rfl rfl
  | some numbered =>
    cases chunks with
    | nil => cases hnumber
    | cons chunk rest =>
      obtain ⟨alloc, halloc, rfl⟩ := Option.map_eq_some_iff.mp hnumber
      exact .numbered sid alloc.1 chunk rest hsending halloc rfl rfl rfl

/-- The step of the download pump. -/
theorem downStep_traffic {sid : UInt16} {upload : Option SendPc} {down : PumpPc} {pe : PumpEvent}
    (hpc : c.pc = .relaying sid upload down)
    (hstep : c.downStep sid upload ⟨c.mux, down, c.client.written⟩ pe = some c') : c.Traffic e c' := by
  obtain ⟨p, hp, rfl⟩ := Option.map_eq_some_iff.mp hstep
  have hquiet : ∀ pe, pe ≠ .read → c.downloaded ++ (if pe = PumpEvent.read then (c.mux.readStream sid).1 else []) =
      c.downloaded := fun pe hne => by rw [if_neg hne, List.append_nil]
  obtain ⟨-, rfl, pc, -, -, rfl⟩ | ⟨-, rfl, rfl⟩ | ⟨data, -, rfl, rfl⟩ | ⟨data, count, -, rfl, -, rfl⟩ | ⟨-, rfl, rfl⟩ :=
    Pump.step_cases hp
  · exact .waited sid rfl rfl rfl (congrArg (c.response ++ ·) (hquiet _ (by simp)))
  · exact .read sid (by rw [hpc]; rfl) rfl rfl rfl (List.append_assoc _ _ _).symm
  · exact .quiet rfl rfl rfl (congrArg (c.response ++ ·) (hquiet _ (by simp)))
  · exact .quiet rfl rfl rfl (congrArg (c.response ++ ·) (hquiet _ (by simp)))
  · exact .quiet rfl rfl rfl (congrArg (c.response ++ ·) (hquiet _ (by simp)))

theorem step_traffic (hsaid : c.Says) (hstep : c.step connectRequest utf8Error e = some c') : c.Traffic e c' := by
  have hquiet : ∀ {client pc uploaded}, c.Traffic e { c with client, pc, uploaded } := .quiet rfl rfl rfl rfl
  unfold Connection.step at hstep
  split at hstep
  case h_1 op =>
    obtain ⟨mux, hmux, rfl⟩ := Option.map_eq_some_iff.mp hstep
    exact .env op rfl hmux rfl rfl rfl
  case h_2 hpc =>
    split at hstep
    · exact Option.some.inj hstep ▸ hquiet
    · exact Option.some.inj hstep ▸ hquiet
  case h_3 addr port hpc =>
    obtain ⟨opened, hopened, rfl⟩ := Option.map_eq_some_iff.mp hstep
    exact .opened opened.1 hopened rfl rfl rfl ⟨addr, port, hpc⟩
  case h_4 sid chunks hpc => exact Option.some.inj hstep ▸ number_traffic (by rw [hpc]; rfl) _
  case h_6 sid hpc => exact Option.some.inj hstep ▸ .waited sid rfl rfl rfl rfl
  case h_8 sid hpc =>
    obtain rfl := Option.some.inj hstep
    rw [Says, hpc] at hsaid
    refine .read sid (by rw [hpc]; rfl) rfl rfl rfl ?_
    simp only [taken, hsaid.2, List.append_nil]
  case h_9 sid response hpc =>
    split_ifs at hstep
    · exact Option.some.inj hstep ▸ hquiet
    · exact Option.some.inj hstep ▸ hquiet
  case h_13 sid down count hpc =>
    dsimp only at hstep
    split_ifs at hstep
    exact Option.some.inj hstep ▸ hquiet
  case h_15 sid chunks down hpc => exact Option.some.inj hstep ▸ number_traffic (by rw [hpc]; rfl) _
  case h_17 sid upload down pe hpc => exact downStep_traffic hpc hstep
  case h_18 sid hpc => exact Option.some.inj hstep ▸ .closed sid rfl rfl rfl rfl
  case h_19 => cases hstep
  all_goals exact Option.some.inj hstep ▸ hquiet

/-! ### The numbers of a connection -/

variable {incoming : Bytes} {ok : Prop}

/-- A `send_data` works on the stream of the connection, in chunks that fit a frame. -/
theorem Hands.sending (h : c.Hands connectRequest incoming ok) {sid : UInt16} {send : SendPc}
    (hsending : c.pc.sending? = some (sid, send)) : c.stream = some sid ∧ send.Legal := by
  unfold Hands at h
  cases hpc : c.pc with
  | requesting sid' send' =>
    rw [hpc] at h hsending
    cases hsending
    exact ⟨h.1.stream, h.2⟩
  | relaying sid' upload down =>
    rw [hpc] at h hsending
    cases upload with
    | none => cases hsending
    | some send' =>
      cases hsending
      exact ⟨h.1.stream, h.2⟩
  | prologue | opening | waiting | reading | replying | refusing | closing | ended =>
    rw [hpc] at hsending
    cases hsending

theorem Hands.opening (h : c.Hands connectRequest incoming ok) {addr : String} {port : UInt16} (hpc : c.pc = .opening addr port) :
    c.frames = [] ∧ c.stream = none := by
  rw [Hands, hpc] at h
  exact h.2.1

/-- What holds of a connection wherever it stands, and whatever the other tasks do. -/
def Speaks (connectRequest : String → UInt16 → Bytes) (incoming : Bytes) (c : Connection) : Prop := c.Says ∧ ∃ ok, c.Hands connectRequest incoming ok

theorem Speaks.step (h : c.Speaks connectRequest incoming) (hstep : c.step connectRequest utf8Error e = some c') : c'.Speaks connectRequest incoming :=
  ⟨h.1.step hstep, h.2.elim fun _ hhands => ⟨_, hhands.step hstep⟩⟩

theorem speaks_accepted (connectRequest : String → UInt16 → Bytes) (mux : Multiplexer) (incoming : Bytes) :
    (accepted mux incoming).Speaks connectRequest incoming :=
  ⟨says_accepted mux incoming, True, hands_accepted connectRequest mux incoming⟩

/-- Other tasks leave the numbers of the connection's stream alone. -/
def KeepsNumbers (c : Connection) (e : ConnectionEvent) : Prop :=
  ∀ sid ∈ c.stream, ∀ op, e = .env op → op.KeepsNumbers sid c.mux

instance (c : Connection) (e : ConnectionEvent) : Decidable (c.KeepsNumbers e) :=
  match e with
  | .env op =>
    haveI : Decidable (∀ sid ∈ c.stream, op.KeepsNumbers sid c.mux) := Option.decidableForallMem c.stream
    decidable_of_iff (∀ sid ∈ c.stream, op.KeepsNumbers sid c.mux)
      ⟨fun h sid hsid op' heq => ConnectionEvent.env.inj heq ▸ h sid hsid, fun h sid hsid => h sid hsid op rfl⟩
  | .prologue | .openStream | .number | .sent _ | .wait | .timeout | .read | .reply | .replyFail _ | .upload _
  | .uploadEnd | .down _ | .closeStream => isTrue fun _ _ _ heq => by cases heq

/-- Every step numbers what is handed over on the stream. -/
theorem numbers_step (hspeaks : c.Speaks connectRequest incoming) (h : ∀ sid ∈ c.stream, c.mux.Numbers sid c.frames)
    (hkeeps : c.KeepsNumbers e) (hstep : c.step connectRequest utf8Error e = some c') :
    ∀ sid ∈ c'.stream, c'.mux.Numbers sid c'.frames := by
  intro sid hsid
  obtain ⟨hsaid, ok, hhands⟩ := hspeaks
  have hnothing : ∀ {frames : List Bytes}, frames = c.frames → frames = c.frames ++ [] := fun h => by
    rw [h, List.append_nil]
  cases step_traffic hsaid hstep with
  | env op event mux stream frames taken =>
    have hcounter := Multiplexer.sendSeq_perform (hkeeps sid (stream ▸ hsid) op event) mux
    exact (h sid (stream ▸ hsid)).other (hnothing frames) (by simp) (Multiplexer.perform_clientId mux) hcounter
  | opened sid' mux stream frames taken before =>
    obtain ⟨addr, port, hpc⟩ := before
    obtain rfl : sid' = sid := Option.some.inj (stream.symm.trans hsid)
    obtain ⟨-, hfree, -, -⟩ := Multiplexer.openLoop_spec mux
    rw [frames, (hhands.opening hpc).1]
    refine ⟨?_, by simp [payloadsOn], rfl⟩
    rw [Multiplexer.sendSeq_openStream mux, Multiplexer.sendSeq_none hfree]
    rfl
  | numbered sid' seq chunk rest sending mux stream frames taken =>
    obtain ⟨hstream, hlegal⟩ := hhands.sending sending
    obtain rfl : sid' = sid := Option.some.inj (hstream.symm.trans (stream ▸ hsid))
    obtain ⟨hpos, hsize⟩ := hlegal chunk List.mem_cons_self
    obtain ⟨entry, -, -, -, hmux⟩ := Multiplexer.allocSeq_eq_some mux
    have hclient : c'.mux.clientId = c.mux.clientId := by rw [hmux, Multiplexer.setStream_clientId]
    exact (h sid' (stream ▸ hsid)).numbered (IsPayload.of_chunk hpos hsize) mux hclient (hclient ▸ frames)
  | closed sid' mux stream frames taken =>
    have hclose : c.mux.perform (.closeStream (fun _ => .ok ()) sid') = some c'.mux := by rw [mux]; rfl
    refine (h sid (stream ▸ hsid)).other frames (by simp) (Multiplexer.perform_clientId hclose) ?_
    rw [mux, Multiplexer.sendSeq_closeStream]
  | waited sid' mux stream frames taken =>
    have hwait : c.mux.perform (.waitForData sid') = some c'.mux := congrArg some mux.symm
    exact (h sid (stream ▸ hsid)).other (hnothing frames) (by simp) (Multiplexer.perform_clientId hwait)
      (by rw [mux, Multiplexer.sendSeq_waitForData])
  | read sid' receiving mux stream frames taken =>
    have hread : c.mux.perform (.readStream sid') = some c'.mux := congrArg some mux.symm
    exact (h sid (stream ▸ hsid)).other (hnothing frames) (by simp) (Multiplexer.perform_clientId hread)
      (by rw [mux, Multiplexer.sendSeq_readStream])
  | quiet mux stream frames taken =>
    exact (h sid (stream ▸ hsid)).other (hnothing frames) (by simp) (by rw [mux]) (by rw [mux])

end Steps

/-! ### Both ends -/

section Runs
variable (connectRequest : String → UInt16 → Bytes) (utf8Error : Bytes → String) (mux : Multiplexer)
  (incoming : Bytes) (events : List ConnectionEvent)

/-- After a run in which the other tasks leave the numbers alone, what was handed over is numbered. -/
theorem numbers_run {connectRequest : String → UInt16 → Bytes} {utf8Error : Bytes → String} {mux : Multiplexer}
    {incoming : Bytes} {events : List ConnectionEvent} {c : Connection}
    (hkeeps : Guarded (step connectRequest utf8Error) KeepsNumbers (accepted mux incoming) events)
    (hrun : run (step connectRequest utf8Error) (accepted mux incoming) events = some c) :
    ∀ sid ∈ c.stream, c.mux.Numbers sid c.frames := by
  have hstep : ∀ (c : Connection) e c', (c.Speaks connectRequest incoming ∧ ∀ sid ∈ c.stream, c.mux.Numbers sid c.frames) →
      c.KeepsNumbers e → step connectRequest utf8Error c e = some c' →
      c'.Speaks connectRequest incoming ∧ ∀ sid ∈ c'.stream, c'.mux.Numbers sid c'.frames :=
    fun _ _ _ h hkeeps hstep => ⟨h.1.step hstep, numbers_step h.1 h.2 hkeeps hstep⟩
  have hstart : ∀ sid ∈ (accepted mux incoming).stream,
      (accepted mux incoming).mux.Numbers sid (accepted mux incoming).frames := fun sid hsid => by cases hsid
  exact (run_invariant_of_guarded hstep ⟨speaks_accepted connectRequest mux incoming, hstart⟩ hkeeps hrun).2

/-- The far end of the stream, which the frames of the connection reach in any order, with
repeats and omissions, and which is read at any time: it reads the request for the target of
the client and what the client sent behind it, as far as frames have arrived without a gap. It
has all of both once every frame has arrived and none was refused, where the connection is
between two calls of `send_data`. -/
theorem upload_arrives (c : Connection) (sid : UInt16)
    (hopen : Guarded (step connectRequest utf8Error) FindsOpen (accepted mux incoming) events)
    (hkeeps : Guarded (step connectRequest utf8Error) KeepsNumbers (accepted mux incoming) events)
    (hrun : run (step connectRequest utf8Error) (accepted mux incoming) events = some c) (hopened : c.stream = some sid)
    (hcount : (payloadsOn sid c.frames).length < 2 ^ 32) (rx : Multiplexer) (hrx : rx.Unused sid)
    (arrivals : List Arrival) (harrive : ∀ frame, .frame frame ∈ arrivals → frame ∈ c.frames) :
    let far := Receiver.run sid ⟨rx, []⟩ arrivals
    ∃ p : Prologue, incoming = p.bytes ++ (c.uploaded ++ c.client.incoming) ∧
      far.read ++ far.mux.recvBuf sid <+: connectRequest p.address.text p.port ++ c.uploaded ∧
      ((∀ frame ∈ c.frames, .frame frame ∈ arrivals) → Receiver.NeverRefuses ⟨rx, []⟩ sid arrivals →
        c.pc ≠ .ended → c.pc.sending? = none → (∀ sid, c.pc ≠ .closing sid) →
        far.read ++ far.mux.recvBuf sid = connectRequest p.address.text p.port ++ c.uploaded) := by
  intro far
  have hhands := hands_run hrun
  have hnumbers : c.mux.Numbers sid c.frames := numbers_run hkeeps hrun sid hopened
  have hsent : ∀ frame, .frame frame ∈ arrivals →
      frame ∈ framesFrom c.mux.clientId sid 0 (payloadsOn sid c.frames) ∨ frame = closeFrame c.mux.clientId sid := by
    intro frame hframe
    have hmem := harrive frame hframe
    obtain hdata | hclose := hhands.mem_frames hopened hmem
    · exact Or.inl (Receiver.mem_framesFrom_iff.mpr ((hnumbers.cases hmem).resolve_left hdata))
    · exact Or.inr hclose
  obtain ⟨b, htracks, hseen, -, hall⟩ :=
    Receiver.run_tracks hcount hnumbers.legal (hrx.tracks c.mux.clientId _) arrivals hsent
  obtain ⟨hbytes, -⟩ := htracks.delivered
  have hle : b.next ≤ (payloadsOn sid c.frames).length :=
    Buffer.next_le_of_seen_subset fun i hi => Finset.mem_range.mpr (hseen i hi).1
  rw [Receiver.segment_payloadAt _ hle] at hbytes
  obtain ⟨p, hp, hfirst, hwhole⟩ := hhands.uploaded ⟨trivial, hopen⟩ hopened
  refine ⟨p, hp, ?_, fun heach hnever hrunning hidle hclosing => ?_⟩
  · rw [hbytes]
    refine List.IsPrefix.trans ?_ hfirst
    refine ⟨((payloadsOn sid c.frames).drop b.next).flatten, ?_⟩
    rw [← List.flatten_append, List.take_append_drop]
  · have hcover : Finset.range (payloadsOn sid c.frames).length ⊆ b.seen := fun i hi => by
      have hi := Finset.mem_range.mp hi
      refine hall hnever i hi (heach _ ?_)
      have hframe : Receiver.frameAt c.mux.clientId sid (payloadsOn sid c.frames) i ∈
          framesFrom c.mux.clientId sid 0 (payloadsOn sid c.frames) := Receiver.mem_framesFrom_iff.mpr ⟨i, hi, rfl⟩
      rw [← hnumbers.frames] at hframe
      exact (List.mem_filter.mp hframe).1
    rw [hbytes, List.take_of_length_le (Buffer.le_next_of_subset_seen hcover), hwhole hrunning hidle hclosing]

/-- One connection with both of its uploads handed over; the frames come in the other order,
the request's twice. -/
theorem upload_arrives_one : ∃ c, ∃ p : Prologue,
    run (step sampleRequest fun _ => "") (accepted (Multiplexer.new 9) oneClient) (oneConnection.take 12) = some c ∧
      oneClient = p.bytes ++ (c.uploaded ++ c.client.incoming) ∧
      let far := Receiver.run 1 ⟨Multiplexer.new 0, []⟩
        (c.frames.reverse.map .frame ++ [.read] ++ (c.frames.take 1).map .frame)
      far.read ++ far.mux.recvBuf 1 <+: sampleRequest p.address.text p.port ++ c.uploaded := by
  have hsome : (run (step sampleRequest fun _ => "") (accepted (Multiplexer.new 9) oneClient) (oneConnection.take 12)).map
      (fun c => (c.stream, (payloadsOn 1 c.frames).length)) = some (some 1, 2) := by decide +kernel
  obtain ⟨c, hrun, hc⟩ := Option.map_eq_some_iff.mp hsome
  obtain ⟨hstream, hlength⟩ := Prod.mk.inj hc
  have harrive : ∀ frame, .frame frame ∈ c.frames.reverse.map Arrival.frame ++ [.read] ++ (c.frames.take 1).map .frame →
      frame ∈ c.frames := by
    intro frame hframe
    simp only [List.mem_append, List.mem_map, List.mem_reverse, Arrival.frame.injEq, exists_eq_right,
      List.mem_singleton, reduceCtorEq, or_false] at hframe
    exact hframe.elim id fun h => List.mem_of_mem_take h
  obtain ⟨p, hp, hfirst, -⟩ := upload_arrives sampleRequest (fun _ => "") (Multiplexer.new 9) oneClient (oneConnection.take 12) c 1
    (by decide +kernel) (by decide +kernel) hrun hstream (by rw [hlength]; decide) (Multiplexer.new 0)
    (Or.inl (by decide)) _ harrive
  exact ⟨c, p, hrun, hp, hfirst⟩

end Runs
end Connection
end TauriVpn.Olcrtc
