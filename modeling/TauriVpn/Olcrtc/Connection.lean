import TauriVpn.Olcrtc.Channel
import TauriVpn.Olcrtc.Socks5
import TauriVpn.Olcrtc.Tunnel

/-! One connection of the local proxy, from the handshake to the close of its stream. Two
pumps run side by side, and the one that ends first takes the other with it; between any two
of its awaits everything else that works on the multiplexer may take a turn. -/

namespace TauriVpn.Olcrtc

open Fallible StepSystem

/-! ### The machine -/

/-- A `send_data` on its way: it takes the lock for its next chunk, or waits for the transport. -/
inductive SendPc where
  | numbering (chunks : List Bytes)
  | awaiting (rest : List Bytes)

/-- The bytes that have no number yet. -/
def SendPc.left : SendPc → Bytes
  | .numbering chunks => chunks.flatten
  | .awaiting rest => rest.flatten

def SendPc.start (data : Bytes) : SendPc := .numbering (Chunking.chunks chunkSize data)

/-- Where `handle_socks5` stands. -/
inductive ConnectionPc where
  | prologue
  | opening (addr : String) (port : UInt16)
  | requesting (sid : UInt16) (send : SendPc)
  | waiting (sid : UInt16)
  | reading (sid : UInt16)
  | replying (sid : UInt16) (response : Bytes)
  | refusing (sid : UInt16)
  | relaying (sid : UInt16) (upload : Option SendPc) (down : PumpPc)
  | closing (sid : UInt16)
  | ended

/-- `env` is a call on the multiplexer that another task makes. -/
inductive ConnectionEvent where
  | prologue
  | openStream
  | number
  | sent (succeeds : Bool)
  | wait
  | timeout
  | read
  | reply
  | replyFail (count : ℕ)
  | upload (count : ℕ)
  | uploadEnd
  | down (e : PumpEvent)
  | closeStream
  | env (op : Operation)

/-- A connection. The last fields are its history: the stream that it opened, the frames that
it handed to the transport, the bytes that the upload pump took, those that it read as the
answer to its request, and those that the download pump took. -/
structure Connection where
  mux : Multiplexer
  client : ClientStream
  pc : ConnectionPc := .prologue
  stream : Option UInt16 := none
  frames : List Bytes := []
  uploaded : Bytes := []
  response : Bytes := []
  downloaded : Bytes := []

/-- `vec![0_u8; 16 * 1024]`. -/
def uploadBufferSize : ℕ := 16 * 1024

namespace Connection

/-- The locked step of a `send_data`: the frame of the next chunk, or nothing when the call
returns. -/
def numberChunk (m : Multiplexer) (sid : UInt16) : List Bytes → Option (Multiplexer × Bytes × SendPc)
  | [] => none
  | chunk :: rest => (m.allocSeq sid).map fun (seq, m) => (m, dataFrame m.clientId sid seq chunk, .awaiting rest)

/-- The connection after the locked step of its `send_data`; `next` says where it goes on. -/
def number (s : Connection) (sid : UInt16) (chunks : List Bytes) (next : Option SendPc → ConnectionPc) : Connection :=
  match numberChunk s.mux sid chunks with
  | some (mux, frame, send) => { s with mux, frames := s.frames ++ [frame], pc := next (some send) }
  | none => { s with pc := next none }

/-- The reply goes to the client, and the connection goes on. -/
def answer (s : Connection) (bytes : Bytes) (pc : ConnectionPc) : Connection :=
  { s with client.written := s.client.written ++ bytes, pc }

/-- The step of the download pump; the connection closes its stream where the pump ends. -/
def downStep (s : Connection) (sid : UInt16) (upload : Option SendPc) (pump : Pump) (e : PumpEvent) :
    Option Connection :=
  (pump.step sid e).map fun p => { s with
    mux := p.mux
    client.written := p.written
    downloaded := s.downloaded ++ (if e = .read then (pump.mux.readStream sid).1 else [])
    pc := match p.pc with
      | .exited _ => .closing sid
      | down => .relaying sid upload down }

variable (connectRequest : String → UInt16 → Bytes) (utf8Error : Bytes → String)

/-- `connectRequest` is the text that `json!` makes of the address and the port. -/
def step (s : Connection) (e : ConnectionEvent) : Option Connection :=
  match s.pc, e with
  | _, .env op => (s.mux.perform op).map fun mux => { s with mux }
  | .prologue, .prologue =>
    match exec (socks5Prologue utf8Error) s.client with
    | (.ok (addr, port), client) => some { s with client, pc := .opening addr port }
    | (.error _, client) => some { s with client, pc := .ended }
  | .opening addr port, .openStream => s.mux.openStream.map fun (sid, mux) =>
      { s with mux, stream := some sid, pc := .requesting sid (.start (connectRequest addr port)) }
  | .requesting sid (.numbering chunks), .number => some (s.number sid chunks fun
      | some send => .requesting sid send
      | none => .waiting sid)
  | .requesting sid (.awaiting rest), .sent succeeds =>
    some { s with pc := if succeeds then .requesting sid (.numbering rest) else .closing sid }
  | .waiting sid, .wait => some { s with
      mux := (s.mux.waitForData sid).2
      pc := if (s.mux.waitForData sid).1.isSome then .waiting sid else .reading sid }
  | .waiting sid, .timeout => some { s with pc := .refusing sid }
  | .reading sid, .read => some { s with
      mux := (s.mux.readStream sid).2
      response := s.response ++ (s.mux.readStream sid).1
      pc := .replying sid (s.mux.readStream sid).1 }
  | .replying sid response, .reply =>
    if response.head? = some 0x00 then some (s.answer replySuccess (.relaying sid none .waiting))
    else some (s.answer replyHostUnreachable (.closing sid))
  | .replying sid response, .replyFail count =>
    let reply := if response.head? = some 0x00 then replySuccess else replyHostUnreachable
    some (s.answer (reply.take count) (.closing sid))
  | .refusing sid, .reply => some (s.answer replyHostUnreachable (.closing sid))
  | .refusing sid, .replyFail count => some (s.answer (replyHostUnreachable.take count) (.closing sid))
  | .relaying sid none down, .upload count =>
    let data := s.client.incoming.take count
    if 0 < data.length ∧ count ≤ uploadBufferSize then
      some { s with
        client.incoming := s.client.incoming.drop count
        uploaded := s.uploaded ++ data
        pc := .relaying sid (some (.start data)) down }
    else none
  | .relaying sid none _, .uploadEnd => some { s with pc := .closing sid }
  | .relaying sid (some (.numbering chunks)) down, .number => some (s.number sid chunks fun send =>
      .relaying sid send down)
  | .relaying sid (some (.awaiting rest)) down, .sent succeeds =>
    some { s with pc := if succeeds then .relaying sid (some (.numbering rest)) down else .closing sid }
  | .relaying sid upload down, .down e => s.downStep sid upload ⟨s.mux, down, s.client.written⟩ e
  | .closing sid, .closeStream => some { s with
      mux := (s.mux.closeStream (fun _ => .ok ()) sid).mux
      frames := s.frames ++ [closeFrame s.mux.clientId sid]
      pc := .ended }
  | _, _ => none

end Connection

/-! ### What the prologue writes -/

theorem readExact_written (n : ℕ) (stream : ClientStream) : (exec (readExact n) stream).2.written = stream.written := by
  rw [exec_readExact]
  split_ifs <;> rfl

section Prologue
variable {utf8Error : Bytes → String}

theorem readAddr_written (kind : UInt8) (stream : ClientStream) :
    (exec (readAddr utf8Error kind) stream).2.written = stream.written := by
  unfold readAddr
  split_ifs
  · exact exec_bind_keeps (readExact_written 4) (fun _ _ => rfl) stream
  · refine exec_bind_keeps (readExact_written 1) (fun len => ?_) stream
    refine exec_bind_keeps (readExact_written _) fun domain t => ?_
    cases FormUrlencoded.fromUtf8 domain with
    | none => rfl
    | some text => rfl
  · exact exec_bind_keeps (readExact_written 16) (fun _ _ => rfl) stream
  · rfl

theorem socks5Request_written (stream : ClientStream) :
    (exec (socks5Request utf8Error) stream).2.written = stream.written := by
  refine exec_bind_keeps (readExact_written 4) (fun header => ?_) stream
  have hrest : ∀ t, (exec (readAddr utf8Error (header.getD 3 0) >>= fun addr => do
      let port ← readExact 2
      return (addr, u16FromBeBytes port)) t).2.written = t.written :=
    exec_bind_keeps (readAddr_written _) fun addr => exec_bind_keeps (readExact_written 2) fun _ _ => rfl
  intro t
  split_ifs
  · rfl
  · exact hrest t

theorem readExact_write (n : ℕ) (stream : ClientStream) : (exec (readExact n) stream).2.write = stream.write := by
  rw [exec_readExact]
  split_ifs <;> rfl

/-- The handshake writes its answer last. -/
theorem socks5Handshake_written {stream stream' : ClientStream} (hwrite : stream.write = .ok ()) {error : VpnError}
    (h : exec socks5Handshake stream = (.error error, stream')) : stream'.written = stream.written := by
  rw [socks5Handshake] at h
  have hheader := readExact_written 2 stream
  have hopen := readExact_write 2 stream
  rcases hexec : exec (readExact 2) stream with ⟨_ | header, t⟩
  · rw [exec_bind_error hexec] at h
    rw [hexec] at hheader
    exact (Prod.mk.inj h).2 ▸ hheader
  · rw [exec_bind_ok hexec] at h
    rw [hexec] at hheader hopen
    split_ifs at h
    · exact (Prod.mk.inj h).2 ▸ hheader
    · have hmethods := readExact_written (header.getD 1 0).toNat t
      have hopen' := readExact_write (header.getD 1 0).toNat t
      rcases hexec' : exec (readExact (header.getD 1 0).toNat) t with ⟨_ | methods, t'⟩
      · rw [exec_bind_error hexec'] at h
        rw [hexec'] at hmethods
        exact (Prod.mk.inj h).2 ▸ hmethods.trans hheader
      · rw [exec_bind_ok hexec'] at h
        rw [hexec'] at hopen'
        have hanswer : exec (writeAll [5, 0]) t' = (.ok (), { t' with written := t'.written ++ [5, 0] }) :=
          (writeAll_eq_ok_iff (hopen'.trans (hopen.trans hwrite))).mpr rfl
        rw [hanswer] at h
        cases h

/-- The answer to the handshake is all that the prologue writes. -/
theorem socks5Prologue_written {stream stream' : ClientStream} (hwrite : stream.write = .ok ())
    {result : Except VpnError (String × UInt16)} (h : exec (socks5Prologue utf8Error) stream = (result, stream')) :
    stream'.written = stream.written ∨ stream'.written = stream.written ++ [5, 0] := by
  rw [socks5Prologue] at h
  rcases hexec : exec socks5Handshake stream with ⟨error | ⟨⟩, t⟩
  · rw [exec_bind_error hexec] at h
    exact Or.inl ((Prod.mk.inj h).2 ▸ socks5Handshake_written hwrite hexec)
  · obtain ⟨methods, rest, -, -, rfl⟩ := (socks5Handshake_eq_ok_iff hwrite).mp hexec
    rw [exec_bind_ok hexec] at h
    right
    have hrequest : (exec (socks5Request utf8Error)
        { stream with incoming := rest, written := stream.written ++ [5, 0] }).2.written = stream.written ++ [5, 0] :=
      socks5Request_written _
    rw [h] at hrequest
    exact hrequest

end Prologue

/-! ### What the client is told -/

namespace Connection

/-- At the end: a refusal, or success and then data that the download pump took. -/
def Told (c : Connection) : Prop :=
  (c.downloaded = [] ∧ c.client.written <+: [5, 0] ++ replyHostUnreachable) ∨
    c.client.written <+: [5, 0] ++ replySuccess ++ c.downloaded

/-- What has been written to the client, by where the connection stands. -/
def Says (c : Connection) : Prop :=
  match c.pc with
  | .prologue => c.client.write = .ok () ∧ c.client.written = [] ∧ c.downloaded = []
  | .relaying _ _ down => ∃ data, c.client.written = [5, 0] ++ replySuccess ++ data ∧ data ++ down.inHand = c.downloaded
  | .closing _ | .ended => c.Told
  | _ => c.client.written = [5, 0] ∧ c.downloaded = []

section Said
variable {connectRequest : String → UInt16 → Bytes} {utf8Error : Bytes → String} {c c' : Connection}
  {e : ConnectionEvent}

/-- A reply, whole or cut off, after the answer to the handshake. -/
theorem told_refusal (count : ℕ) (hwritten : c.client.written = [5, 0] ++ replyHostUnreachable.take count)
    (hdownloaded : c.downloaded = []) : c.Told := by
  refine Or.inl ⟨hdownloaded, ?_⟩
  rw [hwritten]
  exact (List.prefix_append_right_inj _).mpr (List.take_prefix _ _)

theorem told_success (count : ℕ) (hwritten : c.client.written = [5, 0] ++ replySuccess.take count) : c.Told := by
  refine Or.inr ?_
  rw [hwritten, List.append_assoc]
  exact (List.prefix_append_right_inj _).mpr ((List.take_prefix _ _).trans (List.prefix_append _ _))

theorem told_relaying {down : PumpPc} {data : Bytes} (hwritten : c.client.written = [5, 0] ++ replySuccess ++ data)
    (hdata : data ++ down.inHand = c.downloaded) : c.Told := by
  refine Or.inr ?_
  rw [hwritten, ← hdata, ← List.append_assoc]
  exact List.prefix_append _ _

/-- The pump writes what it has in its hand, or a part of that where the writing fails. -/
theorem downStep_says {sid : UInt16} {upload : Option SendPc} {down : PumpPc} {pe : PumpEvent} {data : Bytes}
    (hwritten : c.client.written = [5, 0] ++ replySuccess ++ data) (hdata : data ++ down.inHand = c.downloaded)
    (hstep : c.downStep sid upload ⟨c.mux, down, c.client.written⟩ pe = some c') : c'.Says := by
  obtain ⟨p, hp, rfl⟩ := Option.map_eq_some_iff.mp hstep
  obtain ⟨hpc, rfl, pc, hhand, hclosed, rfl⟩ | ⟨hpc, rfl, rfl⟩ | ⟨hand, hpc, rfl, rfl⟩ |
    ⟨hand, count, hpc, rfl, -, rfl⟩ | ⟨hpc, rfl, rfl⟩ := Pump.step_cases hp
  · cases hpc
    cases pc with
    | exited exit =>
      cases exit with
      | closed => exact absurd rfl hclosed
      | writeFailed =>
        refine Or.inr ⟨[], ?_⟩
        simp only [hwritten, ← hdata, PumpPc.inHand_waiting, List.append_nil]
        simp
    | waiting => exact ⟨data, hwritten, by simpa using hdata⟩
    | reading => exact ⟨data, hwritten, by simpa using hdata⟩
    | writing hand => exact ⟨data, hwritten, by simp only [hhand]; simpa using hdata⟩
    | testing => exact ⟨data, hwritten, by simpa using hdata⟩
  · cases hpc
    refine ⟨data, hwritten, ?_⟩
    rw [PumpPc.inHand_reading, List.append_nil] at hdata
    simp [hdata]
  · cases hpc
    refine ⟨data ++ hand, ?_, ?_⟩
    · show c.client.written ++ hand = _
      rw [hwritten, List.append_assoc]
    · simpa using hdata
  · cases hpc
    refine Or.inr ?_
    show c.client.written ++ hand.take count <+: [5, 0] ++ replySuccess ++ (c.downloaded ++ [])
    rw [hwritten, List.append_nil, ← hdata, List.append_assoc, PumpPc.inHand_writing]
    exact (List.prefix_append_right_inj _).mpr ((List.prefix_append_right_inj _).mpr (List.take_prefix _ _))
  · cases hpc
    rw [PumpPc.inHand_testing, List.append_nil] at hdata
    by_cases hclosed : c.mux.streamClosed sid = true
    · simp only [Says, hclosed, if_true]
      refine Or.inr ?_
      show c.client.written <+: [5, 0] ++ replySuccess ++ (c.downloaded ++ [])
      rw [hwritten, List.append_nil, hdata]
    · simp only [Says, hclosed]
      exact ⟨data, hwritten, by simpa using hdata⟩

/-- Only the readers, the replies and the download pump write to the client. -/
theorem Says.step (h : c.Says) (hstep : c.step connectRequest utf8Error e = some c') : c'.Says := by
  unfold Connection.step at hstep
  split at hstep
  case h_1 op =>
    obtain ⟨mux, -, rfl⟩ := Option.map_eq_some_iff.mp hstep
    exact h
  case h_2 hpc =>
    rw [Says, hpc] at h
    obtain ⟨hwrite, hwritten, hdownloaded⟩ := h
    split at hstep
    · rename_i addr port client hexec
      obtain rfl := Option.some.inj hstep
      obtain ⟨p, rest, -, -, -, rfl⟩ := (socks5Prologue_eq_ok_iff hwrite).mp hexec
      exact ⟨by rw [hwritten]; rfl, hdownloaded⟩
    · rename_i error client hexec
      obtain rfl := Option.some.inj hstep
      have hprologue := socks5Prologue_written hwrite hexec
      rw [hwritten] at hprologue
      refine Or.inl ⟨hdownloaded, ?_⟩
      obtain hnothing | hanswer := hprologue
      · exact hnothing ▸ List.nil_prefix
      · exact hanswer ▸ List.prefix_append _ _
  case h_3 hpc =>
    rw [Says, hpc] at h
    obtain ⟨opened, -, rfl⟩ := Option.map_eq_some_iff.mp hstep
    exact h
  case h_4 sid chunks hpc =>
    rw [Says, hpc] at h
    obtain rfl := Option.some.inj hstep
    unfold number
    cases numberChunk c.mux sid chunks with
    | none => exact h
    | some numbered => exact h
  case h_5 sid rest succeeds hpc =>
    rw [Says, hpc] at h
    obtain rfl := Option.some.inj hstep
    cases succeeds with
    | true => exact h
    | false => exact told_refusal 0 (by rw [List.take_zero, List.append_nil]; exact h.1) h.2
  case h_6 sid hpc =>
    rw [Says, hpc] at h
    obtain rfl := Option.some.inj hstep
    by_cases hparked : (c.mux.waitForData sid).1.isSome = true
    · simpa only [Says, if_pos hparked] using h
    · simpa only [Says, if_neg hparked] using h
  case h_7 sid hpc =>
    rw [Says, hpc] at h
    exact Option.some.inj hstep ▸ h
  case h_8 sid hpc =>
    rw [Says, hpc] at h
    exact Option.some.inj hstep ▸ h
  case h_9 sid response hpc =>
    rw [Says, hpc] at h
    split_ifs at hstep
    · obtain rfl := Option.some.inj hstep
      exact ⟨[], by rw [answer, h.1, List.append_nil], h.2.symm⟩
    · obtain rfl := Option.some.inj hstep
      exact told_refusal 10 (by rw [answer, h.1]; rfl) h.2
  case h_10 sid response count hpc =>
    rw [Says, hpc] at h
    obtain rfl := Option.some.inj hstep
    split_ifs
    · exact told_success count (by rw [answer, h.1])
    · exact told_refusal count (by rw [answer, h.1]) h.2
  case h_11 sid hpc =>
    rw [Says, hpc] at h
    obtain rfl := Option.some.inj hstep
    exact told_refusal 10 (by rw [answer, h.1]; rfl) h.2
  case h_12 sid count hpc =>
    rw [Says, hpc] at h
    obtain rfl := Option.some.inj hstep
    exact told_refusal count (by rw [answer, h.1]) h.2
  case h_13 sid down count hpc =>
    rw [Says, hpc] at h
    dsimp only at hstep
    split_ifs at hstep
    exact Option.some.inj hstep ▸ h
  case h_14 sid down hpc =>
    rw [Says, hpc] at h
    obtain ⟨data, hwritten, hdata⟩ := h
    obtain rfl := Option.some.inj hstep
    exact told_relaying hwritten hdata
  case h_15 sid chunks down hpc =>
    rw [Says, hpc] at h
    obtain rfl := Option.some.inj hstep
    unfold number
    cases numberChunk c.mux sid chunks with
    | none => exact h
    | some numbered => exact h
  case h_16 sid rest down succeeds hpc =>
    rw [Says, hpc] at h
    obtain rfl := Option.some.inj hstep
    cases succeeds with
    | true => exact h
    | false =>
      obtain ⟨data, hwritten, hdata⟩ := h
      exact told_relaying hwritten hdata
  case h_17 sid upload down pe hpc =>
    rw [Says, hpc] at h
    obtain ⟨data, hwritten, hdata⟩ := h
    exact downStep_says hwritten hdata hstep
  case h_18 sid hpc =>
    rw [Says, hpc] at h
    exact Option.some.inj hstep ▸ h
  case h_19 => cases hstep

end Said

end Connection

/-! ### What is handed over -/

/-- The `send_data` that the connection is in. -/
def ConnectionPc.sending? : ConnectionPc → Option (UInt16 × SendPc)
  | .requesting sid send => some (sid, send)
  | .relaying sid upload _ => upload.map fun send => (sid, send)
  | _ => none

def SendPc.Legal : SendPc → Prop
  | .numbering chunks => ∀ chunk ∈ chunks, 0 < chunk.length ∧ chunk.length ≤ chunkSize
  | .awaiting rest => ∀ chunk ∈ rest, 0 < chunk.length ∧ chunk.length ≤ chunkSize

/-- Data frames of the client on the stream. -/
def OnStream (sid : UInt16) (clientId : UInt32) (frames : List Bytes) : Prop :=
  ∀ frame ∈ frames, ∃ seq payload, IsPayload sid payload ∧ frame = dataFrame clientId sid seq payload

namespace Connection

/-- The locked step of a `send_data` finds the stream open, and gives the chunk a number. -/
def FindsOpen (c : Connection) (e : ConnectionEvent) : Prop :=
  match c.pc.sending?, e with
  | some (sid, .numbering (_ :: _)), .number => (c.mux.allocSeq sid).isSome
  | _, _ => True

instance (c : Connection) (e : ConnectionEvent) : Decidable (c.FindsOpen e) := by
  unfold FindsOpen
  split <;> infer_instance

/-- The client's bytes are a prologue, what has been uploaded and what is still to come; where
`ok` holds, the payloads on the stream and what is left to send are the request for the target
of the prologue and what has been uploaded. -/
structure HandsOver (connectRequest : String → UInt16 → Bytes) (incoming : Bytes) (ok : Prop) (sid : UInt16)
    (left : Bytes) (c : Connection) (frames : List Bytes) : Prop where
  stream : c.stream = some sid
  onStream : OnStream sid c.mux.clientId frames
  target : ∃ p : Prologue, incoming = p.bytes ++ (c.uploaded ++ c.client.incoming) ∧
    (ok → (payloadsOn sid frames).flatten ++ left = connectRequest p.address.text p.port ++ c.uploaded)

/-- What has been handed over, by where the connection stands. -/
def Hands (connectRequest : String → UInt16 → Bytes) (incoming : Bytes) (ok : Prop) (c : Connection) : Prop :=
  match c.pc with
  | .prologue => c.client.write = .ok () ∧ c.client.incoming = incoming ∧ c.uploaded = [] ∧ c.frames = [] ∧ c.stream = none
  | .opening addr port => c.uploaded = [] ∧ (c.frames = [] ∧ c.stream = none) ∧ ∃ p : Prologue, addr = p.address.text ∧ port = p.port ∧
      incoming = p.bytes ++ c.client.incoming
  | .requesting sid send => c.HandsOver connectRequest incoming ok sid send.left c.frames ∧ send.Legal
  | .relaying sid none _ => c.HandsOver connectRequest incoming ok sid [] c.frames
  | .relaying sid (some send) _ => c.HandsOver connectRequest incoming ok sid send.left c.frames ∧ send.Legal
  | .waiting sid | .reading sid | .replying sid _ | .refusing sid => c.HandsOver connectRequest incoming ok sid [] c.frames
  | .closing sid => ∃ left, c.HandsOver connectRequest incoming ok sid left c.frames
  | .ended => (c.frames = [] ∧ c.stream = none) ∨ ∃ sid left frames, c.frames = frames ++ [closeFrame c.mux.clientId sid] ∧
      c.HandsOver connectRequest incoming ok sid left frames

section Handed
variable {connectRequest : String → UInt16 → Bytes} {utf8Error : Bytes → String} {c c' : Connection}
  {e : ConnectionEvent} {incoming : Bytes} {ok ok' : Prop} {sid : UInt16} {left : Bytes} {frames : List Bytes}

/-- What has been handed over depends on the stream, the bytes of the client and the client id. -/
theorem HandsOver.congr (h : c.HandsOver connectRequest incoming ok sid left frames) (hok : ok' → ok)
    (hclient : c'.mux.clientId = c.mux.clientId) (hstream : c'.stream = c.stream)
    (huploaded : c'.uploaded = c.uploaded) (hincoming : c'.client.incoming = c.client.incoming) :
    c'.HandsOver connectRequest incoming ok' sid left frames := by
  obtain ⟨hsid, honStream, p, hp, hdata⟩ := h
  refine ⟨hstream.trans hsid, hclient ▸ honStream, p, ?_, fun h' => ?_⟩
  · rw [huploaded, hincoming, hp]
  · rw [huploaded, hdata (hok h')]

/-- The locked step gives the next chunk its number, or finds nothing left or the stream shut. -/
theorem HandsOver.number {chunks : List Bytes} (h : c.HandsOver connectRequest incoming ok sid chunks.flatten c.frames)
    (hlegal : (SendPc.numbering chunks).Legal) (hopen : ok' → chunks ≠ [] → (c.mux.allocSeq sid).isSome)
    (hok : ok' → ok) (next : Option SendPc → ConnectionPc) :
    (∃ rest, (SendPc.awaiting rest).Legal ∧ (c.number sid chunks next).pc = next (some (.awaiting rest)) ∧
      (c.number sid chunks next).HandsOver connectRequest incoming ok' sid rest.flatten (c.number sid chunks next).frames) ∨
    ((c.number sid chunks next).pc = next none ∧
      (c.number sid chunks next).HandsOver connectRequest incoming ok' sid [] (c.number sid chunks next).frames) := by
  obtain ⟨hsid, hstream, p, hp, hdata⟩ := h
  cases chunks with
  | nil => exact Or.inr ⟨rfl, hsid, hstream, p, hp, fun h' => hdata (hok h')⟩
  | cons chunk rest =>
    obtain ⟨hpos, hsize⟩ := hlegal chunk List.mem_cons_self
    have hpayload : IsPayload sid chunk := IsPayload.of_chunk hpos hsize
    have hrest : (SendPc.awaiting rest).Legal := fun chunk' hchunk' => hlegal chunk' (List.mem_cons_of_mem _ hchunk')
    unfold Connection.number numberChunk
    cases halloc : c.mux.allocSeq sid with
    | none =>
      refine Or.inr ⟨rfl, hsid, hstream, p, hp, fun h' => ?_⟩
      have hsome := hopen h' (List.cons_ne_nil _ _)
      rw [halloc] at hsome
      cases hsome
    | some alloc =>
      obtain ⟨stream, -, -, -, hmux⟩ := Multiplexer.allocSeq_eq_some halloc
      have hclient : alloc.2.clientId = c.mux.clientId := by rw [hmux, Multiplexer.setStream_clientId]
      refine Or.inl ⟨rest, hrest, rfl, hsid, fun frame hframe => ?_, p, hp, fun h' => ?_⟩
      · rcases List.mem_append.mp hframe with hold | hnew
        · obtain ⟨seq, payload, hlegal', hframe'⟩ := hstream frame hold
          exact ⟨seq, payload, hlegal', hframe'.trans (by rw [← hclient]; rfl)⟩
        · exact ⟨alloc.1, chunk, hpayload, List.mem_singleton.mp hnew⟩
      · have hnew : payloadsOn sid [dataFrame alloc.2.clientId sid alloc.1 chunk] = [chunk] := by
          simp [payloadsOn, payloadOn_dataFrame _ _ hpayload]
        show (payloadsOn sid (c.frames ++ [dataFrame alloc.2.clientId sid alloc.1 chunk])).flatten ++ rest.flatten = _
        rw [payloadsOn_append, hnew, List.flatten_append, List.append_assoc]
        simpa using hdata (hok h')

theorem pump_clientId {sid : UInt16} {p p' : Pump} {pe : PumpEvent} (hstep : p.step sid pe = some p') :
    p'.mux.clientId = p.mux.clientId := by
  have hwait : p.mux.perform (.waitForData sid) = some (p.mux.waitForData sid).2 := rfl
  have hread : p.mux.perform (.readStream sid) = some (p.mux.readStream sid).2 := rfl
  obtain ⟨-, -, pc, -, -, rfl⟩ | ⟨-, -, rfl⟩ | ⟨data, -, -, rfl⟩ | ⟨data, count, -, -, -, rfl⟩ | ⟨-, -, rfl⟩ :=
    Pump.step_cases hstep
  · exact Multiplexer.perform_clientId hwait
  · exact Multiplexer.perform_clientId hread
  · rfl
  · rfl
  · rfl

theorem start_legal (data : Bytes) : (SendPc.start data).Legal := fun _ hchunk =>
  Chunking.chunks_bounds (by decide) hchunk

theorem start_left (data : Bytes) : (SendPc.start data).left = data :=
  Chunking.chunks_flatten (by decide) data

/-- Every step, with the verdict on whether a `send_data` has found the stream open each time. -/
theorem Hands.step (h : c.Hands connectRequest incoming ok) (hstep : c.step connectRequest utf8Error e = some c') :
    c'.Hands connectRequest incoming (ok ∧ c.FindsOpen e) := by
  unfold Connection.step at hstep
  unfold Hands at h
  split at hstep
  case h_1 op =>
    obtain ⟨mux, hmux, rfl⟩ := Option.map_eq_some_iff.mp hstep
    have hclient := Multiplexer.perform_clientId hmux
    unfold Hands
    cases hpc : c.pc with
    | prologue => rwa [hpc] at h
    | opening addr port => rwa [hpc] at h
    | requesting sid send =>
      rw [hpc] at h
      exact ⟨h.1.congr And.left hclient rfl rfl rfl, h.2⟩
    | relaying sid upload down =>
      rw [hpc] at h
      cases upload with
      | none => exact HandsOver.congr h And.left hclient rfl rfl rfl
      | some send => exact ⟨h.1.congr And.left hclient rfl rfl rfl, h.2⟩
    | waiting sid =>
      rw [hpc] at h
      exact HandsOver.congr h And.left hclient rfl rfl rfl
    | reading sid =>
      rw [hpc] at h
      exact HandsOver.congr h And.left hclient rfl rfl rfl
    | replying sid response =>
      rw [hpc] at h
      exact HandsOver.congr h And.left hclient rfl rfl rfl
    | refusing sid =>
      rw [hpc] at h
      exact HandsOver.congr h And.left hclient rfl rfl rfl
    | closing sid =>
      rw [hpc] at h
      obtain ⟨left, h⟩ := h
      exact ⟨left, h.congr And.left hclient rfl rfl rfl⟩
    | ended =>
      rw [hpc] at h
      obtain h | ⟨sid, left, frames, hframes, h⟩ := h
      · exact Or.inl h
      · exact Or.inr ⟨sid, left, frames, by rw [hclient]; exact hframes, h.congr And.left hclient rfl rfl rfl⟩
  case h_2 hpc =>
    rw [hpc] at h
    obtain ⟨hwrite, hincoming, huploaded, hframes⟩ := h
    split at hstep
    · rename_i addr port client hexec
      obtain rfl := Option.some.inj hstep
      obtain ⟨p, rest, hp, haddr, hport, rfl⟩ := (socks5Prologue_eq_ok_iff hwrite).mp hexec
      exact ⟨huploaded, hframes, p, haddr, hport, hincoming ▸ hp⟩
    · obtain rfl := Option.some.inj hstep
      exact Or.inl hframes
  case h_3 addr port hpc =>
    rw [hpc] at h
    obtain ⟨huploaded, hframes, p, haddr, hport, hp⟩ := h
    obtain ⟨opened, -, rfl⟩ := Option.map_eq_some_iff.mp hstep
    refine ⟨⟨rfl, fun frame hframe => ?_, p, ?_, fun _ => ?_⟩, start_legal _⟩
    · rw [hframes.1] at hframe
      cases hframe
    · show incoming = p.bytes ++ (c.uploaded ++ c.client.incoming)
      rw [huploaded, List.nil_append, hp]
    · show (payloadsOn _ c.frames).flatten ++ (SendPc.start (connectRequest addr port)).left = _ ++ c.uploaded
      rw [hframes.1, huploaded, start_left, haddr, hport, List.append_nil]
      rfl
  case h_4 sid chunks hpc =>
    rw [hpc] at h
    obtain rfl := Option.some.inj hstep
    have hopen : ok ∧ c.FindsOpen .number → chunks ≠ [] → (c.mux.allocSeq sid).isSome := fun hok hne => by
      obtain ⟨chunk, rest, rfl⟩ := List.exists_cons_of_ne_nil hne
      simpa [FindsOpen, hpc, ConnectionPc.sending?] using hok.2
    obtain ⟨rest, hlegal, hnext, hover⟩ | ⟨hnext, hover⟩ := h.1.number h.2 hopen And.left (fun
      | some send => .requesting sid send
      | none => .waiting sid)
    · rw [Hands, hnext]
      exact ⟨hover, hlegal⟩
    · rw [Hands, hnext]
      exact hover
  case h_5 sid rest succeeds hpc =>
    rw [hpc] at h
    obtain rfl := Option.some.inj hstep
    cases succeeds with
    | true => exact ⟨h.1.congr And.left rfl rfl rfl rfl, h.2⟩
    | false => exact ⟨_, h.1.congr And.left rfl rfl rfl rfl⟩
  case h_6 sid hpc =>
    rw [hpc] at h
    obtain rfl := Option.some.inj hstep
    have hwait : c.mux.perform (.waitForData sid) = some (c.mux.waitForData sid).2 := rfl
    have hover : HandsOver connectRequest incoming (ok ∧ c.FindsOpen .wait) sid []
        { c with mux := (c.mux.waitForData sid).2 } c.frames :=
      HandsOver.congr h And.left (Multiplexer.perform_clientId hwait) rfl rfl rfl
    by_cases hparked : (c.mux.waitForData sid).1.isSome = true
    · simp only [Hands, if_pos hparked]
      exact hover.congr id rfl rfl rfl rfl
    · simp only [Hands, if_neg hparked]
      exact hover.congr id rfl rfl rfl rfl
  case h_7 sid hpc =>
    rw [hpc] at h
    exact Option.some.inj hstep ▸ HandsOver.congr h And.left rfl rfl rfl rfl
  case h_8 sid hpc =>
    rw [hpc] at h
    have hread : c.mux.perform (.readStream sid) = some (c.mux.readStream sid).2 := rfl
    exact Option.some.inj hstep ▸ HandsOver.congr h And.left (Multiplexer.perform_clientId hread) rfl rfl rfl
  case h_9 sid response hpc =>
    rw [hpc] at h
    split_ifs at hstep
    · exact Option.some.inj hstep ▸ HandsOver.congr h And.left rfl rfl rfl rfl
    · exact Option.some.inj hstep ▸ ⟨_, HandsOver.congr h And.left rfl rfl rfl rfl⟩
  case h_10 sid response count hpc =>
    rw [hpc] at h
    exact Option.some.inj hstep ▸ ⟨_, HandsOver.congr h And.left rfl rfl rfl rfl⟩
  case h_11 sid hpc =>
    rw [hpc] at h
    exact Option.some.inj hstep ▸ ⟨_, HandsOver.congr h And.left rfl rfl rfl rfl⟩
  case h_12 sid count hpc =>
    rw [hpc] at h
    exact Option.some.inj hstep ▸ ⟨_, HandsOver.congr h And.left rfl rfl rfl rfl⟩
  case h_13 sid down count hpc =>
    rw [hpc] at h
    dsimp only at hstep
    split_ifs at hstep
    obtain rfl := Option.some.inj hstep
    obtain ⟨hsid, hstream, p, hp, hdata⟩ := h
    refine ⟨⟨hsid, hstream, p, ?_, fun h' => ?_⟩, start_legal _⟩
    · rw [hp]
      show _ = p.bytes ++ (c.uploaded ++ c.client.incoming.take count ++ c.client.incoming.drop count)
      rw [List.append_assoc, List.take_append_drop]
    · rw [start_left, ← List.append_assoc, ← hdata h'.1, List.append_nil]
  case h_14 sid down hpc =>
    rw [hpc] at h
    exact Option.some.inj hstep ▸ ⟨_, HandsOver.congr h And.left rfl rfl rfl rfl⟩
  case h_15 sid chunks down hpc =>
    rw [hpc] at h
    obtain rfl := Option.some.inj hstep
    have hopen : ok ∧ c.FindsOpen .number → chunks ≠ [] → (c.mux.allocSeq sid).isSome := fun hok hne => by
      obtain ⟨chunk, rest, rfl⟩ := List.exists_cons_of_ne_nil hne
      simpa [FindsOpen, hpc, ConnectionPc.sending?] using hok.2
    obtain ⟨rest, hlegal, hnext, hover⟩ | ⟨hnext, hover⟩ := h.1.number h.2 hopen And.left
      (fun send => .relaying sid send down)
    · rw [Hands, hnext]
      exact ⟨hover, hlegal⟩
    · rw [Hands, hnext]
      exact hover
  case h_16 sid rest down succeeds hpc =>
    rw [hpc] at h
    obtain rfl := Option.some.inj hstep
    cases succeeds with
    | true => exact ⟨h.1.congr And.left rfl rfl rfl rfl, h.2⟩
    | false => exact ⟨_, h.1.congr And.left rfl rfl rfl rfl⟩
  case h_17 sid upload down pe hpc =>
    rw [hpc] at h
    obtain ⟨p, hp, rfl⟩ := Option.map_eq_some_iff.mp hstep
    have hclient := pump_clientId hp
    unfold Hands
    cases p.pc with
    | exited exit =>
      cases upload with
      | none => exact ⟨_, HandsOver.congr h And.left hclient rfl rfl rfl⟩
      | some send => exact ⟨_, h.1.congr And.left hclient rfl rfl rfl⟩
    | _ =>
      cases upload with
      | none => exact HandsOver.congr h And.left hclient rfl rfl rfl
      | some send => exact ⟨h.1.congr And.left hclient rfl rfl rfl, h.2⟩
  case h_18 sid hpc =>
    rw [hpc] at h
    obtain ⟨left, h⟩ := h
    obtain rfl := Option.some.inj hstep
    have hclose : c.mux.perform (.closeStream (fun _ => .ok ()) sid) =
        some (c.mux.closeStream (fun _ => .ok ()) sid).mux := rfl
    have hclient := Multiplexer.perform_clientId hclose
    refine Or.inr ⟨sid, left, c.frames, ?_, h.congr And.left hclient rfl rfl rfl⟩
    rw [hclient]
  case h_19 => cases hstep

end Handed

/-! ### Whole connections -/

/-- A connection that has been accepted, with nothing written to it. -/
def accepted (mux : Multiplexer) (incoming : Bytes) : Connection := { mux, client := { incoming } }

theorem says_accepted (mux : Multiplexer) (incoming : Bytes) : (accepted mux incoming).Says := ⟨rfl, rfl, rfl⟩

theorem hands_accepted (connectRequest : String → UInt16 → Bytes) (mux : Multiplexer) (incoming : Bytes) : (accepted mux incoming).Hands connectRequest incoming True :=
  ⟨rfl, rfl, rfl, rfl, rfl⟩

theorem Says.told {c : Connection} (h : c.Says) : c.Told := by
  unfold Says at h
  have hanswer : c.client.written = [5, 0] ∧ c.downloaded = [] → c.Told := fun h =>
    told_refusal 0 (by rw [List.take_zero, List.append_nil]; exact h.1) h.2
  split at h
  · exact Or.inl ⟨h.2.2, h.2.1 ▸ List.nil_prefix⟩
  · obtain ⟨data, hwritten, hdata⟩ := h
    exact told_relaying hwritten hdata
  · exact h
  · exact h
  · exact hanswer h

/-- The frames of a connection: data frames of its stream, and where it has ended the close
frame of the stream behind them. -/
def Closes (c : Connection) : Prop :=
  match c.stream with
  | none => c.frames = []
  | some sid => ∃ frames, OnStream sid c.mux.clientId frames ∧
      ((c.pc ≠ .ended ∧ c.frames = frames) ∨ (c.pc = .ended ∧ c.frames = frames ++ [closeFrame c.mux.clientId sid]))

/-- What is handed over, as data frames and the close frame behind them. -/
theorem Hands.cases {connectRequest : String → UInt16 → Bytes} {c : Connection} {incoming : Bytes} {ok : Prop}
    (h : c.Hands connectRequest incoming ok) :
    (c.stream = none ∧ c.frames = []) ∨
      ∃ sid left frames, c.HandsOver connectRequest incoming ok sid left frames ∧
        ((c.pc ≠ .ended ∧ c.frames = frames ∧ (c.pc.sending? = none → (∀ sid, c.pc ≠ .closing sid) → left = [])) ∨
          (c.pc = .ended ∧ c.frames = frames ++ [closeFrame c.mux.clientId sid])) := by
  unfold Hands at h
  cases hpc : c.pc with
  | prologue =>
    rw [hpc] at h
    exact Or.inl ⟨h.2.2.2.2, h.2.2.2.1⟩
  | opening addr port =>
    rw [hpc] at h
    exact Or.inl ⟨h.2.1.2, h.2.1.1⟩
  | requesting sid send =>
    rw [hpc] at h
    exact Or.inr ⟨sid, _, _, h.1, Or.inl ⟨by simp, rfl, fun hsend => (by cases hsend)⟩⟩
  | relaying sid upload down =>
    rw [hpc] at h
    cases upload with
    | none => exact Or.inr ⟨sid, [], _, h, Or.inl ⟨by simp, rfl, fun _ _ => rfl⟩⟩
    | some send => exact Or.inr ⟨sid, _, _, h.1, Or.inl ⟨by simp, rfl, fun hsend => (by cases hsend)⟩⟩
  | waiting sid =>
    rw [hpc] at h
    exact Or.inr ⟨sid, [], _, h, Or.inl ⟨by simp, rfl, fun _ _ => rfl⟩⟩
  | reading sid =>
    rw [hpc] at h
    exact Or.inr ⟨sid, [], _, h, Or.inl ⟨by simp, rfl, fun _ _ => rfl⟩⟩
  | replying sid response =>
    rw [hpc] at h
    exact Or.inr ⟨sid, [], _, h, Or.inl ⟨by simp, rfl, fun _ _ => rfl⟩⟩
  | refusing sid =>
    rw [hpc] at h
    exact Or.inr ⟨sid, [], _, h, Or.inl ⟨by simp, rfl, fun _ _ => rfl⟩⟩
  | closing sid =>
    rw [hpc] at h
    obtain ⟨left, h⟩ := h
    exact Or.inr ⟨sid, left, _, h, Or.inl ⟨by simp, rfl, fun _ hclosing => absurd rfl (hclosing sid)⟩⟩
  | ended =>
    rw [hpc] at h
    obtain ⟨hframes, hstream⟩ | ⟨sid, left, frames, hframes, h⟩ := h
    · exact Or.inl ⟨hstream, hframes⟩
    · exact Or.inr ⟨sid, left, frames, h, Or.inr ⟨rfl, hframes⟩⟩

/-- What has been handed over where each `send_data` has found the stream open. -/
theorem Hands.uploaded {connectRequest : String → UInt16 → Bytes} {c : Connection} {incoming : Bytes} {ok : Prop}
    (h : c.Hands connectRequest incoming ok) (hok : ok)
    {sid : UInt16} (hopened : c.stream = some sid) :
    ∃ p : Prologue, incoming = p.bytes ++ (c.uploaded ++ c.client.incoming) ∧
      (payloadsOn sid c.frames).flatten <+: connectRequest p.address.text p.port ++ c.uploaded ∧
      (c.pc ≠ .ended → c.pc.sending? = none → (∀ sid, c.pc ≠ .closing sid) →
        (payloadsOn sid c.frames).flatten = connectRequest p.address.text p.port ++ c.uploaded) := by
  obtain ⟨hstream, -⟩ | ⟨sid', left, frames, hover, hend⟩ := h.cases
  · rw [hstream] at hopened
    cases hopened
  · obtain rfl : sid' = sid := Option.some.inj (hover.stream.symm.trans hopened)
    obtain ⟨-, -, p, hp, hdata⟩ := hover
    have hall := hdata hok
    have hsame : payloadsOn sid' c.frames = payloadsOn sid' frames := by
      obtain ⟨-, hframes, -⟩ | ⟨-, hframes⟩ := hend
      · rw [hframes]
      · rw [hframes, payloadsOn_append]
        simp [payloadsOn]
    refine ⟨p, hp, ?_, fun hrunning hidle hclosing => ?_⟩
    · rw [hsame]
      exact ⟨left, hall⟩
    · obtain ⟨-, -, hleft⟩ | ⟨hended, -⟩ := hend
      · rw [hsame, ← hall, hleft hidle hclosing, List.append_nil]
      · exact absurd hended hrunning

/-- A frame that was handed over carries data on the stream, or closes it. -/
theorem Hands.mem_frames {connectRequest : String → UInt16 → Bytes} {c : Connection} {incoming : Bytes} {ok : Prop}
    (h : c.Hands connectRequest incoming ok) {sid : UInt16}
    (hopened : c.stream = some sid) {frame : Bytes} (hframe : frame ∈ c.frames) :
    payloadOn sid frame ≠ none ∨ frame = closeFrame c.mux.clientId sid := by
  obtain ⟨hstream, -⟩ | ⟨sid', left, frames, hover, hend⟩ := h.cases
  · rw [hstream] at hopened
    cases hopened
  · obtain rfl : sid' = sid := Option.some.inj (hover.stream.symm.trans hopened)
    have hdata : ∀ frame ∈ frames, payloadOn sid' frame ≠ none := fun frame hframe => by
      obtain ⟨seq, payload, hlegal, rfl⟩ := hover.onStream frame hframe
      simp [payloadOn_dataFrame _ _ hlegal]
    obtain ⟨-, hframes, -⟩ | ⟨-, hframes⟩ := hend
    · exact Or.inl (hdata frame (hframes ▸ hframe))
    · rcases List.mem_append.mp (hframes ▸ hframe) with hdataFrame | hclose
      · exact Or.inl (hdata frame hdataFrame)
      · exact Or.inr (List.mem_singleton.mp hclose)

section Runs
variable (connectRequest : String → UInt16 → Bytes) (utf8Error : Bytes → String) (mux : Multiplexer)
  (incoming : Bytes) (events : List ConnectionEvent)

/-- After a run, what is handed over is as the verdict of the guard on the run says. -/
theorem hands_run {connectRequest : String → UInt16 → Bytes} {utf8Error : Bytes → String} {mux : Multiplexer}
    {incoming : Bytes} {events : List ConnectionEvent} {c : Connection}
    (hrun : run (step connectRequest utf8Error) (accepted mux incoming) events = some c) :
    c.Hands connectRequest incoming (True ∧ Guarded (step connectRequest utf8Error) FindsOpen (accepted mux incoming) events) :=
  run_verdict (Hands connectRequest incoming) (fun _ _ _ _ h hstep => Hands.step h hstep) (hands_accepted connectRequest mux incoming) hrun

/-- A connection writes to its client the answer to the handshake, one reply, and after the
reply of success nothing but the bytes that the download pump took, in their order. A
connection that opens no stream hands over no frame; one that does hands over data frames of
its stream alone, and where it has ended exactly one close frame behind them. -/
theorem connection_speaks (c : Connection)
    (hrun : run (step connectRequest utf8Error) (accepted mux incoming) events = some c) : c.Told ∧ c.Closes := by
  have hsaid : c.Says := run_invariant (fun _ _ _ h hstep => Says.step h hstep) (says_accepted mux incoming) hrun
  refine ⟨hsaid.told, ?_⟩
  unfold Closes
  obtain ⟨hstream, hframes⟩ | ⟨sid, left, frames, hover, hend⟩ := (hands_run hrun).cases
  · rw [hstream]
    exact hframes
  · rw [hover.stream]
    refine ⟨frames, hover.onStream, hend.imp (fun h => ⟨h.1, h.2.1⟩) id⟩

/-- The bytes of the client are a prologue, what has been uploaded, and what is still to come.
Where each `send_data` finds the stream open, the payloads that have been handed over are the
start of the request for the target of the prologue and what has been uploaded behind it, and
all of both between two calls of `send_data`. -/
theorem upload_in_order (c : Connection) (sid : UInt16)
    (hguard : Guarded (step connectRequest utf8Error) FindsOpen (accepted mux incoming) events)
    (hrun : run (step connectRequest utf8Error) (accepted mux incoming) events = some c) (hopened : c.stream = some sid) :
    ∃ p : Prologue, incoming = p.bytes ++ (c.uploaded ++ c.client.incoming) ∧
      (payloadsOn sid c.frames).flatten <+: connectRequest p.address.text p.port ++ c.uploaded ∧
      (c.pc ≠ .ended → c.pc.sending? = none → (∀ sid, c.pc ≠ .closing sid) →
        (payloadsOn sid c.frames).flatten = connectRequest p.address.text p.port ++ c.uploaded) := by
  exact (hands_run hrun).uploaded ⟨trivial, hguard⟩ hopened

end Runs

/-- A client asks for `wb.ru` and sends two bytes; the server answers, sends two and closes. -/
def oneConnection : List ConnectionEvent :=
  [.prologue, .openStream, .number, .sent true, .number, .env (.handleFrame (dataFrame 0 1 0 [0])), .wait, .read,
    .reply, .upload 2, .number, .sent true, .env (.handleFrame (dataFrame 0 1 1 [7, 8])), .down .wait, .down .read,
    .down .write, .number, .env (.handleFrame (closeFrame 0 1)), .down .test, .closeStream]

/-- The request for an address in which nothing needs an escape. -/
def sampleRequest (addr : String) (port : UInt16) : Bytes :=
  FormUrlencoded.utf8 ("\x7b\"addr\":\"" ++ addr ++ "\",\"cmd\":\"connect\",\"port\":" ++ toString port ++ "\x7d")

def oneClient : Bytes := [5, 0, 5, 1, 0, 3, 5, 0x77, 0x62, 0x2E, 0x72, 0x75, 0x01, 0xBB, 0x16, 0x03]

theorem connection_speaks_one : ∃ c, run (step sampleRequest fun _ => "") (accepted (Multiplexer.new 9) oneClient) oneConnection = some c ∧
    c.Told ∧ c.Closes := by
  have hrun := (Option.some_get (show (run (step sampleRequest fun _ => "") (accepted (Multiplexer.new 9) oneClient)
    oneConnection).isSome by decide +kernel)).symm
  exact ⟨_, hrun, connection_speaks _ _ _ _ _ _ hrun⟩

/-- The request for the domain and the two bytes behind it. -/
theorem upload_in_order_one : ∃ c, ∃ p : Prologue, run (step sampleRequest fun _ => "") (accepted (Multiplexer.new 9) oneClient)
      oneConnection = some c ∧ oneClient = p.bytes ++ (c.uploaded ++ c.client.incoming) ∧
    (payloadsOn 1 c.frames).flatten <+: sampleRequest p.address.text p.port ++ c.uploaded := by
  have hsome : (run (step sampleRequest fun _ => "") (accepted (Multiplexer.new 9) oneClient) oneConnection).map stream =
      some (some 1) := by decide +kernel
  obtain ⟨c, hrun, hstream⟩ := Option.map_eq_some_iff.mp hsome
  obtain ⟨p, hp, hfirst, -⟩ := upload_in_order sampleRequest (fun _ => "") (Multiplexer.new 9) oneClient oneConnection c 1
    (by decide +kernel) hrun hstream
  exact ⟨c, p, hrun, hp, hfirst⟩

end Connection

end TauriVpn.Olcrtc
