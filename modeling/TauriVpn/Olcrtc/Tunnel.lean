import TauriVpn.Olcrtc.Pump

/-! `setup_tunnel` and the pump that follows it, interleaved with the frames of
the server's answer. The setup takes the whole receive buffer and looks only at
its first byte, so data that arrived behind the status byte is dropped. -/

namespace TauriVpn.Olcrtc

open StepSystem

def replySuccess : Bytes := [5, 0, 0, 1, 0, 0, 0, 0, 0, 0]
def replyHostUnreachable : Bytes := [5, 4, 0, 1, 0, 0, 0, 0, 0, 0]

/-! ### Setup, then pump -/

/-- Where a session stands between `open_stream` and the end of `pump_from_mux`. -/
inductive TunnelPc where
  | requesting
  | waiting
  | reading
  | replying (response : Bytes)
  | refusing (error : VpnError)
  | pumping (pc : PumpPc)
  | failed (error : VpnError)
  deriving DecidableEq

inductive TunnelEvent where
  | request
  | wait
  | timeout
  | read
  | reply
  | replyFail (count : ℕ) (message : String)
  | pump (e : PumpEvent)
  deriving DecidableEq

/-- A session, its multiplexer and what it has written to the local socket. -/
structure Tunnel where
  mux : Multiplexer
  pc : TunnelPc
  socket : Bytes
  deriving DecidableEq

namespace Tunnel

/-- The reply to the server's answer: its first byte decides. -/
def replyTo (response : Bytes) : Bytes × TunnelPc :=
  if response.head? = some 0x00 then (replySuccess, .pumping .waiting)
  else (replyHostUnreachable, .failed (.engine "OLC RTC tunnel setup failed"))

section Step
variable (send : SendFn) (sid : UInt16) (request : Bytes)

def step (t : Tunnel) (e : TunnelEvent) : Option Tunnel :=
  match t.pc, e with
  | .requesting, .request =>
    let sent := t.mux.sendData send sid request
    some { t with
      mux := sent.mux
      pc := match sent.result with
        | .ok () => .waiting
        | .error error => .failed error }
  | .waiting, .wait => some { t with
      mux := (t.mux.waitForData sid).2
      pc := if (t.mux.waitForData sid).1.isSome then .waiting else .reading }
  | .waiting, .timeout =>
    some { t with pc := .refusing (.engine "OLC RTC tunnel setup timed out") }
  | .reading, .read => some { t with
      mux := (t.mux.readStream sid).2
      pc := .replying (t.mux.readStream sid).1 }
  | .replying response, .reply => some { t with
      socket := t.socket ++ (replyTo response).1
      pc := (replyTo response).2 }
  | .replying response, .replyFail count message => some { t with
      socket := t.socket ++ (replyTo response).1.take count
      pc := .failed (.io message) }
  | .refusing error, .reply => some { t with
      socket := t.socket ++ replyHostUnreachable
      pc := .failed error }
  | .refusing _, .replyFail count message => some { t with
      socket := t.socket ++ replyHostUnreachable.take count
      pc := .failed (.io message) }
  | .pumping pc, .pump e => (Pump.step sid ⟨t.mux, pc, t.socket⟩ e).map fun p =>
      { t with mux := p.mux, pc := .pumping p.pc, socket := p.written }
  | _, _ => none

end Step

/-- What the session accounts for, with `pending` the bytes buffered or still to
come: before the read all of the answer, after it all but the status byte and
what the read took with it. `ok` says that the read took the status byte alone. -/
def Accounts (data : Bytes) (ok : Prop) (socket pending : Bytes) : TunnelPc → Prop
  | .requesting | .waiting | .reading => ok ∧ socket = [] ∧ pending = 0x00 :: data
  | .replying response =>
    (ok ↔ response = [0x00]) ∧ socket = [] ∧ response ++ pending = 0x00 :: data
  | .pumping pc => ∃ swallowed written, (ok ↔ swallowed = []) ∧ socket = replySuccess ++ written ∧
      (pc ≠ .exited .writeFailed → swallowed ++ (written ++ pc.inHand ++ pending) = data)
  | .refusing _ | .failed _ => True

/-- The guard of the setup's read: the receive buffer is the status byte alone. -/
def ReadsStatusAlone (sid : UInt16) (t : Tunnel) : TunnelEvent → Prop
  | .read => t.mux.recvBuf sid = [0x00]
  | _ => True

section Step
variable {send : SendFn} {sid : UInt16} {request data : Bytes} {t t' : Tunnel} {e : TunnelEvent}

theorem step_accounts (hstep : t.step send sid request e = some t') {clientId seq : UInt32}
    {buffered rest : Bytes} (h : t.mux.Expects sid clientId seq buffered) {ok : Prop}
    (hacc : Accounts data ok t.socket (buffered ++ rest) t.pc) :
    ∃ buffered', t'.mux.Expects sid clientId seq buffered' ∧
      Accounts data (ok ∧ ReadsStatusAlone sid t e) t'.socket (buffered' ++ rest) t'.pc := by
  unfold step at hstep
  split at hstep
  case h_1 hpc =>
    rw [← Option.some.inj hstep]
    rw [hpc] at hacc
    refine ⟨buffered, h.sendData send request, ?_⟩
    dsimp only
    cases (t.mux.sendData send sid request).result with
    | ok _ => simpa [Accounts, ReadsStatusAlone] using hacc
    | error error => trivial
  case h_2 hpc =>
    rw [← Option.some.inj hstep]
    rw [hpc] at hacc
    refine ⟨buffered, h.waitForData, ?_⟩
    dsimp only
    split_ifs <;> simpa [Accounts, ReadsStatusAlone] using hacc
  case h_3 =>
    rw [← Option.some.inj hstep]
    exact ⟨buffered, h, trivial⟩
  case h_4 hpc =>
    rw [← Option.some.inj hstep]
    rw [hpc] at hacc
    obtain ⟨hdata, hmux⟩ := h.readStream
    obtain ⟨hok, hsocket, hpending⟩ := hacc
    exact ⟨[], hmux, by simp [ReadsStatusAlone, hok, h.recvBuf, hdata], hsocket,
      by simpa [hdata] using hpending⟩
  case h_5 response hpc =>
    rw [← Option.some.inj hstep]
    rw [hpc] at hacc
    obtain ⟨hok, hsocket, hpending⟩ := hacc
    refine ⟨buffered, h, ?_⟩
    unfold replyTo
    split_ifs with hhead
    · obtain ⟨swallowed, rfl⟩ := List.head?_eq_some_iff.mp hhead
      refine ⟨swallowed, [], by simpa [ReadsStatusAlone] using hok, by simp [hsocket], fun _ => ?_⟩
      simpa using hpending
    · trivial
  case h_9 pc e' hpc =>
    obtain ⟨p, hp, rfl⟩ := Option.map_eq_some_iff.mp hstep
    rw [hpc] at hacc
    obtain ⟨swallowed, written, hok, hsocket, hdata⟩ := hacc
    obtain ⟨buffered', hexp', hdata'⟩ := Pump.step_conserves hp h
    obtain ⟨more, hmore⟩ := Pump.step_written hp
    refine ⟨buffered', hexp', swallowed, written ++ more, by simpa [ReadsStatusAlone] using hok,
      by rw [← hmore, hsocket, List.append_assoc], fun hne => ?_⟩
    have hbefore : pc ≠ .exited .writeFailed := fun hc => by
      rw [Pump.step_of_exited hc] at hp
      cases hp
    have hmoved := hdata' hne
    simp only [← hmore, List.append_assoc, List.append_cancel_left_eq] at hmoved
    rw [← hdata hbefore]
    simp only [List.append_assoc, List.append_cancel_left_eq]
    rw [← List.append_assoc p.pc.inHand, ← List.append_assoc more, hmoved, List.append_assoc]
  case h_10 => cases hstep
  all_goals
    rw [← Option.some.inj hstep]
    exact ⟨buffered, h, trivial⟩

end Step

end Tunnel

/-! ### The session and the server's answer -/

/-- A session, with the frames of the server's answer that are still to arrive. -/
structure TunnelLink extends Tunnel where
  incoming : List Bytes
  deriving DecidableEq

inductive TunnelLinkEvent where
  | tunnel (e : TunnelEvent)
  | deliver
  deriving DecidableEq

namespace TunnelLink

def step (send : SendFn) (sid : UInt16) (request : Bytes) (s : TunnelLink) :
    TunnelLinkEvent → Option TunnelLink
  | .tunnel e => (s.toTunnel.step send sid request e).map fun t => { s with toTunnel := t }
  | .deliver =>
    match s.incoming with
    | [] => none
    | frame :: rest => some { s with mux := (s.mux.handleFrame frame).1, incoming := rest }

/-- The read of `setup_tunnel` finds the status byte alone in the receive buffer:
the first frame carries nothing else, and no other frame was handled before. -/
def ReadsStatusAlone (sid : UInt16) (s : TunnelLink) : TunnelLinkEvent → Prop
  | .tunnel e => s.toTunnel.ReadsStatusAlone sid e
  | .deliver => True

instance (sid : UInt16) (s : TunnelLink) (e : TunnelLinkEvent) : Decidable (ReadsStatusAlone sid s e) := by
  unfold ReadsStatusAlone Tunnel.ReadsStatusAlone
  split
  · split <;> infer_instance
  · infer_instance

/-- The answer is accounted for up to the verdict on the read. -/
def Judged (sid : UInt16) (clientId : UInt32) (data : Bytes) (ok : Prop) (s : TunnelLink) : Prop :=
  ∃ seq buffered payloads, s.mux.Expects sid clientId seq buffered ∧
    (∀ p ∈ payloads, IsPayload sid p) ∧ s.incoming = framesFrom clientId sid seq payloads ∧
    Tunnel.Accounts data ok s.socket (buffered ++ payloads.flatten) s.pc

theorem Judged.step {send : SendFn} {sid : UInt16} {request data : Bytes} {clientId : UInt32}
    {ok : Prop} {s s' : TunnelLink} {e : TunnelLinkEvent} (h : Judged sid clientId data ok s)
    (hstep : s.step send sid request e = some s') :
    Judged sid clientId data (ok ∧ ReadsStatusAlone sid s e) s' := by
  obtain ⟨seq, buffered, payloads, hexp, hlegal, hin, hacc⟩ := h
  cases e with
  | tunnel e =>
    obtain ⟨t, ht, rfl⟩ := Option.map_eq_some_iff.mp hstep
    obtain ⟨buffered', hexp', hacc'⟩ := Tunnel.step_accounts ht hexp hacc
    exact ⟨seq, buffered', payloads, hexp', hlegal, hin, hacc'⟩
  | deliver =>
    cases payloads with
    | nil => simp [TunnelLink.step, hin, framesFrom] at hstep
    | cons payload payloads =>
      simp only [TunnelLink.step, hin, framesFrom, Option.some.injEq] at hstep
      subst hstep
      refine ⟨seq + 1, buffered ++ payload, payloads, hexp.dataFrame (hlegal payload (by simp)),
        fun p hp => hlegal p (by simp [hp]), rfl, ?_⟩
      simpa [ReadsStatusAlone, List.append_assoc] using hacc

/-! ### Nothing swallowed -/

/-- A session after `open_stream`, before the frames of the answer. -/
def start (mux : Multiplexer) (incoming : List Bytes) : TunnelLink := ⟨⟨mux, .requesting, []⟩, incoming⟩

/-- The server answers with the status byte `0x00` and the data, in any frames.
If the setup's read takes the status byte alone, what is written after the
success reply is a prefix of the data, and all of it once everything has arrived
and is drained; if it takes more, a drained session has not written the data. -/
theorem relays_data_iff (send : SendFn) (mux : Multiplexer) (sid : UInt16) (request : Bytes)
    (notify : NotifyId) (clientId : UInt32) (payloads : List Bytes) (data : Bytes)
    (hget : mux.streams[sid]? = some (Stream.fresh 0 notify))
    (hlegal : ∀ p ∈ payloads, IsPayload sid p) (hanswer : payloads.flatten = 0x00 :: data)
    (events : List TunnelLinkEvent) (s : TunnelLink) (pc : PumpPc)
    (hrun : run (step send sid request) (start mux (framesFrom clientId sid 0 payloads)) events = some s)
    (hpc : s.pc = .pumping pc) (hok : pc ≠ .exited .writeFailed) :
    ∃ written, s.socket = replySuccess ++ written ∧
      (Guarded (step send sid request) (ReadsStatusAlone sid)
        (start mux (framesFrom clientId sid 0 payloads)) events → written <+: data) ∧
      (s.incoming = [] → s.mux.recvBuf sid = [] → pc.inHand = [] →
        (written = data ↔ Guarded (step send sid request) (ReadsStatusAlone sid)
          (start mux (framesFrom clientId sid 0 payloads)) events)) := by
  have hstart : Judged sid clientId data True (start mux (framesFrom clientId sid 0 payloads)) := by
    refine ⟨0, [], payloads, (Multiplexer.expects_iff_of_get hget _ _ _).mpr ⟨rfl, rfl, ?_⟩, hlegal, rfl,
      trivial, rfl, by simpa using hanswer⟩
    exact (em _).imp (fun h => ⟨h, rfl⟩) fun h => ⟨h, rfl, rfl⟩
  obtain ⟨seq, buffered, rest, hexp, hrest, hin, hacc⟩ :=
    run_verdict (Judged sid clientId data) (fun _ _ _ _ h hstep => h.step hstep) hstart hrun
  rw [hpc] at hacc
  obtain ⟨swallowed, written, hverdict, hsocket, hdata⟩ := hacc
  rw [true_and] at hverdict
  replace hdata := hdata hok
  refine ⟨written, hsocket, fun hguard => ?_, fun hnil hbuf hhand => ?_⟩
  · rw [hverdict.mp hguard, List.nil_append, List.append_assoc] at hdata
    exact ⟨_, hdata⟩
  · have hnone : rest = [] := by
      rw [hnil] at hin
      exact List.length_eq_zero_iff.mp (by rw [← framesFrom_length clientId sid seq, ← hin]; rfl)
    rw [hexp.recvBuf] at hbuf
    simp only [hnone, hbuf, hhand, List.flatten_nil, List.append_nil] at hdata
    rw [hverdict, ← hdata]
    exact List.self_eq_append_left

/-- The bytes of `{"addr":"a","cmd":"connect","port":80}`. -/
def sampleRequest : Bytes :=
  [123, 34, 97, 100, 100, 114, 34, 58, 34, 97, 34, 44, 34, 99, 109, 100, 34, 58, 34, 99, 111, 110, 110,
    101, 99, 116, 34, 44, 34, 112, 111, 114, 116, 34, 58, 56, 48, 125]

/-- The status byte comes in a frame of its own and is read before the next one. -/
theorem relays_data_two_frames :
    let mux := (Multiplexer.new 9).setStream 1 (Stream.fresh 0 0)
    let events : List TunnelLinkEvent := [.tunnel .request, .deliver, .tunnel .wait, .tunnel .read,
      .deliver, .tunnel .reply, .tunnel (.pump .wait), .tunnel (.pump .read), .tunnel (.pump .write)]
    ∃ s, run (step (fun _ => .ok ()) 1 sampleRequest) (start mux (framesFrom 0 1 0 [[0], [7, 8]])) events =
        some s ∧ s.socket = replySuccess ++ [7, 8] := by
  intro mux events
  have hrun := (Option.some_get (show (run (step (fun _ => .ok ()) 1 sampleRequest)
    (start mux (framesFrom 0 1 0 [[0], [7, 8]])) events).isSome by decide)).symm
  refine ⟨_, hrun, ?_⟩
  obtain ⟨written, hsocket, -, hall⟩ := relays_data_iff (fun _ => .ok ()) mux 1 sampleRequest 0 0
    [[0], [7, 8]] [7, 8] (Multiplexer.setStream_get _ _ _) (by decide) rfl events _ .testing hrun
    (by decide) (by decide)
  rw [hsocket, (hall (by decide) (by decide) rfl).mpr (by decide)]

/-- The status byte and the data come in one frame: the data are dropped. -/
theorem data_swallowed :
    ∃ s, run (step (fun _ => .ok ()) 1 sampleRequest)
        (start ((Multiplexer.new 9).setStream 1 (Stream.fresh 0 0)) (framesFrom 0 1 0 [[0, 7, 8]]))
        [.tunnel .request, .deliver, .tunnel .wait, .tunnel .read, .tunnel .reply] = some s ∧
      s.pc = .pumping .waiting ∧ s.incoming = [] ∧ s.mux.recvBuf 1 = [] ∧
      s.socket = replySuccess ++ [] ∧ ([] : Bytes) ≠ [7, 8] := by
  refine ⟨_, (Option.some_get (by decide)).symm, ?_⟩
  decide

end TunnelLink

end TauriVpn.Olcrtc
