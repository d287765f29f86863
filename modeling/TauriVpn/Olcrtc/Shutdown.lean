import TauriVpn.Olcrtc.Room

/-! The end of a client. `stop` closes its peer, and a call that asks after that is refused. A
call that has asked before, and waits for room in the queue, is not: its ciphertext may still
be queued and published. So what a closed client goes on to send is some of what it had
waiting when it was closed, and no call that is made on it sends anything. -/

namespace TauriVpn.Olcrtc

open StepSystem

namespace Participant

variable {ι : Type*} {aead : Aead} {p p' : Participant ι}

/-- The ciphertexts of the calls that have asked whether the peer is open. -/
def waiting (p : Participant ι) : List Bytes := p.calls.filterMap SendCall.waiting

theorem checkOpen_closed {peer : WbStreamPeer} (hclosed : peer.closed = true) :
    peer.checkOpen = .error (.engine "WB Stream peer is closed") := by
  rw [WbStreamPeer.checkOpen, if_pos hclosed]

theorem transport_closed (aead : Aead) (hclosed : p.peer.closed = true) (nonce : Vector UInt8 24) (frame : Bytes) :
    ∃ error, p.transport aead nonce frame = .error error := by
  unfold transport
  cases p.cipher.encrypt aead nonce frame with
  | error error => exact ⟨error, rfl⟩
  | ok encrypted => exact ⟨.engine "WB Stream peer is closed", by rw [checkOpen_closed hclosed]; rfl⟩

/-- What a closed client has been left with: the queue took more of what waited, and nothing
waits that did not. -/
structure CutOff (p p' : Participant ι) : Prop where
  closed : p'.peer.closed = true
  late : ∃ late, p'.accepted = p.accepted ++ late ∧ (late ++ p'.waiting).Subperm p.waiting

namespace CutOff

/-- A step that gives the queue nothing leaves no more waiting than there was. -/
theorem of_sublist (hclosed : p'.peer.closed = true) (haccepted : p'.accepted = p.accepted)
    (hwaiting : p'.waiting.Sublist p.waiting) : CutOff p p' :=
  ⟨hclosed, [], by rw [haccepted, List.append_nil], hwaiting.subperm⟩

theorem refl (hclosed : p.peer.closed = true) : CutOff p p :=
  of_sublist hclosed rfl (List.Sublist.refl _)

theorem trans {p'' : Participant ι} (h : CutOff p p') (h' : CutOff p' p'') : CutOff p p'' := by
  obtain ⟨late, haccepted, hlate⟩ := h.late
  obtain ⟨late', haccepted', hlate'⟩ := h'.late
  refine ⟨h'.closed, late ++ late', by rw [haccepted', haccepted, List.append_assoc], ?_⟩
  rw [List.append_assoc]
  exact ((List.subperm_append_left late).mpr hlate').trans hlate

theorem dropCall (hclosed : p.peer.closed = true) (i : ℕ) : CutOff p { p with calls := p.calls.eraseIdx i } :=
  of_sublist hclosed rfl ((List.eraseIdx_sublist p.calls i).filterMap _)

/-- A frame of a closed client is built, and goes nowhere. -/
theorem sendFrame (hclosed : p.peer.closed = true) (sid : UInt16) (nonce : Vector UInt8 24) (frame : Bytes) :
    CutOff p (p.sendFrame aead sid nonce frame) := by
  obtain ⟨error, herror⟩ := transport_closed aead hclosed nonce frame
  refine of_sublist hclosed rfl ?_
  unfold Participant.sendFrame
  rw [herror]
  exact List.Sublist.refl _

/-- The call returns with the next chunk, or because it has none. -/
theorem nextChunk (hclosed : p.peer.closed = true) {i : ℕ} {nonce : Vector UInt8 24}
    (hstep : p.nextChunk aead i nonce = some p') : CutOff p p' := by
  unfold Participant.nextChunk at hstep
  split at hstep
  case h_1 sid chunk rest hcall =>
    cases halloc : p.mux.allocSeq sid with
    | none =>
      rw [halloc] at hstep
      exact Option.some.inj hstep ▸ dropCall hclosed i
    | some alloc =>
      rw [halloc] at hstep
      obtain rfl := Option.some.inj hstep
      obtain ⟨error, herror⟩ := transport_closed aead hclosed nonce
        (dataFrame alloc.2.clientId sid alloc.1 chunk)
      refine of_sublist hclosed rfl ?_
      show (List.filterMap SendCall.waiting _).Sublist _
      rw [herror]
      exact (List.eraseIdx_sublist p.calls i).filterMap _
  case h_2 => exact Option.some.inj hstep ▸ dropCall hclosed i
  case h_3 => cases hstep

/-- The one step that lets something out: a call that waits gets room in the queue. -/
theorem enqueue (hclosed : p.peer.closed = true) {i : ℕ} (hstep : p.enqueue i = some p') : CutOff p p' := by
  unfold Participant.enqueue at hstep
  split at hstep
  case h_2 => cases hstep
  case h_1 sid chunks data hcall =>
    obtain ⟨hbefore, hafter⟩ := perm_of_getElem? hcall
    unfold WbStreamPeer.enqueue at hstep
    by_cases hpublishing : p.peer.publishing = true
    · by_cases hroom : p.peer.sendQueue.length < sendQueueSize
      · rw [if_pos hpublishing, if_pos hroom] at hstep
        obtain rfl := Option.some.inj hstep
        have hold := hbefore.filterMap SendCall.waiting
        have hnew := (hafter { sid, chunks }).filterMap SendCall.waiting
        exact ⟨hclosed, [data], rfl, ((hnew.cons data).trans hold.symm).subperm⟩
      · rw [if_pos hpublishing, if_neg hroom] at hstep
        cases hstep
    · rw [if_neg hpublishing] at hstep
      exact Option.some.inj hstep ▸ dropCall hclosed i

end CutOff

theorem step_cutOff {e : ParticipantEvent ι} (hclosed : p.peer.closed = true)
    (hstep : p.step aead e = some p') : CutOff p p' := by
  cases e with
  | openStream =>
    obtain ⟨opened, -, rfl⟩ := Option.map_eq_some_iff.mp hstep
    exact .of_sublist hclosed rfl (List.Sublist.refl _)
  | readStream sid => exact Option.some.inj hstep ▸ .of_sublist hclosed rfl (List.Sublist.refl _)
  | waitForData sid => exact Option.some.inj hstep ▸ .of_sublist hclosed rfl (List.Sublist.refl _)
  | sendData sid data =>
    obtain rfl := Option.some.inj hstep
    refine .of_sublist hclosed rfl ?_
    -- The call that begins has no ciphertext yet.
    simp [waiting]
  | closeStream sid nonce =>
    obtain rfl := Option.some.inj hstep
    have hmux : CutOff p { p with mux := (p.mux.closeStream (fun _ => .ok ()) sid).mux } :=
      .of_sublist hclosed rfl (List.Sublist.refl _)
    exact hmux.trans (CutOff.sendFrame hmux.closed sid nonce _)
  | sendClientReset nonce =>
    simp only [Participant.step] at hstep
    split_ifs at hstep
    · exact Option.some.inj hstep ▸ .refl hclosed
    · exact Option.some.inj hstep ▸ .sendFrame hclosed _ nonce _
  | nextChunk i nonce => exact .nextChunk hclosed hstep
  | enqueue i => exact .enqueue hclosed hstep
  | cancel i =>
    simp only [Participant.step] at hstep
    split_ifs at hstep
    exact Option.some.inj hstep ▸ .dropCall hclosed i
  -- The sending task goes on after a close.
  | recv =>
    obtain ⟨⟨payload, peer⟩, hrecv, rfl⟩ := Option.map_eq_some_iff.mp hstep
    obtain ⟨rest, -, -, rfl⟩ := WbStreamPeer.recv_eq_some hrecv
    exact .of_sublist hclosed rfl (List.Sublist.refl _)
  | publish succeeds =>
    obtain ⟨peer, hpublish, rfl⟩ := Option.map_eq_some_iff.mp hstep
    rcases WbStreamPeer.publish_eq_some hpublish with rfl | rfl
    · exact .of_sublist hclosed rfl (List.Sublist.refl _)
    · exact .of_sublist hclosed rfl (List.Sublist.refl _)
  | room origin event =>
    simp only [Participant.step, roomEvent] at hstep
    split_ifs at hstep
    exact Option.some.inj hstep ▸ .of_sublist hclosed rfl (List.Sublist.refl _)
  | handleFrame =>
    simp only [Participant.step, takeIncoming] at hstep
    split at hstep
    · cases hstep
    · exact Option.some.inj hstep ▸ .of_sublist hclosed rfl (List.Sublist.refl _)
  | close => exact Option.some.inj hstep ▸ .of_sublist rfl rfl (List.Sublist.refl _)

end Participant

namespace Room

variable {ι : Type*} [DecidableEq ι] (aead : Aead)

/-- Whatever the others do, and whatever is called on it, a closed client stays cut off. -/
theorem run_cutOff {aead : Aead} {room room' : Room ι} {events : List (ι × ParticipantEvent ι)} {j : ι}
    (hclosed : (room j).peer.closed = true) (hrun : run (step aead) room events = some room') :
    (room j).CutOff (room' j) := by
  have hstep : ∀ (s : Room ι) e t, (room j).CutOff (s j) → step aead s e = some t → (room j).CutOff (t j) := by
    intro s e t hcut h
    obtain ⟨hself, hothers⟩ := step_cases h
    by_cases hj : j = e.1
    · subst hj
      exact hcut.trans (Participant.step_cutOff hcut.closed hself)
    · rwa [hothers j hj]
  have hstart : (room j).CutOff (room j) := .refl hclosed
  have hend := run_invariant hstep hstart hrun
  exact hend

/-- In a room that delivers what `j` publishes to `i` in order, and where both have one key:
after `j` is closed, whatever is called on it and whatever anyone does, its queue takes
nothing but ciphertexts that were waiting at the close, each once and at most one for each
call that was on its way; and all that `i` has handled of `j` at the end is the start of what
the queue had taken at the close, followed by those. -/
theorem nothing_new_after_close (haead : aead.Correct) (ciphers : ι → OlcCipher) (clientIds : ι → UInt32) (i j : ι)
    (hkey : ciphers i = ciphers j) (before after : List (ι × ParticipantEvent ι))
    (hguard : Guarded (step aead) (DeliversInOrder i j) (start ciphers clientIds) (before ++ (j, .close) :: after))
    (room room' : Room ι) (hbefore : run (step aead) (start ciphers clientIds) before = some room)
    (hafter : run (step aead) room ((j, .close) :: after) = some room') :
    ∃ late, (room' j).accepted = (room j).accepted ++ late ∧ late.Subperm (room j).waiting ∧
      late.length ≤ (room j).calls.length ∧
      (room' i).handledFrom aead j <+: (room j).sentFrames aead ++ late.filterMap ((room j).cipher.opened aead) := by
  have hall : run (step aead) (start ciphers clientIds) (before ++ (j, .close) :: after) = some room' := by
    rw [run_append, hbefore, Option.bind_some, hafter]
  have hhandled := handledFrom_isStart haead hkey hguard hall
  have hcipher : (room' j).cipher = (room j).cipher := by rw [run_cipher hall, run_cipher hbefore]
  obtain ⟨closed, hclose, hrest⟩ := run_cons_eq_some.mp hafter
  have hself := (step_cases hclose).1
  have hatClose : closed j = { room j with peer := (room j).peer.close } := (Option.some.inj hself).symm
  have hcut : (room j).CutOff (room' j) := by
    have hflag : (closed j).peer.closed = true := by rw [hatClose]; rfl
    have hstart : (room j).CutOff (closed j) := by
      rw [hatClose]
      exact .of_sublist rfl rfl (List.Sublist.refl _)
    exact hstart.trans (run_cutOff hflag hrest)
  obtain ⟨late, haccepted, hlate⟩ := hcut.late
  have hwaiting : late.Subperm (room j).waiting := (List.sublist_append_left _ _).subperm.trans hlate
  refine ⟨late, haccepted, hwaiting, hwaiting.length_le.trans (List.length_filterMap_le _ _), ?_⟩
  rwa [Participant.sentFrames, haccepted, hcipher, List.filterMap_append] at hhandled

/-- The reset of a client waits when it is closed, and the other still gets it; a byte that is
sent after the close goes nowhere. -/
def resetWaits : List (Bool × ParticipantEvent Bool) := [(true, .sendClientReset zeroNonce)]
def afterClose : List (Bool × ParticipantEvent Bool) :=
  let packet := zeroNonce.toList ++ (zeroCipher.key.toList ++ resetFrame 7)
  [(true, .openStream), (true, .sendData 1 [3]), (true, .nextChunk 1 zeroNonce), (true, .enqueue 0), (true, .recv),
    (true, .publish true), (false, .room true (.dataReceived packet (some dataTopic))), (false, .handleFrame)]

theorem nothing_new_after_close_reset : ∃ room room', run (step keyedAead) twoClients resetWaits = some room ∧
    run (step keyedAead) room ((true, .close) :: afterClose) = some room' ∧
    ∃ late, (room' true).accepted = (room true).accepted ++ late ∧ late.Subperm (room true).waiting := by
  have hbefore := (Option.some_get (show (run (step keyedAead) twoClients resetWaits).isSome by decide)).symm
  have hafter := (Option.some_get (show (run (step keyedAead)
    ((run (step keyedAead) twoClients resetWaits).get (by decide)) ((true, .close) :: afterClose)).isSome by decide)).symm
  obtain ⟨late, haccepted, hwaiting, -⟩ := nothing_new_after_close keyedAead keyedAead_correct (fun _ => zeroCipher) twoIds
    false true rfl resetWaits afterClose (by decide) _ _ hbefore hafter
  exact ⟨_, _, hbefore, hafter, late, haccepted, hwaiting⟩

end Room

end TauriVpn.Olcrtc
