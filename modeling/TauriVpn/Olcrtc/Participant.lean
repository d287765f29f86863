import TauriVpn.Lib.StepSystem
import TauriVpn.Olcrtc.Cipher
import TauriVpn.Olcrtc.Slot

/-! A client in its room: the peer with the queue of its sending task, the calls that are on
their way through it, and the loop that hands what the room delivers to the multiplexer.
Every step is what one task does between two awaits, so calls of `send_data` interleave chunk
by chunk. What the room does is an event. The last fields of a participant are its history. -/

namespace TauriVpn.Olcrtc

def dataTopic : String := "olcrtc"
def sendQueueSize : ℕ := 5000

/-! ### The peer -/

/-- `publishing` says that the sending task runs, so that the queue has a receiver, and
`awaiting` that it waits for `publish_data` with a payload that has left the queue. -/
structure WbStreamPeer where
  sendQueue : List Bytes := []
  publishing : Bool := true
  awaiting : Bool := false
  closed : Bool := false

namespace WbStreamPeer

/-- The check at the start of `send`. -/
def checkOpen (peer : WbStreamPeer) : Except VpnError Unit :=
  if peer.closed then .error (.engine "WB Stream peer is closed") else .ok ()

/-- `send_tx.send(data)`, which waits while the queue is full. -/
def enqueue (peer : WbStreamPeer) (data : Bytes) : Option (Except VpnError WbStreamPeer) :=
  if peer.publishing then
    if peer.sendQueue.length < sendQueueSize then
      some (.ok { peer with sendQueue := peer.sendQueue ++ [data] })
    else none
  else some (.error (.engine "WB Stream send queue is closed"))

/-- The sending task takes a payload from the queue, and calls `publish_data` with it. -/
def recv (peer : WbStreamPeer) : Option (Bytes × WbStreamPeer) :=
  if peer.publishing && !peer.awaiting then
    match peer.sendQueue with
    | [] => none
    | payload :: rest => some (payload, { peer with sendQueue := rest, awaiting := true })
  else none

/-- `publish_data` returns; the task ends, and drops the queue, where it has failed. -/
def publish (peer : WbStreamPeer) (succeeds : Bool) : Option WbStreamPeer :=
  if peer.publishing && peer.awaiting then
    if succeeds then some { peer with awaiting := false }
    else some { peer with sendQueue := [], publishing := false, awaiting := false }
  else none

def close (peer : WbStreamPeer) : WbStreamPeer := { peer with closed := true }

theorem recv_eq_some {peer peer' : WbStreamPeer} {payload : Bytes} (h : peer.recv = some (payload, peer')) :
    ∃ rest, peer.publishing = true ∧ peer.sendQueue = payload :: rest ∧
      peer' = { peer with sendQueue := rest, awaiting := true } := by
  unfold recv at h
  split_ifs at h with hready
  split at h
  · cases h
  · rename_i first rest hqueue
    obtain ⟨rfl, rfl⟩ := Prod.mk.inj (Option.some.inj h)
    exact ⟨rest, (Bool.and_eq_true_iff.mp hready).1, hqueue, rfl⟩

theorem publish_eq_some {peer peer' : WbStreamPeer} {succeeds : Bool} (h : peer.publish succeeds = some peer') :
    peer' = { peer with awaiting := false } ∨
      peer' = { peer with sendQueue := [], publishing := false, awaiting := false } := by
  unfold publish at h
  split_ifs at h
  · exact Or.inl (Option.some.inj h).symm
  · exact Or.inr (Option.some.inj h).symm

end WbStreamPeer

/-- What the event loop of `connect` tells apart. -/
inductive RoomEvent where
  | dataReceived (payload : Bytes) (topic : Option String)
  | disconnected
  | other

/-- The payload that the event loop passes on. -/
def RoomEvent.forwarded : RoomEvent → List Bytes
  | .dataReceived payload topic => if topic = some dataTopic then [payload] else []
  | _ => []

/-! ### A participant -/

/-- A call that sends on the stream: the chunks that have no number yet, and the ciphertext
that waits for room in the queue. A call is cancelled where the future of it is dropped. -/
structure SendCall where
  sid : UInt16
  chunks : List Bytes := []
  waiting : Option Bytes := none

/-- What arrives is marked with the participant it came from, which no code reads. A payload
is `published` as soon as `publish_data` is called with it, and the room may deliver it. -/
structure Participant (ι : Type*) where
  cipher : OlcCipher
  mux : Multiplexer
  peer : WbStreamPeer := {}
  calls : List SendCall := []
  listening : Bool := true
  incoming : List (ι × Bytes) := []
  built : List Bytes := []
  accepted : List Bytes := []
  published : List Bytes := []
  taken : List (ι × Bytes) := []
  read : UInt16 → Bytes := fun _ => []

inductive ParticipantEvent (ι : Type*) where
  | openStream
  | readStream (sid : UInt16)
  | waitForData (sid : UInt16)
  | sendData (sid : UInt16) (data : Bytes)
  | closeStream (sid : UInt16) (nonce : Vector UInt8 24)
  | sendClientReset (nonce : Vector UInt8 24)
  | nextChunk (call : ℕ) (nonce : Vector UInt8 24)
  | enqueue (call : ℕ)
  | cancel (call : ℕ)
  | recv
  | publish (succeeds : Bool)
  | room (origin : ι) (event : RoomEvent)
  | handleFrame
  | close

/-- The packets that the event passes on to the client. -/
def ParticipantEvent.arrivals {ι : Type*} : ParticipantEvent ι → List (ι × Bytes)
  | .room origin event => event.forwarded.map fun payload => (origin, payload)
  | _ => []

namespace Participant

variable {ι : Type*} (aead : Aead)

/-- The function that the multiplexer sends with, up to the wait for room in the queue. -/
def transport (p : Participant ι) (nonce : Vector UInt8 24) (frame : Bytes) : Except VpnError Bytes := do
  let encrypted ← p.cipher.encrypt aead nonce frame
  p.peer.checkOpen
  return encrypted

/-- A frame outside `send_data` is handed to the transport. -/
def sendFrame (p : Participant ι) (sid : UInt16) (nonce : Vector UInt8 24) (frame : Bytes) : Participant ι :=
  { p with
    built := p.built ++ [frame]
    calls := match p.transport aead nonce frame with
      | .ok encrypted => p.calls ++ [{ sid, waiting := some encrypted }]
      | .error _ => p.calls }

/-- A `send_data` goes on with its next chunk, or returns. -/
def nextChunk (p : Participant ι) (i : ℕ) (nonce : Vector UInt8 24) : Option (Participant ι) :=
  match p.calls[i]? with
  | some { sid, chunks := chunk :: rest, waiting := none } =>
    match p.mux.allocSeq sid with
    | some (seq, mux) =>
      let frame := dataFrame mux.clientId sid seq chunk
      some { p with
        mux
        built := p.built ++ [frame]
        calls := match p.transport aead nonce frame with
          | .ok encrypted => p.calls.set i { sid, chunks := rest, waiting := some encrypted }
          | .error _ => p.calls.eraseIdx i }
    | none => some { p with calls := p.calls.eraseIdx i }
  | some { chunks := [], waiting := none, .. } => some { p with calls := p.calls.eraseIdx i }
  | _ => none

/-- The queue takes the ciphertext of a call, or the call returns the error. -/
def enqueue (p : Participant ι) (i : ℕ) : Option (Participant ι) :=
  match p.calls[i]? with
  | some { sid, chunks, waiting := some data } =>
    match p.peer.enqueue data with
    | some (.ok peer) => some { p with
        peer
        calls := p.calls.set i { sid, chunks }
        accepted := p.accepted ++ [data] }
    | some (.error _) => some { p with calls := p.calls.eraseIdx i }
    | none => none
  | _ => none

/-- The event loop ends where the room disconnects. -/
def roomEvent (p : Participant ι) (origin : ι) (event : RoomEvent) : Option (Participant ι) :=
  if p.listening then
    some { p with
      incoming := p.incoming ++ event.forwarded.map fun payload => (origin, payload)
      listening := match event with
        | .disconnected => false
        | _ => true }
  else none

/-- The loop of the client takes the next ciphertext; it goes on where that is no frame. -/
def takeIncoming (p : Participant ι) : Option (Participant ι) :=
  match p.incoming with
  | [] => none
  | packet :: rest => some { p with
      incoming := rest
      taken := p.taken ++ [packet]
      mux := match p.cipher.decrypt aead packet.2 with
        | .ok frame => (p.mux.handleFrame frame).1
        | .error _ => p.mux }

def step (p : Participant ι) : ParticipantEvent ι → Option (Participant ι)
  | .openStream => p.mux.openStream.map fun opened => { p with mux := opened.2 }
  | .readStream sid => some { p with
      mux := (p.mux.readStream sid).2
      read := Function.update p.read sid (p.read sid ++ (p.mux.readStream sid).1) }
  | .waitForData sid => some { p with mux := (p.mux.waitForData sid).2 }
  | .sendData sid data => some { p with calls := p.calls ++ [{ sid, chunks := Chunking.chunks chunkSize data }] }
  | .closeStream sid nonce =>
    let closed := p.mux.closeStream (fun _ => .ok ()) sid
    some ({ p with mux := closed.mux }.sendFrame aead sid nonce (closeFrame p.mux.clientId sid))
  | .sendClientReset nonce =>
    if p.mux.clientId = 0 then some p
    else some (p.sendFrame aead controlStreamId nonce (resetFrame p.mux.clientId))
  | .nextChunk i nonce => p.nextChunk aead i nonce
  | .enqueue i => p.enqueue i
  | .cancel i => if i < p.calls.length then some { p with calls := p.calls.eraseIdx i } else none
  | .recv => p.peer.recv.map fun (payload, peer) => { p with peer, published := p.published ++ [payload] }
  | .publish succeeds => (p.peer.publish succeeds).map fun peer => { p with peer }
  | .room origin event => p.roomEvent origin event
  | .handleFrame => p.takeIncoming aead
  | .close => some { p with peer := p.peer.close }

/-! ### What has been handed over -/

/-- The ciphertexts that the queue took or that wait for it. -/
def handedOver (p : Participant ι) : List Bytes := p.accepted ++ p.calls.filterMap SendCall.waiting

/-- A frame that was built is handed over once at most, as a ciphertext that is read as it; what
the queue took and is not in it has been published. -/
structure Sound (p : Participant ι) : Prop where
  chunks : ∀ call ∈ p.calls, ∀ chunk ∈ call.chunks, 0 < chunk.length ∧ chunk.length ≤ chunkSize
  opens : (p.handedOver.map (p.cipher.opened aead)).Subperm (p.built.map some)
  queued : p.peer.publishing = true → p.accepted = p.published ++ p.peer.sendQueue
  published : p.published <+: p.accepted
  bounded : p.peer.sendQueue.length ≤ sendQueueSize

theorem sound_start (cipher : OlcCipher) (mux : Multiplexer) : Sound aead ({ cipher, mux } : Participant ι) where
  chunks := by simp
  opens := by simp [handedOver]
  queued _ := rfl
  published := List.prefix_rfl
  bounded := Nat.zero_le _

variable {aead} {p p' : Participant ι}

/-- What a call adds to the list of calls, and what replaces it there. -/
theorem perm_of_getElem? {calls : List SendCall} {i : ℕ} {call : SendCall} (h : calls[i]? = some call) :
    calls.Perm (call :: calls.eraseIdx i) ∧ ∀ call', (calls.set i call').Perm (call' :: calls.eraseIdx i) := by
  obtain ⟨hi, rfl⟩ := List.getElem?_eq_some_iff.mp h
  exact ⟨(List.getElem_cons_eraseIdx_perm hi).symm, fun call' => List.set_perm_cons_eraseIdx hi call'⟩

theorem transport_opens (haead : aead.Correct) {nonce : Vector UInt8 24} {frame encrypted : Bytes}
    (h : p.transport aead nonce frame = .ok encrypted) : p.cipher.opened aead encrypted = some frame := by
  unfold transport at h
  cases hseal : p.cipher.encrypt aead nonce frame with
  | error error => simp [hseal, bind, Except.bind] at h
  | ok sealed =>
    cases hcheck : p.peer.checkOpen with
    | error error => simp [hseal, hcheck, bind, Except.bind] at h
    | ok _ =>
      simp only [hseal, hcheck, bind, Except.bind, pure, Except.pure, Except.ok.injEq] at h
      exact h ▸ OlcCipher.opened_of_encrypt haead hseal

namespace Sound

/-- The invariant does not speak of the multiplexer and of what arrives. -/
theorem congr (h : Sound aead p) (hcipher : p'.cipher = p.cipher) (hpeer : p'.peer.sendQueue = p.peer.sendQueue)
    (hpublishing : p'.peer.publishing = p.peer.publishing) (hcalls : p'.calls = p.calls)
    (hbuilt : p'.built = p.built) (haccepted : p'.accepted = p.accepted)
    (hpublished : p'.published = p.published) : Sound aead p' where
  chunks := hcalls ▸ h.chunks
  opens := by
    rw [handedOver, hcipher, hcalls, hbuilt, haccepted]
    exact h.opens
  queued := by
    rw [hpublishing, haccepted, hpublished, hpeer]
    exact h.queued
  published := by
    rw [haccepted, hpublished]
    exact h.published
  bounded := hpeer ▸ h.bounded

/-- A call returns, or is dropped. -/
theorem dropCall (h : Sound aead p) (i : ℕ) : Sound aead { p with calls := p.calls.eraseIdx i } where
  chunks call hcall := h.chunks call (List.mem_of_mem_eraseIdx hcall)
  opens := by
    have hsub : ({ p with calls := p.calls.eraseIdx i } : Participant ι).handedOver.Sublist p.handedOver :=
      List.Sublist.append_left ((List.eraseIdx_sublist p.calls i).filterMap _) _
    exact (hsub.map _).subperm.trans h.opens
  queued := h.queued
  published := h.published
  bounded := h.bounded

theorem addCall (h : Sound aead p) {call : SendCall} (hwaiting : call.waiting = none)
    (hchunks : ∀ chunk ∈ call.chunks, 0 < chunk.length ∧ chunk.length ≤ chunkSize) :
    Sound aead { p with calls := p.calls ++ [call] } where
  chunks call' hcall := by
    rcases List.mem_append.mp hcall with hold | hnew
    · exact h.chunks call' hold
    · exact List.mem_singleton.mp hnew ▸ hchunks
  opens := by
    have hsame : ({ p with calls := p.calls ++ [call] } : Participant ι).handedOver = p.handedOver := by
      simp [handedOver, hwaiting]
    rw [hsame]
    exact h.opens
  queued := h.queued
  published := h.published
  bounded := h.bounded

/-- A frame is built that the transport refuses. -/
theorem build (h : Sound aead p) (frame : Bytes) (mux : Multiplexer) :
    Sound aead { p with mux, built := p.built ++ [frame] } where
  chunks := h.chunks
  opens := h.opens.trans ((List.sublist_append_left _ _).map _).subperm
  queued := h.queued
  published := h.published
  bounded := h.bounded

/-- A frame is built and its ciphertext waits. -/
theorem handOver (h : Sound aead p) (haead : aead.Correct) {nonce : Vector UInt8 24} {frame encrypted : Bytes}
    (htransport : p.transport aead nonce frame = .ok encrypted) (mux : Multiplexer) {calls : List SendCall}
    (hwaiting : (calls.filterMap SendCall.waiting).Perm (encrypted :: p.calls.filterMap SendCall.waiting))
    (hchunks : ∀ call ∈ calls, ∀ chunk ∈ call.chunks, 0 < chunk.length ∧ chunk.length ≤ chunkSize) :
    Sound aead { p with mux, built := p.built ++ [frame], calls } where
  chunks := hchunks
  opens := by
    have hperm : ({ p with mux, built := p.built ++ [frame], calls } : Participant ι).handedOver.Perm
        (encrypted :: p.handedOver) := (hwaiting.append_left p.accepted).trans List.perm_middle
    have hbuilt : ((p.built ++ [frame]).map some).Perm (some frame :: p.built.map some) := by
      rw [List.map_append]
      exact List.perm_append_singleton _ _
    have hopened := transport_opens haead htransport
    have hsub : ((encrypted :: p.handedOver).map (p.cipher.opened aead)).Subperm (some frame :: p.built.map some) := by
      rw [List.map_cons, hopened]
      exact List.subperm_cons _ |>.mpr h.opens
    exact ((hperm.map _).subperm.trans hsub).trans hbuilt.symm.subperm
  queued := h.queued
  published := h.published
  bounded := h.bounded

theorem sendFrame (h : Sound aead p) (haead : aead.Correct) (sid : UInt16) (nonce : Vector UInt8 24)
    (frame : Bytes) : Sound aead (p.sendFrame aead sid nonce frame) := by
  unfold Participant.sendFrame
  cases htransport : p.transport aead nonce frame with
  | error error => exact h.build frame p.mux
  | ok encrypted =>
    refine h.handOver haead htransport p.mux ?_ fun call hcall => ?_
    · simp only [List.filterMap_append]
      exact List.perm_append_singleton _ _
    · rcases List.mem_append.mp hcall with hold | hnew
      · exact h.chunks call hold
      · simp [List.mem_singleton.mp hnew]

/-- The call that is replaced has no ciphertext that waits, so one more waits after it. -/
theorem nextChunk (h : Sound aead p) (haead : aead.Correct) {i : ℕ} {nonce : Vector UInt8 24}
    (hstep : p.nextChunk aead i nonce = some p') : Sound aead p' := by
  unfold Participant.nextChunk at hstep
  split at hstep
  case h_1 sid chunk rest hcall =>
    obtain ⟨hbefore, hafter⟩ := perm_of_getElem? hcall
    cases halloc : p.mux.allocSeq sid with
    | none =>
      rw [halloc] at hstep
      exact Option.some.inj hstep ▸ h.dropCall i
    | some alloc =>
      rw [halloc] at hstep
      obtain rfl := Option.some.inj hstep
      cases htransport : p.transport aead nonce (dataFrame alloc.2.clientId sid alloc.1 chunk) with
      | error error => exact (h.build _ alloc.2).dropCall i
      | ok encrypted =>
        refine h.handOver haead htransport alloc.2 ?_ fun call hmem => ?_
        · have hold := hbefore.filterMap SendCall.waiting
          have hnew := (hafter { sid, chunks := rest, waiting := some encrypted }).filterMap SendCall.waiting
          exact hnew.trans (hold.symm.cons encrypted)
        · rcases List.mem_or_eq_of_mem_set hmem with hold | rfl
          · exact h.chunks call hold
          · have hchunks := h.chunks _ (List.mem_of_getElem? hcall)
            exact fun c hc => hchunks c (List.mem_cons_of_mem _ hc)
  case h_2 => exact Option.some.inj hstep ▸ h.dropCall i
  case h_3 => cases hstep

/-- What waited is in the queue now, or the call has returned. -/
theorem enqueue (h : Sound aead p) {i : ℕ} (hstep : p.enqueue i = some p') : Sound aead p' := by
  unfold Participant.enqueue at hstep
  split at hstep
  case h_2 => cases hstep
  case h_1 sid chunks data hcall =>
    unfold WbStreamPeer.enqueue at hstep
    by_cases hpublishing : p.peer.publishing = true
    · by_cases hroom : p.peer.sendQueue.length < sendQueueSize
      · rw [if_pos hpublishing, if_pos hroom] at hstep
        obtain rfl := Option.some.inj hstep
        obtain ⟨hbefore, hafter⟩ := perm_of_getElem? hcall
        refine ⟨fun call hmem => ?_, ?_, fun _ => ?_, ?_, ?_⟩
        · rcases List.mem_or_eq_of_mem_set hmem with hold | rfl
          · exact h.chunks call hold
          · have hchunks := h.chunks _ (List.mem_of_getElem? hcall)
            exact hchunks
        · have hold := hbefore.filterMap SendCall.waiting
          have hnew := (hafter { sid, chunks }).filterMap SendCall.waiting
          have hperm : (p.accepted ++ [data] ++ (p.calls.set i { sid, chunks }).filterMap SendCall.waiting).Perm
              p.handedOver := by
            rw [List.append_assoc]
            exact ((hnew.cons data).trans hold.symm).append_left p.accepted
          exact (hperm.map _).subperm.trans h.opens
        · show p.accepted ++ [data] = p.published ++ (p.peer.sendQueue ++ [data])
          rw [h.queued hpublishing, List.append_assoc]
        · exact h.published.trans (List.prefix_append _ _)
        · show (p.peer.sendQueue ++ [data]).length ≤ sendQueueSize
          rw [List.length_append, List.length_singleton]
          omega
      · rw [if_pos hpublishing, if_neg hroom] at hstep
        cases hstep
    · rw [if_neg hpublishing] at hstep
      exact Option.some.inj hstep ▸ h.dropCall i

theorem recv (h : Sound aead p) {payload : Bytes} {peer : WbStreamPeer} (hrecv : p.peer.recv = some (payload, peer)) :
    Sound aead { p with peer, published := p.published ++ [payload] } := by
  obtain ⟨rest, hpublishing, hqueue, rfl⟩ := WbStreamPeer.recv_eq_some hrecv
  have hsplit : p.accepted = p.published ++ [payload] ++ rest := by
    rw [h.queued hpublishing, hqueue, List.append_assoc]
    rfl
  have hbound := h.bounded
  rw [hqueue, List.length_cons] at hbound
  exact ⟨h.chunks, h.opens, fun _ => hsplit, ⟨rest, hsplit.symm⟩, Nat.le_of_succ_le hbound⟩

theorem publish (h : Sound aead p) {succeeds : Bool} {peer : WbStreamPeer}
    (hpublish : p.peer.publish succeeds = some peer) : Sound aead { p with peer } := by
  rcases WbStreamPeer.publish_eq_some hpublish with rfl | rfl
  · exact h.congr rfl rfl rfl rfl rfl rfl rfl
  · exact ⟨h.chunks, h.opens, fun hp => (by cases hp), h.published, Nat.zero_le _⟩

/-- Every step of a participant keeps the invariant. -/
theorem step (h : Sound aead p) (haead : aead.Correct) {e : ParticipantEvent ι}
    (hstep : p.step aead e = some p') : Sound aead p' := by
  cases e with
  | openStream =>
    obtain ⟨opened, -, rfl⟩ := Option.map_eq_some_iff.mp hstep
    exact h.congr rfl rfl rfl rfl rfl rfl rfl
  | readStream sid => exact Option.some.inj hstep ▸ h.congr rfl rfl rfl rfl rfl rfl rfl
  | waitForData sid => exact Option.some.inj hstep ▸ h.congr rfl rfl rfl rfl rfl rfl rfl
  | sendData sid data =>
    obtain rfl := Option.some.inj hstep
    exact h.addCall rfl fun chunk hchunk => Chunking.chunks_bounds (by decide) hchunk
  | closeStream sid nonce =>
    obtain rfl := Option.some.inj hstep
    have hclosed : Sound aead { p with mux := (p.mux.closeStream (fun _ => .ok ()) sid).mux } :=
      h.congr rfl rfl rfl rfl rfl rfl rfl
    exact hclosed.sendFrame haead sid nonce _
  | sendClientReset nonce =>
    simp only [Participant.step] at hstep
    split_ifs at hstep with hzero
    · exact Option.some.inj hstep ▸ h
    · exact Option.some.inj hstep ▸ h.sendFrame haead _ nonce _
  | nextChunk i nonce => exact h.nextChunk haead hstep
  | enqueue i => exact h.enqueue hstep
  | cancel i =>
    simp only [Participant.step] at hstep
    split_ifs at hstep
    exact Option.some.inj hstep ▸ h.dropCall i
  | recv =>
    obtain ⟨taken, hrecv, rfl⟩ := Option.map_eq_some_iff.mp hstep
    exact h.recv hrecv
  | publish succeeds =>
    obtain ⟨peer, hpublish, rfl⟩ := Option.map_eq_some_iff.mp hstep
    exact h.publish hpublish
  | room origin event =>
    simp only [Participant.step, roomEvent] at hstep
    split_ifs at hstep
    exact Option.some.inj hstep ▸ h.congr rfl rfl rfl rfl rfl rfl rfl
  | handleFrame =>
    simp only [Participant.step, takeIncoming] at hstep
    split at hstep
    · cases hstep
    · exact Option.some.inj hstep ▸ h.congr rfl rfl rfl rfl rfl rfl rfl
  | close => exact Option.some.inj hstep ▸ h.congr rfl rfl rfl rfl rfl rfl rfl

end Sound

/-! ### What a step does to the multiplexer -/

/-- What a step does to the multiplexer, the frames that have been built and the bytes read. -/
inductive Effect {ι : Type*} (aead : Aead) (p : Participant ι) : ParticipantEvent ι → Participant ι → Prop where
  | quiet {e : ParticipantEvent ι} {q : Participant ι} (mux : q.mux = p.mux) (built : q.built = p.built)
      (read : q.read = p.read) : Effect aead p e q
  | opened {q : Participant ι} (sid : UInt16) (mux : p.mux.openStream = some (sid, q.mux)) (built : q.built = p.built)
      (read : q.read = p.read) : Effect aead p .openStream q
  | drained {q : Participant ι} (sid : UInt16) (mux : q.mux = (p.mux.readStream sid).2) (built : q.built = p.built)
      (read : q.read = Function.update p.read sid (p.read sid ++ (p.mux.readStream sid).1)) :
      Effect aead p (.readStream sid) q
  | waited {q : Participant ι} (sid : UInt16) (mux : q.mux = (p.mux.waitForData sid).2) (built : q.built = p.built)
      (read : q.read = p.read) : Effect aead p (.waitForData sid) q
  | closed {q : Participant ι} (sid : UInt16) (nonce : Vector UInt8 24)
      (mux : q.mux = (p.mux.closeStream (fun _ => .ok ()) sid).mux)
      (built : q.built = p.built ++ [closeFrame p.mux.clientId sid]) (read : q.read = p.read) :
      Effect aead p (.closeStream sid nonce) q
  | reset {q : Participant ι} (nonce : Vector UInt8 24) (mux : q.mux = p.mux)
      (built : q.built = p.built ++ [resetFrame p.mux.clientId]) (read : q.read = p.read) :
      Effect aead p (.sendClientReset nonce) q
  | numbered {q : Participant ι} (i : ℕ) (nonce : Vector UInt8 24) (sid : UInt16) (seq : UInt32) (chunk : Bytes)
      (call : ∃ call ∈ p.calls, chunk ∈ call.chunks) (alloc : p.mux.allocSeq sid = some (seq, q.mux))
      (built : q.built = p.built ++ [dataFrame p.mux.clientId sid seq chunk]) (read : q.read = p.read) :
      Effect aead p (.nextChunk i nonce) q
  | handled {q : Participant ι} (packet : ι × Bytes) (frame : Bytes) (incoming : p.incoming.head? = some packet)
      (opens : p.cipher.opened aead packet.2 = some frame) (mux : q.mux = (p.mux.handleFrame frame).1)
      (built : q.built = p.built) (read : q.read = p.read) : Effect aead p .handleFrame q

theorem step_effect {e : ParticipantEvent ι} (hstep : p.step aead e = some p') : Effect aead p e p' := by
  cases e with
  | openStream =>
    obtain ⟨opened, hopen, rfl⟩ := Option.map_eq_some_iff.mp hstep
    exact .opened opened.1 hopen rfl rfl
  | readStream sid => exact Option.some.inj hstep ▸ .drained sid rfl rfl rfl
  | waitForData sid => exact Option.some.inj hstep ▸ .waited sid rfl rfl rfl
  | sendData sid data => exact Option.some.inj hstep ▸ .quiet rfl rfl rfl
  | closeStream sid nonce => exact Option.some.inj hstep ▸ .closed sid nonce rfl rfl rfl
  | sendClientReset nonce =>
    simp only [Participant.step] at hstep
    split_ifs at hstep with hzero
    · exact Option.some.inj hstep ▸ .quiet rfl rfl rfl
    · exact Option.some.inj hstep ▸ .reset nonce rfl rfl rfl
  | nextChunk i nonce =>
    simp only [Participant.step, nextChunk] at hstep
    split at hstep
    · rename_i sid chunk rest hcall
      cases halloc : p.mux.allocSeq sid with
      | none =>
        rw [halloc] at hstep
        exact Option.some.inj hstep ▸ .quiet rfl rfl rfl
      | some alloc =>
        rw [halloc] at hstep
        obtain ⟨stream, -, -, -, hmux⟩ := Multiplexer.allocSeq_eq_some halloc
        have hclient : alloc.2.clientId = p.mux.clientId := by rw [hmux, Multiplexer.setStream_clientId]
        obtain rfl := Option.some.inj hstep
        refine .numbered i nonce sid alloc.1 chunk ⟨_, List.mem_of_getElem? hcall, List.mem_cons_self⟩ halloc ?_ rfl
        rw [← hclient]
    · exact Option.some.inj hstep ▸ .quiet rfl rfl rfl
    · cases hstep
  | enqueue i =>
    simp only [Participant.step, enqueue] at hstep
    split at hstep
    · split at hstep
      · exact Option.some.inj hstep ▸ .quiet rfl rfl rfl
      · exact Option.some.inj hstep ▸ .quiet rfl rfl rfl
      · cases hstep
    · cases hstep
  | cancel i =>
    simp only [Participant.step] at hstep
    split_ifs at hstep
    exact Option.some.inj hstep ▸ .quiet rfl rfl rfl
  | recv =>
    obtain ⟨taken, -, rfl⟩ := Option.map_eq_some_iff.mp hstep
    exact .quiet rfl rfl rfl
  | publish succeeds =>
    obtain ⟨peer, -, rfl⟩ := Option.map_eq_some_iff.mp hstep
    exact .quiet rfl rfl rfl
  | room origin event =>
    simp only [Participant.step, roomEvent] at hstep
    split_ifs at hstep
    exact Option.some.inj hstep ▸ .quiet rfl rfl rfl
  | handleFrame =>
    simp only [Participant.step, takeIncoming] at hstep
    split at hstep
    · cases hstep
    · rename_i packet rest hincoming
      obtain rfl := Option.some.inj hstep
      cases hopen : p.cipher.decrypt aead packet.2 with
      | error error => exact .quiet rfl rfl rfl
      | ok frame =>
        refine .handled packet frame (by rw [hincoming]; rfl) ?_ rfl rfl rfl
        rw [OlcCipher.opened, hopen]
        rfl
  | close => exact Option.some.inj hstep ▸ .quiet rfl rfl rfl

/-! ### What every step keeps -/

theorem Effect.clientId {e : ParticipantEvent ι} (h : Effect aead p e p') : p'.mux.clientId = p.mux.clientId := by
  cases h with
  | quiet mux built read => rw [mux]
  | opened sid mux built read => exact (Multiplexer.openLoop_spec mux).2.2.2
  | drained sid mux built read =>
    have hread : p.mux.perform (.readStream sid) = some (p.mux.readStream sid).2 := rfl
    rw [mux, Multiplexer.perform_clientId hread]
  | waited sid mux built read =>
    have hwait : p.mux.perform (.waitForData sid) = some (p.mux.waitForData sid).2 := rfl
    rw [mux, Multiplexer.perform_clientId hwait]
  | closed sid nonce mux built read =>
    have hclose : p.mux.perform (.closeStream (fun _ => .ok ()) sid) =
        some (p.mux.closeStream (fun _ => .ok ()) sid).mux := rfl
    rw [mux, Multiplexer.perform_clientId hclose]
  | reset nonce mux built read => rw [mux]
  | numbered i nonce sid seq chunk call alloc built read =>
    obtain ⟨stream, -, -, -, hmux⟩ := Multiplexer.allocSeq_eq_some alloc
    rw [hmux, Multiplexer.setStream_clientId]
  | handled packet frame incoming opens mux built read =>
    have hframe : p.mux.perform (.handleFrame frame) = some (p.mux.handleFrame frame).1 := rfl
    rw [mux, Multiplexer.perform_clientId hframe]

theorem Effect.built {e : ParticipantEvent ι} (h : Effect aead p e p') : p.built <+: p'.built := by
  cases h with
  | closed sid nonce mux built read => exact built ▸ List.prefix_append _ _
  | reset nonce mux built read => exact built ▸ List.prefix_append _ _
  | numbered i nonce sid seq chunk call alloc built read => exact built ▸ List.prefix_append _ _
  | quiet mux built read => exact built ▸ List.prefix_rfl
  | opened sid mux built read => exact built ▸ List.prefix_rfl
  | drained sid mux built read => exact built ▸ List.prefix_rfl
  | waited sid mux built read => exact built ▸ List.prefix_rfl
  | handled packet frame incoming opens mux built read => exact built ▸ List.prefix_rfl

/-- A step keeps the key, publishes more or nothing, and has packets from the room alone. -/
structure Extends (p : Participant ι) (e : ParticipantEvent ι) (p' : Participant ι) : Prop where
  cipher : p'.cipher = p.cipher
  published : p.published <+: p'.published
  arrived : p'.taken ++ p'.incoming = p.taken ++ p.incoming ++ e.arrivals

theorem step_extends {e : ParticipantEvent ι} (hstep : p.step aead e = some p') : p.Extends e p' := by
  have hquiet : p.taken ++ p.incoming = p.taken ++ p.incoming ++ [] := (List.append_nil _).symm
  cases e with
  | openStream =>
    obtain ⟨opened, -, rfl⟩ := Option.map_eq_some_iff.mp hstep
    exact ⟨rfl, List.prefix_rfl, hquiet⟩
  | readStream sid => exact Option.some.inj hstep ▸ ⟨rfl, List.prefix_rfl, hquiet⟩
  | waitForData sid => exact Option.some.inj hstep ▸ ⟨rfl, List.prefix_rfl, hquiet⟩
  | sendData sid data => exact Option.some.inj hstep ▸ ⟨rfl, List.prefix_rfl, hquiet⟩
  | closeStream sid nonce => exact Option.some.inj hstep ▸ ⟨rfl, List.prefix_rfl, hquiet⟩
  | sendClientReset nonce =>
    simp only [Participant.step] at hstep
    split_ifs at hstep
    · exact Option.some.inj hstep ▸ ⟨rfl, List.prefix_rfl, hquiet⟩
    · exact Option.some.inj hstep ▸ ⟨rfl, List.prefix_rfl, hquiet⟩
  | nextChunk i nonce =>
    simp only [Participant.step, nextChunk] at hstep
    split at hstep
    · split at hstep
      · exact Option.some.inj hstep ▸ ⟨rfl, List.prefix_rfl, hquiet⟩
      · exact Option.some.inj hstep ▸ ⟨rfl, List.prefix_rfl, hquiet⟩
    · exact Option.some.inj hstep ▸ ⟨rfl, List.prefix_rfl, hquiet⟩
    · cases hstep
  | enqueue i =>
    simp only [Participant.step, enqueue] at hstep
    split at hstep
    · split at hstep
      · exact Option.some.inj hstep ▸ ⟨rfl, List.prefix_rfl, hquiet⟩
      · exact Option.some.inj hstep ▸ ⟨rfl, List.prefix_rfl, hquiet⟩
      · cases hstep
    · cases hstep
  | cancel i =>
    simp only [Participant.step] at hstep
    split_ifs at hstep
    exact Option.some.inj hstep ▸ ⟨rfl, List.prefix_rfl, hquiet⟩
  | recv =>
    obtain ⟨taken, -, rfl⟩ := Option.map_eq_some_iff.mp hstep
    exact ⟨rfl, List.prefix_append _ _, hquiet⟩
  | publish succeeds =>
    obtain ⟨peer, -, rfl⟩ := Option.map_eq_some_iff.mp hstep
    exact ⟨rfl, List.prefix_rfl, hquiet⟩
  | room origin event =>
    simp only [Participant.step, roomEvent] at hstep
    split_ifs at hstep
    exact Option.some.inj hstep ▸ ⟨rfl, List.prefix_rfl, (List.append_assoc _ _ _).symm⟩
  | handleFrame =>
    simp only [Participant.step, takeIncoming] at hstep
    split at hstep
    · cases hstep
    · rename_i packet rest hincoming
      obtain rfl := Option.some.inj hstep
      refine ⟨rfl, List.prefix_rfl, ?_⟩
      show p.taken ++ [packet] ++ rest = p.taken ++ p.incoming ++ []
      rw [hincoming, List.append_nil, List.append_assoc, List.singleton_append]
  | close => exact Option.some.inj hstep ▸ ⟨rfl, List.prefix_rfl, hquiet⟩

end Participant

end TauriVpn.Olcrtc
