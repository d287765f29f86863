import TauriVpn.Olcrtc.Participant

/-! The participants of a room. A step of the room is a step of one of them; what the room
delivers is free, and where a result needs the room to be reliable the guard of its runs says
so. A reliable room hands on what a participant published in the order in which it did, so
the frames that reach a multiplexer from another are those that the other's queue took, in
their order, up to some point. -/

namespace TauriVpn.Olcrtc

open StepSystem

abbrev Room (ι : Type*) := ι → Participant ι

section Views
variable {ι : Type*} [DecidableEq ι] (aead : Aead) (p : Participant ι)

/-- The ciphertexts among the packets that came from a participant. -/
def sentBy (origin : ι) (packets : List (ι × Bytes)) : List Bytes :=
  (packets.filter fun packet => packet.1 = origin).map Prod.snd

theorem sentBy_append (origin : ι) (packets packets' : List (ι × Bytes)) :
    sentBy origin (packets ++ packets') = sentBy origin packets ++ sentBy origin packets' := by
  simp [sentBy]

/-- The ciphertexts of a participant that have reached the client. -/
def Participant.arrivedFrom (origin : ι) : List Bytes := sentBy origin (p.taken ++ p.incoming)

/-- The frames of a participant that the multiplexer has been given. -/
def Participant.handledFrom (origin : ι) : List Bytes := (sentBy origin p.taken).filterMap (p.cipher.opened aead)

/-- The frames that the queue took. -/
def Participant.sentFrames : List Bytes := p.accepted.filterMap (p.cipher.opened aead)

end Views

/-- The queue took no frame that was not built, and none twice. -/
theorem Participant.Sound.sentFrames_subperm {ι : Type*} {aead : Aead} {p : Participant ι} (h : p.Sound aead) :
    (p.sentFrames aead).Subperm p.built := by
  have hsub : (p.accepted.map (p.cipher.opened aead)).Subperm (p.built.map some) :=
    ((List.sublist_append_left _ _).map _).subperm.trans h.opens
  obtain ⟨opened, hperm, hsublist⟩ := hsub
  have hframes := hperm.filterMap id
  have hbuilt := hsublist.filterMap id
  rw [List.filterMap_map] at hframes hbuilt
  have hall : p.built.filterMap (id ∘ some) = p.built := List.filterMap_some
  exact ⟨_, hframes, hall ▸ hbuilt⟩

namespace Room

variable {ι : Type*} [DecidableEq ι] (aead : Aead)

def step (room : Room ι) (e : ι × ParticipantEvent ι) : Option (Room ι) :=
  ((room e.1).step aead e.2).map (Function.update room e.1)

/-- Every client has its key and the id that it drew, and an empty multiplexer. -/
def start (ciphers : ι → OlcCipher) (clientIds : ι → UInt32) : Room ι := fun i =>
  { cipher := ciphers i, mux := Multiplexer.new (clientIds i) }

/-- What the room delivers of participant `j` to participant `i` on the data topic is what
`j` published next. -/
def DeliversInOrder (i j : ι) (room : Room ι) : ι × ParticipantEvent ι → Prop
  | (k, .room origin (.dataReceived payload topic)) => k = i → origin = j → topic = some dataTopic →
      (room j).published[((room i).arrivedFrom j).length]? = some payload
  | _ => True

instance (i j : ι) (room : Room ι) (e : ι × ParticipantEvent ι) : Decidable (room.DeliversInOrder i j e) :=
  match e with
  | (k, .room origin (.dataReceived payload topic)) => inferInstanceAs (Decidable (k = i → origin = j →
      topic = some dataTopic → (room j).published[((room i).arrivedFrom j).length]? = some payload))
  | (_, .room _ .disconnected) => isTrue trivial
  | (_, .room _ .other) => isTrue trivial
  | (_, .openStream) => isTrue trivial
  | (_, .readStream _) => isTrue trivial
  | (_, .waitForData _) => isTrue trivial
  | (_, .sendData _ _) => isTrue trivial
  | (_, .closeStream _ _) => isTrue trivial
  | (_, .sendClientReset _) => isTrue trivial
  | (_, .nextChunk _ _) => isTrue trivial
  | (_, .enqueue _) => isTrue trivial
  | (_, .cancel _) => isTrue trivial
  | (_, .recv) => isTrue trivial
  | (_, .publish _) => isTrue trivial
  | (_, .handleFrame) => isTrue trivial
  | (_, .close) => isTrue trivial

section Step
variable {aead} {room room' : Room ι} {e : ι × ParticipantEvent ι}

/-- One participant takes the step, and the others stay as they are. -/
theorem step_cases (h : room.step aead e = some room') :
    (room e.1).step aead e.2 = some (room' e.1) ∧ ∀ k, k ≠ e.1 → room' k = room k := by
  obtain ⟨p, hp, rfl⟩ := Option.map_eq_some_iff.mp h
  exact ⟨by rw [hp, Function.update_self], fun k hk => Function.update_of_ne hk _ _⟩

/-- What a step of a participant makes of a property, a step of the room makes of everyone's. -/
theorem step_participant {P : Participant ι → Participant ι → Prop} (hrefl : ∀ p, P p p)
    (hstep : ∀ p e p', Participant.step aead p e = some p' → P p p') (h : room.step aead e = some room') (k : ι) :
    P (room k) (room' k) := by
  obtain ⟨hself, hothers⟩ := step_cases h
  by_cases hk : k = e.1
  · exact hk ▸ hstep _ _ _ hself
  · exact hothers k hk ▸ hrefl _

theorem step_sound (haead : aead.Correct) (hsound : ∀ k, (room k).Sound aead)
    (h : room.step aead e = some room') (k : ι) : (room' k).Sound aead :=
  step_participant (P := fun p p' => p.Sound aead → p'.Sound aead) (fun _ hp => hp)
    (fun _ _ _ hstep hp => hp.step haead hstep) h k (hsound k)

theorem step_cipher (h : room.step aead e = some room') (k : ι) : (room' k).cipher = (room k).cipher :=
  step_participant (P := fun p p' => p'.cipher = p.cipher) (fun _ => rfl)
    (fun _ _ _ hstep => (Participant.step_extends hstep).cipher) h k

theorem step_clientId (h : room.step aead e = some room') (k : ι) :
    (room' k).mux.clientId = (room k).mux.clientId :=
  step_participant (P := fun p p' => p'.mux.clientId = p.mux.clientId) (fun _ => rfl)
    (fun _ _ _ hstep => (Participant.step_effect hstep).clientId) h k

theorem step_published (h : room.step aead e = some room') (k : ι) : (room k).published <+: (room' k).published :=
  step_participant (P := fun p p' => p.published <+: p'.published) (fun _ => List.prefix_rfl)
    (fun _ _ _ hstep => (Participant.step_extends hstep).published) h k

theorem step_built (h : room.step aead e = some room') (k : ι) : (room k).built <+: (room' k).built :=
  step_participant (P := fun p p' => p.built <+: p'.built) (fun _ => List.prefix_rfl)
    (fun _ _ _ hstep => (Participant.step_effect hstep).built) h k

/-- Only a delivery to the participant adds to what it has from another. -/
theorem step_arrivedFrom (h : room.step aead e = some room') (i j : ι) :
    (room' i).arrivedFrom j = (room i).arrivedFrom j ++ if e.1 = i then sentBy j e.2.arrivals else [] := by
  obtain ⟨hself, hothers⟩ := step_cases h
  split_ifs with hi
  · subst hi
    rw [Participant.arrivedFrom, (Participant.step_extends hself).arrived, sentBy_append]
    rfl
  · rw [hothers i (Ne.symm hi), List.append_nil]

/-- In a reliable room what has arrived of a participant is the start of what it published. -/
theorem step_inOrder {i j : ι} (hfirst : (room i).arrivedFrom j <+: (room j).published)
    (hguard : room.DeliversInOrder i j e) (h : room.step aead e = some room') :
    (room' i).arrivedFrom j <+: (room' j).published := by
  refine List.IsPrefix.trans ?_ (step_published h j)
  rw [step_arrivedFrom h]
  split_ifs with hi
  · obtain ⟨k, event⟩ := e
    cases event with
    | room origin event =>
      cases event with
      | dataReceived payload topic =>
        by_cases hdata : origin = j ∧ topic = some dataTopic
        · have hnext := hguard hi hdata.1 hdata.2
          have hone : sentBy j (ParticipantEvent.room origin (.dataReceived payload topic)).arrivals = [payload] := by
            simp [sentBy, ParticipantEvent.arrivals, RoomEvent.forwarded, hdata.1, hdata.2]
          obtain ⟨rest, hrest⟩ := hfirst
          rw [← hrest, List.getElem?_append_right (Nat.le_refl _), Nat.sub_self] at hnext
          obtain ⟨tail, rfl⟩ := List.head?_eq_some_iff.mp (List.head?_eq_getElem? ▸ hnext)
          rw [hone, ← hrest]
          exact ⟨tail, by simp⟩
        · have hnone : sentBy j (ParticipantEvent.room origin (.dataReceived payload topic)).arrivals = [] := by
            by_cases htopic : topic = some dataTopic
            · have horigin : origin ≠ j := fun horigin => hdata ⟨horigin, htopic⟩
              simp [sentBy, ParticipantEvent.arrivals, RoomEvent.forwarded, htopic, horigin]
            · simp [sentBy, ParticipantEvent.arrivals, RoomEvent.forwarded, htopic]
          rwa [hnone, List.append_nil]
      | disconnected => rwa [show sentBy j _ = [] from rfl, List.append_nil]
      | other => rwa [show sentBy j _ = [] from rfl, List.append_nil]
    | _ => rwa [show sentBy j _ = [] from rfl, List.append_nil]
  · rwa [List.append_nil]

end Step

section Run
variable {aead} {room : Room ι} {ciphers : ι → OlcCipher} {clientIds : ι → UInt32}
  {events : List (ι × ParticipantEvent ι)}

theorem run_sound (haead : aead.Correct) (hrun : run (step aead) (start ciphers clientIds) events = some room) (k : ι) :
    (room k).Sound aead :=
  run_invariant (fun (room : Room ι) _ _ (hsound : ∀ k, (room k).Sound aead) h k => step_sound haead hsound h k)
    (fun _ => Participant.sound_start aead _ _) hrun k

theorem run_cipher (hrun : run (step aead) (start ciphers clientIds) events = some room) (k : ι) :
    (room k).cipher = ciphers k := by
  have hstep : ∀ (room : Room ι) e room', (room k).cipher = ciphers k → step aead room e = some room' →
      (room' k).cipher = ciphers k := fun _ _ _ hcipher h => (step_cipher h k).trans hcipher
  have hend := run_invariant hstep rfl hrun
  exact hend

theorem run_inOrder {i j : ι} (hguard : Guarded (step aead) (DeliversInOrder i j) (start ciphers clientIds) events)
    (hrun : run (step aead) (start ciphers clientIds) events = some room) :
    (room i).arrivedFrom j <+: (room j).published := by
  have hstart : (start ciphers clientIds i).arrivedFrom j <+: (start ciphers clientIds j).published := List.nil_prefix
  have hstep : ∀ (room : Room ι) e room', (room i).arrivedFrom j <+: (room j).published →
      DeliversInOrder i j room e → step aead room e = some room' → (room' i).arrivedFrom j <+: (room' j).published :=
    fun _ _ _ hfirst hguard h => step_inOrder hfirst hguard h
  have hend := run_invariant_of_guarded hstep hstart hguard hrun
  exact hend

/-- With one key, what is handled of a participant is the start of what its queue took. -/
theorem handledFrom_isStart (haead : aead.Correct) {i j : ι} (hkey : ciphers i = ciphers j)
    (hguard : Guarded (step aead) (DeliversInOrder i j) (start ciphers clientIds) events)
    (hrun : run (step aead) (start ciphers clientIds) events = some room) :
    (room i).handledFrom aead j <+: (room j).sentFrames aead := by
  have htaken : sentBy j (room i).taken <+: (room i).arrivedFrom j := by
    rw [Participant.arrivedFrom, sentBy_append]
    exact List.prefix_append _ _
  have hcipher : (room i).cipher = (room j).cipher := by rw [run_cipher hrun, run_cipher hrun, hkey]
  rw [Participant.handledFrom, hcipher]
  exact ((htaken.trans (run_inOrder hguard hrun)).trans (run_sound haead hrun j).published).filterMap _

end Run

/-- In a room that delivers what `j` publishes to `i` in order, and where both have one key:
the frames that `i`'s multiplexer has been given from `j` are the first of those that `j`'s
queue took, in their order; the queue took no frame that `j` did not build, and none twice;
it never holds more than it has room for; and once the queue is empty and all that was
published has arrived and is handled, no frame that it took is missing. -/
theorem frames_in_order (haead : aead.Correct) (ciphers : ι → OlcCipher) (clientIds : ι → UInt32) (i j : ι)
    (hkey : ciphers i = ciphers j) (events : List (ι × ParticipantEvent ι))
    (hguard : Guarded (step aead) (DeliversInOrder i j) (start ciphers clientIds) events) (room : Room ι)
    (hrun : run (step aead) (start ciphers clientIds) events = some room) :
    (room i).handledFrom aead j <+: (room j).sentFrames aead ∧
      ((room j).sentFrames aead).Subperm (room j).built ∧
      (room j).peer.sendQueue.length ≤ sendQueueSize ∧
      ((room j).peer.publishing = true → (room j).peer.sendQueue = [] → (room i).incoming = [] →
        ((room i).arrivedFrom j).length = (room j).published.length →
        (room i).handledFrom aead j = (room j).sentFrames aead) := by
  have hsound := run_sound haead hrun j
  have hcipher : (room i).cipher = (room j).cipher := by rw [run_cipher hrun, run_cipher hrun, hkey]
  refine ⟨handledFrom_isStart haead hkey hguard hrun, hsound.sentFrames_subperm, hsound.bounded,
    fun hpublishing hqueue hincoming hlength => ?_⟩
  · have harrived : (room i).arrivedFrom j = (room j).published := (run_inOrder hguard hrun).eq_of_length hlength
    have haccepted : (room j).accepted = (room j).published := by
      rw [hsound.queued hpublishing, hqueue, List.append_nil]
    rw [Participant.handledFrom, Participant.sentFrames, hcipher, haccepted, ← harrived, Participant.arrivedFrom,
      hincoming, List.append_nil]

/-- A cipher that puts the key before the frame, and looks for it there. -/
def keyedAead : Aead where
  encrypt key _ plaintext := .ok (key.toList ++ plaintext)
  decrypt key _ encrypted :=
    if encrypted.take 32 = key.toList then .ok (encrypted.drop 32) else .error "aead::Error"

theorem keyedAead_correct : keyedAead.Correct := by
  intro key nonce plaintext encrypted h
  obtain rfl := Except.ok.inj h
  have hlength : key.toList.length = 32 := by simp
  have htake : (key.toList ++ plaintext).take 32 = key.toList := List.take_left' hlength
  have hdrop : (key.toList ++ plaintext).drop 32 = plaintext := List.drop_left' hlength
  show (if (key.toList ++ plaintext).take 32 = key.toList then Except.ok ((key.toList ++ plaintext).drop 32)
    else Except.error "aead::Error") = Except.ok plaintext
  rw [if_pos htake, hdrop]

/-- A key and a nonce for examples. -/
def zeroCipher : OlcCipher := { key := Vector.replicate 32 0 }
def zeroNonce : Vector UInt8 24 := Vector.replicate 24 0

/-- Two clients with the key. -/
def twoIds (i : Bool) : UInt32 := if i then 7 else 9
def twoClients : Room Bool := start (fun _ => zeroCipher) twoIds

/-- One client resets, sends a byte on stream 1, and the other handles both frames. -/
def twoFrames : List (Bool × ParticipantEvent Bool) :=
  let packet (frame : Bytes) := zeroNonce.toList ++ (zeroCipher.key.toList ++ frame)
  [(true, .sendClientReset zeroNonce), (true, .enqueue 0), (true, .recv), (true, .publish true),
    (true, .openStream), (true, .sendData 1 [3]), (true, .nextChunk 1 zeroNonce), (true, .enqueue 1),
    (false, .room true (.dataReceived (packet (resetFrame 7)) (some dataTopic))), (true, .recv),
    (false, .handleFrame), (false, .room true (.dataReceived (packet (dataFrame 7 1 0 [3])) (some dataTopic))),
    (false, .handleFrame)]

/-- The frames of the two arrive, and none is missing. -/
theorem frames_in_order_two : ∃ room, run (step keyedAead) twoClients twoFrames = some room ∧
    (room false).handledFrom keyedAead true <+: (room true).sentFrames keyedAead := by
  have hrun := (Option.some_get (show (run (step keyedAead) twoClients twoFrames).isSome by decide)).symm
  exact ⟨_, hrun, (frames_in_order keyedAead keyedAead_correct (fun _ => zeroCipher) twoIds
    false true rfl twoFrames (by decide) _ hrun).1⟩

end Room

end TauriVpn.Olcrtc
