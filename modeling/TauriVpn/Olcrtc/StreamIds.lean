import TauriVpn.Olcrtc.Operation

/-! Stream ids over the life of a multiplexer. `open_stream` draws ids until it
finds one that is not a key of the stream table; closing a session marks its
entry and leaves it in the table, so an id is used up by the first session that
draws it. -/

namespace TauriVpn.Olcrtc

open StepSystem

namespace Multiplexer

/-! ### The allocation loop -/

/-- Some id that `open_stream` can draw is not a key of the table. -/
def HasFreeId (m : Multiplexer) : Prop := ∃ sid : UInt16, sid ≠ 0 ∧ m.streams[sid]? = none

/-- On a full table the loop finds nothing, however often it draws. -/
theorem openLoop_of_not_hasFreeId {m : Multiplexer} (h : ¬m.HasFreeId) (fuel : ℕ) :
    openLoop fuel m = none := by
  induction fuel generalizing m with
  | zero => rfl
  | succ fuel ih =>
    simp only [openLoop]
    cases hget : m.streams[m.drawId]? with
    | none => exact absurd ⟨m.drawId, m.drawId_ne_zero, hget⟩ h
    | some stream => exact ih h

/-- The draw that reaches a free id ends the loop, unless an earlier one did. -/
theorem openLoop_isSome {sid : UInt16} (hsid : sid ≠ 0) (j : ℕ) :
    ∀ (fuel : ℕ) (m : Multiplexer), j < fuel → m.nextId + UInt16.ofNat j = sid →
      m.streams[sid]? = none → (openLoop fuel m).isSome := by
  induction j with
  | zero =>
    intro fuel m hlt hnext hfree
    obtain ⟨fuel, rfl⟩ := Nat.exists_eq_add_of_lt hlt
    have hdraw : m.drawId = sid := by
      have hid : m.nextId = sid := by simpa using hnext
      rw [drawId, if_neg (by rw [hid]; exact hsid), hid]
    simp [openLoop, hdraw, hfree]
  | succ j ih =>
    intro fuel m hlt hnext hfree
    obtain ⟨fuel, rfl⟩ := Nat.exists_eq_add_of_lt hlt
    simp only [openLoop]
    cases hget : m.streams[m.drawId]? with
    | none => rfl
    | some stream =>
      refine ih _ _ (by omega) ?_ hfree
      rw [← hnext, UInt16.ofNat_add, UInt16.add_assoc, UInt16.add_comm 1]
      rfl

/-- `open_stream` returns exactly when some id is free. -/
theorem openStream_isSome_iff (m : Multiplexer) : m.openStream.isSome ↔ m.HasFreeId := by
  constructor
  · intro h
    by_contra hfull
    rw [openStream, openLoop_of_not_hasFreeId hfull] at h
    cases h
  · rintro ⟨sid, hsid, hfree⟩
    refine openLoop_isSome hsid (sid - m.nextId).toNat _ m (UInt16.toNat_lt _) ?_ hfree
    rw [UInt16.ofNat_toNat, UInt16.add_comm, UInt16.sub_add_cancel]

/-! ### Counting the table -/

/-- The ids in use, as numbers. -/
def usedIds (m : Multiplexer) : Finset ℕ := (m.streams.keys.map UInt16.toNat).toFinset

theorem mem_usedIds {m : Multiplexer} {sid : UInt16} :
    sid.toNat ∈ m.usedIds ↔ m.streams[sid]? ≠ none := by
  simp only [usedIds, List.mem_toFinset, List.mem_map, Std.ExtTreeMap.mem_keys, UInt16.toNat_inj,
    exists_eq_right, Std.ExtTreeMap.mem_iff_isSome_getElem?, ne_eq, Option.isSome_iff_ne_none]

theorem card_usedIds (m : Multiplexer) : m.usedIds.card = m.streams.size := by
  have hnodup : (m.streams.keys.map UInt16.toNat).Nodup :=
    Std.ExtTreeMap.nodup_keys.map fun _ _ => UInt16.toNat_inj.mp
  rw [usedIds, List.toFinset_card_of_nodup hnodup, List.length_map, Std.ExtTreeMap.length_keys]

theorem usedIds_subset {m : Multiplexer} (h0 : m.streams[(0 : UInt16)]? = none) :
    m.usedIds ⊆ Finset.Icc 1 65535 := by
  intro n hn
  obtain ⟨sid, hsid, rfl⟩ := List.mem_map.mp (List.mem_toFinset.mp hn)
  have hlt := sid.toNat_lt
  have hne : sid.toNat ≠ 0 := fun hzero => by
    have h := mem_usedIds.mp hn
    rw [UInt16.toNat_inj.mp (hzero.trans rfl : sid.toNat = (0 : UInt16).toNat)] at h
    exact h h0
  exact Finset.mem_Icc.mpr ⟨by omega, by omega⟩

/-- A table without the key 0 is full at 65535 entries. -/
theorem hasFreeId_iff_size_lt {m : Multiplexer} (h0 : m.streams[(0 : UInt16)]? = none) :
    m.HasFreeId ↔ m.streams.size < 65535 := by
  rw [← card_usedIds]
  constructor
  · rintro ⟨sid, hsid, hfree⟩
    have hpos : sid.toNat ≠ 0 := fun h => hsid (UInt16.toNat_inj.mp h)
    have hlt := sid.toNat_lt
    have hmem : sid.toNat ∈ Finset.Icc 1 65535 := Finset.mem_Icc.mpr ⟨by omega, by omega⟩
    have hsub : m.usedIds ⊂ Finset.Icc 1 65535 :=
      (Finset.ssubset_iff_of_subset (usedIds_subset h0)).mpr
        ⟨_, hmem, fun h => mem_usedIds.mp h hfree⟩
    simpa using Finset.card_lt_card hsub
  · intro hlt
    have hne : ¬Finset.Icc 1 65535 ⊆ m.usedIds := fun hsub => by
      have hle := Finset.card_le_card hsub
      simp only [Nat.card_Icc] at hle
      omega
    obtain ⟨n, hn, hnot⟩ := Finset.not_subset.mp hne
    obtain ⟨h1, h2⟩ := Finset.mem_Icc.mp hn
    have hnat : (UInt16.ofNat n).toNat = n := by
      rw [UInt16.toNat_ofNat', Nat.mod_eq_of_lt (by omega)]
    refine ⟨UInt16.ofNat n, fun h => ?_, ?_⟩
    · rw [h] at hnat
      exact absurd hnat (by simp; omega)
    · by_contra hused
      exact hnot (hnat ▸ mem_usedIds.mpr hused)

theorem size_le {m : Multiplexer} (h0 : m.streams[(0 : UInt16)]? = none) : m.streams.size ≤ 65535 := by
  have hle := Finset.card_le_card (usedIds_subset h0)
  rwa [card_usedIds, Nat.card_Icc] at hle

/-- Closing marks the entry and keeps its key. -/
theorem closeStream_keys (m : Multiplexer) (send : SendFn) (sid : UInt16) :
    (m.closeStream send sid).mux.streams.size = m.streams.size ∧
      (m.streams[(0 : UInt16)]? = none → (m.closeStream send sid).mux.streams[(0 : UInt16)]? = none) := by
  unfold closeStream
  cases hget : m.streams[sid]? with
  | none => exact ⟨rfl, id⟩
  | some stream =>
    have hmem : sid ∈ m.streams := by
      rw [Std.ExtTreeMap.mem_iff_isSome_getElem?, hget]
      rfl
    refine ⟨by simp [setStream, Std.ExtTreeMap.size_insert, hmem], fun h0 => ?_⟩
    have hne : sid ≠ 0 := fun h => by
      rw [h, h0] at hget
      cases hget
    rw [setStream_get_ne _ _ hne, h0]

/-! ### Entries that stay -/

theorem isSome_of_insert {m m' : Multiplexer} {sid sid' : UInt16} {stream : Stream}
    (hm : m'.streams = m.streams.insert sid' stream) (h : m.streams[sid]?.isSome) :
    m'.streams[sid]?.isSome := by
  rw [hm, Std.ExtTreeMap.getElem?_insert]
  split_ifs
  · rfl
  · exact h

theorem isSome_sendData {m : Multiplexer} {sid : UInt16} (h : m.streams[sid]?.isSome) (send : SendFn)
    (sid' : UInt16) (data : Bytes) : (m.sendData send sid' data).mux.streams[sid]?.isSome := by
  refine sendData_keeps (P := fun m => m.streams[sid]?.isSome) (fun m seq m' h halloc => ?_) h send data
  obtain ⟨stream, -, -, -, rfl⟩ := allocSeq_eq_some halloc
  exact isSome_of_insert rfl h

theorem isSome_entryOrInsert {m : Multiplexer} {sid : UInt16} (h : m.streams[sid]?.isSome)
    (sid' : UInt16) (clientId : UInt32) : (m.entryOrInsert sid' clientId).2.streams[sid]?.isSome := by
  unfold entryOrInsert
  cases m.streams[sid']? with
  | none => exact isSome_of_insert rfl h
  | some stream => exact h

/-- A frame that resets the client of the stream. -/
def Resets (frame : Bytes) (stream : Stream) : Prop :=
  parseControlFrame frame = some ⟨stream.clientId, controlResetClient⟩

/-- Only a reset of its client removes an entry. -/
theorem isSome_handleFrame {m : Multiplexer} {sid : UInt16} {stream : Stream} {frame : Bytes}
    (hget : m.streams[sid]? = some stream) (hspares : ¬Resets frame stream) :
    (m.handleFrame frame).1.streams[sid]?.isSome := by
  have h : m.streams[sid]?.isSome := by rw [hget]; rfl
  unfold handleFrame
  split_ifs
  · exact h
  · cases hcontrol : parseControlFrame frame with
    | some control =>
      dsimp only
      split_ifs with hkind
      · have hne : stream.clientId ≠ control.clientId := fun hid =>
          hspares (by rw [Resets, hcontrol, hid, ← hkind])
        rw [resetClient_get, hget, Option.filter_some, if_pos (bne_iff_ne.mpr hne)]
        rfl
      · exact h
    | none =>
      dsimp only
      split_ifs
      · unfold markClosed
        cases m.streams[frameSid frame]? with
        | none => exact h
        | some stream =>
          dsimp only
          split_ifs
          · exact isSome_of_insert rfl h
          · exact h
      · exact h
      · exact isSome_of_insert rfl (isSome_entryOrInsert h _ _)

theorem isSome_closeStream {m : Multiplexer} {sid : UInt16} (h : m.streams[sid]?.isSome) (send : SendFn)
    (sid' : UInt16) : (m.closeStream send sid').mux.streams[sid]?.isSome := by
  unfold closeStream
  cases m.streams[sid']? with
  | none => exact h
  | some stream => exact isSome_of_insert rfl h

theorem isSome_perform {m m' : Multiplexer} {sid : UInt16} {stream : Stream} {op : Operation}
    (hget : m.streams[sid]? = some stream)
    (hspares : ∀ frame, op = .handleFrame frame → ¬Resets frame stream)
    (hstep : m.perform op = some m') : m'.streams[sid]?.isSome := by
  have h : m.streams[sid]?.isSome := by rw [hget]; rfl
  cases op with
  | openStream =>
    obtain ⟨⟨sid', m''⟩, hopen, rfl⟩ := Option.map_eq_some_iff.mp hstep
    exact isSome_of_insert (openLoop_spec hopen).2.2.1 h
  | sendData send sid' data => exact Option.some.inj hstep ▸ isSome_sendData h send sid' data
  | closeStream send sid' => exact Option.some.inj hstep ▸ isSome_closeStream h send sid'
  | sendClientReset send => rwa [← Option.some.inj hstep, sendClientReset_mux]
  | handleFrame frame => exact Option.some.inj hstep ▸ isSome_handleFrame hget (hspares frame rfl)
  | readStream sid' =>
    rw [← Option.some.inj hstep]
    unfold readStream
    cases m.streams[sid']? with
    | none => exact h
    | some stream => exact isSome_of_insert rfl h
  | waitForData sid' =>
    rw [← Option.some.inj hstep, waitForData_snd]
    exact isSome_entryOrInsert h _ _

end Multiplexer

/-! ### Sessions -/

/-- A session starts with `open_stream` and finishes with `close_stream` on the
id it got; `other` is any other call on the multiplexer. -/
inductive SessionEvent where
  | start
  | finish (send : SendFn) (i : ℕ)
  | other (op : Operation)

/-- The multiplexer, the ids of the sessions that have started and not finished,
and whether an `open_stream` call spins, with the lock held. -/
structure Sessions where
  mux : Multiplexer
  live : List UInt16
  hung : Bool

namespace Sessions

def initial (clientId : UInt32) : Sessions := ⟨Multiplexer.new clientId, [], false⟩

def step (s : Sessions) (e : SessionEvent) : Option Sessions :=
  if s.hung then none
  else match e with
    | .start =>
      match s.mux.openStream with
      | some (sid, mux) => some { s with mux, live := sid :: s.live }
      | none => some { s with hung := true }
    | .finish send i =>
      match s.live[i]? with
      | some sid => some { s with mux := (s.mux.closeStream send sid).mux, live := s.live.eraseIdx i }
      | none => none
    | .other .openStream => none
    | .other (.closeStream _ _) => none
    | .other op => (s.mux.perform op).map fun mux => { s with mux }

/-- A session starts while some id is not a key of the table. -/
def FindsFreeId (s : Sessions) : SessionEvent → Prop
  | .start => s.mux.HasFreeId
  | _ => True

/-- No handled frame resets the client of a live session's stream. -/
def SparesLive (s : Sessions) : SessionEvent → Prop
  | .other (.handleFrame frame) =>
    ∀ sid ∈ s.live, ∀ stream ∈ s.mux.streams[sid]?, ¬Multiplexer.Resets frame stream
  | _ => True

-- the bounded quantifier over the list, not the one over all 16-bit ids
instance (s : Sessions) (e : SessionEvent) : Decidable (s.SparesLive e) := by
  unfold SparesLive Multiplexer.Resets
  split
  · exact List.decidableBAll _ _
  · infer_instance

/-- The live sessions have different ids, and each has its entry. -/
structure Inv (s : Sessions) : Prop where
  nodup : s.live.Nodup
  present : ∀ sid ∈ s.live, s.mux.streams[sid]?.isSome

section Step
variable {s s' : Sessions} {e : SessionEvent}

/-- What a step can be. -/
theorem step_cases (h : s.step e = some s') : s.hung = false ∧
    ((∃ sid mux, e = .start ∧ s.mux.openStream = some (sid, mux) ∧
        s' = { s with mux, live := sid :: s.live }) ∨
      (e = .start ∧ s.mux.openStream = none ∧ s' = { s with hung := true }) ∨
      (∃ send i sid, e = .finish send i ∧ s.live[i]? = some sid ∧
        s' = { s with mux := (s.mux.closeStream send sid).mux, live := s.live.eraseIdx i }) ∨
      (∃ op mux, e = .other op ∧ s.mux.perform op = some mux ∧ s' = { s with mux })) := by
  unfold step at h
  split_ifs at h with hhung
  refine ⟨by simpa using hhung, ?_⟩
  split at h
  · split at h
    · rename_i hopen
      exact Or.inl ⟨_, _, rfl, hopen, (Option.some.inj h).symm⟩
    · rename_i hopen
      exact Or.inr (Or.inl ⟨rfl, hopen, (Option.some.inj h).symm⟩)
  · split at h
    · rename_i hget
      exact Or.inr (Or.inr (Or.inl ⟨_, _, _, rfl, hget, (Option.some.inj h).symm⟩))
    · cases h
  · cases h
  · cases h
  · obtain ⟨mux, hmux, rfl⟩ := Option.map_eq_some_iff.mp h
    exact Or.inr (Or.inr (Or.inr ⟨_, mux, rfl, hmux, rfl⟩))

theorem hung_step (hstep : s.step e = some s') : s'.hung = false ↔ s.FindsFreeId e := by
  obtain ⟨hhung, ⟨sid, mux, rfl, hopen, rfl⟩ | ⟨rfl, hopen, rfl⟩ | ⟨send, i, sid, rfl, -, rfl⟩ |
    ⟨op, mux, rfl, -, rfl⟩⟩ := step_cases hstep
  · exact iff_of_true hhung (s.mux.openStream_isSome_iff.mp (by rw [hopen]; rfl))
  · refine iff_of_false (by simp) fun hfree => ?_
    have := s.mux.openStream_isSome_iff.mpr hfree
    rw [hopen] at this
    cases this
  · exact iff_of_true hhung trivial
  · exact iff_of_true hhung trivial

theorem Inv.step (h : s.Inv) (hspares : s.SparesLive e) (hstep : s.step e = some s') : s'.Inv := by
  obtain ⟨-, ⟨sid, mux, rfl, hopen, rfl⟩ | ⟨rfl, -, rfl⟩ | ⟨send, i, sid, rfl, -, rfl⟩ |
    ⟨op, mux, rfl, hperform, rfl⟩⟩ := step_cases hstep
  · obtain ⟨-, hfree, hstreams, -⟩ := Multiplexer.openLoop_spec hopen
    refine ⟨List.nodup_cons.mpr ⟨fun hmem => ?_, h.nodup⟩, fun sid' hmem => ?_⟩
    · have := h.present sid hmem
      rw [hfree] at this
      cases this
    · rcases List.mem_cons.mp hmem with rfl | hmem
      · dsimp only
        rw [hstreams, Std.ExtTreeMap.getElem?_insert_self]
        rfl
      · exact Multiplexer.isSome_of_insert hstreams (h.present sid' hmem)
  · exact ⟨h.nodup, h.present⟩
  · refine ⟨h.nodup.sublist (List.eraseIdx_sublist _ _), fun sid' hmem => ?_⟩
    exact Multiplexer.isSome_closeStream (h.present sid' (List.mem_of_mem_eraseIdx hmem)) send sid
  · refine ⟨h.nodup, fun sid hmem => ?_⟩
    obtain ⟨stream, hget⟩ := Option.isSome_iff_exists.mp (h.present sid hmem)
    refine Multiplexer.isSome_perform hget (fun frame hframe => ?_) hperform
    subst hframe
    exact hspares sid hmem stream hget

end Step

/-- In every run, every `open_stream` call has returned exactly if each was made
while some id was not a key of the table; and unless a reset frame took away the
entry of a live session, no call has returned the id of a live session. -/
theorem open_streams_return_iff (clientId : UInt32) (events : List SessionEvent) (s : Sessions)
    (hrun : run step (initial clientId) events = some s) :
    (s.hung = false ↔ Guarded step FindsFreeId (initial clientId) events) ∧
      (Guarded step SparesLive (initial clientId) events → s.live.Nodup) := by
  constructor
  · have h := run_verdict (fun ok s => s.hung = false ↔ ok) (fun ok s e t h hstep => by
      rw [← h, hung_step hstep]
      exact (and_iff_right (step_cases hstep).1).symm) (iff_of_true rfl trivial) hrun
    rwa [true_and] at h
  · intro hspares
    have h0 : (initial clientId).Inv := ⟨List.nodup_nil, by simp [initial]⟩
    exact (run_invariant_of_guarded (fun _ _ _ h hg hstep => h.step hg hstep) h0 hspares hrun).nodup

/-! ### The 65536th session -/

/-- A run of sessions alone: no other call, no incoming frame. -/
def SessionsOnly (_ : Sessions) : SessionEvent → Prop
  | .other _ => False
  | _ => True

def starts : List SessionEvent → ℕ
  | [] => 0
  | .start :: events => starts events + 1
  | _ :: events => starts events

/-- After `n` starts the table has an entry for each that returned. -/
structure Counted (n : ℕ) (s : Sessions) : Prop where
  zero : s.mux.streams[(0 : UInt16)]? = none
  size : s.mux.streams.size + (if s.hung then 1 else 0) = n
  full : s.hung = true → s.mux.streams.size = 65535

theorem counted_initial (clientId : UInt32) : Counted 0 (initial clientId) :=
  ⟨by simp [initial, Multiplexer.new], by simp [initial, Multiplexer.new], by simp [initial]⟩

theorem Counted.start {n : ℕ} {s s' : Sessions} (h : Counted n s) (hstep : s.step .start = some s') :
    Counted (n + 1) s' := by
  obtain ⟨hhung, ⟨sid, mux, -, hopen, rfl⟩ | ⟨-, hopen, rfl⟩ | ⟨_, _, _, he, -⟩ | ⟨_, _, he, -⟩⟩ :=
    step_cases hstep
  · obtain ⟨hne, hfree, hstreams, -⟩ := Multiplexer.openLoop_spec hopen
    have hmem : sid ∉ s.mux.streams := by
      rw [Std.ExtTreeMap.mem_iff_isSome_getElem?, hfree]
      simp
    have hnew : mux.streams.size = s.mux.streams.size + 1 := by
      rw [hstreams, Std.ExtTreeMap.size_insert, if_neg (by simpa using hmem)]
    have hsize := h.size
    refine ⟨?_, ?_, fun hc => absurd hc (by simp [hhung])⟩
    · dsimp only
      rw [hstreams, Std.ExtTreeMap.getElem?_insert]
      simp [hne, h.zero]
    · simp only [hhung, Bool.false_eq_true, if_false, hnew] at hsize ⊢
      omega
  · have hfull : ¬s.mux.HasFreeId := fun hfree => by
      have := s.mux.openStream_isSome_iff.mpr hfree
      rw [hopen] at this
      cases this
    rw [Multiplexer.hasFreeId_iff_size_lt h.zero] at hfull
    have hle := Multiplexer.size_le h.zero
    have hsize := h.size
    rw [hhung] at hsize
    exact ⟨h.zero, by simpa using hsize, fun _ => by dsimp only; omega⟩
  · cases he
  · cases he

theorem Counted.finish {n : ℕ} {s s' : Sessions} {send : SendFn} {i : ℕ} (h : Counted n s)
    (hstep : s.step (.finish send i) = some s') : Counted n s' := by
  obtain ⟨hhung, ⟨_, _, he, -⟩ | ⟨he, -⟩ | ⟨send, i, sid, -, -, rfl⟩ | ⟨_, _, he, -⟩⟩ := step_cases hstep
  · cases he
  · cases he
  · obtain ⟨hsize, hzero⟩ := s.mux.closeStream_keys send sid
    exact ⟨hzero h.zero, by rw [hsize]; exact h.size, fun hc => absurd hc (by simp [hhung])⟩
  · cases he

theorem Counted.run {events : List SessionEvent} {n : ℕ} {s s' : Sessions} (h : Counted n s)
    (honly : Guarded step SessionsOnly s events) (hrun : StepSystem.run step s events = some s') :
    Counted (n + starts events) s' := by
  induction events generalizing n s with
  | nil => exact Option.some.inj hrun ▸ h
  | cons e events ih =>
    obtain ⟨t, ht, hrest⟩ := run_cons_eq_some.mp hrun
    cases e with
    | start =>
      have hcount := ih (h.start ht) (honly.2 t ht) hrest
      rwa [Nat.add_right_comm] at hcount
    | finish send i => exact ih (h.finish ht) (honly.2 t ht) hrest
    | other op => exact honly.1.elim

/-- Without incoming frames a multiplexer serves 65535 sessions, however many of
them have finished: the next `open_stream` call does not return. -/
theorem hung_iff_starts (clientId : UInt32) (events : List SessionEvent) (s : Sessions)
    (honly : Guarded step SessionsOnly (initial clientId) events)
    (hrun : StepSystem.run step (initial clientId) events = some s) :
    s.hung = true ↔ 65535 < starts events := by
  have h := (counted_initial clientId).run honly hrun
  have hle := Multiplexer.size_le h.zero
  have hsize := h.size
  have hfull := h.full
  cases hhung : s.hung with
  | false => simp only [hhung, Bool.false_eq_true, if_false, false_iff] at hsize ⊢; omega
  | true => simp only [hhung, if_true, true_iff] at hsize hfull ⊢; have := hfull trivial; omega

/-- A session that opens a stream and closes it, `n` times. -/
def rounds (n : ℕ) : List SessionEvent :=
  (List.replicate n [SessionEvent.start, .finish (fun _ => .ok ()) 0]).flatten

theorem rounds_succ (n : ℕ) :
    rounds (n + 1) = [SessionEvent.start, .finish (fun _ => .ok ()) 0] ++ rounds n := by
  rw [rounds, List.replicate_succ, List.flatten_cons, rounds]

def AtMostOneLive (s : Sessions) (_ : SessionEvent) : Prop := s.live.length ≤ 1

/-- No session is live, after `n` of them. -/
def Idle (n : ℕ) (s : Sessions) : Prop := Counted n s ∧ s.hung = false ∧ s.live = []

theorem Idle.round {n : ℕ} {s : Sessions} (h : Idle n s) (hn : n < 65535) :
    ∃ s', StepSystem.run step s [SessionEvent.start, .finish (fun _ => .ok ()) 0] = some s' ∧
      Idle (n + 1) s' ∧
      Guarded step AtMostOneLive s [SessionEvent.start, .finish (fun _ => .ok ()) 0] := by
  obtain ⟨hcount, hhung, hlive⟩ := h
  have hsize := hcount.size
  simp only [hhung, Bool.false_eq_true, if_false, add_zero] at hsize
  have hfree := (Multiplexer.hasFreeId_iff_size_lt hcount.zero).mpr (by omega)
  obtain ⟨⟨sid, mux⟩, hopen⟩ := Option.isSome_iff_exists.mp (s.mux.openStream_isSome_iff.mpr hfree)
  have hstart : s.step .start = some { s with mux, live := [sid] } := by
    simp [step, hhung, hopen, hlive]
  have hfinish : step { s with mux, live := [sid] } (.finish (fun _ => .ok ()) 0) =
      some { s with mux := (mux.closeStream (fun _ => .ok ()) sid).mux, live := [] } := by
    simp [step, hhung]
  refine ⟨_, by rw [run_cons hstart, run_cons hfinish, run_nil],
    ⟨(hcount.start hstart).finish hfinish, hhung, rfl⟩, ?_⟩
  simp [Guarded, hstart, AtMostOneLive, hlive]

theorem Idle.rounds (n : ℕ) : ∀ {k : ℕ} {s : Sessions}, Idle k s → k + n ≤ 65535 →
    ∃ s', StepSystem.run step s (rounds n) = some s' ∧ Idle (k + n) s' ∧
      Guarded step AtMostOneLive s (Sessions.rounds n) := by
  induction n with
  | zero => exact fun {k s} h _ => ⟨s, rfl, h, trivial⟩
  | succ n ih =>
    intro k s h hk
    obtain ⟨t, hrun, ht, hone⟩ := h.round (by omega)
    obtain ⟨s', hrest, hs', hones⟩ := ih ht (by omega)
    refine ⟨s', ?_, by rwa [Nat.add_right_comm] at hs', ?_⟩
    · rw [rounds_succ, run_append, hrun, Option.bind_some, hrest]
    · rw [rounds_succ, guarded_append]
      exact ⟨hone, fun u hu => Option.some.inj (hrun ▸ hu) ▸ hones⟩

/-- 65535 sessions one after another, each closed before the next one starts: the
`open_stream` call of one more session does not return. -/
theorem stream_ids_run_out :
    ∃ s, StepSystem.run step (initial 1) (rounds 65535 ++ [.start]) = some s ∧
      Guarded step AtMostOneLive (initial 1) (rounds 65535 ++ [.start]) ∧ s.hung = true := by
  obtain ⟨t, hrun, ⟨hcount, hhung, hlive⟩, hone⟩ :=
    Idle.rounds 65535 (⟨counted_initial 1, rfl, rfl⟩ : Idle 0 (initial 1)) (by omega)
  have hsize := hcount.size
  simp only [hhung, Bool.false_eq_true, if_false, add_zero, zero_add] at hsize
  have hfull : t.mux.openStream = none := by
    rw [← Option.not_isSome_iff_eq_none, t.mux.openStream_isSome_iff,
      Multiplexer.hasFreeId_iff_size_lt hcount.zero]
    omega
  have hstart : t.step .start = some { t with hung := true } := by simp [step, hhung, hfull]
  refine ⟨{ t with hung := true }, ?_, ?_, rfl⟩
  · rw [run_append, hrun, Option.bind_some, run_cons hstart, run_nil]
  · rw [guarded_append]
    refine ⟨hone, fun u hu => ⟨?_, fun _ _ => trivial⟩⟩
    rw [hrun, Option.some.injEq] at hu
    rw [← hu, AtMostOneLive, hlive]
    exact Nat.zero_le 1

/-- Two sessions and a frame for the first one. -/
theorem open_streams_return_two :
    ∃ s, StepSystem.run step (initial 1)
        [.start, .other (.handleFrame (dataFrame 0 1 0 [5])), .start, .finish (fun _ => .ok ()) 1] = some s ∧
      s.hung = false ∧ s.live.Nodup := by
  have hrun := (Option.some_get (show (StepSystem.run step (initial 1)
    [.start, .other (.handleFrame (dataFrame 0 1 0 [5])), .start,
      .finish (fun _ => .ok ()) 1]).isSome by decide)).symm
  obtain ⟨-, hfresh⟩ := open_streams_return_iff 1 _ _ hrun
  exact ⟨_, hrun, by decide, hfresh (by decide)⟩

end Sessions

end TauriVpn.Olcrtc
