import TauriVpn.Olcrtc.Operation
import TauriVpn.Olcrtc.Reassembly

/-! What holds of every entry of the stream table, whatever arrives. The numbers that are
held back lie beyond the expected one, there are at most a hundred of them, and each has
a payload of the length that a header can give. When the expected number wraps to zero
nothing is held back, for nothing lies beyond the largest number. -/

namespace TauriVpn.Olcrtc

open StepSystem

namespace Stream

/-- The representation invariant of an entry. -/
structure WellFormed (stream : Stream) : Prop where
  ahead : ∀ seq ∈ stream.outOfOrder, stream.nextRecvSeq.toNat < seq.toNat
  bounded : stream.outOfOrder.size ≤ 100
  payloads : ∀ (seq : UInt32) (payload : Bytes), stream.outOfOrder[seq]? = some payload →
    0 < payload.length ∧ payload.length < 65536

theorem wellFormed_fresh (clientId : UInt32) (notify : NotifyId) : (fresh clientId notify).WellFormed where
  ahead seq hseq := by simp [fresh] at hseq
  bounded := by simp [fresh]
  payloads seq payload hget := by simp [fresh] at hget

/-- What an entry is inside the drain loop: the expected number may be held itself. -/
structure Draining (stream : Stream) : Prop where
  notBehind : ∀ seq ∈ stream.outOfOrder, stream.nextRecvSeq.toNat ≤ seq.toNat
  bounded : stream.outOfOrder.size ≤ 100
  payloads : ∀ (seq : UInt32) (payload : Bytes), stream.outOfOrder[seq]? = some payload →
    0 < payload.length ∧ payload.length < 65536

/-- Beyond the expected number lies the next one, unless it wraps and nothing is held. -/
theorem succ_le_of_lt {next seq : UInt32} (h : next.toNat < seq.toNat) : (next + 1).toNat ≤ seq.toNat := by
  have hlt : seq.toNat < 2 ^ 32 := seq.toNat_lt
  rw [toNat_add_one (by omega)]
  omega

section Drain
variable {stream : Stream} {seq : UInt32} {payload : Bytes}

/-- One iteration: the expected number is taken out, and the next one is expected. -/
theorem Draining.next (h : stream.Draining) (recvBuf : Bytes) :
    Draining { stream with
      outOfOrder := stream.outOfOrder.erase stream.nextRecvSeq
      recvBuf
      nextRecvSeq := stream.nextRecvSeq + 1 } where
  notBehind seq hseq := by
    obtain ⟨hne, hmem⟩ := Std.ExtTreeMap.mem_erase.mp hseq
    have hdiffers : stream.nextRecvSeq.toNat ≠ seq.toNat := fun heq => hne (by simp [UInt32.toNat_inj.mp heq])
    exact succ_le_of_lt (lt_of_le_of_ne (h.notBehind seq hmem) hdiffers)
  bounded := Std.ExtTreeMap.size_erase_le.trans h.bounded
  payloads seq payload hget := by
    rw [Std.ExtTreeMap.getElem?_erase] at hget
    split_ifs at hget
    exact h.payloads seq payload hget

theorem size_erase_of_get {data : Bytes} (h : stream.outOfOrder[seq]? = some data) :
    (stream.outOfOrder.erase seq).size + 1 = stream.outOfOrder.size := by
  have hmem : seq ∈ stream.outOfOrder := by
    rw [Std.ExtTreeMap.mem_iff_isSome_getElem?, h]
    rfl
  have hpos : stream.outOfOrder.size ≠ 0 := fun hzero => by
    rw [Std.ExtTreeMap.eq_empty_iff_size_eq_zero.mpr hzero] at hmem
    exact Std.ExtTreeMap.not_mem_empty hmem
  have hcontains : stream.outOfOrder.contains seq = true := Std.ExtTreeMap.contains_iff_mem.mpr hmem
  rw [Std.ExtTreeMap.size_erase, if_pos hcontains]
  omega

/-- The loop ends with the expected number not held, after as many iterations as there are
entries; more of them change nothing. The induction is on the iterations. -/
theorem drain_terminates {fuel : ℕ} {stream : Stream} (h : stream.outOfOrder.size ≤ fuel) :
    (stream.drain fuel).nextRecvSeq ∉ (stream.drain fuel).outOfOrder ∧
      stream.drain (fuel + 1) = stream.drain fuel := by
  induction fuel generalizing stream with
  | zero =>
    have hempty := Std.ExtTreeMap.eq_empty_iff_size_eq_zero.mpr (Nat.le_zero.mp h)
    have hnone : stream.outOfOrder[stream.nextRecvSeq]? = none := by simp [hempty]
    refine ⟨?_, ?_⟩
    · rw [drain, hempty]
      exact Std.ExtTreeMap.not_mem_empty
    · simp only [drain, hnone]
  | succ fuel ih =>
    cases hget : stream.outOfOrder[stream.nextRecvSeq]? with
    | none =>
      have hstop : ∀ n, stream.drain (n + 1) = stream := fun n => by simp only [drain, hget]
      rw [hstop, hstop]
      refine ⟨fun hmem => ?_, rfl⟩
      rw [Std.ExtTreeMap.mem_iff_isSome_getElem?, hget] at hmem
      cases hmem
    | some data =>
      have hsize := size_erase_of_get hget
      have hstep : ∀ n, stream.drain (n + 1) = drain n { stream with
          outOfOrder := stream.outOfOrder.erase stream.nextRecvSeq
          recvBuf := stream.recvBuf ++ data
          nextRecvSeq := stream.nextRecvSeq + 1 } := fun n => by simp only [drain, hget]
      rw [hstep, hstep]
      exact ih (by dsimp only; omega)

theorem drain_eq {fuel : ℕ} {stream : Stream} (h : stream.outOfOrder.size ≤ fuel) :
    stream.drain fuel = stream.drain stream.outOfOrder.size := by
  induction fuel, h using Nat.le_induction with
  | base => rfl
  | succ fuel h ih => exact (drain_terminates h).2.trans ih

theorem Draining.drain {stream : Stream} (h : stream.Draining) (fuel : ℕ) : (stream.drain fuel).Draining := by
  induction fuel generalizing stream with
  | zero => exact h
  | succ fuel ih =>
    unfold Stream.drain
    cases stream.outOfOrder[stream.nextRecvSeq]? with
    | none => exact h
    | some data => exact ih (h.next (stream.recvBuf ++ data))

/-- When the expected number is not held, all that is held lies beyond it. -/
theorem Draining.wellFormed (h : stream.Draining) (hnext : stream.nextRecvSeq ∉ stream.outOfOrder) :
    stream.WellFormed where
  ahead seq hseq := by
    refine lt_of_le_of_ne (h.notBehind seq hseq) fun heq => hnext ?_
    rwa [UInt32.toNat_inj.mp heq]
  bounded := h.bounded
  payloads := h.payloads

theorem WellFormed.adopt (h : stream.WellFormed) (clientId : UInt32) : (stream.adopt clientId).WellFormed := by
  unfold Stream.adopt
  split_ifs
  · exact wellFormed_fresh _ _
  · exact h

/-- A payload that is held back is one more, at most the hundredth. -/
theorem WellFormed.hold (h : stream.WellFormed) (hlt : stream.nextRecvSeq < seq) (hroom : stream.outOfOrder.size < 100)
    (hpos : 0 < payload.length) (hlength : payload.length < 65536) :
    WellFormed { stream with outOfOrder := stream.outOfOrder.insert seq payload } where
  ahead q hq := by
    rcases Std.ExtTreeMap.mem_insert.mp hq with heq | hmem
    · rw [← Std.compare_eq_iff_eq.mp heq]
      exact UInt32.lt_iff_toNat_lt.mp hlt
    · exact h.ahead q hmem
  bounded := Std.ExtTreeMap.size_insert_le.trans hroom
  payloads q data hget := by
    rw [Std.ExtTreeMap.getElem?_insert] at hget
    split_ifs at hget
    · rw [← Option.some.inj hget]
      exact ⟨hpos, hlength⟩
    · exact h.payloads q data hget

/-- The sequence window keeps the invariant, for every number and every payload of a frame. -/
theorem WellFormed.accept (h : stream.WellFormed) (seq : UInt32) (hpos : 0 < payload.length)
    (hlength : payload.length < 65536) : (stream.accept seq payload).1.WellFormed := by
  unfold Stream.accept
  split_ifs with hnext hahead
  · have hdraining : Draining { stream with
        recvBuf := stream.recvBuf ++ payload
        nextRecvSeq := stream.nextRecvSeq + 1 } :=
      ⟨fun q hq => succ_le_of_lt (h.ahead q hq), h.bounded, h.payloads⟩
    exact (hdraining.drain _).wellFormed (drain_terminates le_rfl).1
  · exact h.hold hahead.1 hahead.2 hpos hlength
  · exact h

end Drain

end Stream

namespace Multiplexer

def WellFormed (m : Multiplexer) : Prop := m.Each fun _ stream => stream.WellFormed

/-- Every operation keeps the invariant of the entries. -/
theorem WellFormed.perform {m m' : Multiplexer} {op : Operation} (h : m.WellFormed) (hstep : m.perform op = some m') :
    m'.WellFormed := by
  have hkeep : ∀ {stream stream' : Stream}, stream.WellFormed → stream'.outOfOrder = stream.outOfOrder →
      stream'.nextRecvSeq = stream.nextRecvSeq → stream'.WellFormed := by
    intro stream stream' hs hmap hnext
    exact ⟨by rw [hmap, hnext]; exact hs.ahead, by rw [hmap]; exact hs.bounded, by rw [hmap]; exact hs.payloads⟩
  cases op with
  | openStream =>
    obtain ⟨⟨sid, m''⟩, hopen, rfl⟩ := Option.map_eq_some_iff.mp hstep
    exact Each.openStream h (fun _ => Stream.wellFormed_fresh 0) hopen
  | sendData send sid data =>
    exact Option.some.inj hstep ▸ Each.sendData h (fun _ hs => hkeep hs rfl rfl) send data
  | closeStream send sid => exact Option.some.inj hstep ▸ Each.closeStream h (fun _ hs => hkeep hs rfl rfl) send
  | sendClientReset send => rwa [← Option.some.inj hstep, sendClientReset_mux]
  | handleFrame frame =>
    exact Option.some.inj hstep ▸ Each.handleFrame h frame (fun _ _ hs => hkeep hs rfl rfl)
      (fun _ notify => Stream.wellFormed_fresh _ notify)
      fun _ _ seq _ hpos hlength hs => (hs.adopt _).accept seq hpos hlength
  | readStream sid => exact Option.some.inj hstep ▸ Each.readStream h fun _ hs => hkeep hs rfl rfl
  | waitForData sid => exact Option.some.inj hstep ▸ Each.waitForData h fun _ => Stream.wellFormed_fresh _ _

/-- After any operations on an empty multiplexer every entry keeps its invariant, so the
expected number is never among those held; and the drain loop ends on every entry, with as
many iterations as it holds numbers. -/
theorem entries_wellFormed (clientId : UInt32) (ops : List Operation) {m : Multiplexer}
    (hrun : run perform (new clientId) ops = some m) :
    (∀ (sid : UInt16) (stream : Stream), m.streams[sid]? = some stream →
      stream.WellFormed ∧ stream.nextRecvSeq ∉ stream.outOfOrder) ∧
    ∀ (stream : Stream) (fuel : ℕ), stream.outOfOrder.size ≤ fuel →
      (stream.drain fuel).nextRecvSeq ∉ (stream.drain fuel).outOfOrder ∧
        stream.drain fuel = stream.drain stream.outOfOrder.size := by
  have hm : m.WellFormed := run_invariant (fun _ _ _ h hstep => h.perform hstep) (each_new clientId) hrun
  constructor
  · intro sid stream hget
    have hstream : stream.WellFormed := hm sid stream hget
    exact ⟨hstream, fun hmem => lt_irrefl _ (hstream.ahead _ hmem)⟩
  · intro stream fuel hfuel
    exact ⟨(Stream.drain_terminates hfuel).1, Stream.drain_eq hfuel⟩

/-- A frame ahead of its turn, and the one that releases it. -/
theorem entries_wellFormed_two_frames :
    ∃ m, run perform (new 1) [.handleFrame (dataFrame 1 2 1 [0x62]), .handleFrame (dataFrame 1 2 0 [0x61])] = some m ∧
      (∀ (sid : UInt16) (stream : Stream), m.streams[sid]? = some stream →
        stream.WellFormed ∧ stream.nextRecvSeq ∉ stream.outOfOrder) ∧
      ∀ (stream : Stream) (fuel : ℕ), stream.outOfOrder.size ≤ fuel →
        (stream.drain fuel).nextRecvSeq ∉ (stream.drain fuel).outOfOrder ∧
          stream.drain fuel = stream.drain stream.outOfOrder.size :=
  ⟨_, rfl, entries_wellFormed 1
    [.handleFrame (dataFrame 1 2 1 [0x62]), .handleFrame (dataFrame 1 2 0 [0x61])] rfl⟩

end Multiplexer

end TauriVpn.Olcrtc
