import TauriVpn.Lib.SequenceBuffer
import TauriVpn.Olcrtc.Sender

/-! Reassembly of one multiplexed stream. While sequence numbers do not wrap, a
stream entry is a bounded sequence buffer of capacity 100: `out_of_order` holds
the payloads of the held numbers and the receive buffer is what was handed on
and not yet read. -/

namespace TauriVpn.Olcrtc

open SequenceBuffer

/-! ### A stream entry as a sequence buffer -/

/-- `out_of_order` holds exactly the payloads of the held numbers. -/
structure Stream.Holds (stream : Stream) (sent : ℕ → Bytes) (held : Finset ℕ) : Prop where
  lookup : ∀ seq : UInt32, stream.outOfOrder[seq]? =
    if seq.toNat ∈ held then some (sent seq.toNat) else none
  size : stream.outOfOrder.size = held.card

/-- The entry, together with the bytes already read from it, represents `b`. -/
structure Stream.Represents (stream : Stream) (sent : ℕ → Bytes) (b : Buffer) (read : Bytes) :
    Prop extends stream.Holds sent b.held where
  next : stream.nextRecvSeq.toNat = b.next
  delivered : read ++ stream.recvBuf = segment sent 0 b.next

theorem Stream.represents_fresh (sent : ℕ → Bytes) (clientId : UInt32) (notify : NotifyId) :
    (Stream.fresh clientId notify).Represents sent Buffer.empty [] where
  lookup seq := by simp [Stream.fresh, Buffer.empty]
  size := by simp [Stream.fresh, Buffer.empty]
  next := by simp [Stream.fresh, Buffer.empty]
  delivered := by simp [Stream.fresh, Buffer.empty]

theorem toNat_add_one {seq : UInt32} (h : seq.toNat + 1 < 2 ^ 32) : (seq + 1).toNat = seq.toNat + 1 := by
  rw [UInt32.toNat_add]
  exact Nat.mod_eq_of_lt h

section Drain
variable {sent : ℕ → Bytes} {held : Finset ℕ} {n : ℕ}

/-- Removing the entry of the expected number removes the number. -/
theorem Stream.Holds.erase {stream : Stream} (h : stream.Holds sent held) {seq : UInt32}
    (hseq : seq.toNat ∈ held) {stream' : Stream}
    (he : stream'.outOfOrder = stream.outOfOrder.erase seq) :
    stream'.Holds sent (held.erase seq.toNat) where
  lookup q := by
    rw [he, Std.ExtTreeMap.getElem?_erase, h.lookup]
    by_cases hq : seq = q
    · subst hq; simp
    · have hne : q.toNat ≠ seq.toNat := fun hc => hq (UInt32.toNat_inj.mp hc.symm)
      simp [hq, hne]
  size := by
    have hmem : seq ∈ stream.outOfOrder := by
      rw [Std.ExtTreeMap.mem_iff_isSome_getElem?, h.lookup]
      simp [hseq]
    rw [he, Std.ExtTreeMap.size_erase, h.size, Finset.card_erase_of_mem hseq]
    simp [hmem]

/-- The drain loop hands on everything up to the first gap. The induction is on
the fuel, which bounds the number of held entries. -/
theorem Stream.drain_spec (hn : n < 2 ^ 32) :
    ∀ (fuel : ℕ) (held : Finset ℕ) (stream : Stream), stream.Holds sent held → held.card ≤ fuel →
      stream.nextRecvSeq.toNat ≤ n → (∀ i ∈ held, stream.nextRecvSeq.toNat ≤ i ∧ i < n) →
      (stream.drain fuel).Holds sent
        (held.filter (firstGap held stream.nextRecvSeq.toNat < ·)) ∧
      (stream.drain fuel).nextRecvSeq.toNat = firstGap held stream.nextRecvSeq.toNat ∧
      (stream.drain fuel).recvBuf = stream.recvBuf ++
        segment sent stream.nextRecvSeq.toNat (firstGap held stream.nextRecvSeq.toNat) := by
  intro fuel
  induction fuel with
  | zero =>
    intro held stream hold hcard _ _
    have hempty : held = ∅ := Finset.card_eq_zero.mp (Nat.le_zero.mp hcard)
    subst hempty
    rw [firstGap_of_notMem (Finset.notMem_empty _)]
    exact ⟨by simpa [Stream.drain] using hold, rfl, by simp [Stream.drain]⟩
  | succ fuel ih =>
    intro held stream hold hcard hle hbound
    set k := stream.nextRecvSeq.toNat with hk
    by_cases hmem : k ∈ held
    · have hlook := hold.lookup stream.nextRecvSeq
      rw [if_pos hmem] at hlook
      obtain ⟨hkn, hkn'⟩ := hbound k hmem
      have hnext : (stream.nextRecvSeq + 1).toNat = k + 1 := toNat_add_one (by omega)
      simp only [Stream.drain, hlook]
      have hrec := ih (held.erase k) { stream with
          outOfOrder := stream.outOfOrder.erase stream.nextRecvSeq
          recvBuf := stream.recvBuf ++ sent k
          nextRecvSeq := stream.nextRecvSeq + 1 } (hold.erase hmem rfl)
        (by rw [Finset.card_erase_of_mem hmem]; omega) (by rw [hnext]; omega)
        (fun i hi => by
          have hne := Finset.ne_of_mem_erase hi
          have := hbound i (Finset.mem_of_mem_erase hi)
          rw [hnext]
          omega)
      rw [hnext, ← firstGap_of_mem hmem] at hrec
      refine ⟨?_, hrec.2.1, ?_⟩
      · convert hrec.1 using 1
        ext i
        have hgap := le_firstGap held k
        simp only [Finset.mem_filter, Finset.mem_erase]
        constructor
        · rintro ⟨hi, hlt⟩; exact ⟨⟨by omega, hi⟩, hlt⟩
        · rintro ⟨⟨-, hi⟩, hlt⟩; exact ⟨hi, hlt⟩
      · have hgap : k + 1 ≤ firstGap held k := by rw [firstGap_of_mem hmem]; exact le_firstGap _ _
        rw [hrec.2.2, List.append_assoc, ← segment_succ sent k, segment_append sent (by omega) hgap]
    · have hlook := hold.lookup stream.nextRecvSeq
      rw [if_neg hmem] at hlook
      simp only [Stream.drain, hlook]
      rw [firstGap_of_notMem hmem]
      refine ⟨?_, rfl, by simp⟩
      convert hold using 1
      refine Finset.filter_true_of_mem fun i hi => lt_of_le_of_ne (hbound i hi).1 ?_
      rintro rfl
      exact hmem hi

end Drain

section Accept
variable {sent : ℕ → Bytes} {b : Buffer} {read : Bytes} {n : ℕ} {stream : Stream}

/-- The sequence window is an offer to a buffer of capacity 100. -/
theorem Stream.Represents.accept (h : stream.Represents sent b read) (hn : n < 2 ^ 32)
    (hseen : b.seen ⊆ Finset.range n) {seq : UInt32} (hseq : seq.toNat < n) :
    (stream.accept seq (sent seq.toNat)).1.Represents sent (b.offer 100 seq.toNat) read := by
  have hheld : ∀ i ∈ b.held, i < n := fun i hi =>
    Finset.mem_range.mp (hseen (Buffer.mem_seen.mpr (Or.inr hi)))
  unfold Stream.accept
  split_ifs with heq hwin
  · -- the expected number: the buffer releases, the loop drains
    have hk : seq.toNat = b.next := by rw [heq, h.next]
    have hnext : (stream.nextRecvSeq + 1).toNat = b.next + 1 := by
      rw [toNat_add_one (by rw [h.next]; omega), h.next]
    have hoffer : b.offer 100 seq.toNat = b.release := by
      rw [Buffer.offer, if_neg (by omega), Buffer.arrive, if_pos hk]
    obtain ⟨hholds, hgap, hbuf⟩ := Stream.drain_spec hn stream.outOfOrder.size b.held
      { stream with
        recvBuf := stream.recvBuf ++ sent seq.toNat
        nextRecvSeq := stream.nextRecvSeq + 1 } ⟨h.lookup, h.size⟩ h.size.ge (by rw [hnext]; omega)
      (fun i hi => by rw [hnext]; exact ⟨b.ahead i hi, hheld i hi⟩)
    rw [hoffer]
    rw [hnext] at hholds hgap hbuf
    refine ⟨hholds, hgap, ?_⟩
    rw [hbuf, ← List.append_assoc, ← List.append_assoc, h.delivered, hk, ← segment_succ sent b.next,
      segment_append sent (by omega) (by omega), segment_append sent (by omega) (le_firstGap _ _)]
    rfl
  · have hlt : b.next < seq.toNat := by rw [← h.next]; exact UInt32.lt_iff_toNat_lt.mp hwin.1
    have hcap : ¬(b.next < seq.toNat ∧ 100 ≤ b.held.card) := by rw [← h.size]; omega
    have hoffer : b.offer 100 seq.toNat = b.hold seq.toNat hlt := by
      rw [Buffer.offer, if_neg hcap, Buffer.arrive, if_neg (by omega), dif_pos hlt]
    rw [hoffer]
    refine ⟨⟨fun q => ?_, ?_⟩, h.next, h.delivered⟩
    · simp only [Buffer.hold, Finset.mem_insert]
      rw [Std.ExtTreeMap.getElem?_insert, h.lookup]
      by_cases hq : seq = q
      · subst hq; simp
      · have hne : q.toNat ≠ seq.toNat := fun hc => hq (UInt32.toNat_inj.mp hc.symm)
        simp [hq, hne]
    · have hmem : seq ∈ stream.outOfOrder ↔ seq.toNat ∈ b.held := by
        rw [Std.ExtTreeMap.mem_iff_isSome_getElem?, h.lookup]
        split_ifs with hi <;> simp [hi]
      simp only [Buffer.hold]
      rw [Std.ExtTreeMap.size_insert, h.size, Finset.card_insert_eq_ite]
      simp only [Std.ExtTreeMap.contains_iff_mem, hmem]
  · have hne : seq.toNat ≠ b.next := fun hc => heq (UInt32.toNat_inj.mp (by rw [hc, h.next]))
    have hoffer : b.offer 100 seq.toNat = b := by
      rw [UInt32.lt_iff_toNat_lt, h.next, h.size] at hwin
      rw [Buffer.offer]
      split_ifs with hfull
      · rfl
      · rw [Buffer.arrive, if_neg hne, dif_neg (by omega)]
    rw [hoffer]
    exact h

theorem Stream.Represents.readAll (h : stream.Represents sent b read) :
    Stream.Represents { stream with recvBuf := [] } sent b (read ++ stream.recvBuf) where
  lookup := h.lookup
  size := h.size
  next := h.next
  delivered := by simpa using h.delivered

end Accept

/-! ### A receiving multiplexer -/

namespace Multiplexer

/-- The entry of `sid` is absent or as `open_stream` makes it. -/
def Unused (m : Multiplexer) (sid : UInt16) : Prop :=
  m.streams[sid]? = none ∨ ∃ notify, m.streams[sid]? = some (Stream.fresh 0 notify)

theorem openLoop_unused {fuel : ℕ} {m m' : Multiplexer} {sid : UInt16}
    (h : openLoop fuel m = some (sid, m')) : m'.Unused sid := by
  refine Or.inr ⟨m.nextNotify, ?_⟩
  rw [(openLoop_spec h).2.2.1, Std.ExtTreeMap.getElem?_insert_self]

/-- The stream of `sid` represents `b`. Until its first frame it may belong to
another client id: that frame replaces it by a fresh entry. -/
structure Tracks (m : Multiplexer) (sid : UInt16) (clientId : UInt32) (sent : ℕ → Bytes) (b : Buffer)
    (read : Bytes) : Prop where
  represents : ∀ stream, m.streams[sid]? = some stream → stream.Represents sent b read
  untouched : (∀ stream, m.streams[sid]? = some stream → stream.clientId ≠ clientId) →
    b = Buffer.empty ∧ read = []

section Tracks
variable {m : Multiplexer} {sid : UInt16} {clientId : UInt32} {sent : ℕ → Bytes} {b : Buffer}
  {read : Bytes}

theorem tracks_fresh {owner : UInt32} {notify : NotifyId}
    (h : m.streams[sid]? = some (Stream.fresh owner notify)) (clientId : UInt32) (sent : ℕ → Bytes) :
    m.Tracks sid clientId sent Buffer.empty [] where
  represents stream hget := by
    rw [h] at hget
    cases hget
    exact Stream.represents_fresh sent owner notify
  untouched _ := ⟨rfl, rfl⟩

theorem Unused.tracks (h : m.Unused sid) (clientId : UInt32) (sent : ℕ → Bytes) :
    m.Tracks sid clientId sent Buffer.empty [] := by
  rcases h with h | ⟨notify, h⟩
  · exact ⟨fun stream hget => (by rw [h] at hget; cases hget), fun _ => ⟨rfl, rfl⟩⟩
  · exact tracks_fresh h clientId sent

/-- The stream that a data frame of `clientId` is delivered to. -/
theorem Tracks.adopt (h : m.Tracks sid clientId sent b read) :
    ((m.streamOr sid clientId).adopt clientId).Represents sent b read := by
  unfold streamOr
  cases hget : m.streams[sid]? with
  | none =>
    obtain ⟨rfl, rfl⟩ := h.untouched (by simp [hget])
    rw [Option.getD_none, Stream.adopt_fresh]
    exact Stream.represents_fresh sent clientId _
  | some stream =>
    by_cases hid : stream.clientId = clientId
    · simpa [Stream.adopt_of_eq _ hid] using h.represents stream hget
    · obtain ⟨rfl, rfl⟩ := h.untouched (by simpa [hget] using hid)
      rw [Option.getD_some, Stream.adopt_of_ne _ hid]
      exact Stream.represents_fresh sent clientId _

theorem Tracks.dataFrame (h : m.Tracks sid clientId sent b read) {n : ℕ} (hn : n < 2 ^ 32)
    (hseen : b.seen ⊆ Finset.range n) {seq : UInt32} (hseq : seq.toNat < n)
    (hlegal : IsPayload sid (sent seq.toNat)) :
    (m.handleFrame (dataFrame clientId sid seq (sent seq.toNat))).1.Tracks sid clientId sent
      (b.offer 100 seq.toNat) read := by
  rw [handleFrame_dataFrame _ _ _ hlegal]
  have hget := receiveData_get m clientId sid seq (sent seq.toNat)
  refine ⟨fun stream hstream => ?_, fun hne => ?_⟩
  · rw [hget, Option.some.injEq] at hstream
    exact hstream ▸ h.adopt.accept hn hseen hseq
  · refine absurd ?_ (hne _ hget)
    rw [(Stream.accept_frame _ _ _).1, Stream.adopt_clientId]

/-- A close frame says nothing about the numbers. -/
theorem Tracks.closeFrame (h : m.Tracks sid clientId sent b read) :
    (m.handleFrame (closeFrame clientId sid)).1.Tracks sid clientId sent b read := by
  rw [handleFrame_closeFrame]
  unfold markClosed
  cases hget : m.streams[sid]? with
  | none => exact h
  | some stream =>
    dsimp only
    split_ifs with hid
    · have hrep := h.represents stream hget
      refine ⟨fun s hs => ?_, fun hne => absurd hid (hne { stream with closed := true } (setStream_get _ _ _))⟩
      rw [setStream_get, Option.some.injEq] at hs
      exact hs ▸ ⟨⟨hrep.lookup, hrep.size⟩, hrep.next, hrep.delivered⟩
    · exact h

theorem Tracks.readStream (h : m.Tracks sid clientId sent b read) :
    (m.readStream sid).2.Tracks sid clientId sent b (read ++ (m.readStream sid).1) := by
  unfold Multiplexer.readStream
  cases hget : m.streams[sid]? with
  | none => simpa using h
  | some stream =>
    have hrep := h.represents stream hget
    refine ⟨fun s hs => ?_, fun hne => ?_⟩
    · rw [setStream_get, Option.some.injEq] at hs
      exact hs ▸ hrep.readAll
    · obtain ⟨rfl, rfl⟩ := h.untouched fun s hs => by
        rw [hget, Option.some.injEq] at hs
        subst hs
        exact hne { stream with recvBuf := [] } (setStream_get _ _ _)
      exact ⟨rfl, by simpa [Buffer.empty] using hrep.delivered⟩

theorem Tracks.delivered (h : m.Tracks sid clientId sent b read) :
    read ++ m.recvBuf sid = segment sent 0 b.next ∧ (m.nextRecvSeq sid).toNat = b.next := by
  unfold recvBuf nextRecvSeq
  cases hget : m.streams[sid]? with
  | none =>
    obtain ⟨rfl, rfl⟩ := h.untouched (by simp [hget])
    simp [Buffer.empty]
  | some stream => exact ⟨(h.represents stream hget).delivered, (h.represents stream hget).next⟩

end Tracks

end Multiplexer

/-! ### Runs of a receiver -/

inductive Arrival where
  | frame (bytes : Bytes)
  | read

/-- A multiplexer and the bytes read from one of its streams so far. -/
structure Receiver where
  mux : Multiplexer
  read : Bytes

namespace Receiver

def step (sid : UInt16) (r : Receiver) : Arrival → Receiver
  | .frame bytes => { r with mux := (r.mux.handleFrame bytes).1 }
  | .read => ⟨(r.mux.readStream sid).2, r.read ++ (r.mux.readStream sid).1⟩

def run (sid : UInt16) (r : Receiver) (arrivals : List Arrival) : Receiver :=
  arrivals.foldl (step sid) r

theorem run_concat (sid : UInt16) (r : Receiver) (arrivals : List Arrival) (a : Arrival) :
    r.run sid (arrivals ++ [a]) = (r.run sid arrivals).step sid a := by
  simp [run]

/-- The frame is beyond the expected number and 100 frames are held already. -/
def Refuses (r : Receiver) (sid : UInt16) (bytes : Bytes) : Prop :=
  ∃ stream, r.mux.streams[sid]? = some stream ∧ stream.outOfOrder.size = 100 ∧
    stream.nextRecvSeq < frameSeq bytes

/-- No frame of the run is refused when it arrives. -/
def NeverRefuses (r : Receiver) (sid : UInt16) (arrivals : List Arrival) : Prop :=
  ∀ before bytes after, arrivals = before ++ .frame bytes :: after →
    ¬(r.run sid before).Refuses sid bytes

theorem NeverRefuses.of_concat {r : Receiver} {sid : UInt16} {arrivals : List Arrival} {a : Arrival}
    (h : r.NeverRefuses sid (arrivals ++ [a])) : r.NeverRefuses sid arrivals :=
  fun before bytes after he => h before bytes (after ++ [a]) (by simp [he])

section Run
variable {clientId : UInt32} {sid : UInt16} {payloads : List Bytes}

/-- The payload of frame `i`. -/
def payloadAt (payloads : List Bytes) (i : ℕ) : Bytes := payloads.getD i []

theorem segment_payloadAt (payloads : List Bytes) {k : ℕ} (hk : k ≤ payloads.length) :
    segment (payloadAt payloads) 0 k = (payloads.take k).flatten := by
  induction k with
  | zero => simp
  | succ k ih =>
    rw [← segment_append _ (Nat.zero_le k) (Nat.le_succ k), ih (by omega), segment_succ,
      List.take_succ_eq_append_getElem (by omega), List.flatten_append]
    simp [payloadAt, List.getD_eq_getElem?_getD, List.getElem?_eq_getElem (show k < payloads.length by omega)]

/-- No payload is empty, so a part of them is not all of them. -/
theorem flatten_take_eq_iff (hlegal : ∀ p ∈ payloads, IsPayload sid p) {k : ℕ} (hk : k ≤ payloads.length) :
    (payloads.take k).flatten = payloads.flatten ↔ k = payloads.length := by
  constructor
  · intro heq
    by_contra hne
    have hlt : k < payloads.length := by omega
    have hpos : 0 < payloads[k].length := (hlegal _ (List.getElem_mem hlt)).1
    have hsplit : payloads.flatten = (payloads.take k).flatten ++ (payloads.drop k).flatten := by
      rw [← List.flatten_append, List.take_append_drop]
    rw [hsplit] at heq
    have hnone : (payloads.drop k).flatten = [] := List.self_eq_append_right.mp heq
    have hfirst : payloads[k] ∈ payloads.drop k := List.mem_drop_iff_getElem.mpr ⟨0, by omega, by simp⟩
    rw [List.flatten_eq_nil_iff.mp hnone _ hfirst] at hpos
    exact absurd hpos (by decide)
  · intro heq
    rw [heq, List.take_length]

/-- A buffer that is not full, or is offered nothing beyond what it expects, takes
the number. -/
theorem offer_seen_of_not_refuses {r : Receiver} {sent : ℕ → Bytes} {b : Buffer}
    (h : r.mux.Tracks sid clientId sent b r.read) (hcard : b.held.card ≤ 100) {bytes : Bytes}
    (hnot : ¬r.Refuses sid bytes) :
    (b.offer 100 (frameSeq bytes).toNat).seen = insert (frameSeq bytes).toNat b.seen := by
  rw [Buffer.offer, if_neg, Buffer.seen_arrive]
  rintro ⟨hlt, hfull⟩
  cases hget : r.mux.streams[sid]? with
  | none =>
    obtain ⟨rfl, -⟩ := h.untouched (by simp [hget])
    simp [Buffer.empty] at hfull
  | some stream =>
    have hrep := h.represents stream hget
    refine hnot ⟨stream, hget, by rw [hrep.size]; omega, ?_⟩
    rw [UInt32.lt_iff_toNat_lt, hrep.next]
    exact hlt

/-- Frame `i` of the sender. -/
def frameAt (clientId : UInt32) (sid : UInt16) (payloads : List Bytes) (i : ℕ) : Bytes :=
  dataFrame clientId sid (UInt32.ofNat i) (payloadAt payloads i)

theorem framesFrom_eq_map (clientId : UInt32) (sid : UInt16) (payloads : List Bytes) :
    framesFrom clientId sid 0 payloads = (List.range payloads.length).map (frameAt clientId sid payloads) := by
  apply List.ext_getElem?
  intro i
  rw [framesFrom_getElem?, List.getElem?_map, UInt32.zero_add]
  by_cases hi : i < payloads.length
  · rw [List.getElem?_eq_getElem hi, List.getElem?_range hi, Option.map_some, Option.map_some, frameAt, payloadAt,
      List.getD_eq_getElem?_getD, List.getElem?_eq_getElem hi, Option.getD_some]
  · rw [List.getElem?_eq_none (by omega), List.getElem?_eq_none (by simpa using hi)]
    rfl

theorem mem_framesFrom_iff {bytes : Bytes} : bytes ∈ framesFrom clientId sid 0 payloads ↔
    ∃ i < payloads.length, bytes = frameAt clientId sid payloads i := by
  simp only [framesFrom_eq_map, List.mem_map, List.mem_range, eq_comm]

theorem frameSeq_frameAt {i : ℕ} (hi : i < 2 ^ 32) :
    (frameSeq (frameAt clientId sid payloads i)).toNat = i := by
  rw [frameAt, dataFrame, frameSeq_frameBytes, UInt32.toNat_ofNat', Nat.mod_eq_of_lt hi]

theorem isPayload_payloadAt (hlegal : ∀ p ∈ payloads, IsPayload sid p) {i : ℕ} (hi : i < payloads.length) :
    IsPayload sid (payloadAt payloads i) := by
  rw [payloadAt, List.getD_eq_getElem?_getD, List.getElem?_eq_getElem hi]
  exact hlegal _ (List.getElem_mem hi)

theorem frameAt_ne_closeFrame (hlegal : ∀ p ∈ payloads, IsPayload sid p) {i : ℕ} (hi : i < payloads.length) :
    frameAt clientId sid payloads i ≠ closeFrame clientId sid := by
  intro heq
  have hlen := congrArg List.length heq
  have hpos := (isPayload_payloadAt hlegal hi).1
  simp [frameAt, dataFrame, closeFrame] at hlen
  simp [hlen] at hpos

/-- The run lemma: after any arrivals of these frames and of the close frame the receiver
represents a buffer that has seen arrived numbers only, and all of them if it refused none. -/
theorem run_tracks (hcount : payloads.length < 2 ^ 32) (hlegal : ∀ p ∈ payloads, IsPayload sid p)
    {rx : Multiplexer} (hrx : rx.Tracks sid clientId (payloadAt payloads) Buffer.empty [])
    (arrivals : List Arrival)
    (hsent : ∀ bytes, .frame bytes ∈ arrivals →
      bytes ∈ framesFrom clientId sid 0 payloads ∨ bytes = closeFrame clientId sid) :
    ∃ b : Buffer,
      (run sid ⟨rx, []⟩ arrivals).mux.Tracks sid clientId (payloadAt payloads) b
        (run sid ⟨rx, []⟩ arrivals).read ∧
      (∀ i ∈ b.seen, i < payloads.length ∧ .frame (frameAt clientId sid payloads i) ∈ arrivals) ∧
      b.held.card ≤ 100 ∧
      (NeverRefuses ⟨rx, []⟩ sid arrivals → ∀ i < payloads.length,
        .frame (frameAt clientId sid payloads i) ∈ arrivals → i ∈ b.seen) := by
  induction arrivals using List.reverseRecOn with
  | nil => exact ⟨Buffer.empty, hrx, by simp [Buffer.empty, Buffer.seen], by simp [Buffer.empty], by simp⟩
  | append_singleton arrivals a ih =>
    obtain ⟨b, htracks, hseen, hcard, hall⟩ := ih fun bytes hb => hsent bytes (by simp [hb])
    have hseen' : ∀ i ∈ b.seen, i < payloads.length ∧
        .frame (frameAt clientId sid payloads i) ∈ arrivals ++ [a] := fun i hi =>
      ⟨(hseen i hi).1, List.mem_append_left _ (hseen i hi).2⟩
    rw [run_concat]
    cases a with
    | read =>
      refine ⟨b, htracks.readStream, hseen', hcard, fun hnever i hi hb => ?_⟩
      exact hall hnever.of_concat i hi (by simpa using hb)
    | frame bytes =>
      rcases hsent bytes (by simp) with hdata | rfl
      · obtain ⟨i, hi, rfl⟩ := mem_framesFrom_iff.mp hdata
        have hseq : (frameSeq (frameAt clientId sid payloads i)).toNat = i := frameSeq_frameAt (hi.trans hcount)
        have hnat : (UInt32.ofNat i).toNat = i := by
          rw [UInt32.toNat_ofNat', Nat.mod_eq_of_lt (hi.trans hcount)]
        have hpl : IsPayload sid (payloadAt payloads i) := isPayload_payloadAt hlegal hi
        have hrange : b.seen ⊆ Finset.range payloads.length := fun j hj =>
          Finset.mem_range.mpr (hseen j hj).1
        refine ⟨b.offer 100 i, ?_, fun j hj => ?_, Buffer.card_offer_le hcard i, fun hnever j hj hb => ?_⟩
        · have hstep := htracks.dataFrame hcount hrange (hnat.trans_lt hi) (by rwa [hnat])
          rwa [hnat] at hstep
        · rcases Finset.mem_insert.mp (Buffer.seen_offer_subset _ _ _ hj) with rfl | hj
          · exact ⟨hi, by simp⟩
          · exact hseen' j hj
        · have hins := offer_seen_of_not_refuses htracks hcard (hnever _ _ [] rfl)
          rw [hseq] at hins
          rw [hins, Finset.mem_insert]
          rcases List.mem_append.mp hb with hb | hb
          · exact Or.inr (hall hnever.of_concat j hj hb)
          · left
            rw [List.mem_singleton, Arrival.frame.injEq] at hb
            rw [← hseq, ← hb, frameSeq_frameAt (hj.trans hcount)]
      · refine ⟨b, htracks.closeFrame, hseen', hcard, fun hnever i hi hb => ?_⟩
        refine hall hnever.of_concat i hi ?_
        rcases List.mem_append.mp hb with hb | hb
        · exact hb
        · rw [List.mem_singleton, Arrival.frame.injEq] at hb
          exact absurd hb (frameAt_ne_closeFrame hlegal hi)

end Run

/-- Reassembly. A sender cuts `send_data` calls on an open stream into frames; a
receiver whose entry is absent or freshly opened gets them in any order, with
repeats and omissions, and is read at any time. What was read followed by what
is buffered is the payloads of the frames before the expected one. If every
frame arrives and none is refused, it is all of them, and all of the data when
every call succeeded. -/
theorem reassembly (tx rx : Multiplexer) (sid : UInt16) (stream : Stream) (send : SendFn)
    (datas frames : List Bytes) (hget : tx.streams[sid]? = some stream)
    (hopen : stream.closed = false) (hfirst : stream.nextSendSeq = 0)
    (hframes : (tx.sendAll send sid datas).2.1 = frames) (hcount : frames.length < 2 ^ 32)
    (hrx : rx.Unused sid) (arrivals : List Arrival)
    (hsent : ∀ bytes, .frame bytes ∈ arrivals → bytes ∈ frames) :
    let r := run sid ⟨rx, []⟩ arrivals
    r.read ++ r.mux.recvBuf sid =
        ((frames.take (r.mux.nextRecvSeq sid).toNat).map framePayload).flatten ∧
      ((∀ bytes ∈ frames, .frame bytes ∈ arrivals) → NeverRefuses ⟨rx, []⟩ sid arrivals →
        r.read ++ r.mux.recvBuf sid = (frames.map framePayload).flatten ∧
        ((∀ result ∈ (tx.sendAll send sid datas).2.2, result = .ok ()) →
          r.read ++ r.mux.recvBuf sid = datas.flatten)) := by
  intro r
  obtain ⟨payloads, hcut, hlegal, hdata⟩ := tx.sendAll_spec send sid datas stream hget hopen
  rw [hframes, hfirst] at hcut
  subst hcut
  rw [framesFrom_length] at hcount
  obtain ⟨b, htracks, hseen, -, hall⟩ := run_tracks hcount hlegal (hrx.tracks tx.clientId _) arrivals
    fun bytes hb => .inl (hsent bytes hb)
  obtain ⟨hbytes, hnext⟩ := htracks.delivered
  have hle := Buffer.next_le_of_seen_subset fun i hi => Finset.mem_range.mpr (hseen i hi).1
  rw [segment_payloadAt _ hle] at hbytes
  rw [List.map_take, framesFrom_payloads _ _ _ hlegal, hnext]
  refine ⟨hbytes, fun harrive hnever => ?_⟩
  have hcover : Finset.range payloads.length ⊆ b.seen := by
    intro i hi
    rw [Finset.mem_range] at hi
    exact hall hnever i hi (harrive _ (mem_framesFrom_iff.mpr ⟨i, hi, rfl⟩))
  have hbytes' : r.read ++ r.mux.recvBuf sid = payloads.flatten := by
    rw [hbytes, List.take_of_length_le (Buffer.le_next_of_subset_seen hcover)]
  exact ⟨hbytes', fun hok => hbytes'.trans (hdata hok)⟩

/-- Two frames in the wrong order, then a read. -/
theorem reassembly_two_frames :
    let tx := (Multiplexer.new 7).setStream 1 (Stream.fresh 0 0)
    let r := run 1 ⟨Multiplexer.new 9, []⟩
      [.frame (dataFrame 7 1 1 [3]), .frame (dataFrame 7 1 0 [1, 2]), .read]
    (tx.sendAll (fun _ => .ok ()) 1 [[1, 2], [3]]).2.1 =
        [dataFrame 7 1 0 [1, 2], dataFrame 7 1 1 [3]] ∧
      r.read ++ r.mux.recvBuf 1 = [1, 2, 3] := by
  intro tx r
  have hframes : (tx.sendAll (fun _ => .ok ()) 1 [[1, 2], [3]]).2.1 =
      [dataFrame 7 1 0 [1, 2], dataFrame 7 1 1 [3]] := by decide
  have h := reassembly tx (Multiplexer.new 9) 1 (Stream.fresh 0 0) (fun _ => .ok ()) [[1, 2], [3]]
    _ (by simp [tx]) rfl rfl hframes (by decide) (Or.inl (by decide))
    [.frame (dataFrame 7 1 1 [3]), .frame (dataFrame 7 1 0 [1, 2]), .read] (by
      intro bytes hb
      simp only [List.mem_cons, Arrival.frame.injEq, reduceCtorEq, List.not_mem_nil, or_false] at hb ⊢
      exact hb.symm)
  refine ⟨hframes, ((h.2 (by simp) fun before bytes after he => ?_).2 (by decide))⟩
  rintro ⟨s, hs, hsize, -⟩
  rcases before with _ | ⟨a, _ | ⟨b, _ | ⟨c, before⟩⟩⟩
  · simp [run, Multiplexer.new] at hs
  · simp only [List.cons_append, List.nil_append, List.cons.injEq] at he
    obtain ⟨rfl, -⟩ := he
    have hone : ((run 1 ⟨Multiplexer.new 9, []⟩ [.frame (dataFrame 7 1 1 [3])]).mux.streams[(1 : UInt16)]?.map
        fun s => s.outOfOrder.size) = some 1 := by decide
    rw [hs, Option.map_some, hsize] at hone
    simp at hone
  · simp at he
  · simp at he

end Receiver

end TauriVpn.Olcrtc
