import TauriVpn.Olcrtc.CloseOrder

/-! Does reordering work where sequence numbers wrap? Both ends count modulo `2 ^ 32`,
but the receiver tells an early frame from a late one by comparing the raw numbers. An
entry that starts at number `n` is followed beside one that starts at `0` and gets the
same payloads: they do the same, except that the first drops a frame whose number has
wrapped while the number it expects has not. -/

namespace TauriVpn.Olcrtc

open SequenceBuffer

/-- The number of frame `i` after number `n` has wrapped. -/
def Wrapped (n : UInt32) (i : ℕ) : Prop := 2 ^ 32 ≤ n.toNat + i

instance (n : UInt32) (i : ℕ) : Decidable (Wrapped n i) := inferInstanceAs (Decidable (_ ≤ _))

theorem Wrapped.mono {n : UInt32} {i j : ℕ} (h : Wrapped n i) (hij : i ≤ j) : Wrapped n j :=
  le_trans h (Nat.add_le_add_left hij _)

/-- Of two numbers after `n` the later one is the greater one, unless only it has wrapped. -/
theorem add_lt_add_iff {n k i : UInt32} (hlt : k < i) : n + k < n + i ↔ (Wrapped n i.toNat → Wrapped n k.toNat) := by
  rw [UInt32.lt_iff_toNat_lt] at hlt
  have hn := n.toNat_lt
  have hi := i.toNat_lt
  rw [UInt32.lt_iff_toNat_lt, UInt32.toNat_add, UInt32.toNat_add]
  simp only [Wrapped]
  omega

namespace Stream

/-! ### Two entries side by side -/

/-- `s` is `t` with every sequence number moved on by `n`. -/
structure ShiftedBy (n : UInt32) (s t : Stream) : Prop where
  next : s.nextRecvSeq = n + t.nextRecvSeq
  lookup : ∀ seq, s.outOfOrder[n + seq]? = t.outOfOrder[seq]?
  size : s.outOfOrder.size = t.outOfOrder.size
  recvBuf : s.recvBuf = t.recvBuf

section Shifted
variable {n : UInt32} {s t : Stream}

theorem ShiftedBy.contains (h : ShiftedBy n s t) (seq : UInt32) :
    s.outOfOrder.contains (n + seq) = t.outOfOrder.contains seq := by
  rw [Std.ExtTreeMap.contains_eq_isSome_getElem?, Std.ExtTreeMap.contains_eq_isSome_getElem?, h.lookup]

theorem ShiftedBy.drain (h : ShiftedBy n s t) (fuel : ℕ) : ShiftedBy n (s.drain fuel) (t.drain fuel) := by
  induction fuel generalizing s t with
  | zero => exact h
  | succ fuel ih =>
    have hlook := h.lookup t.nextRecvSeq
    rw [← h.next] at hlook
    simp only [Stream.drain, hlook]
    cases hdata : t.outOfOrder[t.nextRecvSeq]? with
    | none => exact h
    | some data =>
      apply ih
      constructor
      case next =>
        dsimp only
        rw [h.next, UInt32.add_assoc]
      case lookup =>
        intro seq
        rw [Std.ExtTreeMap.getElem?_erase, Std.ExtTreeMap.getElem?_erase, h.next, h.lookup]
        simp
      case size =>
        simp only [Std.ExtTreeMap.size_erase, h.next, h.contains, h.size]
      case recvBuf =>
        dsimp only
        rw [h.recvBuf]

/-- The two do the same with a frame that both take for late, or neither. -/
theorem ShiftedBy.accept (h : ShiftedBy n s t) (seq : UInt32) (payload : Bytes)
    (hsame : n + t.nextRecvSeq < n + seq ↔ t.nextRecvSeq < seq) :
    ShiftedBy n (s.accept (n + seq) payload).1 (t.accept seq payload).1 := by
  have heq : n + seq = s.nextRecvSeq ↔ seq = t.nextRecvSeq := by
    rw [h.next, UInt32.add_right_inj]
  have hwin : s.nextRecvSeq < n + seq ∧ s.outOfOrder.size < 100 ↔
      t.nextRecvSeq < seq ∧ t.outOfOrder.size < 100 := by
    rw [h.next, hsame, h.size]
  unfold Stream.accept
  simp only [heq, hwin]
  split_ifs with hnext hheld
  · rw [h.size]
    apply ShiftedBy.drain
    constructor
    case next =>
      dsimp only
      rw [h.next, UInt32.add_assoc]
    case lookup => exact h.lookup
    case size => exact h.size
    case recvBuf =>
      dsimp only
      rw [h.recvBuf]
  · constructor
    case next => exact h.next
    case lookup =>
      intro q
      rw [Std.ExtTreeMap.getElem?_insert, Std.ExtTreeMap.getElem?_insert, h.lookup]
      simp
    case size =>
      simp only [Std.ExtTreeMap.size_insert, h.contains, h.size]
    case recvBuf => exact h.recvBuf
  · exact h

end Shifted

/-! ### An entry that starts at a number -/

/-- The entry represents `b`, with its numbers counted from `n`. -/
def RepresentsFrom (n : UInt32) (s : Stream) (sent : ℕ → Bytes) (b : Buffer) : Prop :=
  ∃ t : Stream, ShiftedBy n s t ∧ t.Represents sent b []

theorem representsFrom_empty {n : UInt32} {s : Stream} (hnext : s.nextRecvSeq = n) (hbuf : s.recvBuf = [])
    (hheld : s.outOfOrder = ∅) (sent : ℕ → Bytes) : s.RepresentsFrom n sent Buffer.empty := by
  refine ⟨Stream.fresh 0 0, ?_, represents_fresh sent 0 0⟩
  constructor
  case next =>
    rw [hnext]
    exact (UInt32.add_zero n).symm
  case lookup =>
    intro seq
    rw [hheld]
    simp [Stream.fresh]
  case size =>
    rw [hheld]
    rfl
  case recvBuf => exact hbuf

/-- What the receiver makes of number `i`: it drops a wrapped one while it expects one
that has not wrapped. -/
def takeWrapped (n : UInt32) (b : Buffer) (i : ℕ) : Buffer :=
  if Wrapped n i → Wrapped n b.next then b.arrive i else b

theorem seen_takeWrapped_subset (n : UInt32) (b : Buffer) (i : ℕ) :
    (takeWrapped n b i).seen ⊆ insert i b.seen := by
  unfold takeWrapped
  split_ifs
  · rw [Buffer.seen_arrive]
  · exact Finset.subset_insert _ _

/-- With at most 100 frames in all, a frame that arrives for the first time finds the
buffer less than full. -/
theorem RepresentsFrom.accept {n : UInt32} {s : Stream} {sent : ℕ → Bytes} {b : Buffer} {m i : ℕ}
    (h : s.RepresentsFrom n sent b) (hm : m ≤ 100) (hseen : b.seen ⊆ Finset.range m) (hi : i < m) (hnew : i ∉ b.seen) :
    (s.accept (n + UInt32.ofNat i) (sent i)).1.RepresentsFrom n sent (takeWrapped n b i) := by
  obtain ⟨t, hshift, hrep⟩ := h
  have hnat : (UInt32.ofNat i).toNat = i := by
    rw [UInt32.toNat_ofNat', Nat.mod_eq_of_lt (by omega)]
  have hle : b.next ≤ i := Buffer.next_le_of_notMem hnew
  have hroom : b.held.card < 100 := by
    have hsub : b.held ⊆ (Finset.range m).erase i := fun j hj =>
      Finset.mem_erase.mpr ⟨fun heq => hnew (Buffer.mem_seen.mpr (.inr (heq ▸ hj))),
        hseen (Buffer.mem_seen.mpr (.inr hj))⟩
    have hcard := Finset.card_le_card hsub
    rw [Finset.card_erase_of_mem (Finset.mem_range.mpr hi), Finset.card_range] at hcard
    omega
  have hoffer : b.offer 100 i = b.arrive i := by
    rw [Buffer.offer, if_neg (by omega)]
  have hrep' := hrep.accept (by omega) hseen (show (UInt32.ofNat i).toNat < m by omega)
  rw [hnat, hoffer] at hrep'
  unfold takeWrapped
  rcases Nat.eq_or_lt_of_le hle with heq | hlt
  · -- the expected number
    have hsame : UInt32.ofNat i = t.nextRecvSeq := UInt32.toNat_inj.mp (by rw [hnat, hrep.next, heq])
    rw [if_pos (by rw [heq]; exact id)]
    exact ⟨_, hshift.accept _ _ (by rw [hsame, UInt32.lt_iff_toNat_lt, UInt32.lt_iff_toNat_lt]; omega), hrep'⟩
  · have hahead : t.nextRecvSeq < UInt32.ofNat i := by
      rw [UInt32.lt_iff_toNat_lt, hnat, hrep.next]
      exact hlt
    have hcompare := add_lt_add_iff (n := n) hahead
    rw [hnat, hrep.next] at hcompare
    split_ifs with htake
    · exact ⟨_, hshift.accept _ _ (iff_of_true (hcompare.mpr htake) hahead), hrep'⟩
    · -- the raw number looks late, and the frame is dropped
      have hdrop : s.accept (n + UInt32.ofNat i) (sent i) = (s, []) := by
        rw [← hcompare, ← hshift.next] at htake
        rw [Stream.accept, if_neg (fun hc => ?_), if_neg fun hc => htake hc.1]
        rw [hshift.next, UInt32.add_right_inj] at hc
        exact UInt32.lt_irrefl _ (hc ▸ hahead)
      rw [hdrop]
      exact ⟨t, hshift, hrep⟩

end Stream

/-! ### Orders of arrival -/

section Order
variable {n : UInt32} {order : List ℕ} {m : ℕ}

/-- Nothing is dropped in an order that keeps the wrapped numbers for the end. -/
theorem seen_of_wrapped_last (hperm : order.Perm (List.range m))
    (hlast : order.Pairwise fun i j => Wrapped n i → Wrapped n j) {arrived : List ℕ} (harrived : arrived <+: order) :
    (Buffer.empty.run (Stream.takeWrapped n) arrived).seen = arrived.toFinset := by
  induction arrived using List.reverseRecOn with
  | nil => rfl
  | append_singleton before i ih =>
    have hseen := ih ((List.prefix_append _ _).trans harrived)
    have htakes : Wrapped n i → Wrapped n (Buffer.empty.run (Stream.takeWrapped n) before).next := by
      intro hi
      by_contra hnext
      -- the expected number is still to come, and it has not wrapped
      obtain ⟨rest, rfl⟩ := harrived
      rw [List.append_assoc] at hperm hlast
      have hnodup := hperm.nodup_iff.mpr List.nodup_range
      have hnew : i ∉ before := fun hmem => List.disjoint_of_nodup_append hnodup hmem (by simp)
      have hmiss := (Buffer.empty.run (Stream.takeWrapped n) before).next_notMem_seen
      rw [hseen, List.mem_toFinset] at hmiss
      have hle : (Buffer.empty.run (Stream.takeWrapped n) before).next ≤ i :=
        Buffer.next_le_of_notMem (by rw [hseen, List.mem_toFinset]; exact hnew)
      have him : i < m := List.mem_range.mp (hperm.mem_iff.mp (by simp))
      have hcome := hperm.mem_iff.mpr (List.mem_range.mpr (lt_of_le_of_lt hle him))
      have hrest : (Buffer.empty.run (Stream.takeWrapped n) before).next ∈ rest := by
        rcases List.mem_append.mp hcome with hmem | hmem
        · exact absurd hmem hmiss
        · rcases List.mem_cons.mp hmem with heq | hmem
          · exact absurd (heq ▸ hi) hnext
          · exact hmem
      have hafter := (List.pairwise_append.mp hlast).2.1
      exact hnext ((List.pairwise_cons.mp hafter).1 _ hrest hi)
    rw [Buffer.run_concat, Stream.takeWrapped, if_pos htakes, Buffer.seen_arrive, hseen]
    ext j
    simp

/-- A wrapped number that arrives before one that has not wrapped is dropped. -/
theorem wrapped_last_of_seen (hperm : order.Perm (List.range m))
    (hseen : (Buffer.empty.run (Stream.takeWrapped n) order).seen = order.toFinset) :
    order.Pairwise fun i j => Wrapped n i → Wrapped n j := by
  have hnodup := hperm.nodup_iff.mpr List.nodup_range
  have htake := Stream.seen_takeWrapped_subset n
  refine List.pairwise_iff_forall_sublist.mpr fun {i j} hsub hi => ?_
  obtain ⟨front, back, rfl, hfront, hback⟩ := List.cons_sublist_iff.mp hsub
  obtain ⟨before, after, rfl⟩ := List.append_of_mem hfront
  have hj : j ∉ before := fun hmem =>
    List.disjoint_of_nodup_append hnodup (List.mem_append_left _ hmem) (List.singleton_sublist.mp hback)
  rw [List.append_assoc] at hnodup hseen
  have hi' : i ∉ before := fun hmem => List.disjoint_of_nodup_append hnodup hmem (by simp)
  have hwith : (Buffer.empty.run (Stream.takeWrapped n) (before ++ [i])).seen = (before ++ [i]).toFinset :=
    Buffer.seen_run_prefix htake hnodup hseen ⟨after ++ back, by simp⟩
  have hwithout : (Buffer.empty.run (Stream.takeWrapped n) before).seen = before.toFinset :=
    Buffer.seen_run_prefix htake hnodup hseen (List.prefix_append _ _)
  have htaken : Wrapped n (Buffer.empty.run (Stream.takeWrapped n) before).next := by
    by_contra hnext
    rw [Buffer.run_concat, Stream.takeWrapped, if_neg fun h => hnext (h hi), hwithout] at hwith
    have hmem : i ∈ (before ++ [i]).toFinset := by simp
    rw [← hwith, List.mem_toFinset] at hmem
    exact hi' hmem
  exact htaken.mono (Buffer.next_le_of_notMem (by rw [hwithout, List.mem_toFinset]; exact hj))

end Order

/-! ### Frames around the wrap -/

/-- Frame `i` of a sender whose next number is `n`. -/
def frameFrom (clientId : UInt32) (sid : UInt16) (n : UInt32) (payloads : List Bytes) (i : ℕ) : Bytes :=
  dataFrame clientId sid (n + UInt32.ofNat i) (Receiver.payloadAt payloads i)

namespace Multiplexer

/-- Frames are handled one after the other. -/
def handleAll (m : Multiplexer) (frames : List Bytes) : Multiplexer :=
  frames.foldl (fun m frame => (m.handleFrame frame).1) m

section Run
variable {m : Multiplexer} {sid : UInt16} {n clientId : UInt32} {payloads : List Bytes} {order : List ℕ} {stream : Stream}

/-- The run lemma: the entry counts from `n` and drops what the raw numbers hide. -/
theorem handleAll_representsFrom (hget : m.streams[sid]? = some stream) (hclient : stream.clientId = clientId)
    (hrep : stream.RepresentsFrom n (Receiver.payloadAt payloads) Buffer.empty)
    (hlegal : ∀ p ∈ payloads, IsPayload sid p) (hcount : payloads.length ≤ 100) (hnodup : order.Nodup)
    (horder : ∀ i ∈ order, i < payloads.length) :
    ∃ s, (m.handleAll (order.map (frameFrom clientId sid n payloads))).streams[sid]? = some s ∧
      s.clientId = clientId ∧
      s.RepresentsFrom n (Receiver.payloadAt payloads) (Buffer.empty.run (Stream.takeWrapped n) order) := by
  induction order using List.reverseRecOn with
  | nil => exact ⟨stream, hget, hclient, hrep⟩
  | append_singleton before i ih =>
    obtain ⟨s, hs, hsclient, hsrep⟩ := ih (List.Nodup.of_append_left hnodup) fun j hj => horder j (by simp [hj])
    have hi : i < payloads.length := horder i (by simp)
    have hnew : i ∉ (Buffer.empty.run (Stream.takeWrapped n) before).seen := fun hmem =>
      List.disjoint_of_nodup_append hnodup
        (List.mem_toFinset.mp (Buffer.seen_run_empty (Stream.seen_takeWrapped_subset n) _ hmem)) (by simp)
    have hseen := Buffer.seen_run_subset_range (Stream.seen_takeWrapped_subset n)
      fun j hj => horder j (List.mem_append_left [i] hj)
    have hstep : m.handleAll ((before ++ [i]).map (frameFrom clientId sid n payloads)) =
        ((m.handleAll (before.map (frameFrom clientId sid n payloads))).handleFrame
          (frameFrom clientId sid n payloads i)).1 := by
      simp [handleAll]
    have hstream : (m.handleAll (before.map (frameFrom clientId sid n payloads))).streamOr sid clientId = s := by
      rw [streamOr, hs, Option.getD_some]
    refine ⟨(s.accept (n + UInt32.ofNat i) (Receiver.payloadAt payloads i)).1, ?_, ?_, ?_⟩
    · rw [hstep, frameFrom, handleFrame_dataFrame _ _ _ (Receiver.isPayload_payloadAt hlegal hi), receiveData_get,
        hstream, Stream.adopt_of_eq _ hsclient]
    · rw [(Stream.accept_frame _ _ _).1, hsclient]
    · rw [Buffer.run_concat]
      exact hsrep.accept hcount hseen hi hnew

end Run

/-- An entry expects number `n` and has received nothing. Up to 100 payloads numbered
from `n` on, each frame handled once and in some order, are put together just when no
frame whose number has wrapped arrives before one whose number has not. -/
theorem reordered_across_wrap_iff {m : Multiplexer} {sid : UInt16} {stream : Stream} {n clientId : UInt32}
    {payloads : List Bytes} {order : List ℕ} (hget : m.streams[sid]? = some stream)
    (hclient : stream.clientId = clientId) (hnext : stream.nextRecvSeq = n) (hbuf : stream.recvBuf = [])
    (hheld : stream.outOfOrder = ∅) (hlegal : ∀ p ∈ payloads, IsPayload sid p) (hcount : payloads.length ≤ 100)
    (hperm : order.Perm (List.range payloads.length)) :
    (m.handleAll (order.map (frameFrom clientId sid n payloads))).recvBuf sid = payloads.flatten ↔
      order.Pairwise fun i j => Wrapped n i → Wrapped n j := by
  have htake := Stream.seen_takeWrapped_subset n
  have horder : ∀ i ∈ order, i < payloads.length := fun i hi => List.mem_range.mp (hperm.mem_iff.mp hi)
  obtain ⟨s, hs, -, t, hshift, hrep⟩ := handleAll_representsFrom hget hclient
    (Stream.representsFrom_empty hnext hbuf hheld _) hlegal hcount (hperm.nodup_iff.mpr List.nodup_range) horder
  have hle := Buffer.next_le_of_seen_subset (Buffer.seen_run_subset_range htake horder)
  have hbytes : (m.handleAll (order.map (frameFrom clientId sid n payloads))).recvBuf sid =
      (payloads.take (Buffer.empty.run (Stream.takeWrapped n) order).next).flatten := by
    have hdelivered := hrep.delivered
    rw [List.nil_append, Receiver.segment_payloadAt _ hle] at hdelivered
    rw [recvBuf, hs, Option.map_some, Option.getD_some, hshift.recvBuf, hdelivered]
  rw [hbytes, Receiver.flatten_take_eq_iff hlegal hle, Buffer.next_run_eq_iff htake hperm]
  exact ⟨wrapped_last_of_seen hperm, fun hlast => seen_of_wrapped_last hperm hlast List.prefix_rfl⟩

/-- A stream whose next number is the last one before the wrap. -/
def beforeWrap : Multiplexer :=
  (new 9).setStream 5 { Stream.fresh 7 0 with nextRecvSeq := 0xFFFFFFFF }

theorem reordered_across_wrap_three :
    (beforeWrap.handleAll ([0, 2, 1].map (frameFrom 7 5 0xFFFFFFFF [[1], [2], [3]]))).recvBuf 5 = [1, 2, 3] :=
  (reordered_across_wrap_iff (setStream_get _ _ _) rfl rfl rfl rfl (by decide) (by decide)
    (List.Perm.cons 0 (List.Perm.swap 1 2 []))).mpr (by decide)

/-- The frame after the wrap arrives first and is dropped. -/
theorem wrapped_frame_dropped :
    [1, 0].Perm (List.range [[1], [2]].length) ∧
      (beforeWrap.handleAll ([1, 0].map (frameFrom 7 5 0xFFFFFFFF [[1], [2]]))).recvBuf 5 = [1] ∧
      (beforeWrap.handleAll ([1, 0].map (frameFrom 7 5 0xFFFFFFFF [[1], [2]]))).recvBuf 5 ≠ [[1], [2]].flatten :=
  ⟨by decide, by decide, by decide⟩

end Multiplexer

end TauriVpn.Olcrtc
