import TauriVpn.Olcrtc.CloseOrder

/-! Is a full reorder buffer a silent stall? A frame that arrives ahead of another one
while 100 of them are held is dropped, and neither end is told. All frames of a stream
arrive, each once, and in some order: the entry is followed as a buffer that is offered
their numbers, so what is delivered in the end depends on the order alone. -/

namespace TauriVpn.Olcrtc

open SequenceBuffer

namespace Receiver

section Order
variable {clientId : UInt32} {sid : UInt16} {payloads : List Bytes} {order : List ℕ} {rx : Multiplexer}
  {arrivals : List Arrival}

/-- Frames come one after the other, with reads anywhere between them. -/
theorem framesOf_concat_read (arrivals : List Arrival) : framesOf (arrivals ++ [.read]) = framesOf arrivals := by
  simp [framesOf, Arrival.bytes?]

theorem framesOf_concat_frame (arrivals : List Arrival) (bytes : Bytes) :
    framesOf (arrivals ++ [.frame bytes]) = framesOf arrivals ++ [bytes] := by
  simp [framesOf, Arrival.bytes?]

/-- The run lemma: frames that arrive are numbers offered to a buffer of capacity 100. -/
theorem run_offers (hcount : payloads.length < 2 ^ 32) (hlegal : ∀ p ∈ payloads, IsPayload sid p)
    (hrx : rx.Tracks sid clientId (payloadAt payloads) Buffer.empty []) (horder : ∀ i ∈ order, i < payloads.length)
    (hframes : framesOf arrivals = order.map (frameAt clientId sid payloads)) :
    (run sid ⟨rx, []⟩ arrivals).mux.Tracks sid clientId (payloadAt payloads)
      (Buffer.empty.run (Buffer.offer 100) order) (run sid ⟨rx, []⟩ arrivals).read := by
  induction arrivals using List.reverseRecOn generalizing order with
  | nil =>
    have hnil : order = [] := List.map_eq_nil_iff.mp hframes.symm
    rw [hnil]
    exact hrx
  | append_singleton arrivals a ih =>
    rw [run_concat]
    cases a with
    | read =>
      rw [framesOf_concat_read] at hframes
      exact (ih horder hframes).readStream
    | frame bytes =>
      rw [framesOf_concat_frame] at hframes
      obtain ⟨before, last, rfl, hbefore, hlast⟩ := List.map_eq_append_iff.mp hframes.symm
      obtain ⟨i, rfl, rfl⟩ := List.map_eq_singleton_iff.mp hlast
      have hi : i < payloads.length := horder i (by simp)
      have hnat : (UInt32.ofNat i).toNat = i := by
        rw [UInt32.toNat_ofNat', Nat.mod_eq_of_lt (hi.trans hcount)]
      have htracks := ih (fun j hj => horder j (by simp [hj])) hbefore.symm
      have hseen : (Buffer.empty.run (Buffer.offer 100) before).seen ⊆ Finset.range payloads.length :=
        Buffer.seen_run_subset_range (Buffer.seen_offer_subset 100) fun j hj => horder j (by simp [hj])
      have hstep := htracks.dataFrame hcount hseen (hnat.trans_lt hi) (by rw [hnat]; exact isPayload_payloadAt hlegal hi)
      rw [hnat] at hstep
      rw [Buffer.run_concat]
      exact hstep

/-- Data frames leave a stream open. -/
theorem run_data_open (hlegal : ∀ p ∈ payloads, IsPayload sid p) (hrx : rx.Unused sid)
    (horder : ∀ i ∈ order, i < payloads.length)
    (hframes : framesOf arrivals = order.map (frameAt clientId sid payloads)) :
    ((run sid ⟨rx, []⟩ arrivals).mux.streams[sid]? = none ∧ order = []) ∨
      ∃ stream, (run sid ⟨rx, []⟩ arrivals).mux.streams[sid]? = some stream ∧ stream.closed = false := by
  induction arrivals using List.reverseRecOn generalizing order with
  | nil =>
    have hnil : order = [] := List.map_eq_nil_iff.mp hframes.symm
    rcases hrx with hnone | ⟨notify, hsome⟩
    · exact .inl ⟨hnone, hnil⟩
    · exact .inr ⟨_, hsome, rfl⟩
  | append_singleton arrivals a ih =>
    rw [run_concat]
    cases a with
    | read =>
      rw [framesOf_concat_read] at hframes
      simp only [step, Multiplexer.readStream]
      rcases ih horder hframes with ⟨hnone, hnil⟩ | ⟨stream, hsome, hopen⟩
      · simp only [hnone]
        exact .inl ⟨trivial, hnil⟩
      · simp only [hsome]
        exact .inr ⟨_, Multiplexer.setStream_get _ _ _, hopen⟩
    | frame bytes =>
      right
      rw [framesOf_concat_frame] at hframes
      obtain ⟨before, last, rfl, hbefore, hlast⟩ := List.map_eq_append_iff.mp hframes.symm
      obtain ⟨i, rfl, rfl⟩ := List.map_eq_singleton_iff.mp hlast
      refine ⟨_, step_frameAt_get hlegal (horder i (by simp)) _, ?_⟩
      rw [(Stream.accept_frame _ _ _).2.1, Multiplexer.streamOr, Stream.adopt]
      split_ifs
      · rfl
      · rcases ih (fun j hj => horder j (by simp [hj])) hbefore.symm with ⟨hnone, -⟩ | ⟨stream, hsome, hopen⟩
        · rw [hnone]
          rfl
        · rw [hsome]
          exact hopen

/-- What has been delivered is everything just when no number is missing. -/
theorem delivered_iff (hlegal : ∀ p ∈ payloads, IsPayload sid p) {r : Receiver} {b : Buffer}
    (h : r.mux.Tracks sid clientId (payloadAt payloads) b r.read) (hle : b.next ≤ payloads.length) :
    r.read ++ r.mux.recvBuf sid = payloads.flatten ↔ b.next = payloads.length := by
  rw [h.delivered.1, segment_payloadAt _ hle]
  exact flatten_take_eq_iff hlegal hle

/-- All payloads are delivered just when at no time more than 100 frames wait. -/
theorem run_delivers_iff (hcount : payloads.length < 2 ^ 32) (hlegal : ∀ p ∈ payloads, IsPayload sid p)
    (hrx : rx.Unused sid) (hperm : order.Perm (List.range payloads.length))
    (hframes : framesOf arrivals = order.map (frameAt clientId sid payloads)) :
    (run sid ⟨rx, []⟩ arrivals).read ++ (run sid ⟨rx, []⟩ arrivals).mux.recvBuf sid = payloads.flatten ↔
      ∀ arrived, arrived <+: order → (Buffer.waiting arrived.toFinset).card ≤ 100 := by
  have horder : ∀ i ∈ order, i < payloads.length := fun i hi => List.mem_range.mp (hperm.mem_iff.mp hi)
  have htracks := run_offers hcount hlegal (hrx.tracks clientId _) horder hframes
  have hseen : (Buffer.empty.run (Buffer.offer 100) order).seen ⊆ Finset.range payloads.length :=
    Buffer.seen_run_subset_range (Buffer.seen_offer_subset 100) horder
  rw [delivered_iff hlegal htracks (Buffer.next_le_of_seen_subset hseen), Buffer.next_run_offer_iff hperm]

end Order

/-- All data frames of a stream arrive, each once, with reads at any time. In the end all
payloads have been delivered in order or the stream is closed, just when at no time more
than 100 of the frames that have arrived wait for one that has not. -/
theorem delivered_or_closed_iff {clientId : UInt32} {sid : UInt16} {payloads : List Bytes} {order : List ℕ}
    {rx : Multiplexer} {arrivals : List Arrival} (hcount : payloads.length < 2 ^ 32)
    (hlegal : ∀ p ∈ payloads, IsPayload sid p) (hrx : rx.Unused sid)
    (hperm : order.Perm (List.range payloads.length))
    (hframes : framesOf arrivals = order.map (frameAt clientId sid payloads)) :
    let r := run sid ⟨rx, []⟩ arrivals
    (r.read ++ r.mux.recvBuf sid = payloads.flatten ∨ r.mux.streamClosed sid = true) ↔
      ∀ arrived, arrived <+: order → (Buffer.waiting arrived.toFinset).card ≤ 100 := by
  intro r
  rw [← run_delivers_iff hcount hlegal hrx hperm hframes]
  refine or_iff_left_of_imp fun hclosed => ?_
  have horder : ∀ i ∈ order, i < payloads.length := fun i hi => List.mem_range.mp (hperm.mem_iff.mp hi)
  rcases run_data_open hlegal hrx horder hframes with ⟨-, rfl⟩ | ⟨stream, hget, hopen⟩
  · refine (run_delivers_iff hcount hlegal hrx hperm hframes).mpr fun arrived harrived => ?_
    rw [List.prefix_nil.mp harrived]
    exact Nat.zero_le _
  · rw [Multiplexer.streamClosed, hget] at hclosed
    dsimp only at hclosed
    rw [hopen] at hclosed
    cases hclosed

/-- Three frames, backwards, and a read between them. -/
theorem delivered_or_closed_three :
    let r := run 5 ⟨Multiplexer.new 9, []⟩
      [.frame (dataFrame 7 5 2 [3]), .frame (dataFrame 7 5 1 [2]), .read, .frame (dataFrame 7 5 0 [1])]
    r.read ++ r.mux.recvBuf 5 = [1, 2, 3] ∨ r.mux.streamClosed 5 = true := by
  refine (@delivered_or_closed_iff 7 5 [[1], [2], [3]] [2, 1, 0] (Multiplexer.new 9) _ (by decide) (by decide)
    (Or.inl (by decide)) (by decide) (by decide)).mpr fun arrived harrived => ?_
  have hcard : (Buffer.waiting arrived.toFinset).card ≤ arrived.toFinset.card := Finset.card_filter_le _ _
  have hlength := arrived.toFinset_card_le
  have hshort : arrived.length ≤ 3 := harrived.length_le
  omega

/-- Of 102 frames the first comes last: frame 101 finds 100 frames held, and no one
hears of it again. -/
theorem full_buffer_stalls :
    let payloads := List.replicate 102 [(7 : UInt8)]
    let order := List.range' 1 101 ++ [0]
    let r := run 5 ⟨Multiplexer.new 9, []⟩ (order.map fun i => .frame (frameAt 7 5 payloads i))
    order.Perm (List.range payloads.length) ∧ r.read ++ r.mux.recvBuf 5 ≠ payloads.flatten ∧
      r.mux.streamClosed 5 = false := by
  intro payloads order r
  have hperm : order.Perm (List.range payloads.length) := List.perm_append_singleton 0 (List.range' 1 101)
  have hlegal : ∀ p ∈ payloads, IsPayload 5 p := by
    intro p hp
    rw [List.eq_of_mem_replicate hp]
    decide
  have hrx : (Multiplexer.new 9).Unused 5 := Or.inl (by decide)
  have hframes : framesOf (order.map fun i => .frame (frameAt 7 5 payloads i)) = order.map (frameAt 7 5 payloads) := by
    rw [← framesOf_frames (order.map (frameAt 7 5 payloads)), List.map_map]
    rfl
  refine ⟨hperm, fun hdelivered => ?_, ?_⟩
  · have hwait := (run_delivers_iff (by decide) hlegal hrx hperm hframes).mp hdelivered _ (List.prefix_append _ _)
    -- all of them wait for frame 0
    have hall : Buffer.waiting (List.range' 1 101).toFinset = (List.range' 1 101).toFinset := by
      refine Finset.filter_true_of_mem fun i hi => ⟨0, ?_, by simp⟩
      rw [List.mem_toFinset, List.mem_range'_1] at hi
      omega
    rw [hall, List.toFinset_card_of_nodup List.nodup_range', List.length_range'] at hwait
    exact absurd hwait (by decide)
  · have horder : ∀ i ∈ order, i < payloads.length := fun i hi => List.mem_range.mp (hperm.mem_iff.mp hi)
    rcases run_data_open hlegal hrx horder hframes with ⟨-, hnil⟩ | ⟨stream, hget, hopen⟩
    · exact absurd hnil (by simp [order])
    · rw [Multiplexer.streamClosed, hget]
      exact hopen

end Receiver

end TauriVpn.Olcrtc
