import TauriVpn.Olcrtc.Reassembly

/-! Does a close overtake data? Data frames are put in order by their numbers, and the
close frame has none: it closes the stream when it arrives. A reader that drains a stream
and then sees it closed has all of it only if the close arrived after all of the data. -/

namespace TauriVpn.Olcrtc

open SequenceBuffer

def Arrival.bytes? : Arrival → Option Bytes
  | .frame bytes => some bytes
  | .read => none

namespace Receiver

/-- The frames that arrive, without the reads between them. -/
def framesOf (arrivals : List Arrival) : List Bytes := arrivals.filterMap Arrival.bytes?

theorem mem_framesOf {arrivals : List Arrival} {bytes : Bytes} :
    bytes ∈ framesOf arrivals ↔ .frame bytes ∈ arrivals := by
  rw [framesOf, List.mem_filterMap]
  constructor
  · rintro ⟨a, ha, hbytes⟩
    cases a with
    | frame bytes' =>
      cases hbytes
      exact ha
    | read => cases hbytes
  · exact fun h => ⟨_, h, rfl⟩

theorem framesOf_append (before after : List Arrival) :
    framesOf (before ++ after) = framesOf before ++ framesOf after := List.filterMap_append

theorem framesOf_frames (frames : List Bytes) : framesOf (frames.map .frame) = frames := by
  rw [framesOf, List.filterMap_map]
  exact List.filterMap_some

/-- The frames that wait for an earlier one. -/
def pending (r : Receiver) (sid : UInt16) : ℕ :=
  (r.mux.streams[sid]?.map fun stream => stream.outOfOrder.size).getD 0

/-- A reader that finds the stream closed and drained has been handed all payloads. -/
def CompleteWhenClosed (rx : Multiplexer) (sid : UInt16) (payloads : List Bytes) (arrivals : List Arrival) : Prop :=
  let r := run sid ⟨rx, []⟩ arrivals
  r.mux.streamClosed sid = true → r.mux.recvBuf sid = [] → r.read = payloads.flatten

section Order
variable {clientId owner : UInt32} {sid : UInt16} {payloads order : List Bytes} {rx : Multiplexer}
  {notify : NotifyId} {arrivals : List Arrival}

/-- The frames that arrive are the data frames and the close frame. -/
def SentBy (clientId : UInt32) (sid : UInt16) (payloads : List Bytes) (arrivals : List Arrival) : Prop :=
  ∀ bytes, .frame bytes ∈ arrivals → bytes ∈ framesFrom clientId sid 0 payloads ∨ bytes = closeFrame clientId sid

theorem step_frameAt_get (hlegal : ∀ p ∈ payloads, IsPayload sid p) {i : ℕ} (hi : i < payloads.length)
    (r : Receiver) : (r.step sid (.frame (frameAt clientId sid payloads i))).mux.streams[sid]? =
      some (((r.mux.streamOr sid clientId).adopt clientId).accept (UInt32.ofNat i) (payloadAt payloads i)).1 := by
  simp only [step, frameAt]
  rw [Multiplexer.handleFrame_dataFrame _ _ _ (isPayload_payloadAt hlegal hi), Multiplexer.receiveData_get]

/-- While no close frame arrives, or only one for another owner before all data, the
stream stays open. -/
theorem run_open (hlegal : ∀ p ∈ payloads, IsPayload sid p)
    (hopen : rx.streams[sid]? = some (Stream.fresh owner notify)) (arrivals : List Arrival)
    (hsent : SentBy clientId sid payloads arrivals)
    (hclose : ∀ before after, arrivals = before ++ .frame (closeFrame clientId sid) :: after →
      framesOf before = [] ∧ owner ≠ clientId) :
    ∃ stream, (run sid ⟨rx, []⟩ arrivals).mux.streams[sid]? = some stream ∧ stream.closed = false ∧
      (framesOf arrivals = [] → stream.clientId = owner) := by
  induction arrivals using List.reverseRecOn with
  | nil => exact ⟨_, hopen, rfl, fun _ => rfl⟩
  | append_singleton arrivals a ih =>
    obtain ⟨stream, hget, hclosed, howner⟩ := ih (fun bytes hb => hsent bytes (by simp [hb]))
      fun before after he => hclose before (after ++ [a]) (by simp [he])
    rw [run_concat]
    cases a with
    | read =>
      refine ⟨{ stream with recvBuf := [] }, ?_, hclosed, fun hnone => howner ?_⟩
      · simp only [step, Multiplexer.readStream, hget]
        exact Multiplexer.setStream_get _ _ _
      · rw [framesOf_append] at hnone
        exact (List.append_eq_nil_iff.mp hnone).1
    | frame bytes =>
      have hsome : framesOf (arrivals ++ [.frame bytes]) ≠ [] := by simp [framesOf, Arrival.bytes?]
      rcases hsent bytes (by simp) with hdata | rfl
      · obtain ⟨i, hi, rfl⟩ := mem_framesFrom_iff.mp hdata
        refine ⟨_, step_frameAt_get hlegal hi _, ?_, fun hnone => absurd hnone hsome⟩
        rw [(Stream.accept_frame _ _ _).2.1, Multiplexer.streamOr, hget, Option.getD_some, Stream.adopt]
        split_ifs
        · rfl
        · exact hclosed
      · obtain ⟨hnone, hne⟩ := hclose arrivals [] rfl
        refine ⟨stream, ?_, hclosed, fun h => absurd h hsome⟩
        simp only [step]
        rw [Multiplexer.handleFrame_closeFrame, Multiplexer.markClosed, hget]
        dsimp only
        rw [if_neg (by rw [howner hnone]; exact hne), hget]

/-- A stream that stays open promises nothing. -/
theorem complete_of_open (hlegal : ∀ p ∈ payloads, IsPayload sid p)
    (hopen : rx.streams[sid]? = some (Stream.fresh owner notify)) (hsent : SentBy clientId sid payloads arrivals)
    (hclose : ∀ before after, arrivals = before ++ .frame (closeFrame clientId sid) :: after →
      framesOf before = [] ∧ owner ≠ clientId) : CompleteWhenClosed rx sid payloads arrivals := by
  intro hclosed
  obtain ⟨stream, hget, hstill, -⟩ := run_open hlegal hopen arrivals hsent hclose
  rw [Multiplexer.streamClosed, hget] at hclosed
  dsimp only at hclosed
  rw [hstill] at hclosed
  cases hclosed

/-- With all data there, what is drained is all of it. -/
theorem complete_of_arrived (hcount : payloads.length < 2 ^ 32) (hlegal : ∀ p ∈ payloads, IsPayload sid p)
    (hopen : rx.streams[sid]? = some (Stream.fresh owner notify)) (hsent : SentBy clientId sid payloads arrivals)
    (hnever : NeverRefuses ⟨rx, []⟩ sid arrivals)
    (hall : ∀ i < payloads.length, .frame (frameAt clientId sid payloads i) ∈ arrivals) :
    CompleteWhenClosed rx sid payloads arrivals := by
  intro _ hempty
  obtain ⟨b, htracks, harrived, -, hseen⟩ :=
    run_tracks hcount hlegal (Multiplexer.tracks_fresh hopen clientId _) arrivals hsent
  obtain ⟨hbytes, -⟩ := htracks.delivered
  have hle : payloads.length ≤ b.next := Buffer.le_next_of_subset_seen fun i hi =>
    hseen hnever i (Finset.mem_range.mp hi) (hall i (Finset.mem_range.mp hi))
  have hge : b.next ≤ payloads.length := Buffer.next_le_of_seen_subset fun i hi =>
    Finset.mem_range.mpr (harrived i hi).1
  rw [hempty, List.append_nil, segment_payloadAt _ hge, List.take_of_length_le hle] at hbytes
  exact hbytes

/-- With a frame missing, what is drained is not all of it. -/
theorem incomplete_of_missing (hcount : payloads.length < 2 ^ 32) (hlegal : ∀ p ∈ payloads, IsPayload sid p)
    (hopen : rx.streams[sid]? = some (Stream.fresh owner notify)) (hsent : SentBy clientId sid payloads arrivals)
    {i : ℕ} (hi : i < payloads.length) (hmissing : .frame (frameAt clientId sid payloads i) ∉ arrivals)
    (hempty : (run sid ⟨rx, []⟩ arrivals).mux.recvBuf sid = []) :
    (run sid ⟨rx, []⟩ arrivals).read ≠ payloads.flatten := by
  obtain ⟨b, htracks, hseen, -, -⟩ :=
    run_tracks hcount hlegal (Multiplexer.tracks_fresh hopen clientId _) arrivals hsent
  obtain ⟨hbytes, -⟩ := htracks.delivered
  have hnext : b.next ≤ i := by
    by_contra hlt
    exact hmissing (hseen i (Buffer.mem_seen.mpr (.inl (Nat.lt_of_not_le hlt)))).2
  rw [hempty, List.append_nil, segment_payloadAt _ (by omega)] at hbytes
  rw [hbytes]
  intro heq
  have hall := (flatten_take_eq_iff hlegal (by omega)).mp heq
  omega

/-- A close frame for the owner of the stream closes it, and a read drains it. -/
theorem closed_and_drained {r : Receiver} {stream : Stream} (hget : r.mux.streams[sid]? = some stream)
    (howner : stream.clientId = clientId) :
    let r' := (r.step sid (.frame (closeFrame clientId sid))).step sid .read
    r'.mux.streamClosed sid = true ∧ r'.mux.recvBuf sid = [] := by
  intro r'
  have hclose : (r.step sid (.frame (closeFrame clientId sid))).mux.streams[sid]? =
      some { stream with closed := true } := by
    simp only [step]
    rw [Multiplexer.handleFrame_closeFrame, Multiplexer.markClosed, hget]
    dsimp only
    rw [if_pos howner, Multiplexer.setStream_get]
  have hread : r'.mux.streams[sid]? = some { stream with closed := true, recvBuf := [] } := by
    have hstep : r'.mux = (Multiplexer.readStream (r.step sid (.frame (closeFrame clientId sid))).mux sid).2 := rfl
    rw [hstep]
    unfold Multiplexer.readStream
    rw [hclose]
    exact Multiplexer.setStream_get _ _ _
  rw [Multiplexer.streamClosed, Multiplexer.recvBuf, hread]
  exact ⟨rfl, rfl⟩

/-- Once data has arrived the stream belongs to its sender. -/
theorem run_owner (hlegal : ∀ p ∈ payloads, IsPayload sid p)
    (hopen : rx.streams[sid]? = some (Stream.fresh owner notify)) {frames : List Bytes}
    (hdata : ∀ bytes ∈ frames, bytes ∈ framesFrom clientId sid 0 payloads)
    (howner : frames = [] → owner = clientId) :
    ∃ stream, (run sid ⟨rx, []⟩ (frames.map .frame)).mux.streams[sid]? = some stream ∧
      stream.clientId = clientId := by
  induction frames using List.reverseRecOn with
  | nil => exact ⟨_, hopen, howner rfl⟩
  | append_singleton frames bytes _ =>
    obtain ⟨i, hi, rfl⟩ := mem_framesFrom_iff.mp (hdata bytes (by simp))
    rw [List.map_append, List.map_singleton, run_concat]
    refine ⟨_, step_frameAt_get hlegal hi _, ?_⟩
    rw [(Stream.accept_frame _ _ _).1, Stream.adopt_clientId]

theorem neverRefuses_of_pending
    (hpending : ∀ arrivals, framesOf arrivals <+: order → pending (run sid ⟨rx, []⟩ arrivals) sid ≤ 99)
    (harrivals : framesOf arrivals <+: order) : NeverRefuses ⟨rx, []⟩ sid arrivals := by
  rintro before bytes after rfl ⟨stream, hget, hsize, -⟩
  rw [framesOf_append] at harrivals
  have hbound := hpending before ((List.prefix_append _ _).trans harrivals)
  rw [pending, hget, Option.map_some, Option.getD_some, hsize] at hbound
  exact absurd hbound (by decide)

/-- Only frames that the sender numbered can wait. -/
theorem pending_le (hcount : payloads.length < 2 ^ 32) (hlegal : ∀ p ∈ payloads, IsPayload sid p)
    (hopen : rx.streams[sid]? = some (Stream.fresh owner notify)) (hsent : SentBy clientId sid payloads arrivals) :
    pending (run sid ⟨rx, []⟩ arrivals) sid ≤ payloads.length := by
  obtain ⟨b, htracks, hseen, -, -⟩ :=
    run_tracks hcount hlegal (Multiplexer.tracks_fresh hopen clientId _) arrivals hsent
  unfold pending
  cases hget : (run sid ⟨rx, []⟩ arrivals).mux.streams[sid]? with
  | none => exact Nat.zero_le _
  | some stream =>
    rw [Option.map_some, Option.getD_some, (htracks.represents stream hget).size]
    have hheld : b.held ⊆ Finset.range payloads.length := fun i hi =>
      Finset.mem_range.mpr (hseen i (Buffer.mem_seen.mpr (.inr hi))).1
    simpa using Finset.card_le_card hheld

theorem sentBy_of_order (hperm : order.Perm (framesFrom clientId sid 0 payloads ++ [closeFrame clientId sid]))
    (harrivals : framesOf arrivals <+: order) : SentBy clientId sid payloads arrivals := by
  intro bytes hb
  have hmem := hperm.mem_iff.mp (harrivals.subset (mem_framesOf.mpr hb))
  rwa [List.mem_append, List.mem_singleton] at hmem

theorem framesFrom_nodup (hcount : payloads.length < 2 ^ 32) : (framesFrom clientId sid 0 payloads).Nodup := by
  rw [framesFrom_eq_map]
  refine List.Nodup.map_on (fun i hi j hj heq => ?_) List.nodup_range
  rw [List.mem_range] at hi hj
  rw [← frameSeq_frameAt (hi.trans hcount), heq, frameSeq_frameAt (hj.trans hcount)]

theorem closeFrame_notMem (hlegal : ∀ p ∈ payloads, IsPayload sid p) :
    closeFrame clientId sid ∉ framesFrom clientId sid 0 payloads := by
  intro hmem
  obtain ⟨i, hi, heq⟩ := mem_framesFrom_iff.mp hmem
  exact frameAt_ne_closeFrame hlegal hi heq.symm

theorem data_around_close (hperm : order.Perm (framesFrom clientId sid 0 payloads ++ [closeFrame clientId sid]))
    {before after : List Bytes} (horder : order = before ++ closeFrame clientId sid :: after) :
    (before ++ after).Perm (framesFrom clientId sid 0 payloads) := by
  subst horder
  exact (List.perm_middle.symm.trans (hperm.trans (List.perm_append_singleton _ _))).cons_inv

section Sides
variable (hcount : payloads.length < 2 ^ 32) (hlegal : ∀ p ∈ payloads, IsPayload sid p)
  (hopen : rx.streams[sid]? = some (Stream.fresh owner notify))
  (hperm : order.Perm (framesFrom clientId sid 0 payloads ++ [closeFrame clientId sid]))
include hcount hlegal hopen hperm

/-- A close frame before the last data frame closes the stream, and a reader that drains
it then is not handed all of it. -/
theorem not_complete_of_overtaken {before after : List Bytes} {frame : Bytes}
    (horder : order = before ++ closeFrame clientId sid :: frame :: after)
    (howner : before = [] → owner = clientId) :
    ∃ arrivals, framesOf arrivals <+: order ∧ ¬CompleteWhenClosed rx sid payloads arrivals := by
  have hframes := data_around_close hperm horder
  let arrivals := before.map Arrival.frame ++ [.frame (closeFrame clientId sid)] ++ [.read]
  have hframesOf : framesOf arrivals = before ++ [closeFrame clientId sid] := by
    simp only [arrivals, framesOf_append, framesOf_frames, List.append_assoc]
    rfl
  have hbegins : framesOf arrivals <+: order := by
    rw [hframesOf, horder]
    exact ⟨frame :: after, by simp⟩
  refine ⟨arrivals, hbegins, fun hcomplete => ?_⟩
  obtain ⟨stream, hget, hstream⟩ := run_owner hlegal hopen
    (fun bytes hb => hframes.subset (List.mem_append_left _ hb)) howner
  have hrun : run sid ⟨rx, []⟩ arrivals = ((run sid ⟨rx, []⟩ (before.map .frame)).step sid
      (.frame (closeFrame clientId sid))).step sid .read := by
    rw [run_concat, run_concat]
  obtain ⟨hclosed, hempty⟩ := closed_and_drained hget hstream
  rw [← hrun] at hclosed hempty
  obtain ⟨i, hi, rfl⟩ := mem_framesFrom_iff.mp (hframes.subset (List.mem_append_right _ List.mem_cons_self))
  have hmissing : .frame (frameAt clientId sid payloads i) ∉ arrivals := by
    rw [← mem_framesOf, hframesOf, List.mem_append, List.mem_singleton]
    rintro (hmem | heq)
    · have hnodup := hframes.nodup_iff.mpr (framesFrom_nodup hcount)
      exact (List.nodup_append.mp hnodup).2.2 _ hmem _ List.mem_cons_self rfl
    · exact frameAt_ne_closeFrame hlegal hi heq
  exact incomplete_of_missing hcount hlegal hopen (sentBy_of_order hperm hbegins) hi hmissing hempty
    (hcomplete hclosed hempty)

/-- A close frame after all data frames closes a stream that has all of them. -/
theorem complete_of_close_last {data : List Bytes} (horder : order = data ++ [closeFrame clientId sid])
    (hpending : ∀ arrivals, framesOf arrivals <+: order → pending (run sid ⟨rx, []⟩ arrivals) sid ≤ 99)
    (harrivals : framesOf arrivals <+: order) : CompleteWhenClosed rx sid payloads arrivals := by
  have hdata : data.Perm (framesFrom clientId sid 0 payloads) := by
    simpa using data_around_close hperm horder
  have hsent := sentBy_of_order hperm harrivals
  subst horder
  rcases List.prefix_concat_iff.mp harrivals with hall | hsome
  · refine complete_of_arrived hcount hlegal hopen hsent (neverRefuses_of_pending hpending harrivals) fun i hi => ?_
    rw [← mem_framesOf, hall]
    exact List.mem_append_left _ (hdata.mem_iff.mpr (mem_framesFrom_iff.mpr ⟨i, hi, rfl⟩))
  · refine complete_of_open hlegal hopen hsent fun before after he => ?_
    have hclose : closeFrame clientId sid ∈ framesOf arrivals := by
      rw [he, mem_framesOf]
      simp
    exact absurd (hdata.subset (hsome.subset hclose)) (closeFrame_notMem hlegal)

omit hcount in
/-- A close frame before all data frames at a stream of another owner is not taken. -/
theorem complete_of_close_ignored {data : List Bytes} (horder : order = closeFrame clientId sid :: data)
    (howner : owner ≠ clientId) (harrivals : framesOf arrivals <+: order) :
    CompleteWhenClosed rx sid payloads arrivals := by
  have hdata : ([] ++ data).Perm (framesFrom clientId sid 0 payloads) := data_around_close hperm horder
  subst horder
  refine complete_of_open hlegal hopen (sentBy_of_order hperm harrivals) fun before after he => ⟨?_, howner⟩
  rw [he, framesOf_append] at harrivals
  cases hbefore : framesOf before with
  | nil => rfl
  | cons first rest =>
    rw [hbefore, List.cons_append, List.cons_prefix_cons] at harrivals
    have hclose : closeFrame clientId sid ∈ rest ++ framesOf (.frame (closeFrame clientId sid) :: after) :=
      List.mem_append_right _ (mem_framesOf.mpr List.mem_cons_self)
    exact absurd (hdata.subset (harrivals.2.subset hclose)) (closeFrame_notMem hlegal)

end Sides

end Order

/-- A reader that drains a stream and sees it closed has all of it, wherever it reads,
just when the close frame arrives after all data frames, or before all of them at a
stream of another owner, which takes no notice of it. -/
theorem complete_when_closed_iff {clientId owner : UInt32} {sid : UInt16} {payloads order : List Bytes}
    {rx : Multiplexer} {notify : NotifyId} (hcount : payloads.length < 2 ^ 32)
    (hlegal : ∀ p ∈ payloads, IsPayload sid p) (hopen : rx.streams[sid]? = some (Stream.fresh owner notify))
    (hperm : order.Perm (framesFrom clientId sid 0 payloads ++ [closeFrame clientId sid]))
    (hpending : ∀ arrivals, framesOf arrivals <+: order → pending (run sid ⟨rx, []⟩ arrivals) sid ≤ 99) :
    (∀ arrivals, framesOf arrivals <+: order → CompleteWhenClosed rx sid payloads arrivals) ↔
      order.getLast? = some (closeFrame clientId sid) ∨
        (order.head? = some (closeFrame clientId sid) ∧ owner ≠ clientId) := by
  constructor
  · intro hcomplete
    obtain ⟨before, after, horder⟩ := List.append_of_mem
      (hperm.mem_iff.mpr (List.mem_append_right _ (List.mem_singleton_self _)))
    cases after with
    | nil => exact .inl (by rw [horder, List.getLast?_concat])
    | cons frame after =>
      by_contra hnot
      have howner : before = [] → owner = clientId := by
        rintro rfl
        by_contra hne
        exact hnot (.inr ⟨by rw [horder]; rfl, hne⟩)
      obtain ⟨arrivals, harrivals, hincomplete⟩ :=
        not_complete_of_overtaken hcount hlegal hopen hperm horder howner
      exact hincomplete (hcomplete arrivals harrivals)
  · rintro (hlast | ⟨hfirst, howner⟩) arrivals harrivals
    · obtain ⟨data, horder⟩ := List.getLast?_eq_some_iff.mp hlast
      exact complete_of_close_last hcount hlegal hopen hperm horder hpending harrivals
    · obtain ⟨data, horder⟩ := List.head?_eq_some_iff.mp hfirst
      exact complete_of_close_ignored hlegal hopen hperm horder howner harrivals

/-! ### Two data frames and a close -/

def opened : Multiplexer := (Multiplexer.new 7).setStream 5 (Stream.fresh 0 0)

/-- The data comes in the wrong order, and the close after it. -/
def inOrder : List Arrival :=
  [.frame (dataFrame 7 5 1 [2]), .read, .frame (dataFrame 7 5 0 [1]), .frame (closeFrame 7 5), .read]

theorem complete_when_closed_two_frames : (run 5 ⟨opened, []⟩ inOrder).mux.streamClosed 5 = true ∧
    (run 5 ⟨opened, []⟩ inOrder).mux.recvBuf 5 = [] ∧ (run 5 ⟨opened, []⟩ inOrder).read = [[1], [2]].flatten := by
  have hlegal : ∀ p ∈ [[1], [2]], IsPayload 5 p := by decide
  have hopen : opened.streams[(5 : UInt16)]? = some (Stream.fresh 0 0) := Multiplexer.setStream_get _ _ _
  have hperm : [dataFrame 7 5 1 [2], dataFrame 7 5 0 [1], closeFrame 7 5].Perm
      (framesFrom 7 5 0 [[1], [2]] ++ [closeFrame 7 5]) := List.Perm.swap _ _ _
  have hcomplete := (complete_when_closed_iff (by decide) hlegal hopen hperm fun arrivals harrivals =>
    (pending_le (by decide) hlegal hopen (sentBy_of_order hperm harrivals)).trans (by decide)).mpr (.inl rfl)
  have hclosed : (run 5 ⟨opened, []⟩ inOrder).mux.streamClosed 5 = true := by decide
  have hempty : (run 5 ⟨opened, []⟩ inOrder).mux.recvBuf 5 = [] := by decide
  exact ⟨hclosed, hempty, hcomplete inOrder List.prefix_rfl hclosed hempty⟩

/-- The close comes while the second frame waits for the first. -/
theorem close_overtakes_data :
    let order := [dataFrame 7 5 1 [2], closeFrame 7 5, dataFrame 7 5 0 [1]]
    let r := run 5 ⟨opened, []⟩ [.frame (dataFrame 7 5 1 [2]), .frame (closeFrame 7 5)]
    order.Perm (framesFrom 7 5 0 [[1], [2]] ++ [closeFrame 7 5]) ∧
      framesOf [.frame (dataFrame 7 5 1 [2]), .frame (closeFrame 7 5)] <+: order ∧
      pending r 5 = 1 ∧ r.mux.streamClosed 5 = true ∧ r.mux.recvBuf 5 = [] ∧
      r.read ≠ [[1], [2]].flatten :=
  ⟨by decide, by decide, by decide, by decide, by decide, by decide⟩

end Receiver

end TauriVpn.Olcrtc
