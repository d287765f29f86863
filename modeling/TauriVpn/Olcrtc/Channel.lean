import TauriVpn.Olcrtc.Numbering
import TauriVpn.Olcrtc.Reassembly
import TauriVpn.Olcrtc.Room

/-! One stream from one client to another, across a room that may drop, repeat, reorder and
make up what it delivers. The sender numbers what it sends and the receiver puts it back in
order; that nobody else speaks on the stream is what the key is for. -/

namespace TauriVpn.Olcrtc

open Receiver (payloadAt frameAt)
open SequenceBuffer StepSystem

/-! ### The payloads of a stream -/

/-- The payload that a frame carries on the stream. -/
def payloadOn (sid : UInt16) (frame : Bytes) : Option Bytes :=
  match classify frame with
  | .data sid' _ _ payload => if sid' = sid then some payload else none
  | _ => none

def payloadsOn (sid : UInt16) (frames : List Bytes) : List Bytes := frames.filterMap (payloadOn sid)

section Payloads
variable {sid : UInt16}

theorem payloadsOn_append (frames frames' : List Bytes) :
    payloadsOn sid (frames ++ frames') = payloadsOn sid frames ++ payloadsOn sid frames' := List.filterMap_append

theorem payloadOn_dataFrame (clientId : UInt32) {sid' : UInt16} (seq : UInt32) {payload : Bytes}
    (h : IsPayload sid' payload) : payloadOn sid (dataFrame clientId sid' seq payload) =
      if sid' = sid then some payload else none := by
  rw [payloadOn, classify_dataFrame clientId seq h]

@[simp] theorem payloadOn_closeFrame (clientId : UInt32) (sid' : UInt16) :
    payloadOn sid (closeFrame clientId sid') = none := by
  rw [payloadOn, classify_closeFrame]

@[simp] theorem payloadOn_resetFrame (clientId : UInt32) : payloadOn sid (resetFrame clientId) = none := by
  rw [payloadOn, classify_resetFrame]

/-- More payloads behind do not change an earlier one. -/
theorem payloadAt_append {payloads : List Bytes} (more : List Bytes) {k : ℕ} (hk : k < payloads.length) :
    payloadAt (payloads ++ more) k = payloadAt payloads k := by
  rw [payloadAt, payloadAt, List.getD_eq_getElem?_getD, List.getD_eq_getElem?_getD, List.getElem?_append_left hk]

end Payloads

/-- A frame of the kind takes away an entry that the stream has for a client. -/
def FrameKind.Takes (sid : UInt16) (owner : UInt32) : FrameKind → Prop
  | .data sid' clientId _ _ => sid' = sid ∧ owner ≠ clientId
  | .reset clientId => owner = clientId
  | _ => False

instance (sid : UInt16) (owner : UInt32) : (kind : FrameKind) → Decidable (kind.Takes sid owner)
  | .data sid' clientId _ _ => inferInstanceAs (Decidable (sid' = sid ∧ owner ≠ clientId))
  | .reset clientId => inferInstanceAs (Decidable (owner = clientId))
  | .close _ _ => isFalse id
  | .ignored => isFalse id

/-! ### The receiving end -/

namespace Multiplexer

section Tracks
variable {m m' : Multiplexer} {sid : UInt16} {clientId : UInt32} {sent : ℕ → Bytes} {b : Buffer} {read : Bytes}

/-- What is tracked depends on the entry of the stream alone. -/
theorem Tracks.of_get (h : m.Tracks sid clientId sent b read) (hget : m'.streams[sid]? = m.streams[sid]?) :
    m'.Tracks sid clientId sent b read :=
  ⟨fun stream hs => h.represents stream (hget ▸ hs), fun hne => h.untouched fun stream hs => hne stream (hget.trans hs)⟩

/-- An entry that appears has nothing in it, and there was nothing before. -/
theorem Tracks.of_fresh (h : m.Tracks sid clientId sent b read) (hnone : m.streams[sid]? = none) {owner : UInt32}
    {notify : NotifyId} (hget : m'.streams[sid]? = some (Stream.fresh owner notify)) :
    m'.Tracks sid clientId sent b read := by
  obtain ⟨rfl, rfl⟩ := h.untouched fun stream hs => by rw [hnone] at hs; cases hs
  exact tracks_fresh hget clientId sent

/-- An operation on the sending side, or closing, leaves what is tracked. -/
theorem Tracks.of_sending (h : m.Tracks sid clientId sent b read) {stream : Stream} (hget : m.streams[sid]? = some stream)
    {nextSendSeq : UInt32} {closed : Bool} (hget' : m'.streams[sid]? = some { stream with nextSendSeq, closed }) :
    m'.Tracks sid clientId sent b read := by
  have hrep := h.represents stream hget
  refine ⟨fun s hs => ?_, fun hne => h.untouched fun s hs => ?_⟩
  · rw [hget', Option.some.injEq] at hs
    exact hs ▸ ⟨⟨hrep.lookup, hrep.size⟩, hrep.next, hrep.delivered⟩
  · rw [hget, Option.some.injEq] at hs
    subst hs
    exact hne { stream with nextSendSeq, closed } hget'

/-- The payloads beyond the numbers that have been seen do not matter. -/
theorem Tracks.congr (h : m.Tracks sid clientId sent b read) {n : ℕ} (hseen : b.seen ⊆ Finset.range n)
    {sent' : ℕ → Bytes} (heq : ∀ i < n, sent' i = sent i) : m.Tracks sid clientId sent' b read := by
  have hlt : ∀ i ∈ b.seen, i < n := fun i hi => Finset.mem_range.mp (hseen hi)
  refine ⟨fun stream hs => ?_, h.untouched⟩
  have hrep := h.represents stream hs
  refine ⟨⟨fun seq => ?_, hrep.size⟩, hrep.next, ?_⟩
  · rw [hrep.lookup]
    split_ifs with hheld
    · rw [heq _ (hlt _ (Buffer.mem_seen.mpr (.inr hheld)))]
    · rfl
  · rw [hrep.delivered, SequenceBuffer.segment, SequenceBuffer.segment]
    refine List.flatMap_congr fun i hi => (heq i (hlt i (Buffer.mem_seen.mpr (.inl ?_)))).symm
    have hi' := List.mem_range'_1.mp hi
    omega

theorem Tracks.openStream (h : m.Tracks sid clientId sent b read) {sid' : UInt16}
    (hopen : m.openStream = some (sid', m')) : m'.Tracks sid clientId sent b read := by
  obtain ⟨-, hfree, hstreams, -⟩ := openLoop_spec hopen
  by_cases hsid : sid' = sid
  · subst hsid
    exact h.of_fresh hfree (by rw [hstreams, Std.ExtTreeMap.getElem?_insert_self])
  · refine h.of_get ?_
    rw [hstreams, Std.ExtTreeMap.getElem?_insert]
    simp [hsid]

theorem Tracks.waitForData (h : m.Tracks sid clientId sent b read) (sid' : UInt16) :
    (m.waitForData sid').2.Tracks sid clientId sent b read := by
  by_cases hsid : sid' = sid
  · subst hsid
    rw [waitForData_snd]
    cases hget : m.streams[sid']? with
    | none =>
      have hfresh := entryOrInsert_get m sid' m.clientId
      rw [streamOr, hget, Option.getD_none] at hfresh
      exact h.of_fresh hget hfresh
    | some stream => exact h.of_get (by rw [entryOrInsert_get, streamOr, hget, Option.getD_some])
  · exact h.of_get (waitForData_get_ne m hsid)

theorem Tracks.allocSeq (h : m.Tracks sid clientId sent b read) {sid' : UInt16} {seq : UInt32}
    (halloc : m.allocSeq sid' = some (seq, m')) : m'.Tracks sid clientId sent b read := by
  obtain ⟨stream, hget, -, -, rfl⟩ := allocSeq_eq_some halloc
  by_cases hsid : sid' = sid
  · subst hsid
    exact h.of_sending hget (setStream_get _ _ _)
  · exact h.of_get (setStream_get_ne _ _ hsid)

theorem Tracks.closeStream (h : m.Tracks sid clientId sent b read) (send : SendFn) (sid' : UInt16) :
    (m.closeStream send sid').mux.Tracks sid clientId sent b read := by
  by_cases hsid : sid' = sid
  · subst hsid
    unfold Multiplexer.closeStream
    cases hget : m.streams[sid']? with
    | none => exact h
    | some stream => exact h.of_sending hget (setStream_get _ _ _)
  · exact h.of_get (closeStream_get_ne m hsid send)

theorem Tracks.markClosed (h : m.Tracks sid clientId sent b read) (sid' : UInt16) (clientId' : UInt32) :
    (m.markClosed sid' clientId').1.Tracks sid clientId sent b read := by
  by_cases hsid : sid' = sid
  · subst hsid
    unfold Multiplexer.markClosed
    cases hget : m.streams[sid']? with
    | none => exact h
    | some stream =>
      dsimp only
      split_ifs
      · exact h.of_sending hget (setStream_get _ _ _)
      · exact h
  · exact h.of_get (markClosed_get_ne m hsid clientId')

/-- A reset of another client, or before there is an entry of this one. -/
theorem Tracks.resetClient (h : m.Tracks sid clientId sent b read) {clientId' : UInt32}
    (hkept : clientId' = clientId → ∀ stream, m.streams[sid]? = some stream → stream.clientId ≠ clientId) :
    (m.resetClient clientId').1.Tracks sid clientId sent b read := by
  cases hget : m.streams[sid]? with
  | none => exact h.of_get (by rw [resetClient_get, hget, Option.filter_none])
  | some stream =>
    by_cases hid : stream.clientId = clientId'
    · have hother : stream.clientId ≠ clientId := by
        by_cases hsame : clientId' = clientId
        · exact hkept hsame stream hget
        · exact fun heq => hsame (hid ▸ heq)
      obtain ⟨rfl, rfl⟩ := h.untouched fun s hs => by
        rw [hget, Option.some.injEq] at hs
        exact hs ▸ hother
      refine Unused.tracks (Or.inl ?_) clientId sent
      rw [resetClient_get, hget]
      simp [hid]
    · refine h.of_get ?_
      rw [resetClient_get, hget]
      simp [hid]

theorem Tracks.readOther (h : m.Tracks sid clientId sent b read) {sid' : UInt16} (hsid : sid' ≠ sid) :
    (m.readStream sid').2.Tracks sid clientId sent b read := h.of_get (readStream_get_ne m hsid)

end Tracks

/-! ### The counter of the sending end -/

/-- The number that the next data frame of the stream gets, once it has an open entry. -/
def sendSeq (m : Multiplexer) (sid : UInt16) : UInt32 := ((m.streams[sid]?).map Stream.nextSendSeq).getD 0

/-- Handling the frame does not take away an entry of the stream that has given out numbers. -/
def KeepsNumbers (sid : UInt16) (m : Multiplexer) (frame : Bytes) : Prop :=
  ∀ stream ∈ m.streams[sid]?, stream.nextSendSeq ≠ 0 → ¬(classify frame).Takes sid stream.clientId

instance (sid : UInt16) (m : Multiplexer) (frame : Bytes) : Decidable (m.KeepsNumbers sid frame) := by
  unfold KeepsNumbers; infer_instance

section SendSeq
variable {m m' : Multiplexer} {sid sid' : UInt16}

theorem sendSeq_of_get (h : m'.streams[sid]? = m.streams[sid]?) : m'.sendSeq sid = m.sendSeq sid := by
  rw [sendSeq, sendSeq, h]

theorem sendSeq_eq {stream : Stream} (h : m.streams[sid]? = some stream) : m.sendSeq sid = stream.nextSendSeq := by
  rw [sendSeq, h, Option.map_some, Option.getD_some]

theorem sendSeq_none (h : m.streams[sid]? = none) : m.sendSeq sid = 0 := by
  rw [sendSeq, h, Option.map_none, Option.getD_none]

theorem sendSeq_openStream (h : m.openStream = some (sid', m')) : m'.sendSeq sid = m.sendSeq sid := by
  obtain ⟨-, hfree, hstreams, -⟩ := openLoop_spec h
  by_cases hsid : sid' = sid
  · subst hsid
    rw [sendSeq_none hfree, sendSeq_eq (by rw [hstreams, Std.ExtTreeMap.getElem?_insert_self])]
    rfl
  · refine sendSeq_of_get ?_
    rw [hstreams, Std.ExtTreeMap.getElem?_insert]
    simp [hsid]

theorem sendSeq_waitForData : (m.waitForData sid').2.sendSeq sid = m.sendSeq sid := by
  by_cases hsid : sid' = sid
  · subst hsid
    rw [waitForData_snd, sendSeq_eq (entryOrInsert_get m sid' m.clientId), streamOr]
    cases hget : m.streams[sid']? with
    | none => rw [sendSeq_none hget, Option.getD_none]; rfl
    | some stream => rw [sendSeq_eq hget, Option.getD_some]
  · exact sendSeq_of_get (waitForData_get_ne m hsid)

theorem sendSeq_readStream : (m.readStream sid').2.sendSeq sid = m.sendSeq sid := by
  by_cases hsid : sid' = sid
  · subst hsid
    unfold readStream
    cases hget : m.streams[sid']? with
    | none => rfl
    | some stream => rw [sendSeq_eq hget, sendSeq_eq (setStream_get _ _ _)]
  · exact sendSeq_of_get (readStream_get_ne m hsid)

theorem sendSeq_closeStream (send : SendFn) : (m.closeStream send sid').mux.sendSeq sid = m.sendSeq sid := by
  by_cases hsid : sid' = sid
  · subst hsid
    unfold closeStream
    cases hget : m.streams[sid']? with
    | none => rfl
    | some stream => rw [sendSeq_eq hget, sendSeq_eq (setStream_get _ _ _)]
  · exact sendSeq_of_get (closeStream_get_ne m hsid send)

theorem sendSeq_markClosed (clientId : UInt32) : (m.markClosed sid' clientId).1.sendSeq sid = m.sendSeq sid := by
  by_cases hsid : sid' = sid
  · subst hsid
    unfold markClosed
    cases hget : m.streams[sid']? with
    | none => rfl
    | some stream =>
      dsimp only
      split_ifs
      · rw [sendSeq_eq hget, sendSeq_eq (setStream_get _ _ _)]
      · rfl
  · exact sendSeq_of_get (markClosed_get_ne m hsid clientId)

/-- A frame that does not take an entry with numbers away keeps the counter. -/
theorem sendSeq_handleFrame {frame : Bytes} (hkeeps : m.KeepsNumbers sid frame) :
    (m.handleFrame frame).1.sendSeq sid = m.sendSeq sid := by
  rw [handleFrame_classify]
  unfold KeepsNumbers at hkeeps
  cases hkind : classify frame with
  | ignored => rfl
  | close sid' clientId => exact sendSeq_markClosed clientId
  | reset clientId =>
    rw [hkind] at hkeeps
    cases hget : m.streams[sid]? with
    | none => exact sendSeq_of_get (by rw [resetClient_get, hget, Option.filter_none])
    | some stream =>
      by_cases hid : stream.clientId = clientId
      · have hzero : stream.nextSendSeq = 0 := by
          by_contra hne
          exact hkeeps stream hget hne hid
        rw [sendSeq_eq hget, hzero]
        refine sendSeq_none ?_
        rw [resetClient_get, hget]
        simp [hid]
      · refine sendSeq_of_get ?_
        rw [resetClient_get, hget]
        simp [hid]
  | data sid' clientId seq payload =>
    rw [hkind] at hkeeps
    by_cases hsid : sid' = sid
    · subst hsid
      rw [sendSeq_eq (receiveData_get m clientId sid' seq payload), nextSendSeq_accept, streamOr]
      cases hget : m.streams[sid']? with
      | none =>
        rw [sendSeq_none hget, Option.getD_none]
        split_ifs <;> rfl
      | some stream =>
        rw [sendSeq_eq hget, Option.getD_some]
        split_ifs with hid
        · rfl
        · by_contra hne
          exact hkeeps stream hget (Ne.symm hne) ⟨rfl, hid⟩
    · exact sendSeq_of_get (receiveData_get_ne m clientId seq payload hsid)

/-- A number of this stream moves the counter on, and one of another stream does not. -/
theorem sendSeq_allocSeq {seq : UInt32} (h : m.allocSeq sid' = some (seq, m')) :
    (sid' = sid → seq = m.sendSeq sid ∧ m'.sendSeq sid = m.sendSeq sid + 1) ∧
      (sid' ≠ sid → m'.sendSeq sid = m.sendSeq sid) := by
  obtain ⟨stream, hget, -, hseq, rfl⟩ := allocSeq_eq_some h
  refine ⟨fun hsid => ?_, fun hsid => sendSeq_of_get (setStream_get_ne _ _ hsid)⟩
  subst hsid
  rw [sendSeq_eq hget, sendSeq_eq (setStream_get _ _ _)]
  exact ⟨hseq.symm, rfl⟩

end SendSeq

end Multiplexer

/-! ### The numbers of a stream -/

namespace Multiplexer

/-- The data frames that have been built for the stream carry the numbers from 0 on, in the
order in which they were built, and the counter stands behind the last. -/
structure Numbers (sid : UInt16) (m : Multiplexer) (built : List Bytes) : Prop where
  counter : m.sendSeq sid = UInt32.ofNat (payloadsOn sid built).length
  legal : ∀ payload ∈ payloadsOn sid built, IsPayload sid payload
  frames : built.filter (fun frame => (payloadOn sid frame).isSome) =
    framesFrom m.clientId sid 0 (payloadsOn sid built)

section Numbers
variable {sid : UInt16} {m m' : Multiplexer} {built built' frames : List Bytes}

/-- A frame that was built carries nothing on the stream, or the payload of its number. -/
theorem Numbers.cases (h : m.Numbers sid built) {frame : Bytes} (hframe : frame ∈ built) :
    payloadOn sid frame = none ∨
      ∃ k < (payloadsOn sid built).length, frame = frameAt m.clientId sid (payloadsOn sid built) k := by
  by_cases hnone : payloadOn sid frame = none
  · exact Or.inl hnone
  · refine Or.inr (Receiver.mem_framesFrom_iff.mp ?_)
    rw [← h.frames]
    exact List.mem_filter.mpr ⟨hframe, Option.isSome_iff_ne_none.mpr hnone⟩

/-- A frame that carries nothing on the stream, and leaves the counter, keeps the numbers. -/
theorem Numbers.other (h : m.Numbers sid built) (hbuilt : built' = built ++ frames)
    (hnone : ∀ frame ∈ frames, payloadOn sid frame = none) (hclient : m'.clientId = m.clientId)
    (hcounter : m'.sendSeq sid = m.sendSeq sid) : m'.Numbers sid built' := by
  have hsame : payloadsOn sid built' = payloadsOn sid built := by
    rw [hbuilt, payloadsOn_append, payloadsOn, payloadsOn, List.filterMap_eq_nil_iff.mpr hnone, List.append_nil]
  have hnothing : frames.filter (fun frame => (payloadOn sid frame).isSome) = [] :=
    List.filter_eq_nil_iff.mpr fun frame hframe => by simp [hnone frame hframe]
  refine ⟨by rw [hcounter, hsame, h.counter], by rw [hsame]; exact h.legal, ?_⟩
  rw [hsame, hclient, hbuilt, List.filter_append, hnothing, List.append_nil, h.frames]

/-- The next chunk of the stream gets the next number. -/
theorem Numbers.numbered (h : m.Numbers sid built) {seq : UInt32} {chunk : Bytes} (hlegal : IsPayload sid chunk)
    (halloc : m.allocSeq sid = some (seq, m')) (hclient : m'.clientId = m.clientId)
    (hbuilt : built' = built ++ [dataFrame m.clientId sid seq chunk]) : m'.Numbers sid built' := by
  obtain ⟨hseq, hcounter⟩ := (sendSeq_allocSeq halloc).1 rfl
  have hpayload : payloadOn sid (dataFrame m.clientId sid seq chunk) = some chunk := by
    rw [payloadOn_dataFrame _ _ hlegal, if_pos rfl]
  have hpayloads : payloadsOn sid built' = payloadsOn sid built ++ [chunk] := by
    rw [hbuilt, payloadsOn_append]
    simp [payloadsOn, hpayload]
  refine ⟨?_, fun payload hmem => ?_, ?_⟩
  · rw [hcounter, h.counter, hpayloads, List.length_append, List.length_singleton, UInt32.ofNat_add]
    rfl
  · rw [hpayloads] at hmem
    rcases List.mem_append.mp hmem with hold | hnew
    · exact h.legal payload hold
    · exact List.mem_singleton.mp hnew ▸ hlegal
  · have hnext : (0 : UInt32) + UInt32.ofNat (payloadsOn sid built).length = seq := by
      rw [UInt32.zero_add, ← h.counter, hseq]
    rw [hpayloads, framesFrom_append, hclient, ← h.frames, hbuilt, List.filter_append, hnext]
    simp [framesFrom, hpayload]

end Numbers

/-! ### The numbers that the receiving end has seen -/

/-- The stream represents a buffer that has seen numbers of the sender only. -/
def Tracked (m : Multiplexer) (sid : UInt16) (clientId : UInt32) (payloads : List Bytes) (read : Bytes) : Prop :=
  ∃ b, m.Tracks sid clientId (payloadAt payloads) b read ∧ b.seen ⊆ Finset.range payloads.length

section Tracked
variable {m : Multiplexer} {sid : UInt16} {clientId : UInt32} {payloads : List Bytes} {read : Bytes}

theorem Unused.tracked (h : m.Unused sid) (clientId : UInt32) (payloads : List Bytes) :
    m.Tracked sid clientId payloads [] :=
  ⟨Buffer.empty, h.tracks clientId _, by simp [Buffer.seen, Buffer.empty]⟩

/-- More payloads of the sender. -/
theorem Tracked.mono (h : m.Tracked sid clientId payloads read) {payloads' : List Bytes}
    (hfirst : payloads <+: payloads') : m.Tracked sid clientId payloads' read := by
  obtain ⟨b, htracks, hseen⟩ := h
  obtain ⟨more, rfl⟩ := hfirst
  refine ⟨b, htracks.congr hseen fun i hi => payloadAt_append more hi, hseen.trans ?_⟩
  exact Finset.range_subset_range.mpr (by simp)

/-- A frame of the sender with a payload of the stream is handled, or one without any. -/
theorem Tracked.handleFrame (h : m.Tracked sid clientId payloads read) (hcount : payloads.length < 2 ^ 32)
    (hlegal : ∀ payload ∈ payloads, IsPayload sid payload) {frame : Bytes}
    (hframe : payloadOn sid frame = none ∨ ∃ k < payloads.length, frame = frameAt clientId sid payloads k)
    (hreset : classify frame = .reset clientId →
      ∀ stream, m.streams[sid]? = some stream → stream.clientId ≠ clientId) :
    (m.handleFrame frame).1.Tracked sid clientId payloads read := by
  obtain ⟨b, htracks, hseen⟩ := h
  obtain hnone | ⟨k, hk, rfl⟩ := hframe
  · refine ⟨b, ?_, hseen⟩
    rw [handleFrame_classify]
    cases hkind : classify frame with
    | ignored => exact htracks
    | close sid' clientId' => exact htracks.markClosed sid' clientId'
    | reset clientId' => exact htracks.resetClient fun heq => hreset (heq ▸ hkind)
    | data sid' clientId' seq payload =>
      have hsid : sid' ≠ sid := by
        rintro rfl
        simp [payloadOn, hkind] at hnone
      exact htracks.of_get (receiveData_get_ne m clientId' seq payload hsid)
  · have hnat : (UInt32.ofNat k).toNat = k := by
      rw [UInt32.toNat_ofNat', Nat.mod_eq_of_lt (hk.trans hcount)]
    have hpayload : IsPayload sid (payloadAt payloads k) := Receiver.isPayload_payloadAt hlegal hk
    have hseq : (UInt32.ofNat k).toNat < payloads.length := by rwa [hnat]
    have hstep := htracks.dataFrame hcount hseen hseq (by rwa [hnat])
    rw [hnat] at hstep
    refine ⟨b.offer 100 k, hstep, (Buffer.seen_offer_subset _ _ _).trans fun n hn => ?_⟩
    rcases Finset.mem_insert.mp hn with rfl | hn
    · exact Finset.mem_range.mpr hk
    · exact hseen hn

/-- What was read and what is buffered are the payloads before the expected number. -/
theorem Tracked.delivered (h : m.Tracked sid clientId payloads read) :
    (m.nextRecvSeq sid).toNat ≤ payloads.length ∧
      read ++ m.recvBuf sid = (payloads.take (m.nextRecvSeq sid).toNat).flatten := by
  obtain ⟨b, htracks, hseen⟩ := h
  obtain ⟨hbytes, hnext⟩ := htracks.delivered
  have hle : b.next ≤ payloads.length := Buffer.next_le_of_seen_subset hseen
  rw [hnext]
  exact ⟨hle, by rw [hbytes, Receiver.segment_payloadAt _ hle]⟩

end Tracked

end Multiplexer

/-! ### The sending end -/

section Sender
variable {ι : Type*} {aead : Aead} {sid : UInt16} {p p' : Participant ι}

/-- What the sending task has published is read as a frame that was built. -/
theorem Participant.Sound.mem_built (h : p.Sound aead) {data frame : Bytes} (hdata : data ∈ p.published)
    (hopen : p.cipher.opened aead data = some frame) : frame ∈ p.built := by
  have haccepted : data ∈ p.handedOver := List.mem_append_left _ (h.published.subset hdata)
  have hmem : some frame ∈ p.built.map some := h.opens.subset (hopen ▸ List.mem_map_of_mem haccepted)
  obtain ⟨built, hbuilt, heq⟩ := List.mem_map.mp hmem
  exact Option.some.inj heq ▸ hbuilt

/-- Every step of the sender keeps the numbers, where what it handles leaves its counter. -/
theorem Participant.numbers_step (h : p.mux.Numbers sid p.built) (hsound : p.Sound aead) {e : ParticipantEvent ι}
    (hkeeps : e = .handleFrame → ∀ packet, p.incoming.head? = some packet → ∀ frame,
      p.cipher.opened aead packet.2 = some frame → p.mux.KeepsNumbers sid frame)
    (hstep : p.step aead e = some p') : p'.mux.Numbers sid p'.built := by
  have heffect := Participant.step_effect hstep
  have hclient := heffect.clientId
  have hnothing : ∀ {built : List Bytes}, built = p.built → built = p.built ++ [] := fun h => by rw [h, List.append_nil]
  cases heffect with
  | quiet mux built read => exact h.other (hnothing built) (by simp) hclient (by rw [mux])
  | opened sid' mux built read =>
    exact h.other (hnothing built) (by simp) hclient (Multiplexer.sendSeq_openStream mux)
  | drained sid' mux built read =>
    exact h.other (hnothing built) (by simp) hclient (by rw [mux, Multiplexer.sendSeq_readStream])
  | waited sid' mux built read =>
    exact h.other (hnothing built) (by simp) hclient (by rw [mux, Multiplexer.sendSeq_waitForData])
  | closed sid' nonce mux built read =>
    exact h.other built (by simp) hclient (by rw [mux, Multiplexer.sendSeq_closeStream])
  | reset nonce mux built read => exact h.other built (by simp) hclient (by rw [mux])
  | numbered i nonce sid' seq chunk call alloc built read =>
    obtain ⟨call, hcall, hchunk⟩ := call
    obtain ⟨hpos, hsize⟩ := hsound.chunks call hcall chunk hchunk
    have hlegal : IsPayload sid' chunk := IsPayload.of_chunk hpos hsize
    by_cases hsid : sid' = sid
    · subst hsid
      exact h.numbered hlegal alloc hclient built
    · refine h.other built (fun frame hframe => ?_) hclient ((Multiplexer.sendSeq_allocSeq alloc).2 hsid)
      rw [List.mem_singleton.mp hframe, payloadOn_dataFrame _ _ hlegal, if_neg hsid]
  | handled packet frame incoming opens mux built read =>
    have hcounter := Multiplexer.sendSeq_handleFrame (hkeeps rfl packet incoming frame opens)
    exact h.other (hnothing built) (by simp) hclient (by rw [mux, hcounter])

theorem Participant.numbers_start (sid : UInt16) (cipher : OlcCipher) (clientId : UInt32) :
    ({ cipher, mux := Multiplexer.new clientId } : Participant ι).mux.Numbers sid [] where
  counter := Multiplexer.sendSeq_none (by simp [Multiplexer.new])
  legal := by simp [payloadsOn]
  frames := rfl

end Sender

/-! ### Two ends and the room between them -/

namespace Room

variable {ι : Type*} (aead : Aead)

section Step
variable {aead} {sid : UInt16} {clientId : UInt32} {payloads : List Bytes} {p p' : Participant ι}

/-- A step of the receiver: what it handles is the sender's, or not of the stream. -/
theorem tracked_step (h : p.mux.Tracked sid clientId payloads (p.read sid)) (hcount : payloads.length < 2 ^ 32)
    (hlegal : ∀ payload ∈ payloads, IsPayload sid payload) {e : ParticipantEvent ι}
    (hframe : e = .handleFrame → ∀ packet, p.incoming.head? = some packet → ∀ frame,
      p.cipher.opened aead packet.2 = some frame →
      (payloadOn sid frame = none ∨ ∃ k < payloads.length, frame = frameAt clientId sid payloads k) ∧
      (classify frame = .reset clientId →
        ∀ stream, p.mux.streams[sid]? = some stream → stream.clientId ≠ clientId))
    (hstep : p.step aead e = some p') : p'.mux.Tracked sid clientId payloads (p'.read sid) := by
  cases Participant.step_effect hstep with
  | handled packet frame incoming opens mux built read =>
    obtain ⟨hsent, hreset⟩ := hframe rfl packet incoming frame opens
    rw [mux, read]
    exact h.handleFrame hcount hlegal hsent hreset
  | quiet mux built read => rwa [mux, read]
  | opened sid' mux built read =>
    obtain ⟨b, htracks, hseen⟩ := h
    exact ⟨b, read ▸ htracks.openStream mux, hseen⟩
  | waited sid' mux built read =>
    obtain ⟨b, htracks, hseen⟩ := h
    exact ⟨b, by rw [mux, read]; exact htracks.waitForData sid', hseen⟩
  | closed sid' nonce mux built read =>
    obtain ⟨b, htracks, hseen⟩ := h
    exact ⟨b, by rw [mux, read]; exact htracks.closeStream _ sid', hseen⟩
  | reset nonce mux built read => rwa [mux, read]
  | numbered i nonce sid' seq chunk call alloc built read =>
    obtain ⟨b, htracks, hseen⟩ := h
    exact ⟨b, read ▸ htracks.allocSeq alloc, hseen⟩
  | drained sid' mux built read =>
    obtain ⟨b, htracks, hseen⟩ := h
    refine ⟨b, ?_, hseen⟩
    rw [mux, read]
    by_cases hsid : sid' = sid
    · subst hsid
      rw [Function.update_self]
      exact htracks.readStream
    · rw [Function.update_of_ne (Ne.symm hsid)]
      exact htracks.readOther hsid

end Step

/-- Both ends of a stream: `j` has numbered what it built, and while the numbers last `i`
represents a buffer that has seen numbers of these only. -/
structure Carries (sid : UInt16) (i j : ι) (room : Room ι) : Prop where
  sound : ∀ k, (room k).Sound aead
  cipher : (room i).cipher = (room j).cipher
  numbers : (room j).mux.Numbers sid (room j).built
  tracked : (payloadsOn sid (room j).built).length < 2 ^ 32 →
    (room i).mux.Tracked sid (room j).mux.clientId (payloadsOn sid (room j).built) ((room i).read sid)

theorem carries_start {aead : Aead} {sid : UInt16} {i j : ι} {ciphers : ι → OlcCipher} (clientIds : ι → UInt32) (hkey : ciphers i = ciphers j) :
    (start ciphers clientIds).Carries aead sid i j where
  sound _ := Participant.sound_start aead _ _
  cipher := hkey
  numbers := Participant.numbers_start sid _ _
  tracked _ := Multiplexer.Unused.tracked (Or.inl (by simp [start, Multiplexer.new])) _ _

variable [DecidableEq ι]

/-- The ciphertext that the participant handles in the step, and the frame that it is read as. -/
def handles (room : Room ι) (k : ι) : ι × ParticipantEvent ι → Option (Bytes × Bytes)
  | (k', .handleFrame) =>
    if k' = k then
      (room k).incoming.head?.bind fun packet =>
        ((room k).cipher.opened aead packet.2).map fun frame => (packet.2, frame)
    else none
  | _ => none

/-- Nobody but `j` speaks on the stream: what `i` can read, and what carries data on the
stream, is a ciphertext that `j` has published. -/
def Authentic (sid : UInt16) (i j : ι) (room : Room ι) (e : ι × ParticipantEvent ι) : Prop :=
  ∀ handled ∈ room.handles aead i e, payloadOn sid handled.2 ≠ none → handled.1 ∈ (room j).published

/-- A reset of `j` does not reach `i` where that has an entry of `j` for the stream. -/
def ResetsBefore (sid : UInt16) (i j : ι) (room : Room ι) (e : ι × ParticipantEvent ι) : Prop :=
  ∀ handled ∈ room.handles aead i e, classify handled.2 = .reset (room j).mux.clientId →
    ∀ stream ∈ (room i).mux.streams[sid]?, stream.clientId ≠ (room j).mux.clientId

/-- What `j` handles leaves it the entry of the stream, once that has given out numbers. -/
def KeepsNumbers (sid : UInt16) (j : ι) (room : Room ι) (e : ι × ParticipantEvent ι) : Prop :=
  ∀ handled ∈ room.handles aead j e, (room j).mux.KeepsNumbers sid handled.2

instance (sid : UInt16) (i j : ι) (room : Room ι) (e : ι × ParticipantEvent ι) :
    Decidable (room.Authentic aead sid i j e) :=
  decidable_of_iff
    (∀ handled ∈ room.handles aead i e, (payloadOn sid handled.2).isSome → (room j).published.contains handled.1)
    (by simp only [Authentic, Option.isSome_iff_ne_none, List.contains_iff_mem])

instance (sid : UInt16) (i j : ι) (room : Room ι) (e : ι × ParticipantEvent ι) :
    Decidable (room.ResetsBefore aead sid i j e) := by
  unfold ResetsBefore; infer_instance

instance (sid : UInt16) (j : ι) (room : Room ι) (e : ι × ParticipantEvent ι) :
    Decidable (room.KeepsNumbers aead sid j e) := by
  unfold KeepsNumbers; infer_instance

theorem mem_handles {room : Room ι} {k : ι} {packet : ι × Bytes} {frame : Bytes}
    (hincoming : (room k).incoming.head? = some packet)
    (hopen : (room k).cipher.opened aead packet.2 = some frame) :
    (packet.2, frame) ∈ room.handles aead k (k, .handleFrame) := by
  simp [handles, hincoming, hopen]

section Run
variable {aead} {sid : UInt16} {i j : ι} {room room' : Room ι}

theorem Carries.step (h : room.Carries aead sid i j) (haead : aead.Correct) {e : ι × ParticipantEvent ι}
    (hauthentic : room.Authentic aead sid i j e) (hresets : room.ResetsBefore aead sid i j e)
    (hkeeps : room.KeepsNumbers aead sid j e) (hstep : room.step aead e = some room') :
    room'.Carries aead sid i j := by
  obtain ⟨hself, hothers⟩ := step_cases hstep
  have hpayloads : payloadsOn sid (room j).built <+: payloadsOn sid (room' j).built :=
    (step_built hstep j).filterMap _
  refine ⟨fun k => step_sound haead h.sound hstep k, ?_, ?_, fun hcount' => ?_⟩
  · rw [step_cipher hstep i, step_cipher hstep j, h.cipher]
  · by_cases hj : j = e.1
    · refine Participant.numbers_step h.numbers (h.sound j) (e := e.2) (fun he packet hpacket frame hopen => ?_) (hj ▸ hself)
      have hevent : e = (j, .handleFrame) := Prod.ext hj.symm he
      exact hkeeps (packet.2, frame) (hevent ▸ mem_handles aead hpacket hopen)
    · rw [hothers j hj]
      exact h.numbers
  · have hcount := lt_of_le_of_lt hpayloads.length_le hcount'
    have htracked := h.tracked hcount
    rw [step_clientId hstep j]
    refine Multiplexer.Tracked.mono ?_ hpayloads
    by_cases hi : i = e.1
    · refine tracked_step htracked hcount h.numbers.legal (e := e.2) (fun he packet hpacket frame hopen => ?_) (hi ▸ hself)
      have hevent : e = (i, .handleFrame) := Prod.ext hi.symm he
      have hhandles : (packet.2, frame) ∈ room.handles aead i e := hevent ▸ mem_handles aead hpacket hopen
      refine ⟨?_, hresets (packet.2, frame) hhandles⟩
      by_cases hnone : payloadOn sid frame = none
      · exact Or.inl hnone
      · -- the ciphertext is one that the sender published, and it reads as a frame that it built
        have hpublished := hauthentic (packet.2, frame) hhandles hnone
        rw [h.cipher] at hopen
        exact h.numbers.cases ((h.sound j).mem_built hpublished hopen)
    · rw [hothers i hi]
      exact htracked

end Run

/-- Across a room that drops, repeats, reorders and makes up what it likes: two clients have
one key, and on the stream `i` can read nothing that `j` has not published. While no reset and no
foreign data take the entry away at either end, what `i` has read from the stream and what it
holds for the next read are the payloads of the first frames that `j` numbered on it, for as
many as `i` expects next, up to `2 ^ 32` frames. -/
theorem stream_is_carried (haead : aead.Correct) (ciphers : ι → OlcCipher) (clientIds : ι → UInt32) (i j : ι)
    (hkey : ciphers i = ciphers j) (sid : UInt16) (events : List (ι × ParticipantEvent ι))
    (hauthentic : Guarded (step aead) (Authentic aead sid i j) (start ciphers clientIds) events)
    (hresets : Guarded (step aead) (ResetsBefore aead sid i j) (start ciphers clientIds) events)
    (hkeeps : Guarded (step aead) (KeepsNumbers aead sid j) (start ciphers clientIds) events) (room : Room ι)
    (hrun : run (step aead) (start ciphers clientIds) events = some room)
    (hcount : (payloadsOn sid (room j).built).length < 2 ^ 32) :
    ((room i).mux.nextRecvSeq sid).toNat ≤ (payloadsOn sid (room j).built).length ∧
      (room i).read sid ++ (room i).mux.recvBuf sid =
        ((payloadsOn sid (room j).built).take ((room i).mux.nextRecvSeq sid).toNat).flatten := by
  have hguard := guarded_and.mpr ⟨hauthentic, guarded_and.mpr ⟨hresets, hkeeps⟩⟩
  have hcarries : room.Carries aead sid i j := run_invariant_of_guarded
    (fun _ _ _ h hg hstep => h.step haead hg.1 hg.2.1 hg.2.2 hstep) (carries_start clientIds hkey) hguard hrun
  exact (hcarries.tracked hcount).delivered

/-- Two calls of one client get their numbers in one order and reach the queue in the other;
the room repeats a packet and makes one up; the other client reads. -/
def twoCalls : List (Bool × ParticipantEvent Bool) :=
  let packet (frame : Bytes) := zeroNonce.toList ++ (zeroCipher.key.toList ++ frame)
  let deliver (data : Bytes) : Bool × ParticipantEvent Bool := (false, .room true (.dataReceived data (some dataTopic)))
  [(true, .openStream), (true, .sendData 1 [1, 2]), (true, .sendData 1 [3]), (true, .nextChunk 0 zeroNonce),
    (true, .nextChunk 1 zeroNonce), (true, .enqueue 1), (true, .enqueue 0), (true, .recv),
    (true, .publish true), (true, .recv), deliver (packet (dataFrame 7 1 1 [3])), deliver (dataFrame 7 1 0 [9]),
    deliver (packet (dataFrame 7 1 1 [3])), deliver (packet (dataFrame 7 1 0 [1, 2])), (false, .handleFrame),
    (false, .handleFrame), (false, .handleFrame), (false, .handleFrame), (false, .readStream 1)]

/-- What the other client has read are the payloads in the order of their numbers. -/
theorem stream_is_carried_two_calls : ∃ room, run (step keyedAead) twoClients twoCalls = some room ∧
    (room false).read 1 ++ (room false).mux.recvBuf 1 =
      ((payloadsOn 1 (room true).built).take ((room false).mux.nextRecvSeq 1).toNat).flatten := by
  have hsome : (run (step keyedAead) twoClients twoCalls).map
      (fun room => (payloadsOn 1 (room true).built).length) = some 2 := by decide +kernel
  obtain ⟨room, hrun, hlength⟩ := Option.map_eq_some_iff.mp hsome
  exact ⟨room, hrun, (stream_is_carried keyedAead keyedAead_correct (fun _ => zeroCipher) twoIds
    false true rfl 1 twoCalls (by decide +kernel) (by decide +kernel)
    (by decide +kernel) room hrun (by rw [hlength]; decide)).2⟩

end Room

end TauriVpn.Olcrtc
