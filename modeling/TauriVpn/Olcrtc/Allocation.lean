import TauriVpn.Olcrtc.StreamIds

/-! What one `open_stream` call allocates. Its loop has no bound of its own; it is
followed here for any number of draws, so that returning, and after how many draws, is
a fact about the loop and not about the bound it is run with elsewhere. -/

namespace TauriVpn.Olcrtc

/-- An open entry of no client, with empty buffers and both counters at zero. -/
structure Stream.IsNew (stream : Stream) : Prop where
  clientId : stream.clientId = 0
  closed : stream.closed = false
  recvBuf : stream.recvBuf = []
  outOfOrder : stream.outOfOrder = ∅
  nextRecvSeq : stream.nextRecvSeq = 0
  nextSendSeq : stream.nextSendSeq = 0

theorem Stream.isNew_fresh (notify : NotifyId) : (Stream.fresh 0 notify).IsNew := ⟨rfl, rfl, rfl, rfl, rfl, rfl⟩

namespace Multiplexer

/-- The loop returns with its draw number `draws`, and not before. -/
def ReturnsAfter (m : Multiplexer) (draws : ℕ) (result : UInt16 × Multiplexer) : Prop :=
  openLoop draws m = some result ∧ ∀ n < draws, openLoop n m = none

section Draws
variable {m m' : Multiplexer} {sid : UInt16} {fuel : ℕ}

/-- A loop that has returned makes no further draw. -/
theorem openLoop_mono {result : UInt16 × Multiplexer} (h : openLoop fuel m = some result) {more : ℕ}
    (hle : fuel ≤ more) : openLoop more m = some result := by
  induction fuel generalizing m more with
  | zero => cases h
  | succ fuel ih =>
    obtain ⟨more, rfl⟩ := Nat.exists_eq_add_of_lt hle
    simp only [openLoop] at h ⊢
    cases hget : m.streams[m.drawId]? with
    | none =>
      rw [hget] at h
      exact h
    | some stream =>
      rw [hget] at h
      exact ih h (by omega)

/-- Every loop that returns has a last draw. -/
theorem exists_returnsAfter {result : UInt16 × Multiplexer} (h : openLoop fuel m = some result) :
    ∃ draws ≤ fuel, m.ReturnsAfter draws result := by
  have hsome : ∃ n, (openLoop n m).isSome := ⟨fuel, by rw [h]; rfl⟩
  have hle : Nat.find hsome ≤ fuel := Nat.find_min' hsome (by rw [h]; rfl)
  obtain ⟨first, hfirst⟩ := Option.isSome_iff_exists.mp (Nat.find_spec hsome)
  refine ⟨Nat.find hsome, hle, ?_, fun n hn => ?_⟩
  · rw [hfirst, ← h, openLoop_mono hfirst hle]
  · exact Option.not_isSome_iff_eq_none.mp (Nat.find_min hsome hn)

/-- Each draw moves the counter on by one. -/
theorem ReturnsAfter.nextId {draws : ℕ} (h : m.ReturnsAfter draws (sid, m')) :
    m'.nextId = m.nextId + UInt16.ofNat draws := by
  induction draws generalizing m with
  | zero => cases h.1
  | succ draws ih =>
    obtain ⟨hreturns, hbefore⟩ := h
    simp only [openLoop] at hreturns
    cases hget : m.streams[m.drawId]? with
    | none =>
      -- the draw found a free id, so it was the first one
      rw [hget] at hreturns
      have hzero : draws = 0 := by
        by_contra hne
        have hone := hbefore 1 (by omega)
        simp [openLoop, hget] at hone
      obtain ⟨-, rfl⟩ := Prod.mk.inj (Option.some.inj hreturns)
      rw [hzero]
      rfl
    | some stream =>
      rw [hget] at hreturns
      have hrest : ReturnsAfter { m with nextId := m.nextId + 1 } draws (sid, m') := by
        refine ⟨hreturns, fun n hn => ?_⟩
        have hnext := hbefore (n + 1) (by omega)
        simpa only [openLoop, hget] using hnext
      rw [ih hrest, UInt16.add_assoc, UInt16.ofNat_add, UInt16.add_comm 1]
      rfl

end Draws

/-- `open_stream` returns just when some id but `0` is no key of the table, and then
with at most 65536 draws: with an id that was free, under which there is a new entry,
and no other entry has changed. -/
theorem open_stream_allocates (m : Multiplexer) :
    ((∃ draws result, m.ReturnsAfter draws result) ↔
      ∃ sid : UInt16, 1 ≤ sid.toNat ∧ sid.toNat ≤ 65535 ∧ m.streams[sid]? = none) ∧
    ∀ draws sid m', m.ReturnsAfter draws (sid, m') →
      draws ≤ 65536 ∧ m'.nextId = m.nextId + UInt16.ofNat draws ∧
        sid ≠ 0 ∧ m.streams[sid]? = none ∧ (∃ stream, m'.streams[sid]? = some stream ∧ stream.IsNew) ∧
        (∀ sid', sid' ≠ sid → m'.streams[sid']? = m.streams[sid']?) ∧ m'.clientId = m.clientId := by
  have hfree : m.HasFreeId ↔ ∃ sid : UInt16, 1 ≤ sid.toNat ∧ sid.toNat ≤ 65535 ∧ m.streams[sid]? = none := by
    refine exists_congr fun sid => ?_
    have hlt := sid.toNat_lt
    have hzero : sid = 0 ↔ sid.toNat = 0 := by rw [← UInt16.toNat_inj]; rfl
    rw [ne_eq, hzero]
    constructor
    · rintro ⟨hne, hnone⟩
      exact ⟨by omega, by omega, hnone⟩
    · rintro ⟨hpos, -, hnone⟩
      exact ⟨by omega, hnone⟩
  rw [← hfree]
  refine ⟨⟨?_, fun h => ?_⟩, fun draws sid m' h => ?_⟩
  · rintro ⟨draws, result, hreturns, -⟩
    by_contra hfull
    rw [openLoop_of_not_hasFreeId hfull] at hreturns
    cases hreturns
  · obtain ⟨result, hresult⟩ := Option.isSome_iff_exists.mp (m.openStream_isSome_iff.mpr h)
    obtain ⟨draws, -, hreturns⟩ := exists_returnsAfter hresult
    exact ⟨draws, result, hreturns⟩
  · obtain ⟨hsid, hnone, hstreams, hclient⟩ := openLoop_spec h.1
    have hdraws : draws ≤ 2 ^ 16 := by
      by_contra hlt
      have hnot := h.2 (2 ^ 16) (by omega)
      have hreturns := m.openStream_isSome_iff.mpr ⟨sid, hsid, hnone⟩
      rw [openStream, hnot] at hreturns
      cases hreturns
    refine ⟨hdraws, h.nextId, hsid, hnone, ⟨Stream.fresh 0 m.nextNotify, ?_, Stream.isNew_fresh _⟩,
      fun sid' hne => ?_, hclient⟩
    · rw [hstreams, Std.ExtTreeMap.getElem?_insert_self]
    · rw [hstreams, Std.ExtTreeMap.getElem?_insert]
      simp [Ne.symm hne]

/-- The counter stands at `65535`, which is taken, and wraps to `0`, which is drawn as `1`. -/
example : ∃ result, ReturnsAfter { (new 7).setStream 0xFFFF (Stream.fresh 0 0) with nextId := 0xFFFF } 2 (1, result) :=
  ⟨_, rfl, by decide⟩

end Multiplexer

end TauriVpn.Olcrtc
