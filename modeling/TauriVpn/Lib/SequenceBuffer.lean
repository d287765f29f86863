import Mathlib.Tactic
import Mathlib.Order.Interval.Finset.Nat

/-! Reassembly of a numbered sequence. A receiver keeps the next number it
expects and the numbers beyond it that it holds back; the expected number
releases itself and everything held up to the first gap. What has been handed
on is the sequence up to `next`. A bounded receiver refuses numbers that it
would have to hold while it is full; one that refuses nothing has handed on
everything before the first number that never arrived. -/

namespace SequenceBuffer

theorem exists_gap (held : Finset ℕ) (k : ℕ) : ∃ i, k ≤ i ∧ i ∉ held := by
  obtain ⟨i, hi⟩ := Infinite.exists_notMem_finset (held ∪ Finset.range k)
  simp only [Finset.mem_union, Finset.mem_range, not_or, not_lt] at hi
  exact ⟨i, hi.2, hi.1⟩

/-- The first number from `k` on that is not held. -/
def firstGap (held : Finset ℕ) (k : ℕ) : ℕ := Nat.find (exists_gap held k)

section Gap
variable {held : Finset ℕ} {k : ℕ}

theorem le_firstGap (held : Finset ℕ) (k : ℕ) : k ≤ firstGap held k :=
  (Nat.find_spec (exists_gap held k)).1

theorem firstGap_notMem : firstGap held k ∉ held := (Nat.find_spec (exists_gap held k)).2

theorem mem_of_lt_firstGap {i : ℕ} (hk : k ≤ i) (hi : i < firstGap held k) : i ∈ held := by
  by_contra h
  exact Nat.find_min (exists_gap held k) hi ⟨hk, h⟩

theorem firstGap_of_notMem (h : k ∉ held) : firstGap held k = k :=
  le_antisymm (Nat.find_min' _ ⟨le_rfl, h⟩) (le_firstGap held k)

theorem firstGap_of_mem (h : k ∈ held) :
    firstGap held k = firstGap (held.erase k) (k + 1) := by
  have hne : firstGap held k ≠ k := fun he => firstGap_notMem (he ▸ h)
  have hle := le_firstGap held k
  have hle' := le_firstGap (held.erase k) (k + 1)
  apply le_antisymm
  · refine Nat.find_min' _ ⟨by omega, fun hmem => ?_⟩
    exact firstGap_notMem (Finset.mem_erase.mpr ⟨by omega, hmem⟩)
  · refine Nat.find_min' _ ⟨by omega, fun hmem => ?_⟩
    exact firstGap_notMem (Finset.mem_of_mem_erase hmem)

end Gap

/-- The receiver: everything it holds is beyond the number it expects. -/
@[ext] structure Buffer where
  next : ℕ
  held : Finset ℕ
  ahead : ∀ i ∈ held, next < i

namespace Buffer

def empty : Buffer := ⟨0, ∅, by simp⟩

/-- The expected number arrived. -/
def release (b : Buffer) : Buffer where
  next := firstGap b.held (b.next + 1)
  held := b.held.filter (firstGap b.held (b.next + 1) < ·)
  ahead _ hi := (Finset.mem_filter.mp hi).2

def hold (b : Buffer) (i : ℕ) (hi : b.next < i) : Buffer where
  next := b.next
  held := insert i b.held
  ahead j hj := (Finset.mem_insert.mp hj).elim (fun h => h ▸ hi) (b.ahead j)

/-- Number `i` arrives and is not refused. -/
def arrive (b : Buffer) (i : ℕ) : Buffer :=
  if i = b.next then b.release else if hi : b.next < i then b.hold i hi else b

/-- Number `i` arrives at a receiver that holds at most `cap` numbers. -/
def offer (cap : ℕ) (b : Buffer) (i : ℕ) : Buffer :=
  if b.next < i ∧ cap ≤ b.held.card then b else b.arrive i

/-- The numbers that have been handed on or are held. -/
def seen (b : Buffer) : Finset ℕ := Finset.range b.next ∪ b.held

theorem mem_seen {b : Buffer} {i : ℕ} : i ∈ b.seen ↔ i < b.next ∨ i ∈ b.held := by
  simp [seen]

theorem next_notMem_seen (b : Buffer) : b.next ∉ b.seen := by
  rw [mem_seen]
  rintro (h | h)
  · exact lt_irrefl _ h
  · exact lt_irrefl _ (b.ahead _ h)

/-- The expected number is the first one that has not been seen. -/
theorem next_le_of_notMem {b : Buffer} {i : ℕ} (h : i ∉ b.seen) : b.next ≤ i := by
  by_contra hlt
  exact h (mem_seen.mpr (.inl (by omega)))

/-- A release only moves the boundary between handed on and held. -/
theorem seen_release (b : Buffer) : b.release.seen = insert b.next b.seen := by
  ext i
  have hle := le_firstGap b.held (b.next + 1)
  simp only [mem_seen, release, Finset.mem_insert, Finset.mem_filter]
  constructor
  · rintro (h | ⟨h, -⟩)
    · by_cases hi : b.next + 1 ≤ i
      · exact Or.inr (Or.inr (mem_of_lt_firstGap hi h))
      · omega
    · exact Or.inr (Or.inr h)
  · rintro (rfl | h | h)
    · left; omega
    · left; omega
    · rcases lt_trichotomy i (firstGap b.held (b.next + 1)) with hlt | rfl | hgt
      · exact Or.inl hlt
      · exact absurd h firstGap_notMem
      · exact Or.inr ⟨h, hgt⟩

/-- An arrival that is not refused is recorded, and nothing else is. -/
theorem seen_arrive (b : Buffer) (i : ℕ) : (b.arrive i).seen = insert i b.seen := by
  unfold arrive
  split_ifs with h h'
  · rw [seen_release, h]
  · simp [seen, hold, Finset.union_insert]
  · rw [Finset.insert_eq_of_mem (mem_seen.mpr (Or.inl (by omega)))]

theorem seen_offer_subset (cap : ℕ) (b : Buffer) (i : ℕ) :
    (b.offer cap i).seen ⊆ insert i b.seen := by
  unfold offer
  split_ifs
  · exact Finset.subset_insert _ _
  · rw [seen_arrive]

theorem card_offer_le {cap : ℕ} {b : Buffer} (h : b.held.card ≤ cap) (i : ℕ) :
    (b.offer cap i).held.card ≤ cap := by
  unfold offer arrive
  split_ifs with hfull hi hlt
  · exact h
  · exact (Finset.card_filter_le _ _).trans h
  · have := Finset.card_insert_le i b.held
    simp only [hold]
    omega
  · exact h

theorem next_le_of_seen_subset {b : Buffer} {n : ℕ} (h : b.seen ⊆ Finset.range n) : b.next ≤ n := by
  by_contra hlt
  have := h (mem_seen.mpr (Or.inl (show n < b.next by omega)))
  simp at this

/-- Once every number below `n` has been seen, all of them have been handed on. -/
theorem le_next_of_subset_seen {b : Buffer} {n : ℕ} (h : Finset.range n ⊆ b.seen) : n ≤ b.next := by
  by_contra hlt
  exact b.next_notMem_seen (h (Finset.mem_range.mpr (by omega)))

/-! ### A run of arrivals -/

/-- Numbers arrive one after the other, and `take` says what the receiver makes of each. -/
def run (take : Buffer → ℕ → Buffer) (b : Buffer) (order : List ℕ) : Buffer := order.foldl take b

theorem run_concat (take : Buffer → ℕ → Buffer) (b : Buffer) (order : List ℕ) (i : ℕ) :
    b.run take (order ++ [i]) = take (b.run take order) i := by
  simp [run]

section Run
variable {take : Buffer → ℕ → Buffer} (htake : ∀ b i, (take b i).seen ⊆ insert i b.seen) {order : List ℕ}
include htake

theorem seen_run_subset (b : Buffer) (order : List ℕ) : (b.run take order).seen ⊆ b.seen ∪ order.toFinset := by
  induction order using List.reverseRecOn with
  | nil => simp [run]
  | append_singleton order i ih =>
    rw [run_concat]
    refine (htake _ _).trans fun j hj => ?_
    simp only [Finset.mem_insert, Finset.mem_union, List.mem_toFinset, List.mem_append, List.mem_singleton] at hj ⊢
    rcases hj with rfl | hj
    · exact .inr (.inr rfl)
    · have hmem := Finset.mem_union.mp (ih hj)
      rw [List.mem_toFinset] at hmem
      exact hmem.imp_right .inl

/-- A receiver that starts empty has seen arrivals only. -/
theorem seen_run_empty (order : List ℕ) : (empty.run take order).seen ⊆ order.toFinset := by
  have hsub := seen_run_subset htake empty order
  simpa [seen, empty] using hsub

theorem seen_run_subset_range {n : ℕ} (h : ∀ i ∈ order, i < n) :
    (empty.run take order).seen ⊆ Finset.range n := fun i hi =>
  Finset.mem_range.mpr (h i (List.mem_toFinset.mp (seen_run_empty htake order hi)))

/-- Of numbers that arrive once each none is seen late: one that is not taken is missing
in the end. -/
theorem seen_run_prefix (hnodup : order.Nodup) (hseen : (empty.run take order).seen = order.toFinset)
    {arrived : List ℕ} (harrived : arrived <+: order) : (empty.run take arrived).seen = arrived.toFinset := by
  obtain ⟨rest, rfl⟩ := harrived
  have hsplit : empty.run take (arrived ++ rest) = (empty.run take arrived).run take rest := List.foldl_append
  apply Finset.Subset.antisymm
  · exact seen_run_empty htake arrived
  · intro i hi
    have hmem : i ∈ (empty.run take (arrived ++ rest)).seen := by
      rw [hseen, List.toFinset_append]
      exact Finset.mem_union_left _ hi
    rw [hsplit] at hmem
    rcases Finset.mem_union.mp (seen_run_subset htake _ _ hmem) with hseen | hrest
    · exact hseen
    · exact absurd (List.mem_toFinset.mp hrest) (List.disjoint_of_nodup_append hnodup (List.mem_toFinset.mp hi))

/-- The first `n` numbers, arriving in any order, are all handed on just when all are seen. -/
theorem next_run_eq_iff {n : ℕ} (hperm : order.Perm (List.range n)) :
    (empty.run take order).next = n ↔ (empty.run take order).seen = order.toFinset := by
  have hset : order.toFinset = Finset.range n := by
    rw [List.toFinset_eq_of_perm _ _ hperm, List.toFinset_range]
  have hsub : (empty.run take order).seen ⊆ Finset.range n := hset ▸ seen_run_empty htake order
  rw [hset]
  constructor
  · intro hnext
    refine Finset.Subset.antisymm hsub fun i hi => mem_seen.mpr (.inl ?_)
    rw [hnext]
    exact Finset.mem_range.mp hi
  · intro hseen
    exact le_antisymm (next_le_of_seen_subset hsub) (le_next_of_subset_seen hseen.ge)

end Run

/-! ### Full buffers -/

/-- The numbers that wait: they have arrived, and an earlier one has not. -/
def waiting (arrived : Finset ℕ) : Finset ℕ := arrived.filter fun i => ∃ j < i, j ∉ arrived

/-- What is held is what waits. -/
theorem waiting_seen (b : Buffer) : waiting b.seen = b.held := by
  ext i
  simp only [waiting, Finset.mem_filter, mem_seen]
  constructor
  · rintro ⟨hi | hi, j, hj, hnot⟩
    · exact absurd (.inl (hj.trans hi)) hnot
    · exact hi
  · intro hi
    exact ⟨.inr hi, b.next, b.ahead i hi, fun h => b.next_notMem_seen (mem_seen.mpr h)⟩

section Offers
variable {cap : ℕ} {order : List ℕ}

theorem card_run_offer_le (order : List ℕ) : (empty.run (offer cap) order).held.card ≤ cap := by
  induction order using List.reverseRecOn with
  | nil => simp [run, empty]
  | append_singleton order i ih =>
    rw [run_concat]
    exact card_offer_le ih i

/-- A buffer with room for all that waits refuses nothing. -/
theorem seen_run_of_waiting (h : ∀ arrived, arrived <+: order → (waiting arrived.toFinset).card ≤ cap) :
    (empty.run (offer cap) order).seen = order.toFinset := by
  induction order using List.reverseRecOn with
  | nil => rfl
  | append_singleton order i ih =>
    have hseen := ih fun arrived harrived => h arrived (harrived.trans (List.prefix_append _ _))
    have hset : (order ++ [i]).toFinset = insert i (empty.run (offer cap) order).seen := by
      rw [hseen]
      ext j
      simp
    rw [run_concat, hset, offer]
    split_ifs with hfull
    · -- refused: had it been taken, one more number would wait than there is room for
      have hwait := h _ (List.prefix_refl _)
      rw [hset, ← seen_arrive, waiting_seen, arrive, if_neg (by omega), dif_pos hfull.1] at hwait
      have hmem : i ∈ (empty.run (offer cap) order).held := by
        by_contra hnot
        simp only [hold, Finset.card_insert_of_notMem hnot] at hwait
        omega
      exact (Finset.insert_eq_of_mem (mem_seen.mpr (.inr hmem))).symm
    · exact seen_arrive _ _

/-- The first `n` numbers, each arriving once, are all handed on just when at no time
more of them wait than the buffer has room for. -/
theorem next_run_offer_iff {n : ℕ} (hperm : order.Perm (List.range n)) : (empty.run (offer cap) order).next = n ↔
    ∀ arrived, arrived <+: order → (waiting arrived.toFinset).card ≤ cap := by
  have htake := seen_offer_subset cap
  rw [next_run_eq_iff htake hperm]
  refine ⟨fun hseen arrived harrived => ?_, seen_run_of_waiting⟩
  rw [← seen_run_prefix htake (hperm.nodup_iff.mpr List.nodup_range) hseen harrived, waiting_seen]
  exact card_run_offer_le arrived

end Offers

end Buffer

/-- The part of the sequence from number `k` up to number `l`. -/
def segment {α : Type*} (sent : ℕ → List α) (k l : ℕ) : List α :=
  (List.range' k (l - k)).flatMap sent

section Segment
variable {α : Type*} (sent : ℕ → List α)

@[simp] theorem segment_self (k : ℕ) : segment sent k k = [] := by simp [segment]

theorem segment_append {k l m : ℕ} (hkl : k ≤ l) (hlm : l ≤ m) :
    segment sent k l ++ segment sent l m = segment sent k m := by
  rw [segment, segment, segment, ← List.flatMap_append,
    show m - k = (l - k) + (m - l) by omega, ← List.range'_append_1, Nat.add_sub_cancel' hkl]

theorem segment_succ (k : ℕ) : segment sent k (k + 1) = sent k := by
  simp [segment]

end Segment

end SequenceBuffer
