import Mathlib.Tactic

/-! Binary prefixes. A prefix stands for the strings of bits that begin with it, and a list of
prefixes for those that begin with one of its members. What is left of a prefix when a longer
one is taken out are the siblings along the path between the two, so that the prefixes of one
list less those of another are a list of prefixes again. A prefix can also be given by any
string that begins with it and a mask with as many ones. -/

namespace BitPrefix

variable {p q t a : List Bool} {ps qs : List (List Bool)}

/-- The string begins with one of the prefixes. -/
def Covers (ps : List (List Bool)) (a : List Bool) : Prop := ∃ p ∈ ps, p <+: a

instance (ps : List (List Bool)) (a : List Bool) : Decidable (Covers ps a) :=
  inferInstanceAs (Decidable (∃ p ∈ ps, p <+: a))

theorem covers_nil : ¬Covers [] a := fun ⟨_, hmem, _⟩ => List.not_mem_nil hmem

theorem covers_cons : Covers (p :: ps) a ↔ p <+: a ∨ Covers ps a := by simp [Covers]

theorem covers_append : Covers (ps ++ qs) a ↔ Covers ps a ∨ Covers qs a := by
  simp [Covers, or_and_right, exists_or]

theorem covers_flatMap {f : List Bool → List (List Bool)} :
    Covers (ps.flatMap f) a ↔ ∃ p ∈ ps, Covers (f p) a := by
  unfold Covers
  simp only [List.mem_flatMap]
  constructor
  · rintro ⟨p, ⟨q, hq, hp⟩, ha⟩
    exact ⟨q, hq, p, hp, ha⟩
  · rintro ⟨q, hq, p, hp, ha⟩
    exact ⟨p, ⟨q, hq, hp⟩, ha⟩

/-! ### The difference of two prefixes -/

/-- Where the path from `p` to `p ++ t` is left, in ascending order. -/
def siblings (p : List Bool) : List Bool → List (List Bool)
  | [] => []
  | true :: t => (p ++ [false]) :: siblings (p ++ [true]) t
  | false :: t => siblings (p ++ [false]) t ++ [p ++ [true]]

theorem covers_siblings_cons {b : Bool} :
    Covers (siblings p (b :: t)) a ↔ p ++ [!b] <+: a ∨ Covers (siblings (p ++ [b]) t) a := by
  cases b with
  | true => exact covers_cons
  | false =>
    rw [siblings, covers_append, covers_cons, or_iff_left covers_nil]
    exact or_comm

theorem prefix_of_covers_siblings (h : Covers (siblings p t) a) : p <+: a := by
  induction t generalizing p with
  | nil => exact absurd h covers_nil
  | cons b t ih =>
    rcases covers_siblings_cons.mp h with hleaves | hrest
    · exact (List.prefix_append _ _).trans hleaves
    · exact (List.prefix_append _ _).trans (ih hrest)

/-- A string that is long enough leaves the path, or takes it to its end. -/
theorem covers_siblings (hp : p <+: a) (hlength : (p ++ t).length ≤ a.length) :
    Covers (siblings p t) a ↔ ¬(p ++ t) <+: a := by
  induction t generalizing p with
  | nil => simpa [siblings, covers_nil] using hp
  | cons b t ih =>
    obtain ⟨rest, rfl⟩ := hp
    cases rest with
    | nil => simp at hlength
    | cons c rest =>
      have hleaves : p ++ [!b] <+: p ++ c :: rest ↔ c ≠ b := by
        rw [List.prefix_append_right_inj, List.cons_prefix_cons]
        cases b <;> cases c <;> simp
      have hsplit : p ++ b :: t = (p ++ [b]) ++ t := by simp
      rw [covers_siblings_cons, hleaves]
      by_cases hc : c = b
      · subst hc
        have hnext : p ++ [c] <+: p ++ c :: rest := by simp
        have hbound : (p ++ [c] ++ t).length ≤ (p ++ c :: rest).length := by simpa using hlength
        rw [ih hnext hbound, ← hsplit]
        simp
      · have hoff : ¬(p ++ b :: t) <+: p ++ c :: rest := by
          rw [List.prefix_append_right_inj, List.cons_prefix_cons]
          exact fun h => hc h.1.symm
        exact iff_of_true (Or.inl hc) hoff

/-- What `p` stands for and `q` does not. -/
def remove (p q : List Bool) : List (List Bool) :=
  if q <+: p then [] else if p <+: q then siblings p (q.drop p.length) else [p]

theorem covers_remove (hlength : q.length ≤ a.length) : Covers (remove p q) a ↔ p <+: a ∧ ¬q <+: a := by
  unfold remove
  split_ifs with hqp hpq
  · exact iff_of_false covers_nil fun h => h.2 (hqp.trans h.1)
  · have hsplit : p ++ q.drop p.length = q := List.prefix_append_drop hpq |>.symm
    by_cases hp : p <+: a
    · have hbound : (p ++ q.drop p.length).length ≤ a.length := by rwa [hsplit]
      rw [covers_siblings hp hbound, hsplit]
      exact (and_iff_right hp).symm
    · exact iff_of_false (fun h => hp (prefix_of_covers_siblings h)) fun h => hp h.1
  · have hboth : p <+: a → ¬q <+: a := by
      intro hp hq
      rcases List.prefix_or_prefix_of_prefix hp hq with h | h
      · exact hpq h
      · exact hqp h
    rw [covers_cons, or_iff_left covers_nil]
    exact ⟨fun hp => ⟨hp, hboth hp⟩, And.left⟩

/-- The prefixes of one list less those of another. -/
def subtract (ps qs : List (List Bool)) : List (List Bool) := qs.foldl (fun ps q => ps.flatMap (remove · q)) ps

theorem covers_subtract (hlength : ∀ q ∈ qs, q.length ≤ a.length) :
    Covers (subtract ps qs) a ↔ Covers ps a ∧ ¬Covers qs a := by
  induction qs generalizing ps with
  | nil => simp [subtract, covers_nil]
  | cons q qs ih =>
    obtain ⟨hq, hqs⟩ := List.forall_mem_cons.mp hlength
    have hfirst : Covers (ps.flatMap (remove · q)) a ↔ Covers ps a ∧ ¬q <+: a := by
      simp only [covers_flatMap, covers_remove hq]
      exact ⟨fun ⟨p, hp, ha, hnot⟩ => ⟨⟨p, hp, ha⟩, hnot⟩, fun ⟨⟨p, hp, ha⟩, hnot⟩ => ⟨p, hp, ha, hnot⟩⟩
    rw [subtract, List.foldl_cons, ← subtract, ih hqs, hfirst, covers_cons, not_or, and_assoc]

/-! ### Masks -/

/-- The mask of a prefix of `n` bits in strings of `w`. -/
def mask (n w : ℕ) : List Bool := List.replicate n true ++ List.replicate (w - n) false

/-- Two strings that the mask does not tell apart. -/
def AgreeUnder (m a b : List Bool) : Prop := List.zipWith (· && ·) m a = List.zipWith (· && ·) m b

instance (m a b : List Bool) : Decidable (AgreeUnder m a b) :=
  inferInstanceAs (Decidable (List.zipWith (· && ·) m a = List.zipWith (· && ·) m b))

theorem zipWith_replicate_true {n : ℕ} (a : List Bool) : List.zipWith (· && ·) (List.replicate n true) a = a.take n := by
  induction n generalizing a with
  | zero => simp
  | succ n ih => cases a <;> simp [List.replicate_succ, ih]

theorem zipWith_replicate_false {n : ℕ} (h : a.length = n) :
    List.zipWith (· && ·) (List.replicate n false) a = List.replicate n false := by
  induction a generalizing n with
  | nil => simp [← h]
  | cons b a ih =>
    subst h
    simp [List.replicate_succ, ih rfl]

theorem zipWith_mask {n w : ℕ} (hn : n ≤ w) (ha : a.length = w) :
    List.zipWith (· && ·) (mask n w) a = a.take n ++ List.replicate (w - n) false := by
  have hlength : (a.drop n).length = w - n := by rw [List.length_drop, ha]
  conv_lhs => rw [mask, ← List.take_append_drop n a]
  rw [List.zipWith_append (by simp [ha, hn]), zipWith_replicate_true, zipWith_replicate_false hlength, List.take_take,
    Nat.min_self]

/-- A mask says of two strings what the prefix says that it stands for. -/
theorem agreeUnder_mask {n w : ℕ} {b : List Bool} (hn : n ≤ w) (ha : a.length = w) (hb : b.length = w) :
    AgreeUnder (mask n w) b a ↔ b.take n <+: a := by
  unfold AgreeUnder
  rw [zipWith_mask hn ha, zipWith_mask hn hb, List.append_left_inj, List.prefix_iff_eq_take, List.length_take,
    Nat.min_eq_left (hb ▸ hn)]

end BitPrefix
