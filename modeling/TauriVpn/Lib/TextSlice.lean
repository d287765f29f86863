import Mathlib.Tactic

/-! Texts cut at byte offsets. A character takes one to four bytes, and a text can be cut
between two characters only: there is no text before an offset inside a character or after
the end. Where every character takes one byte, the offsets count the characters. -/

namespace TextSlice

/-- The number of bytes of a text. -/
def size (chars : List Char) : ℕ := (chars.map Char.utf8Size).sum

@[simp] theorem size_nil : size [] = 0 := rfl

@[simp] theorem size_cons (c : Char) (chars : List Char) : size (c :: chars) = c.utf8Size + size chars := rfl

/-- The text before a byte offset, and the text after it. -/
def cut : ℕ → List Char → Option (List Char × List Char)
  | 0, chars => some ([], chars)
  | _ + 1, [] => none
  | n + 1, c :: rest =>
    if c.utf8Size ≤ n + 1 then (cut (n + 1 - c.utf8Size) rest).map fun parts => (c :: parts.1, parts.2)
    else none

/-- The text from one byte offset to another. -/
def slice (start stop : ℕ) (chars : List Char) : Option (List Char) :=
  (cut stop chars).bind fun parts => (cut start parts.1).map Prod.snd

theorem eq_nil_of_size {chars : List Char} (h : size chars = 0) : chars = [] := by
  cases chars with
  | nil => rfl
  | cons c chars =>
    have hpos := c.utf8Size_pos
    rw [size_cons] at h
    omega

theorem cut_zero (chars : List Char) : cut 0 chars = some ([], chars) := by
  cases chars <;> rfl

theorem cut_zero_eq_some_iff {chars front rest : List Char} :
    cut 0 chars = some (front, rest) ↔ chars = front ++ rest ∧ size front = 0 := by
  rw [cut_zero, Option.some.injEq, Prod.mk.injEq]
  constructor
  · rintro ⟨rfl, rfl⟩
    exact ⟨rfl, rfl⟩
  · rintro ⟨happend, hsize⟩
    have hfront := eq_nil_of_size hsize
    subst hfront
    exact ⟨rfl, happend⟩

/-- A text is cut where a part of it has as many bytes. -/
theorem cut_eq_some_iff {n : ℕ} {chars front rest : List Char} :
    cut n chars = some (front, rest) ↔ chars = front ++ rest ∧ size front = n := by
  induction chars generalizing n front with
  | nil =>
    cases n with
    | zero => exact cut_zero_eq_some_iff
    | succ n =>
      refine iff_of_false (fun h => nomatch h) ?_
      rintro ⟨happend, hsize⟩
      rw [(List.nil_eq_append_iff.mp happend).1, size_nil] at hsize
      cases hsize
  | cons c chars ih =>
    cases n with
    | zero => exact cut_zero_eq_some_iff
    | succ n =>
      have hpos := c.utf8Size_pos
      rw [cut]
      constructor
      · intro h
        split_ifs at h with hfits
        obtain ⟨⟨first, last⟩, hcut, hparts⟩ := Option.map_eq_some_iff.mp h
        obtain ⟨rfl, rfl⟩ := Prod.mk.inj hparts
        obtain ⟨rfl, hsize⟩ := ih.mp hcut
        refine ⟨rfl, ?_⟩
        rw [size_cons, hsize]
        omega
      · rintro ⟨happend, hsize⟩
        cases front with
        | nil => cases hsize
        | cons d front =>
          obtain ⟨rfl, rfl⟩ := List.cons.inj happend
          rw [size_cons] at hsize
          rw [if_pos (by omega), ih.mpr ⟨rfl, by omega⟩, Option.map_some]

/-- A slice is what stands between a part with as many bytes and the end of another. -/
theorem slice_eq_some_iff {start stop : ℕ} {chars middle : List Char} :
    slice start stop chars = some middle ↔
      ∃ front rest, chars = front ++ middle ++ rest ∧ size front = start ∧ size (front ++ middle) = stop := by
  rw [slice, Option.bind_eq_some_iff]
  constructor
  · rintro ⟨⟨before, rest⟩, hstop, h⟩
    obtain ⟨⟨front, last⟩, hstart, rfl⟩ := Option.map_eq_some_iff.mp h
    obtain ⟨rfl, hsize⟩ := cut_eq_some_iff.mp hstop
    obtain ⟨rfl, hfront⟩ := cut_eq_some_iff.mp hstart
    exact ⟨front, rest, rfl, hfront, hsize⟩
  · rintro ⟨front, rest, rfl, hfront, hsize⟩
    have hcut : cut start (front ++ middle) = some (front, middle) := cut_eq_some_iff.mpr ⟨rfl, hfront⟩
    exact ⟨(front ++ middle, rest), cut_eq_some_iff.mpr ⟨rfl, hsize⟩, by rw [hcut]; rfl⟩

theorem size_of_oneByte {chars : List Char} (h : ∀ c ∈ chars, c.utf8Size = 1) : size chars = chars.length := by
  induction chars with
  | nil => rfl
  | cons c chars ih =>
    obtain ⟨hc, hchars⟩ := List.forall_mem_cons.mp h
    rw [size_cons, hc, ih hchars, List.length_cons, Nat.add_comm]

/-- Where every character takes one byte, a slice is there for all offsets up to the end. -/
theorem slice_of_oneByte {chars : List Char} (h : ∀ c ∈ chars, c.utf8Size = 1) {start stop : ℕ} (hle : start ≤ stop)
    (hstop : stop ≤ chars.length) : slice start stop chars = some ((chars.take stop).drop start) := by
  have hfront : ∀ c ∈ (chars.take stop).take start, c.utf8Size = 1 := fun c hc =>
    h c (List.mem_of_mem_take (List.mem_of_mem_take hc))
  have hall : ∀ c ∈ chars.take stop, c.utf8Size = 1 := fun c hc => h c (List.mem_of_mem_take hc)
  refine slice_eq_some_iff.mpr ⟨(chars.take stop).take start, chars.drop stop, ?_, ?_, ?_⟩
  · rw [List.take_append_drop, List.take_append_drop]
  · rw [size_of_oneByte hfront, List.length_take, List.length_take]
    omega
  · rw [List.take_append_drop, size_of_oneByte hall, List.length_take]
    omega

end TextSlice
