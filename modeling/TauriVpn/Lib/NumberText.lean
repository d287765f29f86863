import Mathlib.Tactic

/-! Numbers as text in a radix of at most sixteen. A format says how many digits there
may be, whether zeros may stand in front, and how large the number may get; a number
that fits is read back from its digits. -/

namespace NumberText

structure Format where
  radix : ℕ
  maxDigits : Option ℕ
  leadingZeros : Bool
  bound : ℕ

/-- The value of a digit, in either case of letters. -/
def digitValue (radix : ℕ) (c : Char) : Option ℕ :=
  let n := c.toNat
  let value :=
    if 48 ≤ n ∧ n ≤ 57 then some (n - 48)
    else if 97 ≤ n ∧ n ≤ 122 then some (n - 87)
    else if 65 ≤ n ∧ n ≤ 90 then some (n - 55)
    else none
  value.filter (· < radix)

def isDigit (radix : ℕ) (c : Char) : Bool := (digitValue radix c).isSome

def value (radix : ℕ) (chars : List Char) : ℕ :=
  chars.foldl (fun n c => radix * n + (digitValue radix c).getD 0) 0

/-- A text of digits that the format allows. -/
def Format.Allows (format : Format) (chars : List Char) : Prop :=
  chars ≠ [] ∧ chars.all (isDigit format.radix) = true ∧ (∀ m ∈ format.maxDigits, chars.length ≤ m) ∧
    (format.leadingZeros = true ∨ chars.length = 1 ∨ chars.head? ≠ some '0') ∧
    value format.radix chars < format.bound

instance (format : Format) (chars : List Char) : Decidable (format.Allows chars) :=
  inferInstanceAs (Decidable (_ ∧ _))

def read (format : Format) (chars : List Char) : Option ℕ :=
  if format.Allows chars then some (value format.radix chars) else none

theorem read_eq_some_iff {format : Format} {chars : List Char} {n : ℕ} :
    read format chars = some n ↔ format.Allows chars ∧ value format.radix chars = n := by
  unfold read
  split_ifs with h
  · simp [h]
  · simp [h]

theorem isDigit_of_read {format : Format} {chars : List Char} {n : ℕ} (h : read format chars = some n) :
    ∀ c ∈ chars, isDigit format.radix c = true :=
  List.all_eq_true.mp (read_eq_some_iff.mp h).1.2.1

theorem digitValue_lt {radix : ℕ} {c : Char} {v : ℕ} (h : digitValue radix c = some v) : v < radix := by
  unfold digitValue at h
  simpa using (Option.filter_eq_some_iff.mp h).2

/-! ### Printed numbers -/

section Printed
variable {radix : ℕ} (hradix : 1 < radix) (hletters : radix ≤ 16)
include hletters

theorem digitValue_digitChar {d : ℕ} (hd : d < radix) : digitValue radix d.digitChar = some d := by
  have hall : ∀ d < 16, digitValue 16 d.digitChar = some d := by decide
  have hvalue := hall d (hd.trans_le hletters)
  unfold digitValue at hvalue ⊢
  exact Option.filter_eq_some_iff.mpr ⟨(Option.filter_eq_some_iff.mp hvalue).1, by simpa using hd⟩

include hradix

theorem isDigit_of_mem_toDigits {n : ℕ} : ∀ c ∈ Nat.toDigits radix n, isDigit radix c = true := by
  induction n using Nat.strong_induction_on with
  | _ n ih =>
    have hlast : ∀ d < radix, isDigit radix d.digitChar = true := fun d hd => by
      rw [isDigit, digitValue_digitChar hletters hd]
      rfl
    rw [Nat.toDigits_eq_if hradix]
    split_ifs with hn
    · exact List.forall_mem_singleton.mpr (hlast n hn)
    · have hsmaller : n / radix < n := Nat.div_lt_self (by omega) hradix
      exact List.forall_mem_append.mpr ⟨ih _ hsmaller,
        List.forall_mem_singleton.mpr (hlast _ (Nat.mod_lt _ (by omega)))⟩

/-- The digits of a number have its value. -/
theorem value_toDigits (n : ℕ) : value radix (Nat.toDigits radix n) = n := by
  induction n using Nat.strong_induction_on with
  | _ n ih =>
    rw [Nat.toDigits_eq_if hradix]
    split_ifs with hn
    · simp [value, digitValue_digitChar hletters hn]
    · have hsmaller : n / radix < n := Nat.div_lt_self (by omega) hradix
      have hfront : (Nat.toDigits radix (n / radix)).foldl
          (fun n c => radix * n + (digitValue radix c).getD 0) 0 = n / radix := ih _ hsmaller
      rw [value, List.foldl_append, hfront]
      simp only [List.foldl_cons, List.foldl_nil, digitValue_digitChar hletters (Nat.mod_lt n (by omega : 0 < radix)),
        Option.getD_some]
      exact Nat.div_add_mod n radix

omit hletters in
/-- No zero stands before the digits of a number. -/
theorem head_toDigits (n : ℕ) : (Nat.toDigits radix n).length = 1 ∨ (Nat.toDigits radix n).head? ≠ some '0' := by
  induction n using Nat.strong_induction_on with
  | _ n ih =>
    rw [Nat.toDigits_eq_if hradix]
    split_ifs with hn
    · exact Or.inl rfl
    · right
      rw [List.head?_append_of_ne_nil _ Nat.toDigits_ne_nil]
      rcases ih (n / radix) (Nat.div_lt_self (by omega) hradix) with hone | hhead
      · -- a single digit of a quotient that is not zero
        have hsmall : n / radix < radix := by
          have hpow := (Nat.length_toDigits_le_iff hradix one_pos).mp hone.le
          rwa [pow_one] at hpow
        have hpos : 0 < n / radix := Nat.div_pos (Nat.le_of_not_lt hn) (by omega)
        rw [Nat.toDigits_of_lt_base hsmall, List.head?_cons, ne_eq, Option.some_inj, Nat.digitChar_eq_zero]
        omega
      · exact hhead

end Printed

/-- A number that fits the format is read back from its digits. -/
theorem read_toDigits (format : Format) (hradix : 1 < format.radix) (hletters : format.radix ≤ 16) {n : ℕ}
    (hbound : n < format.bound) (hdigits : ∀ m ∈ format.maxDigits, 0 < m ∧ n < format.radix ^ m) :
    read format (Nat.toDigits format.radix n) = some n := by
  refine read_eq_some_iff.mpr ⟨⟨Nat.toDigits_ne_nil, ?_, fun m hm => ?_, Or.inr (head_toDigits hradix n), ?_⟩,
    value_toDigits hradix hletters n⟩
  · exact List.all_eq_true.mpr (isDigit_of_mem_toDigits hradix hletters)
  · exact (Nat.length_toDigits_le_iff hradix (hdigits m hm).1).mpr (hdigits m hm).2
  · rwa [value_toDigits hradix hletters]

end NumberText
