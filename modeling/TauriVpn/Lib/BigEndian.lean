import Mathlib.Tactic

/-! Unsigned numbers as a fixed number of bytes, most significant byte first.
Writing keeps the low bytes only, and reading back is exact for numbers that
fit the width. -/

namespace BigEndian

/-- The `w` low bytes of `n`. -/
def encode : ℕ → ℕ → List UInt8
  | 0, _ => []
  | w + 1, n => UInt8.ofNat (n / 256 ^ w) :: encode w n

def decode : List UInt8 → ℕ
  | [] => 0
  | b :: bs => b.toNat * 256 ^ bs.length + decode bs

@[simp] theorem encode_length (w n : ℕ) : (encode w n).length = w := by
  induction w with
  | zero => rfl
  | succ w ih => simp [encode, ih]

/-- Reading back what was written loses exactly what does not fit the width. -/
theorem decode_encode (w n : ℕ) : decode (encode w n) = n % 256 ^ w := by
  induction w with
  | zero => simp [encode, decode, Nat.mod_one]
  | succ w ih =>
    have hsplit : n % 256 ^ (w + 1) = n % 256 ^ w + 256 ^ w * (n / 256 ^ w % 2 ^ 8) := by
      rw [pow_succ, Nat.mod_mul, show 2 ^ 8 = 256 from rfl]
    simp only [encode, decode, encode_length, ih, UInt8.toNat_ofNat']
    rw [hsplit, Nat.add_comm, Nat.mul_comm]

theorem decode_encode_of_lt {w n : ℕ} (h : n < 256 ^ w) : decode (encode w n) = n := by
  rw [decode_encode, Nat.mod_eq_of_lt h]

theorem decode_lt (bs : List UInt8) : decode bs < 256 ^ bs.length := by
  induction bs with
  | nil => simp [decode]
  | cons b bs ih =>
    have hb : b.toNat < 256 := b.toNat_lt
    rw [decode, List.length_cons, pow_succ]
    nlinarith

/-- What does not fit the width is not written. -/
theorem encode_add_mul (w n k : ℕ) : encode w (n + k * 256 ^ w) = encode w n := by
  induction w generalizing k with
  | zero => rfl
  | succ w ih =>
    have hpow : k * 256 ^ (w + 1) = k * 256 * 256 ^ w := by rw [pow_succ]; ring
    have hdiv : (n + k * 256 * 256 ^ w) / 256 ^ w = n / 256 ^ w + k * 256 := Nat.add_mul_div_right _ _ (by positivity)
    have hbyte : UInt8.ofNat (n / 256 ^ w + k * 256) = UInt8.ofNat (n / 256 ^ w) := by
      rw [← UInt8.toNat_inj, UInt8.toNat_ofNat', UInt8.toNat_ofNat']
      exact Nat.add_mul_mod_self_right _ _ _
    rw [hpow, encode, encode, hdiv, hbyte, ih (k * 256)]

/-- Writing back what was read. -/
theorem encode_decode (bs : List UInt8) : encode bs.length (decode bs) = bs := by
  induction bs with
  | nil => rfl
  | cons b bs ih =>
    have hdiv : (decode bs + b.toNat * 256 ^ bs.length) / 256 ^ bs.length = b.toNat := by
      rw [Nat.add_mul_div_right _ _ (by positivity), Nat.div_eq_of_lt (decode_lt bs), Nat.zero_add]
    rw [decode, Nat.add_comm, List.length_cons, encode, hdiv, encode_add_mul, ih, UInt8.ofNat_toNat]

end BigEndian
