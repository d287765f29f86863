import TauriVpn.Lib.NumberText

/-! Bytes as text in hexadecimal digits, two to a byte, the high one first. The letters
among the digits may be small or capital, and that is all that two texts of the same bytes
may differ in. -/

namespace HexText

open NumberText

/-- The value of the digit at an index. -/
def digitAt (digits : List Char) (j : ℕ) : Option ℕ := digits[j]?.bind (digitValue 16)

/-- The pair of digits at an index spells the byte. -/
def SpelledAt (digits : List Char) (i : ℕ) (byte : UInt8) : Prop :=
  ∃ high low, digitAt digits (2 * i) = some high ∧ digitAt digits (2 * i + 1) = some low ∧
    byte.toNat = 16 * high + low

/-- The digits spell the bytes. -/
structure Spells {n : ℕ} (digits : List Char) (bytes : Vector UInt8 n) : Prop where
  length : digits.length = 2 * n
  byte : ∀ i (hi : i < n), SpelledAt digits i bytes[i]

/-- The digits spell the bytes below an index. -/
def SpelledBelow {n : ℕ} (digits : List Char) (k : ℕ) (bytes : Vector UInt8 n) : Prop :=
  ∀ i (hi : i < n), i < k → SpelledAt digits i bytes[i]

theorem SpelledBelow.zero {n : ℕ} (digits : List Char) (bytes : Vector UInt8 n) : SpelledBelow digits 0 bytes :=
  fun i _ hi => absurd hi (Nat.not_lt_zero i)

/-- One more byte is written, and the bytes before it stay. -/
theorem SpelledBelow.write {n k : ℕ} {digits : List Char} {bytes : Vector UInt8 n} {byte : UInt8}
    (h : SpelledBelow digits k bytes) (hbyte : SpelledAt digits k byte) :
    SpelledBelow digits (k + 1) (bytes.setIfInBounds k byte) := by
  intro i hi hik
  by_cases heq : k = i
  · subst heq
    rw [Vector.getElem_setIfInBounds_self]
    exact hbyte
  · rw [Vector.getElem_setIfInBounds_ne hi heq]
    exact h i hi (by omega)

theorem SpelledBelow.spells {n : ℕ} {digits : List Char} {bytes : Vector UInt8 n} (h : SpelledBelow digits n bytes)
    (hlength : digits.length = 2 * n) : Spells digits bytes where
  length := hlength
  byte i hi := h i hi hi

theorem digitAt_lt {digits : List Char} {j v : ℕ} (h : digitAt digits j = some v) : v < 16 := by
  obtain ⟨c, -, hc⟩ := Option.bind_eq_some_iff.mp h
  exact digitValue_lt hc

/-- In small letters there is one digit for each value. -/
theorem toLower_of_digitValue {c : Char} {v : ℕ} (h : digitValue 16 c = some v) : c.toLower = v.digitChar := by
  have hascii : ∀ n < 128, (digitValue 16 (Char.ofNat n)).all (fun v => (Char.ofNat n).toLower == v.digitChar) = true := by
    decide
  have hlt : c.toNat < 128 := by
    unfold digitValue at h
    obtain ⟨hvalue, -⟩ := Option.filter_eq_some_iff.mp h
    split_ifs at hvalue
    · omega
    · omega
    · omega
  have hlower := hascii c.toNat hlt
  rw [Char.ofNat_toNat, h, Option.all_some, beq_iff_eq] at hlower
  exact hlower

theorem digitValue_eq_iff {c d : Char} {v w : ℕ} (hc : digitValue 16 c = some v) (hd : digitValue 16 d = some w) :
    v = w ↔ c.toLower = d.toLower := by
  rw [toLower_of_digitValue hc, toLower_of_digitValue hd]
  constructor
  · intro h
    rw [h]
  · intro h
    have hv := digitValue_digitChar le_rfl (digitValue_lt hc)
    rw [h, digitValue_digitChar le_rfl (digitValue_lt hd)] at hv
    exact (Option.some.inj hv).symm

section Spells
variable {n : ℕ} {digits digits' : List Char} {bytes bytes' : Vector UInt8 n}

/-- Bytes are equal when their digits are. -/
theorem Spells.eq_iff_digitAt (h : Spells digits bytes) (h' : Spells digits' bytes') :
    bytes = bytes' ↔ ∀ j < 2 * n, digitAt digits j = digitAt digits' j := by
  constructor
  · rintro rfl j hj
    obtain ⟨high, low, hhigh, hlow, hbyte⟩ := h.byte (j / 2) (by omega)
    obtain ⟨high', low', hhigh', hlow', hbyte'⟩ := h'.byte (j / 2) (by omega)
    have hvalue : 16 * high + low = 16 * high' + low' := hbyte.symm.trans hbyte'
    have hlt := digitAt_lt hlow
    have hlt' := digitAt_lt hlow'
    obtain hj | hj : j = 2 * (j / 2) ∨ j = 2 * (j / 2) + 1 := by omega
    · rw [hj, hhigh, hhigh']
      congr 1
      omega
    · rw [hj, hlow, hlow']
      congr 1
      omega
  · intro hsame
    refine Vector.ext fun i hi => ?_
    obtain ⟨high, low, hhigh, hlow, hbyte⟩ := h.byte i hi
    obtain ⟨high', low', hhigh', hlow', hbyte'⟩ := h'.byte i hi
    rw [hsame _ (by omega), hhigh', Option.some.injEq] at hhigh
    rw [hsame _ (by omega), hlow', Option.some.injEq] at hlow
    rw [← UInt8.toNat_inj, hbyte, hbyte', hhigh, hlow]

/-- Every index below the length has a digit. -/
theorem Spells.digitAt_some (h : Spells digits bytes) {j : ℕ} (hj : j < 2 * n) : ∃ v, digitAt digits j = some v := by
  obtain ⟨high, low, hhigh, hlow, -⟩ := h.byte (j / 2) (by omega)
  obtain hj | hj : j = 2 * (j / 2) ∨ j = 2 * (j / 2) + 1 := by omega
  · exact ⟨high, hj ▸ hhigh⟩
  · exact ⟨low, hj ▸ hlow⟩

/-- Two texts spell the same bytes exactly when they are the same up to the case of letters. -/
theorem Spells.eq_iff_toLower (h : Spells digits bytes) (h' : Spells digits' bytes') :
    bytes = bytes' ↔ digits.map Char.toLower = digits'.map Char.toLower := by
  rw [h.eq_iff_digitAt h']
  have hdigit : ∀ j < 2 * n, digitAt digits j = digitAt digits' j ↔
      (digits.map Char.toLower)[j]? = (digits'.map Char.toLower)[j]? := by
    intro j hj
    obtain ⟨v, hv⟩ := h.digitAt_some hj
    obtain ⟨w, hw⟩ := h'.digitAt_some hj
    obtain ⟨c, hc, hcv⟩ := Option.bind_eq_some_iff.mp hv
    obtain ⟨d, hd, hdw⟩ := Option.bind_eq_some_iff.mp hw
    rw [hv, hw, List.getElem?_map, List.getElem?_map, hc, hd, Option.map_some, Option.map_some, Option.some.injEq,
      Option.some.injEq]
    exact digitValue_eq_iff hcv hdw
  constructor
  · intro hsame
    refine List.ext_getElem? fun j => ?_
    by_cases hj : j < 2 * n
    · exact (hdigit j hj).mp (hsame j hj)
    · rw [List.getElem?_eq_none (by rw [List.length_map, h.length]; omega),
        List.getElem?_eq_none (by rw [List.length_map, h'.length]; omega)]
  · intro hlower j hj
    exact (hdigit j hj).mpr (by rw [hlower])

end Spells

end HexText
