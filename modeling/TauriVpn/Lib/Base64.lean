import Mathlib.Tactic

/-! Base64. Three bytes are four digits of six bits; a rest of one or two bytes is two or
three digits, and padding fills the last four. The two alphabets differ in their last two
digits. A decoder that takes canonical texts only reads exactly what an encoder writes. -/

namespace Base64

inductive Alphabet where
  | standard | urlSafe
  deriving DecidableEq

def Alphabet.digit62 : Alphabet → Char
  | .standard => '+'
  | .urlSafe => '-'

def Alphabet.digit63 : Alphabet → Char
  | .standard => '/'
  | .urlSafe => '_'

/-- The digit of six bits. -/
def Alphabet.digit (a : Alphabet) (n : ℕ) : Char :=
  if n < 26 then Char.ofNat (0x41 + n)
  else if n < 52 then Char.ofNat (0x61 + (n - 26))
  else if n < 62 then Char.ofNat (0x30 + (n - 52))
  else if n = 62 then a.digit62
  else a.digit63

/-! ### Encoding -/

def encodeChars (a : Alphabet) : List UInt8 → List Char
  | x :: y :: z :: rest =>
    a.digit (x.toNat / 4) :: a.digit (x.toNat % 4 * 16 + y.toNat / 16) ::
      a.digit (y.toNat % 16 * 4 + z.toNat / 64) :: a.digit (z.toNat % 64) :: encodeChars a rest
  | [x, y] =>
    [a.digit (x.toNat / 4), a.digit (x.toNat % 4 * 16 + y.toNat / 16), a.digit (y.toNat % 16 * 4)]
  | [x] => [a.digit (x.toNat / 4), a.digit (x.toNat % 4 * 16)]
  | [] => []

def padding (bytes : List UInt8) : List Char := List.replicate ((3 - bytes.length % 3) % 3) '='

/-- Without padding. -/
def encode (a : Alphabet) (bytes : List UInt8) : String := String.ofList (encodeChars a bytes)

def encodePadded (a : Alphabet) (bytes : List UInt8) : String := String.ofList (encodeChars a bytes ++ padding bytes)

/-- What holds of every digit holds of every character that is written. -/
theorem forall_mem_encodeChars {a : Alphabet} {p : Char → Prop} (h : ∀ n < 64, p (a.digit n)) (bytes : List UInt8) :
    ∀ c ∈ encodeChars a bytes, p c := by
  fun_induction encodeChars a bytes with
  | case1 x y z rest ih =>
    have hx := x.toNat_lt
    have hy := y.toNat_lt
    have hz := z.toNat_lt
    simp only [List.forall_mem_cons]
    exact ⟨h _ (by omega), h _ (by omega), h _ (by omega), h _ (by omega), ih⟩
  | case2 x y =>
    have hx := x.toNat_lt
    have hy := y.toNat_lt
    simp only [List.forall_mem_cons]
    exact ⟨h _ (by omega), h _ (by omega), h _ (by omega), List.forall_mem_nil _⟩
  | case3 x =>
    have hx := x.toNat_lt
    simp only [List.forall_mem_cons]
    exact ⟨h _ (by omega), h _ (by omega), List.forall_mem_nil _⟩
  | case4 => exact List.forall_mem_nil _

/-- What turns the digits of one alphabet into those of another turns the texts. -/
theorem map_encodeChars {a b : Alphabet} {f : Char → Char} (h : ∀ n < 64, f (a.digit n) = b.digit n)
    (bytes : List UInt8) : (encodeChars a bytes).map f = encodeChars b bytes := by
  fun_induction encodeChars a bytes with
  | case1 x y z rest ih =>
    have hx := x.toNat_lt
    have hy := y.toNat_lt
    have hz := z.toNat_lt
    simp only [List.map_cons, encodeChars]
    rw [h _ (by omega), h _ (by omega), h _ (by omega), h _ (by omega), ih]
  | case2 x y =>
    have hx := x.toNat_lt
    have hy := y.toNat_lt
    simp only [List.map_cons, List.map_nil, encodeChars]
    rw [h _ (by omega), h _ (by omega), h _ (by omega)]
  | case3 x =>
    have hx := x.toNat_lt
    simp only [List.map_cons, List.map_nil, encodeChars]
    rw [h _ (by omega), h _ (by omega)]
  | case4 => rfl

theorem length_encodeChars (a : Alphabet) (bytes : List UInt8) :
    (encodeChars a bytes).length = (bytes.length * 4 + 2) / 3 := by
  fun_induction encodeChars a bytes with
  | case1 x y z rest ih =>
    simp only [List.length_cons]
    omega
  | case2 x y => norm_num [List.length_cons, List.length_nil]
  | case3 x => norm_num [List.length_cons, List.length_nil]
  | case4 => rfl

theorem length_padding (bytes : List UInt8) : (padding bytes).length = (3 - bytes.length % 3) % 3 := List.length_replicate

theorem padding_eq_nil_iff (bytes : List UInt8) : padding bytes = [] ↔ 3 ∣ bytes.length := by
  rw [← List.length_eq_zero_iff, length_padding]
  omega

/-! ### Decoding -/

/-- The six bits of a digit of the standard alphabet. -/
def value (c : Char) : Option ℕ :=
  let n := c.toNat
  if 0x41 ≤ n ∧ n ≤ 0x5A then some (n - 0x41)
  else if 0x61 ≤ n ∧ n ≤ 0x7A then some (n - 0x61 + 26)
  else if 0x30 ≤ n ∧ n ≤ 0x39 then some (n - 0x30 + 52)
  else if c = '+' then some 62
  else if c = '/' then some 63
  else none

def decodeChars : List Char → Option (List UInt8)
  | [] => some []
  | c₁ :: c₂ :: c₃ :: c₄ :: rest => do
    let v₁ ← value c₁
    let v₂ ← value c₂
    let first := UInt8.ofNat (v₁ * 4 + v₂ / 16)
    if c₃ = '=' then return [first]
    else
      let v₃ ← value c₃
      let second := UInt8.ofNat (v₂ % 16 * 16 + v₃ / 4)
      if c₄ = '=' then return [first, second]
      else
        let v₄ ← value c₄
        let others ← decodeChars rest
        return first :: second :: UInt8.ofNat (v₃ % 4 * 64 + v₄) :: others
  | _ => none

/-- The bytes of a canonical text. -/
def decode (text : String) : Option (List UInt8) :=
  (decodeChars text.toList).filter fun bytes => encodePadded .standard bytes = text

theorem value_digit : ∀ n < 64, value (Alphabet.standard.digit n) = some n := by decide

theorem digit_ne_pad : ∀ n < 64, Alphabet.standard.digit n ≠ '=' := by decide

theorem ofNat_eq_of_toNat {x : UInt8} {n : ℕ} (h : n = x.toNat) : UInt8.ofNat n = x := by
  rw [h, UInt8.ofNat_toNat]

/-- Decoding reads back what was written. -/
theorem decodeChars_encodeChars (bytes : List UInt8) :
    decodeChars (encodeChars .standard bytes ++ padding bytes) = some bytes := by
  fun_induction encodeChars .standard bytes with
  | case1 x y z rest ih =>
    have hx := x.toNat_lt
    have hy := y.toNat_lt
    have hz := z.toNat_lt
    have hpadding : padding (x :: y :: z :: rest) = padding rest := by
      simp only [padding, List.length_cons]
      congr 1
      omega
    have hthird := digit_ne_pad (y.toNat % 16 * 4 + z.toNat / 64) (by omega)
    have hfourth := digit_ne_pad (z.toNat % 64) (by omega)
    simp only [List.cons_append, hpadding, decodeChars, ih]
    rw [value_digit _ (by omega), value_digit _ (by omega), value_digit _ (by omega), value_digit _ (by omega)]
    simp only [Option.bind_eq_bind, Option.bind_some, Option.pure_def, hthird, hfourth, if_false, Option.some.injEq,
      List.cons.injEq, and_true]
    exact ⟨ofNat_eq_of_toNat (by omega), ofNat_eq_of_toNat (by omega), ofNat_eq_of_toNat (by omega)⟩
  | case2 x y =>
    have hx := x.toNat_lt
    have hy := y.toNat_lt
    have hpadding : padding [x, y] = ['='] := rfl
    have hthird := digit_ne_pad (y.toNat % 16 * 4) (by omega)
    simp only [List.cons_append, List.nil_append, hpadding, decodeChars]
    rw [value_digit _ (by omega), value_digit _ (by omega), value_digit _ (by omega)]
    simp only [Option.bind_eq_bind, Option.bind_some, Option.pure_def, hthird, if_true, if_false, Option.some.injEq,
      List.cons.injEq, and_true]
    exact ⟨ofNat_eq_of_toNat (by omega), ofNat_eq_of_toNat (by omega)⟩
  | case3 x =>
    have hx := x.toNat_lt
    have hpadding : padding [x] = ['=', '='] := rfl
    simp only [List.cons_append, List.nil_append, hpadding, decodeChars]
    rw [value_digit _ (by omega), value_digit _ (by omega)]
    simp only [Option.bind_eq_bind, Option.bind_some, Option.pure_def, if_true, Option.some.injEq, List.cons.injEq,
      and_true]
    exact ofNat_eq_of_toNat (by omega)
  | case4 => rfl

/-- The decoder reads exactly what the encoder writes. -/
theorem decode_eq_some_iff {text : String} {bytes : List UInt8} :
    decode text = some bytes ↔ text = encodePadded .standard bytes := by
  rw [decode, Option.filter_eq_some_iff, decide_eq_true_eq]
  constructor
  · exact fun h => h.2.symm
  · rintro rfl
    exact ⟨by rw [encodePadded, String.toList_ofList, decodeChars_encodeChars], rfl⟩

end Base64
