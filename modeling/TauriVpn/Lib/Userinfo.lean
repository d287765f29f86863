import TauriVpn.Lib.FormUrlencoded

/-! The user part of a URL. A producer writes a user name and a password with percent
signs, by RFC 3986 with the unreserved characters kept; a parser of the URL standard
encodes once more what it does not keep, drops tabs and line breaks, and decodes
nothing. What comes back is the text only if every character of it is kept. -/

namespace Userinfo

open FormUrlencoded

/-! ### Texts with percent signs -/

/-- The text with the bytes encoded that are not kept. -/
def encode (keep : UInt8 → Bool) (s : String) : String := ofAscii (percentEncode keep (utf8 s))

/-- Every byte of the text is kept. -/
def Kept (keep : UInt8 → Bool) (s : String) : Prop := ∀ b ∈ utf8 s, keep b = true

instance (keep : UInt8 → Bool) (s : String) : Decidable (Kept keep s) :=
  decidable_of_iff ((utf8 s).all keep = true) List.all_eq_true

theorem utf8_injective {s t : String} (h : utf8 s = utf8 t) : s = t := by
  have hs := fromUtf8_utf8 s
  rw [h, fromUtf8_utf8] at hs
  exact (Option.some.inj hs).symm

theorem utf8_append (s t : String) : utf8 (s ++ t) = utf8 s ++ utf8 t := by
  simp [utf8]

/-- A character of ASCII is one byte of the text. -/
theorem mem_utf8_iff {c : Char} (hc : c.toNat < 0x80) {s : String} : UInt8.ofNat c.toNat ∈ utf8 s ↔ c ∈ s.toList := by
  rw [utf8, List.mem_flatMap]
  constructor
  · rintro ⟨d, hd, hmem⟩
    by_cases hascii : d.toNat < 0x80
    · rw [utf8EncodeChar_of_ascii hascii, List.mem_singleton] at hmem
      have hnat := congrArg UInt8.toNat hmem
      rw [UInt8.toNat_ofNat', UInt8.toNat_ofNat', Nat.mod_eq_of_lt (by omega), Nat.mod_eq_of_lt (by omega)] at hnat
      rwa [Char.ext (UInt32.toNat_inj.mp hnat)]
    · have hhigh := le_of_mem_utf8EncodeChar (Nat.le_of_not_lt hascii) hmem
      rw [UInt8.toNat_ofNat', Nat.mod_eq_of_lt (by omega)] at hhigh
      omega
  · intro hmem
    exact ⟨c, hmem, by rw [utf8EncodeChar_of_ascii hc, List.mem_singleton]⟩

/-- A character of ASCII that is not kept is not in the text. -/
theorem Kept.notMem {keep : UInt8 → Bool} {s : String} (h : Kept keep s) {c : Char} (hc : c.toNat < 0x80)
    (hnot : keep (UInt8.ofNat c.toNat) = false) : c ∉ s.toList := by
  intro hmem
  rw [h _ ((mem_utf8_iff hc).mpr hmem)] at hnot
  cases hnot

/-- A text of one character of ASCII only is one of its byte only. -/
theorem utf8_all_iff {c : Char} (hc : c.toNat < 0x80) {s : String} :
    (∀ b ∈ utf8 s, b = UInt8.ofNat c.toNat) ↔ ∀ d ∈ s.toList, d = c := by
  constructor
  · intro h d hd
    obtain ⟨b, hb⟩ := List.exists_mem_of_ne_nil _ (String.utf8EncodeChar_ne_nil (c := d))
    have hbyte : UInt8.ofNat c.toNat ∈ String.utf8EncodeChar d := h b (List.mem_flatMap.mpr ⟨d, hd, hb⟩) ▸ hb
    have hone : UInt8.ofNat c.toNat ∈ utf8 (String.singleton d) := by simpa [utf8] using hbyte
    have hmem := (mem_utf8_iff hc).mp hone
    rw [String.toList_singleton, List.mem_singleton] at hmem
    exact hmem.symm
  · intro h b hb
    obtain ⟨d, hd, hmem⟩ := List.mem_flatMap.mp hb
    rw [h d hd, utf8EncodeChar_of_ascii hc, List.mem_singleton] at hmem
    exact hmem

theorem length_le_utf8 (s : String) : s.toList.length ≤ (utf8 s).length := by
  rw [utf8]
  induction s.toList with
  | nil => exact Nat.le_refl 0
  | cons c rest ih =>
    have hpos := List.length_pos_iff.mpr (String.utf8EncodeChar_ne_nil (c := c))
    rw [List.flatMap_cons, List.length_append, List.length_cons]
    omega

section Encode
variable {keep : UInt8 → Bool}

theorem percentEncode_cons (b : UInt8) (rest : List UInt8) : percentEncode keep (b :: rest) =
    (if keep b then [b] else percentTriple b) ++ percentEncode keep rest := List.flatMap_cons

theorem length_percentTriple (b : UInt8) : (percentTriple b).length = 3 := rfl

theorem percentEncode_of_kept {bytes : List UInt8} (h : ∀ b ∈ bytes, keep b = true) :
    percentEncode keep bytes = bytes := by
  induction bytes with
  | nil => rfl
  | cons b rest ih =>
    rw [percentEncode_cons, if_pos (h b List.mem_cons_self), ih fun x hx => h x (List.mem_cons_of_mem _ hx)]
    rfl

/-- Without a percent sign nothing was encoded. -/
theorem kept_of_no_percent {bytes : List UInt8} (h : (0x25 : UInt8) ∉ percentEncode keep bytes) :
    ∀ b ∈ bytes, keep b = true := by
  intro b hb
  by_contra hkeep
  refine h (List.mem_flatMap.mpr ⟨b, hb, ?_⟩)
  rw [if_neg hkeep]
  exact List.mem_cons_self

theorem length_le_percentEncode (bytes : List UInt8) : bytes.length ≤ (percentEncode keep bytes).length := by
  induction bytes with
  | nil => exact Nat.le_refl 0
  | cons b rest ih =>
    rw [percentEncode_cons, List.length_append, List.length_cons]
    split_ifs
    · rw [List.length_singleton]
      omega
    · rw [length_percentTriple]
      omega

/-- A byte that is not kept makes the text longer. -/
theorem percentEncode_eq_self_iff {bytes : List UInt8} :
    percentEncode keep bytes = bytes ↔ ∀ b ∈ bytes, keep b = true := by
  refine ⟨fun h => ?_, percentEncode_of_kept⟩
  induction bytes with
  | nil => exact List.forall_mem_nil _
  | cons b rest ih =>
    rw [percentEncode_cons] at h
    by_cases hkeep : keep b = true
    · rw [if_pos hkeep, List.singleton_append] at h
      exact List.forall_mem_cons.mpr ⟨hkeep, ih (List.cons.inj h).2⟩
    · rw [if_neg hkeep] at h
      have hlength := congrArg List.length h
      have hle : rest.length ≤ (percentEncode keep rest).length := length_le_percentEncode rest
      rw [List.length_append, length_percentTriple, List.length_cons] at hlength
      omega

variable (hascii : ∀ b, keep b = true → b.toNat < 0x80)
include hascii

theorem utf8_encode (s : String) : utf8 (encode keep s) = percentEncode keep (utf8 s) := by
  refine utf8_ofAscii fun b hb => ?_
  have hdigits : ∀ n < 16, (hexDigit n).toNat < 0x80 := by decide
  obtain ⟨-, hkeep⟩ | rfl | ⟨n, hn, rfl⟩ := mem_percentEncode hb
  · exact hascii b hkeep
  · decide
  · exact hdigits n hn

/-- Encoding leaves a text alone just when every byte of it is kept. -/
theorem encode_eq_self_iff {s : String} : encode keep s = s ↔ Kept keep s := by
  rw [Kept, ← percentEncode_eq_self_iff, ← utf8_encode hascii]
  exact ⟨fun h => congrArg utf8 h, utf8_injective⟩

theorem encode_ne_empty {s : String} (h : s ≠ "") : encode keep s ≠ "" := by
  intro hempty
  have hle : (utf8 s).length ≤ (percentEncode keep (utf8 s)).length := length_le_percentEncode _
  rw [← utf8_encode hascii, hempty] at hle
  exact utf8_ne_nil h (List.eq_nil_of_length_eq_zero (Nat.le_zero.mp hle))

/-- Percent-decoding reads back what was written, unless a percent sign was kept. -/
theorem percentDecode_encode (hpercent : keep 0x25 = false) (s : String) :
    percentDecode (utf8 (encode keep s)) = utf8 s := by
  rw [utf8_encode hascii]
  refine percentDecode_percentEncode fun b _ hkeep => ?_
  rintro rfl
  rw [hpercent] at hkeep
  cases hkeep

/-- What an encoder writes consists of what it keeps, percent signs and digits. -/
theorem kept_encode {keep' : UInt8 → Bool} (hsub : ∀ b, keep b = true → keep' b = true) (hpercent : keep' 0x25 = true)
    (hdigits : ∀ n < 16, keep' (hexDigit n) = true) (s : String) : Kept keep' (encode keep s) := by
  intro b hb
  rw [utf8_encode hascii] at hb
  obtain ⟨-, hkeep⟩ | rfl | ⟨n, hn, rfl⟩ := mem_percentEncode hb
  · exact hsub b hkeep
  · exact hpercent
  · exact hdigits n hn

end Encode

/-! ### What producers and parsers keep -/

/-- The bytes that RFC 3986 calls unreserved. -/
def isUnreserved (b : UInt8) : Bool :=
  let n := b.toNat
  (0x30 ≤ n && n ≤ 0x39) || (0x41 ≤ n && n ≤ 0x5A) || (0x61 ≤ n && n ≤ 0x7A) ||
    n == 0x2D || n == 0x2E || n == 0x5F || n == 0x7E

/-- The bytes outside the userinfo percent-encode set of the URL standard: of the visible
ones of ASCII all but `"`, `#`, `/`, `:` to `@`, `[` to `^`, the backquote and `{` to `}`. -/
def isUserinfoByte (b : UInt8) : Bool :=
  let n := b.toNat
  0x20 < n && n < 0x7F && n != 0x22 && n != 0x23 && n != 0x2F && !(0x3A ≤ n && n ≤ 0x40) &&
    !(0x5B ≤ n && n ≤ 0x5E) && n != 0x60 && !(0x7B ≤ n && n ≤ 0x7D)

/-- The URL parser drops tabs and line breaks. -/
def withoutBreaks (s : String) : String :=
  String.ofList (s.toList.filter fun c => c ≠ '\t' && c ≠ '\n' && c ≠ '\r')

/-- How the parser writes a user name or a password. -/
@[irreducible] def parsed (s : String) : String := encode isUserinfoByte (withoutBreaks s)

theorem isUserinfoByte_ascii (b : UInt8) (h : isUserinfoByte b = true) : b.toNat < 0x80 := by
  simp only [isUserinfoByte, Bool.and_eq_true, decide_eq_true_eq] at h
  omega

theorem isUnreserved_ascii (b : UInt8) (h : isUnreserved b = true) : b.toNat < 0x80 := by
  simp only [isUnreserved, Bool.or_eq_true, Bool.and_eq_true, decide_eq_true_eq, beq_iff_eq] at h
  omega

theorem isUserinfoByte_of_unreserved (b : UInt8) (h : isUnreserved b = true) : isUserinfoByte b = true := by
  simp only [isUnreserved, Bool.or_eq_true, Bool.and_eq_true, decide_eq_true_eq, beq_iff_eq] at h
  simp only [isUserinfoByte, Bool.and_eq_true, Bool.not_eq_true', Bool.and_eq_false_iff, bne_iff_ne, decide_eq_true_eq,
    decide_eq_false_iff_not]
  omega

theorem kept_parsed (s : String) : Kept isUserinfoByte (parsed s) := by
  rw [parsed]
  exact kept_encode isUserinfoByte_ascii (fun _ h => h) (by decide) (by decide) _

/-- The parser keeps a text just when it keeps every byte of it. -/
theorem parsed_eq_self_iff {s : String} : parsed s = s ↔ Kept isUserinfoByte s := by
  refine ⟨fun h => h ▸ kept_parsed s, fun h => ?_⟩
  have hbreaks : withoutBreaks s = s := by
    have hall : s.toList.filter (fun c => c ≠ '\t' && c ≠ '\n' && c ≠ '\r') = s.toList := by
      refine List.filter_eq_self.mpr fun c hc => ?_
      have hmem : ∀ d : Char, d.toNat < 0x80 → isUserinfoByte (UInt8.ofNat d.toNat) = false → c ≠ d := by
        rintro d hd hnot rfl
        exact h.notMem hd hnot hc
      simp [hmem '\t' (by decide) (by decide), hmem '\n' (by decide) (by decide), hmem '\r' (by decide) (by decide)]
    rw [withoutBreaks, hall, String.ofList_toList]
  rw [parsed, hbreaks]
  exact (encode_eq_self_iff isUserinfoByte_ascii).mpr h

/-- Where the parser writes no percent sign it keeps all but tabs and line breaks. -/
theorem kept_withoutBreaks {s : String} (h : '%' ∉ (parsed s).toList) : Kept isUserinfoByte (withoutBreaks s) := by
  rw [parsed] at h
  refine kept_of_no_percent ?_
  rw [← utf8_encode isUserinfoByte_ascii]
  exact fun hmem => h ((mem_utf8_iff (by decide)).mp hmem)

theorem length_parsed_le {s : String} (h : '%' ∉ (parsed s).toList) : (parsed s).toList.length ≤ s.toList.length := by
  have hkept := kept_withoutBreaks h
  rw [parsed, (encode_eq_self_iff isUserinfoByte_ascii).mpr hkept, withoutBreaks, String.toList_ofList]
  exact List.length_filter_le _ _

/-- The percent-encoding of RFC 3986. -/
def escaped (s : String) : String := encode isUnreserved s

theorem kept_escaped (s : String) : Kept isUserinfoByte (escaped s) :=
  kept_encode isUnreserved_ascii isUserinfoByte_of_unreserved (by decide) (by decide) s

/-- A parser has nothing to change in what a producer has escaped. -/
theorem parsed_escaped (s : String) : parsed (escaped s) = escaped s := parsed_eq_self_iff.mpr (kept_escaped s)

theorem escaped_eq_self_iff {s : String} : escaped s = s ↔ Kept isUnreserved s :=
  encode_eq_self_iff isUnreserved_ascii

example : escaped "p@ss w:rd" = "p%40ss%20w%3Ard" := by decide +kernel

end Userinfo
