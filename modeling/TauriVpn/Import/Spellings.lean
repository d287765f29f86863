import TauriVpn.Import.Shadowsocks

/-! The spellings of base64 that are decoded: either alphabet, with its padding or without.
A text whose last group is a single digit stands for no bytes. -/

namespace TauriVpn.Import

/-- A digit of one of the two alphabets. -/
def IsBase64Digit (c : Char) : Prop := ∃ (a : Base64.Alphabet) (n : ℕ), n < 64 ∧ c = a.digit n

theorem IsBase64Digit.ne_pad {c : Char} (h : IsBase64Digit c) : c ≠ '=' := by
  obtain ⟨a, n, hn, rfl⟩ := h
  cases a with
  | standard => exact Base64.digit_ne_pad n hn
  | urlSafe =>
    have hdigits : ∀ n < 64, Base64.Alphabet.urlSafe.digit n ≠ '=' := by decide
    exact hdigits n hn

theorem IsBase64Digit.ascii {c : Char} (h : IsBase64Digit c) : c.toNat < 0x80 := by
  obtain ⟨a, n, hn, rfl⟩ := h
  have hdigits : ∀ n < 64, (a.digit n).toNat < 0x80 := by cases a <;> decide
  exact hdigits n hn

section Spellings
variable {crates : Crates}

/-- The padding is the same in both alphabets. -/
theorem normalized_encodePadded (a : Base64.Alphabet) (bytes : List UInt8) :
    (normalized (Base64.encodePadded a bytes)).toList =
      Base64.encodeChars .standard bytes ++ Base64.padding bytes := by
  rw [toList_normalized, Base64.encodePadded, String.toList_ofList, List.map_append]
  congr 1
  · refine Base64.map_encodeChars ?_ bytes
    cases a <;> decide
  · rw [Base64.padding, List.map_replicate]
    rfl

theorem utf8ByteSize_encodePadded (bytes : List UInt8) :
    (String.ofList (Base64.encodeChars .standard bytes ++ Base64.padding bytes)).utf8ByteSize % 4 = 0 := by
  have hascii : ∀ n < 64, (Base64.Alphabet.standard.digit n).toNat < 0x80 := by decide
  have hall : ∀ c ∈ Base64.encodeChars .standard bytes ++ Base64.padding bytes, c.toNat < 0x80 := by
    intro c hc
    obtain hdigit | hpad := List.mem_append.mp hc
    · exact Base64.forall_mem_encodeChars (p := fun c => c.toNat < 0x80) hascii bytes c hdigit
    · rw [List.eq_of_mem_replicate hpad]
      decide
  rw [utf8ByteSize_of_ascii hall, List.length_append, Base64.length_encodeChars, Base64.length_padding]
  obtain h | h | h : bytes.length % 3 = 0 ∨ bytes.length % 3 = 1 ∨ bytes.length % 3 = 2 := by omega
  · rw [h]
    omega
  · rw [h]
    omega
  · rw [h]
    omega

variable (hdecodes : crates.DecodesBase64)
include hdecodes

/-- Text of either alphabet with its padding is read back. -/
theorem decodeBase64_encodePadded (a : Base64.Alphabet) (bytes : List UInt8) :
    decodeBase64 crates (Base64.encodePadded a bytes) = .ok bytes := by
  have hmissing : missingPadding (normalized (Base64.encodePadded a bytes)) = 0 := by
    rw [missingPadding, ← String.ofList_toList (s := normalized (Base64.encodePadded a bytes)),
      normalized_encodePadded, utf8ByteSize_encodePadded]
  rw [decodeBase64_eq_ok_iff hdecodes, hmissing, normalized_encodePadded, List.replicate_zero, List.append_nil]

/-- A last group of one digit would need more padding than there is. -/
theorem decodeBase64_short {text : String} (hdigits : ∀ c ∈ text.toList, IsBase64Digit c)
    (hlength : text.toList.length % 4 = 1) : ∃ error, decodeBase64 crates text = .error error := by
  cases hresult : decodeBase64 crates text with
  | error error => exact ⟨error, rfl⟩
  | ok bytes =>
    exfalso
    have hnormal : ∀ c ∈ (normalized text).toList, c ≠ '=' ∧ c.toNat < 0x80 := by
      rw [toList_normalized]
      intro c hc
      obtain ⟨d, hd, rfl⟩ := List.mem_map.mp hc
      have hdigit := hdigits d hd
      split_ifs
      · decide
      · decide
      · exact ⟨hdigit.ne_pad, hdigit.ascii⟩
    have hcount : (normalized text).toList.length = text.toList.length := by
      rw [toList_normalized, List.length_map]
    have hmissing : missingPadding (normalized text) = 3 := by
      rw [missingPadding, ← String.ofList_toList (s := normalized text),
        utf8ByteSize_of_ascii fun c hc => (hnormal c hc).2, hcount, hlength]
    rw [decodeBase64_eq_ok_iff hdecodes, hmissing] at hresult
    -- three signs of padding stand on the left, at most two on the right
    have hpads := congrArg (List.count '=') hresult
    have hleft : List.count '=' (normalized text).toList = 0 :=
      List.count_eq_zero.mpr fun hmem => (hnormal '=' hmem).1 rfl
    have hright : List.count '=' (Base64.encodeChars .standard bytes) = 0 :=
      List.count_eq_zero.mpr fun hmem =>
        Base64.forall_mem_encodeChars (p := (· ≠ '=')) Base64.digit_ne_pad bytes '=' hmem rfl
    rw [List.count_append, List.count_append, hleft, hright, List.count_replicate_self, Base64.padding,
      List.count_replicate_self] at hpads
    omega

/-- The four spellings of any bytes give the bytes, and a text with a single digit too many
gives none. -/
theorem decodeBase64_spellings :
    (∀ a bytes, decodeBase64 crates (Base64.encode a bytes) = .ok bytes ∧
      decodeBase64 crates (Base64.encodePadded a bytes) = .ok bytes) ∧
    ∀ text : String, (∀ c ∈ text.toList, IsBase64Digit c) → text.toList.length % 4 = 1 →
      ∃ error, decodeBase64 crates text = .error error :=
  ⟨fun a bytes => ⟨decodeBase64_encode hdecodes a bytes, decodeBase64_encodePadded hdecodes a bytes⟩,
    fun _ => decodeBase64_short hdecodes⟩

end Spellings

/-- Two bytes, of which the second spelling has one sign of padding. -/
theorem decodeBase64_spellings_two : decodeBase64 (tableCrates [] []) (Base64.encode .urlSafe [0xFB, 0xF0]) = .ok [0xFB, 0xF0] ∧
    decodeBase64 (tableCrates [] []) (Base64.encodePadded .urlSafe [0xFB, 0xF0]) = .ok [0xFB, 0xF0] :=
  (decodeBase64_spellings (tableCrates_decodesBase64 [] [])).1 .urlSafe [0xFB, 0xF0]

end TauriVpn.Import
