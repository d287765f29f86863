import TauriVpn.Import.VlessLink
import TauriVpn.Lib.FormReading

/-! Is `percent_decode` percent-decoding? User names and the names of servers are read by
the parser of query strings, for which `&`, `=` and `+` mean something. -/

namespace TauriVpn.Import

open FormUrlencoded Userinfo

section Reading
variable {crates : Crates}

/-- `percent_decode` is the first pair of the text read as a form. -/
theorem percentDecode_eq_firstText {decode : List UInt8 → String}
    (hparse : ∀ bytes, crates.parseForm bytes = FormUrlencoded.parse decode bytes) (s : String) :
    percentDecode crates s = firstText decode s := by
  cases hpairs : FormUrlencoded.parse decode (utf8 s) with
  | nil => simp only [percentDecode, firstText, hparse, hpairs]
  | cons pair rest => simp only [percentDecode, firstText, hparse, hpairs]

/-- A text that percent-decodes to `x` is read as `x` just when it has no `&`, `=` or `+`,
or nothing but `&`. -/
theorem percentDecode_eq_iff (hform : crates.ParsesForms) {s x : String}
    (hx : FormUrlencoded.percentDecode (utf8 s) = utf8 x) : percentDecode crates s = x ↔
      ('&' ∉ s.toList ∧ '=' ∉ s.toList ∧ '+' ∉ s.toList) ∨ ∀ c ∈ s.toList, c = '&' := by
  obtain ⟨decode, hdecode, hparse⟩ := hform
  have hbyte : ∀ c : Char, c.toNat < 0x80 → (UInt8.ofNat c.toNat ∉ utf8 s ↔ c ∉ s.toList) := fun c hc =>
    not_congr (mem_utf8_iff hc)
  rw [percentDecode_eq_firstText hparse, firstText_eq_iff hdecode hx, ← hbyte '&' (by decide), ← hbyte '=' (by decide),
    ← hbyte '+' (by decide), ← utf8_all_iff (by decide : '&'.toNat < 0x80)]
  rfl

end Reading

/-- The libraries read an escaped `@`. -/
theorem percentDecode_at : percentDecode sampleCrates "p%40ss" = "p@ss" :=
  (percentDecode_eq_iff sampleCrates_parsesForms (by decide +kernel)).mpr (.inl (by decide))

/-- A URL keeps a plus sign in a user name and in a fragment, and it is read as a space. -/
theorem plus_read_as_space : Kept isUserinfoByte "a+b" ∧ Kept isFragmentByte "a+b" ∧
    FormUrlencoded.percentDecode (utf8 "a+b") = utf8 "a+b" ∧ percentDecode sampleCrates "a+b" = "a b" :=
  ⟨by decide, by decide, by decide, by decide +kernel⟩

end TauriVpn.Import
