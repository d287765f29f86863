import TauriVpn.Lib.Fallible
import TauriVpn.Lib.HexText
import TauriVpn.Lib.TextSlice
import TauriVpn.Olcrtc.Config

/-! The key of the OLC RTC cipher. The decoder measures bytes, cuts the text at byte offsets
and parses each piece as a number, for which a sign will do. The configuration of the client
only lets texts through that are sixty-four hexadecimal digits, and on these the decoder
reads two digits to a byte. -/

namespace TauriVpn.Olcrtc

open Fallible HexText NumberText

/-- Code that may return an error, or panic and return nothing. -/
abbrev MayPanic (α : Type) := ExceptT VpnError Option α

/-- Digits of a number that fits in a byte. -/
def byteFormat (radix : ℕ) : Format where
  radix := radix
  maxDigits := none
  leadingZeros := true
  bound := 256

/-- `u8::from_str_radix`: digits, after an optional plus sign. -/
def u8FromStrRadix (src : List Char) (radix : ℕ) : Option UInt8 :=
  let digits := match src with
    | '+' :: rest => rest
    | chars => chars
  (read (byteFormat radix) digits).map UInt8.ofNat

/-- One turn of the loop of `decode_hex_32`; the slice panics where the text cannot be cut. -/
def decodeByte (input : String) (index : ℕ) : MayPanic UInt8 := do
  let digits ← ExceptT.lift (TextSlice.slice (index * 2) (index * 2 + 2) input.toList)
  match u8FromStrRadix digits 16 with
  | some byte => return byte
  | none => throw (.invalidProfile "OLC RTC shared key must be hexadecimal")

def decodeHex32 (input : String) : MayPanic (Vector UInt8 32) := do
  if input.utf8ByteSize ≠ 64 then
    throw (.invalidProfile "OLC RTC shared key must be a 32-byte hex string")
  (List.range 32).foldlM (fun bytes index => do
    let byte ← decodeByte input index
    return bytes.setIfInBounds index byte) (Vector.replicate 32 0)

/-- The cipher, by the key that it was made with. -/
structure OlcCipher where
  key : Vector UInt8 32

/-! ### What the check of the configuration ensures -/

theorem digitValue_of_isAsciiHexdigit {c : Char} (h : isAsciiHexdigit c = true) : ∃ v, digitValue 16 c = some v := by
  unfold digitValue
  dsimp only
  obtain hdigit | hlower | hupper := toNat_of_isAsciiHexdigit h
  · rw [if_pos (by omega)]
    exact ⟨_, Option.filter_eq_some_iff.mpr ⟨rfl, by simp; omega⟩⟩
  · rw [if_neg (by omega), if_pos (by omega)]
    exact ⟨_, Option.filter_eq_some_iff.mpr ⟨rfl, by simp; omega⟩⟩
  · rw [if_neg (by omega), if_neg (by omega), if_pos (by omega)]
    exact ⟨_, Option.filter_eq_some_iff.mpr ⟨rfl, by simp; omega⟩⟩

theorem utf8Size_of_isAsciiHexdigit {c : Char} (h : isAsciiHexdigit c = true) : c.utf8Size = 1 := by
  have hrange := toNat_of_isAsciiHexdigit h
  rw [Char.utf8Size_eq_one_iff, UInt32.le_iff_toNat_le]
  show c.toNat ≤ 127
  omega

/-- A pair of digits is the number that they spell; no digit is a sign. -/
theorem u8FromStrRadix_pair {a b : Char} {high low : ℕ} (ha : digitValue 16 a = some high)
    (hb : digitValue 16 b = some low) :
    u8FromStrRadix [a, b] 16 = some (UInt8.ofNat (16 * high + low)) := by
  have hhigh := digitValue_lt ha
  have hlow := digitValue_lt hb
  have hvalue : value 16 [a, b] = 16 * high + low := by simp [value, ha, hb]
  have hread : read (byteFormat 16) [a, b] = some (16 * high + low) := by
    refine read_eq_some_iff.mpr ⟨⟨by simp, ?_, fun m hm => ?_, .inl rfl, ?_⟩, hvalue⟩
    · simp [isDigit, byteFormat, ha, hb]
    · cases hm
    · show value 16 [a, b] < 256
      omega
  unfold u8FromStrRadix
  split
  · rename_i rest hsrc
    rw [(List.cons.inj hsrc).1, show digitValue 16 '+' = none from rfl] at ha
    cases ha
  · dsimp only
    rw [hread, Option.map_some]

section Accepted
variable {input : String} (hlength : input.toList.length = 64)
  (hdigits : ∀ c ∈ input.toList, isAsciiHexdigit c = true)
include hlength hdigits

/-- Each turn of the loop reads the two digits of its byte. -/
theorem decodeByte_of_digits {index : ℕ} (hindex : index < 32) :
    ∃ byte, decodeByte input index = pure byte ∧ SpelledAt input.toList index byte := by
  have hone : ∀ c ∈ input.toList, c.utf8Size = 1 := fun c hc => utf8Size_of_isAsciiHexdigit (hdigits c hc)
  have hslice : TextSlice.slice (index * 2) (index * 2 + 2) input.toList =
      some [input.toList[2 * index], input.toList[2 * index + 1]] := by
    rw [TextSlice.slice_of_oneByte hone (by omega) (by omega), List.drop_take, Nat.mul_comm index 2,
      List.drop_eq_getElem_cons (by omega), List.drop_eq_getElem_cons (by omega),
      show 2 * index + 2 - 2 * index = 2 by omega, List.take_succ_cons, List.take_succ_cons, List.take_zero]
  obtain ⟨high, hhigh⟩ := digitValue_of_isAsciiHexdigit (hdigits _ (List.getElem_mem (by omega : 2 * index < _)))
  obtain ⟨low, hlow⟩ := digitValue_of_isAsciiHexdigit (hdigits _ (List.getElem_mem (by omega : 2 * index + 1 < _)))
  refine ⟨UInt8.ofNat (16 * high + low), ?_, high, low, ?_, ?_, ?_⟩
  · have hsome : (ExceptT.lift (some [input.toList[2 * index], input.toList[2 * index + 1]]) : MayPanic (List Char)) =
        pure [input.toList[2 * index], input.toList[2 * index + 1]] := rfl
    rw [decodeByte, hslice, hsome, pure_bind, u8FromStrRadix_pair hhigh hlow]
  · rw [digitAt, List.getElem?_eq_getElem (by omega), Option.bind_some, hhigh]
  · rw [digitAt, List.getElem?_eq_getElem (by omega), Option.bind_some, hlow]
  · have hlthigh := digitValue_lt hhigh
    have hltlow := digitValue_lt hlow
    exact UInt8.toNat_ofNat_of_lt' (show 16 * high + low < 256 by omega)

/-- The loop has read the bytes below its counter. -/
theorem decodeHex32_of_digits : ∃ bytes, decodeHex32 input = pure bytes ∧ Spells input.toList bytes := by
  have hstep : ∀ k < 32, ∀ bytes : Vector UInt8 32, SpelledBelow input.toList k bytes → ∃ bytes', (do
      let byte ← decodeByte input k
      return bytes.setIfInBounds k byte : MayPanic (Vector UInt8 32)) = pure bytes' ∧
        SpelledBelow input.toList (k + 1) bytes' := by
    intro k hk bytes hbytes
    obtain ⟨byte, hdecode, hbyte⟩ := decodeByte_of_digits hlength hdigits hk
    exact ⟨bytes.setIfInBounds k byte, by rw [hdecode, pure_bind], hbytes.write hbyte⟩
  obtain ⟨bytes, hloop, hbytes⟩ := foldlM_range (SpelledBelow input.toList) hstep
    (SpelledBelow.zero input.toList (Vector.replicate 32 0))
  refine ⟨bytes, ?_, hbytes.spells hlength⟩
  rw [decodeHex32, if_neg (by rw [utf8ByteSize_of_isAsciiHexdigit hdigits, hlength]; decide)]
  exact hloop

end Accepted

-- In other texts a sign is taken for a digit, and a character across an offset makes the
-- decoder panic.
example : decodeByte "+f" 0 = pure 15 := rfl
example : (decodeHex32 "0é0000000000000000000000000000000000000000000000000000000000000").run = none := rfl

/-! ### The keys of configurations -/

/-- The key of a configuration is sixty-four hexadecimal digits. -/
theorem keyHex_digits {profile : VpnProfile} {config : OlcRtcConfig}
    (h : OlcRtcConfig.fromProfile profile = .ok config) :
    config.keyHex.toList.length = 64 ∧ ∀ c ∈ config.keyHex.toList, isAsciiHexdigit c = true := by
  obtain ⟨-, -, key, -, ⟨hsize, hall⟩, rfl⟩ := OlcRtcConfig.fromProfile_eq_ok_iff.mp h
  have hdigits := List.all_eq_true.mp hall
  exact ⟨by rw [← utf8ByteSize_of_isAsciiHexdigit hdigits, hsize], hdigits⟩

theorem keyHex_decodes {profile : VpnProfile} {config : OlcRtcConfig}
    (h : OlcRtcConfig.fromProfile profile = .ok config) :
    ∃ bytes, decodeHex32 config.keyHex = pure bytes ∧ Spells config.keyHex.toList bytes :=
  decodeHex32_of_digits (keyHex_digits h).1 (keyHex_digits h).2

theorem toLower_eq_iff {s t : String} :
    s.toLower = t.toLower ↔ s.toList.map Char.toLower = t.toList.map Char.toLower := by
  show s.map Char.toLower = t.map Char.toLower ↔ _
  rw [← String.toList_inj, String.toList_map, String.toList_map]

/-- Two accepted keys decode, each digit by digit, and to the same bytes exactly when they
are the same up to the case of letters. -/
theorem accepted_keys_decode {profile profile' : VpnProfile} {config config' : OlcRtcConfig}
    (h : OlcRtcConfig.fromProfile profile = .ok config) (h' : OlcRtcConfig.fromProfile profile' = .ok config') :
    ∃ bytes bytes', (decodeHex32 config.keyHex = pure bytes ∧ Spells config.keyHex.toList bytes) ∧
      (decodeHex32 config'.keyHex = pure bytes' ∧ Spells config'.keyHex.toList bytes') ∧
      (bytes = bytes' ↔ config.keyHex.toLower = config'.keyHex.toLower) := by
  obtain ⟨bytes, hdecode, hspells⟩ := keyHex_decodes h
  obtain ⟨bytes', hdecode', hspells'⟩ := keyHex_decodes h'
  refine ⟨bytes, bytes', ⟨hdecode, hspells⟩, ⟨hdecode', hspells'⟩, ?_⟩
  rw [hspells.eq_iff_toLower hspells', toLower_eq_iff]

def smallLetters : String := "000102030405060708090a0b0c0d0e0f101112131415161718191a1b1c1d1e1f"

def capitalLetters : String := "000102030405060708090A0B0C0D0E0F101112131415161718191A1B1C1D1E1F"

/-- A room with a key as its password. -/
def passwordProfile : VpnProfile where
  id := 1
  name := "Room"
  protocol := .olcRtc
  server := "room"
  port := 443
  auth := { password := some smallLetters }

/-- The room with a key among its extra data. -/
def extraProfile : VpnProfile := { passwordProfile with extra := [("key", .string capitalLetters)] }

/-- The keys of the two profiles are the same bytes. -/
theorem keys_of_either_case_decode : ∃ bytes, decodeHex32 smallLetters = pure bytes ∧
    decodeHex32 capitalLetters = pure bytes ∧ Spells smallLetters.toList bytes := by
  obtain ⟨config, hconfig, hkey⟩ : ∃ config, OlcRtcConfig.fromProfile passwordProfile = .ok config ∧
    config.keyHex = smallLetters := ⟨_, rfl, rfl⟩
  obtain ⟨config', hconfig', hkey'⟩ : ∃ config, OlcRtcConfig.fromProfile extraProfile = .ok config ∧
    config.keyHex = capitalLetters := ⟨_, rfl, rfl⟩
  obtain ⟨bytes, bytes', ⟨hdecode, hspells⟩, ⟨hdecode', -⟩, hiff⟩ := accepted_keys_decode hconfig hconfig'
  rw [hkey] at hdecode hspells hiff
  rw [hkey'] at hdecode' hiff
  obtain rfl := hiff.mpr (toLower_eq_iff.mpr (by decide))
  exact ⟨bytes, hdecode, hdecode', hspells⟩

end TauriVpn.Olcrtc
