import TauriVpn.Import.Shadowsocks

/-! Shadowsocks links with the method and the password in base64, before a host that is not.
The URL parser writes this part first and the importer decodes what comes back, so the
padding that the importer takes never reaches it. -/

namespace TauriVpn.Import

open FormUrlencoded Userinfo

namespace ShadowsocksServer

/-- The credentials in base64, and the host. -/
def encodedMain (server : ShadowsocksServer) : String :=
  server.address (Base64.encode .urlSafe (utf8 server.credentials))

/-- The same with padding. -/
def paddedMain (server : ShadowsocksServer) : String :=
  server.address (Base64.encodePadded .urlSafe (utf8 server.credentials))

section Encoded
variable {crates : Crates} {server : ShadowsocksServer}

theorem address_not_nested {userinfo : String} (h : ':' ∉ userinfo.toList) :
    ¬"ss://".toList <+: (server.address userinfo).toList := by
  intro hnested
  obtain ⟨htake, -⟩ := of_nested hnested
  have hall : ∀ d ∈ userinfo.toList, decide (d ≠ ':') = true := fun d hd => by
    simpa using fun heq : d = ':' => h (heq ▸ hd)
  rw [toList_address, List.takeWhile_append_of_pos hall, List.takeWhile_cons_of_pos (by decide)] at htake
  have hmem : '@' ∈ ['s', 's'] := by
    rw [← htake]
    exact List.mem_append_right _ List.mem_cons_self
  exact absurd hmem (by decide)

/-- A user part without a colon is decoded as the parser writes it. -/
theorem isImported_address {userinfo : String} (hcolon : ':' ∉ userinfo.toList) (hhash : '#' ∉ userinfo.toList)
    (hurl : crates.parseUrl ("ss://" ++ server.address userinfo) = .ok (server.url userinfo "")) (id : Uuid) :
    server.IsImported crates id ("ss://" ++ server.address userinfo) ↔
      decodeBase64 crates (parsed userinfo) >>= textOf crates "invalid shadowsocks credentials: " =
        .ok server.credentials := by
  have hempty : parsed "" = "" := parsed_eq_self_iff.mpr (by decide)
  rw [isImported_iff (server.address_ne _) (server.address_last _) (address_not_nested hcolon)
    (server.address_fragment hhash) (server.shadowsocksMain_address _) hurl id, userinfo_of_no_password hempty]

/-- The parser keeps every digit of the URL-safe alphabet. -/
theorem parsed_encode (bytes : List UInt8) : parsed (Base64.encode .urlSafe bytes) = Base64.encode .urlSafe bytes := by
  have hdigits : ∀ n < 64, (String.utf8EncodeChar (Base64.Alphabet.urlSafe.digit n)).all isUserinfoByte = true := by
    decide
  refine parsed_eq_self_iff.mpr fun b hb => ?_
  obtain ⟨c, hc, hbyte⟩ := List.mem_flatMap.mp hb
  rw [toList_encode] at hc
  have hchar := Base64.forall_mem_encodeChars (p := fun c => (String.utf8EncodeChar c).all isUserinfoByte = true) hdigits
    bytes c hc
  exact List.all_eq_true.mp hchar b hbyte

variable (hdecodes : crates.DecodesBase64)
include hdecodes

theorem encoded_isImported
    (hurl : crates.parseUrl ("ss://" ++ server.encodedMain) =
      .ok (server.url (Base64.encode .urlSafe (utf8 server.credentials)) "")) (id : Uuid) :
    server.IsImported crates id ("ss://" ++ server.encodedMain) := by
  have hplain := encode_plain .urlSafe (utf8 server.credentials)
  refine (isImported_address (fun hmem => (hplain ':' hmem).2.2.1 rfl) (fun hmem => (hplain '#' hmem).2.1 rfl) hurl id).mpr ?_
  rw [parsed_encode, Succeeds.bind_of_eq_ok (decodeBase64_encode hdecodes _ _), textOf_utf8]

/-- With padding they are read back just when there is none: the parser writes each `=` as
`%3D`. -/
theorem padded_isImported_iff
    (hurl : crates.parseUrl ("ss://" ++ server.paddedMain) =
      .ok (server.url (Base64.encodePadded .urlSafe (utf8 server.credentials)) "")) (id : Uuid) :
    server.IsImported crates id ("ss://" ++ server.paddedMain) ↔ 3 ∣ (utf8 server.credentials).length := by
  rw [← Base64.padding_eq_nil_iff]
  constructor
  · intro h
    have hchars : (Base64.encodePadded .urlSafe (utf8 server.credentials)).toList =
        Base64.encodeChars .urlSafe (utf8 server.credentials) ++ Base64.padding (utf8 server.credentials) :=
      String.toList_ofList
    have hplain := encode_plain .urlSafe (utf8 server.credentials)
    rw [toList_encode] at hplain
    have hnone : ∀ d : Char, d ≠ '=' → (∀ c ∈ Base64.encodeChars .urlSafe (utf8 server.credentials), c ≠ d) →
        d ∉ (Base64.encodePadded .urlSafe (utf8 server.credentials)).toList := by
      intro d hd hdigits hmem
      rw [hchars] at hmem
      obtain hdigit | hpad := List.mem_append.mp hmem
      · exact hdigits d hdigit rfl
      · exact hd (List.eq_of_mem_replicate hpad)
    rw [paddedMain, isImported_address (hnone ':' (by decide) fun c hc => (hplain c hc).2.2.1)
      (hnone '#' (by decide) fun c hc => (hplain c hc).2.1) hurl id] at h
    obtain ⟨bytes, hbytes, -⟩ := Succeeds.bind_eq_ok h
    have hkept := kept_withoutBreaks (no_percent_of_decodeBase64 hdecodes hbytes)
    have hequals : '=' ∉ (Base64.encodePadded .urlSafe (utf8 server.credentials)).toList := by
      have hfiltered := hkept.notMem (c := '=') (by decide) (by decide)
      rw [withoutBreaks, String.toList_ofList] at hfiltered
      exact fun hmem => hfiltered (List.mem_filter.mpr ⟨hmem, by decide⟩)
    refine List.eq_nil_iff_forall_not_mem.mpr fun c hc => hequals ?_
    rw [hchars, ← List.eq_of_mem_replicate hc]
    exact List.mem_append_right _ hc
  · intro hnil
    have hsame : Base64.encodePadded .urlSafe (utf8 server.credentials) =
        Base64.encode .urlSafe (utf8 server.credentials) := by
      rw [Base64.encodePadded, hnil, List.append_nil]
      rfl
    have hmain : server.paddedMain = server.encodedMain := by
      rw [paddedMain, hsame]
      rfl
    rw [hmain, hsame] at hurl
    rw [hmain]
    exact encoded_isImported hdecodes hurl id

/-- Base64 without padding is always read back, and base64 with padding just when its length
asks for none. -/
theorem base64_imported_iff
    (hurl : crates.parseUrl ("ss://" ++ server.encodedMain) =
      .ok (server.url (Base64.encode .urlSafe (utf8 server.credentials)) ""))
    (hpadded : crates.parseUrl ("ss://" ++ server.paddedMain) =
      .ok (server.url (Base64.encodePadded .urlSafe (utf8 server.credentials)) ""))
    (id : Uuid) :
    server.IsImported crates id ("ss://" ++ server.encodedMain) ∧
      (server.IsImported crates id ("ss://" ++ server.paddedMain) ↔ 3 ∣ (utf8 server.credentials).length) :=
  ⟨encoded_isImported hdecodes hurl id, padded_isImported_iff hdecodes hpadded id⟩

end Encoded

end ShadowsocksServer

/-! ### Sixteen bytes and eighteen -/

section Sample
variable (server : ShadowsocksServer)

/-- The libraries, as far as the link with padding needs them. -/
def paddedCrates : Crates := tableCrates
  [("ss://" ++ server.paddedMain, server.url (Base64.encodePadded .urlSafe (utf8 server.credentials)) "")] []

theorem paddedCrates_parseUrl : (paddedCrates server).parseUrl ("ss://" ++ server.paddedMain) =
    .ok (server.url (Base64.encodePadded .urlSafe (utf8 server.credentials)) "") := by
  rw [paddedCrates, tableCrates_parseUrl List.lookup_cons_self]

theorem paddedCrates_decodesBase64 : (paddedCrates server).DecodesBase64 := tableCrates_decodesBase64 _ _

/-- Credentials that need no padding are the same with it. -/
theorem paddedCrates_encoded (h : Base64.padding (utf8 server.credentials) = []) :
    (paddedCrates server).parseUrl ("ss://" ++ server.encodedMain) =
      .ok (server.url (Base64.encode .urlSafe (utf8 server.credentials)) "") := by
  have hpadded := paddedCrates_parseUrl server
  have hsame : Base64.encodePadded .urlSafe (utf8 server.credentials) =
      Base64.encode .urlSafe (utf8 server.credentials) := by
    rw [Base64.encodePadded, h, List.append_nil]
    rfl
  rw [ShadowsocksServer.paddedMain, hsame, ← ShadowsocksServer.encodedMain] at hpadded
  exact hpadded

end Sample

/-- Eighteen bytes need no padding. -/
theorem base64_imported_eighteen :
    (sampleShadowsocks "secret").IsImported (paddedCrates (sampleShadowsocks "secret")) 1
        ("ss://" ++ (sampleShadowsocks "secret").encodedMain) ∧
      (sampleShadowsocks "secret").IsImported (paddedCrates (sampleShadowsocks "secret")) 1
        ("ss://" ++ (sampleShadowsocks "secret").paddedMain) := by
  have hlength : (utf8 (sampleShadowsocks "secret").credentials).length = 18 := by decide
  have hdivides : 3 ∣ (utf8 (sampleShadowsocks "secret").credentials).length := by
    rw [hlength]
    decide
  have himported := ShadowsocksServer.base64_imported_iff (paddedCrates_decodesBase64 _)
    (paddedCrates_encoded _ ((Base64.padding_eq_nil_iff _).mpr hdivides)) (paddedCrates_parseUrl _) 1
  exact ⟨himported.1, himported.2.mpr hdivides⟩

/-- Sixteen bytes do, and are refused with it. -/
theorem padding_refused : ¬(sampleShadowsocks "pass").IsImported (paddedCrates (sampleShadowsocks "pass")) 1
    ("ss://" ++ (sampleShadowsocks "pass").paddedMain) := by
  have hlength : (utf8 (sampleShadowsocks "pass").credentials).length = 16 := by decide
  rw [ShadowsocksServer.padded_isImported_iff (paddedCrates_decodesBase64 _) (paddedCrates_parseUrl _), hlength]
  decide

end TauriVpn.Import
