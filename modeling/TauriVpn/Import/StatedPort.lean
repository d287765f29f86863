import TauriVpn.Import.Shadowsocks

/-! Is the port that a link states the port of its profile? A URL hides the port that its
scheme has by default, and the importer has other defaults; the port of a VMess object is a
number cut to sixteen bits, or a text that is dropped when it does not fit. -/

namespace TauriVpn.Import

open FormUrlencoded

/-! ### Ports of URLs -/

/-- The default ports of the URL standard. -/
def schemePort : String → Option UInt16
  | "http" | "ws" => some 80
  | "https" | "wss" => some 443
  | "ftp" => some 21
  | _ => none

/-- The port of a URL whose text states one. -/
def visiblePort (scheme : String) (n : UInt16) : Option UInt16 := if schemePort scheme = some n then none else some n

/-! ### What an input states -/

/-- The number that a finite double is; a JSON text has no others. -/
def doubleValue (bits : UInt64) : ℚ :=
  let exponent : ℕ := bits.toNat / 2 ^ 52 % 2 ^ 11
  let fraction : ℕ := bits.toNat % 2 ^ 52
  let magnitude : ℚ :=
    if exponent = 0 then fraction * (2 : ℚ) ^ (-1074 : ℤ)
    else (2 ^ 52 + fraction : ℕ) * (2 : ℚ) ^ ((exponent : ℤ) - 1075)
  if bits.toNat / 2 ^ 63 = 1 then -magnitude else magnitude

/-- A port as it stands in a URL, or in a VMess object as a number or a text of digits. -/
inductive StatedPort where
  | uri (url : Url) (n : UInt16)
  | shadowsocks (url : Url) (n : UInt16)
  | number (json : Value) (n : ℤ)
  | float (json : Value) (bits : UInt64)
  | text (json : Value) (digits : String)

/-- The input is read so that it states this port. -/
inductive States (crates : Crates) (input : String) : StatedPort → Prop where
  | uri (url : Url) (n : UInt16) (hreads : Reads crates input (.uri url))
      (hport : url.port = visiblePort url.scheme n) : States crates input (.uri url n)
  | shadowsocks (decoded : String) (url : Url) (n : UInt16) (hscheme : startsWith (trim input) "ss://" = true)
      (hdecoded : shadowsocksMain crates (mainOf (trim input)) = .ok decoded)
      (hurl : crates.parseUrl ("ss://" ++ decoded) = .ok url) (hport : url.port = visiblePort "ss" n) :
      States crates input (.shadowsocks url n)
  | number (json : Value) (n : ℤ) (hreads : Reads crates input (.vmess json))
      (hport : json.get "port" = .number n) : States crates input (.number json n)
  | float (json : Value) (bits : UInt64) (hreads : Reads crates input (.vmess json))
      (hport : json.get "port" = .float bits) : States crates input (.float json bits)
  | text (json : Value) (digits : String) (hreads : Reads crates input (.vmess json))
      (hport : json.get "port" = .string digits) (hne : digits ≠ "")
      (hdigits : ∀ c ∈ digits.toList, isAsciiDigit c = true) : States crates input (.text json digits)

/-- A number that is a port. -/
def IsPort (v : ℚ) : Prop := ∃ n : ℕ, v = n ∧ 0 < n ∧ n < 65536

/-- A VMess object whose profile is refused whatever its port. -/
def Unusable (json : Value) : Prop :=
  isBlank ((json.get "ps").asStr.getD "VMess") = true ∨ isBlank ((json.get "add").asStr.getD "") = true ∨
    Protocols.isMissing (json.get "id").asStr

namespace StatedPort

def value : StatedPort → ℚ
  | .uri _ n | .shadowsocks _ n => n.toNat
  | .number _ n => n
  | .float _ bits => doubleValue bits
  | .text _ digits => digitsValue digits.toList

/-- The profile has the port that is stated; where that is none, the profile is refused. -/
def Kept (stated : StatedPort) (profile : VpnProfile) : Prop :=
  (IsPort stated.value → (profile.port.toNat : ℚ) = stated.value) ∧
    (¬IsPort stated.value → (Protocols.validate profile).valid = false)

/-- The scheme does not hide the port; the number fits sixteen bits, or is cut to zero, or the
object is refused anyway. -/
def Fits : StatedPort → Prop
  | .uri url n => schemePort url.scheme ≠ some n
  | .shadowsocks _ _ => True
  | .number json n => 0 ≤ n ∧ n < 65536 ∨ (0 ≤ n ∧ n < 2 ^ 64 ∧ 65536 ∣ n) ∨ Unusable json
  | .float json bits => doubleValue bits = 443 ∨ ¬IsPort (doubleValue bits) ∧ Unusable json
  | .text json digits => digitsValue digits.toList < 65536 ∨ Unusable json

end StatedPort

/-! ### What is kept -/

theorem isPort_natCast {n : ℕ} : IsPort n ↔ 0 < n ∧ n < 65536 := by
  constructor
  · rintro ⟨m, hm, hpos, hlt⟩
    obtain rfl : n = m := by exact_mod_cast hm
    exact ⟨hpos, hlt⟩
  · exact fun h => ⟨n, rfl, h⟩

theorem isPort_intCast {n : ℤ} : IsPort n ↔ 0 < n ∧ n < 65536 := by
  constructor
  · rintro ⟨m, hm, hpos, hlt⟩
    obtain rfl : n = m := by exact_mod_cast hm
    omega
  · rintro ⟨hpos, hlt⟩
    refine ⟨n.toNat, ?_, by omega, by omega⟩
    have hcast : ((n.toNat : ℤ) : ℚ) = n := by rw [Int.toNat_of_nonneg (by omega)]
    exact_mod_cast hcast.symm

theorem invalid_of_port_zero {profile : VpnProfile} (h : profile.port = 0) : (Protocols.validate profile).valid = false := by
  rw [← Bool.not_eq_true, Protocols.validate_valid]
  exact fun hvalid => hvalid.1.2.2 h

/-- A profile with the port that is stated is right, a zero included. -/
theorem kept_of_port {stated : StatedPort} {profile : VpnProfile} (h : stated.value = profile.port.toNat) :
    stated.Kept profile := by
  refine ⟨fun _ => h.symm, fun hnot => invalid_of_port_zero ?_⟩
  rw [h, isPort_natCast] at hnot
  have hlt := profile.port.toNat_lt
  exact UInt16.toNat_inj.mp (by rw [UInt16.toNat_zero]; omega)

/-- A stated number that is no port asks for a profile that is refused. -/
theorem kept_of_not_port {stated : StatedPort} {profile : VpnProfile} (h : ¬IsPort stated.value) :
    stated.Kept profile ↔ (Protocols.validate profile).valid = false :=
  ⟨fun hkept => hkept.2 h, fun hinvalid => ⟨fun hport => absurd hport h, fun _ => hinvalid⟩⟩

section Vmess
variable {json : Value} {id : Uuid}

/-- A VMess profile is refused for its port, or whatever its port. -/
theorem vmess_invalid_iff : (Protocols.validate (vmessProfile id json)).valid = false ↔
    vmessPort (json.get "port") = 0 ∨ Unusable json := by
  rw [← Bool.not_eq_true, Protocols.validate_valid]
  constructor
  · intro h
    by_contra hnot
    rw [Unusable, not_or, not_or, not_or] at hnot
    obtain ⟨hport, hname, hserver, hid⟩ := hnot
    exact h ⟨⟨eq_false_of_ne_true hname, eq_false_of_ne_true hserver, hport⟩, hid, fun hreality => nomatch hreality⟩
  · rintro hrefused ⟨⟨hname, hserver, hport⟩, hid, -⟩
    obtain hzero | hblank | hblank | hmissing := hrefused
    · exact hport hzero
    · exact absurd hblank (ne_true_of_eq_false hname)
    · exact absurd hblank (ne_true_of_eq_false hserver)
    · exact hid hmissing

/-- The port of a number is the number, cut to sixteen bits if it has sixty-four. -/
theorem vmessPort_number {n : ℤ} (h : json.get "port" = .number n) : (vmessPort (json.get "port")).toNat =
    if 0 ≤ n ∧ n < 2 ^ 64 then n.toNat % 65536 else 443 := by
  rw [h]
  simp only [vmessPort, Value.asStr, Option.bind_none, Option.none_or]
  split_ifs with hrange
  · rw [Option.getD_some, UInt16.toNat_ofNat']
  · rfl

theorem vmessPort_float {bits : UInt64} (h : json.get "port" = .float bits) : vmessPort (json.get "port") = 443 := by
  rw [h]
  rfl

/-- The port of a text of digits is its number, if that fits. -/
theorem vmessPort_text {digits : String} (h : json.get "port" = .string digits) (hne : digits ≠ "")
    (hdigits : ∀ c ∈ digits.toList, isAsciiDigit c = true) : (vmessPort (json.get "port")).toNat =
      if digitsValue digits.toList < 65536 then digitsValue digits.toList else 443 := by
  have hplus : ∀ rest, digits.toList ≠ '+' :: rest := fun rest hcons => by
    have hdigit := hdigits '+' (by rw [hcons]; exact List.mem_cons_self)
    exact absurd hdigit (by decide)
  have hparse : parseU16 digits =
      if digitsValue digits.toList < 65536 then some (UInt16.ofNat (digitsValue digits.toList)) else none := by
    unfold parseU16
    split
    case _ rest hcons => exact absurd hcons (hplus rest)
    case _ =>
      have hnonempty : digits.toList.isEmpty = false := by simpa using hne
      have hall : digits.toList.all isAsciiDigit = true := List.all_eq_true.mpr hdigits
      simp only [hnonempty, hall, Bool.not_true, Bool.or_false, Bool.false_eq_true, if_false]
  rw [h]
  simp only [vmessPort, Value.asStr, Option.bind_some, hparse]
  split_ifs with hfits
  · rw [Option.some_or, Option.getD_some, UInt16.toNat_ofNat', Nat.mod_eq_of_lt hfits]
  · rfl

end Vmess

section Import
variable {crates : Crates} {id : Uuid} {input : String} {imported : ImportedServer}
  (himport : importServer crates id input = .ok imported)
include himport

/-- The port of a URL is kept unless the scheme hides it. -/
theorem uri_kept_iff {url : Url} {n : UInt16} (hreads : Reads crates input (.uri url))
    (hport : url.port = visiblePort url.scheme n) :
    (StatedPort.uri url n).Kept imported.profile ↔ (StatedPort.uri url n).Fits := by
  obtain ⟨protocol, server, hprotocol, -, hprofile⟩ := (profileOfUrl_eq_ok_iff crates).mp (hreads.profile_eq himport)
  have hstated : imported.profile.port = (visiblePort url.scheme n).getD (defaultPort protocol) := by
    rw [hprofile, ← hport]
  by_cases hhidden : schemePort url.scheme = some n
  · rw [visiblePort, if_pos hhidden, Option.getD_none] at hstated
    refine iff_of_false (fun hkept => ?_) fun hfits => hfits hhidden
    -- only the two schemes of the web are schemes of links as well
    have hweb : protocol = .http ∧ (n = 80 ∨ n = 443) := by
      unfold schemePort at hhidden
      split at hhidden
      case _ heq =>
        rw [heq] at hprotocol
        exact ⟨(Except.ok.inj hprotocol).symm, .inl (Option.some.inj hhidden).symm⟩
      case _ heq =>
        rw [heq] at hprotocol
        cases hprotocol
      case _ heq =>
        rw [heq] at hprotocol
        exact ⟨(Except.ok.inj hprotocol).symm, .inr (Option.some.inj hhidden).symm⟩
      case _ heq =>
        rw [heq] at hprotocol
        cases hprotocol
      case _ heq =>
        rw [heq] at hprotocol
        cases hprotocol
      case _ => cases hhidden
    obtain ⟨rfl, hn⟩ := hweb
    have hsame := hkept.1 (isPort_natCast.mpr (by obtain rfl | rfl := hn <;> decide))
    rw [hstated] at hsame
    have hnat : (defaultPort .http).toNat = n.toNat := Nat.cast_injective hsame
    obtain rfl | rfl := hn <;> exact absurd hnat (by decide)
  · rw [visiblePort, if_neg hhidden, Option.getD_some] at hstated
    exact iff_of_true (kept_of_port (by rw [hstated]; rfl)) hhidden

/-- The port of a Shadowsocks link is kept. -/
theorem shadowsocks_kept {decoded : String} {url : Url} {n : UInt16} (hscheme : startsWith (trim input) "ss://" = true)
    (hdecoded : shadowsocksMain crates (mainOf (trim input)) = .ok decoded)
    (hurl : crates.parseUrl ("ss://" ++ decoded) = .ok url) (hport : url.port = visiblePort "ss" n) :
    (StatedPort.shadowsocks url n).Kept imported.profile := by
  have hprofile := importServer_eq_ok crates himport
  have hvmess : startsWith (trim input) "vmess://" = false := by
    rw [← Bool.not_eq_true, startsWith, List.isPrefixOf_iff_prefix]
    rw [startsWith, List.isPrefixOf_iff_prefix] at hscheme
    intro hbegins
    exact absurd (List.prefix_or_prefix_of_prefix hbegins hscheme) (by decide)
  rw [if_neg (by rw [hvmess]; decide), if_pos hscheme] at hprofile
  obtain ⟨userinfo, method, password, -, -, hfields⟩ := (parseShadowsocks_eq_ok_iff hdecoded hurl).mp hprofile
  refine kept_of_port ?_
  rw [hfields, hport]
  rfl

/-- A number is kept when it fits, and otherwise when its profile is refused. -/
theorem number_kept_iff {json : Value} {n : ℤ} (hreads : Reads crates input (.vmess json))
    (hport : json.get "port" = .number n) :
    (StatedPort.number json n).Kept imported.profile ↔ (StatedPort.number json n).Fits := by
  have hprofile : imported.profile = vmessProfile id json := hreads.profile_eq himport
  have hcut := vmessPort_number hport
  have hstated : imported.profile.port = vmessPort (json.get "port") := by
    rw [hprofile]
    rfl
  by_cases hfits : 0 ≤ n ∧ n < 65536
  · refine iff_of_true (kept_of_port ?_) (.inl hfits)
    rw [if_pos ⟨hfits.1, by omega⟩, Nat.mod_eq_of_lt (by omega)] at hcut
    have hcast : (((vmessPort (json.get "port")).toNat : ℤ) : ℚ) = n := by
      rw [hcut, Int.toNat_of_nonneg hfits.1]
    rw [hstated]
    change (n : ℚ) = _
    exact_mod_cast hcast.symm
  · have hnot : ¬IsPort (StatedPort.number json n).value := fun h => by
      have hrange := isPort_intCast.mp h
      omega
    rw [kept_of_not_port hnot, hprofile, vmess_invalid_iff, StatedPort.Fits, or_iff_right hfits]
    refine or_congr_left ?_
    rw [← UInt16.toNat_inj, hcut, UInt16.toNat_zero]
    by_cases hrange : 0 ≤ n ∧ n < 2 ^ 64
    · rw [if_pos hrange]
      omega
    · rw [if_neg hrange]
      exact iff_of_false (by decide) fun h => hrange ⟨h.1, h.2.1⟩

/-- A double gives the default port. -/
theorem float_kept_iff {json : Value} {bits : UInt64} (hreads : Reads crates input (.vmess json))
    (hport : json.get "port" = .float bits) :
    (StatedPort.float json bits).Kept imported.profile ↔ (StatedPort.float json bits).Fits := by
  have hprofile : imported.profile = vmessProfile id json := hreads.profile_eq himport
  have hstated : imported.profile.port = 443 := by
    rw [hprofile]
    exact vmessPort_float hport
  by_cases hvalue : IsPort (doubleValue bits)
  · have hno : ¬(¬IsPort (doubleValue bits) ∧ Unusable json) := fun h => h.1 hvalue
    rw [StatedPort.Fits, or_iff_left hno]
    constructor
    · intro hkept
      have hsame := hkept.1 hvalue
      rw [hstated] at hsame
      exact hsame.symm
    · intro h443
      refine kept_of_port ?_
      rw [hstated]
      exact h443
  · have hne : doubleValue bits ≠ 443 := fun h443 => hvalue ⟨443, by exact_mod_cast h443, by decide, by decide⟩
    have hzero : vmessPort (json.get "port") ≠ 0 := by
      rw [vmessPort_float hport]
      decide
    have hnot : ¬IsPort (StatedPort.float json bits).value := hvalue
    rw [kept_of_not_port hnot, hprofile, vmess_invalid_iff, StatedPort.Fits, or_iff_right hzero, or_iff_right hne,
      and_iff_right hvalue]

/-- A text of digits is kept when its number fits, and otherwise when its profile is refused. -/
theorem text_kept_iff {json : Value} {digits : String} (hreads : Reads crates input (.vmess json))
    (hport : json.get "port" = .string digits) (hne : digits ≠ "") (hdigits : ∀ c ∈ digits.toList, isAsciiDigit c = true) :
    (StatedPort.text json digits).Kept imported.profile ↔ (StatedPort.text json digits).Fits := by
  have hprofile : imported.profile = vmessProfile id json := hreads.profile_eq himport
  have hread := vmessPort_text hport hne hdigits
  have hstated : imported.profile.port = vmessPort (json.get "port") := by
    rw [hprofile]
    rfl
  by_cases hfits : digitsValue digits.toList < 65536
  · rw [if_pos hfits] at hread
    refine iff_of_true (kept_of_port ?_) (.inl hfits)
    rw [hstated, hread]
    rfl
  · rw [if_neg hfits] at hread
    have hnot : ¬IsPort (StatedPort.text json digits).value := fun h => hfits (isPort_natCast.mp h).2
    have hzero : vmessPort (json.get "port") ≠ 0 := fun hzero => by
      rw [hzero] at hread
      exact absurd hread (by decide)
    rw [kept_of_not_port hnot, hprofile, vmess_invalid_iff, StatedPort.Fits, or_iff_right hzero, or_iff_right hfits]

/-- Exactly when the port that an accepted input states is the port of its profile. -/
theorem port_kept_iff {stated : StatedPort} (hstates : States crates input stated) :
    stated.Kept imported.profile ↔ stated.Fits := by
  cases hstates with
  | uri url n hreads hport => exact uri_kept_iff himport hreads hport
  | shadowsocks decoded url n hscheme hdecoded hurl hport =>
    exact iff_of_true (shadowsocks_kept himport hscheme hdecoded hurl hport) trivial
  | number json n hreads hport => exact number_kept_iff himport hreads hport
  | float json bits hreads hport => exact float_kept_iff himport hreads hport
  | text json digits hreads hport hne hdigits => exact text_kept_iff himport hreads hport hne hdigits

end Import

/-! ### Ports that are stated -/

def trojanServer : Url where
  scheme := "trojan"
  username := "secret"
  host := some "trojan.example.com"
  port := some 8443

/-- A proxy at the port of its scheme, which the URL hides. -/
def webProxy : Url where
  scheme := "http"
  host := some "proxy.example.com"
  path := "/"

/-- A VMess server with a port that has no place in sixteen bits. -/
def vmessServer : Value :=
  .object [("add", .string "vmess.example.com"), ("id", .string "44444444-4444-4444-8444-444444444444"),
    ("port", .number 70000)]

def vmessText : String := "\x7b\"add\":\"vmess.example.com\",\"id\":\"44444444-4444-4444-8444-444444444444\",\"port\":70000\x7d"

def vmessLink : String := "vmess://" ++ Base64.encode .standard (utf8 vmessText)

def portCrates : Crates := tableCrates
  [("trojan://secret@trojan.example.com:8443", trojanServer), ("http://proxy.example.com:80", webProxy)]
  [(vmessText, vmessServer)]

theorem trojanServer_reads : Reads portCrates "trojan://secret@trojan.example.com:8443" (.uri trojanServer) ∧
    trim "trojan://secret@trojan.example.com:8443" ≠ "" := by
  have htrim : trim "trojan://secret@trojan.example.com:8443" = "trojan://secret@trojan.example.com:8443" := by
    decide +kernel
  have hscheme : IsUrlScheme "trojan" := by decide
  refine reads_of_scheme hscheme (by decide) ?_
  rw [htrim, portCrates, tableCrates_parseUrl List.lookup_cons_self]

theorem webProxy_reads : Reads portCrates "http://proxy.example.com:80" (.uri webProxy) ∧
    trim "http://proxy.example.com:80" ≠ "" := by
  have htrim : trim "http://proxy.example.com:80" = "http://proxy.example.com:80" := by decide +kernel
  have hscheme : IsUrlScheme "http" := by decide
  have hne : ("http://proxy.example.com:80" == "trojan://secret@trojan.example.com:8443") = false := by decide +kernel
  have hlookup : [("trojan://secret@trojan.example.com:8443", trojanServer),
      ("http://proxy.example.com:80", webProxy)].lookup "http://proxy.example.com:80" = some webProxy := by
    rw [List.lookup_cons, hne]
    exact List.lookup_cons_self
  refine reads_of_scheme hscheme (by decide) ?_
  rw [htrim, portCrates, tableCrates_parseUrl hlookup]

/-- A VMess link is the JSON text of its object in base64. -/
theorem reads_vmess {crates : Crates} (hdecodes : crates.DecodesBase64) (a : Base64.Alphabet) {bytes : List UInt8}
    (hne : bytes ≠ []) {json : Value} (hjson : crates.parseJson bytes = .ok json) :
    Reads crates ("vmess://" ++ Base64.encode a bytes) (.vmess json) := by
  have hplain := ShadowsocksServer.encode_plain a bytes
  have hnested : ¬"vmess://".toList <+: (Base64.encode a bytes).toList := fun hbegins =>
    (hplain ':' (hbegins.subset (by decide))).2.2.1 rfl
  have htrim : trim ("vmess://" ++ Base64.encode a bytes) = "vmess://" ++ Base64.encode a bytes :=
    trim_append (by decide) (isWhitespace_of_all (by decide)) (ShadowsocksServer.encode_ne a hne)
      fun c hc => (hplain c (List.mem_of_getLast? hc)).1
  refine .vmess bytes json ?_ ?_ hjson
  · rw [htrim]
    exact startsWith_append _ _
  · rw [htrim, trimStartMatches_append hnested]
    exact decodeBase64_encode hdecodes a bytes

theorem vmessServer_reads : Reads portCrates vmessLink (.vmess vmessServer) := by
  have hjson : portCrates.parseJson (utf8 vmessText) = .ok vmessServer := by
    rw [portCrates, tableCrates_parseJson List.lookup_cons_self]
  have hdecodes : portCrates.DecodesBase64 := tableCrates_decodesBase64 _ _
  have hne : utf8 vmessText ≠ [] := utf8_ne_nil (by decide)
  exact reads_vmess hdecodes .standard hne hjson

/-- A VMess link is imported as its object says. -/
theorem Reads.importServer_vmess {crates : Crates} {input : String} {json : Value} (hreads : Reads crates input (.vmess json))
    (id : Uuid) : importServer crates id input = .ok { profile := vmessProfile id json, warnings := [] } := by
  cases hreads with
  | vmess decoded _ hscheme hdecoded hjson =>
    have hne : trim input ≠ "" := fun hempty => by
      rw [hempty] at hscheme
      exact absurd hscheme (by decide)
    have hparse : parseVmess crates id (trim input) = .ok (vmessProfile id json) := by
      rw [parseVmess, Succeeds.bind_of_eq_ok hdecoded, hjson]
      rfl
    simp only [importServer]
    rw [if_neg hne]
    simp only [hscheme, if_true, hparse]
    rfl

/-- A URL with a host is imported with the port that it shows, or that of its protocol. -/
theorem Reads.importServer_port {crates : Crates} {input : String} {url : Url} (hreads : Reads crates input (.uri url))
    (hne : trim input ≠ "") {protocol : VpnProtocol} (hprotocol : protocolOfScheme url.scheme = .ok protocol)
    (hremote : protocol ≠ .olcRtc) {host : String} (hhost : url.host = some host) (id : Uuid) :
    ∃ imported, importServer crates id input = .ok imported ∧
      imported.profile.port = url.port.getD (defaultPort protocol) := by
  obtain ⟨profile, hprofile, -, -, hport, -⟩ := @profileOfUrl_of_host crates url protocol hprotocol hremote host hhost id
  cases hreads with
  | uri _ hvmess hshadowsocks hurl =>
    exact ⟨_, importServer_of_url crates hne hvmess hshadowsocks hurl hprofile, hport⟩

/-- Any other port than that of its scheme is kept. -/
theorem port_kept_trojan : ∃ imported, importServer portCrates 1 "trojan://secret@trojan.example.com:8443" = .ok imported ∧
    (StatedPort.uri trojanServer 8443).Kept imported.profile := by
  have hfits : schemePort trojanServer.scheme ≠ some 8443 := by decide
  have hvisible : trojanServer.port = visiblePort trojanServer.scheme 8443 := by
    rw [visiblePort, if_neg hfits]
    rfl
  obtain ⟨hreads, hne⟩ := trojanServer_reads
  have hprotocol : protocolOfScheme trojanServer.scheme = .ok .trojan := rfl
  obtain ⟨imported, himport, -⟩ := hreads.importServer_port hne hprotocol (by decide) rfl 1
  exact ⟨imported, himport, (port_kept_iff himport (.uri _ _ hreads hvisible)).mpr hfits⟩

/-- The port of a proxy becomes another, and that of a VMess server is cut. -/
theorem port_changed : (∃ imported, States portCrates "http://proxy.example.com:80" (.uri webProxy 80) ∧
      importServer portCrates 1 "http://proxy.example.com:80" = .ok imported ∧ imported.profile.port = 8080) ∧
    ∃ imported, States portCrates vmessLink (.number vmessServer 70000) ∧
      importServer portCrates 1 vmessLink = .ok imported ∧ imported.profile.port = 4464 ∧
      (Protocols.validate imported.profile).valid = true := by
  constructor
  · obtain ⟨hreads, hne⟩ := webProxy_reads
    have hprotocol : protocolOfScheme webProxy.scheme = .ok .http := rfl
    obtain ⟨imported, himport, hport⟩ := hreads.importServer_port hne hprotocol (by decide) rfl 1
    have hhidden : webProxy.port = visiblePort webProxy.scheme 80 := rfl
    exact ⟨imported, .uri _ _ hreads hhidden, himport, hport⟩
  · refine ⟨_, .number _ _ vmessServer_reads rfl, vmessServer_reads.importServer_vmess 1, ?_, ?_⟩
    · decide
    · decide

end TauriVpn.Import
