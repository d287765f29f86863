import TauriVpn.Import.HostParameter
import TauriVpn.Import.PercentDecode
import TauriVpn.Lib.Base64

/-! Links with a user name and a password before the host. The URL parser encodes both once
more and decodes neither; the importer reads the name, where it takes it, as a form. -/

namespace TauriVpn.Import

open FormUrlencoded Userinfo

/-- The text of a link; `rest` is the host, the port and all that follows. -/
def userText (scheme user password rest : String) : String :=
  scheme ++ "://" ++ user ++ ":" ++ password ++ "@" ++ rest

/-- The URL with this user part, as the parser writes it; an empty password is none. -/
def Url.withUser (url : Url) (user password : String) : Url :=
  { url with
    username := parsed user
    password := if parsed password = "" then none else some (parsed password) }

/-- The schemes of the links whose user name is all that the importer takes. -/
def tokenSchemes : List String := ["tuic", "hysteria2", "hy2"]

/-- The schemes of the proxies, for which it takes the password as well. -/
def proxySchemes : List String := ["socks", "socks5", "http"]

theorem protocolOfScheme_token {scheme : String} (h : scheme ∈ tokenSchemes) :
    ∃ protocol, protocolOfScheme scheme = .ok protocol ∧ (protocol = .tuic ∨ protocol = .hysteria2) ∧
      protocol ≠ .olcRtc := by
  simp only [tokenSchemes, List.mem_cons, List.not_mem_nil, or_false] at h
  obtain rfl | rfl | rfl := h
  · exact ⟨.tuic, rfl, .inl rfl, by decide⟩
  · exact ⟨.hysteria2, rfl, .inr rfl, by decide⟩
  · exact ⟨.hysteria2, rfl, .inr rfl, by decide⟩

theorem protocolOfScheme_proxy {scheme : String} (h : scheme ∈ proxySchemes) :
    ∃ protocol, protocolOfScheme scheme = .ok protocol ∧ (protocol = .socks ∨ protocol = .http) ∧
      protocol ≠ .olcRtc := by
  simp only [proxySchemes, List.mem_cons, List.not_mem_nil, or_false] at h
  obtain rfl | rfl | rfl := h
  · exact ⟨.socks, rfl, .inl rfl, by decide⟩
  · exact ⟨.socks, rfl, .inl rfl, by decide⟩
  · exact ⟨.http, rfl, .inr rfl, by decide⟩

theorem notMem_proxySchemes {scheme : String} (h : scheme ∈ tokenSchemes) : scheme ∉ proxySchemes := by
  have hall : ∀ s ∈ tokenSchemes, s ∉ proxySchemes := by decide
  exact hall scheme h

/-- A text that no VMess or Shadowsocks link begins like. -/
def IsUrlScheme (scheme : String) : Prop :=
  (¬"vmess://".toList <+: scheme.toList ∧ ¬scheme.toList <+: "vmess://".toList) ∧
    (¬"ss://".toList <+: scheme.toList ∧ ¬scheme.toList <+: "ss://".toList) ∧
    scheme.toList.head?.map isWhitespace = some false

instance (scheme : String) : Decidable (IsUrlScheme scheme) := inferInstanceAs (Decidable (_ ∧ _))

/-! ### What is imported -/

section Import
variable {crates : Crates} {scheme user password rest : String} {url : Url}

/-- It begins with a visible character, and so does all that begins like it. -/
theorem IsUrlScheme.first (hscheme : IsUrlScheme scheme) {input : String} (hbegins : scheme.toList <+: input.toList) :
    input ≠ "" ∧ ∀ c ∈ input.toList.head?, isWhitespace c = false := by
  obtain ⟨first, hhead, hspace⟩ := Option.map_eq_some_iff.mp hscheme.2.2
  have hfirst : input.toList.head? = some first := by
    obtain ⟨others, hothers⟩ := hbegins
    rw [← hothers, List.head?_append, hhead]
    rfl
  constructor
  · rintro rfl
    cases hfirst
  · intro c hc
    rw [hfirst, Option.mem_some_iff] at hc
    rwa [← hc]

/-- A link that begins like that is read as a URL. -/
theorem reads_of_scheme {input : String} (hscheme : IsUrlScheme scheme) (hbegins : scheme.toList <+: input.toList)
    (hurl : crates.parseUrl (trim input) = .ok url) : Reads crates input (.uri url) ∧ trim input ≠ "" := by
  obtain ⟨hne, hvisible⟩ := hscheme.first hbegins
  obtain ⟨⟨hvmess, hvmess'⟩, ⟨hshadowsocks, hshadowsocks'⟩, -⟩ := hscheme
  refine ⟨.uri _ ?_ ?_ hurl, trim_ne_empty hvisible hne⟩
  · exact startsWith_trim_eq_false hvisible hbegins hvmess hvmess'
  · exact startsWith_trim_eq_false hvisible hbegins hshadowsocks hshadowsocks'

theorem trim_userText (hscheme : IsUrlScheme scheme) (hrest : rest ≠ "")
    (hlast : ∀ c ∈ rest.toList.getLast?, isWhitespace c = false) :
    trim (userText scheme user password rest) = userText scheme user password rest := by
  have hbegins : scheme.toList <+: (scheme ++ "://" ++ user ++ ":" ++ password ++ "@").toList := by
    simp only [String.append_assoc]
    exact prefix_append _ _
  obtain ⟨hne, hvisible⟩ := hscheme.first hbegins
  exact trim_append hne hvisible hrest hlast

theorem reads_userText (hscheme : scheme ∈ tokenSchemes ++ proxySchemes)
    (hurl : crates.parseUrl (trim (userText scheme user password rest)) = .ok (url.withUser user password)) :
    Reads crates (userText scheme user password rest) (.uri (url.withUser user password)) ∧
      trim (userText scheme user password rest) ≠ "" := by
  have hkinds : ∀ s ∈ tokenSchemes ++ proxySchemes, IsUrlScheme s := by decide
  refine reads_of_scheme (hkinds scheme hscheme) ?_ hurl
  simp only [userText, String.append_assoc]
  exact prefix_append _ _

@[simp] theorem withUser_scheme : (url.withUser user password).scheme = url.scheme := by
  simp only [Url.withUser]

@[simp] theorem withUser_username : (url.withUser user password).username = parsed user := by
  simp only [Url.withUser]

@[simp] theorem withUser_password : (url.withUser user password).password =
    if parsed password = "" then none else some (parsed password) := by
  simp only [Url.withUser]

@[simp] theorem withUser_host : (url.withUser user password).host = url.host := by
  simp only [Url.withUser]

@[simp] theorem withUser_port : (url.withUser user password).port = url.port := by
  simp only [Url.withUser]

theorem queryMap_withUser : queryMap crates (url.withUser user password) = queryMap crates url := by
  simp only [queryMap, Url.withUser]

/-- A URL without a query has no pairs. -/
theorem queryMap_of_none (hform : crates.ParsesForms) (hquery : url.query = none) : queryMap crates url = [] := by
  obtain ⟨decode, -, hparse⟩ := hform
  rw [queryMap, hquery, hparse]
  rfl

theorem fragmentName_withUser : fragmentName crates (url.withUser user password) = fragmentName crates url := by
  simp only [fragmentName, Url.withUser]

/-- A URL with a host gives a profile. -/
theorem profileOfUrl_of_host {protocol : VpnProtocol} (hprotocol : protocolOfScheme url.scheme = .ok protocol)
    (hremote : protocol ≠ .olcRtc) {host : String} (hhost : url.host = some host) (id : Uuid) :
    ∃ profile, profileOfUrl crates id url = .ok profile ∧ profile.protocol = protocol ∧ profile.server = host ∧
      profile.port = url.port.getD (defaultPort protocol) ∧ profile.name = (fragmentName crates url).getD host ∧
      profile.auth = authOf crates url (queryMap crates url) protocol ∧
      profile.reality = parseReality (queryMap crates url) := by
  have hserver : serverOf url (queryMap crates url) protocol = .ok host := by
    simp only [serverOf, if_neg hremote, hhost]
  have hname : url.host.getD (protocolName protocol) = host := by
    rw [hhost]
    rfl
  refine ⟨_, (profileOfUrl_eq_ok_iff crates).mpr ⟨protocol, host, hprotocol, hserver, rfl⟩, rfl, rfl, rfl, ?_, rfl, rfl⟩
  exact congrArg (fragmentName crates url).getD hname

/-- A link with a host is imported. -/
theorem importServer_userText (hscheme : scheme ∈ tokenSchemes ++ proxySchemes)
    (hurl : crates.parseUrl (trim (userText scheme user password rest)) = .ok (url.withUser user password))
    {protocol : VpnProtocol} (hprotocol : protocolOfScheme url.scheme = .ok protocol) (hremote : protocol ≠ .olcRtc)
    {host : String} (hhost : url.host = some host) (id : Uuid) :
    ∃ imported, importServer crates id (userText scheme user password rest) = .ok imported ∧
      imported.profile.protocol = protocol ∧ imported.profile.server = host ∧
      imported.profile.port = url.port.getD (defaultPort protocol) ∧
      imported.profile.name = (fragmentName crates url).getD host ∧
      imported.profile.auth = authOf crates (url.withUser user password) (queryMap crates url) protocol ∧
      imported.profile.reality = parseReality (queryMap crates url) := by
  rw [← withUser_scheme] at hprotocol
  rw [← withUser_host] at hhost
  obtain ⟨profile, hprofile, hfields⟩ := @profileOfUrl_of_host crates _ protocol hprotocol hremote host hhost id
  rw [queryMap_withUser, fragmentName_withUser, withUser_port] at hfields
  obtain ⟨hreads, hne⟩ := reads_userText hscheme hurl
  cases hreads with
  | uri _ hvmess hshadowsocks hparse =>
    exact ⟨{ profile, warnings := [] }, importServer_of_url crates hne hvmess hshadowsocks hparse hprofile, hfields⟩

end Import

/-! ### The name that is read -/

/-- What the importer reads of a user name: the first piece between `&`s, plus signs as
spaces, its percent signs undone. -/
def readName (decode : List UInt8 → String) (user : String) : String :=
  if firstSequence (utf8 (parsed user)) = [] then parsed user
  else decode (decodeComponent (firstSequence (utf8 (parsed user))))

section Name
variable {crates : Crates} {decode : List UInt8 → String} (hdecode : ∀ s, decode (utf8 s) = s)
  (hparse : ∀ bytes, crates.parseForm bytes = FormUrlencoded.parse decode bytes)
include hdecode hparse

/-- The parser leaves no `=` in a user name, so its first pair is a name alone. -/
theorem percentDecode_parsed (user : String) : percentDecode crates (parsed user) = readName decode user := by
  have hequals : (0x3D : UInt8) ∉ firstSequence (utf8 (parsed user)) := by
    intro hmem
    obtain ⟨front, after, hbytes, -⟩ := exists_firstSequence (utf8 (parsed user))
    have hkept := kept_parsed user 0x3D (by rw [hbytes]; simp [hmem])
    exact absurd hkept (by decide)
  rw [percentDecode_eq_firstText hparse, firstText_eq, readName, pair_of_notMem hdecode hequals]

/-- An escaped name is read back. -/
theorem readName_escaped (s : String) : readName decode (escaped s) = s := by
  have hbyte : ∀ b ∈ utf8 (escaped s), isUserinfoByte b = true ∧ b ≠ 0x26 ∧ b ≠ 0x2B := fun b hb => by
    have hkept : Kept (fun b => isUserinfoByte b && b != 0x26 && b != 0x2B) (escaped s) := by
      refine kept_encode isUnreserved_ascii (fun b hb => ?_) (by decide) (by decide) s
      have huserinfo := isUserinfoByte_of_unreserved b hb
      have hplain : b ≠ 0x26 ∧ b ≠ 0x2B := by
        constructor
        · rintro rfl
          exact absurd hb (by decide)
        · rintro rfl
          exact absurd hb (by decide)
      simp [huserinfo, hplain]
    simpa [and_assoc] using hkept b hb
  have hdecoded : FormUrlencoded.percentDecode (utf8 (escaped s)) = utf8 s :=
    percentDecode_encode isUnreserved_ascii (by decide) s
  have hand : (0x26 : UInt8) ∉ utf8 (escaped s) := fun hmem => (hbyte _ hmem).2.1 rfl
  have hequals : (0x3D : UInt8) ∉ utf8 (escaped s) := fun hmem => absurd (hbyte _ hmem).1 (by decide)
  have hplus : (0x2B : UInt8) ∉ utf8 (escaped s) := fun hmem => (hbyte _ hmem).2.2 rfl
  rw [← percentDecode_parsed hdecode hparse, parsed_escaped, percentDecode_eq_firstText hparse]
  exact (firstText_eq_iff hdecode hdecoded).mpr (.inl ⟨hand, hequals, hplus⟩)

end Name

/-! ### The libraries on given texts -/

/-- The libraries, as far as links with these URLs and JSON texts need them. -/
def tableCrates (urls : List (String × Url)) (jsons : List (String × Value)) : Crates where
  parseUrl text := match urls.lookup text with
    | some url => .ok url
    | none => .error "relative URL without a base"
  parseForm := FormUrlencoded.parse fun bytes => (fromUtf8 bytes).getD "�"
  decodeBase64 text := match Base64.decode text with
    | some bytes => .ok bytes
    | none => .error "Invalid padding"
  parseJson bytes := match (fromUtf8 bytes).bind fun text => jsons.lookup text with
    | some json => .ok json
    | none => .error "expected value at line 1 column 1"
  utf8Error _ := "invalid utf-8 sequence"

theorem tableCrates_parseUrl {urls : List (String × Url)} {jsons : List (String × Value)} {text : String} {url : Url}
    (h : urls.lookup text = some url) : (tableCrates urls jsons).parseUrl text = .ok url := by
  simp only [tableCrates, h]

theorem tableCrates_parseJson {urls : List (String × Url)} {jsons : List (String × Value)} {text : String} {json : Value}
    (h : jsons.lookup text = some json) : (tableCrates urls jsons).parseJson (utf8 text) = .ok json := by
  simp only [tableCrates, fromUtf8_utf8, Option.bind_some, h]

theorem tableCrates_decode (s : String) : (fromUtf8 (utf8 s)).getD "�" = s := by
  rw [fromUtf8_utf8]
  rfl

theorem tableCrates_parsesForms (urls : List (String × Url)) (jsons : List (String × Value)) :
    (tableCrates urls jsons).ParsesForms :=
  ⟨_, tableCrates_decode, fun _ => rfl⟩

end TauriVpn.Import
