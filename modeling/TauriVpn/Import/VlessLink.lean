import TauriVpn.Config.Generate
import TauriVpn.Import.Server

/-! What a VLESS share link asks for reaches the proxy outbound. A link is a URL with
a form-url-encoded query; the query becomes the profile's transport, TLS and REALITY
options, and these become the objects of the outbound. Each key of the query is read
back with the value the link gave it, whatever the order and the other keys. -/

namespace TauriVpn.Import

open FormUrlencoded Config

/-! ### Links -/

/-- A name between the commas of an ALPN list. -/
abbrev AlpnName := { s : String // ',' ∉ s.toList }

/-- How a link writes a flag. -/
inductive Flag where
  | one | yes | zero | no
  deriving DecidableEq

def Flag.text : Flag → String
  | .one => "1"
  | .yes => "true"
  | .zero => "0"
  | .no => "false"

def Flag.holds : Flag → Bool
  | .one | .yes => true
  | .zero | .no => false

inductive LinkTransport where
  | tcp
  | ws (path : String)
  | grpc (serviceName : String)
  | httpupgrade (path : String)
  | xhttp (path : String)

inductive LinkSecurity where
  | tls (alpn : List AlpnName) (allowInsecure : Flag)
  | reality (pbk sid : String)

/-- The parameters of a query, those that it has to leave out included. -/
abbrev Parameters := List (String × Option String)

def LinkTransport.parameters : LinkTransport → Parameters
  | .tcp => [("type", some "tcp")]
  | .ws path => [("type", some "ws"), ("path", some path)]
  | .grpc serviceName => [("type", some "grpc"), ("serviceName", some serviceName)]
  | .httpupgrade path => [("type", some "httpupgrade"), ("path", some path)]
  | .xhttp path => [("type", some "xhttp"), ("path", some path)]

/-- An empty list has no text: an empty text is the list of one empty name. -/
def alpnText : List AlpnName → Option String
  | [] => none
  | names => some (",".intercalate (names.map (·.val)))

def LinkSecurity.parameters : LinkSecurity → Parameters
  | .tls alpn allowInsecure =>
    [("security", some "tls"), ("alpn", alpnText alpn), ("allowInsecure", some allowInsecure.text)]
  | .reality pbk sid => [("security", some "reality"), ("pbk", some pbk), ("sid", some sid)]

def isUuidChar (c : Char) : Bool := isAsciiHexdigit c || c == '-'

def isHostChar (c : Char) : Bool := ('a' ≤ c && c ≤ 'z') || isAsciiDigit c || c == '.' || c == '-'

/-- A letter or a digit: of ASCII, or any other character but white space. -/
def isNameChar (c : Char) : Bool :=
  isAsciiDigit c || ('a' ≤ c && c ≤ 'z') || ('A' ≤ c && c ≤ 'Z') ||
    (0x80 ≤ c.toNat && !isWhitespace c)

/-- What a link describes. -/
structure VlessServer where
  uuid : String
  host : String
  port : UInt16
  name : String
  transport : LinkTransport
  security : LinkSecurity
  flow : String
  sni : String
  fp : String
  uuid_ne : uuid ≠ ""
  uuid_chars : ∀ c ∈ uuid.toList, isUuidChar c = true
  host_ne : host ≠ ""
  host_chars : ∀ c ∈ host.toList, isHostChar c = true
  port_ne : port ≠ 0
  name_ne : name ≠ ""
  name_chars : ∀ c ∈ name.toList, isNameChar c = true

def VlessServer.parameters (server : VlessServer) : Parameters :=
  server.transport.parameters ++ server.security.parameters ++
    [("flow", some server.flow), ("sni", some server.sni), ("fp", some server.fp)]

/-- A link to the server: its query carries the parameters, in any order and beside
any others. -/
structure VlessLink extends VlessServer where
  query : Query
  carries : ∀ p ∈ toVlessServer.parameters, Assoc.Carries query p.1 p.2

def VlessLink.text (link : VlessLink) : String :=
  "vless://" ++ link.uuid ++ "@" ++ link.host ++ ":" ++ toString link.port.toNat ++ "?" ++
    serialize link.query ++ "#" ++ link.name

/-- The bytes that a fragment keeps: no control, space, `"`, `<`, `>` or backquote and
nothing outside ASCII. -/
def isFragmentByte (b : UInt8) : Bool :=
  let n := b.toNat
  0x20 < n && n < 0x7F && n != 0x22 && n != 0x3C && n != 0x3E && n != 0x60

/-- The parts of the link by the URL standard; only the fragment is written otherwise
in the URL than in the text. -/
def VlessLink.url (link : VlessLink) : Url where
  scheme := "vless"
  username := link.uuid
  host := some link.host
  port := some link.port
  query := some (serialize link.query)
  fragment := some (ofAscii (percentEncode isFragmentByte (utf8 link.name)))

/-- The form parser is that of the URL standard, with a decoder that undoes UTF-8. -/
def Crates.ParsesForms (crates : Crates) : Prop :=
  ∃ decode : List UInt8 → String, (∀ s, decode (utf8 s) = s) ∧
    ∀ bytes, crates.parseForm bytes = FormUrlencoded.parse decode bytes

/-! ### The outbound that a link asks for -/

def LinkTransport.DescribedBy : LinkTransport → Value → Prop
  | .tcp, v => v = .null
  | .ws path, v => v.get "type" = .string "ws" ∧ v.get "path" = .string path
  | .grpc serviceName, v => v.get "type" = .string "grpc" ∧ v.get "service_name" = .string serviceName
  | .httpupgrade path, v => v.get "type" = .string "httpupgrade" ∧ v.get "path" = .string path
  | .xhttp path, v => v.get "type" = .string "xhttp" ∧ v.get "path" = .string path

def LinkSecurity.DescribedBy : LinkSecurity → Value → Prop
  | .tls alpn allowInsecure, v =>
    v.get "alpn" = .strings (alpn.map (·.val)) ∧ v.get "insecure" = .bool allowInsecure.holds
  | .reality pbk sid, v =>
    (v.get "reality").get "public_key" = .string pbk ∧ (v.get "reality").get "short_id" = .string sid

/-- The outbound has the values of the link. -/
structure VlessServer.DescribedBy (server : VlessServer) (outbound : Value) : Prop where
  type : outbound.get "type" = .string "vless"
  uuid : outbound.get "uuid" = .string server.uuid
  host : outbound.get "server" = .string server.host
  port : outbound.get "server_port" = .nat server.port.toNat
  flow : outbound.get "flow" = .string server.flow
  transport : server.transport.DescribedBy (outbound.get "transport")
  tls : (outbound.get "tls").get "enabled" = .bool true
  serverName : (outbound.get "tls").get "server_name" = .string server.sni
  fingerprint : ((outbound.get "tls").get "utls").get "fingerprint" = .string server.fp
  security : server.security.DescribedBy (outbound.get "tls")

/-! ### The text of a link -/

theorem toNat_of_isHostChar {c : Char} (h : isHostChar c = true) : 0x2D ≤ c.toNat ∧ c.toNat ≤ 0x7A := by
  simp only [isHostChar, isAsciiDigit, Bool.or_eq_true, Bool.and_eq_true, decide_eq_true_eq, beq_iff_eq,
    Char.le_def, UInt32.le_iff_toNat_le] at h
  obtain ((⟨hlow, hhigh⟩ | ⟨hlow, hhigh⟩) | rfl) | rfl := h
  · exact ⟨le_trans (by decide) hlow, hhigh⟩
  · exact ⟨le_trans (by decide) hlow, le_trans hhigh (by decide)⟩
  · decide
  · decide

/-- A character of a name is an ASCII letter or digit, or lies outside ASCII. -/
theorem toNat_of_isNameChar {c : Char} (h : isNameChar c = true) :
    (0x30 ≤ c.toNat ∧ c.toNat ≤ 0x39) ∨ (0x61 ≤ c.toNat ∧ c.toNat ≤ 0x7A) ∨
      (0x41 ≤ c.toNat ∧ c.toNat ≤ 0x5A) ∨ (0x80 ≤ c.toNat ∧ isWhitespace c = false) := by
  simp only [isNameChar, isAsciiDigit, Bool.or_eq_true, Bool.and_eq_true, decide_eq_true_eq,
    Char.le_def, UInt32.le_iff_toNat_le, Bool.not_eq_true'] at h
  obtain ((hdigit | hlower) | hupper) | hother := h
  · exact .inl hdigit
  · exact .inr (.inl hlower)
  · exact .inr (.inr (.inl hupper))
  · exact .inr (.inr (.inr hother))

theorem isWhitespace_of_isNameChar {c : Char} (h : isNameChar c = true) : isWhitespace c = false := by
  obtain ⟨hlow, hhigh⟩ | ⟨hlow, hhigh⟩ | ⟨hlow, hhigh⟩ | ⟨-, hspace⟩ := toNat_of_isNameChar h
  · exact isWhitespace_of_visible (by omega) (by omega)
  · exact isWhitespace_of_visible (by omega) (by omega)
  · exact isWhitespace_of_visible (by omega) (by omega)
  · exact hspace

namespace VlessLink
variable (link : VlessLink)

theorem name_not_blank : isBlank link.name = false :=
  isBlank_eq_false link.name_ne fun c hc => isWhitespace_of_isNameChar (link.name_chars c hc)

theorem host_not_blank : isBlank link.host = false :=
  isBlank_eq_false link.host_ne fun c hc => by
    have hrange := toNat_of_isHostChar (link.host_chars c hc)
    exact isWhitespace_of_visible (by omega) (by omega)

/-- A link starts with its scheme and ends with its name. -/
theorem toList_text : ∃ chars, link.text.toList = 'v' :: 'l' :: (chars ++ link.name.toList) :=
  ⟨"ess://".toList ++ (link.uuid ++ "@" ++ link.host ++ ":" ++ toString link.port.toNat ++ "?" ++
      serialize link.query ++ "#").toList, by
    have hscheme : "vless://".toList = 'v' :: 'l' :: "ess://".toList := by decide
    delta VlessLink.text
    simp only [String.toList_append, List.append_assoc, hscheme, List.cons_append]⟩

theorem trim_text : trim link.text = link.text := by
  obtain ⟨chars, htext⟩ := link.toList_text
  refine trim_eq_self ?_ ?_
  · intro c hc
    rw [htext, List.head?_cons, Option.mem_some_iff] at hc
    rw [← hc]
    decide
  · have hname : link.name.toList ≠ [] := by simpa using link.name_ne
    intro c hc
    rw [htext, ← List.cons_append, ← List.cons_append, List.getLast?_append_of_ne_nil _ hname] at hc
    exact isWhitespace_of_isNameChar (link.name_chars c (List.mem_of_getLast? hc))

theorem text_ne : link.text ≠ "" := by
  obtain ⟨chars, htext⟩ := link.toList_text
  intro hempty
  rw [hempty] at htext
  cases htext

theorem text_not_vmess : startsWith link.text "vmess://" = false := by
  obtain ⟨chars, htext⟩ := link.toList_text
  have hscheme : "vmess://".toList = 'v' :: 'm' :: "ess://".toList := by decide
  rw [startsWith, hscheme, htext]
  rfl

theorem text_not_shadowsocks : startsWith link.text "ss://" = false := by
  obtain ⟨chars, htext⟩ := link.toList_text
  have hscheme : "ss://".toList = 's' :: "s://".toList := by decide
  rw [startsWith, hscheme, htext]
  rfl

end VlessLink

/-! ### The name and the query that are read back -/

/-- What a fragment keeps of a name is letters and digits. -/
theorem isKept_of_name {name : String} (hname : ∀ c ∈ name.toList, isNameChar c = true) {b : UInt8}
    (hb : b ∈ utf8 name) (hfragment : isFragmentByte b = true) : isKept b = true := by
  obtain ⟨c, hc, hbc⟩ := List.mem_flatMap.mp hb
  have hchar := toNat_of_isNameChar (hname c hc)
  by_cases hascii : c.toNat < 0x80
  · rw [utf8EncodeChar_of_ascii hascii, List.mem_singleton] at hbc
    have hbyte : b.toNat = c.toNat := by
      rw [hbc, UInt8.toNat_ofNat', Nat.mod_eq_of_lt (by omega)]
    simp only [isKept, hbyte, Bool.or_eq_true, Bool.and_eq_true, decide_eq_true_eq, beq_iff_eq]
    omega
  · have hbyte := le_of_mem_utf8EncodeChar (Nat.le_of_not_lt hascii) hbc
    simp only [isFragmentByte, Bool.and_eq_true, decide_eq_true_eq] at hfragment
    omega

/-- The fragment of a name has letters, digits and percent signs. -/
theorem isKept_of_mem_fragment {name : String} (hname : ∀ c ∈ name.toList, isNameChar c = true)
    {b : UInt8} (hb : b ∈ percentEncode isFragmentByte (utf8 name)) : isKept b = true ∨ b = 0x25 := by
  obtain ⟨hmem, hkeep⟩ | rfl | ⟨n, hn, rfl⟩ := mem_percentEncode hb
  · exact .inl (isKept_of_name hname hmem hkeep)
  · exact .inr rfl
  · exact .inl (isKept_hexDigit n hn)

section Reading
variable {crates : Crates} (hform : crates.ParsesForms)
include hform

theorem percentDecode_fragment {name : String} (hne : name ≠ "")
    (hname : ∀ c ∈ name.toList, isNameChar c = true) :
    percentDecode crates (ofAscii (percentEncode isFragmentByte (utf8 name))) = name := by
  obtain ⟨decode, hdecode, hparse⟩ := hform
  have hbytes : FormUrlencoded.percentDecode (percentEncode isFragmentByte (utf8 name)) = utf8 name := by
    refine percentDecode_percentEncode fun b hb hkeep => ?_
    rintro rfl
    exact absurd (isKept_of_name hname hb hkeep) (by decide)
  have hsafe : ∀ b ∈ percentEncode isFragmentByte (utf8 name), isSafe b = true := fun b hb => by
    obtain hkept | rfl := isKept_of_mem_fragment hname hb
    · simp [isSafe, hkept]
    · decide
  have hplus : ∀ b ∈ percentEncode isFragmentByte (utf8 name), b ≠ 0x2B := fun b hb => by
    obtain hkept | rfl := isKept_of_mem_fragment hname hb
    · rintro rfl
      exact absurd hkept (by decide)
    · decide
  have hnonempty : percentEncode isFragmentByte (utf8 name) ≠ [] := fun hnil => by
    rw [hnil] at hbytes
    exact utf8_ne_nil hne hbytes.symm
  have hempty : decode [] = "" := hdecode ""
  rw [percentDecode, utf8_ofAscii fun b hb => toNat_lt_of_isSafe (hsafe b hb), hparse,
    parse_of_no_separator decode hnonempty fun b hb =>
      ⟨(ne_separator_of_isSafe (hsafe b hb)).1, (ne_separator_of_isSafe (hsafe b hb)).2, hplus b hb⟩]
  simp only [hbytes, hdecode, hempty, String.append_empty]

theorem fragmentName_link (link : VlessLink) : fragmentName crates link.url = some link.name := by
  have hdecoded := percentDecode_fragment hform link.name_ne link.name_chars
  simp only [fragmentName, VlessLink.url, Option.map_some, hdecoded]
  rw [Option.filter_some, if_pos (by simp [link.name_not_blank])]

theorem queryMap_link (link : VlessLink) : queryMap crates link.url = Assoc.ofPairs link.query := by
  obtain ⟨decode, hdecode, hparse⟩ := hform
  rw [queryMap, hparse]
  exact congrArg Assoc.ofPairs (parse_serialize hdecode link.query)

end Reading

/-! ### The options that the parameters become -/

/-- The query answers each parameter with its value. -/
def Answers (query : Query) (parameters : Parameters) : Prop := ∀ p ∈ parameters, query.lookup p.1 = p.2

theorem VlessLink.answers (link : VlessLink) :
    Answers (Assoc.ofPairs link.query) link.parameters := fun p hp =>
  Assoc.lookup_ofPairs (link.carries p hp)

section Options
variable {query : Query}

@[simp] theorem answers_nil : Answers query [] := List.forall_mem_nil _

@[simp] theorem answers_cons (p : String × Option String) (ps : Parameters) :
    Answers query (p :: ps) ↔ query.lookup p.1 = p.2 ∧ Answers query ps := List.forall_mem_cons

theorem answers_append (ps qs : Parameters) :
    Answers query (ps ++ qs) ↔ Answers query ps ∧ Answers query qs := List.forall_mem_append

theorem parseTransport_kind {type : String} (h : query.lookup "type" = some type) :
    (parseTransport query).kind = transportKindOf (some type) := by
  rw [parseTransport, h]
  rfl

/-- The transport object has what the parameters of its transport say. -/
theorem parseTransport_described {transport : LinkTransport} (h : Answers query transport.parameters) :
    transport.DescribedBy (.ofOption (transportObject (parseTransport query))) := by
  cases transport with
  | tcp =>
    have htype : query.lookup "type" = some "tcp" := by simpa [LinkTransport.parameters] using h
    rw [transportObject, parseTransport_kind htype]
    rfl
  | ws path =>
    obtain ⟨htype, hpath⟩ : query.lookup "type" = some "ws" ∧ query.lookup "path" = some path := by
      simpa [LinkTransport.parameters] using h
    have hread : (parseTransport query).path = some path := hpath
    rw [transportObject, parseTransport_kind htype, hread]
    exact ⟨rfl, rfl⟩
  | grpc serviceName =>
    obtain ⟨htype, hservice⟩ :
        query.lookup "type" = some "grpc" ∧ query.lookup "serviceName" = some serviceName := by
      simpa [LinkTransport.parameters] using h
    have hread : (parseTransport query).serviceName = some serviceName := by
      rw [parseTransport, hservice]
      rfl
    rw [transportObject, parseTransport_kind htype, hread]
    exact ⟨rfl, rfl⟩
  | httpupgrade path =>
    obtain ⟨htype, hpath⟩ :
        query.lookup "type" = some "httpupgrade" ∧ query.lookup "path" = some path := by
      simpa [LinkTransport.parameters] using h
    have hread : (parseTransport query).path = some path := hpath
    rw [transportObject, parseTransport_kind htype, hread]
    exact ⟨rfl, rfl⟩
  | xhttp path =>
    obtain ⟨htype, hpath⟩ : query.lookup "type" = some "xhttp" ∧ query.lookup "path" = some path := by
      simpa [LinkTransport.parameters] using h
    have hread : (parseTransport query).path = some path := hpath
    rw [transportObject, parseTransport_kind htype, hread]
    exact ⟨rfl, rfl⟩

/-- The names are read back from their text. -/
theorem splitChar_alpnText (alpn : List AlpnName) :
    ((alpnText alpn).map fun value => splitChar value ',').getD [] = alpn.map (·.val) := by
  cases alpn with
  | nil => rfl
  | cons name rest =>
    change splitChar ((String.singleton ',').intercalate ((name :: rest).map (·.val))) ',' = _
    refine splitChar_intercalate (by simp) fun s hs => ?_
    obtain ⟨alpnName, -, rfl⟩ := List.mem_map.mp hs
    exact alpnName.property

theorem isSet_text (flag : Flag) : isSet flag.text = flag.holds := by
  cases flag <;> decide

/-- The TLS options of a query that asks for TLS, by either name. -/
theorem parseTls_of_enabled {sni fp : String} (hsecurity : tlsEnabled query = true)
    (hsni : query.lookup "sni" = some sni) (hfp : query.lookup "fp" = some fp) :
    parseTls query = some {
      enabled := true
      serverName := some sni
      alpn := ((query.lookup "alpn").map fun value => splitChar value ',').getD []
      insecure := ((query.lookup "allowInsecure").or (query.lookup "insecure")).any isSet
      fingerprint := some fp } := by
  rw [parseTls, if_pos hsecurity, hsni, hfp]
  rfl

end Options

/-! ### The profile and its outbound -/

namespace VlessLink
variable (link : VlessLink) (id : Uuid)

/-- The profile that the link becomes. -/
def profile : VpnProfile where
  id := id
  name := link.name
  protocol := .vless
  server := link.host
  port := link.port
  auth := { uuid := some link.uuid }
  transport := parseTransport (Assoc.ofPairs link.query)
  tls := parseTls (Assoc.ofPairs link.query)
  reality := parseReality (Assoc.ofPairs link.query)
  extra := (Assoc.ofPairs link.query).map fun entry => (entry.1, .string entry.2)

theorem profileOfUrl_link {crates : Crates} (hform : crates.ParsesForms) :
    profileOfUrl crates id link.url = .ok (link.profile id) := by
  simp only [profileOfUrl]
  rw [queryMap_link hform, fragmentName_link hform]
  rfl

theorem importServer_link {crates : Crates} (hform : crates.ParsesForms)
    (hurl : crates.parseUrl link.text = .ok link.url) :
    importServer crates id link.text = .ok { profile := link.profile id, warnings := [] } := by
  rw [← link.trim_text] at hurl
  refine importServer_of_url crates ?_ ?_ ?_ hurl (link.profileOfUrl_link id hform)
  · rw [link.trim_text]
    exact link.text_ne
  · rw [link.trim_text, link.text_not_vmess]
  · rw [link.trim_text, link.text_not_shadowsocks]

theorem profile_valid : (Protocols.validate (link.profile id)).valid = true := by
  rw [Protocols.validate_valid]
  exact ⟨⟨link.name_not_blank, link.host_not_blank, link.port_ne⟩, link.uuid_ne, fun _ => rfl⟩

theorem extraStr_profile (key : String) :
    extraStr (link.profile id) key = (Assoc.ofPairs link.query).lookup key := by
  rw [extraStr, profile, Assoc.lookup_map]
  cases (Assoc.ofPairs link.query).lookup key <;> rfl

theorem answers_split : Answers (Assoc.ofPairs link.query) link.transport.parameters ∧
    Answers (Assoc.ofPairs link.query) link.security.parameters ∧
    (Assoc.ofPairs link.query).lookup "flow" = some link.flow ∧
    (Assoc.ofPairs link.query).lookup "sni" = some link.sni ∧
    (Assoc.ofPairs link.query).lookup "fp" = some link.fp := by
  have h := link.answers
  rw [VlessServer.parameters, answers_append, answers_append, and_assoc] at h
  simpa using h

/-- The members before the TLS and transport objects. -/
def members : List (String × Value) :=
  remoteServer "vless" (link.profile id) ++ [("uuid", .string link.uuid), ("flow", .string link.flow)]

theorem baseOutbound_profile : baseOutbound (link.profile id) = .ok (.object (link.members id)) := by
  have huuid : ¬Protocols.isMissing (link.profile id).auth.uuid := link.uuid_ne
  have hflow : extraStr (link.profile id) "flow" = some link.flow :=
    (link.extraStr_profile id "flow").trans link.answers_split.2.2.1
  rw [baseOutbound_vless rfl huuid, hflow]
  rfl

/-- The TLS object, which REALITY options replace, has the values of the link. -/
theorem tlsMember_profile : ∃ tls, tlsMember (link.profile id) = some tls ∧
    tls.get "enabled" = .bool true ∧ tls.get "server_name" = .string link.sni ∧
    (tls.get "utls").get "fingerprint" = .string link.fp ∧ link.security.DescribedBy tls := by
  obtain ⟨-, hsecurity, -, hsni, hfp⟩ := link.answers_split
  cases hlink : link.security with
  | tls alpn allowInsecure =>
    rw [hlink] at hsecurity
    obtain ⟨htls, halpn, hinsecure⟩ : (Assoc.ofPairs link.query).lookup "security" = some "tls" ∧
        (Assoc.ofPairs link.query).lookup "alpn" = alpnText alpn ∧
        (Assoc.ofPairs link.query).lookup "allowInsecure" = some allowInsecure.text := by
      simpa [LinkSecurity.parameters] using hsecurity
    have hoptions := parseTls_of_enabled (by simp [tlsEnabled, htls]) hsni hfp
    rw [halpn, splitChar_alpnText, hinsecure] at hoptions
    have hreality : parseReality (Assoc.ofPairs link.query) = none := by
      rw [parseReality, htls]
      rfl
    refine ⟨tlsObject .vless {
      enabled := true, serverName := some link.sni, alpn := alpn.map (·.val),
      insecure := isSet allowInsecure.text, fingerprint := some link.fp }, ?_, rfl, rfl, rfl, rfl, ?_⟩
    · simp only [tlsMember, profile, hreality, hoptions]
      rfl
    · rw [← isSet_text]
      rfl
  | reality pbk sid =>
    rw [hlink] at hsecurity
    obtain ⟨hrequested, hpbk, hsid⟩ :
        (Assoc.ofPairs link.query).lookup "security" = some "reality" ∧
        (Assoc.ofPairs link.query).lookup "pbk" = some pbk ∧
        (Assoc.ofPairs link.query).lookup "sid" = some sid := by
      simpa [LinkSecurity.parameters] using hsecurity
    have hoptions := parseTls_of_enabled (by simp [tlsEnabled, hrequested]) hsni hfp
    have hreality : parseReality (Assoc.ofPairs link.query) = some {
        publicKey := pbk, shortId := some sid,
        spiderX := (Assoc.ofPairs link.query).lookup "spx" } := by
      rw [parseReality, hrequested, hpbk, hsid]
      rfl
    refine ⟨realityObject .vless (parseTls (Assoc.ofPairs link.query)) {
      publicKey := pbk, shortId := some sid,
      spiderX := (Assoc.ofPairs link.query).lookup "spx" }, ?_, rfl, ?_, ?_, rfl, rfl⟩
    · simp only [tlsMember, profile, hreality]
    · rw [hoptions]
      rfl
    · rw [hoptions]
      rfl

/-- The outbound of the profile has the values of the link. -/
theorem outbound_profile : ∃ outbound, outboundForProfile (link.profile id) = .ok outbound ∧
    outbound.get "tag" = .string "proxy" ∧ link.DescribedBy outbound := by
  obtain ⟨tls, htls, henabled, hserverName, hfingerprint, hsecurity⟩ := link.tlsMember_profile id
  have hobject : (Value.object (link.members id)).IsObject := ⟨_, rfl⟩
  have hget : ∀ k, (addTransport (link.profile id) (addTls (link.profile id)
      (.object (link.members id)))).get k =
        if k = "transport" then Value.ofOption (transportObject (link.profile id).transport)
        else if k = "tls" then tls else (Value.object (link.members id)).get k := by
    intro k
    rw [get_addTransport _ (addTls_isObject _ hobject), get_addTls _ hobject, htls]
    by_cases htransport : k = "transport"
    · rw [if_pos htransport, if_pos htransport, if_neg (by rw [htransport]; decide), htransport]
      cases transportObject (link.profile id).transport <;> rfl
    · rw [if_neg htransport, if_neg htransport]
      rfl
  refine ⟨addTransport (link.profile id) (addTls (link.profile id) (.object (link.members id))),
    ?_, ?_, ?_⟩
  · rw [outboundForProfile, link.baseOutbound_profile id]
    rfl
  · rw [hget]
    rfl
  · constructor
    case type => rw [hget]; rfl
    case uuid => rw [hget]; rfl
    case host => rw [hget]; rfl
    case port => rw [hget]; rfl
    case flow => rw [hget]; rfl
    case transport => rw [hget]; exact parseTransport_described link.answers_split.1
    case tls => rw [hget]; exact henabled
    case serverName => rw [hget]; exact hserverName
    case fingerprint => rw [hget]; exact hfingerprint
    case security => rw [hget]; exact hsecurity

end VlessLink

/-- A link is imported, and the configuration of its profile has a proxy outbound with
the values of the link, for every target and every other option. -/
theorem link_reaches_outbound {crates : Crates} (hform : crates.ParsesForms) (link : VlessLink)
    (hurl : crates.parseUrl link.text = .ok link.url) (id : Uuid) (os : TargetOs)
    (options : ConnectOptions) :
    ∃ imported config outbound, importServer crates id link.text = .ok imported ∧
      generateSingBoxConfig os { options with profile := imported.profile } = .ok config ∧
      proxyOutboundOf config = some outbound ∧ link.DescribedBy outbound := by
  obtain ⟨outbound, houtbound, htag, hdescribed⟩ := link.outbound_profile id
  obtain ⟨config, hconfig, hproxy⟩ := generate_proxyOutbound os
    { options with profile := link.profile id } (link.profile_valid id) houtbound htag
  exact ⟨_, config, outbound, link.importServer_link id hform hurl, hconfig, hproxy, hdescribed⟩

/-! ### A link to every server -/

theorem VlessServer.keys_nodup (server : VlessServer) : (server.parameters.map Prod.fst).Nodup := by
  unfold VlessServer.parameters
  cases server.transport <;> cases server.security <;>
    simp [LinkTransport.parameters, LinkSecurity.parameters]

/-- The link whose query has the parameters and nothing else. -/
def VlessServer.link (server : VlessServer) : VlessLink :=
  { server with
    query := Assoc.present server.parameters
    carries := fun _ hp => Assoc.carries_present server.keys_nodup hp }

def sampleServer : VlessServer where
  uuid := "22222222-2222-4222-8222-222222222222"
  host := "example.com"
  port := 13979
  name := "Reality"
  transport := .grpc "a/b c"
  security := .reality "TEST_PUBLIC_KEY" "01020304"
  flow := ""
  sni := "www.example.com"
  fp := "chrome"
  uuid_ne := by decide
  uuid_chars := List.all_eq_true.mp (by decide)
  host_ne := by decide
  host_chars := List.all_eq_true.mp (by decide)
  port_ne := by decide
  name_ne := by decide
  name_chars := List.all_eq_true.mp (by decide)

example : sampleServer.link.text = "vless://22222222-2222-4222-8222-222222222222@example.com:13979" ++
    "?type=grpc&serviceName=a%2Fb+c&security=reality&pbk=TEST_PUBLIC_KEY&sid=01020304&flow=" ++
    "&sni=www.example.com&fp=chrome#Reality" := by decide +kernel

/-- The libraries, as far as that link needs them. -/
def sampleCrates : Crates where
  parseUrl text :=
    if text = sampleServer.link.text then .ok sampleServer.link.url
    else .error "relative URL without a base"
  parseForm := FormUrlencoded.parse fun bytes => (fromUtf8 bytes).getD "�"
  decodeBase64 _ := .error "Invalid padding"
  parseJson _ := .error "expected value at line 1 column 1"
  utf8Error _ := "invalid utf-8 sequence"

theorem sampleCrates_parsesForms : sampleCrates.ParsesForms :=
  ⟨fun bytes => (fromUtf8 bytes).getD "�", fun s => by simp only [fromUtf8_utf8, Option.getD_some],
    fun _ => rfl⟩

theorem sampleCrates_parseUrl :
    sampleCrates.parseUrl sampleServer.link.text = .ok sampleServer.link.url := by
  simp only [sampleCrates, if_true]

/-- A REALITY link over gRPC. -/
theorem link_reaches_outbound_grpc : ∃ imported config outbound,
    importServer sampleCrates 1 sampleServer.link.text = .ok imported ∧
      generateSingBoxConfig .linux { profile := imported.profile } = .ok config ∧
      proxyOutboundOf config = some outbound ∧ sampleServer.DescribedBy outbound :=
  link_reaches_outbound sampleCrates_parsesForms sampleServer.link sampleCrates_parseUrl 1 .linux
    { profile := sampleProfile }

end TauriVpn.Import
