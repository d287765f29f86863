import TauriVpn.Errors
import TauriVpn.Lib.FormUrlencoded
import TauriVpn.Lib.Succeeds
import TauriVpn.Models
import TauriVpn.Text

/-! Importing a server from a share link. VMess and Shadowsocks links carry base64;
every other link is a URL, whose query becomes the transport, TLS and REALITY options
and the extra data of the profile. -/

namespace TauriVpn.Import

open FormUrlencoded

/-- A URL that was parsed, as the importer reads it. -/
structure Url where
  scheme : String
  username : String := ""
  password : Option String := none
  host : Option String := none
  port : Option UInt16 := none
  path : String := ""
  query : Option String := none
  fragment : Option String := none

/-- The libraries that the importer calls, with the texts of their errors. -/
structure Crates where
  parseUrl : String → Except String Url
  parseForm : List UInt8 → List (String × String)
  decodeBase64 : String → Except String (List UInt8)
  parseJson : List UInt8 → Except String Value
  utf8Error : List UInt8 → String

abbrev Query := List (String × String)

/-! ### What a query says -/

def transportKindOf : Option String → TransportKind
  | some "ws" | some "websocket" => .webSocket
  | some "grpc" => .grpc
  | some "httpupgrade" => .httpUpgrade
  | some "xhttp" => .xhttp
  | some "quic" => .quic
  | _ => .tcp

def parseTransport (query : Query) : Transport where
  kind := transportKindOf ((query.lookup "type").or (query.lookup "security"))
  path := query.lookup "path"
  host := query.lookup "host"
  serviceName := (query.lookup "serviceName").or (query.lookup "service_name")

/-- `security` asks for TLS by either name, and an `sni` alone does as well. -/
def tlsEnabled (query : Query) : Bool :=
  query.lookup "security" == some "tls" || query.lookup "security" == some "reality" ||
    (query.lookup "sni").isSome

def isSet (value : String) : Bool := value == "1" || value == "true"

def parseTls (query : Query) : Option TlsOptions :=
  if tlsEnabled query then
    some {
      enabled := true
      serverName := (query.lookup "sni").or (query.lookup "peer")
      alpn := ((query.lookup "alpn").map fun value => splitChar value ',').getD []
      insecure := ((query.lookup "allowInsecure").or (query.lookup "insecure")).any isSet
      fingerprint := query.lookup "fp" }
  else none

def parseReality (query : Query) : Option RealityOptions :=
  if query.lookup "security" == some "reality" then
    some {
      publicKey := (query.lookup "pbk").getD ""
      shortId := query.lookup "sid"
      spiderX := query.lookup "spx" }
  else none

/-! ### Links that are URLs -/

def protocolName : VpnProtocol → String
  | .vless => "VLESS"
  | .vmess => "VMess"
  | .trojan => "Trojan"
  | .shadowsocks => "Shadowsocks"
  | .wireGuard => "WireGuard"
  | .hysteria => "Hysteria"
  | .hysteria2 => "Hysteria2"
  | .tuic => "TUIC"
  | .tun => "TUN"
  | .mixed => "Mixed"
  | .socks => "SOCKS"
  | .http => "HTTP"
  | .olcRtc => "OLC RTC"

def defaultPort : VpnProtocol → UInt16
  | .shadowsocks => 8388
  | .socks => 1080
  | .http => 8080
  | _ => 443

def protocolOfScheme : String → Except VpnError VpnProtocol
  | "vless" => .ok .vless
  | "trojan" => .ok .trojan
  | "wireguard" | "wg" => .ok .wireGuard
  | "hysteria" => .ok .hysteria
  | "hysteria2" | "hy2" => .ok .hysteria2
  | "tuic" => .ok .tuic
  | "socks" | "socks5" => .ok .socks
  | "http" | "https" => .ok .http
  | "olcrtc" | "olcrtc+wbstream" | "wbstream" => .ok .olcRtc
  | other => .error (.importFailed ("unsupported URI scheme " ++ other))

/-- The room id of an OLC RTC link: a parameter, the path behind the provider's name,
or the host. -/
def parseOlcrtcRoomId (url : Url) (query : Query) : Except VpnError String :=
  match (query.lookup "roomId").filter fun value => !isBlank value with
  | some roomId => .ok roomId
  | none =>
    let host := url.host.getD ""
    let path := trimStartMatches url.path "/"
    let roomId := if (host = "wb_stream" ∨ host = "wbstream") ∧ path ≠ "" then path else host
    if isBlank roomId then .error (.importFailed "OLC RTC room id is required") else .ok roomId

def serverOf (url : Url) (query : Query) (protocol : VpnProtocol) : Except VpnError String :=
  if protocol = .olcRtc then parseOlcrtcRoomId url query
  else match url.host with
    | some host => .ok host
    | none => .error (.importFailed "server host is required")

section Parse
variable (crates : Crates)

/-- The first pair of the text read as a form, name and value run together. -/
def percentDecode (value : String) : String :=
  match crates.parseForm (utf8 value) with
  | pair :: _ => pair.1 ++ pair.2
  | [] => value

/-- The last value of a key wins. -/
def queryMap (url : Url) : Query := Assoc.ofPairs (crates.parseForm (utf8 (url.query.getD "")))

def fragmentName (url : Url) : Option String :=
  (url.fragment.map (percentDecode crates)).filter fun value => !isBlank value

/-- The credentials that each protocol takes from the user part and the query. -/
def authOf (url : Url) (query : Query) (protocol : VpnProtocol) : AuthOptions :=
  match protocol with
  | .vless => { uuid := some url.username }
  | .trojan | .hysteria | .hysteria2 | .tuic =>
    { uuid := query.lookup "uuid", password := some (percentDecode crates url.username) }
  | .socks | .http =>
    { password := url.password
      username := if url.username = "" then none else some (percentDecode crates url.username) }
  | .olcRtc =>
    { password := ((query.lookup "key").or url.password).or
        (if url.username = "" then none else some (percentDecode crates url.username)) }
  | _ => { password := url.password.or (some (percentDecode crates url.username)) }

def profileOfUrl (id : Uuid) (url : Url) : Except VpnError VpnProfile := do
  let protocol ← protocolOfScheme url.scheme
  let query := queryMap crates url
  let server ← serverOf url query protocol
  return {
    id
    name := (fragmentName crates url).getD (url.host.getD (protocolName protocol))
    protocol
    server
    port := url.port.getD (defaultPort protocol)
    auth := authOf crates url query protocol
    transport := parseTransport query
    tls := parseTls query
    reality := parseReality query
    extra := query.map fun entry => (entry.1, .string entry.2) }

/-- The profile of a URL, from its protocol and its server. -/
theorem profileOfUrl_eq_ok_iff {id : Uuid} {url : Url} {profile : VpnProfile} :
    profileOfUrl crates id url = .ok profile ↔ ∃ protocol server, protocolOfScheme url.scheme = .ok protocol ∧
      serverOf url (queryMap crates url) protocol = .ok server ∧ profile = {
        id
        name := (fragmentName crates url).getD (url.host.getD (protocolName protocol))
        protocol
        server
        port := url.port.getD (defaultPort protocol)
        auth := authOf crates url (queryMap crates url) protocol
        transport := parseTransport (queryMap crates url)
        tls := parseTls (queryMap crates url)
        reality := parseReality (queryMap crates url)
        extra := (queryMap crates url).map fun entry => (entry.1, .string entry.2) } := by
  constructor
  · intro h
    obtain ⟨protocol, hprotocol, hrest⟩ := Succeeds.bind_eq_ok h
    obtain ⟨server, hserver, hprofile⟩ := Succeeds.bind_eq_ok hrest
    exact ⟨protocol, server, hprotocol, hserver, (Except.ok.inj hprofile).symm⟩
  · rintro ⟨protocol, server, hprotocol, hserver, rfl⟩
    rw [profileOfUrl, Succeeds.bind_of_eq_ok hprotocol]
    dsimp only
    rw [Succeeds.bind_of_eq_ok hserver]
    rfl

/-- The scheme gives the protocol, and the query everything but the server and the user. -/
theorem profileOfUrl_eq_ok {id : Uuid} {url : Url} {profile : VpnProfile}
    (h : profileOfUrl crates id url = .ok profile) :
    protocolOfScheme url.scheme = .ok profile.protocol ∧
      profile.transport = parseTransport (queryMap crates url) ∧
      profile.tls = parseTls (queryMap crates url) ∧ profile.reality = parseReality (queryMap crates url) := by
  obtain ⟨protocol, server, hprotocol, -, rfl⟩ := (profileOfUrl_eq_ok_iff crates).mp h
  exact ⟨hprotocol, rfl, rfl, rfl⟩

def parseUrlProfile (id : Uuid) (input : String) : Except VpnError VpnProfile := do
  let url ← (crates.parseUrl input).mapError .importFailed
  profileOfUrl crates id url

/-! ### Links that carry base64 -/

/-- Both alphabets are taken, and missing padding is added. -/
def decodeBase64 (input : String) : Except VpnError (List UInt8) :=
  let normalized := replaceChar (replaceChar input '-' '+') '_' '/'
  let padded := match normalized.utf8ByteSize % 4 with
    | 0 => normalized
    | missing => normalized ++ String.ofList (List.replicate (4 - missing) '=')
  (crates.decodeBase64 padded).mapError fun error => .importFailed ("invalid base64: " ++ error)

/-- `String::from_utf8`, with what the error says it was. -/
def textOf (what : String) (bytes : List UInt8) : Except VpnError String :=
  match fromUtf8 bytes with
  | some text => .ok text
  | none => .error (.importFailed (what ++ crates.utf8Error bytes))

/-- A port written as a text, or a number cut to sixteen bits. -/
def vmessPort (port : Value) : UInt16 :=
  (((port.asStr.bind parseU16).or (match port with
    | .number n => if 0 ≤ n ∧ n < 2 ^ 64 then some (UInt16.ofNat n.toNat) else none
    | _ => none))).getD 443

def vmessTransportKind : String → TransportKind
  | "ws" => .webSocket
  | "grpc" => .grpc
  | "httpupgrade" => .httpUpgrade
  | "xhttp" => .xhttp
  | "quic" => .quic
  | _ => .tcp

def vmessProfile (id : Uuid) (json : Value) : VpnProfile where
  id := id
  name := (json.get "ps").asStr.getD "VMess"
  protocol := .vmess
  server := (json.get "add").asStr.getD ""
  port := vmessPort (json.get "port")
  auth := { uuid := (json.get "id").asStr }
  transport := {
    kind := vmessTransportKind ((json.get "net").asStr.getD "tcp")
    path := (json.get "path").asStr
    host := (json.get "host").asStr
    serviceName := (json.get "path").asStr }
  tls := some {
    enabled := (json.get "tls").asStr == some "tls" || (json.get "tls").asStr == some "reality"
    serverName := (json.get "sni").asStr.or (json.get "host").asStr
    fingerprint := (json.get "fp").asStr }

def parseVmess (id : Uuid) (input : String) : Except VpnError VpnProfile := do
  let decoded ← decodeBase64 crates (trimStartMatches input "vmess://")
  let json ← (crates.parseJson decoded).mapError fun error =>
    .importFailed ("invalid vmess json: " ++ error)
  return vmessProfile id json

/-- The main part of a Shadowsocks link, decoded unless it shows a host. -/
def shadowsocksMain (main : String) : Except VpnError String :=
  if containsChar main '@' then return main
  else do
    let decoded ← decodeBase64 crates main
    textOf crates "invalid shadowsocks base64: " decoded

/-- The method and password, decoded unless they are already apart. -/
def shadowsocksUserinfo (url : Url) : Except VpnError String :=
  let userinfo := url.username ++ (url.password.map fun password => ":" ++ password).getD ""
  if containsChar userinfo ':' then return userinfo
  else do
    let decoded ← decodeBase64 crates userinfo
    textOf crates "invalid shadowsocks credentials: " decoded

def parseShadowsocks (id : Uuid) (input : String) : Except VpnError VpnProfile := do
  let withoutScheme := trimStartMatches input "ss://"
  let (main, name) := match splitOnce withoutScheme '#' with
    | some (main, fragment) => (main, percentDecode crates fragment)
    | none => (withoutScheme, "Shadowsocks")
  let decodedMain ← shadowsocksMain crates main
  let url ← (crates.parseUrl ("ss://" ++ decodedMain)).mapError .importFailed
  let decodedUserinfo ← shadowsocksUserinfo crates url
  match splitOnce decodedUserinfo ':' with
  | none => throw (.importFailed "shadowsocks method:password is required")
  | some (method, password) =>
    return {
      id
      name
      protocol := .shadowsocks
      server := url.host.getD ""
      port := url.port.getD 8388
      auth := { password := some password, method := some method } }

/-- `id` is the identifier that is drawn for the profile. -/
def importServer (id : Uuid) (input : String) : Except VpnError ImportedServer := do
  let trimmed := trim input
  if trimmed = "" then
    throw (.importFailed "empty import input")
  let profile ←
    if startsWith trimmed "vmess://" then parseVmess crates id trimmed
    else if startsWith trimmed "ss://" then parseShadowsocks crates id trimmed
    else parseUrlProfile crates id trimmed
  return { profile, warnings := [] }

theorem importServer_eq_ok {id : Uuid} {input : String} {imported : ImportedServer}
    (h : importServer crates id input = .ok imported) :
    (if startsWith (trim input) "vmess://" then parseVmess crates id (trim input)
      else if startsWith (trim input) "ss://" then parseShadowsocks crates id (trim input)
      else parseUrlProfile crates id (trim input)) = .ok imported.profile := by
  have hreturn : ∀ {m : Except VpnError VpnProfile},
      (m >>= fun profile => pure { profile, warnings := [] }) = .ok imported → m = .ok imported.profile := by
    intro m hm
    obtain ⟨profile, hprofile, hrest⟩ := Succeeds.bind_eq_ok hm
    cases hrest
    exact hprofile
  rw [importServer] at h
  split at h
  · cases h
  · beta_reduce at h
    dsimp only at h
    split at h
    case isTrue hvmess => rw [if_pos hvmess]; exact hreturn h
    case isFalse hvmess =>
      rw [if_neg hvmess]
      split at h
      case isTrue hshadowsocks => rw [if_pos hshadowsocks]; exact hreturn h
      case isFalse hshadowsocks => rw [if_neg hshadowsocks]; exact hreturn h

/-- A URL that gives a profile is imported, unless its text is that of another kind of link. -/
theorem importServer_of_url {id : Uuid} {input : String} {url : Url} {profile : VpnProfile} (hne : trim input ≠ "")
    (hvmess : startsWith (trim input) "vmess://" = false) (hshadowsocks : startsWith (trim input) "ss://" = false)
    (hurl : crates.parseUrl (trim input) = .ok url) (hprofile : profileOfUrl crates id url = .ok profile) :
    importServer crates id input = .ok { profile, warnings := [] } := by
  have hparse : parseUrlProfile crates id (trim input) = .ok profile := by
    rw [parseUrlProfile, hurl]
    exact hprofile
  simp only [importServer, hvmess, hshadowsocks]
  rw [if_neg hne]
  simp only [Bool.false_eq_true, if_false, hparse]
  rfl

end Parse

end TauriVpn.Import
