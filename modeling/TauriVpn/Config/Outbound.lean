import TauriVpn.Olcrtc.Config
import TauriVpn.Protocols

/-! The proxy outbound that a profile describes. The object of its protocol comes
first; the TLS and transport objects are then written into it, and REALITY
options replace the TLS object. -/

namespace TauriVpn.Config

/-- The value, unless it is missing or empty. -/
def required (value : Option String) (field : String) : Except VpnError String :=
  match value.filter (· ≠ "") with
  | some value => .ok value
  | none => .error (.invalidProfile (field ++ " is required"))

/-- A string among the profile's extra data. -/
def extraStr (profile : VpnProfile) (key : String) : Option String :=
  (profile.extra.lookup key).bind Value.asStr

def ipv4OnlyCidrs (values : List String) : List String :=
  (values.map trim).filter fun value => value ≠ "" && !containsChar value ':'

def hysteria2Obfs (profile : VpnProfile) : Option Value := do
  let obfsType ← extraStr profile "obfs"
  let password ← ((profile.extra.lookup "obfs-password").or (profile.extra.lookup "obfsPassword")).bind
    Value.asStr
  return .object [("type", .string obfsType), ("password", .string password)]

/-- The members that the outbounds to a remote server begin with. -/
def remoteServer (type : String) (profile : VpnProfile) : List (String × Value) :=
  [("type", .string type), ("tag", .string "proxy"), ("server", .string profile.server),
    ("server_port", .nat profile.port.toNat)]

def wireGuardOutbound (profile : VpnProfile) : Except VpnError Value :=
  match profile.wireguard with
  | none => .error (.invalidProfile "wireGuard options are required")
  | some wg =>
    let localAddress := ipv4OnlyCidrs wg.localAddress
    if localAddress = [] then
      .error (.invalidProfile "wireGuard local_address must contain an IPv4 address")
    else
      .ok (.object (remoteServer "wireguard" profile ++ [
        ("private_key", .string wg.privateKey), ("peer_public_key", .optStr wg.peerPublicKey),
        ("pre_shared_key", .optStr wg.preSharedKey), ("local_address", .strings localAddress),
        ("reserved", .ofOption (wg.reserved.map fun bytes => .nats (bytes.map UInt8.toNat)))]))

/-- SOCKS and HTTP take credentials where there are any. -/
def credentialsOutbound (type : String) (profile : VpnProfile) : Value :=
  .object (remoteServer type profile ++ [
    ("username", .optStr profile.auth.username), ("password", .optStr profile.auth.password)])

/-- The outbound before its TLS and transport objects. -/
def baseOutbound (profile : VpnProfile) : Except VpnError Value :=
  match profile.protocol with
  | .vless => do
    let uuid ← required profile.auth.uuid "uuid"
    return .object (remoteServer "vless" profile ++ [
      ("uuid", .string uuid), ("flow", .string ((extraStr profile "flow").getD ""))])
  | .vmess => do
    let uuid ← required profile.auth.uuid "uuid"
    return .object (remoteServer "vmess" profile ++ [
      ("uuid", .string uuid), ("security", .string ((extraStr profile "security").getD "auto"))])
  | .trojan => do
    let password ← required profile.auth.password "password"
    return .object (remoteServer "trojan" profile ++ [("password", .string password)])
  | .shadowsocks => do
    let method ← required profile.auth.method "method"
    let password ← required profile.auth.password "password"
    return .object (remoteServer "shadowsocks" profile ++ [
      ("method", .string method), ("password", .string password)])
  | .wireGuard => wireGuardOutbound profile
  | .hysteria => do
    let password ← required profile.auth.password "password"
    return (Value.object (remoteServer "hysteria" profile ++ [
      ("auth_str", .string password), ("up_mbps", .nat 10000), ("down_mbps", .nat 10000),
      ("obfs", .optStr (extraStr profile "obfs"))])).stripNulls
  | .hysteria2 => do
    let password ← required profile.auth.password "password"
    return (Value.object (remoteServer "hysteria2" profile ++ [
      ("password", .string password), ("obfs", .ofOption (hysteria2Obfs profile))])).stripNulls
  | .tuic => do
    let password ← required profile.auth.password "password"
    return .object (remoteServer "tuic" profile ++ [
      ("uuid", .optStr profile.auth.uuid), ("password", .string password)])
  | .socks => return credentialsOutbound "socks" profile
  | .http => return credentialsOutbound "http" profile
  | .olcRtc => do
    let (server, port) ← Olcrtc.localSocksEndpoint profile
    return .object [("type", .string "socks"), ("tag", .string "proxy"), ("server", .string server),
      ("server_port", .nat port.toNat)]
  | .tun | .mixed => .error (.unsupported "local inbound mode cannot be used as outbound")

/-! ### TLS and transport -/

def supportsUtls : VpnProtocol → Bool
  | .hysteria | .hysteria2 | .tuic => false
  | _ => true

def utls (protocol : VpnProtocol) (fingerprint : Option String) : Value :=
  if supportsUtls protocol then
    .ofOption (fingerprint.map fun fingerprint =>
      .object [("enabled", .bool true), ("fingerprint", .string fingerprint)])
  else .null

def tlsObject (protocol : VpnProtocol) (tls : TlsOptions) : Value :=
  .object [("enabled", .bool true), ("server_name", .optStr tls.serverName), ("alpn", .strings tls.alpn),
    ("insecure", .bool tls.insecure), ("utls", utls protocol tls.fingerprint)]

def realityObject (protocol : VpnProtocol) (tls : Option TlsOptions) (reality : RealityOptions) : Value :=
  .object [("enabled", .bool true), ("server_name", .optStr (tls.bind (·.serverName))),
    ("reality", .object [("enabled", .bool true), ("public_key", .string reality.publicKey),
      ("short_id", .optStr reality.shortId)]),
    ("utls", utls protocol (tls.bind (·.fingerprint)))]

def addTls (profile : VpnProfile) (outbound : Value) : Value :=
  let outbound := match profile.tls with
    | some tls => if tls.enabled then outbound.set "tls" (tlsObject profile.protocol tls) else outbound
    | none => outbound
  match profile.reality with
  | some reality => outbound.set "tls" (realityObject profile.protocol profile.tls reality)
  | none => outbound

/-- The transport object, of every transport but plain TCP. -/
def transportObject (transport : Transport) : Option Value :=
  match transport.kind with
  | .tcp => none
  | .webSocket => some (.object [("type", .string "ws"), ("path", .optStr transport.path),
      ("headers", .object (transport.headers.map fun header => (header.1, .string header.2)))])
  | .grpc => some (.object [("type", .string "grpc"), ("service_name", .optStr transport.serviceName)])
  | .httpUpgrade => some (.object [("type", .string "httpupgrade"), ("path", .optStr transport.path),
      ("host", .optStr transport.host)])
  | .xhttp => some (.object [("type", .string "xhttp"), ("path", .optStr transport.path),
      ("host", .optStr transport.host)])
  | .quic => some (.object [("type", .string "quic")])

def addTransport (profile : VpnProfile) (outbound : Value) : Value :=
  match transportObject profile.transport with
  | some transport => outbound.set "transport" transport
  | none => outbound

def outboundForProfile (profile : VpnProfile) : Except VpnError Value := do
  let base ← baseOutbound profile
  return addTransport profile (addTls profile base)

/-! ### The members of an outbound -/

/-- The TLS object that remains when there are REALITY options as well. -/
def tlsMember (profile : VpnProfile) : Option Value :=
  match profile.reality with
  | some reality => some (realityObject profile.protocol profile.tls reality)
  | none => (profile.tls.filter (·.enabled)).map (tlsObject profile.protocol)

section Members
variable (profile : VpnProfile) {outbound : Value}

theorem addTls_isObject (h : outbound.IsObject) : (addTls profile outbound).IsObject := by
  unfold addTls
  cases profile.tls with
  | none =>
    cases profile.reality with
    | none => exact h
    | some reality => exact h.set _ _
  | some tls =>
    cases henabled : tls.enabled with
    | true =>
      cases profile.reality with
      | none => simpa only [henabled, if_true] using h.set _ _
      | some reality => simpa only [henabled, if_true] using (h.set _ _).set _ _
    | false =>
      cases profile.reality with
      | none => simpa [henabled] using h
      | some reality => simpa [henabled] using h.set _ _

/-- `add_tls` writes the TLS object and nothing else. -/
theorem get_addTls (h : outbound.IsObject) (k : String) : (addTls profile outbound).get k =
    if k = "tls" then (tlsMember profile).getD (outbound.get k) else outbound.get k := by
  unfold addTls tlsMember
  cases profile.tls with
  | none =>
    cases profile.reality with
    | none => simp
    | some reality => simp only [h.get_set, Option.getD_some]
  | some tls =>
    cases henabled : tls.enabled with
    | true =>
      cases profile.reality with
      | none => simp [henabled, h.get_set, Option.filter_some]
      | some reality =>
        simp only [henabled, if_true, (h.set _ _).get_set, h.get_set, Option.getD_some]
        split_ifs <;> rfl
    | false =>
      cases profile.reality with
      | none => simp [henabled, Option.filter_some]
      | some reality => simp [henabled, h.get_set]

/-- `add_transport` writes the transport object and nothing else. -/
theorem get_addTransport (h : outbound.IsObject) (k : String) : (addTransport profile outbound).get k =
    if k = "transport" then (transportObject profile.transport).getD (outbound.get k)
    else outbound.get k := by
  unfold addTransport
  cases transportObject profile.transport with
  | none => simp
  | some transport => simp only [h.get_set, Option.getD_some]

end Members

/-! ### Which profiles have an outbound -/

/-- What the outbound of its protocol needs of a profile. -/
def HasOutbound (profile : VpnProfile) : Prop :=
  match profile.protocol with
  | .vless | .vmess => ¬Protocols.isMissing profile.auth.uuid
  | .trojan | .hysteria | .hysteria2 | .tuic => ¬Protocols.isMissing profile.auth.password
  | .shadowsocks => ¬Protocols.isMissing profile.auth.method ∧ ¬Protocols.isMissing profile.auth.password
  | .wireGuard => ∃ wg, profile.wireguard = some wg ∧ ipv4OnlyCidrs wg.localAddress ≠ []
  | .socks | .http => True
  | .olcRtc => Succeeds (Olcrtc.OlcRtcConfig.fromProfile profile)
  | .tun | .mixed => False

theorem required_of_not_missing {value : Option String} (h : ¬Protocols.isMissing value) (field : String) :
    required value field = .ok (value.getD "") := by
  cases value with
  | none => exact absurd rfl h
  | some value =>
    have hne : value ≠ "" := h
    rw [required, Option.filter_some, if_pos (by simpa using hne)]
    rfl

theorem required_succeeds (value : Option String) (field : String) :
    Succeeds (required value field) ↔ ¬Protocols.isMissing value := by
  constructor
  · rintro ⟨a, h⟩ hmissing
    cases value with
    | none => cases h
    | some value =>
      have hempty : value = "" := hmissing
      rw [hempty] at h
      cases h
  · intro h
    exact .of_eq (required_of_not_missing h field)

theorem wireGuardOutbound_succeeds (profile : VpnProfile) : Succeeds (wireGuardOutbound profile) ↔
    ∃ wg, profile.wireguard = some wg ∧ ipv4OnlyCidrs wg.localAddress ≠ [] := by
  unfold wireGuardOutbound
  cases profile.wireguard with
  | none => simp
  | some wg =>
    by_cases h : ipv4OnlyCidrs wg.localAddress = []
    · simp [h]
    · simp [h]

theorem baseOutbound_succeeds (profile : VpnProfile) :
    Succeeds (baseOutbound profile) ↔ HasOutbound profile := by
  unfold baseOutbound HasOutbound
  cases profile.protocol with
  | vless | vmess | trojan | hysteria | hysteria2 | tuic =>
    exact (Succeeds.bind_pure_iff _ _).trans (required_succeeds _ _)
  | shadowsocks =>
    refine (Succeeds.bind_iff _ _).trans ?_
    simp only [Succeeds.bind_pure_iff, required_succeeds]
    rw [← required_succeeds profile.auth.method "method", Succeeds, exists_and_right]
  | wireGuard => exact wireGuardOutbound_succeeds profile
  | socks | http => simp
  | olcRtc =>
    exact (Succeeds.bind_pure_iff _ _).trans (Olcrtc.localSocksEndpoint_succeeds profile)
  | tun | mixed => simp

/-- The outbound of a VLESS profile before its TLS and transport objects. -/
theorem baseOutbound_vless {profile : VpnProfile} (hprotocol : profile.protocol = .vless)
    (huuid : ¬Protocols.isMissing profile.auth.uuid) : baseOutbound profile =
      .ok (.object (remoteServer "vless" profile ++ [("uuid", .string (profile.auth.uuid.getD "")),
        ("flow", .string ((extraStr profile "flow").getD ""))])) := by
  simp only [baseOutbound, hprotocol, required_of_not_missing huuid]
  rfl

/-- What every outbound is before its TLS and transport objects are written into it. -/
structure IsBase (outbound : Value) : Prop where
  isObject : outbound.IsObject
  tag : outbound.get "tag" = .string "proxy"
  tls : outbound.get "tls" = .null
  transport : outbound.get "transport" = .null

theorem isBase_remote (type : String) (profile : VpnProfile) {rest : List (String × Value)}
    (htls : rest.lookup "tls" = none) (htransport : rest.lookup "transport" = none) :
    IsBase (.object (remoteServer type profile ++ rest)) where
  isObject := ⟨_, rfl⟩
  tag := by simp [remoteServer, List.lookup_cons]
  tls := by simp [remoteServer, List.lookup_cons, htls]
  transport := by simp [remoteServer, List.lookup_cons, htransport]

theorem IsBase.stripNulls {members : List (String × Value)} (hnodup : (members.map Prod.fst).Nodup)
    (h : IsBase (.object members)) : IsBase (Value.object members).stripNulls where
  isObject := h.isObject.stripNulls
  tag := (Value.get_stripNulls hnodup _).trans h.tag
  tls := (Value.get_stripNulls hnodup _).trans h.tls
  transport := (Value.get_stripNulls hnodup _).trans h.transport

theorem baseOutbound_isBase {profile : VpnProfile} {base : Value} (h : baseOutbound profile = .ok base) :
    IsBase base := by
  unfold baseOutbound at h
  cases hp : profile.protocol with
  | vless | vmess | trojan | tuic =>
    simp only [hp] at h
    obtain ⟨value, -, hbase⟩ := Succeeds.bind_eq_ok h
    cases hbase
    exact isBase_remote _ profile rfl rfl
  | hysteria | hysteria2 =>
    simp only [hp] at h
    obtain ⟨password, -, hbase⟩ := Succeeds.bind_eq_ok h
    cases hbase
    exact (isBase_remote _ profile rfl rfl).stripNulls (by simp [remoteServer])
  | shadowsocks =>
    simp only [hp] at h
    obtain ⟨method, -, hmethod⟩ := Succeeds.bind_eq_ok h
    obtain ⟨password, -, hbase⟩ := Succeeds.bind_eq_ok hmethod
    cases hbase
    exact isBase_remote _ profile rfl rfl
  | wireGuard =>
    simp only [hp, wireGuardOutbound] at h
    split at h
    · cases h
    · split at h
      · cases h
      · cases h
        exact isBase_remote _ profile rfl rfl
  | socks | http =>
    simp only [hp] at h
    cases h
    exact isBase_remote _ profile rfl rfl
  | olcRtc =>
    simp only [hp] at h
    obtain ⟨endpoint, -, hbase⟩ := Succeeds.bind_eq_ok h
    cases hbase
    exact ⟨⟨_, rfl⟩, rfl, rfl, rfl⟩
  | tun | mixed =>
    simp only [hp] at h
    cases h

/-- What the proxy outbound of a profile holds under the keys that the parts of it share. -/
theorem outboundForProfile_get {profile : VpnProfile} {outbound : Value}
    (h : outboundForProfile profile = .ok outbound) :
    outbound.get "tag" = .string "proxy" ∧ outbound.get "tls" = Value.ofOption (tlsMember profile) ∧
      outbound.get "transport" = Value.ofOption (transportObject profile.transport) := by
  obtain ⟨base, hbase, houtbound⟩ := Succeeds.bind_eq_ok h
  cases houtbound
  have hb := baseOutbound_isBase hbase
  have htls := addTls_isObject profile hb.isObject
  refine ⟨?_, ?_, ?_⟩
  · rw [get_addTransport profile htls, if_neg (by decide), get_addTls profile hb.isObject, if_neg (by decide), hb.tag]
  · rw [get_addTransport profile htls, if_neg (by decide), get_addTls profile hb.isObject, if_pos rfl, hb.tls]
    cases tlsMember profile <;> rfl
  · rw [get_addTransport profile htls, if_pos rfl, get_addTls profile hb.isObject, if_neg (by decide), hb.transport]
    cases transportObject profile.transport <;> rfl

/-- TLS and transport options decide nothing about whether there is an outbound. -/
theorem outboundForProfile_succeeds (profile : VpnProfile) :
    Succeeds (outboundForProfile profile) ↔ HasOutbound profile :=
  (Succeeds.bind_pure_iff _ _).trans (baseOutbound_succeeds profile)

end TauriVpn.Config
