import TauriVpn.Models
import TauriVpn.Text

/-! The protocols that are offered, and the checks that a profile passes before a
configuration is made from it. Every check that fails reports one error; a profile is valid
when none does. -/

namespace TauriVpn.Protocols

def supportedPlatforms : List String := ["windows", "macos", "linux", "android", "ios"]

/-- The protocols, with the schemes of their links. -/
def listProtocols : List ProtocolInfo :=
  [(VpnProtocol.vless, "VLESS", ["vless"]), (.vmess, "VMess", ["vmess"]), (.trojan, "Trojan", ["trojan"]),
    (.shadowsocks, "Shadowsocks", ["ss"]), (.wireGuard, "WireGuard", ["wireguard", "wg"]),
    (.hysteria, "Hysteria", ["hysteria"]), (.hysteria2, "Hysteria2", ["hysteria2", "hy2"]), (.tuic, "TUIC", ["tuic"]),
    (.tun, "TUN", []), (.mixed, "Mixed", []), (.socks, "SOCKS", ["socks", "socks5"]), (.http, "HTTP", ["http", "https"]),
    (.olcRtc, "OLC RTC", ["olcrtc", "olcrtc+wbstream", "wbstream"])].map
    fun (protocol, displayName, uriSchemes) =>
      { protocol, displayName, supportedOn := supportedPlatforms, uriSchemes }

/-- The message of a check that failed. -/
def report (failed : Prop) [Decidable failed] (message : String) : List String :=
  if failed then [message] else []

/-- A value that is missing or empty. -/
def isMissing (value : Option String) : Prop := value.getD "" = ""

instance (value : Option String) : Decidable (isMissing value) :=
  inferInstanceAs (Decidable (value.getD "" = ""))

/-- Thirty-two bytes in hexadecimal digits. -/
def isSharedKey (key : String) : Prop :=
  key.utf8ByteSize = 64 ∧ key.toList.all isAsciiHexdigit = true

instance (key : String) : Decidable (isSharedKey key) := inferInstanceAs (Decidable (_ ∧ _))

def sharedKeyErrors (password : Option String) : List String :=
  report (isMissing password) "OLC RTC shared key is required" ++
    match password with
    | some key => report (¬isSharedKey key) "OLC RTC shared key must be a 32-byte hex string"
    | none => []

/-- The provider that the check reads; a blank one is not taken for the default here. -/
def provider (profile : VpnProfile) : String :=
  ((profile.extra.lookup "provider").bind Value.asStr).getD "wb_stream"

def protocolErrors (profile : VpnProfile) : List String :=
  match profile.protocol with
  | .vless | .vmess => report (isMissing profile.auth.uuid) "uuid is required"
  | .trojan | .hysteria | .hysteria2 | .tuic =>
    report (isMissing profile.auth.password) "password is required"
  | .shadowsocks =>
    report (isMissing profile.auth.password) "password is required" ++
      report (isMissing profile.auth.method) "cipher method is required"
  | .wireGuard => report (profile.wireguard.isNone = true) "wireGuard options are required"
  | .tun | .mixed => ["local inbound modes cannot be used as remote server protocols"]
  | .socks | .http => []
  | .olcRtc =>
    sharedKeyErrors profile.auth.password ++
      report (provider profile ≠ "wb_stream") "only OLC RTC wb_stream provider is supported"

def protocolWarnings (profile : VpnProfile) : List String :=
  report (profile.protocol = .socks ∨ profile.protocol = .http)
    "SOCKS/HTTP are proxy protocols and may not provide full VPN semantics"

def validationErrors (profile : VpnProfile) : List String :=
  report (isBlank profile.name = true) "name is required" ++
    report (isBlank profile.server = true) "server is required" ++
    report (profile.port = 0) "port must be greater than zero" ++
    protocolErrors profile ++
    report (profile.reality.isSome = true ∧ profile.protocol ≠ .vless)
      "REALITY options are only supported for VLESS"

def validationWarnings (profile : VpnProfile) : List String :=
  protocolWarnings profile ++
    report (profile.transport.kind = .xhttp)
      "XHTTP compatibility depends on the bundled sing-box version" ++
    report (profile.protocol = .olcRtc)
      "OLC RTC starts a local SOCKS5 client and routes sing-box through stream.wb.ru"

def validate (profile : VpnProfile) : ValidationResult where
  valid := (validationErrors profile).isEmpty
  errors := validationErrors profile
  warnings := validationWarnings profile

/-! ### What a valid profile has -/

/-- A name, a remote server and a port. -/
def HasServer (profile : VpnProfile) : Prop :=
  isBlank profile.name = false ∧ isBlank profile.server = false ∧ profile.port ≠ 0

/-- REALITY options only on VLESS. -/
def RealityAllowed (profile : VpnProfile) : Prop :=
  profile.reality.isSome = true → profile.protocol = .vless

/-- What the checks of its protocol ask of a profile. -/
def HasCredentials (profile : VpnProfile) : Prop :=
  match profile.protocol with
  | .vless | .vmess => ¬isMissing profile.auth.uuid
  | .trojan | .hysteria | .hysteria2 | .tuic => ¬isMissing profile.auth.password
  | .shadowsocks => ¬isMissing profile.auth.password ∧ ¬isMissing profile.auth.method
  | .wireGuard => profile.wireguard.isSome = true
  | .tun | .mixed => False
  | .socks | .http => True
  | .olcRtc => (∃ key, profile.auth.password = some key ∧ isSharedKey key) ∧ provider profile = "wb_stream"

@[simp] theorem report_eq_nil (failed : Prop) [Decidable failed] (message : String) :
    report failed message = [] ↔ ¬failed := by
  unfold report
  split_ifs with h
  · simp [h]
  · simp [h]

theorem isSharedKey_ne_empty {key : String} (h : isSharedKey key) : key ≠ "" := by
  rintro rfl
  exact absurd h.1 (by decide)

theorem sharedKeyErrors_eq_nil (password : Option String) :
    sharedKeyErrors password = [] ↔ ∃ key, password = some key ∧ isSharedKey key := by
  cases password with
  | none => simp [sharedKeyErrors, isMissing]
  | some key =>
    rw [sharedKeyErrors, List.append_eq_nil_iff, report_eq_nil, report_eq_nil, not_not]
    simp only [Option.some.injEq, exists_eq_left']
    exact and_iff_right_of_imp isSharedKey_ne_empty

theorem protocolErrors_eq_nil (profile : VpnProfile) :
    protocolErrors profile = [] ↔ HasCredentials profile := by
  unfold protocolErrors HasCredentials
  cases profile.protocol with
  | vless | vmess | trojan | hysteria | hysteria2 | tuic => exact report_eq_nil _ _
  | shadowsocks => simp
  | wireGuard => simp [Option.isSome_iff_ne_none]
  | tun | mixed => simp
  | socks | http => simp
  | olcRtc => simp [sharedKeyErrors_eq_nil]

/-- A profile is valid exactly when it has a server and what its protocol needs. -/
theorem validate_valid (profile : VpnProfile) : (validate profile).valid = true ↔
    HasServer profile ∧ HasCredentials profile ∧ RealityAllowed profile := by
  simp only [validate, validationErrors, List.isEmpty_iff, List.append_eq_nil_iff, report_eq_nil,
    protocolErrors_eq_nil, HasServer, RealityAllowed, Bool.not_eq_true, not_and, not_not, and_assoc,
    ne_eq]

end TauriVpn.Protocols
