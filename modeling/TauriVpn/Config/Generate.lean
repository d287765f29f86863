import TauriVpn.Config.Outbound
import TauriVpn.Config.Route

/-! The sing-box configuration of a connection: the log, DNS, inbound, outbound,
route and experimental sections around the proxy outbound of the profile. Only the
profile can make the generation fail. -/

namespace TauriVpn.Config

def clashApiAddr : String := "127.0.0.1:19090"

/-! ### DNS -/

def dnsUpstreamsForOptions (options : ConnectOptions) : List String :=
  let upstreams := (options.dns.servers.map trim).filter fun server =>
    server ≠ "" && !containsChar server ':'
  if upstreams = [] then ["1.1.1.1", "8.8.8.8"] else upstreams

def publicDohServerName : String → Option String
  | "1.1.1.1" | "1.0.0.1" => some "cloudflare-dns.com"
  | "8.8.8.8" | "8.8.4.4" => some "dns.google"
  | "9.9.9.9" | "149.112.112.112" => some "dns.quad9.net"
  | _ => none

def dnsServerForUpstream (index : ℕ) (server : String) : Value :=
  match publicDohServerName server with
  | some serverName => .object [("type", .string "https"), ("tag", .string s!"dns-{index}"),
      ("server", .string server), ("server_port", .nat 443), ("path", .string "/dns-query"),
      ("detour", .string "proxy"), ("connect_timeout", .string "5s"),
      ("tls", .object [("enabled", .bool true), ("server_name", .string serverName)])]
  | none => .object [("type", .string "tcp"), ("tag", .string s!"dns-{index}"),
      ("server", .string server), ("server_port", .nat 53), ("detour", .string "proxy"),
      ("connect_timeout", .string "5s")]

/-- The bootstrap server, reached directly, and one server for each upstream. -/
def dnsServersForUpstreams (upstreams : List String) : List Value :=
  .object [("type", .string "udp"), ("tag", .string "dns-bootstrap"),
      ("server", .string (upstreams.head?.getD "1.1.1.1")), ("server_port", .nat 53)] ::
    upstreams.mapIdx dnsServerForUpstream

def dnsStrategy : TargetOs → String
  | .ios => "prefer_ipv4"
  | _ => "ipv4_only"

/-! ### Inbounds -/

def tunAddress : TargetOs → List String
  | .ios => ["198.18.0.1/30", "fdfe:dcba:9876::1/126"]
  | _ => ["198.18.0.1/30"]

/-- The protocols that run over QUIC. -/
def isQuicProtocol : VpnProtocol → Bool
  | .hysteria | .hysteria2 | .tuic => true
  | _ => false

def tunStackForProfile (os : TargetOs) (profile : VpnProfile) : String :=
  match os with
  | .android | .ios | .macos => "gvisor"
  | .windows => if isQuicProtocol profile.protocol then "gvisor" else "mixed"
  | .linux => "mixed"

def tunMtuForProfile (profile : VpnProfile) : ℕ :=
  if isQuicProtocol profile.protocol then 1500 else 1400

def tunInbound (os : TargetOs) (options : ConnectOptions) : Value :=
  .object [("type", .string "tun"), ("tag", .string "tun-in"), ("address", .strings (tunAddress os)),
    ("mtu", .nat (tunMtuForProfile options.profile)),
    ("route_exclude_address", .strings localNetworkCidrs), ("auto_route", .bool true),
    ("strict_route", .bool options.killSwitch), ("endpoint_independent_nat", .bool true),
    ("udp_timeout", .string "5m"), ("stack", .string (tunStackForProfile os options.profile))]

def mixedInbound : Value :=
  .object [("type", .string "mixed"), ("tag", .string "mixed-in"), ("listen", .string "127.0.0.1"),
    ("listen_port", .nat 2080)]

/-- macOS has no mixed inbound. -/
def inbounds (os : TargetOs) (options : ConnectOptions) : List Value :=
  match os with
  | .macos => [tunInbound os options]
  | _ => [tunInbound os options, mixedInbound]

/-! ### The whole configuration -/

def routeFinal : RouteMode → String
  | .global | .rule => "proxy"

def directOutbound : Value := .object [("type", .string "direct"), ("tag", .string "direct")]

def blockOutbound : Value := .object [("type", .string "block"), ("tag", .string "block")]

/-- The configuration around a proxy outbound. -/
def configWith (os : TargetOs) (options : ConnectOptions) (outbound : Value) : Value :=
  let dnsUpstreams := dnsUpstreamsForOptions options
  .object [
    ("log", .object [("level", .string "info"), ("timestamp", .bool true)]),
    ("dns", .object [("servers", .array (dnsServersForUpstreams dnsUpstreams)),
      ("strategy", .string (dnsStrategy os)), ("final", .string "dns-0")]),
    ("inbounds", .array (inbounds os options)),
    ("outbounds", .array [outbound, directOutbound, blockOutbound]),
    ("route", .object [
      ("rules", .array (routeRulesForProfile os options.profile options.routeBypassCidrs dnsUpstreams)),
      ("default_domain_resolver", .string "dns-bootstrap"),
      ("final", .string (routeFinal options.routeMode)), ("auto_detect_interface", .bool true)]),
    ("experimental", .object [
      ("clash_api", .object [("external_controller", .string clashApiAddr)])])]

def generateSingBoxConfig (os : TargetOs) (options : ConnectOptions) : Except VpnError Value := do
  let validation := Protocols.validate options.profile
  if validation.valid = false then
    throw (.invalidProfile ("; ".intercalate validation.errors))
  let outbound ← outboundForProfile options.profile
  return configWith os options outbound

/-- The outbound with the tag that the route rules send traffic to. -/
def proxyOutboundOf (config : Value) : Option Value :=
  (config.get "outbounds").items.find? fun outbound => (outbound.get "tag").asStr == some "proxy"

/-- A configuration is generated exactly when the profile passes the checks and has
an outbound, whatever the other options are. -/
theorem generateSingBoxConfig_succeeds (os : TargetOs) (options : ConnectOptions) :
    Succeeds (generateSingBoxConfig os options) ↔
      (Protocols.validate options.profile).valid = true ∧ HasOutbound options.profile := by
  simp only [generateSingBoxConfig]
  rw [Succeeds.check_iff, Bool.not_eq_false, Succeeds.bind_pure_iff, outboundForProfile_succeeds]

/-- A configuration that is generated is made around the outbound of a valid profile. -/
theorem generateSingBoxConfig_eq_ok {os : TargetOs} {options : ConnectOptions} {config : Value}
    (h : generateSingBoxConfig os options = .ok config) :
    (Protocols.validate options.profile).valid = true ∧
      ∃ outbound, outboundForProfile options.profile = .ok outbound ∧ config = configWith os options outbound := by
  have hvalid := ((generateSingBoxConfig_succeeds os options).mp (.of_eq h)).1
  simp only [generateSingBoxConfig] at h
  rw [if_neg (by simp [hvalid])] at h
  obtain ⟨outbound, houtbound, hconfig⟩ := Succeeds.bind_eq_ok h
  exact ⟨hvalid, outbound, houtbound, (Except.ok.inj hconfig).symm⟩

theorem proxyOutboundOf_configWith (os : TargetOs) (options : ConnectOptions) {outbound : Value}
    (htag : outbound.get "tag" = .string "proxy") :
    proxyOutboundOf (configWith os options outbound) = some outbound := by
  have houtbounds : (configWith os options outbound).get "outbounds" =
      .array [outbound, directOutbound, blockOutbound] := rfl
  rw [proxyOutboundOf, houtbounds]
  simp only [Value.items, List.find?_cons, htag, Value.asStr, beq_self_eq_true]

/-- The proxy of a generated configuration is the outbound of the profile. -/
theorem outbound_of_generated {os : TargetOs} {options : ConnectOptions} {config : Value}
    (h : generateSingBoxConfig os options = .ok config) :
    ∃ outbound, outboundForProfile options.profile = .ok outbound ∧ proxyOutboundOf config = some outbound := by
  obtain ⟨-, outbound, houtbound, rfl⟩ := generateSingBoxConfig_eq_ok h
  exact ⟨outbound, houtbound, proxyOutboundOf_configWith os options (outboundForProfile_get houtbound).1⟩

/-- The configuration that is generated has the outbound of the profile as its proxy. -/
theorem generate_proxyOutbound (os : TargetOs) (options : ConnectOptions) {outbound : Value}
    (hvalid : (Protocols.validate options.profile).valid = true)
    (houtbound : outboundForProfile options.profile = .ok outbound)
    (htag : outbound.get "tag" = .string "proxy") :
    ∃ config, generateSingBoxConfig os options = .ok config ∧ proxyOutboundOf config = some outbound := by
  refine ⟨configWith os options outbound, ?_, proxyOutboundOf_configWith os options htag⟩
  simp only [generateSingBoxConfig]
  rw [if_neg (by simp [hvalid]), houtbound]
  rfl

end TauriVpn.Config
