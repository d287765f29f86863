import TauriVpn.Json

/-! The data that the commands, the engine and the configuration share. -/

namespace TauriVpn

abbrev Uuid := BitVec 128

inductive VpnProtocol where
  | vless | vmess | trojan | shadowsocks | wireGuard | hysteria | hysteria2 | tuic
  | tun | mixed | socks | http | olcRtc
  deriving DecidableEq, Repr

structure AuthOptions where
  uuid : Option String := none
  password : Option String := none
  method : Option String := none
  username : Option String := none

inductive TransportKind where
  | tcp | webSocket | grpc | httpUpgrade | xhttp | quic
  deriving DecidableEq, Repr

structure Transport where
  kind : TransportKind := .tcp
  path : Option String := none
  host : Option String := none
  serviceName : Option String := none
  headers : List (String × String) := []

structure TlsOptions where
  enabled : Bool
  serverName : Option String := none
  alpn : List String := []
  insecure : Bool := false
  fingerprint : Option String := none

structure RealityOptions where
  publicKey : String
  shortId : Option String := none
  spiderX : Option String := none

structure WireGuardOptions where
  privateKey : String
  peerPublicKey : Option String := none
  preSharedKey : Option String := none
  localAddress : List String := []
  reserved : Option (List UInt8) := none

structure VpnProfile where
  id : Uuid
  name : String
  protocol : VpnProtocol
  server : String
  port : UInt16
  auth : AuthOptions
  transport : Transport := {}
  tls : Option TlsOptions := none
  reality : Option RealityOptions := none
  wireguard : Option WireGuardOptions := none
  extra : List (String × Value) := []

inductive DnsStrategy where
  | ipv4Only | ipv6Only | preferIpv4 | preferIpv6
  deriving DecidableEq, Repr

structure DnsOptions where
  strategy : DnsStrategy := .ipv4Only
  servers : List String := ["1.1.1.1", "8.8.8.8"]

inductive RouteMode where
  | global | rule
  deriving DecidableEq, Repr

structure ConnectOptions where
  profile : VpnProfile
  routeMode : RouteMode := .global
  routeBypassCidrs : List String := []
  dns : DnsOptions := {}
  killSwitch : Bool := false

structure ImportedServer where
  profile : VpnProfile
  warnings : List String

structure ValidationResult where
  valid : Bool
  errors : List String
  warnings : List String

structure ProtocolInfo where
  protocol : VpnProtocol
  displayName : String
  supportedOn : List String
  uriSchemes : List String

inductive ConnectionPhase where
  | disconnected | connecting | connected | disconnecting | failed
  deriving DecidableEq, Repr

structure TrafficStats where
  uploadedBytes : UInt64 := 0
  downloadedBytes : UInt64 := 0
  deriving DecidableEq

structure ConnectionStatus where
  phase : ConnectionPhase := .disconnected
  activeProfileId : Option Uuid := none
  message : Option String := none
  stats : TrafficStats := {}
  deriving DecidableEq

/-- The target the plugin is compiled for. -/
inductive TargetOs where
  | windows | macos | linux | android | ios
  deriving DecidableEq, Repr

/-- `cfg(any(target_os = "android", target_os = "ios"))`. -/
def TargetOs.isMobile : TargetOs → Bool
  | .android | .ios => true
  | _ => false

end TauriVpn
