import TauriVpn.Config.DnsUpstreams
import TauriVpn.Config.References
import TauriVpn.Config.LocalProxy

/-! What connect options ask for, apart from how a configuration says it: the server that is
dialled and how the client makes itself known to it, TLS, the transport, the DNS upstreams and
the ranges that stay outside. On one target the configuration is decided by this and shows all
of it. The other options (the name and the id of the profile, the route mode, the DNS
strategy, whatever belongs to another protocol) do not reach it. -/

namespace TauriVpn.Config

open Olcrtc

/-! ### The server -/

/-- How the client makes itself known. The client's own proxy asks for nothing. -/
inductive Login where
  | vless (uuid flow : String)
  | vmess (uuid security : String)
  | trojan (password : String)
  | shadowsocks (method password : String)
  | wireGuard (privateKey : String) (peerPublicKey preSharedKey : Option String) (localAddress : List String)
      (reserved : Option (List UInt8))
  | hysteria (password : String) (obfs : Option String)
  | hysteria2 (password : String) (obfs : Option (String × String))
  | tuic (uuid : Option String) (password : String)
  | socks (username password : Option String)
  | http (username password : Option String)
  | olcRtc
  deriving DecidableEq

namespace Login

def type : Login → String
  | vless _ _ => "vless"
  | vmess _ _ => "vmess"
  | trojan _ => "trojan"
  | shadowsocks _ _ => "shadowsocks"
  | wireGuard _ _ _ _ _ => "wireguard"
  | hysteria _ _ => "hysteria"
  | hysteria2 _ _ => "hysteria2"
  | tuic _ _ => "tuic"
  | socks _ _ | olcRtc => "socks"
  | http _ _ => "http"

def protocol : Login → VpnProtocol
  | vless _ _ => .vless
  | vmess _ _ => .vmess
  | trojan _ => .trojan
  | shadowsocks _ _ => .shadowsocks
  | wireGuard _ _ _ _ _ => .wireGuard
  | hysteria _ _ => .hysteria
  | hysteria2 _ _ => .hysteria2
  | tuic _ _ => .tuic
  | socks _ _ => .socks
  | http _ _ => .http
  | olcRtc => .olcRtc

/-- What the outbound holds beside the address. -/
def members : Login → List (String × Value)
  | vless uuid flow => [("uuid", .string uuid), ("flow", .string flow)]
  | vmess uuid security => [("uuid", .string uuid), ("security", .string security)]
  | trojan password => [("password", .string password)]
  | shadowsocks method password => [("method", .string method), ("password", .string password)]
  | wireGuard privateKey peerPublicKey preSharedKey localAddress reserved =>
    [("private_key", .string privateKey), ("peer_public_key", .optStr peerPublicKey),
      ("pre_shared_key", .optStr preSharedKey), ("local_address", .strings localAddress),
      ("reserved", .ofOption (reserved.map fun bytes => .nats (bytes.map UInt8.toNat)))]
  | hysteria password obfs =>
    [("auth_str", .string password), ("up_mbps", .nat 10000), ("down_mbps", .nat 10000)] ++
      obfs.toList.map fun obfs => ("obfs", .string obfs)
  | hysteria2 password obfs =>
    ("password", .string password) ::
      obfs.toList.map fun obfs => ("obfs", .object [("type", .string obfs.1), ("password", .string obfs.2)])
  | tuic uuid password => [("uuid", .optStr uuid), ("password", .string password)]
  | socks username password | http username password =>
    [("username", .optStr username), ("password", .optStr password)]
  | olcRtc => []

end Login

/-- The TLS that is asked of the server. -/
inductive ServerTls where
  | tls (serverName : Option String) (alpn : List String) (insecure : Bool) (fingerprint : Option String)
  | reality (serverName : Option String) (publicKey : String) (shortId fingerprint : Option String)
  deriving DecidableEq

namespace ServerTls

def utls (fingerprint : Option String) : Value :=
  .ofOption (fingerprint.map fun fingerprint => .object [("enabled", .bool true), ("fingerprint", .string fingerprint)])

def object : ServerTls → Value
  | tls serverName alpn insecure fingerprint =>
    .object [("enabled", .bool true), ("server_name", .optStr serverName), ("alpn", .strings alpn),
      ("insecure", .bool insecure), ("utls", utls fingerprint)]
  | reality serverName publicKey shortId fingerprint =>
    .object [("enabled", .bool true), ("server_name", .optStr serverName),
      ("reality", .object [("enabled", .bool true), ("public_key", .string publicKey), ("short_id", .optStr shortId)]),
      ("utls", utls fingerprint)]

theorem isObject (tls : ServerTls) : tls.object.IsObject := by
  cases tls <;> exact ⟨_, rfl⟩

end ServerTls

section Config
variable {os : TargetOs} {options options' : ConnectOptions} {outbound outbound' : Value}

end Config

end TauriVpn.Config
