import TauriVpn.Config.LocalProxy
import TauriVpn.Lib.SocketAddr

/-! Whether the local endpoint of an OLC RTC profile can be listened on. The client binds
the socket address that the host and the port of the profile spell; sing-box connects to
the same two, and listens on ports of its own in the same configuration. -/

namespace TauriVpn.Olcrtc

open SocketText

/-- The address that `start_platform` binds. -/
def localAddr (config : OlcRtcConfig) : Except VpnError SocketAddr :=
  match readSocket (config.localHost ++ ":" ++ toString config.localPort.toNat).toList with
  | some addr => .ok addr
  | none => .error (.invalidProfile "invalid OLC RTC local address: invalid socket address syntax")

/-- The text of a host and a port is an address exactly when the host alone is one. -/
theorem localAddr_eq_ok_iff (config : OlcRtcConfig) (addr : SocketAddr) : localAddr config = .ok addr ↔
    readSocketHost config.localHost.toList = some addr.ip ∧ addr.port = config.localPort := by
  have htext : (config.localHost ++ ":" ++ toString config.localPort.toNat).toList =
      config.localHost.toList ++ ':' :: portText config.localPort := by
    rw [String.toList_append, String.toList_append, Nat.toString_eq_repr, Nat.toList_repr, List.append_assoc]
    rfl
  rw [localAddr, htext, readSocket_host_port]
  cases readSocketHost config.localHost.toList with
  | none => exact iff_of_false (fun h => nomatch h) fun h => nomatch h.1
  | some ip =>
    obtain ⟨ip', port⟩ := addr
    simp only [Option.map_some, Except.ok.injEq, SocketAddr.mk.injEq, Option.some.injEq]
    exact and_congr_right fun _ => eq_comm

end TauriVpn.Olcrtc

namespace TauriVpn.Config

open Protocols Olcrtc SocketText

/-- The ports that a configuration makes sing-box listen on. -/
def listenPorts (config : Value) : List ℕ :=
  (config.get "inbounds").items.filterMap (fun inbound =>
    match inbound.get "listen_port" with
    | .number n => some n.toNat
    | _ => none) ++
  (((((config.get "experimental").get "clash_api").get "external_controller").asStr.bind
    fun controller => readSocket controller.toList).map fun addr => addr.port.toNat).toList

theorem listenPorts_configWith {os : TargetOs} (hos : os = .linux ∨ os = .windows) (options : ConnectOptions)
    (outbound : Value) : listenPorts (configWith os options outbound) = [2080, 19090] := by
  have hclash : readSocket clashApiAddr.toList =
      some { ip := .v4 { octets := [127, 0, 0, 1], length_octets := rfl }, port := 19090 } := by decide
  have hcontroller : (((configWith os options outbound).get "experimental").get "clash_api").get "external_controller" =
      .string clashApiAddr := rfl
  rw [listenPorts, hcontroller, Value.asStr, Option.bind_some, hclash]
  rcases hos with rfl | rfl <;> rfl

/-- The client can bind the address that the proxy outbound connects to, and nothing else
of the same configuration listens on its port. -/
def EndpointUsable (config : Value) (client : OlcRtcConfig) : Prop :=
  ∃ outbound server port addr, proxyOutboundOf config = some outbound ∧
    outbound.get "server" = .string server ∧ outbound.get "server_port" = .nat port ∧
    localAddr client = .ok addr ∧ readHost server.toList = some addr.ip ∧ addr.port.toNat = port ∧
    port ≠ 0 ∧ port ∉ listenPorts config

/-- An IPv4 address, or an IPv6 address in brackets, and a port that is neither zero nor one
that sing-box listens on. -/
def FreeEndpoint (host : String) (port : UInt16) : Prop :=
  (readSocketHost host.toList).isSome = true ∧ port ∉ [0, 2080, 19090]

instance (host : String) (port : UInt16) : Decidable (FreeEndpoint host port) := inferInstanceAs (Decidable (_ ∧ _))

example : FreeEndpoint "[::1]" 1080 ∧ ¬FreeEndpoint "::1" 1080 ∧ ¬FreeEndpoint "localhost" 1080 := by decide

theorem mem_listenPorts_iff (port : UInt16) : (port.toNat = 0 ∨ port.toNat ∈ [2080, 19090]) ↔ port ∈ [0, 2080, 19090] := by
  simp only [List.mem_cons, List.not_mem_nil, or_false, ← UInt16.toNat_inj]
  rfl

/-- Besides its TLS and transport objects the outbound is the one to the local proxy. -/
theorem get_outbound_olcRtc {profile : VpnProfile} {outbound : Value} {endpoint : String × UInt16}
    (hprotocol : profile.protocol = .olcRtc) (hendpoint : localSocksEndpoint profile = .ok endpoint)
    (h : outboundForProfile profile = .ok outbound) {k : String} (htls : k ≠ "tls") (htransport : k ≠ "transport") :
    outbound.get k = (localProxy endpoint).get k := by
  have hobject : (localProxy endpoint).IsObject := ⟨_, rfl⟩
  rw [outbound_olcRtc hprotocol hendpoint] at h
  rw [← Except.ok.inj h, get_addTransport profile (addTls_isObject profile hobject), if_neg htransport,
    get_addTls profile hobject, if_neg htls]

theorem freeEndpoint_of_usable {os : TargetOs} (hos : os = .linux ∨ os = .windows) {options : ConnectOptions}
    {outbound : Value} {client : OlcRtcConfig} (h : EndpointUsable (configWith os options outbound) client) :
    FreeEndpoint client.localHost client.localPort := by
  obtain ⟨-, -, port, addr, -, -, -, haddr, -, hport, hzero, hfree⟩ := h
  obtain ⟨hsocket, hsame⟩ := (localAddr_eq_ok_iff client addr).mp haddr
  rw [listenPorts_configWith hos, ← hport, hsame] at hfree
  rw [← hport, hsame] at hzero
  exact ⟨by rw [hsocket]; rfl, fun hmem => ((mem_listenPorts_iff _).mpr hmem).elim hzero hfree⟩

/-- On Linux and Windows the endpoint is usable exactly when the host is an address literal
and the port is a free one. -/
theorem endpoint_usable_iff {os : TargetOs} {options : ConnectOptions} {config : Value}
    (hos : os = .linux ∨ os = .windows) (hprotocol : options.profile.protocol = .olcRtc)
    (h : generateSingBoxConfig os options = .ok config) :
    (∃ client, OlcRtcConfig.fromProfile options.profile = .ok client ∧ EndpointUsable config client) ↔
      FreeEndpoint ((stringExtra options.profile "localHost").getD defaultLocalHost)
        ((u16Extra options.profile "localPort").getD defaultLocalPort) := by
  obtain ⟨-, outbound, houtbound, rfl⟩ := generateSingBoxConfig_eq_ok h
  have hsucceeds := (outboundForProfile_succeeds _).mp (.of_eq houtbound)
  rw [HasOutbound, hprotocol] at hsucceeds
  obtain ⟨client, hclient⟩ := hsucceeds
  obtain ⟨-, -, key, -, -, hfields⟩ := OlcRtcConfig.fromProfile_eq_ok_iff.mp hclient
  have hendpoint : localSocksEndpoint options.profile = .ok (client.localHost, client.localPort) := by
    rw [localSocksEndpoint, hclient]
    rfl
  have hhost : client.localHost = (stringExtra options.profile "localHost").getD defaultLocalHost := by rw [← hfields]
  have hport : client.localPort = (u16Extra options.profile "localPort").getD defaultLocalPort := by rw [← hfields]
  have hserver : outbound.get "server" = .string client.localHost :=
    get_outbound_olcRtc hprotocol hendpoint houtbound (by decide) (by decide)
  have hserverPort : outbound.get "server_port" = .nat client.localPort.toNat :=
    get_outbound_olcRtc hprotocol hendpoint houtbound (by decide) (by decide)
  have hproxy := proxyOutboundOf_configWith os options (outboundForProfile_get houtbound).1
  have hlisten := listenPorts_configWith hos options outbound
  rw [← hhost, ← hport]
  constructor
  · rintro ⟨client', hclient', husable⟩
    cases hclient.symm.trans hclient'
    exact freeEndpoint_of_usable hos husable
  · rintro ⟨hsocket, hfree⟩
    rw [← mem_listenPorts_iff, not_or] at hfree
    obtain ⟨ip, hip⟩ := Option.isSome_iff_exists.mp hsocket
    have haddr := (localAddr_eq_ok_iff client { ip, port := client.localPort }).mpr ⟨hip, rfl⟩
    have hreads : readHost client.localHost.toList = some ip := by rw [readHost, hip, Option.some_or]
    exact ⟨client, hclient, outbound, client.localHost, _, _, hproxy, hserver, hserverPort, haddr, hreads, rfl,
      hfree.1, by rw [hlisten]; exact hfree.2⟩

theorem endpoint_usable_shared_key :
    (∃ client, OlcRtcConfig.fromProfile sharedKeyProfile = .ok client ∧
      EndpointUsable (configWith .linux { profile := sharedKeyProfile } (localProxy ("127.0.0.1", 10808))) client) ↔
      FreeEndpoint "127.0.0.1" 10808 := by
  have hconfig : generateSingBoxConfig .linux { profile := sharedKeyProfile } =
      .ok (configWith .linux { profile := sharedKeyProfile } (localProxy ("127.0.0.1", 10808))) := rfl
  exact endpoint_usable_iff (Or.inl rfl) rfl hconfig

/-- The profile with the port of sing-box's own proxy. -/
def takenPort : VpnProfile := { sharedKeyProfile with extra := [("localPort", .string "2080")] }

/-- A configuration is generated for it, in which sing-box listens where the client has to. -/
theorem taken_port_accepted :
    ∃ config client, generateSingBoxConfig .linux { profile := takenPort } = .ok config ∧
      OlcRtcConfig.fromProfile takenPort = .ok client ∧ client.localPort = 2080 ∧ ¬EndpointUsable config client := by
  have hconfig : generateSingBoxConfig .linux { profile := takenPort } =
      .ok (configWith .linux { profile := takenPort } (localProxy ("127.0.0.1", 2080))) := rfl
  have hclient : OlcRtcConfig.fromProfile takenPort = .ok
      { provider := "wb_stream", roomId := "stream.wb.ru", keyHex := keyA, localHost := "127.0.0.1",
        localPort := 2080, displayName := "Room" } := rfl
  refine ⟨_, _, hconfig, hclient, rfl, fun husable => ?_⟩
  exact (freeEndpoint_of_usable (Or.inl rfl) husable).2 (by decide)

end TauriVpn.Config
