import TauriVpn.Config.SharedKey

/-! The outbound of an OLC RTC profile leads to the client's own proxy on the loopback
interface. Its protocol takes nothing of the profile but that address; the TLS and
transport options, which are about a remote server, are still written into it. -/

namespace TauriVpn.Config

open Protocols Olcrtc

/-- The same TLS options, when those that are switched off count as none. -/
def SameTls (profile profile' : VpnProfile) : Prop :=
  profile.tls.filter (·.enabled) = profile'.tls.filter (·.enabled)

/-- The same transport, with the options that a transport of its kind has. -/
def SameTransport (transport transport' : Transport) : Prop :=
  transport.kind = transport'.kind ∧
    match transport.kind with
    | .tcp | .quic => True
    | .webSocket => transport.path = transport'.path ∧ transport.headers = transport'.headers
    | .grpc => transport.serviceName = transport'.serviceName
    | .httpUpgrade | .xhttp => transport.path = transport'.path ∧ transport.host = transport'.host

/-! ### What the objects show -/

theorem optStr_injective : Function.Injective Value.optStr := by
  intro s s' h
  rw [← Value.asStr_optStr s, h, Value.asStr_optStr]

theorem strings_injective : Function.Injective Value.strings := by
  intro xs xs' h
  exact List.map_injective_iff.mpr (fun _ _ hs => Value.string.inj hs) (Value.array.inj h)

/-- A missing member is told from every object. -/
theorem ofOption_inj {o o' : Option Value} (ho : ∀ object ∈ o, object.IsObject) (ho' : ∀ object ∈ o', object.IsObject)
    (h : Value.ofOption o = Value.ofOption o') : o = o' := by
  cases o with
  | none =>
    cases o' with
    | none => rfl
    | some object =>
      obtain ⟨members, rfl⟩ := ho' object rfl
      cases h
  | some object =>
    cases o' with
    | none =>
      obtain ⟨members, rfl⟩ := ho object rfl
      cases h
    | some object' => exact congrArg some h

theorem isObject_of_mem_map {α : Type} {f : α → Value} (hf : ∀ a, (f a).IsObject) (o : Option α) :
    ∀ object ∈ o.map f, object.IsObject := by
  intro object hobject
  obtain ⟨a, -, rfl⟩ := Option.mem_map.mp hobject
  exact hf a

/-- The fingerprint can be read off, for OLC RTC has uTLS options. -/
theorem utls_injective : Function.Injective (utls .olcRtc) := by
  intro fingerprint fingerprint' h
  simp only [utls, supportsUtls, if_true] at h
  refine Option.map_injective (fun a a' hobject => ?_)
    (ofOption_inj (isObject_of_mem_map (fun _ => ⟨_, rfl⟩) _) (isObject_of_mem_map (fun _ => ⟨_, rfl⟩) _) h)
  simpa using hobject

theorem tlsObject_inj {tls tls' : TlsOptions} (htls : tls.enabled = true) (htls' : tls'.enabled = true)
    (h : tlsObject .olcRtc tls = tlsObject .olcRtc tls') : tls = tls' := by
  simp only [tlsObject, Value.object.injEq, List.cons.injEq, Prod.mk.injEq, true_and, and_true,
    Value.bool.injEq] at h
  obtain ⟨hname, halpn, hinsecure, hutls⟩ := h
  obtain ⟨enabled, serverName, alpn, insecure, fingerprint⟩ := tls
  obtain ⟨enabled', serverName', alpn', insecure', fingerprint'⟩ := tls'
  cases htls
  cases htls'
  cases optStr_injective hname
  cases strings_injective halpn
  cases hinsecure
  cases utls_injective hutls
  rfl

theorem headers_inj {headers headers' : List (String × String)}
    (h : headers.map (fun header => (header.1, Value.string header.2)) =
      headers'.map fun header => (header.1, Value.string header.2)) : headers = headers' := by
  refine List.map_injective_iff.mpr ?_ h
  rintro ⟨name, value⟩ ⟨name', value'⟩ hheader
  simpa using hheader

/-- Two transports are written alike when they are the same transport. -/
theorem transportObject_eq_iff {transport transport' : Transport} :
    transportObject transport = transportObject transport' ↔ SameTransport transport transport' := by
  obtain ⟨kind, path, host, serviceName, headers⟩ := transport
  obtain ⟨kind', path', host', serviceName', headers'⟩ := transport'
  constructor
  · intro h
    cases kind <;> cases kind' <;> simp [transportObject] at h <;> refine ⟨rfl, ?_⟩
    case tcp.tcp | quic.quic => trivial
    case webSocket.webSocket => exact ⟨optStr_injective h.1, headers_inj h.2⟩
    case grpc.grpc => exact optStr_injective h
    case httpUpgrade.httpUpgrade | xhttp.xhttp => exact ⟨optStr_injective h.1, optStr_injective h.2⟩
  · rintro ⟨hkind, hsame⟩
    cases hkind
    cases kind with
    | tcp | quic => rfl
    | webSocket =>
      obtain ⟨hpath, hheaders⟩ := hsame
      cases hpath
      cases hheaders
      rfl
    | grpc =>
      cases hsame
      rfl
    | httpUpgrade | xhttp =>
      obtain ⟨hpath, hhost⟩ := hsame
      cases hpath
      cases hhost
      rfl

theorem transportObject_isObject {transport : Transport} {object : Value}
    (h : transportObject transport = some object) : object.IsObject := by
  unfold transportObject at h
  cases hkind : transport.kind with
  | tcp =>
    rw [hkind] at h
    cases h
  | webSocket | grpc | httpUpgrade | xhttp | quic =>
    rw [hkind] at h
    cases h
    exact ⟨_, rfl⟩

/-! ### The outbound -/

section Outbound
variable {profile profile' : VpnProfile} {outbound outbound' : Value}

/-- The outbound to the local proxy, before anything else is written into it. -/
def localProxy (endpoint : String × UInt16) : Value :=
  .object [("type", .string "socks"), ("tag", .string "proxy"), ("server", .string endpoint.1),
    ("server_port", .nat endpoint.2.toNat)]

/-- Without REALITY options, what is written is the TLS object that is read back. -/
theorem addTls_eq (hreality : profile.reality = none) (outbound : Value) :
    addTls profile outbound = ((tlsMember profile).map (outbound.set "tls")).getD outbound := by
  unfold addTls tlsMember
  rw [hreality]
  cases profile.tls with
  | none => rfl
  | some tls => cases henabled : tls.enabled <;> simp [henabled, Option.filter_some]

theorem tlsMember_olcRtc (hprotocol : profile.protocol = .olcRtc) (hreality : profile.reality = none) :
    tlsMember profile = (profile.tls.filter (·.enabled)).map (tlsObject .olcRtc) := by
  unfold tlsMember
  rw [hreality, hprotocol]

/-- The TLS object shows all the options that are switched on. -/
theorem tlsMember_eq_iff (hprotocol : profile.protocol = .olcRtc) (hreality : profile.reality = none)
    (hprotocol' : profile'.protocol = .olcRtc) (hreality' : profile'.reality = none) :
    tlsMember profile = tlsMember profile' ↔ SameTls profile profile' := by
  rw [tlsMember_olcRtc hprotocol hreality, tlsMember_olcRtc hprotocol' hreality', SameTls]
  constructor
  · intro h
    cases htls : profile.tls.filter (·.enabled) with
    | none =>
      rw [htls, Option.map_none, eq_comm, Option.map_eq_none_iff] at h
      exact h.symm
    | some tls =>
      rw [htls, Option.map_some, eq_comm, Option.map_eq_some_iff] at h
      obtain ⟨tls', htls', hobject⟩ := h
      have henabled := (Option.filter_eq_some_iff.mp htls).2
      have henabled' := (Option.filter_eq_some_iff.mp htls').2
      rw [htls', tlsObject_inj henabled' henabled hobject]
  · intro h
    rw [h]

theorem outbound_olcRtc (hprotocol : profile.protocol = .olcRtc) {endpoint : String × UInt16}
    (hendpoint : localSocksEndpoint profile = .ok endpoint) :
    outboundForProfile profile = .ok (addTransport profile (addTls profile (localProxy endpoint))) := by
  rw [outboundForProfile, baseOutbound, hprotocol]
  simp only [hendpoint]
  rfl

/-- The outbounds of two profiles with one local proxy are told apart by their TLS and
transport options, and by nothing else. -/
theorem outbound_olcRtc_eq_iff (hprotocol : profile.protocol = .olcRtc) (hreality : profile.reality = none)
    (hprotocol' : profile'.protocol = .olcRtc) (hreality' : profile'.reality = none)
    (hendpoint : localSocksEndpoint profile = localSocksEndpoint profile')
    (h : outboundForProfile profile = .ok outbound) (h' : outboundForProfile profile' = .ok outbound') :
    outbound = outbound' ↔ SameTls profile profile' ∧ SameTransport profile.transport profile'.transport := by
  constructor
  · intro heq
    obtain ⟨-, htls, htransport⟩ := outboundForProfile_get h
    obtain ⟨-, htls', htransport'⟩ := outboundForProfile_get h'
    rw [heq] at htls htransport
    constructor
    · refine (tlsMember_eq_iff hprotocol hreality hprotocol' hreality').mp (ofOption_inj ?_ ?_ (htls.symm.trans htls'))
      · rw [tlsMember_olcRtc hprotocol hreality]
        exact isObject_of_mem_map (fun _ => ⟨_, rfl⟩) _
      · rw [tlsMember_olcRtc hprotocol' hreality']
        exact isObject_of_mem_map (fun _ => ⟨_, rfl⟩) _
    · exact transportObject_eq_iff.mp (ofOption_inj (fun _ => transportObject_isObject)
        (fun _ => transportObject_isObject) (htransport.symm.trans htransport'))
  · rintro ⟨htls, htransport⟩
    have hsucceeds := (outboundForProfile_succeeds profile).mp (.of_eq h)
    rw [HasOutbound, hprotocol] at hsucceeds
    obtain ⟨endpoint, hok⟩ := (localSocksEndpoint_succeeds profile).mpr hsucceeds
    rw [outbound_olcRtc hprotocol hok] at h
    rw [outbound_olcRtc hprotocol' (hendpoint ▸ hok)] at h'
    rw [← Except.ok.inj h, ← Except.ok.inj h', addTls_eq hreality, addTls_eq hreality', addTransport, addTransport,
      (tlsMember_eq_iff hprotocol hreality hprotocol' hreality').mpr htls, transportObject_eq_iff.mpr htransport]

end Outbound

/-- The configurations of two OLC RTC profiles with one local proxy have the same proxy
outbound exactly when their TLS and transport options are the same. -/
theorem local_proxy_eq_iff {os os' : TargetOs} {options options' : ConnectOptions} {config config' : Value}
    (hprotocol : options.profile.protocol = .olcRtc) (hprotocol' : options'.profile.protocol = .olcRtc)
    (hendpoint : localSocksEndpoint options.profile = localSocksEndpoint options'.profile)
    (h : generateSingBoxConfig os options = .ok config) (h' : generateSingBoxConfig os' options' = .ok config') :
    proxyOutboundOf config = proxyOutboundOf config' ↔
      SameTls options.profile options'.profile ∧ SameTransport options.profile.transport options'.profile.transport := by
  -- the checks leave REALITY to VLESS
  have hreality := ((validate_valid _).mp (generateSingBoxConfig_eq_ok h).1).2.2
  have hreality' := ((validate_valid _).mp (generateSingBoxConfig_eq_ok h').1).2.2
  rw [realityAllowed_of_ne_vless (by rw [hprotocol]; decide)] at hreality
  rw [realityAllowed_of_ne_vless (by rw [hprotocol']; decide)] at hreality'
  obtain ⟨outbound, houtbound, hproxy⟩ := outbound_of_generated h
  obtain ⟨outbound', houtbound', hproxy'⟩ := outbound_of_generated h'
  rw [hproxy, hproxy', Option.some_inj]
  exact outbound_olcRtc_eq_iff hprotocol hreality hprotocol' hreality' hendpoint houtbound houtbound'

/-- The profile with TLS switched on, as a link's `security=tls` does. -/
def tlsRoom : VpnProfile := { sharedKeyProfile with tls := some { enabled := true, serverName := some "wb.ru" } }

/-- Another room and another name, with the same local proxy. -/
def otherRoom : VpnProfile := { sharedKeyProfile with name := "Other", server := "room-2" }

theorem local_proxy_eq_other_room :
    ∃ config config', generateSingBoxConfig .linux { profile := sharedKeyProfile } = .ok config ∧
      generateSingBoxConfig .windows { profile := otherRoom } = .ok config' ∧
        (proxyOutboundOf config = proxyOutboundOf config' ↔
          SameTls sharedKeyProfile otherRoom ∧ SameTransport sharedKeyProfile.transport otherRoom.transport) := by
  have hroom : generateSingBoxConfig .linux { profile := sharedKeyProfile } =
      .ok (configWith .linux { profile := sharedKeyProfile } (localProxy ("127.0.0.1", 10808))) := rfl
  have hother : generateSingBoxConfig .windows { profile := otherRoom } =
      .ok (configWith .windows { profile := otherRoom } (localProxy ("127.0.0.1", 10808))) := rfl
  exact ⟨_, _, hroom, hother, local_proxy_eq_iff rfl rfl rfl hroom hother⟩

/-- Both connect to the same local proxy, and only one with TLS. -/
theorem tls_reaches_local_proxy :
    localSocksEndpoint sharedKeyProfile = localSocksEndpoint tlsRoom ∧
      ∃ config config', generateSingBoxConfig .linux { profile := sharedKeyProfile } = .ok config ∧
        generateSingBoxConfig .linux { profile := tlsRoom } = .ok config' ∧
        proxyOutboundOf config ≠ proxyOutboundOf config' := by
  refine ⟨rfl, _, _, rfl, rfl, fun heq => ?_⟩
  have htls := congrArg (fun outbound => (outbound.map fun o => (o.get "tls").isNull)) heq
  cases htls

end TauriVpn.Config
