import TauriVpn.Import.VlessLink

/-! Is the host of a transport lost on the way? A link names it in a parameter, the
importers keep it in one field of the transport, and the generator writes the transport
object of each kind from fields of its own choice. Two links that differ in the host
alone are compared. -/

namespace TauriVpn.Import

open Config FormUrlencoded

/-- The proxy outbound of the configuration that an imported link gives. -/
def proxyOutboundFor (crates : Crates) (os : TargetOs) (options : ConnectOptions) (id : Uuid) (input : String) :
    Except VpnError (Option Value) := do
  let imported ← importServer crates id input
  let config ← generateSingBoxConfig os { options with profile := imported.profile }
  return proxyOutboundOf config

/-- What a link holds: the JSON text of a VMess link, or a URL. -/
inductive Link where
  | vmess (json : Value)
  | uri (url : Url)

/-- The input is a link that holds this. -/
inductive Reads (crates : Crates) (input : String) : Link → Prop where
  | vmess (decoded : List UInt8) (json : Value) (hscheme : startsWith (trim input) "vmess://" = true)
      (hdecoded : decodeBase64 crates (trimStartMatches (trim input) "vmess://") = .ok decoded)
      (hjson : crates.parseJson decoded = .ok json) : Reads crates input (.vmess json)
  | uri (url : Url) (hvmess : startsWith (trim input) "vmess://" = false)
      (hshadowsocks : startsWith (trim input) "ss://" = false)
      (hurl : crates.parseUrl (trim input) = .ok url) : Reads crates input (.uri url)

namespace Link
variable (crates : Crates)

/-- The transport that the link names. -/
def kind : Link → TransportKind
  | .vmess json => vmessTransportKind ((json.get "net").asStr.getD "tcp")
  | .uri url => transportKindOf (((queryMap crates url).lookup "type").or ((queryMap crates url).lookup "security"))

/-- The host parameter of the link. -/
def host : Link → Option String
  | .vmess json => (json.get "host").asStr
  | .uri url => (queryMap crates url).lookup "host"

def path : Link → Option String
  | .vmess json => (json.get "path").asStr
  | .uri url => (queryMap crates url).lookup "path"

/-- The links agree in everything but the host parameter. -/
def SameButHost : Link → Link → Prop
  | .vmess json, .vmess json' => ∀ key, key ≠ "host" → json.get key = json'.get key
  | .uri url, .uri url' => { url with query := url'.query } = url' ∧
    ∀ key, key ≠ "host" → (queryMap crates url).lookup key = (queryMap crates url').lookup key
  | _, _ => False

variable {crates}

theorem SameButHost.kind_path {link link' : Link} (h : SameButHost crates link link') :
    link.kind crates = link'.kind crates ∧ link.path crates = link'.path crates := by
  cases link with
  | vmess json =>
    cases link' with
    | vmess json' =>
      simp only [kind, path, h "net" (by decide), h "path" (by decide), and_self]
    | uri url' => exact h.elim
  | uri url =>
    cases link' with
    | vmess json' => exact h.elim
    | uri url' =>
      simp only [kind, path, h.2 "type" (by decide), h.2 "security" (by decide), h.2 "path" (by decide), and_self]

end Link

section Pipeline
variable {crates : Crates} {id : Uuid} {input : String} {link : Link}

/-- What the importer makes of a link of either kind. -/
theorem Reads.profile_eq {imported : ImportedServer} (hreads : Reads crates input link)
    (himport : importServer crates id input = .ok imported) :
    match link with
    | .vmess json => imported.profile = vmessProfile id json
    | .uri url => profileOfUrl crates id url = .ok imported.profile := by
  have hprofile := importServer_eq_ok crates himport
  cases hreads with
  | vmess decoded json hscheme hdecoded hjson =>
    rw [if_pos hscheme, parseVmess, Succeeds.bind_of_eq_ok hdecoded, hjson] at hprofile
    exact (Except.ok.inj hprofile).symm
  | uri url hvmess hshadowsocks hurl =>
    simp only [hvmess, hshadowsocks, Bool.false_eq_true, if_false] at hprofile
    rw [parseUrlProfile, hurl] at hprofile
    exact hprofile

/-- The importers keep what the link says about the transport, and give no headers. -/
theorem transport_of_reads {imported : ImportedServer} (hreads : Reads crates input link)
    (himport : importServer crates id input = .ok imported) :
    imported.profile.transport.kind = link.kind crates ∧ imported.profile.transport.path = link.path crates ∧
      imported.profile.transport.host = link.host crates ∧ imported.profile.transport.headers = [] := by
  have hprofile := hreads.profile_eq himport
  cases link with
  | vmess json =>
    rw [hprofile]
    exact ⟨rfl, rfl, rfl, rfl⟩
  | uri url =>
    rw [(profileOfUrl_eq_ok crates hprofile).2.1]
    exact ⟨rfl, rfl, rfl, rfl⟩

/-- The transport object of the outbound, by what the link says. -/
theorem transport_of_outbound {os : TargetOs} {options : ConnectOptions} {outbound : Value}
    (hreads : Reads crates input link) (h : proxyOutboundFor crates os options id input = .ok (some outbound)) :
    ∃ transport : Transport, outbound.get "transport" = Value.ofOption (transportObject transport) ∧
      transport.kind = link.kind crates ∧ transport.path = link.path crates ∧
      transport.host = link.host crates ∧ transport.headers = [] := by
  obtain ⟨imported, himport, hrest⟩ := Succeeds.bind_eq_ok h
  obtain ⟨config, hconfig, hproxy⟩ := Succeeds.bind_eq_ok hrest
  obtain ⟨outbound', houtbound, hfound⟩ := outbound_of_generated hconfig
  obtain rfl : outbound' = outbound := by
    rw [hfound] at hproxy
    exact Option.some.inj (Except.ok.inj hproxy)
  exact ⟨imported.profile.transport, (outboundForProfile_get houtbound).2.2, transport_of_reads hreads himport⟩

/-- A web socket is opened with the headers of the profile, and an import gives none. -/
theorem webSocket_transport {os : TargetOs} {options : ConnectOptions} {outbound : Value}
    (hreads : Reads crates input link) (hkind : link.kind crates = .webSocket)
    (h : proxyOutboundFor crates os options id input = .ok (some outbound)) :
    outbound.get "transport" = .object [("type", .string "ws"), ("path", .optStr (link.path crates)),
      ("headers", .object [])] := by
  obtain ⟨transport, hobject, hk, hpath, -, hheaders⟩ := transport_of_outbound hreads h
  rw [hobject, ← hpath]
  simp only [transportObject, hk.trans hkind, hheaders, List.map_nil]
  rfl

/-- The other two transports name the host. -/
theorem transport_names_host {os : TargetOs} {options : ConnectOptions} {outbound : Value}
    (hreads : Reads crates input link) (hkind : link.kind crates = .httpUpgrade ∨ link.kind crates = .xhttp)
    (h : proxyOutboundFor crates os options id input = .ok (some outbound)) :
    (outbound.get "transport").get "host" = .optStr (link.host crates) := by
  obtain ⟨transport, hobject, hk, -, hhost, -⟩ := transport_of_outbound hreads h
  rw [hobject, ← hhost]
  rw [← hk] at hkind
  obtain hkind | hkind := hkind
  · simp only [transportObject, hkind]
    rfl
  · simp only [transportObject, hkind]
    rfl

end Pipeline

/-! ### Two hosts -/

/-- Two links that differ in the host alone give outbounds with different transport
objects, except over a web socket. -/
theorem host_reaches_outbound_iff {crates : Crates} {os : TargetOs} {options : ConnectOptions} {id id' : Uuid}
    {input input' : String} {link link' : Link} {host host' : String} {outbound outbound' : Value}
    (hreads : Reads crates input link) (hreads' : Reads crates input' link') (hsame : link.SameButHost crates link')
    (hhost : link.host crates = some host) (hhost' : link'.host crates = some host') (hne : host ≠ host')
    (hkind : link.kind crates = .webSocket ∨ link.kind crates = .httpUpgrade ∨ link.kind crates = .xhttp)
    (h : proxyOutboundFor crates os options id input = .ok (some outbound))
    (h' : proxyOutboundFor crates os options id' input' = .ok (some outbound')) :
    outbound.get "transport" ≠ outbound'.get "transport" ↔ link.kind crates ≠ .webSocket := by
  obtain ⟨hkinds, hpaths⟩ := hsame.kind_path
  constructor
  · intro hdiffer hws
    apply hdiffer
    rw [webSocket_transport hreads hws h, webSocket_transport hreads' (hkinds ▸ hws) h', hpaths]
  · intro hws hsame
    have hnamed := hkind.resolve_left hws
    have hhosts : Value.optStr (some host) = Value.optStr (some host') := by
      rw [← hhost, ← hhost', ← transport_names_host hreads hnamed h,
        ← transport_names_host hreads' (hkinds ▸ hnamed) h', hsame]
    apply hne
    have hsome := congrArg Value.asStr hhosts
    simp only [Value.asStr_optStr] at hsome
    exact Option.some.inj hsome

/-! ### Links with a host -/

/-- A VLESS server behind a front, over TLS. -/
def frontedServer (transport : LinkTransport) : VlessServer where
  uuid := "33333333-3333-4333-8333-333333333333"
  host := "cdn.example.com"
  port := 443
  name := "Front"
  transport := transport
  security := .tls [] .zero
  flow := ""
  sni := "cdn.example.com"
  fp := "chrome"
  uuid_ne := by decide
  uuid_chars := List.all_eq_true.mp (by decide)
  host_ne := by decide
  host_chars := List.all_eq_true.mp (by decide)
  port_ne := by decide
  name_ne := by decide
  name_chars := List.all_eq_true.mp (by decide)

theorem host_not_parameter {transport : LinkTransport} :
    ∀ p ∈ (frontedServer transport).parameters, p.1 ≠ "host" := by
  cases transport <;>
    simp [frontedServer, VlessServer.parameters, LinkTransport.parameters, LinkSecurity.parameters]

/-- The link to that server that asks for a host. -/
def frontedLink (transport : LinkTransport) (host : String) : VlessLink :=
  { frontedServer transport with
    query := Assoc.present (frontedServer transport).parameters ++ [("host", host)]
    carries := fun p hp a => by
      rw [List.mem_append, Assoc.carries_present (VlessServer.keys_nodup _) hp a]
      simp [host_not_parameter p hp] }

/-- Links to one server with one text have one query. -/
theorem VlessLink.query_of_text {link link' : VlessLink} (hserver : link.toVlessServer = link'.toVlessServer)
    (htext : link.text = link'.text) : link.query = link'.query := by
  unfold VlessLink.text at htext
  rw [hserver] at htext
  have hbefore := (String.append_left_inj _).mp ((String.append_left_inj _).mp htext)
  exact serialize_injective ((String.append_right_inj _).mp hbefore)

theorem frontedLink_text_ne (transport : LinkTransport) {host host' : String} (h : host' ≠ host) :
    (frontedLink transport host').text ≠ (frontedLink transport host).text := by
  intro htext
  have hserver : (frontedLink transport host').toVlessServer = (frontedLink transport host).toVlessServer := rfl
  have hquery := VlessLink.query_of_text hserver htext
  have hpair := List.singleton_inj.mp (List.append_cancel_left hquery)
  exact h (congrArg Prod.snd hpair)

/-- The libraries, as far as two links need them. -/
def cratesOf (first second : VlessLink) : Crates where
  parseUrl text :=
    if text = first.text then .ok first.url
    else if text = second.text then .ok second.url
    else .error "relative URL without a base"
  parseForm := FormUrlencoded.parse fun bytes => (fromUtf8 bytes).getD "�"
  decodeBase64 _ := .error "Invalid padding"
  parseJson _ := .error "expected value at line 1 column 1"
  utf8Error _ := "invalid utf-8 sequence"

theorem cratesOf_parsesForms (first second : VlessLink) : (cratesOf first second).ParsesForms :=
  ⟨fun bytes => (fromUtf8 bytes).getD "�", fun s => by simp only [fromUtf8_utf8, Option.getD_some],
    fun _ => rfl⟩

theorem cratesOf_first (first second : VlessLink) : (cratesOf first second).parseUrl first.text = .ok first.url := by
  simp only [cratesOf, if_true]

theorem cratesOf_second {first second : VlessLink} (hne : second.text ≠ first.text) :
    (cratesOf first second).parseUrl second.text = .ok second.url := by
  simp only [cratesOf, if_neg hne, if_true]

section Fronted
variable {crates : Crates}

theorem VlessLink.reads (link : VlessLink) (hurl : crates.parseUrl link.text = .ok link.url) :
    Reads crates link.text (.uri link.url) := by
  apply Reads.uri
  · rw [link.trim_text, link.text_not_vmess]
  · rw [link.trim_text, link.text_not_shadowsocks]
  · rw [link.trim_text, hurl]

variable (hform : crates.ParsesForms)
include hform

/-- A link to a VLESS server always gives an outbound. -/
theorem VlessLink.proxyOutboundFor_text (link : VlessLink) (hurl : crates.parseUrl link.text = .ok link.url)
    (os : TargetOs) (options : ConnectOptions) (id : Uuid) :
    ∃ outbound, proxyOutboundFor crates os options id link.text = .ok (some outbound) := by
  obtain ⟨outbound, houtbound, htag, -⟩ := link.outbound_profile id
  obtain ⟨config, hconfig, hproxy⟩ := generate_proxyOutbound os
    { options with profile := link.profile id } (link.profile_valid id) houtbound htag
  refine ⟨outbound, ?_⟩
  rw [proxyOutboundFor, Succeeds.bind_of_eq_ok (link.importServer_link id hform hurl),
    Succeeds.bind_of_eq_ok hconfig]
  exact congrArg Except.ok hproxy

theorem frontedLink_lookup (transport : LinkTransport) (host key : String) :
    (queryMap crates (frontedLink transport host).url).lookup key = if key = "host" then some host
      else (Assoc.ofPairs (Assoc.present (frontedServer transport).parameters)).lookup key := by
  rw [queryMap_link hform]
  exact Assoc.lookup_ofPairs_concat _ _ _

theorem frontedLink_sameButHost (transport : LinkTransport) (host host' : String) :
    Link.SameButHost crates (.uri (frontedLink transport host).url) (.uri (frontedLink transport host').url) := by
  refine ⟨rfl, fun key hkey => ?_⟩
  rw [frontedLink_lookup hform, frontedLink_lookup hform, if_neg hkey, if_neg hkey]

theorem frontedLink_host (transport : LinkTransport) (host : String) :
    Link.host crates (.uri (frontedLink transport host).url) = some host := by
  rw [Link.host, frontedLink_lookup hform, if_pos rfl]

end Fronted

/-- Of two links with different texts both are read and give an outbound. -/
theorem two_outbounds {first second : VlessLink} (hne : second.text ≠ first.text) :
    let crates := cratesOf first second
    Reads crates first.text (.uri first.url) ∧ Reads crates second.text (.uri second.url) ∧
      ∃ outbound outbound',
        proxyOutboundFor crates .linux { profile := sampleProfile } 1 first.text = .ok (some outbound) ∧
        proxyOutboundFor crates .linux { profile := sampleProfile } 1 second.text = .ok (some outbound') := by
  intro crates
  have hform : crates.ParsesForms := cratesOf_parsesForms first second
  have hurl : crates.parseUrl first.text = .ok first.url := cratesOf_first first second
  have hurl' : crates.parseUrl second.text = .ok second.url := cratesOf_second hne
  obtain ⟨outbound, h⟩ := first.proxyOutboundFor_text hform hurl .linux { profile := sampleProfile } 1
  obtain ⟨outbound', h'⟩ := second.proxyOutboundFor_text hform hurl' .linux { profile := sampleProfile } 1
  exact ⟨first.reads hurl, second.reads hurl', outbound, outbound', h, h'⟩

/-- Two hosts over HTTP upgrade. -/
theorem host_reaches_outbound_upgrade :
    let first := frontedLink (.httpupgrade "/up") "a.example.com"
    let second := frontedLink (.httpupgrade "/up") "b.example.com"
    let crates := cratesOf first second
    ∃ outbound outbound', proxyOutboundFor crates .linux { profile := sampleProfile } 1 first.text = .ok (some outbound) ∧
      proxyOutboundFor crates .linux { profile := sampleProfile } 1 second.text = .ok (some outbound') ∧
      outbound.get "transport" ≠ outbound'.get "transport" := by
  intro first second crates
  have hform : crates.ParsesForms := cratesOf_parsesForms first second
  have hne : second.text ≠ first.text := frontedLink_text_ne _ (by decide)
  obtain ⟨hreads, hreads', outbound, outbound', h, h'⟩ := two_outbounds hne
  have hkind : Link.kind crates (.uri first.url) = .httpUpgrade := by
    rw [Link.kind, frontedLink_lookup hform, frontedLink_lookup hform]
    rfl
  have hsame : Link.SameButHost crates (.uri first.url) (.uri second.url) := frontedLink_sameButHost hform _ _ _
  have hhost : Link.host crates (.uri first.url) = some "a.example.com" := frontedLink_host hform _ _
  have hhost' : Link.host crates (.uri second.url) = some "b.example.com" := frontedLink_host hform _ _
  refine ⟨outbound, outbound', h, h', (host_reaches_outbound_iff hreads hreads' hsame hhost hhost' (by decide)
    (.inr (.inl hkind)) h h').mpr ?_⟩
  rw [hkind]
  decide

/-- Two hosts over a web socket: the outbounds ask for neither. -/
theorem webSocket_host_lost :
    let first := frontedLink (.ws "/ws") "a.example.com"
    let second := frontedLink (.ws "/ws") "b.example.com"
    let crates := cratesOf first second
    Link.SameButHost crates (.uri first.url) (.uri second.url) ∧
      Link.host crates (.uri first.url) = some "a.example.com" ∧
      Link.host crates (.uri second.url) = some "b.example.com" ∧ Link.kind crates (.uri first.url) = .webSocket ∧
      (∃ outbound outbound',
        proxyOutboundFor crates .linux { profile := sampleProfile } 1 first.text = .ok (some outbound) ∧
        proxyOutboundFor crates .linux { profile := sampleProfile } 1 second.text = .ok (some outbound') ∧
        outbound.get "transport" = outbound'.get "transport") := by
  intro first second crates
  have hform : crates.ParsesForms := cratesOf_parsesForms first second
  have hne : second.text ≠ first.text := frontedLink_text_ne _ (by decide)
  obtain ⟨hreads, hreads', outbound, outbound', h, h'⟩ := two_outbounds hne
  have hsame : Link.SameButHost crates (.uri first.url) (.uri second.url) := frontedLink_sameButHost hform _ _ _
  have hhost : Link.host crates (.uri first.url) = some "a.example.com" := frontedLink_host hform _ _
  have hhost' : Link.host crates (.uri second.url) = some "b.example.com" := frontedLink_host hform _ _
  have hkind : Link.kind crates (.uri first.url) = .webSocket := by
    rw [Link.kind, frontedLink_lookup hform, frontedLink_lookup hform]
    rfl
  refine ⟨hsame, hhost, hhost', hkind, outbound, outbound', h, h', ?_⟩
  rw [webSocket_transport hreads hkind h, webSocket_transport hreads' (hsame.kind_path.1 ▸ hkind) h',
    hsame.kind_path.2]

end TauriVpn.Import
