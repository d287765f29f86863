import TauriVpn.Import.Authority

/-! Can a WireGuard link be used? Its schemes are offered, the importer takes it and keeps its
query among the extra data; the checks and the generator ask for the WireGuard options, which
no importer writes. -/

namespace TauriVpn.Import

open Config FormUrlencoded

/-- Every scheme that is offered is imported as its protocol, the two base64 ones apart. -/
theorem protocolOfScheme_listed {info : ProtocolInfo} (hinfo : info ∈ Protocols.listProtocols) {scheme : String}
    (hscheme : scheme ∈ info.uriSchemes) (hvmess : info.protocol ≠ .vmess) (hshadowsocks : info.protocol ≠ .shadowsocks) :
    protocolOfScheme scheme = .ok info.protocol := by
  have hall : ∀ info ∈ Protocols.listProtocols, ∀ scheme ∈ info.uriSchemes, info.protocol ≠ .vmess →
      info.protocol ≠ .shadowsocks → (protocolOfScheme scheme).toOption = some info.protocol := by decide +kernel
  have hprotocol := hall info hinfo scheme hscheme hvmess hshadowsocks
  cases hresult : protocolOfScheme scheme with
  | error error =>
    rw [hresult] at hprotocol
    cases hprotocol
  | ok protocol =>
    rw [hresult] at hprotocol
    exact congrArg Except.ok (Option.some.inj hprotocol)

/-- No URL gives the options of WireGuard. -/
theorem profileOfUrl_wireguard {crates : Crates} {id : Uuid} {url : Url} {profile : VpnProfile}
    (h : profileOfUrl crates id url = .ok profile) : profile.wireguard = none := by
  obtain ⟨protocol, server, -, -, rfl⟩ := (profileOfUrl_eq_ok_iff crates).mp h
  rfl

/-- A WireGuard profile without its options is refused, and gives no configuration. -/
theorem refused_without_options {profile : VpnProfile} (hprotocol : profile.protocol = .wireGuard)
    (hnone : profile.wireguard = none) : (Protocols.validate profile).valid = false ∧
      ∀ (os : TargetOs) (options : ConnectOptions), ¬Succeeds (generateSingBoxConfig os { options with profile }) := by
  have hinvalid : ¬(Protocols.validate profile).valid = true := by
    rw [Protocols.validate_valid]
    rintro ⟨-, hcredentials, -⟩
    rw [Protocols.HasCredentials, hprotocol, hnone] at hcredentials
    cases hcredentials
  refine ⟨eq_false_of_ne_true hinvalid, fun os options hsucceeds => hinvalid ?_⟩
  exact ((generateSingBoxConfig_succeeds os _).mp hsucceeds).1

/-- The profile of a WireGuard link is refused, and gives no configuration, whatever the query
of the link says. -/
theorem wireGuard_never_usable {crates : Crates} {id : Uuid} {input : String} {url : Url} {imported : ImportedServer}
    {info : ProtocolInfo} (hinfo : info ∈ Protocols.listProtocols) (hprotocol : info.protocol = .wireGuard)
    (hscheme : url.scheme ∈ info.uriSchemes) (hreads : Reads crates input (.uri url))
    (himport : importServer crates id input = .ok imported) :
    (Protocols.validate imported.profile).valid = false ∧ ∀ (os : TargetOs) (options : ConnectOptions),
      ¬Succeeds (generateSingBoxConfig os { options with profile := imported.profile }) := by
  have hprofile := hreads.profile_eq himport
  have hkind : imported.profile.protocol = .wireGuard := by
    have hlisted := protocolOfScheme_listed hinfo hscheme (by rw [hprotocol]; decide) (by rw [hprotocol]; decide)
    rw [(profileOfUrl_eq_ok crates hprofile).1, hprotocol] at hlisted
    exact Except.ok.inj hlisted
  exact refused_without_options hkind (profileOfUrl_wireguard hprofile)

/-! ### A link with its keys -/

section Sample
variable (query : Query)

def wireGuardUrl : Url where
  scheme := "wireguard"
  host := some "wg.example.com"
  port := some 51820
  query := some (serialize query)
  fragment := some "home"

def wireGuardText : String := "wireguard://wg.example.com:51820?" ++ (serialize query ++ "#home")

def wireGuardCrates : Crates := tableCrates [(wireGuardText query, wireGuardUrl query)] []

theorem wireGuardUrl_reads :
    Reads (wireGuardCrates query) (wireGuardText query) (.uri (wireGuardUrl query)) ∧ trim (wireGuardText query) ≠ "" := by
  have hscheme : IsUrlScheme "wireguard://wg.example.com:51820?" := by decide
  obtain ⟨hne, hfirst⟩ := hscheme.first List.prefix_rfl
  have hname : "#home".toList ≠ [] := by decide
  have htrim : trim (wireGuardText query) = wireGuardText query := by
    refine trim_append hne hfirst (by simp) fun c hc => ?_
    rw [String.toList_append, List.getLast?_append_of_ne_nil _ hname] at hc
    exact isWhitespace_of_all (o := "#home".toList.getLast?) (by decide) c hc
  refine reads_of_scheme hscheme (prefix_append _ _) ?_
  rw [htrim, wireGuardCrates, tableCrates_parseUrl List.lookup_cons_self]

/-- The link is imported with all of its query, as a profile of its protocol. -/
theorem wireGuardText_imported : ∃ imported, importServer (wireGuardCrates query) 1 (wireGuardText query) = .ok imported ∧
    imported.profile.protocol = .wireGuard ∧ imported.profile.wireguard = none := by
  have hprotocol : protocolOfScheme (wireGuardUrl query).scheme = .ok .wireGuard := rfl
  obtain ⟨profile, hprofile, hkind, -⟩ :=
    @profileOfUrl_of_host (wireGuardCrates query) (wireGuardUrl query) _ hprotocol (by decide) _ rfl 1
  obtain ⟨hreads, hne⟩ := wireGuardUrl_reads query
  cases hreads with
  | uri _ hvmess hshadowsocks hurl =>
    exact ⟨_, importServer_of_url _ hne hvmess hshadowsocks hurl hprofile, hkind, profileOfUrl_wireguard hprofile⟩

theorem queryMap_wireGuardUrl : queryMap (wireGuardCrates query) (wireGuardUrl query) = Assoc.ofPairs query := by
  obtain ⟨decode, hdecode, hparse⟩ : (wireGuardCrates query).ParsesForms := tableCrates_parsesForms _ _
  rw [queryMap, hparse]
  exact congrArg Assoc.ofPairs (parse_serialize hdecode query)

end Sample

/-- Two keys and an address. -/
def wireGuardQuery : Query :=
  [("privatekey", "yAnz5TF+lXXJte14tji3zlMNq+hd2rYUIgJBgB3fBmk="),
    ("publickey", "xTIBA5rboUvnH4htodjb6e697QjLERt1NAB4mZqp8Dg="), ("address", "10.0.0.2/32")]

theorem wireGuard_refused : ∃ imported,
    importServer (wireGuardCrates wireGuardQuery) 1 (wireGuardText wireGuardQuery) = .ok imported ∧
      (Protocols.validate imported.profile).valid = false := by
  obtain ⟨info, hinfo, hprotocol, hscheme⟩ : ∃ info ∈ Protocols.listProtocols, info.protocol = .wireGuard ∧
      "wireguard" ∈ info.uriSchemes := by decide +kernel
  obtain ⟨imported, himport, -⟩ := wireGuardText_imported wireGuardQuery
  exact ⟨imported, himport,
    (wireGuard_never_usable hinfo hprotocol hscheme (wireGuardUrl_reads wireGuardQuery).1 himport).1⟩

/-- A link with both keys and an IPv4 address is imported, and its profile is of no use. -/
theorem wireGuard_keys_unused : queryMap (wireGuardCrates wireGuardQuery) (wireGuardUrl wireGuardQuery) =
      Assoc.ofPairs wireGuardQuery ∧
    ∃ imported, importServer (wireGuardCrates wireGuardQuery) 1 (wireGuardText wireGuardQuery) = .ok imported ∧
      (Protocols.validate imported.profile).valid = false ∧
      ¬Succeeds (generateSingBoxConfig .linux { profile := imported.profile }) := by
  refine ⟨queryMap_wireGuardUrl _, ?_⟩
  obtain ⟨imported, himport, hkind, hnone⟩ := wireGuardText_imported wireGuardQuery
  obtain ⟨hinvalid, hconfig⟩ := refused_without_options hkind hnone
  exact ⟨imported, himport, hinvalid, hconfig .linux { profile := imported.profile }⟩

end TauriVpn.Import
