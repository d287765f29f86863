import TauriVpn.Import.Authority

/-! Do the user name and the password of a link survive its import? Both halves of the user
part come encoded from the URL. A proxy takes the name decoded and the password as it stands;
TUIC and Hysteria2 take the name, as their password, and drop the rest. -/

namespace TauriVpn.Import

open Config FormUrlencoded Userinfo

/-! ### What each protocol takes -/

section Auth
variable {crates : Crates} {decode : List UInt8 → String} (hdecode : ∀ s, decode (utf8 s) = s)
  (hparse : ∀ bytes, crates.parseForm bytes = FormUrlencoded.parse decode bytes) {url : Url} {user password : String}
  {protocol : VpnProtocol}
include hdecode hparse

theorem authOf_token (hprotocol : protocol = .tuic ∨ protocol = .hysteria2) (query : Query) :
    authOf crates (url.withUser user password) query protocol =
      { uuid := query.lookup "uuid", password := some (readName decode user) } := by
  rw [← percentDecode_parsed hdecode hparse]
  obtain rfl | rfl := hprotocol
  · simp only [authOf, withUser_username]
  · simp only [authOf, withUser_username]

theorem authOf_proxy (hprotocol : protocol = .socks ∨ protocol = .http) (huser : parsed user ≠ "") (query : Query) :
    authOf crates (url.withUser user password) query protocol =
      { username := some (readName decode user)
        password := if parsed password = "" then none else some (parsed password) } := by
  have hnamed : (url.withUser user password).username ≠ "" := by rwa [withUser_username]
  rw [← percentDecode_parsed hdecode hparse]
  obtain rfl | rfl := hprotocol
  · simp only [authOf]
    rw [if_neg hnamed, withUser_username, withUser_password]
  · simp only [authOf]
    rw [if_neg hnamed, withUser_username, withUser_password]

end Auth

/-- The credentials of two proxies differ in the name or in the password. -/
theorem proxyAuth_ne_iff {name name' password password' : String} :
    ({ username := some name, password := if password = "" then none else some password } : AuthOptions) ≠
        { username := some name', password := if password' = "" then none else some password' } ↔
      name ≠ name' ∨ password ≠ password' := by
  have hpassword : (if password = "" then none else some password) =
      (if password' = "" then none else some password') ↔ password = password' := by
    constructor
    · intro h
      split_ifs at h with hempty hempty'
      · rw [hempty, hempty']
      · exact Option.some.inj h
    · intro h
      rw [h]
  rw [Ne, AuthOptions.mk.injEq, hpassword, Option.some.injEq]
  tauto

/-! ### Two links to one server -/

section TwoLinks
variable {crates : Crates} {decode : List UInt8 → String} (hdecode : ∀ s, decode (utf8 s) = s)
  (hparse : ∀ bytes, crates.parseForm bytes = FormUrlencoded.parse decode bytes)
include hdecode hparse

/-- Two links that differ in their user part give different credentials just when their
names are read differently or, for a proxy, their passwords are written differently. The
name of a TUIC link becomes its password. -/
theorem auth_differs_iff {url : Url} {host rest user password user' password' : String}
    (hscheme : url.scheme ∈ tokenSchemes ++ proxySchemes) (hhost : url.host = some host)
    (huser : parsed user ≠ "") (huser' : parsed user' ≠ "")
    (hurl : crates.parseUrl (trim (userText url.scheme user password rest)) = .ok (url.withUser user password))
    (hurl' : crates.parseUrl (trim (userText url.scheme user' password' rest)) = .ok (url.withUser user' password'))
    (id id' : Uuid) :
    ∃ imported imported', importServer crates id (userText url.scheme user password rest) = .ok imported ∧
      importServer crates id' (userText url.scheme user' password' rest) = .ok imported' ∧
      (imported.profile.auth ≠ imported'.profile.auth ↔ readName decode user ≠ readName decode user' ∨
        url.scheme ∈ proxySchemes ∧ parsed password ≠ parsed password') ∧
      (url.scheme = "tuic" → (queryMap crates url).lookup "uuid" = none →
        imported.profile.auth.uuid = none ∧ imported.profile.auth.password = some (readName decode user)) := by
  obtain htoken | hproxy := List.mem_append.mp hscheme
  · obtain ⟨protocol, hprotocol, hkind, hremote⟩ := protocolOfScheme_token htoken
    obtain ⟨imported, himport, -, -, -, -, hauth, -⟩ := importServer_userText hscheme hurl hprotocol hremote hhost id
    obtain ⟨imported', himport', -, -, -, -, hauth', -⟩ :=
      importServer_userText hscheme hurl' hprotocol hremote hhost id'
    rw [authOf_token hdecode hparse hkind] at hauth hauth'
    refine ⟨imported, imported', himport, himport', ?_, fun _ huuid => ?_⟩
    · rw [hauth, hauth', or_iff_left fun h => notMem_proxySchemes htoken h.1]
      simp
    · rw [hauth]
      exact ⟨huuid, rfl⟩
  · obtain ⟨protocol, hprotocol, hkind, hremote⟩ := protocolOfScheme_proxy hproxy
    obtain ⟨imported, himport, -, -, -, -, hauth, -⟩ := importServer_userText hscheme hurl hprotocol hremote hhost id
    obtain ⟨imported', himport', -, -, -, -, hauth', -⟩ :=
      importServer_userText hscheme hurl' hprotocol hremote hhost id'
    rw [authOf_proxy hdecode hparse hkind huser] at hauth
    rw [authOf_proxy hdecode hparse hkind huser'] at hauth'
    refine ⟨imported, imported', himport, himport', ?_, fun htuic => ?_⟩
    · rw [hauth, hauth', and_iff_right hproxy]
      exact proxyAuth_ne_iff
    · rw [htuic] at hproxy
      exact absurd hproxy (by decide)

end TwoLinks

/-- A TUIC server. -/
def tuicServer : Url where
  scheme := "tuic"
  host := some "tuic.example.com"
  port := some 443

def tuicUser : String := "11111111-1111-4111-8111-111111111111"

def tuicText (password : String) : String := userText tuicServer.scheme tuicUser password "tuic.example.com:443"

/-- The URLs of two links to it that differ in the password. -/
def tuicCrates : Crates := tableCrates
  [(tuicText "one", tuicServer.withUser tuicUser "one"), (tuicText "two", tuicServer.withUser tuicUser "two")] []

theorem trim_tuicText (password : String) : trim (tuicText password) = tuicText password := by
  have hscheme : IsUrlScheme tuicServer.scheme := by decide
  exact trim_userText hscheme (by decide) (isWhitespace_of_all (by decide))

theorem tuicCrates_one : tuicCrates.parseUrl (trim (userText tuicServer.scheme tuicUser "one" "tuic.example.com:443")) =
    .ok (tuicServer.withUser tuicUser "one") := by
  rw [← tuicText, trim_tuicText, tuicCrates, tableCrates_parseUrl List.lookup_cons_self]

theorem tuicCrates_two : tuicCrates.parseUrl (trim (userText tuicServer.scheme tuicUser "two" "tuic.example.com:443")) =
    .ok (tuicServer.withUser tuicUser "two") := by
  have hne : (tuicText "two" == tuicText "one") = false := by
    rw [beq_eq_false_iff_ne]
    simp only [tuicText, userText, ne_eq, String.append_left_inj, String.append_right_inj]
    decide
  have hlookup : [(tuicText "one", tuicServer.withUser tuicUser "one"),
      (tuicText "two", tuicServer.withUser tuicUser "two")].lookup (tuicText "two") =
        some (tuicServer.withUser tuicUser "two") := by
    rw [List.lookup_cons, hne]
    exact List.lookup_cons_self
  rw [← tuicText, trim_tuicText, tuicCrates, tableCrates_parseUrl hlookup]

theorem queryMap_tuicServer : queryMap tuicCrates tuicServer = [] := queryMap_of_none (tableCrates_parsesForms _ _) rfl

theorem parsed_tuicUser : parsed tuicUser = tuicUser := parsed_eq_self_iff.mpr (by decide +kernel)

/-- Neither password is in the credentials, which are those of the user name. -/
theorem auth_differs_tuic : ∃ imported imported', importServer tuicCrates 1 (tuicText "one") = .ok imported ∧
    importServer tuicCrates 2 (tuicText "two") = .ok imported' ∧
    ¬imported.profile.auth ≠ imported'.profile.auth ∧ imported.profile.auth.uuid = none ∧
    imported.profile.auth.password = some (readName (fun bytes => (fromUtf8 bytes).getD "�") tuicUser) := by
  have hnamed : parsed tuicUser ≠ "" := by
    rw [parsed_tuicUser]
    decide
  have hmem : tuicServer.scheme ∈ tokenSchemes ++ proxySchemes := by decide
  have hform : ∀ bytes, tuicCrates.parseForm bytes =
    FormUrlencoded.parse (fun bytes => (fromUtf8 bytes).getD "�") bytes := fun _ => rfl
  obtain ⟨imported, imported', himport, himport', hiff, htuic⟩ := @auth_differs_iff tuicCrates _ tableCrates_decode
    hform tuicServer "tuic.example.com" "tuic.example.com:443" tuicUser "one" tuicUser "two" hmem rfl hnamed hnamed
    tuicCrates_one tuicCrates_two 1 2
  rw [queryMap_tuicServer] at htuic
  obtain ⟨huuid, hpassword⟩ := htuic rfl rfl
  refine ⟨imported, imported', himport, himport', fun hdiffer => ?_, huuid, hpassword⟩
  obtain hname | hproxy := hiff.mp hdiffer
  · exact hname rfl
  · exact absurd hproxy.1 (by decide)

/-- Two links with one user name and two passwords give the same credentials, and no UUID. -/
theorem tuic_password_dropped : ∃ imported imported', importServer tuicCrates 1 (tuicText "one") = .ok imported ∧
    importServer tuicCrates 2 (tuicText "two") = .ok imported' ∧
    imported.profile.auth = imported'.profile.auth ∧ imported.profile.auth.uuid = none := by
  have hmem : tuicServer.scheme ∈ tokenSchemes ++ proxySchemes := by decide
  have hprotocol : protocolOfScheme tuicServer.scheme = .ok .tuic := rfl
  have hform : ∀ bytes, tuicCrates.parseForm bytes =
    FormUrlencoded.parse (fun bytes => (fromUtf8 bytes).getD "�") bytes := fun _ => rfl
  obtain ⟨imported, himport, -, -, -, -, hauth, -⟩ :=
    importServer_userText hmem tuicCrates_one hprotocol (by decide) rfl 1
  obtain ⟨imported', himport', -, -, -, -, hauth', -⟩ :=
    importServer_userText hmem tuicCrates_two hprotocol (by decide) rfl 2
  rw [authOf_token tableCrates_decode hform (.inl rfl), queryMap_tuicServer] at hauth hauth'
  refine ⟨imported, imported', himport, himport', hauth.trans hauth'.symm, ?_⟩
  rw [hauth]
  rfl

/-! ### A proxy with a password -/

/-- The outbound of a proxy has the credentials of its profile. -/
theorem outbound_credentials {profile : VpnProfile} (hprotocol : profile.protocol = .socks ∨ profile.protocol = .http) :
    ∃ outbound, outboundForProfile profile = .ok outbound ∧ outbound.get "tag" = .string "proxy" ∧
      outbound.get "username" = .optStr profile.auth.username ∧
      outbound.get "password" = .optStr profile.auth.password := by
  obtain ⟨type, hbase⟩ : ∃ type, baseOutbound profile = .ok (credentialsOutbound type profile) := by
    obtain h | h := hprotocol
    · exact ⟨"socks", by simp only [baseOutbound, h]; rfl⟩
    · exact ⟨"http", by simp only [baseOutbound, h]; rfl⟩
  have hobject : (credentialsOutbound type profile).IsObject := ⟨_, rfl⟩
  have hget : ∀ k, k ≠ "transport" → k ≠ "tls" →
      (addTransport profile (addTls profile (credentialsOutbound type profile))).get k =
        (credentialsOutbound type profile).get k := by
    intro k htransport htls
    rw [get_addTransport _ (addTls_isObject _ hobject), if_neg htransport, get_addTls _ hobject, if_neg htls]
  refine ⟨_, Succeeds.bind_of_eq_ok hbase _, ?_, ?_, ?_⟩
  · exact (hget "tag" (by decide) (by decide)).trans rfl
  · exact (hget "username" (by decide) (by decide)).trans rfl
  · exact (hget "password" (by decide) (by decide)).trans rfl

/-- What the importer and the generator make of an escaped user name and an escaped password:
both succeed, and give the user name and the password just when the password has nothing to
escape. -/
theorem credentials_kept_iff {crates : Crates} (hform : crates.ParsesForms) {url : Url} {host rest user password : String}
    (hscheme : url.scheme ∈ proxySchemes) (hhost : url.host = some host) (hquery : url.query = none)
    (hfragment : url.fragment = none) (huser : user ≠ "") (hpassword : password ≠ "")
    (hurl : crates.parseUrl (trim (userText url.scheme (escaped user) (escaped password) rest)) =
      .ok (url.withUser (escaped user) (escaped password)))
    (id : Uuid) (os : TargetOs) (options : ConnectOptions) :
    ∃ imported, importServer crates id (userText url.scheme (escaped user) (escaped password) rest) = .ok imported ∧
      (imported.profile.auth.username = some user ∧ imported.profile.auth.password = some password ↔
        Kept isUnreserved password) ∧
      (isBlank host = false → url.port ≠ some 0 → ∃ config outbound,
        generateSingBoxConfig os { options with profile := imported.profile } = .ok config ∧
        proxyOutboundOf config = some outbound ∧
        (outbound.get "username" = .string user ∧ outbound.get "password" = .string password ↔
          Kept isUnreserved password)) := by
  obtain ⟨decode, hdecode, hparse⟩ := hform
  obtain ⟨protocol, hprotocol, hkind, hremote⟩ := protocolOfScheme_proxy hscheme
  obtain ⟨imported, himport, hprofile, hserver, hportOf, hname, hauth, hreality⟩ :=
    importServer_userText (List.mem_append_right _ hscheme) hurl hprotocol hremote hhost id
  have hnamed : parsed (escaped user) ≠ "" := by
    rw [parsed_escaped]
    exact encode_ne_empty isUnreserved_ascii huser
  have hsecret : parsed (escaped password) ≠ "" := by
    rw [parsed_escaped]
    exact encode_ne_empty isUnreserved_ascii hpassword
  rw [authOf_proxy hdecode hparse hkind hnamed, readName_escaped hdecode hparse, if_neg hsecret, parsed_escaped] at hauth
  refine ⟨imported, himport, ?_, fun hblank hport => ?_⟩
  · rw [hauth, ← escaped_eq_self_iff]
    exact ⟨fun h => Option.some.inj h.2, fun hsame => ⟨rfl, congrArg some hsame⟩⟩
  · have hvalid : (Protocols.validate imported.profile).valid = true := by
      rw [Protocols.validate_valid]
      refine ⟨⟨?_, ?_, ?_⟩, ?_, ?_⟩
      · rw [hname, fragmentName, hfragment]
        exact hblank
      · rw [hserver]
        exact hblank
      · rw [hportOf]
        cases hstated : url.port with
        | none => obtain rfl | rfl := hkind <;> decide
        | some port => exact fun hzero => hport (hstated.trans (congrArg some hzero))
      · rw [← hprofile] at hkind
        unfold Protocols.HasCredentials
        obtain h | h := hkind <;> rw [h] <;> trivial
      · rw [Protocols.RealityAllowed, hreality, queryMap_of_none ⟨decode, hdecode, hparse⟩ hquery]
        intro h
        cases h
    rw [← hprofile] at hkind
    obtain ⟨outbound, houtbound, htag, husername, hpasswordOf⟩ := outbound_credentials hkind
    obtain ⟨config, hconfig, hproxy⟩ := generate_proxyOutbound os { options with profile := imported.profile } hvalid
      houtbound htag
    refine ⟨config, outbound, hconfig, hproxy, ?_⟩
    rw [husername, hpasswordOf, hauth, ← escaped_eq_self_iff]
    constructor
    · rintro ⟨-, hsame⟩
      exact Value.string.inj hsame
    · intro hsame
      rw [hsame]
      exact ⟨rfl, rfl⟩

/-- A SOCKS proxy. -/
def socksServer : Url where
  scheme := "socks5"
  host := some "proxy.example.com"
  port := some 1080

def socksCrates (user password : String) : Crates := tableCrates
  [(userText socksServer.scheme (escaped user) (escaped password) "proxy.example.com:1080",
    socksServer.withUser (escaped user) (escaped password))] []

theorem socksCrates_parseUrl (user password : String) : (socksCrates user password).parseUrl
      (trim (userText socksServer.scheme (escaped user) (escaped password) "proxy.example.com:1080")) =
    .ok (socksServer.withUser (escaped user) (escaped password)) := by
  have hscheme : IsUrlScheme socksServer.scheme := by decide
  have hlast := isWhitespace_of_all (o := "proxy.example.com:1080".toList.getLast?) (by decide)
  rw [trim_userText hscheme (by decide) hlast, socksCrates, tableCrates_parseUrl List.lookup_cons_self]

/-- A password of letters is kept. -/
theorem credentials_kept_letters : ∃ imported config outbound,
    importServer (socksCrates "user" "secret") 1
      (userText "socks5" (escaped "user") (escaped "secret") "proxy.example.com:1080") = .ok imported ∧
      imported.profile.auth.username = some "user" ∧ imported.profile.auth.password = some "secret" ∧
      generateSingBoxConfig .linux { profile := imported.profile } = .ok config ∧
      proxyOutboundOf config = some outbound ∧
      outbound.get "username" = .string "user" ∧ outbound.get "password" = .string "secret" := by
  have hkept : Kept isUnreserved "secret" := by decide
  obtain ⟨imported, himport, hauth, hgenerate⟩ :=
    @credentials_kept_iff (socksCrates "user" "secret") (tableCrates_parsesForms _ _) socksServer "proxy.example.com"
      "proxy.example.com:1080" "user" "secret" (by decide) rfl rfl rfl (by decide) (by decide)
      (socksCrates_parseUrl "user" "secret") 1 .linux { profile := sampleProfile }
  obtain ⟨config, outbound, hconfig, hproxy, hcredentials⟩ := hgenerate (by decide) (by decide)
  obtain ⟨husername, hpassword⟩ := hauth.mpr hkept
  exact ⟨imported, config, outbound, himport, husername, hpassword, hconfig, hproxy, hcredentials.mpr hkept⟩

/-- A password with an `@` is not: it stays escaped. -/
theorem password_stays_escaped : ∃ imported,
    importServer (socksCrates "user" "p@ss") 1
      (userText "socks5" (escaped "user") (escaped "p@ss") "proxy.example.com:1080") = .ok imported ∧
      imported.profile.auth.username = some "user" ∧ imported.profile.auth.password = some "p%40ss" := by
  have hurl := socksCrates_parseUrl "user" "p@ss"
  have hmem : socksServer.scheme ∈ tokenSchemes ++ proxySchemes := by decide
  obtain ⟨imported, himport, -, -, -, -, hauth, -⟩ := importServer_userText hmem hurl rfl (by decide) rfl 1
  have hnamed : parsed (escaped "user") ≠ "" := by
    rw [parsed_escaped]
    exact encode_ne_empty isUnreserved_ascii (by decide)
  have hsecret : escaped "p@ss" = "p%40ss" := by decide +kernel
  have hform : ∀ bytes, (socksCrates "user" "p@ss").parseForm bytes =
    FormUrlencoded.parse (fun bytes => (fromUtf8 bytes).getD "�") bytes := fun _ => rfl
  rw [authOf_proxy tableCrates_decode hform (.inl rfl) hnamed, readName_escaped tableCrates_decode hform,
    parsed_escaped, hsecret] at hauth
  refine ⟨imported, himport, ?_, ?_⟩
  · rw [hauth]
  · rw [hauth]
    decide

end TauriVpn.Import
