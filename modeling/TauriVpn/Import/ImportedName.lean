import TauriVpn.Import.StatedPort

/-! Does every accepted link give a name? A URL without a visible name falls back to its
host or its protocol. A VMess object and a Shadowsocks link are asked for a name as well,
but a blank one is taken as it is. -/

namespace TauriVpn.Import

open FormUrlencoded

/-- A host that a URL shows is not blank. -/
def Crates.HostsVisible (crates : Crates) : Prop :=
  ∀ text url host, crates.parseUrl text = .ok url → url.host = some host → isBlank host = false

/-- The name of a VMess object, or the fragment of a Shadowsocks link read as a form, is not
blank where there is one. -/
def NamedVisibly (crates : Crates) (decode : List UInt8 → String) (input : String) : Prop :=
  (∀ json name, Reads crates input (.vmess json) → json.get "ps" = .string name → isBlank name = false) ∧
    ∀ main fragment, startsWith (trim input) "ss://" = true →
      splitOnce (trimStartMatches (trim input) "ss://") '#' = some (main, fragment) →
      isBlank (firstText decode fragment) = false

theorem isBlank_protocolName (protocol : VpnProtocol) : isBlank (protocolName protocol) = false := by
  cases protocol <;> decide

/-- The error about the name is reported for a blank name and for nothing else. -/
theorem name_required_iff (profile : VpnProfile) :
    "name is required" ∈ (Protocols.validate profile).errors ↔ isBlank profile.name = true := by
  have hreport : ∀ (failed : Prop) [Decidable failed] (message : String),
      "name is required" ∈ Protocols.report failed message ↔ failed ∧ "name is required" = message := by
    intro failed _ message
    unfold Protocols.report
    split_ifs with h
    · simp [h]
    · simp [h]
  have hprotocol : "name is required" ∉ Protocols.protocolErrors profile := by
    unfold Protocols.protocolErrors Protocols.sharedKeyErrors
    cases profile.protocol with
    | olcRtc => cases profile.auth.password <;> simp [hreport]
    | _ => simp [hreport]
  simp [Protocols.validate, Protocols.validationErrors, hreport, hprotocol]

section Names
variable {crates : Crates} {id : Uuid}

theorem name_of_url (hhosts : crates.HostsVisible) {text : String} {url : Url} (hurl : crates.parseUrl text = .ok url)
    {profile : VpnProfile} (hprofile : profileOfUrl crates id url = .ok profile) : isBlank profile.name = false := by
  obtain ⟨protocol, server, -, -, rfl⟩ := (profileOfUrl_eq_ok_iff crates).mp hprofile
  dsimp only
  cases hname : fragmentName crates url with
  | some name =>
    have hvisible := (Option.filter_eq_some_iff.mp hname).2
    simpa using hvisible
  | none =>
    cases hhost : url.host with
    | some host => exact hhosts text url host hurl hhost
    | none => exact isBlank_protocolName protocol

theorem name_of_shadowsocks {link : String} {profile : VpnProfile}
    (h : parseShadowsocks crates id link = .ok profile) : profile.name = nameOf crates link := by
  unfold parseShadowsocks at h
  unfold nameOf
  cases hsplit : splitOnce (trimStartMatches link "ss://") '#' with
  | none | some _ =>
    simp only [hsplit] at h
    obtain ⟨decoded, -, h⟩ := Succeeds.bind_eq_ok h
    obtain ⟨url, -, h⟩ := Succeeds.bind_eq_ok h
    obtain ⟨userinfo, -, h⟩ := Succeeds.bind_eq_ok h
    cases hparts : splitOnce userinfo ':' with
    | none =>
      simp only [hparts] at h
      cases h
    | some parts =>
      simp only [hparts] at h
      cases h
      rfl

/-- An accepted input is a VMess link, a Shadowsocks link or a URL. -/
theorem accepted_cases {input : String} {imported : ImportedServer} (himport : importServer crates id input = .ok imported) :
    (∃ json, Reads crates input (.vmess json)) ∨
      (startsWith (trim input) "ss://" = true ∧ parseShadowsocks crates id (trim input) = .ok imported.profile) ∨
      ∃ url, Reads crates input (.uri url) := by
  have hprofile := importServer_eq_ok crates himport
  split_ifs at hprofile with hvmess hshadowsocks
  · obtain ⟨decoded, hdecoded, hrest⟩ := Succeeds.bind_eq_ok hprofile
    obtain ⟨json, hjson, -⟩ := Succeeds.bind_eq_ok hrest
    exact .inl ⟨json, .vmess decoded json hvmess hdecoded (Succeeds.mapError_eq_ok.mp hjson)⟩
  · exact .inr (.inl ⟨hshadowsocks, hprofile⟩)
  · obtain ⟨url, hurl, -⟩ := Succeeds.bind_eq_ok hprofile
    exact .inr (.inr ⟨url, .uri url (eq_false_of_ne_true hvmess) (eq_false_of_ne_true hshadowsocks)
      (Succeeds.mapError_eq_ok.mp hurl)⟩)

/-- No input is a link of two kinds. -/
theorem Reads.not_shadowsocks {input : String} {link : Link} (hreads : Reads crates input link) :
    startsWith (trim input) "ss://" = false := by
  cases hreads with
  | vmess decoded json hscheme =>
    rw [← Bool.not_eq_true]
    intro hshadowsocks
    rw [startsWith, List.isPrefixOf_iff_prefix] at hscheme hshadowsocks
    exact absurd (List.prefix_or_prefix_of_prefix hscheme hshadowsocks) (by decide)
  | uri url hvmess hshadowsocks => exact hshadowsocks

theorem shadowsocks_name_iff {input : String} {imported : ImportedServer} {decode : List UInt8 → String}
    (hparse : ∀ bytes, crates.parseForm bytes = FormUrlencoded.parse decode bytes)
    (hscheme : startsWith (trim input) "ss://" = true)
    (hprofile : parseShadowsocks crates id (trim input) = .ok imported.profile) :
    isBlank imported.profile.name = false ↔ NamedVisibly crates decode input := by
  have hother : ∀ json, ¬Reads crates input (.vmess json) := fun json hreads =>
    absurd hscheme (ne_true_of_eq_false hreads.not_shadowsocks)
  rw [name_of_shadowsocks hprofile]
  unfold nameOf
  cases hsplit : splitOnce (trimStartMatches (trim input) "ss://") '#' with
  | none =>
    have hdefault : isBlank "Shadowsocks" = false := by decide
    refine iff_of_true hdefault ⟨fun json _ hreads => absurd hreads (hother json), fun main fragment _ h => ?_⟩
    rw [hsplit] at h
    cases h
  | some parts =>
    dsimp only
    rw [percentDecode_eq_firstText hparse]
    constructor
    · refine fun hvisible => ⟨fun json _ hreads => absurd hreads (hother json), fun main fragment _ h => ?_⟩
      rw [hsplit] at h
      cases h
      exact hvisible
    · exact fun hnamed => hnamed.2 parts.1 parts.2 hscheme hsplit

section Kinds
variable {input : String} {imported : ImportedServer} (himport : importServer crates id input = .ok imported)
  {decode : List UInt8 → String}
include himport

theorem vmess_name_iff {json : Value} (hreads : Reads crates input (.vmess json)) :
    isBlank imported.profile.name = false ↔ NamedVisibly crates decode input := by
  have hname : ∀ json, Reads crates input (.vmess json) →
      imported.profile.name = (json.get "ps").asStr.getD "VMess" := by
    intro json hreads
    have hprofile : imported.profile = vmessProfile id json := hreads.profile_eq himport
    rw [hprofile, vmessProfile]
  constructor
  · refine fun hvisible => ⟨fun json' name hreads' hps => ?_, fun _ _ hshadowsocks => ?_⟩
    · rw [hname json' hreads', Value.asStr_eq_some.mpr hps, Option.getD_some] at hvisible
      exact hvisible
    · exact absurd hshadowsocks (ne_true_of_eq_false hreads.not_shadowsocks)
  · intro hnamed
    rw [hname json hreads]
    cases hps : (json.get "ps").asStr with
    | none => decide
    | some name => exact hnamed.1 json name hreads (Value.asStr_eq_some.mp hps)

theorem url_name_iff (hhosts : crates.HostsVisible) {url : Url} (hreads : Reads crates input (.uri url)) :
    isBlank imported.profile.name = false ↔ NamedVisibly crates decode input := by
  have hprofile := hreads.profile_eq himport
  have hother := hreads.not_shadowsocks
  cases hreads with
  | uri _ hvmess _ hurl =>
    refine iff_of_true (name_of_url hhosts hurl hprofile) ⟨fun json _ hreads' => ?_, fun _ _ hshadowsocks => ?_⟩
    · cases hreads' with
      | vmess _ _ hscheme => exact absurd hscheme (ne_true_of_eq_false hvmess)
    · exact absurd hshadowsocks (ne_true_of_eq_false hother)

/-- The name of what is imported is usable just when the link gives a visible one, where it is
asked for one. -/
theorem name_usable_iff (hparse : ∀ bytes, crates.parseForm bytes = FormUrlencoded.parse decode bytes)
    (hhosts : crates.HostsVisible) :
    (isBlank imported.profile.name = false ∧ "name is required" ∉ (Protocols.validate imported.profile).errors) ↔
      NamedVisibly crates decode input := by
  rw [name_required_iff, Bool.not_eq_true, and_self]
  obtain ⟨json, hreads⟩ | ⟨hscheme, hprofile⟩ | ⟨url, hreads⟩ := accepted_cases himport
  · exact vmess_name_iff himport hreads
  · exact shadowsocks_name_iff hparse hscheme hprofile
  · exact url_name_iff himport hhosts hreads

end Kinds

end Names

/-! ### Two VMess objects -/

/-- A VMess object with this name. -/
def namedVmess (name : String) : Value :=
  .object [("add", .string "vmess.example.com"), ("id", .string "44444444-4444-4444-8444-444444444444"),
    ("ps", .string name)]

def namedText (name : String) : String :=
  "\x7b\"add\":\"vmess.example.com\",\"id\":\"44444444-4444-4444-8444-444444444444\",\"ps\":\"" ++ name ++ "\"\x7d"

theorem namedText_ne (name : String) : namedText name ≠ "" := by
  intro hempty
  unfold namedText at hempty
  have hlast := (String.append_eq_empty_iff.mp hempty).2
  exact absurd hlast (by decide)

def namedCrates (name : String) : Crates := tableCrates [] [(namedText name, namedVmess name)]

def namedLink (name : String) : String := "vmess://" ++ Base64.encode .standard (utf8 (namedText name))

theorem namedCrates_hostsVisible (name : String) : (namedCrates name).HostsVisible := fun text url host h => by
  simp only [namedCrates, tableCrates, List.lookup_nil] at h
  cases h

theorem namedLink_reads (name : String) : Reads (namedCrates name) (namedLink name) (.vmess (namedVmess name)) := by
  have hjson : (namedCrates name).parseJson (utf8 (namedText name)) = .ok (namedVmess name) := by
    rw [namedCrates, tableCrates_parseJson List.lookup_cons_self]
  have hdecodes : (namedCrates name).DecodesBase64 := tableCrates_decodesBase64 _ _
  exact reads_vmess hdecodes .standard (utf8_ne_nil (namedText_ne name)) hjson

theorem name_usable_home : ∃ imported, importServer (namedCrates "home") 1 (namedLink "home") = .ok imported ∧
    NamedVisibly (namedCrates "home") (fun bytes => (fromUtf8 bytes).getD "�") (namedLink "home") := by
  have himport := (namedLink_reads "home").importServer_vmess 1
  have hvisible : isBlank (vmessProfile 1 (namedVmess "home")).name = false := by decide
  have hunreported : "name is required" ∉ (Protocols.validate (vmessProfile 1 (namedVmess "home"))).errors := by decide
  exact ⟨_, himport, (name_usable_iff himport (fun _ => rfl) (namedCrates_hostsVisible _)).mp ⟨hvisible, hunreported⟩⟩

/-- An object with an empty name is accepted, and refused for its name alone. -/
theorem blank_name_refused : ∃ imported, importServer (namedCrates "") 1 (namedLink "") = .ok imported ∧
    isBlank imported.profile.name = true ∧ (Protocols.validate imported.profile).errors = ["name is required"] :=
  ⟨_, (namedLink_reads "").importServer_vmess 1, by decide, by decide⟩

end TauriVpn.Import
