import TauriVpn.Config.Agreement

/-! Two readers of one profile. The checks take the shared key from the password and
the provider as it stands among the extra data; the OLC RTC client prefers a key among
the extra data and passes over strings that are blank. They part in two kinds of
profile: with a blank provider, and with a second key. -/

namespace TauriVpn.Config

open Protocols Olcrtc

section Readers
variable {profile : VpnProfile} {config : OlcRtcConfig}

/-- The provider among the extra data, when it is a string. -/
def givenProvider (profile : VpnProfile) : Option String := (profile.extra.lookup "provider").bind Value.asStr

/-- The key that the client uses. -/
def clientKey (profile : VpnProfile) : Option String := (stringExtra profile "key").or profile.auth.password

def IsKey (key : Option String) : Prop := ∃ text, key = some text ∧ isSharedKey text

/-- A blank provider, which the checks reject and the client takes for the default. -/
def BlankProvider (profile : VpnProfile) : Prop := ∃ name, givenProvider profile = some name ∧ isBlank name = true

theorem not_blankProvider_of_checked (h : provider profile = "wb_stream") : ¬BlankProvider profile := by
  rintro ⟨name, hgiven, hblank⟩
  have hname : name = "wb_stream" := by
    rw [← h]
    unfold provider
    rw [show (profile.extra.lookup "provider").bind Value.asStr = some name from hgiven]
    rfl
  rw [hname] at hblank
  exact absurd hblank (by decide)

/-- The client accepts the providers that the checks accept, and the blank ones. -/
theorem client_provider_iff (profile : VpnProfile) :
    (stringExtra profile "provider").getD defaultProvider = defaultProvider ↔
      provider profile = "wb_stream" ∨ BlankProvider profile := by
  constructor
  · intro h
    cases hgiven : givenProvider profile with
    | none =>
      left
      unfold provider
      rw [show (profile.extra.lookup "provider").bind Value.asStr = none from hgiven]
      rfl
    | some name =>
      have hextra : stringExtra profile "provider" = (some name).filter fun value => !isBlank value :=
        congrArg (Option.filter fun value => !isBlank value) hgiven
      cases hblank : isBlank name with
      | true => exact Or.inr ⟨name, hgiven, hblank⟩
      | false =>
        left
        rw [hextra, Option.filter_some, hblank] at h
        unfold provider
        rw [show (profile.extra.lookup "provider").bind Value.asStr = some name from hgiven]
        exact h
  · rintro (h | ⟨name, hgiven, hblank⟩)
    · exact provider_default h
    · have hextra : stringExtra profile "provider" = (some name).filter fun value => !isBlank value :=
        congrArg (Option.filter fun value => !isBlank value) hgiven
      rw [hextra, Option.filter_some, hblank]
      rfl

theorem validate_olcRtc (hprotocol : profile.protocol = .olcRtc) (hserver : HasServer profile)
    (hreality : profile.reality = none) :
    (validate profile).valid = true ↔ IsKey profile.auth.password ∧ provider profile = "wb_stream" := by
  rw [validate_valid, and_iff_right hserver]
  simp only [HasCredentials, hprotocol, RealityAllowed, hreality]
  simp [IsKey]

theorem fromProfile_olcRtc (hserver : HasServer profile) :
    Succeeds (OlcRtcConfig.fromProfile profile) ↔
      (provider profile = "wb_stream" ∨ BlankProvider profile) ∧ IsKey (clientKey profile) := by
  rw [OlcRtcConfig.fromProfile_succeeds, client_provider_iff,
    and_iff_right (roomId_not_blank hserver.2.1)]
  rfl

theorem fromProfile_keyHex (h : OlcRtcConfig.fromProfile profile = .ok config) :
    clientKey profile = some config.keyHex := by
  obtain ⟨-, -, key, hkey, -, rfl⟩ := OlcRtcConfig.fromProfile_eq_ok_iff.mp h
  exact hkey

/-- Both accept the profile or neither does, and when both do, the client's key is the
password that was checked. -/
def ReadersAgree (profile : VpnProfile) : Prop :=
  ((validate profile).valid = true ↔ Succeeds (OlcRtcConfig.fromProfile profile)) ∧
    ∀ config, (validate profile).valid = true → OlcRtcConfig.fromProfile profile = .ok config →
      profile.auth.password = some config.keyHex

/-- A key among the extra data that is not the password, when one of the two is a shared key. -/
def SecondKey (profile : VpnProfile) : Prop :=
  ∃ key, stringExtra profile "key" = some key ∧ profile.auth.password ≠ some key ∧
    (isSharedKey key ∨ IsKey profile.auth.password)

/-- Without a second key the client uses the password, or neither reader accepts. -/
theorem isKey_clientKey (h : ¬SecondKey profile) :
    (IsKey (clientKey profile) ↔ IsKey profile.auth.password) ∧
      (IsKey profile.auth.password → clientKey profile = profile.auth.password) := by
  unfold clientKey
  cases hkey : stringExtra profile "key" with
  | none => simp
  | some key =>
    rw [Option.some_or]
    by_cases hsame : profile.auth.password = some key
    · simp [hsame]
    · have hnone : ¬isSharedKey key ∧ ¬IsKey profile.auth.password :=
        not_or.mp fun hor => h ⟨key, hkey, hsame, hor⟩
      have hclient : ¬IsKey (some key) := by
        rintro ⟨text, htext, hshared⟩
        exact hnone.1 (Option.some.inj htext ▸ hshared)
      exact ⟨iff_of_false hclient hnone.2, fun hpassword => absurd hpassword hnone.2⟩

/-- With a second key, either only one of the two is a shared key or they differ. -/
theorem secondKey_disagrees (h : SecondKey profile)
    (hkeys : (IsKey (clientKey profile) ↔ IsKey profile.auth.password)) :
    IsKey profile.auth.password ∧ IsKey (clientKey profile) ∧ clientKey profile ≠ profile.auth.password := by
  obtain ⟨key, hkey, hne, hshared⟩ := h
  have hclient : clientKey profile = some key := by
    unfold clientKey
    rw [hkey, Option.some_or]
  have hboth : IsKey profile.auth.password := by
    rcases hshared with hshared | hpassword
    · exact hkeys.mp ⟨key, hclient, hshared⟩
    · exact hpassword
  exact ⟨hboth, hkeys.mpr hboth, fun heq => hne (heq ▸ hclient)⟩

/-- On an OLC RTC profile with a server and without REALITY the two readers agree except
with a blank provider and a key that the client accepts, and with a second key. -/
theorem readers_agree_iff (profile : VpnProfile) (hprotocol : profile.protocol = .olcRtc)
    (hserver : HasServer profile) (hreality : profile.reality = none) :
    ReadersAgree profile ↔
      ¬(BlankProvider profile ∧ IsKey (clientKey profile)) ∧
        ¬(provider profile = "wb_stream" ∧ SecondKey profile) := by
  unfold ReadersAgree
  rw [validate_olcRtc hprotocol hserver hreality, fromProfile_olcRtc hserver]
  constructor
  · rintro ⟨haccept, hkeyHex⟩
    refine ⟨fun ⟨hblank, hclient⟩ => ?_, fun ⟨hprovider, hsecond⟩ => ?_⟩
    · have hprovider := (haccept.mpr ⟨Or.inr hblank, hclient⟩).2
      exact not_blankProvider_of_checked hprovider hblank
    · have hkeys : IsKey (clientKey profile) ↔ IsKey profile.auth.password :=
        ⟨fun hclient => (haccept.mpr ⟨Or.inl hprovider, hclient⟩).1,
          fun hpassword => (haccept.mp ⟨hpassword, hprovider⟩).2⟩
      obtain ⟨hpassword, hclient, hne⟩ := secondKey_disagrees hsecond hkeys
      obtain ⟨config, hconfig⟩ := (fromProfile_olcRtc hserver).mpr ⟨Or.inl hprovider, hclient⟩
      have hsame := hkeyHex config ⟨hpassword, hprovider⟩ hconfig
      exact hne ((fromProfile_keyHex hconfig).trans hsame.symm)
  · rintro ⟨hblank, hsecond⟩
    by_cases hprovider : provider profile = "wb_stream"
    · obtain ⟨hkeys, hsame⟩ := isKey_clientKey fun h => hsecond ⟨hprovider, h⟩
      refine ⟨?_, fun config ⟨hpassword, _⟩ hconfig => ?_⟩
      · rw [hkeys, and_iff_left hprovider, and_iff_right (Or.inl hprovider)]
      · rw [← hsame hpassword]
        exact fromProfile_keyHex hconfig
    · refine ⟨iff_of_false (fun h => hprovider h.2) ?_, fun config h => absurd h.2 hprovider⟩
      rintro ⟨hor, hclient⟩
      exact hblank ⟨hor.resolve_left hprovider, hclient⟩

end Readers

/-! ### Three profiles -/

def keyA : String := "00112233445566778899aabbccddeeff00112233445566778899aabbccddeeff"

def keyB : String := "ffeeddccbbaa99887766554433221100ffeeddccbbaa99887766554433221100"

def sharedKeyProfile : VpnProfile where
  id := 1
  name := "Room"
  protocol := .olcRtc
  server := "stream.wb.ru"
  port := 443
  auth := { password := some keyA }

theorem readers_agree_shared_key : ReadersAgree sharedKeyProfile :=
  (readers_agree_iff sharedKeyProfile rfl ⟨by decide, by decide, by decide⟩ rfl).mpr
    ⟨fun ⟨⟨_, hname, _⟩, _⟩ => (nomatch hname), fun ⟨_, _, hkey, _⟩ => (nomatch hkey)⟩

/-- The profile with another shared key among its extra data. -/
def twoKeys : VpnProfile := { sharedKeyProfile with extra := [("key", .string keyB)] }

/-- The profile with a blank provider. -/
def blankProvider : VpnProfile := { sharedKeyProfile with extra := [("provider", .string " ")] }

/-- The checks accept the password and the client uses the other key; the checks reject
a blank provider and the client takes it for the default. -/
theorem readers_disagree :
    ((validate twoKeys).valid = true ∧ clientKey twoKeys = some keyB ∧ ¬ReadersAgree twoKeys) ∧
      (validate blankProvider).valid = false ∧ Succeeds (OlcRtcConfig.fromProfile blankProvider) ∧
        ¬ReadersAgree blankProvider := by
  have hvalid : (validate twoKeys).valid = true := by decide
  have hrejected : (validate blankProvider).valid = false := by decide
  have hblank : Succeeds (OlcRtcConfig.fromProfile blankProvider) := ⟨_, rfl⟩
  refine ⟨⟨hvalid, rfl, fun h => ?_⟩, hrejected, hblank, fun h => ?_⟩
  · obtain ⟨config, hconfig⟩ := h.1.mp hvalid
    have hpassword : some keyA = some config.keyHex := h.2 config hvalid hconfig
    have hclient : some keyB = some config.keyHex := fromProfile_keyHex hconfig
    exact absurd (hpassword.trans hclient.symm) (by decide)
  · rw [h.1.mpr hblank] at hrejected
    cases hrejected

end TauriVpn.Config
