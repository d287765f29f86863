import TauriVpn.Config.Generate

/-! Whether the checks of a profile and the generation of a configuration agree. The
generation runs the checks first, so it never accepts more; it rejects two kinds of
valid profile: a WireGuard profile without an IPv4 local address, and an OLC RTC
profile with a second, malformed key among its extra data. -/

namespace TauriVpn.Config

open Protocols Olcrtc

/-! ### The OLC RTC client on a profile that passes the checks -/

section OlcRtc
variable {profile : VpnProfile} {key value : String}

theorem stringExtra_not_blank (h : stringExtra profile key = some value) : isBlank value = false := by
  have hfilter := (Option.filter_eq_some_iff.mp h).2
  simpa using hfilter

/-- The client takes a blank provider for the default one, the checks do not. -/
theorem provider_default (h : provider profile = "wb_stream") :
    (stringExtra profile "provider").getD defaultProvider = defaultProvider := by
  unfold provider at h
  unfold stringExtra
  cases hextra : (profile.extra.lookup "provider").bind Value.asStr with
  | none => rfl
  | some name =>
    rw [hextra] at h
    have hname : name = defaultProvider := h
    rw [Option.filter_some]
    split_ifs with hblank
    · exact hname
    · rfl

theorem roomId_not_blank (hserver : isBlank profile.server = false) :
    isBlank ((stringExtra profile "roomId").getD profile.server) = false := by
  cases hroom : stringExtra profile "roomId" with
  | none => exact hserver
  | some roomId => exact stringExtra_not_blank hroom

/-- Only the key among the extra data, which comes before the password, can fail the
client on a profile that passes the checks. -/
theorem fromProfile_succeeds_of_checked (hserver : isBlank profile.server = false)
    (hprovider : provider profile = "wb_stream")
    (hpassword : ∃ password, profile.auth.password = some password ∧ isSharedKey password) :
    Succeeds (OlcRtcConfig.fromProfile profile) ↔
      ∀ key, stringExtra profile "key" = some key → isSharedKey key := by
  obtain ⟨password, hsome, hkey⟩ := hpassword
  rw [OlcRtcConfig.fromProfile_succeeds, and_iff_right (provider_default hprovider),
    and_iff_right (roomId_not_blank hserver), hsome]
  cases stringExtra profile "key" with
  | none =>
    simp only [Option.none_or, reduceCtorEq, false_imp_iff, implies_true, iff_true]
    exact ⟨password, rfl, hkey⟩
  | some extraKey =>
    simp only [Option.some_or, Option.some.injEq, exists_eq_left', forall_eq']
    rfl

end OlcRtc

/-! ### The profiles on which they disagree -/

/-- A profile that the checks accept and the generation rejects. -/
def Misjudged (profile : VpnProfile) : Prop :=
  HasServer profile ∧ profile.reality = none ∧
    match profile.protocol with
    | .wireGuard => ∃ wg, profile.wireguard = some wg ∧ ipv4OnlyCidrs wg.localAddress = []
    | .olcRtc =>
      (∃ password, profile.auth.password = some password ∧ isSharedKey password) ∧
        provider profile = "wb_stream" ∧
        ∃ key, stringExtra profile "key" = some key ∧ ¬isSharedKey key
    | _ => False

example : Misjudged { sampleProfile with extra := [("key", .string "0001")] } :=
  ⟨⟨by decide, by decide, by decide⟩, rfl, ⟨_, rfl, by decide⟩, rfl, "0001", rfl, by decide⟩

theorem realityAllowed_of_ne_vless {profile : VpnProfile} (h : profile.protocol ≠ .vless) :
    RealityAllowed profile ↔ profile.reality = none := by
  rw [RealityAllowed, imp_iff_not h, Bool.not_eq_true, Option.isSome_eq_false_iff, Option.isNone_iff_eq_none]

/-- For the other protocols the checks ask what the outbound needs. -/
theorem hasOutbound_of_hasCredentials {profile : VpnProfile} (hwireGuard : profile.protocol ≠ .wireGuard)
    (holcRtc : profile.protocol ≠ .olcRtc) (h : HasCredentials profile) : HasOutbound profile := by
  unfold HasCredentials at h
  unfold HasOutbound
  cases hp : profile.protocol with
  | wireGuard => exact absurd hp hwireGuard
  | olcRtc => exact absurd hp holcRtc
  | shadowsocks =>
    rw [hp] at h
    exact And.symm h
  | vless | vmess | trojan | hysteria | hysteria2 | tuic | tun | mixed | socks | http =>
    rw [hp] at h
    exact h

/-- The misjudged profiles are the valid ones without an outbound. -/
theorem misjudged_iff (profile : VpnProfile) :
    Misjudged profile ↔ (validate profile).valid = true ∧ ¬HasOutbound profile := by
  rw [validate_valid]
  cases hp : profile.protocol with
  | wireGuard =>
    rw [realityAllowed_of_ne_vless (by rw [hp]; decide)]
    simp only [Misjudged, HasCredentials, HasOutbound, hp, Option.isSome_iff_exists]
    constructor
    · rintro ⟨hserver, hreality, wg, hwg, hnone⟩
      refine ⟨⟨hserver, ⟨wg, hwg⟩, hreality⟩, ?_⟩
      rintro ⟨wg', hwg', hsome⟩
      rw [hwg] at hwg'
      cases hwg'
      exact hsome hnone
    · rintro ⟨⟨hserver, ⟨wg, hwg⟩, hreality⟩, hout⟩
      refine ⟨hserver, hreality, wg, hwg, ?_⟩
      by_contra hsome
      exact hout ⟨wg, hwg, hsome⟩
  | olcRtc =>
    rw [realityAllowed_of_ne_vless (by rw [hp]; decide)]
    simp only [Misjudged, HasCredentials, HasOutbound, hp]
    constructor
    · rintro ⟨hserver, hreality, hpassword, hprovider, key, hkey, hbad⟩
      refine ⟨⟨hserver, ⟨hpassword, hprovider⟩, hreality⟩, ?_⟩
      rw [fromProfile_succeeds_of_checked hserver.2.1 hprovider hpassword]
      exact fun hall => hbad (hall key hkey)
    · rintro ⟨⟨hserver, ⟨hpassword, hprovider⟩, hreality⟩, hout⟩
      rw [fromProfile_succeeds_of_checked hserver.2.1 hprovider hpassword] at hout
      simp only [not_forall, exists_prop] at hout
      exact ⟨hserver, hreality, hpassword, hprovider, hout⟩
  | vless | vmess | trojan | shadowsocks | hysteria | hysteria2 | tuic | tun | mixed | socks | http =>
    simp only [Misjudged, hp, and_false, false_iff, not_and, not_not]
    rintro ⟨-, hcredentials, -⟩
    exact hasOutbound_of_hasCredentials (by rw [hp]; decide) (by rw [hp]; decide) hcredentials

/-- The checks and the generation agree on a profile exactly when it is not one of
those, for every target and every other option. -/
theorem generate_agrees_iff (os : TargetOs) (options : ConnectOptions) :
    (Succeeds (generateSingBoxConfig os options) ↔ (validate options.profile).valid = true) ↔
      ¬Misjudged options.profile := by
  rw [generateSingBoxConfig_succeeds, misjudged_iff, and_iff_left_iff_imp, not_and, not_not]

/-- A WireGuard profile whose only local address is an IPv6 one. -/
def ipv6WireGuard : VpnProfile where
  id := 1
  name := "WG"
  protocol := .wireGuard
  server := "wg.example.com"
  port := 51820
  auth := {}
  wireguard := some { privateKey := "cHJpdmF0ZQ==", localAddress := ["fd00::2/128"] }

/-- It is shown as valid and rejected when it is used. -/
theorem ipv6WireGuard_rejected :
    (validate ipv6WireGuard).valid = true ∧
      generateSingBoxConfig .linux { profile := ipv6WireGuard } =
        .error (.invalidProfile "wireGuard local_address must contain an IPv4 address") ∧
      ¬(Succeeds (generateSingBoxConfig .linux { profile := ipv6WireGuard }) ↔
        (validate ipv6WireGuard).valid = true) := by
  have hvalid : (validate ipv6WireGuard).valid = true := by decide
  have hgenerate : generateSingBoxConfig .linux { profile := ipv6WireGuard } =
      .error (.invalidProfile "wireGuard local_address must contain an IPv4 address") := rfl
  refine ⟨hvalid, hgenerate, fun h => ?_⟩
  obtain ⟨config, hconfig⟩ := h.mpr hvalid
  rw [hgenerate] at hconfig
  cases hconfig

end TauriVpn.Config
