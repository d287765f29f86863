import TauriVpn.Errors
import TauriVpn.Lib.Succeeds
import TauriVpn.Models
import TauriVpn.Text

/-! The configuration of the OLC RTC client that a profile describes. -/

namespace TauriVpn.Olcrtc

def defaultProvider : String := "wb_stream"
def defaultLocalHost : String := "127.0.0.1"
def defaultLocalPort : UInt16 := 10808

structure OlcRtcConfig where
  provider : String
  roomId : String
  keyHex : String
  localHost : String
  localPort : UInt16
  displayName : String

/-- A member of the profile's extra data that is a string and not blank. -/
def stringExtra (profile : VpnProfile) (key : String) : Option String :=
  ((profile.extra.lookup key).bind Value.asStr).filter fun value => !isBlank value

/-- A member that is a number, or a string that parses as one. -/
def u16Extra (profile : VpnProfile) (key : String) : Option UInt16 :=
  match profile.extra.lookup key with
  | some (.number n) => if 0 ≤ n ∧ n < 65536 then some (UInt16.ofNat n.toNat) else none
  | some (.string value) => parseU16 value
  | _ => none

/-- `OlcRtcConfig::from_profile`. -/
def OlcRtcConfig.fromProfile (profile : VpnProfile) : Except VpnError OlcRtcConfig := do
  let provider := (stringExtra profile "provider").getD defaultProvider
  if provider ≠ defaultProvider then
    throw (.unsupported ("unsupported OLC RTC provider " ++ provider))
  let roomId := (stringExtra profile "roomId").getD profile.server
  if isBlank roomId then
    throw (.invalidProfile "OLC RTC room id is required")
  match (stringExtra profile "key").or profile.auth.password with
  | none => throw (.invalidProfile "OLC RTC shared key is required")
  | some keyHex =>
    if keyHex.utf8ByteSize ≠ 64 ∨ keyHex.toList.all isAsciiHexdigit = false then
      throw (.invalidProfile "OLC RTC shared key must be a 32-byte hex string")
    return {
      provider, roomId, keyHex
      localHost := (stringExtra profile "localHost").getD defaultLocalHost
      localPort := (u16Extra profile "localPort").getD defaultLocalPort
      displayName := profile.name }

/-- The address of the local SOCKS proxy. -/
def localSocksEndpoint (profile : VpnProfile) : Except VpnError (String × UInt16) := do
  let config ← OlcRtcConfig.fromProfile profile
  return (config.localHost, config.localPort)

/-- Which profiles a configuration is made from, and which configuration it is. -/
theorem OlcRtcConfig.fromProfile_eq_ok_iff {profile : VpnProfile} {config : OlcRtcConfig} :
    OlcRtcConfig.fromProfile profile = .ok config ↔
      (stringExtra profile "provider").getD defaultProvider = defaultProvider ∧
      isBlank ((stringExtra profile "roomId").getD profile.server) = false ∧
      ∃ key, (stringExtra profile "key").or profile.auth.password = some key ∧
        (key.utf8ByteSize = 64 ∧ key.toList.all isAsciiHexdigit = true) ∧
        { provider := (stringExtra profile "provider").getD defaultProvider
          roomId := (stringExtra profile "roomId").getD profile.server
          keyHex := key
          localHost := (stringExtra profile "localHost").getD defaultLocalHost
          localPort := (u16Extra profile "localPort").getD defaultLocalPort
          displayName := profile.name } = config := by
  simp only [OlcRtcConfig.fromProfile]
  rw [Succeeds.check_eq_ok_iff, Succeeds.check_eq_ok_iff, not_not, Bool.not_eq_true]
  refine and_congr_right fun _ => and_congr_right fun _ => ?_
  cases (stringExtra profile "key").or profile.auth.password with
  | none => exact iff_of_false (fun h => nomatch h) fun ⟨_, h, _⟩ => nomatch h
  | some key =>
    dsimp only
    rw [Succeeds.check_eq_ok_iff, not_or, not_not, Bool.not_eq_false]
    simp only [Option.some.injEq, exists_eq_left']
    exact and_congr_right fun _ => ⟨fun h => Except.ok.inj h, fun h => congrArg Except.ok h⟩

/-- Which profiles a configuration is made from. -/
theorem OlcRtcConfig.fromProfile_succeeds (profile : VpnProfile) :
    Succeeds (OlcRtcConfig.fromProfile profile) ↔
      (stringExtra profile "provider").getD defaultProvider = defaultProvider ∧
      isBlank ((stringExtra profile "roomId").getD profile.server) = false ∧
      ∃ key, (stringExtra profile "key").or profile.auth.password = some key ∧
        key.utf8ByteSize = 64 ∧ key.toList.all isAsciiHexdigit = true := by
  constructor
  · rintro ⟨config, h⟩
    obtain ⟨hprovider, hroom, key, hkey, hshared, -⟩ := fromProfile_eq_ok_iff.mp h
    exact ⟨hprovider, hroom, key, hkey, hshared⟩
  · rintro ⟨hprovider, hroom, key, hkey, hshared⟩
    exact ⟨_, fromProfile_eq_ok_iff.mpr ⟨hprovider, hroom, key, hkey, hshared, rfl⟩⟩

theorem localSocksEndpoint_succeeds (profile : VpnProfile) :
    Succeeds (localSocksEndpoint profile) ↔ Succeeds (OlcRtcConfig.fromProfile profile) :=
  Succeeds.bind_pure_iff (OlcRtcConfig.fromProfile profile)
    fun config => (config.localHost, config.localPort)

end TauriVpn.Olcrtc
