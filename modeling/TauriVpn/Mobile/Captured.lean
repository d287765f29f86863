import TauriVpn.Config.References
import TauriVpn.Mobile.TunOptions

/-! What the tun inbound of a generated configuration asks of a phone: the addresses of the
tunnel, no routes of its own, and the local networks as what is excluded. Beside it, what the
route rules decide for a local destination, should the tunnel take it. -/

namespace TauriVpn.Mobile

open IpText Config

/-- The inbound that the core opens a tunnel for. -/
def tunInboundOf (config : Value) : Value :=
  ((config.get "inbounds").items.find? fun inbound => (inbound.get "type").asStr == some "tun").getD .null

def IsLocal (a : IpAddr) : Prop := ∃ cidr ∈ localNetworkCidrs, inRange cidr a = true

instance (a : IpAddr) : Decidable (IsLocal a) :=
  inferInstanceAs (Decidable (∃ cidr ∈ localNetworkCidrs, inRange cidr a = true))

section Generated
variable {os : TargetOs} {options : ConnectOptions} {config : Value} {tun : TunOptions}

theorem tunInboundOf_generated (hconfig : generateSingBoxConfig os options = .ok config) :
    tunInboundOf config = tunInbound os options := by
  obtain ⟨-, outbound, -, rfl⟩ := generateSingBoxConfig_eq_ok hconfig
  cases os <;> rfl

/-- The members of the inbound that routes are made of. -/
structure Asks (os : TargetOs) (tun : TunOptions) : Prop where
  autoRoute : tun.autoRoute = true
  address4 : tun.inet4.address ≠ []
  address6 : tun.inet6.address = [] ↔ os ≠ .ios
  noRoute4 : tun.inet4.routeAddress = []
  noRoute6 : tun.inet6.routeAddress = []
  excluded4 : ∀ a, Covers tun.inet4.routeExcludeAddress a ↔ IsLocal a
  excluded6 : tun.inet6.routeExcludeAddress = []
  range4 : ∀ a, Covers tun.inet4.routeRange a ↔ a.isV6 = false ∧ ¬IsLocal a
  range6 : os ≠ .ios → tun.inet6.routeRange = []

/-- The local networks are ranges of IPv4 addresses. -/
theorem no_local6 : (localNetworkCidrs.filter fun text => familyOf text == some true) = [] := by decide +kernel

theorem isV6_of_isLocal {a : IpAddr} (h : IsLocal a) : a.isV6 = false := by
  have hfamilies : ∀ cidr ∈ localNetworkCidrs, familyOf cidr = some false := by decide +kernel
  obtain ⟨cidr, hmem, hin⟩ := h
  exact (Option.some.inj ((hfamilies cidr hmem).symm.trans (familyOf_of_inRange hin))).symm

theorem asks_of_reads (hconfig : generateSingBoxConfig os options = .ok config)
    (hreads : ReadsTun (tunInboundOf config) tun) : Asks os tun := by
  rw [tunInboundOf_generated hconfig] at hreads
  have hauto : tun.autoRoute = true := hreads.autoRoute.mpr rfl
  have haddress : stringsOf ((tunInbound os options).get "address") = tunAddress os := stringsOf_strings _
  have hexcluded : stringsOf ((tunInbound os options).get "route_exclude_address") = localNetworkCidrs := stringsOf_strings _
  have hroute : stringsOf ((tunInbound os options).get "route_address") = [] := rfl
  have haddress4 : tun.inet4.address ≠ [] := by
    rw [Ne, hreads.inet4.address.eq_nil_iff, haddress]
    cases os <;> decide +kernel
  have haddress6 : tun.inet6.address = [] ↔ os ≠ .ios := by
    rw [hreads.inet6.address.eq_nil_iff, haddress]
    cases os <;> decide +kernel
  have hnoRoute4 : tun.inet4.routeAddress = [] := by
    rw [hreads.inet4.routeAddress.eq_nil_iff, hroute, List.filter_nil]
  have hexcluded4 : ∀ a, Covers tun.inet4.routeExcludeAddress a ↔ IsLocal a := fun a => by
    rw [hreads.inet4.routeExcludeAddress.covers, hexcluded]
    exact and_iff_right_of_imp isV6_of_isLocal
  exact {
    autoRoute := hauto
    address4 := haddress4
    address6 := haddress6
    noRoute4 := hnoRoute4
    noRoute6 := by rw [hreads.inet6.routeAddress.eq_nil_iff, hroute, List.filter_nil]
    excluded4 := hexcluded4
    excluded6 := by rw [hreads.inet6.routeExcludeAddress.eq_nil_iff, hexcluded, no_local6]
    range4 := fun a => by
      rw [hreads.inet4.routeRange hauto haddress4, hnoRoute4, hexcluded4]
      simp
    range6 := fun hos => hreads.inet6.noRange (haddress6.mpr hos) }

end Generated

/-! ### The decision for a local destination -/

section Decision
variable {os : TargetOs} {options : ConnectOptions} {config : Value} {c : Connection IpAddr} {a : IpAddr}

theorem inAny_localNetworkCidrs (haddress : c.address = some a) :
    c.inAny inRange localNetworkCidrs = true ↔ IsLocal a := by
  simp [Connection.inAny, haddress, IsLocal]

theorem decideRoute_generated (hconfig : generateSingBoxConfig os options = .ok config) :
    decideRoute inRange (rulesOf config) c =
      some (routeDecision inRange c os options.routeBypassCidrs (dnsUpstreamsForOptions options)) := by
  obtain ⟨-, outbound, -, rfl⟩ := generateSingBoxConfig_eq_ok hconfig
  exact decideRoute_routeRules inRange c os options.profile options.routeBypassCidrs (dnsUpstreamsForOptions options)

/-- What the rules send to the proxy is for no local network. -/
theorem not_isLocal_of_proxy (hconfig : generateSingBoxConfig os options = .ok config) (haddress : c.address = some a)
    (hproxy : decideRoute inRange (rulesOf config) c = some (.route "proxy")) : ¬IsLocal a := by
  intro hlocal
  have hrange : c.inAny inRange localNetworkCidrs = true ∨
      c.inAny inRange (bypassCidrs options.routeBypassCidrs) = true := Or.inl ((inAny_localNetworkCidrs haddress).mpr hlocal)
  rw [decideRoute_generated hconfig, Option.some.injEq, routeDecision, if_pos hrange] at hproxy
  revert hproxy
  split_ifs <;> decide

/-- What is for a local network goes direct, unless it is DNS. -/
theorem direct_of_isLocal (hconfig : generateSingBoxConfig os options = .ok config) (haddress : c.address = some a)
    (hlocal : IsLocal a) (hdns : ¬c.IsDns) : decideRoute inRange (rulesOf config) c = some (.route "direct") := by
  have hrange : c.inAny inRange localNetworkCidrs = true ∨
      c.inAny inRange (bypassCidrs options.routeBypassCidrs) = true := Or.inl ((inAny_localNetworkCidrs haddress).mpr hlocal)
  have hother : ¬(c.protocol = some "dns" ∨ (c.network = .udp ∧ c.port = 53)) := hdns
  rw [decideRoute_generated hconfig, routeDecision, if_neg hother, if_pos hrange, ite_self]

end Decision

/-! ### A core for examples -/

/-- The bits as four numbers with dots between them. -/
def dotted (bits : List Bool) : String :=
  String.ofList (['.'].intercalate ((bits.toChunks 8).map fun octet =>
    Nat.toDigits 10 (octet.foldl (fun n b => 2 * n + b.toNat) 0)))

/-- A range of IPv4 addresses, with zeros for the bits that it leaves open. -/
def printed (range : List Bool) : RoutePrefix where
  address := dotted (range.tail ++ List.replicate (33 - range.length) false)
  prefixLength := range.length - 1
  mask := dotted (BitPrefix.mask (range.length - 1) 32)

/-- The local networks, and what they leave of the IPv4 addresses. -/
def localRanges : List (List Bool) := localNetworkCidrs.filterMap fun cidr => readRange cidr.toList
def publicRanges : List (List Bool) := BitPrefix.subtract [[false]] localRanges

/-- What the core makes of a generated tun inbound. -/
def sampleTun (os : TargetOs) : TunOptions where
  mtu := 1400
  autoRoute := true
  dnsServerAddress := .ok "198.18.0.2"
  inet4 := {
    address := [⟨"198.18.0.1", 30, "255.255.255.252"⟩]
    routeExcludeAddress := localRanges.map printed
    routeRange := publicRanges.map printed }
  inet6 := if os = .ios then { address := [⟨"fdfe:dcba:9876::1", 126, ""⟩], routeRange := [⟨"::", 0, ""⟩] } else {}

theorem sampleTun_reads4 (os : TargetOs) (options : ConnectOptions) :
    ReadsInet false (tunInbound os options) true (sampleTun os).inet4 where
  address := by
    show Reads false (stringsOf (.strings (tunAddress os))) _
    rw [stringsOf_strings]
    cases os <;> (unfold Reads; decide +kernel)
  routeAddress := by unfold Reads; exact List.Forall₂.nil
  routeExcludeAddress := by
    show Reads false (stringsOf (.strings localNetworkCidrs)) (localRanges.map printed)
    rw [stringsOf_strings]
    unfold Reads
    decide +kernel
  routeRange _ _ a := by
    have hpublic : (publicRanges.map printed).map RoutePrefix.bits? = publicRanges.map some := by decide +kernel
    have hlocal : (localRanges.map printed).map RoutePrefix.bits? = localRanges.map some := by decide +kernel
    have hlength : ∀ range ∈ localRanges, range.length ≤ a.key.length := by
      have hall : ∀ range ∈ localRanges, range.length ≤ 33 := by decide +kernel
      exact fun range hmem => (hall range hmem).trans a.le_length_key
    show Covers (publicRanges.map printed) a ↔ a.isV6 = false ∧ (_ ∨ _) ∧ ¬Covers (localRanges.map printed) a
    rw [covers_of_bits hpublic, covers_of_bits hlocal, publicRanges, BitPrefix.covers_subtract hlength,
      IpAddr.covers_family]
    exact and_congr_right fun _ => (and_iff_right (Or.inl rfl)).symm
  noRange h := by cases h

theorem sampleTun_reads6 (os : TargetOs) (options : ConnectOptions) :
    ReadsInet true (tunInbound os options) true (sampleTun os).inet6 where
  address := by
    show Reads true (stringsOf (.strings (tunAddress os))) _
    rw [stringsOf_strings]
    cases os <;> (unfold Reads; decide +kernel)
  routeAddress := by
    unfold Reads
    cases os <;> exact List.Forall₂.nil
  routeExcludeAddress := by
    show Reads true (stringsOf (.strings localNetworkCidrs)) _
    rw [stringsOf_strings]
    unfold Reads
    rw [no_local6]
    cases os <;> exact List.Forall₂.nil
  routeRange _ haddress a := by
    have hios : os = .ios := by
      by_contra hos
      exact haddress (by simp [sampleTun, hos])
    subst hios
    have hrange : ([⟨"::", 0, ""⟩] : List RoutePrefix).map RoutePrefix.bits? = [[true]].map some := by decide +kernel
    show Covers [⟨"::", 0, ""⟩] a ↔ a.isV6 = true ∧ (_ ∨ _) ∧ ¬Covers [] a
    rw [covers_of_bits hrange, IpAddr.covers_family]
    exact (and_iff_left ⟨Or.inl rfl, not_covers_nil⟩).symm
  noRange h := by
    cases os with
    | ios => cases h
    | _ => rfl

/-- A Trojan server. -/
def sampleOptions : ConnectOptions where
  profile := {
    id := 0
    name := "Home"
    protocol := .trojan
    server := "trojan.example.com"
    port := 443
    auth := { password := some "secret" }
    tls := some { enabled := true } }

theorem sampleTun_reads {os : TargetOs} {options : ConnectOptions} {config : Value}
    (hconfig : generateSingBoxConfig os options = .ok config) : ReadsTun (tunInboundOf config) (sampleTun os) := by
  rw [tunInboundOf_generated hconfig]
  exact ⟨iff_of_true rfl rfl, sampleTun_reads4 os options, sampleTun_reads6 os options⟩

end TauriVpn.Mobile
