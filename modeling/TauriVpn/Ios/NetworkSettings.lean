import TauriVpn.Lib.Succeeds
import TauriVpn.Mobile.Captured

/-! The network settings that the packet tunnel of iOS makes of the options of the core. A family
that has an address gets its routes, the default route where there are none, and the routes that
are excluded from them. An IPv4 route is an address with a mask, an IPv6 route one with a number
of bits. -/

namespace TauriVpn.Ios

open IpText Mobile Config

structure IPv4Route where
  destinationAddress : String
  subnetMask : String

structure IPv6Route where
  destinationAddress : String
  networkPrefixLength : ℕ

structure IPv4Settings where
  addresses : List String
  subnetMasks : List String
  includedRoutes : List IPv4Route
  excludedRoutes : List IPv4Route

structure IPv6Settings where
  addresses : List String
  networkPrefixLengths : List ℕ
  includedRoutes : List IPv6Route
  excludedRoutes : List IPv6Route

structure DnsSettings where
  servers : List String
  matchDomains : List String

structure ProxySettings where
  httpEnabled : Bool
  httpsEnabled : Bool
  httpServer : String × ℕ
  httpsServer : String × ℕ
  exceptionList : List String
  matchDomains : Option (List String)

structure NetworkSettings where
  tunnelRemoteAddress : String
  mtu : Option ℕ := none
  dnsSettings : Option DnsSettings := none
  ipv4Settings : Option IPv4Settings := none
  ipv6Settings : Option IPv6Settings := none
  proxySettings : Option ProxySettings := none

/-- `NEIPv4Route.default()` and `NEIPv6Route.default()`. -/
def default4 : IPv4Route := { destinationAddress := "0.0.0.0", subnetMask := "0.0.0.0" }
def default6 : IPv6Route := { destinationAddress := "::", networkPrefixLength := 0 }

/-- The routes of an iterator, or the default route where it has none. -/
def routesBy {Route : Type} (route : RoutePrefix → Route) (iterator : List RoutePrefix) (defaultRoute : Option Route) :
    List Route :=
  let values := iterator.map route
  if values.isEmpty then defaultRoute.toList else values

def routes : List RoutePrefix → Option IPv4Route → List IPv4Route :=
  routesBy fun p => { destinationAddress := p.address, subnetMask := p.mask }

def routes6 : List RoutePrefix → Option IPv6Route → List IPv6Route :=
  routesBy fun p => { destinationAddress := p.address, networkPrefixLength := p.prefixLength }

def makeNetworkSettings (options : TunOptions) : Except String NetworkSettings := do
  let settings : NetworkSettings := { tunnelRemoteAddress := "127.0.0.1" }
  let settings ←
    if options.autoRoute then do
      let dnsServer ← options.dnsServerAddress
      let inet4 := options.inet4
      let inet6 := options.inet6
      pure { settings with
        mtu := some options.mtu
        dnsSettings := some { servers := [dnsServer], matchDomains := [""] }
        ipv4Settings :=
          if inet4.address.isEmpty then none
          else some {
            addresses := inet4.address.map RoutePrefix.address
            subnetMasks := inet4.address.map RoutePrefix.mask
            includedRoutes := routes inet4.routeAddress (some default4)
            excludedRoutes := routes inet4.routeExcludeAddress none }
        ipv6Settings :=
          if inet6.address.isEmpty then none
          else some {
            addresses := inet6.address.map RoutePrefix.address
            networkPrefixLengths := inet6.address.map RoutePrefix.prefixLength
            includedRoutes := routes6 inet6.routeAddress (some default6)
            excludedRoutes := routes6 inet6.routeExcludeAddress none } }
    else pure settings
  if options.httpProxyEnabled then
    let proxyServer := (options.httpProxyServer, options.httpProxyServerPort)
    let matchDomains := options.httpProxyMatchDomain
    return { settings with
      proxySettings := some {
        httpEnabled := true
        httpsEnabled := true
        httpServer := proxyServer
        httpsServer := proxyServer
        exceptionList := options.httpProxyBypassDomain
        matchDomains := if matchDomains.isEmpty then none else some matchDomains } }
  else return settings

/-! ### What the settings take -/

/-- The route has the address, as the mask tells. -/
def IPv4Route.Has (route : IPv4Route) (a : Ipv4Addr) : Prop :=
  ∃ base mask, readIpv4 route.destinationAddress.toList = some base ∧ readIpv4 route.subnetMask.toList = some mask ∧
    BitPrefix.AgreeUnder mask.bits base.bits a.bits

def IPv6Route.Has (route : IPv6Route) (a : Ipv6Addr) : Prop :=
  ∃ base, readIpv6 route.destinationAddress.toList = some base ∧
    (IpAddr.v6 base).range route.networkPrefixLength <+: (IpAddr.v6 a).key

/-- The system sends what goes to the address into the tunnel. -/
def NetworkSettings.Takes (settings : NetworkSettings) : IpAddr → Prop
  | .v4 a => ∃ family, settings.ipv4Settings = some family ∧
      (∃ route ∈ family.includedRoutes, route.Has a) ∧ ¬∃ route ∈ family.excludedRoutes, route.Has a
  | .v6 a => ∃ family, settings.ipv6Settings = some family ∧
      (∃ route ∈ family.includedRoutes, route.Has a) ∧ ¬∃ route ∈ family.excludedRoutes, route.Has a

section Routes
variable {texts : List String} {prefixes : List RoutePrefix}

theorem default4_has (a : Ipv4Addr) : default4.Has a := by
  have hzero : readIpv4 "0.0.0.0".toList = some ⟨[0, 0, 0, 0], rfl⟩ := by decide +kernel
  have hbits : (⟨[0, 0, 0, 0], rfl⟩ : Ipv4Addr).bits = BitPrefix.mask 0 32 := by decide
  have hall : BitPrefix.AgreeUnder (BitPrefix.mask 0 32) (⟨[0, 0, 0, 0], rfl⟩ : Ipv4Addr).bits a.bits :=
    (IpAddr.agreeUnder_iff (Nat.zero_le 32)).mpr (IpAddr.range_zero.mpr rfl)
  rw [← hbits] at hall
  exact ⟨_, _, hzero, hzero, hall⟩

theorem default6_has (a : Ipv6Addr) : default6.Has a := by
  have hzero : readIpv6 "::".toList = some ⟨[0, 0, 0, 0, 0, 0, 0, 0], rfl⟩ := by decide +kernel
  exact ⟨_, hzero, IpAddr.range_zero.mpr rfl⟩

/-- A prefix has the same addresses by its mask as by its length. -/
theorem has_iff_lies {p : RoutePrefix} {text : String} (hsaid : p.Says text) (hfamily : familyOf text = some false)
    (a : Ipv4Addr) : ({ destinationAddress := p.address, subnetMask := p.mask } : IPv4Route).Has a ↔
      Lies p.address p.prefixLength (.v4 a) := by
  obtain ⟨base, hbase, hlength, -, hmask⟩ := id hsaid
  have hv4 : base.isV6 = false := Option.some.inj ((hsaid.family hbase).symm.trans hfamily)
  obtain ⟨mask, hreadMask, hbits⟩ := hmask hv4
  cases base with
  | v6 b => cases hv4
  | v4 b =>
    have hread := readIpv4_of_readAddress hbase
    have hbound : p.prefixLength ≤ 32 := b.length_bits ▸ hlength
    have hagree := IpAddr.agreeUnder_iff (a := b) (b := a) hbound
    constructor
    · rintro ⟨base, m, hbase', hmask', hunder⟩
      obtain rfl := Option.some.inj (hread.symm.trans hbase')
      obtain rfl := Option.some.inj (hreadMask.symm.trans hmask')
      exact ⟨_, hbase, hagree.mp (hbits ▸ hunder)⟩
    · rintro ⟨base, hbase', hin⟩
      obtain rfl := Option.some.inj (hbase.symm.trans hbase')
      exact ⟨b, mask, hread, hreadMask, hbits ▸ hagree.mpr hin⟩

theorem has6_iff_lies {p : RoutePrefix} {text : String} (hsaid : p.Says text) (hfamily : familyOf text = some true)
    (a : Ipv6Addr) : ({ destinationAddress := p.address, networkPrefixLength := p.prefixLength } : IPv6Route).Has a ↔
      Lies p.address p.prefixLength (.v6 a) := by
  obtain ⟨base, hbase, -⟩ := id hsaid
  have hv6 : base.isV6 = true := Option.some.inj ((hsaid.family hbase).symm.trans hfamily)
  cases base with
  | v4 b => cases hv6
  | v6 b =>
    have hread := readIpv6_of_readAddress hbase
    constructor
    · rintro ⟨base, hbase', hin⟩
      obtain rfl := Option.some.inj (hread.symm.trans hbase')
      exact ⟨_, hbase, hin⟩
    · rintro ⟨base, hbase', hin⟩
      obtain rfl := Option.some.inj (hbase.symm.trans hbase')
      exact ⟨b, hread, hin⟩

/-- The routes have what the prefixes have, or what the default route has where there are none. -/
theorem exists_mem_routesBy {Route : Type} {route : RoutePrefix → Route} {Has : Route → Prop} {a : IpAddr}
    (hhas : ∀ p ∈ prefixes, Has (route p) ↔ Lies p.address p.prefixLength a) (defaultRoute : Option Route) :
    (∃ r ∈ routesBy route prefixes defaultRoute, Has r) ↔
      Covers prefixes a ∨ (prefixes = [] ∧ ∃ r ∈ defaultRoute, Has r) := by
  unfold routesBy
  dsimp only
  rw [List.isEmpty_map]
  split_ifs with hempty
  · rw [List.isEmpty_iff] at hempty
    simp [hempty, not_covers_nil]
  · have hsome : ¬(prefixes = [] ∧ ∃ r ∈ defaultRoute, Has r) := fun h => hempty (List.isEmpty_iff.mpr h.1)
    rw [or_iff_left hsome]
    simp only [List.mem_map, exists_exists_and_eq_and]
    exact exists_congr fun p => and_congr_right (hhas p)

theorem exists_mem_routes (hreads : Reads false texts prefixes) (defaultRoute : Option IPv4Route) (a : Ipv4Addr) :
    (∃ route ∈ routes prefixes defaultRoute, route.Has a) ↔
      Covers prefixes (.v4 a) ∨ (prefixes = [] ∧ ∃ route ∈ defaultRoute, route.Has a) := by
  refine exists_mem_routesBy (fun p hmem => ?_) defaultRoute
  obtain ⟨text, hfamily, hsaid⟩ := hreads.says_of_mem hmem
  exact has_iff_lies hsaid hfamily a

theorem exists_mem_routes6 (hreads : Reads true texts prefixes) (defaultRoute : Option IPv6Route) (a : Ipv6Addr) :
    (∃ route ∈ routes6 prefixes defaultRoute, route.Has a) ↔
      Covers prefixes (.v6 a) ∨ (prefixes = [] ∧ ∃ route ∈ defaultRoute, route.Has a) := by
  refine exists_mem_routesBy (fun p hmem => ?_) defaultRoute
  obtain ⟨text, hfamily, hsaid⟩ := hreads.says_of_mem hmem
  exact has6_iff_lies hsaid hfamily a

end Routes

/-! ### What a generated configuration takes -/

section Generated
variable {options : TunOptions} {settings : NetworkSettings}

/-- The families of the settings of a tunnel with routes. -/
theorem makeNetworkSettings_families (hauto : options.autoRoute = true)
    (h : makeNetworkSettings options = .ok settings) :
    (options.inet4.address ≠ [] → ∃ family, settings.ipv4Settings = some family ∧
        family.includedRoutes = routes options.inet4.routeAddress (some default4) ∧
        family.excludedRoutes = routes options.inet4.routeExcludeAddress none) ∧
      (options.inet6.address ≠ [] → ∃ family, settings.ipv6Settings = some family ∧
        family.includedRoutes = routes6 options.inet6.routeAddress (some default6) ∧
        family.excludedRoutes = routes6 options.inet6.routeExcludeAddress none) := by
  unfold makeNetworkSettings at h
  simp only [hauto, if_true] at h
  obtain ⟨dnsServer, -, h⟩ := Succeeds.bind_eq_ok h
  have hfamily : ∀ {α : Type} {texts : List RoutePrefix} {family : α}, texts ≠ [] →
      (if texts.isEmpty then none else some family) = some family := fun htexts =>
    if_neg fun hempty => htexts (List.isEmpty_iff.mp hempty)
  by_cases hproxy : options.httpProxyEnabled = true
  · rw [pure_bind, if_pos hproxy] at h
    obtain rfl := Except.ok.inj h
    exact ⟨fun h4 => ⟨_, hfamily h4, rfl, rfl⟩, fun h6 => ⟨_, hfamily h6, rfl, rfl⟩⟩
  · rw [pure_bind, if_neg hproxy] at h
    obtain rfl := Except.ok.inj h
    exact ⟨fun h4 => ⟨_, hfamily h4, rfl, rfl⟩, fun h6 => ⟨_, hfamily h6, rfl, rfl⟩⟩

/-- The tunnel takes both families, but for the local networks. -/
theorem takes_iff {tun : Value} {a : IpAddr} (hreads : ReadsTun tun options) (hasks : Asks .ios options)
    (h : makeNetworkSettings options = .ok settings) : settings.Takes a ↔ ¬IsLocal a := by
  have hfamilies := makeNetworkSettings_families hasks.autoRoute h
  cases a with
  | v4 a =>
    obtain ⟨family, hfamily, hincluded, hexcluded⟩ := hfamilies.1 hasks.address4
    have hin : ∃ route ∈ family.includedRoutes, route.Has a := by
      rw [hincluded, exists_mem_routes hreads.inet4.routeAddress]
      exact Or.inr ⟨hasks.noRoute4, default4, rfl, default4_has a⟩
    have hout : (∃ route ∈ family.excludedRoutes, route.Has a) ↔ IsLocal (.v4 a) := by
      rw [hexcluded, exists_mem_routes hreads.inet4.routeExcludeAddress, hasks.excluded4]
      simp
    simp only [NetworkSettings.Takes, hfamily, Option.some.injEq, exists_eq_left', hin, hout, true_and]
  | v6 a =>
    have haddress : options.inet6.address ≠ [] := fun hnone => hasks.address6.mp hnone rfl
    obtain ⟨family, hfamily, hincluded, hexcluded⟩ := hfamilies.2 haddress
    have hin : ∃ route ∈ family.includedRoutes, route.Has a := by
      rw [hincluded, exists_mem_routes6 hreads.inet6.routeAddress]
      exact Or.inr ⟨hasks.noRoute6, default6, rfl, default6_has a⟩
    have hout : ¬∃ route ∈ family.excludedRoutes, route.Has a := by
      rw [hexcluded, exists_mem_routes6 hreads.inet6.routeExcludeAddress, hasks.excluded6]
      simp [not_covers_nil]
    have hremote : ¬IsLocal (.v6 a) := fun hlocal => by cases isV6_of_isLocal hlocal
    simp only [NetworkSettings.Takes, hfamily, Option.some.injEq, exists_eq_left', hin, hout, hremote,
      not_false_eq_true, and_self]

end Generated

/-- What the tunnel of a generated configuration takes on iOS: every address of no local network,
of either family. Every connection that the rules of the configuration send to the proxy is
taken, and one that is left outside is one that they would send direct, unless it is DNS. -/
theorem settings_take (options : ConnectOptions) (config : Value)
    (hconfig : generateSingBoxConfig .ios options = .ok config) (tun : TunOptions)
    (hreads : ReadsTun (tunInboundOf config) tun) (settings : NetworkSettings)
    (hsettings : makeNetworkSettings tun = .ok settings) :
    (∀ a, settings.Takes a ↔ ¬IsLocal a) ∧
      ∀ (c : Connection IpAddr) a, c.address = some a →
        (decideRoute inRange (rulesOf config) c = some (.route "proxy") → settings.Takes a) ∧
        (¬settings.Takes a → ¬c.IsDns → decideRoute inRange (rulesOf config) c = some (.route "direct")) := by
  have htakes : ∀ a, settings.Takes a ↔ ¬IsLocal a := fun a =>
    takes_iff hreads (asks_of_reads hconfig hreads) hsettings
  refine ⟨htakes, fun c a haddress => ⟨fun hproxy => ?_, fun hout hdns => ?_⟩⟩
  · exact (htakes a).mpr (not_isLocal_of_proxy hconfig haddress hproxy)
  · have hlocal : IsLocal a := by
      by_contra hremote
      exact hout ((htakes a).mpr hremote)
    exact direct_of_isLocal hconfig haddress hlocal hdns

/-- The router stays outside, and a public IPv6 address does not. -/
theorem settings_take_phone : ∃ config settings, generateSingBoxConfig .ios sampleOptions = .ok config ∧
    makeNetworkSettings (sampleTun .ios) = .ok settings ∧ ¬settings.Takes (.v4 ⟨[192, 168, 0, 1], rfl⟩) ∧
      settings.Takes (.v6 ⟨[0x2606, 0x4700, 0x4700, 0, 0, 0, 0, 0x1111], rfl⟩) := by
  have hconfig : generateSingBoxConfig .ios sampleOptions = .ok _ := rfl
  have hok : (makeNetworkSettings (sampleTun .ios)).isOk = true := by decide +kernel
  cases hsettings : makeNetworkSettings (sampleTun .ios) with
  | error error => simp [hsettings, Except.isOk, Except.toBool] at hok
  | ok settings =>
    have htakes := (settings_take sampleOptions _ hconfig (sampleTun .ios) (sampleTun_reads hconfig) settings hsettings).1
    exact ⟨_, settings, hconfig, rfl, fun h => (htakes _).mp h (by decide +kernel), (htakes _).mpr (by decide +kernel)⟩

end TauriVpn.Ios
