import TauriVpn.Lib.Succeeds
import TauriVpn.Mobile.Captured

/-! The tunnel that the Android service opens. From Android 13 on the system gets the routes of
the options, and nothing of what they exclude; before, it gets the route range. Where a family
with an address has no routes, its default route stands in for them. -/

namespace TauriVpn.Android

open IpText Mobile Config

structure IpPrefix where
  address : String
  length : ℕ

structure VpnBuilder where
  session : String
  mtu : ℕ
  metered : Bool := true
  addresses : List IpPrefix := []
  dnsServers : List String := []
  routes : List IpPrefix := []

/-- What the system answers; a call of the builder throws where it does not take the value. -/
structure TunSystem where
  sdkInt : ℕ
  prepared : Bool
  takesMtu : ℕ → Except String Unit
  takesAddress : IpPrefix → Except String Unit
  takesDnsServer : String → Except String Unit
  takesRoute : IpPrefix → Except String Unit
  establish : VpnBuilder → Except String (Option ℤ)

/-- `Build.VERSION_CODES`. -/
def versionQ : ℕ := 29
def versionTiramisu : ℕ := 33

def collectPrefixes (iterator : List RoutePrefix) : List IpPrefix :=
  iterator.map fun p => { address := p.address, length := p.prefixLength }

section Builder
variable (system : TunSystem)

def addAddress (builder : VpnBuilder) (p : IpPrefix) : Except String VpnBuilder := do
  system.takesAddress p
  return { builder with addresses := builder.addresses ++ [p] }

def addDnsServer (builder : VpnBuilder) (address : String) : Except String VpnBuilder := do
  system.takesDnsServer address
  return { builder with dnsServers := builder.dnsServers ++ [address] }

def addRoute (builder : VpnBuilder) (p : IpPrefix) : Except String VpnBuilder := do
  system.takesRoute p
  return { builder with routes := builder.routes ++ [p] }

def addAddresses (builder : VpnBuilder) (prefixes : List IpPrefix) : Except String VpnBuilder :=
  prefixes.foldlM (addAddress system) builder

def addRoutes (builder : VpnBuilder) (prefixes : List IpPrefix) (fallbackAddress : String) (hasAddress : Bool) :
    Except String VpnBuilder := do
  let builder ← prefixes.foldlM (addRoute system) builder
  if prefixes.isEmpty && hasAddress then addRoute system builder { address := fallbackAddress, length := 0 }
  else return builder

def openTunInner (options : TunOptions) : Except String (ℤ × VpnBuilder) := do
  if system.prepared = false then throw "android: missing vpn permission"
  let inet4Addresses := collectPrefixes options.inet4.address
  let inet6Addresses := collectPrefixes options.inet6.address
  let inet4Routes := collectPrefixes <|
    if versionTiramisu ≤ system.sdkInt then options.inet4.routeAddress else options.inet4.routeRange
  let inet6Routes := collectPrefixes <|
    if versionTiramisu ≤ system.sdkInt then options.inet6.routeAddress else options.inet6.routeRange
  system.takesMtu options.mtu
  let builder : VpnBuilder := { session := "KOSTRA VPN", mtu := options.mtu, metered := system.sdkInt < versionQ }
  let builder ← addAddresses system builder inet4Addresses
  let builder ← addAddresses system builder inet6Addresses
  let builder ←
    if options.autoRoute then do
      let builder ← addDnsServer system builder (← options.dnsServerAddress)
      let builder ← addRoutes system builder inet4Routes "0.0.0.0" !inet4Addresses.isEmpty
      addRoutes system builder inet6Routes "::" !inet6Addresses.isEmpty
    else pure builder
  match ← system.establish builder with
  | some fd => return (fd, builder)
  | none => throw "android: failed to establish vpn service"

end Builder

/-- The system sends what goes to the address into the tunnel. -/
def VpnBuilder.Routes (builder : VpnBuilder) (a : IpAddr) : Prop := ∃ p ∈ builder.routes, Lies p.address p.length a

/-! ### The routes of a tunnel that is open -/

section Open
variable {system : TunSystem} {builder builder' : VpnBuilder} {prefixes : List IpPrefix}

theorem addAddresses_routes (h : addAddresses system builder prefixes = .ok builder') :
    builder'.routes = builder.routes := by
  unfold addAddresses at h
  induction prefixes generalizing builder with
  | nil => exact Except.ok.inj h ▸ rfl
  | cons p prefixes ih =>
    rw [List.foldlM_cons] at h
    obtain ⟨added, hadd, hrest⟩ := Succeeds.bind_eq_ok h
    obtain ⟨-, -, hadded⟩ := Succeeds.bind_eq_ok hadd
    exact (ih hrest).trans (Except.ok.inj hadded ▸ rfl)

theorem addRoute_routes {p : IpPrefix} (h : addRoute system builder p = .ok builder') :
    builder'.routes = builder.routes ++ [p] := by
  obtain ⟨-, -, hadded⟩ := Succeeds.bind_eq_ok h
  exact Except.ok.inj hadded ▸ rfl

theorem foldlM_addRoute_routes (h : prefixes.foldlM (addRoute system) builder = .ok builder') :
    builder'.routes = builder.routes ++ prefixes := by
  induction prefixes generalizing builder with
  | nil => exact Except.ok.inj h ▸ (List.append_nil _).symm
  | cons p prefixes ih =>
    rw [List.foldlM_cons] at h
    obtain ⟨added, hadd, hrest⟩ := Succeeds.bind_eq_ok h
    rw [ih hrest, addRoute_routes hadd, List.append_assoc, List.singleton_append]

/-- The routes of one family: those that there are, or the default route. -/
def routesOf (prefixes : List IpPrefix) (fallbackAddress : String) (hasAddress : Bool) : List IpPrefix :=
  if prefixes.isEmpty && hasAddress then [{ address := fallbackAddress, length := 0 }] else prefixes

theorem addRoutes_routes {fallbackAddress : String} {hasAddress : Bool}
    (h : addRoutes system builder prefixes fallbackAddress hasAddress = .ok builder') :
    builder'.routes = builder.routes ++ routesOf prefixes fallbackAddress hasAddress := by
  obtain ⟨added, hadded, hlast⟩ := Succeeds.bind_eq_ok h
  have hroutes := foldlM_addRoute_routes hadded
  unfold routesOf
  split_ifs at hlast ⊢ with hempty
  · rw [Bool.and_eq_true, List.isEmpty_iff] at hempty
    rw [addRoute_routes hlast, hroutes, hempty.1, List.append_nil]
  · exact Except.ok.inj hlast ▸ hroutes

/-- The prefixes that the system's version has its routes from. -/
def routePrefixes (system : TunSystem) (inet : InetOptions) : List RoutePrefix :=
  if versionTiramisu ≤ system.sdkInt then inet.routeAddress else inet.routeRange

/-- A tunnel that is open with routes has those of both families. -/
theorem openTunInner_routes {options : TunOptions} {fd : ℤ} (hauto : options.autoRoute = true)
    (h : openTunInner system options = .ok (fd, builder)) : builder.routes =
      routesOf (collectPrefixes (routePrefixes system options.inet4)) "0.0.0.0"
          (!(collectPrefixes options.inet4.address).isEmpty) ++
        routesOf (collectPrefixes (routePrefixes system options.inet6)) "::"
          (!(collectPrefixes options.inet6.address).isEmpty) := by
  unfold openTunInner at h
  obtain ⟨-, h⟩ := Succeeds.check_eq_ok_iff.mp h
  obtain ⟨-, -, h⟩ := Succeeds.bind_eq_ok h
  obtain ⟨first, hfirst, h⟩ := Succeeds.bind_eq_ok h
  obtain ⟨second, hsecond, h⟩ := Succeeds.bind_eq_ok h
  simp only [hauto, if_true] at h
  obtain ⟨address, -, h⟩ := Succeeds.bind_eq_ok h
  obtain ⟨named, hnamed, h⟩ := Succeeds.bind_eq_ok h
  obtain ⟨routed4, hrouted4, h⟩ := Succeeds.bind_eq_ok h
  obtain ⟨routed6, hrouted6, h⟩ := Succeeds.bind_eq_ok h
  obtain ⟨established, -, h⟩ := Succeeds.bind_eq_ok h
  obtain ⟨-, -, hnamed⟩ := Succeeds.bind_eq_ok hnamed
  have hstart : named.routes = [] := by
    rw [← Except.ok.inj hnamed]
    exact (addAddresses_routes hsecond).trans (addAddresses_routes hfirst)
  cases established with
  | none => cases h
  | some fd' =>
    obtain ⟨-, rfl⟩ := Prod.mk.inj (Except.ok.inj h)
    rw [addRoutes_routes hrouted6, addRoutes_routes hrouted4, hstart, List.nil_append]
    rfl

/-- The routes of one family take what its prefixes have, or all of the family. -/
theorem exists_mem_routesOf {routes addresses : List RoutePrefix} {fallbackAddress : String} {base a : IpAddr}
    (hfallback : readAddress fallbackAddress.toList = some base) :
    (∃ p ∈ routesOf (collectPrefixes routes) fallbackAddress !(collectPrefixes addresses).isEmpty,
        Lies p.address p.length a) ↔
      Covers routes a ∨ (routes = [] ∧ addresses ≠ [] ∧ a.isV6 = base.isV6) := by
  have hall : Lies fallbackAddress 0 a ↔ a.isV6 = base.isV6 := by
    unfold Lies
    simp only [hfallback, Option.some.injEq, exists_eq_left', IpAddr.range_zero]
    exact eq_comm
  have hcovers : (∃ p ∈ collectPrefixes routes, Lies p.address p.length a) ↔ Covers routes a := by
    simp [collectPrefixes, Covers]
  unfold routesOf
  split_ifs with hempty
  · have hnone : routes = [] ∧ addresses ≠ [] := by simpa [collectPrefixes] using hempty
    have hnot : ¬Covers routes a := hnone.1 ▸ not_covers_nil
    have hnil : ¬∃ p ∈ ([] : List IpPrefix), Lies p.address p.length a := by simp
    rw [List.exists_mem_cons_iff, or_iff_left hnil, hall, or_iff_right hnot]
    exact ⟨fun h => ⟨hnone.1, hnone.2, h⟩, fun h => h.2.2⟩
  · have hsome : ¬(routes = [] ∧ addresses ≠ []) := by simpa [collectPrefixes] using hempty
    rw [hcovers]
    exact (or_iff_left fun h => hsome ⟨h.1, h.2.1⟩).symm

/-- The unspecified addresses that the default routes are written with. -/
def any4 : IpAddr := .v4 ⟨[0, 0, 0, 0], rfl⟩
def any6 : IpAddr := .v6 ⟨[0, 0, 0, 0, 0, 0, 0, 0], rfl⟩

theorem routes_iff {options : TunOptions} {fd : ℤ} {a : IpAddr} (hauto : options.autoRoute = true)
    (h : openTunInner system options = .ok (fd, builder)) : builder.Routes a ↔
      (Covers (routePrefixes system options.inet4) a ∨
        (routePrefixes system options.inet4 = [] ∧ options.inet4.address ≠ [] ∧ a.isV6 = false)) ∨
      (Covers (routePrefixes system options.inet6) a ∨
        (routePrefixes system options.inet6 = [] ∧ options.inet6.address ≠ [] ∧ a.isV6 = true)) := by
  have hany4 : readAddress "0.0.0.0".toList = some any4 := by decide +kernel
  have hany6 : readAddress "::".toList = some any6 := by decide +kernel
  rw [VpnBuilder.Routes, openTunInner_routes hauto h]
  simp only [List.mem_append, or_and_right, exists_or, exists_mem_routesOf hany4, exists_mem_routesOf hany6]
  rfl

/-- From Android 13 on the tunnel takes the local networks too. -/
theorem routes_iff_of_asks {options : TunOptions} {fd : ℤ} {a : IpAddr} (hasks : Asks .android options)
    (h : openTunInner system options = .ok (fd, builder)) :
    builder.Routes a ↔ a.isV6 = false ∧ (versionTiramisu ≤ system.sdkInt ∨ ¬IsLocal a) := by
  have hno6 : options.inet6.address = [] := hasks.address6.mpr (by decide)
  have hempty : ¬Covers [] a := not_covers_nil
  rw [routes_iff hasks.autoRoute h, hno6]
  by_cases hversion : versionTiramisu ≤ system.sdkInt
  · have hprefixes : ∀ inet, routePrefixes system inet = inet.routeAddress := fun _ => if_pos hversion
    rw [hprefixes, hprefixes, hasks.noRoute4, hasks.noRoute6]
    simp [hempty, hasks.address4, hversion]
  · have hprefixes : ∀ inet, routePrefixes system inet = inet.routeRange := fun _ => if_neg hversion
    have hpublic : ¬IsLocal (.v4 ⟨[1, 1, 1, 1], rfl⟩) := by decide +kernel
    have hrange : options.inet4.routeRange ≠ [] := by
      intro hnone
      have hcovered := (hasks.range4 _).mpr ⟨rfl, hpublic⟩
      exact not_covers_nil (hnone ▸ hcovered)
    rw [hprefixes, hprefixes, hasks.range6 (by decide), hasks.range4]
    simp [hempty, hrange, hversion]

end Open

/-- What the tunnel of a generated configuration takes on a phone with Android: every IPv4
address from Android 13 on, those of no local network before, and no IPv6 address. Every
connection that the rules of the configuration send to the proxy is taken, and one that is
left outside, to an IPv4 address, is one that they would send direct, unless it is DNS. -/
theorem tunnel_takes (options : ConnectOptions) (config : Value)
    (hconfig : generateSingBoxConfig .android options = .ok config) (tun : TunOptions)
    (hreads : ReadsTun (tunInboundOf config) tun) (system : TunSystem) (fd : ℤ) (builder : VpnBuilder)
    (hopen : openTunInner system tun = .ok (fd, builder)) :
    (∀ a, builder.Routes a ↔ a.isV6 = false ∧ (versionTiramisu ≤ system.sdkInt ∨ ¬IsLocal a)) ∧
      ∀ (c : Connection IpAddr) a, c.address = some a → a.isV6 = false →
        (decideRoute inRange (rulesOf config) c = some (.route "proxy") → builder.Routes a) ∧
        (¬builder.Routes a → ¬c.IsDns → decideRoute inRange (rulesOf config) c = some (.route "direct")) := by
  have hroutes : ∀ a, builder.Routes a ↔ a.isV6 = false ∧ (versionTiramisu ≤ system.sdkInt ∨ ¬IsLocal a) :=
    fun a => routes_iff_of_asks (asks_of_reads hconfig hreads) hopen
  refine ⟨hroutes, fun c a haddress hfamily => ⟨fun hproxy => ?_, fun hout hdns => ?_⟩⟩
  · exact (hroutes a).mpr ⟨hfamily, Or.inr (not_isLocal_of_proxy hconfig haddress hproxy)⟩
  · have hlocal : IsLocal a := by
      by_contra hremote
      exact hout ((hroutes a).mpr ⟨hfamily, Or.inr hremote⟩)
    exact direct_of_isLocal hconfig haddress hlocal hdns

/-- A phone with Android 11 that refuses nothing. -/
def olderPhone : TunSystem where
  sdkInt := 30
  prepared := true
  takesMtu _ := .ok ()
  takesAddress _ := .ok ()
  takesDnsServer _ := .ok ()
  takesRoute _ := .ok ()
  establish _ := .ok (some 42)

/-- The tunnel of the older phone leaves the router outside, and takes a public resolver. -/
theorem tunnel_takes_older : ∃ config fd builder, generateSingBoxConfig .android sampleOptions = .ok config ∧
    openTunInner olderPhone (sampleTun .android) = .ok (fd, builder) ∧
      ¬builder.Routes (.v4 ⟨[192, 168, 0, 1], rfl⟩) ∧ builder.Routes (.v4 ⟨[1, 1, 1, 1], rfl⟩) := by
  have hconfig : generateSingBoxConfig .android sampleOptions = .ok _ := rfl
  have hok : (openTunInner olderPhone (sampleTun .android)).isOk = true := by decide +kernel
  cases hopen : openTunInner olderPhone (sampleTun .android) with
  | error error => simp [hopen, Except.isOk, Except.toBool] at hok
  | ok opened =>
    have htakes := (tunnel_takes sampleOptions _ hconfig (sampleTun .android) (sampleTun_reads hconfig) olderPhone
      opened.1 opened.2 hopen).1
    exact ⟨_, opened.1, opened.2, hconfig, rfl, fun h => absurd ((htakes _).mp h) (by decide +kernel),
      (htakes _).mpr (by decide +kernel)⟩

end TauriVpn.Android
