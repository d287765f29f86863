import TauriVpn.Lib.AddressRange
import TauriVpn.Config.Generate

/-! What the core hands to a phone's platform when it asks for a tunnel: the options that it
has read from the tun inbound. The core is not part of the plugin, so that what it reads is
assumed: addresses and routes are the ranges of the inbound by their family, and the route
range, which older systems need, is what is routed and not excluded. -/

namespace TauriVpn.Mobile

open IpText

/-- A prefix, with its length and its mask in dotted form. -/
structure RoutePrefix where
  address : String
  prefixLength : ℕ
  mask : String

/-- The options of one family. -/
structure InetOptions where
  address : List RoutePrefix := []
  routeAddress : List RoutePrefix := []
  routeExcludeAddress : List RoutePrefix := []
  routeRange : List RoutePrefix := []

structure TunOptions where
  mtu : ℕ
  autoRoute : Bool
  dnsServerAddress : Except String String
  inet4 : InetOptions
  inet6 : InetOptions
  httpProxyEnabled : Bool := false
  httpProxyServer : String := ""
  httpProxyServerPort : ℕ := 0
  httpProxyBypassDomain : List String := []
  httpProxyMatchDomain : List String := []

/-- The address lies in the range that an address and a number of bits say. -/
def Lies (address : String) (n : ℕ) (a : IpAddr) : Prop :=
  ∃ base, readAddress address.toList = some base ∧ base.range n <+: a.key

/-- The address lies in one of the prefixes. -/
def Covers (prefixes : List RoutePrefix) (a : IpAddr) : Prop := ∃ p ∈ prefixes, Lies p.address p.prefixLength a

theorem not_covers_nil {a : IpAddr} : ¬Covers [] a := by simp [Covers]

/-! ### What is read -/

/-- The prefix is the range of the text, and its mask says the same. -/
def RoutePrefix.Says (p : RoutePrefix) (text : String) : Prop :=
  ∃ base, readAddress p.address.toList = some base ∧ p.prefixLength ≤ base.bits.length ∧
    readRange text.toList = some (base.range p.prefixLength) ∧
    (base.isV6 = false → ∃ m, readIpv4 p.mask.toList = some m ∧ m.bits = BitPrefix.mask p.prefixLength 32)

instance (p : RoutePrefix) (text : String) : Decidable (p.Says text) :=
  match h : readAddress p.address.toList with
  | none => isFalse fun ⟨_, hbase, _⟩ => by cases h ▸ hbase
  | some base =>
    match hm : readIpv4 p.mask.toList with
    | none => decidable_of_iff (p.prefixLength ≤ base.bits.length ∧
        readRange text.toList = some (base.range p.prefixLength) ∧ base.isV6 = true) (by
          simp [RoutePrefix.Says, h, hm])
    | some m => decidable_of_iff (p.prefixLength ≤ base.bits.length ∧
        readRange text.toList = some (base.range p.prefixLength) ∧
          (base.isV6 = false → m.bits = BitPrefix.mask p.prefixLength 32)) (by
            simp [RoutePrefix.Says, h, hm])

/-- The prefixes are the ranges of one family, in their order. -/
def Reads (isV6 : Bool) (texts : List String) (prefixes : List RoutePrefix) : Prop :=
  List.Forall₂ RoutePrefix.Says prefixes (texts.filter fun text => familyOf text == some isV6)

/-- The strings of a member, which may be a list of them. -/
def stringsOf (value : Value) : List String := (Config.listable value).filterMap Value.asStr

structure ReadsInet (isV6 : Bool) (tun : Value) (autoRoute : Bool) (inet : InetOptions) : Prop where
  address : Reads isV6 (stringsOf (tun.get "address")) inet.address
  routeAddress : Reads isV6 (stringsOf (tun.get "route_address")) inet.routeAddress
  routeExcludeAddress : Reads isV6 (stringsOf (tun.get "route_exclude_address")) inet.routeExcludeAddress
  routeRange : autoRoute = true → inet.address ≠ [] → ∀ a, Covers inet.routeRange a ↔
    a.isV6 = isV6 ∧ (inet.routeAddress = [] ∨ Covers inet.routeAddress a) ∧ ¬Covers inet.routeExcludeAddress a
  noRange : inet.address = [] → inet.routeRange = []

structure ReadsTun (tun : Value) (options : TunOptions) : Prop where
  autoRoute : options.autoRoute = true ↔ tun.get "auto_route" = .bool true
  inet4 : ReadsInet false tun options.autoRoute options.inet4
  inet6 : ReadsInet true tun options.autoRoute options.inet6

theorem stringsOf_strings (texts : List String) : stringsOf (.strings texts) = texts := by
  simp [stringsOf, Value.strings, Config.listable, List.filterMap_map, Function.comp_def, Value.asStr]

section Read
variable {isV6 : Bool} {texts : List String} {prefixes : List RoutePrefix} {a : IpAddr}

theorem RoutePrefix.Says.lies {p : RoutePrefix} {text : String} (h : p.Says text) :
    Lies p.address p.prefixLength a ↔ inRange text a = true := by
  obtain ⟨base, hbase, -, hrange, -⟩ := h
  rw [inRange_eq_true hrange]
  constructor
  · rintro ⟨base', hbase', hlies⟩
    obtain rfl := Option.some.inj (hbase.symm.trans hbase')
    exact hlies
  · exact fun hlies => ⟨base, hbase, hlies⟩

/-- A prefix is of the family of the text that it says. -/
theorem RoutePrefix.Says.family {p : RoutePrefix} {text : String} (h : p.Says text) {base : IpAddr}
    (hbase : readAddress p.address.toList = some base) : familyOf text = some base.isV6 := by
  obtain ⟨base', hbase', -, hrange, -⟩ := h
  obtain rfl := Option.some.inj (hbase.symm.trans hbase')
  rw [familyOf, hrange, Option.bind_some, IpAddr.range, List.head?_cons]

/-- The prefixes have the addresses of their family that lie in one of the texts. -/
theorem Reads.covers (h : Reads isV6 texts prefixes) :
    Covers prefixes a ↔ a.isV6 = isV6 ∧ ∃ text ∈ texts, inRange text a = true := by
  have hread : Covers prefixes a ↔ ∃ text ∈ texts.filter fun text => familyOf text == some isV6, inRange text a = true := by
    unfold Reads at h
    unfold Covers
    generalize (texts.filter fun text => familyOf text == some isV6) = kept at h
    induction h with
    | nil => simp
    | cons hsaid _ ih => simp only [List.exists_mem_cons_iff, hsaid.lies, ih]
  rw [hread]
  simp only [List.mem_filter, beq_iff_eq]
  constructor
  · rintro ⟨text, ⟨hmem, hfamily⟩, hin⟩
    have hsame := hfamily.symm.trans (familyOf_of_inRange hin)
    exact ⟨(Option.some.inj hsame).symm, text, hmem, hin⟩
  · rintro ⟨rfl, text, hmem, hin⟩
    exact ⟨text, ⟨hmem, familyOf_of_inRange hin⟩, hin⟩

/-- Every prefix is a range of its family. -/
theorem Reads.says_of_mem (h : Reads isV6 texts prefixes) {p : RoutePrefix} (hmem : p ∈ prefixes) :
    ∃ text, familyOf text = some isV6 ∧ p.Says text := by
  unfold Reads at h
  have hkept : ∀ text ∈ texts.filter fun text => familyOf text == some isV6, familyOf text = some isV6 := by simp
  generalize (texts.filter fun text => familyOf text == some isV6) = kept at h hkept
  induction h with
  | nil => cases hmem
  | cons hsaid _ ih =>
    obtain ⟨hfirst, hrest⟩ := List.forall_mem_cons.mp hkept
    rcases List.mem_cons.mp hmem with rfl | htail
    · exact ⟨_, hfirst, hsaid⟩
    · exact ih htail hrest

theorem Reads.eq_nil_iff (h : Reads isV6 texts prefixes) :
    prefixes = [] ↔ (texts.filter fun text => familyOf text == some isV6) = [] := by
  have hlength := h.length_eq
  rw [← List.length_eq_zero_iff, hlength, List.length_eq_zero_iff]

end Read

/-! ### Prefixes by their bits -/

def RoutePrefix.bits? (p : RoutePrefix) : Option (List Bool) :=
  (readAddress p.address.toList).map fun base => base.range p.prefixLength

theorem covers_of_bits {prefixes : List RoutePrefix} {ranges : List (List Bool)}
    (h : prefixes.map RoutePrefix.bits? = ranges.map some) (a : IpAddr) :
    Covers prefixes a ↔ BitPrefix.Covers ranges a.key := by
  have hlies : ∀ p : RoutePrefix, Lies p.address p.prefixLength a ↔ ∃ range, p.bits? = some range ∧ range <+: a.key := by
    intro p
    simp only [Lies, RoutePrefix.bits?, Option.map_eq_some_iff]
    constructor
    · rintro ⟨base, hbase, hin⟩
      exact ⟨_, ⟨base, hbase, rfl⟩, hin⟩
    · rintro ⟨_, ⟨base, hbase, rfl⟩, hin⟩
      exact ⟨base, hbase, hin⟩
  have hmem : ∀ range, range ∈ ranges ↔ ∃ p ∈ prefixes, p.bits? = some range := by
    intro range
    have hsome : some range ∈ ranges.map some ↔ range ∈ ranges := by simp
    rw [← hsome, ← h, List.mem_map]
  simp only [Covers, BitPrefix.Covers, hlies, hmem]
  constructor
  · rintro ⟨p, hp, range, hrange, hin⟩
    exact ⟨range, ⟨p, hp, hrange⟩, hin⟩
  · rintro ⟨range, ⟨p, hp, hrange⟩, hin⟩
    exact ⟨p, hp, range, hrange, hin⟩

end TauriVpn.Mobile
