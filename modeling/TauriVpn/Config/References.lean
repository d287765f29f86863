import TauriVpn.Config.Generate
import TauriVpn.Lib.Names

/-! Does every reference of a generated configuration resolve? Servers and outbounds are
named by their tags, and referred to from the DNS section, from the servers, from the
rules and from the route section. The names of the DNS servers are generated. -/

namespace TauriVpn.Config

open Names

/-- The tag of a server, an outbound or an inbound. -/
def tagOf (v : Value) : Option String := (v.get "tag").asStr

def dnsServersOf (config : Value) : List Value := ((config.get "dns").get "servers").items

def outboundsOf (config : Value) : List Value := (config.get "outbounds").items

def inboundsOf (config : Value) : List Value := (config.get "inbounds").items

def rulesOf (config : Value) : List Value := ((config.get "route").get "rules").items

/-- A reference that may be left out, and otherwise names one of the values. -/
def NamesOneOf (values : List Value) (reference : Value) : Prop :=
  ∃ name, reference = .string name ∧ named tagOf values name ≠ []

/-- A reference that names exactly one of the values. -/
def NamesExactly (values : List Value) (reference : Value) (value : Value) : Prop :=
  ∃ name, reference = .string name ∧ named tagOf values name = [value]

/-- Tags are pairwise distinct, every reference names something there is, and the server
that resolves names for the outbounds is not reached through one. -/
structure Resolves (config : Value) : Prop where
  dnsTags : ((dnsServersOf config).map tagOf).Nodup
  outboundTags : ((outboundsOf config).map tagOf).Nodup
  inboundTags : ((inboundsOf config).map tagOf).Nodup
  dnsFinal : ∃ server, NamesExactly (dnsServersOf config) ((config.get "dns").get "final") server
  domainResolver : ∃ server, NamesExactly (dnsServersOf config)
    ((config.get "route").get "default_domain_resolver") server ∧ server.get "detour" = .null
  detours : ∀ server ∈ dnsServersOf config,
    server.get "detour" = .null ∨ NamesOneOf (outboundsOf config) (server.get "detour")
  ruleOutbounds : ∀ rule ∈ rulesOf config,
    rule.get "outbound" = .null ∨ NamesOneOf (outboundsOf config) (rule.get "outbound")
  routeFinal : NamesOneOf (outboundsOf config) ((config.get "route").get "final")

/-! ### The DNS servers -/

def dnsTag (index : ℕ) : String := s!"dns-{index}"

theorem toList_dnsTag (index : ℕ) : (dnsTag index).toList = "dns-".toList ++ Nat.toDigits 10 index := by
  delta dnsTag
  exact (String.toList_append ..).trans (congrArg _ Nat.toList_repr)

/-- The number is read back from the digits of its tag. -/
theorem dnsTag_injective : Function.Injective dnsTag := by
  intro i j h
  have htags : "dns-".toList ++ Nat.toDigits 10 i = "dns-".toList ++ Nat.toDigits 10 j := by
    rw [← toList_dnsTag, ← toList_dnsTag, h]
  have hdigits : Nat.toDigits 10 i = Nat.toDigits 10 j := List.append_cancel_left htags
  rw [← Nat.ofDigitChars_toDigits (b := 10) (n := i) (by decide) (by decide), hdigits,
    Nat.ofDigitChars_toDigits (by decide) (by decide)]

/-- A letter is no digit. -/
theorem dnsTag_ne_bootstrap (index : ℕ) : dnsTag index ≠ "dns-bootstrap" := by
  intro h
  have htags : "dns-".toList ++ Nat.toDigits 10 index = "dns-".toList ++ "bootstrap".toList := by
    rw [← toList_dnsTag, h]
    rfl
  have hdigits : Nat.toDigits 10 index = "bootstrap".toList := List.append_cancel_left htags
  have hb : 'b' ∈ Nat.toDigits 10 index := by
    rw [hdigits]
    decide
  exact absurd (Nat.isDigit_of_mem_toDigits (by decide) (by decide) hb) (by decide)

theorem tagOf_dnsServerForUpstream (index : ℕ) (server : String) :
    tagOf (dnsServerForUpstream index server) = some (dnsTag index) := by
  unfold dnsServerForUpstream
  cases publicDohServerName server <;> rfl

theorem detour_dnsServerForUpstream (index : ℕ) (server : String) :
    (dnsServerForUpstream index server).get "detour" = .string "proxy" := by
  unfold dnsServerForUpstream
  cases publicDohServerName server <;> rfl

theorem upstreams_ne_nil (options : ConnectOptions) : dnsUpstreamsForOptions options ≠ [] := by
  unfold dnsUpstreamsForOptions
  dsimp only
  split_ifs with h
  · exact List.cons_ne_nil _ _
  · exact h

theorem tags_dnsServers (upstreams : List String) : (dnsServersForUpstreams upstreams).map tagOf =
    some "dns-bootstrap" :: (List.range upstreams.length).map fun i => some (dnsTag i) := by
  unfold dnsServersForUpstreams
  rw [List.map_cons]
  refine congrArg₂ List.cons rfl ?_
  refine List.ext_getElem (by simp) fun i _ _ => ?_
  simp [tagOf_dnsServerForUpstream]

theorem nodup_dnsServers (upstreams : List String) : ((dnsServersForUpstreams upstreams).map tagOf).Nodup := by
  rw [tags_dnsServers, List.nodup_cons]
  refine ⟨?_, List.nodup_range.map fun i j h => dnsTag_injective (Option.some.inj h)⟩
  rw [List.mem_map]
  rintro ⟨i, -, h⟩
  exact dnsTag_ne_bootstrap i (Option.some.inj h)

theorem mem_dnsServers {upstreams : List String} {server : Value} (h : server ∈ dnsServersForUpstreams upstreams) :
    tagOf server = some "dns-bootstrap" ∧ server.get "detour" = .null ∨
      ∃ i < upstreams.length, tagOf server = some (dnsTag i) ∧ server.get "detour" = .string "proxy" := by
  rcases List.mem_cons.mp h with rfl | hmem
  · exact Or.inl ⟨rfl, rfl⟩
  · obtain ⟨i, hi, rfl⟩ := List.mem_mapIdx.mp hmem
    exact Or.inr ⟨i, hi, tagOf_dnsServerForUpstream i _, detour_dnsServerForUpstream i _⟩

/-! ### The rules -/

theorem ruleOutbounds (os : TargetOs) (profile : VpnProfile) (routeBypassCidrs dnsUpstreams : List String) :
    ∀ rule ∈ routeRulesForProfile os profile routeBypassCidrs dnsUpstreams,
      rule.get "outbound" = .null ∨ rule.get "outbound" = .string "direct" ∨
        rule.get "outbound" = .string "proxy" := by
  unfold routeRulesForProfile
  simp only [List.forall_mem_append]
  refine ⟨⟨⟨⟨?_, ?_⟩, ?_⟩, ?_⟩, ?_⟩
  · unfold dnsUpstreamRules
    dsimp only
    split_ifs
    · exact List.forall_mem_nil _
    · exact List.forall_mem_singleton.mpr (Or.inr (Or.inl rfl))
    · exact List.forall_mem_nil _
  · simp [dnsAndLocalRules, routeTo, List.lookup_cons]
  · unfold bypassRules
    dsimp only
    split_ifs
    · exact List.forall_mem_nil _
    · exact List.forall_mem_singleton.mpr (Or.inr (Or.inl rfl))
  · simp [restRules, routeTo, rejectDefault, List.lookup_cons]
  · split_ifs
    · simp [olcRtcRules, routeTo, rejectDefault, List.lookup_cons]
    · exact List.forall_mem_nil _

/-! ### The whole configuration -/

section Config
variable (os : TargetOs) (options : ConnectOptions) {outbound : Value}

theorem outboundsOf_configWith (outbound : Value) : outboundsOf (configWith os options outbound) =
    [outbound, directOutbound, blockOutbound] := rfl

theorem tags_outbounds (htag : outbound.get "tag" = .string "proxy") :
    (outboundsOf (configWith os options outbound)).map tagOf = [some "proxy", some "direct", some "block"] := by
  rw [outboundsOf_configWith]
  simp only [List.map_cons, List.map_nil, tagOf, htag]
  rfl

/-- The outbounds that anything refers to are there. -/
theorem namesOneOf_outbounds (htag : outbound.get "tag" = .string "proxy") {name : String}
    (hname : name = "direct" ∨ name = "proxy") :
    NamesOneOf (outboundsOf (configWith os options outbound)) (.string name) := by
  refine ⟨name, rfl, List.ne_nil_of_mem (a := if name = "direct" then directOutbound else outbound) ?_⟩
  rw [mem_named, outboundsOf_configWith]
  rcases hname with rfl | rfl
  · exact ⟨by simp, rfl⟩
  · exact ⟨by simp, congrArg Value.asStr htag⟩

/-- A DNS server is the only one with its tag. -/
theorem namesExactly_dnsServer {server : Value} {name : String}
    (hmem : server ∈ dnsServersForUpstreams (dnsUpstreamsForOptions options)) (hname : tagOf server = some name) :
    NamesExactly (dnsServersOf (configWith os options outbound)) (.string name) server :=
  ⟨name, rfl, named_eq_singleton (nodup_dnsServers _) hmem hname⟩

theorem nodup_inbounds : ((inboundsOf (configWith os options outbound)).map tagOf).Nodup := by
  have htags : (inbounds os options).map tagOf = [some "tun-in"] ∨
      (inbounds os options).map tagOf = [some "tun-in", some "mixed-in"] := by
    cases os with
    | macos => exact Or.inl rfl
    | windows | linux | android | ios => exact Or.inr rfl
  show ((inbounds os options).map tagOf).Nodup
  rcases htags with h | h
  · rw [h]
    decide
  · rw [h]
    decide

end Config

/-- Every reference of every configuration that is generated resolves. -/
theorem references_resolve (os : TargetOs) (options : ConnectOptions) (config : Value)
    (h : generateSingBoxConfig os options = .ok config) : Resolves config := by
  obtain ⟨-, outbound, houtbound, rfl⟩ := generateSingBoxConfig_eq_ok h
  have htag := (outboundForProfile_get houtbound).1
  have hproxy := namesOneOf_outbounds os options htag (Or.inr rfl)
  constructor
  case dnsTags => exact nodup_dnsServers _
  case outboundTags =>
    rw [tags_outbounds os options htag]
    decide
  case inboundTags => exact nodup_inbounds os options
  case dnsFinal =>
    obtain ⟨first, rest, hupstreams⟩ := List.exists_cons_of_ne_nil (upstreams_ne_nil options)
    refine ⟨dnsServerForUpstream 0 first, namesExactly_dnsServer os options ?_ (tagOf_dnsServerForUpstream 0 first)⟩
    rw [hupstreams]
    simp [dnsServersForUpstreams]
  case domainResolver =>
    exact ⟨_, namesExactly_dnsServer os options (List.mem_cons_self ..) rfl, rfl⟩
  case detours =>
    intro server hserver
    rcases mem_dnsServers hserver with ⟨-, hdetour⟩ | ⟨i, -, -, hdetour⟩
    · exact Or.inl hdetour
    · exact Or.inr (hdetour ▸ hproxy)
  case ruleOutbounds =>
    intro rule hrule
    rcases ruleOutbounds _ _ _ _ rule hrule with hnone | hdirect | hto
    · exact Or.inl hnone
    · exact Or.inr (hdirect ▸ namesOneOf_outbounds os options htag (Or.inl rfl))
    · exact Or.inr (hto ▸ hproxy)
  case routeFinal =>
    have hfinal : routeFinal options.routeMode = "proxy" := by cases options.routeMode <;> rfl
    show NamesOneOf _ (.string (routeFinal options.routeMode))
    rw [hfinal]
    exact hproxy

/-- The DNS list holds an IPv6 server, a blank and a server twice. -/
def mixedDnsOptions : ConnectOptions where
  profile := sampleProfile
  routeBypassCidrs := [" 203.0.113.0/24 "]
  dns := { servers := ["2606:4700:4700::1111", " ", "9.9.9.9", "9.9.9.9"] }

theorem references_resolve_mixed :
    ∃ config, generateSingBoxConfig .android mixedDnsOptions = .ok config ∧ Resolves config ∧
      (dnsServersOf config).map tagOf = [some "dns-bootstrap", some "dns-0", some "dns-1"] :=
  ⟨_, rfl, references_resolve .android mixedDnsOptions _ rfl, rfl⟩

end TauriVpn.Config
