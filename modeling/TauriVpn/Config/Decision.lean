import TauriVpn.Config.References

/-! What the route rules of a generated configuration decide, in terms of the options
they are generated from. The rules are tried in order; two of them are only there for
some options or targets. -/

namespace TauriVpn.Config

section Decision
variable {Address : Type*} (inCidr : String → Address → Bool) (c : Connection Address) (options : ConnectOptions)

/-- The range that an upstream stands for, a single host unless it is written as a range. -/
def hostCidr (upstream : String) : String :=
  if containsChar upstream '/' then upstream else upstream ++ "/32"

/-- The connection goes to the address of a configured upstream. -/
def toUpstream : Bool :=
  (dnsUpstreamsForOptions options).any fun upstream => c.address.any (inCidr (hostCidr upstream))

/-- The connection goes into one of the bypass ranges, which are trimmed and may be blank. -/
def bypasses : Bool :=
  options.routeBypassCidrs.any fun cidr => !isBlank cidr && c.address.any (inCidr (trim cidr))

/-- The decision for a connection, by the options. -/
def expectedDecision (os : TargetOs) : Action :=
  if os.isMobile = true ∧ (c.network = .tcp ∨ c.network = .udp) ∧ c.port = 53 ∧ toUpstream inCidr c options = true then
    .route "direct"
  else if c.protocol = some "dns" ∨ (c.network = .udp ∧ c.port = 53) then .hijackDns
  else if c.inAny inCidr localNetworkCidrs = true ∨ bypasses inCidr c options = true then .route "direct"
  else if c.network = .icmp then .reject "default"
  else .route "proxy"

/-- The upstreams are trimmed and no IPv6 addresses, so each gives one range. -/
theorem ipv4OnlyHostCidrs_upstreams :
    ipv4OnlyHostCidrs (dnsUpstreamsForOptions options) = (dnsUpstreamsForOptions options).map hostCidr := by
  have hclean : ∀ upstream ∈ dnsUpstreamsForOptions options,
      trim upstream = upstream ∧ upstream ≠ "" ∧ containsChar upstream ':' = false := by
    unfold dnsUpstreamsForOptions
    dsimp only
    split_ifs with hnone
    · simp only [List.forall_mem_cons]
      exact ⟨by decide, by decide, List.forall_mem_nil _⟩
    · intro upstream hmem
      obtain ⟨htrimmed, hkept⟩ := List.mem_filter.mp hmem
      obtain ⟨server, -, rfl⟩ := List.mem_map.mp htrimmed
      rw [Bool.and_eq_true, decide_eq_true_eq, Bool.not_eq_true'] at hkept
      exact ⟨trim_trim server, hkept⟩
  have htrim : (dnsUpstreamsForOptions options).map trim = dnsUpstreamsForOptions options :=
    (List.map_congr_left fun upstream hmem => (hclean upstream hmem).1).trans (List.map_id _)
  have hkept : (dnsUpstreamsForOptions options).filter (fun value => value ≠ "" && !containsChar value ':') =
      dnsUpstreamsForOptions options := by
    rw [List.filter_eq_self]
    intro upstream hmem
    obtain ⟨-, hne, hcolon⟩ := hclean upstream hmem
    simp [hne, hcolon]
  rw [ipv4OnlyHostCidrs, htrim, hkept]
  rfl

theorem inAny_ipv4OnlyHostCidrs :
    c.inAny inCidr (ipv4OnlyHostCidrs (dnsUpstreamsForOptions options)) = toUpstream inCidr c options := by
  rw [ipv4OnlyHostCidrs_upstreams, Connection.inAny, List.any_map]
  rfl

theorem inAny_bypassCidrs : c.inAny inCidr (bypassCidrs options.routeBypassCidrs) = bypasses inCidr c options := by
  unfold Connection.inAny bypassCidrs bypasses
  rw [List.any_filter, List.any_map]
  apply congrArg (List.any options.routeBypassCidrs)
  funext cidr
  unfold isBlank
  by_cases h : trim cidr = ""
  · simp [h]
  · simp [h]

/-- The list decides what the options ask for. -/
theorem routeDecision_eq (os : TargetOs) : routeDecision inCidr c os options.routeBypassCidrs
    (dnsUpstreamsForOptions options) = expectedDecision inCidr c options os := by
  have hnetwork : c.network ≠ .icmp ↔ c.network = .tcp ∨ c.network = .udp := by
    cases c.network <;> simp
  unfold routeDecision expectedDecision
  simp only [inAny_ipv4OnlyHostCidrs, inAny_bypassCidrs, hnetwork]

/-! ### The rules -/

/-- A rule names no addresses, or at least one range. -/
def HasAddresses (rule : Value) : Prop :=
  rule.get "ip_cidr" = .null ∨ ∃ cidrs, cidrs ≠ [] ∧ rule.get "ip_cidr" = .strings cidrs

theorem hasAddresses (os : TargetOs) (profile : VpnProfile) (routeBypassCidrs dnsUpstreams : List String) :
    ∀ rule ∈ routeRulesForProfile os profile routeBypassCidrs dnsUpstreams, HasAddresses rule := by
  unfold routeRulesForProfile
  simp only [List.forall_mem_append]
  refine ⟨⟨⟨⟨?_, ?_⟩, ?_⟩, ?_⟩, ?_⟩
  · unfold dnsUpstreamRules
    dsimp only
    split_ifs with hos hempty
    · exact List.forall_mem_nil _
    · exact List.forall_mem_singleton.mpr (Or.inr ⟨_, fun h => hempty (List.isEmpty_iff.mpr h), rfl⟩)
    · exact List.forall_mem_nil _
  · simp only [dnsAndLocalRules, List.forall_mem_cons]
    exact ⟨Or.inl rfl, Or.inl rfl, Or.inr ⟨localNetworkCidrs, List.cons_ne_nil _ _, rfl⟩, List.forall_mem_nil _⟩
  · unfold bypassRules
    dsimp only
    split_ifs with hempty
    · exact List.forall_mem_nil _
    · exact List.forall_mem_singleton.mpr (Or.inr ⟨_, fun h => hempty (List.isEmpty_iff.mpr h), rfl⟩)
  · simp only [restRules, List.forall_mem_cons]
    exact ⟨Or.inl rfl, Or.inl rfl, List.forall_mem_nil _⟩
  · split_ifs
    · simp only [olcRtcRules, List.forall_mem_cons]
      exact ⟨Or.inl rfl, Or.inl rfl, Or.inl rfl, Or.inl rfl, List.forall_mem_nil _⟩
    · exact List.forall_mem_nil _

/-- The rules of a generated configuration, whatever the proxy outbound is, decide every
connection as the options ask for; one of them holds of it, and none has an empty list
of addresses. -/
theorem rules_decide (os : TargetOs) (outbound : Value) :
    decideRoute inCidr (rulesOf (configWith os options outbound)) c = some (expectedDecision inCidr c options os) ∧
      (∃ rule ∈ rulesOf (configWith os options outbound), ruleHolds inCidr rule c = true ∧
        ruleAction rule = some (expectedDecision inCidr c options os)) ∧
      ∀ rule ∈ rulesOf (configWith os options outbound), HasAddresses rule := by
  have hrules : rulesOf (configWith os options outbound) = routeRulesForProfile os options.profile
      options.routeBypassCidrs (dnsUpstreamsForOptions options) := rfl
  rw [hrules]
  have hdecision := decideRoute_routeRules inCidr c os options.profile options.routeBypassCidrs
    (dnsUpstreamsForOptions options)
  rw [routeDecision_eq] at hdecision
  exact ⟨hdecision, FirstMatch.exists_of_outcome (Option.join_eq_some_iff.mp hdecision), hasAddresses _ _ _ _⟩

end Decision

end TauriVpn.Config
