import TauriVpn.Config.SharedKey
import TauriVpn.Lib.IpText

/-! The DNS upstreams of a configuration. The server list is filtered by one character:
what has no colon counts as an IPv4 address. Other names pass, into the DNS section and,
on mobile targets, with `/32` behind them into a rule of address ranges. -/

namespace TauriVpn.Config

open IpText

def isIpv4 (s : String) : Bool := (readIpv4 s.toList).isSome

/-- The servers that are IPv4 addresses, or two public ones when there are none. -/
def ipv4Upstreams (servers : List String) : List String :=
  let addresses := (servers.map trim).filter isIpv4
  if addresses = [] then ["1.1.1.1", "8.8.8.8"] else addresses

/-- An IPv4 address as the range of that one address. -/
def IsHostCidr (cidr : String) : Prop := ∃ address, isIpv4 address = true ∧ cidr = address ++ "/32"

/-! ### What a configuration says -/

/-- The servers of the DNS section behind the bootstrap server. -/
def upstreamsOf (config : Value) : List String :=
  ((config.get "dns").get "servers").items.tail.filterMap fun server => (server.get "server").asStr

/-- A rule that routes DNS traffic directly. -/
def isUpstreamRule (rule : Value) : Bool :=
  (match rule.get "port" with
    | .number n => n == 53
    | _ => false) && (rule.get "outbound").asStr == some "direct"

/-- The ranges that DNS traffic reaches directly. -/
def upstreamCidrs (config : Value) : List String :=
  (((config.get "route").get "rules").items.filter isUpstreamRule).flatMap fun rule =>
    (rule.get "ip_cidr").items.filterMap Value.asStr

theorem filterMap_asStr (xs : List String) : (Value.strings xs).items.filterMap Value.asStr = xs := by
  rw [Value.strings, Value.items, List.filterMap_map]
  exact List.filterMap_some

/-- What each element shows of the one that it was made from. -/
theorem filterMap_mapIdx {α β : Type} {make : ℕ → α → β} {shown : β → Option α} (h : ∀ i a, shown (make i a) = some a)
    (items : List α) : (items.mapIdx make).filterMap shown = items := by
  induction items generalizing make with
  | nil => rfl
  | cons a items ih => rw [List.mapIdx_cons, List.filterMap_cons, h 0 a, ih fun i => h (i + 1)]

section Config
variable {os : TargetOs} {options : ConnectOptions} {outbound : Value}

theorem upstreamsOf_configWith : upstreamsOf (configWith os options outbound) = dnsUpstreamsForOptions options := by
  have hservers : (((configWith os options outbound).get "dns").get "servers").items =
      dnsServersForUpstreams (dnsUpstreamsForOptions options) := rfl
  rw [upstreamsOf, hservers, dnsServersForUpstreams, List.tail_cons]
  refine filterMap_mapIdx (fun index server => ?_) _
  unfold dnsServerForUpstream
  cases publicDohServerName server <;> rfl

/-- Only the rule of the upstreams is one of direct DNS traffic. -/
theorem upstreamCidrs_configWith : upstreamCidrs (configWith os options outbound) =
    if os.isMobile = true then ipv4OnlyHostCidrs (dnsUpstreamsForOptions options) else [] := by
  have hrules : (((configWith os options outbound).get "route").get "rules").items =
      routeRulesForProfile os options.profile options.routeBypassCidrs (dnsUpstreamsForOptions options) := rfl
  have hbypass : (bypassRules options.routeBypassCidrs).filter isUpstreamRule = [] := by
    unfold bypassRules
    dsimp only
    split_ifs <;> rfl
  have holcRtc : (if options.profile.protocol = .olcRtc then olcRtcRules else []).filter isUpstreamRule = [] := by
    split_ifs <;> rfl
  have hdns : dnsAndLocalRules.filter isUpstreamRule = [] := rfl
  have hrest : restRules.filter isUpstreamRule = [] := rfl
  rw [upstreamCidrs, hrules, routeRulesForProfile, List.filter_append, List.filter_append, List.filter_append,
    List.filter_append, hbypass, holcRtc, hdns, hrest, List.append_nil, List.append_nil, List.append_nil, List.append_nil,
    dnsUpstreamRules]
  split_ifs with hmobile
  · dsimp only
    split_ifs with hempty
    · rw [List.isEmpty_iff.mp hempty]
      rfl
    · have hrule : ∀ cidrs : List String, isUpstreamRule (.object ([("ip_cidr", .strings cidrs),
          ("network", .strings ["tcp", "udp"]), ("port", .nat 53)] ++ routeTo "direct")) = true := fun _ => rfl
      rw [List.filter_cons_of_pos (hrule _), List.filter_nil, List.flatMap_cons, List.flatMap_nil, List.append_nil]
      exact filterMap_asStr _
  · rfl

end Config

/-! ### Which server lists are filtered as they should be -/

/-- The servers that are not dropped are IPv4 addresses. -/
def OnlyIpv4 (servers : List String) : Prop :=
  ∀ server ∈ servers, trim server ≠ "" → ':' ∉ (trim server).toList → isIpv4 (trim server) = true

/-- Two filters, with the same list for want of anything else, keep the same exactly when
the weaker one keeps nothing more. -/
theorem filter_or_eq_iff {α : Type} [DecidableEq α] {p q : α → Bool} {xs fallback : List α}
    (hqp : ∀ x, q x = true → p x = true) (hfallback : ∀ x ∈ fallback, q x = true) :
    ((if xs.filter p = [] then fallback else xs.filter p) = if xs.filter q = [] then fallback else xs.filter q) ↔
      ∀ x ∈ xs, p x = true → q x = true := by
  constructor
  · intro h x hx hp
    have hkept : x ∈ xs.filter p := List.mem_filter.mpr ⟨hx, hp⟩
    rw [if_neg (List.ne_nil_of_mem hkept)] at h
    rw [h] at hkept
    split_ifs at hkept
    · exact hfallback x hkept
    · exact (List.mem_filter.mp hkept).2
  · intro h
    have hsame : xs.filter p = xs.filter q :=
      List.filter_congr fun x hx => Bool.eq_iff_iff.mpr ⟨h x hx, hqp x⟩
    rw [hsame]

theorem notMem_of_isIpv4 {c : Char} (hc : NumberText.isDigit 10 c = false) (hdot : c ≠ '.') {s : String}
    (h : isIpv4 s = true) : c ∉ s.toList := by
  intro hmem
  rw [isIpv4, readIpv4_eq_none_of_mem hc hdot hmem] at h
  cases h

theorem ne_empty_of_isIpv4 {s : String} (h : isIpv4 s = true) : s ≠ "" := by
  rintro rfl
  exact absurd h (by decide)

/-- An address is not dropped. -/
theorem kept_of_isIpv4 {s : String} (h : isIpv4 s = true) : (s ≠ "" && !containsChar s ':') = true := by
  have hcolon : containsChar s ':' = false := by
    simpa [containsChar] using notMem_of_isIpv4 (by decide) (by decide) h
  rw [hcolon]
  simpa using ne_empty_of_isIpv4 h

theorem dnsUpstreams_eq_iff (options : ConnectOptions) :
    dnsUpstreamsForOptions options = ipv4Upstreams options.dns.servers ↔ OnlyIpv4 options.dns.servers := by
  rw [dnsUpstreamsForOptions, ipv4Upstreams]
  refine (filter_or_eq_iff (fun _ => kept_of_isIpv4) ?_).trans ?_
  · exact List.forall_mem_cons.mpr ⟨by decide, List.forall_mem_singleton.mpr (by decide)⟩
  · simp [OnlyIpv4, containsChar]

theorem isIpv4_of_mem_ipv4Upstreams {servers : List String} {upstream : String} (h : upstream ∈ ipv4Upstreams servers) :
    isIpv4 upstream = true ∧ trim upstream = upstream := by
  unfold ipv4Upstreams at h
  dsimp only at h
  split_ifs at h
  · rcases List.mem_cons.mp h with rfl | hsecond
    · exact ⟨by decide, by decide⟩
    · rw [List.mem_singleton.mp hsecond]
      exact ⟨by decide, by decide⟩
  · obtain ⟨hmem, hipv4⟩ := List.mem_filter.mp h
    obtain ⟨server, -, rfl⟩ := List.mem_map.mp hmem
    exact ⟨hipv4, trim_trim server⟩

/-- The ranges of addresses are those of the single addresses. -/
theorem isHostCidr_of_mem {servers : List String} {cidr : String}
    (h : cidr ∈ ipv4OnlyHostCidrs (ipv4Upstreams servers)) : IsHostCidr cidr := by
  obtain ⟨value, hvalue, rfl⟩ := List.mem_map.mp h
  obtain ⟨upstream, hupstream, rfl⟩ := List.mem_map.mp (List.mem_filter.mp hvalue).1
  obtain ⟨hipv4, htrim⟩ := isIpv4_of_mem_ipv4Upstreams hupstream
  rw [htrim]
  have hslash : containsChar upstream '/' = false := by
    simpa [containsChar] using notMem_of_isIpv4 (by decide) (by decide) hipv4
  exact ⟨upstream, hipv4, by rw [hslash, if_neg (by decide)]⟩

/-- The upstreams are the IPv4 addresses among the servers, and on mobile targets the
ranges routed directly are those of single addresses, exactly when every server that has
no colon is an IPv4 address. -/
theorem ipv4_upstreams_iff {os : TargetOs} {options : ConnectOptions} {config : Value}
    (h : generateSingBoxConfig os options = .ok config) :
    (upstreamsOf config = ipv4Upstreams options.dns.servers ∧
      (os.isMobile = true → ∀ cidr ∈ upstreamCidrs config, IsHostCidr cidr)) ↔ OnlyIpv4 options.dns.servers := by
  obtain ⟨-, outbound, -, rfl⟩ := generateSingBoxConfig_eq_ok h
  rw [upstreamsOf_configWith, upstreamCidrs_configWith, dnsUpstreams_eq_iff]
  refine and_iff_left_of_imp fun hservers hmobile cidr hcidr => ?_
  rw [if_pos hmobile, (dnsUpstreams_eq_iff options).mpr hservers] at hcidr
  exact isHostCidr_of_mem hcidr

/-- The options with other DNS servers. -/
def withServers (servers : List String) : ConnectOptions := { profile := sharedKeyProfile, dns := { servers } }

theorem withServers_generated (servers : List String) :
    ∃ outbound, generateSingBoxConfig .android (withServers servers) =
      .ok (configWith .android (withServers servers) outbound) := by
  have hvalid : (Protocols.validate sharedKeyProfile).valid = true := by decide
  have hclient : Succeeds (Olcrtc.OlcRtcConfig.fromProfile sharedKeyProfile) := ⟨_, rfl⟩
  obtain ⟨config, hconfig⟩ := (generateSingBoxConfig_succeeds .android (withServers servers)).mpr ⟨hvalid, hclient⟩
  obtain ⟨-, outbound, -, rfl⟩ := generateSingBoxConfig_eq_ok hconfig
  exact ⟨outbound, hconfig⟩

theorem ipv4_upstreams_quad9 :
    ∃ config, generateSingBoxConfig .android (withServers [" 9.9.9.9", "2620:fe::fe"]) = .ok config ∧
      ((upstreamsOf config = ipv4Upstreams [" 9.9.9.9", "2620:fe::fe"] ∧
        (TargetOs.android.isMobile = true → ∀ cidr ∈ upstreamCidrs config, IsHostCidr cidr)) ↔
          OnlyIpv4 [" 9.9.9.9", "2620:fe::fe"]) := by
  obtain ⟨outbound, hconfig⟩ := withServers_generated [" 9.9.9.9", "2620:fe::fe"]
  exact ⟨_, hconfig, ipv4_upstreams_iff hconfig⟩

/-- A host name passes for an address, and has `/32` put behind it. -/
theorem host_name_passes :
    ∃ config, generateSingBoxConfig .android (withServers ["dns.google"]) = .ok config ∧
      upstreamsOf config = ["dns.google"] ∧ upstreamCidrs config = ["dns.google/32"] ∧
        upstreamsOf config ≠ ipv4Upstreams ["dns.google"] := by
  obtain ⟨outbound, hconfig⟩ := withServers_generated ["dns.google"]
  have hupstreams : dnsUpstreamsForOptions (withServers ["dns.google"]) = ["dns.google"] := by decide
  have haddresses : ipv4Upstreams ["dns.google"] = ["1.1.1.1", "8.8.8.8"] := by decide
  refine ⟨_, hconfig, ?_, ?_, ?_⟩
  · rw [upstreamsOf_configWith, hupstreams]
  · rw [upstreamCidrs_configWith, hupstreams]
    decide
  · rw [upstreamsOf_configWith, hupstreams, haddresses]
    decide

end TauriVpn.Config
