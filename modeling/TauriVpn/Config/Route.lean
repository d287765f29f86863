import TauriVpn.Lib.FirstMatch
import TauriVpn.Models
import TauriVpn.Text

/-! The route rules of the generated configuration, and what they decide. Rules
are tried in list order and the first one whose conditions all hold decides; the
rule that sends all TCP and UDP to the proxy stands before the rules of the OLC
RTC transport. -/

namespace TauriVpn.Config

def localNetworkCidrs : List String :=
  ["0.0.0.0/8", "10.0.0.0/8", "100.64.0.0/10", "127.0.0.0/8", "169.254.0.0/16", "172.16.0.0/12",
    "192.168.0.0/16", "224.0.0.0/4", "255.255.255.255/32"]

/-! ### The rule list -/

/-- `"action": "route"` to an outbound, the last members of a rule. -/
def routeTo (outbound : String) : List (String × Value) :=
  [("action", .string "route"), ("outbound", .string outbound)]

def rejectDefault : List (String × Value) :=
  [("action", .string "reject"), ("method", .string "default")]

def ipv4OnlyHostCidrs (values : List String) : List String :=
  ((values.map trim).filter fun value => value ≠ "" && !containsChar value ':').map fun value =>
    if containsChar value '/' then value else value ++ "/32"

/-- The direct route to the DNS upstreams, on mobile targets. -/
def dnsUpstreamRules (os : TargetOs) (dnsUpstreams : List String) : List Value :=
  if os.isMobile then
    let dnsUpstreamCidrs := ipv4OnlyHostCidrs dnsUpstreams
    if dnsUpstreamCidrs.isEmpty then []
    else [.object ([("ip_cidr", .strings dnsUpstreamCidrs), ("network", .strings ["tcp", "udp"]),
      ("port", .nat 53)] ++ routeTo "direct")]
  else []

def bypassCidrs (routeBypassCidrs : List String) : List String :=
  (routeBypassCidrs.map trim).filter (· ≠ "")

def bypassRules (routeBypassCidrs : List String) : List Value :=
  let routeBypassCidrs := bypassCidrs routeBypassCidrs
  if routeBypassCidrs.isEmpty then []
  else [.object ([("ip_cidr", .strings routeBypassCidrs)] ++ routeTo "direct")]

/-- The rules meant for the OLC RTC transport. -/
def olcRtcRules : List Value :=
  [.object ([("domain", .strings ["stream.wb.ru", "wbstream01-el.wb.ru"])] ++ routeTo "direct"),
    .object ([("network", .strings ["tcp", "udp"]), ("port", .nats [3478, 5349])] ++ routeTo "direct"),
    .object ([("network", .string "tcp"), ("port", .nat 7880)] ++ routeTo "direct"),
    .object ([("network", .string "udp")] ++ rejectDefault)]

def dnsAndLocalRules : List Value :=
  [.object [("protocol", .string "dns"), ("action", .string "hijack-dns")],
    .object [("network", .string "udp"), ("port", .nat 53), ("action", .string "hijack-dns")],
    .object ([("ip_cidr", .strings localNetworkCidrs)] ++ routeTo "direct")]

/-- The rules of the connections that nothing before them decided. -/
def restRules : List Value :=
  [.object ([("network", .string "icmp")] ++ rejectDefault),
    .object ([("network", .strings ["tcp", "udp"])] ++ routeTo "proxy")]

def routeRulesForProfile (os : TargetOs) (profile : VpnProfile)
    (routeBypassCidrs dnsUpstreams : List String) : List Value :=
  dnsUpstreamRules os dnsUpstreams ++ dnsAndLocalRules ++ bypassRules routeBypassCidrs ++ restRules ++
    if profile.protocol = .olcRtc then olcRtcRules else []

/-! ### Evaluation -/

inductive Network where
  | tcp | udp | icmp
  deriving DecidableEq, Repr

def Network.name : Network → String
  | .tcp => "tcp"
  | .udp => "udp"
  | .icmp => "icmp"

/-- What the rules can see of a connection; `protocol` is the sniffed one. -/
structure Connection (Address : Type*) where
  network : Network
  address : Option Address
  port : ℕ
  domain : Option String := none
  protocol : Option String := none

inductive Action where
  | route (outbound : String)
  | hijackDns
  | reject (method : String)
  deriving DecidableEq, Repr

/-- A member of a rule is one value or a list of them. -/
def listable : Value → List Value
  | .array items => items
  | value => [value]

section Evaluation
variable {Address : Type*} (inCidr : String → Address → Bool)

/-- Whether the connection's address lies in one of the ranges. -/
def Connection.inAny (c : Connection Address) (cidrs : List String) : Bool :=
  cidrs.any fun cidr => c.address.any (inCidr cidr)

/-- One condition of a rule; the members that make up its action hold of everything. -/
def conditionHolds (c : Connection Address) (key : String) (value : Value) : Bool :=
  match key with
  | "network" => (listable value).any fun
    | .string s => s == c.network.name
    | _ => false
  | "port" => (listable value).any fun
    | .number n => n == c.port
    | _ => false
  | "ip_cidr" => (listable value).any fun
    | .string cidr => c.address.any (inCidr cidr)
    | _ => false
  | "domain" => (listable value).any fun
    | .string domain => c.domain == some domain
    | _ => false
  | "protocol" => (listable value).any fun
    | .string protocol => c.protocol == some protocol
    | _ => false
  | "action" | "outbound" | "method" => true
  | _ => false

def ruleHolds (rule : Value) (c : Connection Address) : Bool :=
  match rule with
  | .object members => members.all fun m => conditionHolds inCidr c m.1 m.2
  | _ => false

def ruleAction (rule : Value) : Option Action :=
  match rule.get "action" with
  | .string "route" => (rule.get "outbound").asStr.map .route
  | .string "hijack-dns" => some .hijackDns
  | .string "reject" => (rule.get "method").asStr.map .reject
  | _ => none

/-- What a rule list decides for a connection. -/
def decideRoute (rules : List Value) (c : Connection Address) : Option Action :=
  (FirstMatch.outcome (ruleHolds inCidr) ruleAction rules c).join

end Evaluation

/-! ### What the generated rules decide -/

section Decision
variable {Address : Type*} (inCidr : String → Address → Bool) (c : Connection Address)

@[simp] theorem ruleHolds_object (members : List (String × Value)) :
    ruleHolds inCidr (.object members) c = members.all fun m => conditionHolds inCidr c m.1 m.2 := rfl

@[simp] theorem conditionHolds_ipCidr (cidrs : List String) :
    conditionHolds inCidr c "ip_cidr" (.strings cidrs) = c.inAny inCidr cidrs := by
  simp [conditionHolds, Value.strings, listable, Connection.inAny, List.any_map, Function.comp_def]

@[simp] theorem conditionHolds_network (name : String) :
    conditionHolds inCidr c "network" (.string name) = (name == c.network.name) := by
  simp [conditionHolds, listable]

@[simp] theorem conditionHolds_networks (names : List String) :
    conditionHolds inCidr c "network" (.strings names) = names.any (· == c.network.name) := by
  simp [conditionHolds, Value.strings, listable, List.any_map, Function.comp_def]

@[simp] theorem conditionHolds_port (n : ℕ) :
    conditionHolds inCidr c "port" (.nat n) = (c.port == n) := by
  simp [conditionHolds, listable, Value.nat, Bool.beq_eq_decide_eq, eq_comm]

@[simp] theorem conditionHolds_protocol (protocol : String) :
    conditionHolds inCidr c "protocol" (.string protocol) = (c.protocol == some protocol) := by
  simp [conditionHolds, listable]

@[simp] theorem conditionHolds_action (value : Value) :
    conditionHolds inCidr c "action" value = true := rfl

@[simp] theorem conditionHolds_outbound (value : Value) :
    conditionHolds inCidr c "outbound" value = true := rfl

@[simp] theorem conditionHolds_method (value : Value) :
    conditionHolds inCidr c "method" value = true := rfl

/-- What the rules are for: a DNS upstream on mobile, DNS, a local or bypassed
address, ICMP, and everything else. -/
def routeDecision (os : TargetOs) (routeBypassCidrs dnsUpstreams : List String) : Action :=
  if os.isMobile ∧ c.network ≠ .icmp ∧ c.port = 53 ∧ c.inAny inCidr (ipv4OnlyHostCidrs dnsUpstreams) then
    .route "direct"
  else if c.protocol = some "dns" ∨ (c.network = .udp ∧ c.port = 53) then .hijackDns
  else if c.inAny inCidr localNetworkCidrs ∨ c.inAny inCidr (bypassCidrs routeBypassCidrs) then
    .route "direct"
  else if c.network = .icmp then .reject "default"
  else .route "proxy"

theorem ruleAction_routeTo (conditions : List (String × Value)) (outbound : String)
    (haction : conditions.lookup "action" = none) (houtbound : conditions.lookup "outbound" = none) :
    ruleAction (.object (conditions ++ routeTo outbound)) = some (.route outbound) := by
  simp [ruleAction, Value.get, List.lookup_append, haction, houtbound, routeTo, List.lookup_cons,
    Value.asStr]

/-- A rule that routes decides when its conditions hold. -/
theorem outcome_routeTo (conditions : List (String × Value)) (outbound : String) (rules : List Value)
    (haction : conditions.lookup "action" = none) (houtbound : conditions.lookup "outbound" = none) :
    FirstMatch.outcome (ruleHolds inCidr) ruleAction (.object (conditions ++ routeTo outbound) :: rules) c =
      if conditions.all fun m => conditionHolds inCidr c m.1 m.2 then some (some (.route outbound))
      else FirstMatch.outcome (ruleHolds inCidr) ruleAction rules c := by
  have hconditions : ruleHolds inCidr (.object (conditions ++ routeTo outbound)) c =
      conditions.all fun m => conditionHolds inCidr c m.1 m.2 := by
    rw [ruleHolds_object, List.all_append]
    simp [routeTo]
  rw [FirstMatch.outcome_cons, ruleAction_routeTo _ _ haction houtbound, hconditions]

theorem outcome_dnsUpstreamRules (os : TargetOs) (dnsUpstreams : List String) :
    FirstMatch.outcome (ruleHolds inCidr) ruleAction (dnsUpstreamRules os dnsUpstreams) c =
      if os.isMobile ∧ c.network ≠ .icmp ∧ c.port = 53 ∧ c.inAny inCidr (ipv4OnlyHostCidrs dnsUpstreams)
        then some (some (.route "direct")) else none := by
  unfold dnsUpstreamRules
  by_cases hos : os.isMobile
  · rw [if_pos hos]
    dsimp only
    split_ifs with hempty hcond hcond
    · rw [List.isEmpty_iff] at hempty
      simp [hempty, Connection.inAny] at hcond
    · rfl
    · rw [outcome_routeTo inCidr c _ _ _ rfl rfl, if_pos]
      obtain ⟨-, hnet, hport, hin⟩ := hcond
      cases hn : c.network with
      | tcp | udp => simp [hn, hport, hin, Network.name]
      | icmp => exact absurd hn hnet
    · rw [outcome_routeTo inCidr c _ _ _ rfl rfl, if_neg, FirstMatch.outcome_nil]
      intro hall
      refine hcond ⟨hos, ?_⟩
      cases hn : c.network with
      | tcp | udp => simpa [hn, Network.name, and_comm] using hall
      | icmp => simp [hn, Network.name] at hall
  · simp [hos]

theorem outcome_bypassRules (routeBypassCidrs : List String) :
    FirstMatch.outcome (ruleHolds inCidr) ruleAction (bypassRules routeBypassCidrs) c =
      if c.inAny inCidr (bypassCidrs routeBypassCidrs) then some (some (.route "direct")) else none := by
  unfold bypassRules
  dsimp only
  split_ifs with hempty hin hin
  · rw [List.isEmpty_iff] at hempty
    simp [hempty, Connection.inAny] at hin
  · rfl
  · rw [outcome_routeTo inCidr c _ _ _ rfl rfl, if_pos]
    simp [hin]
  · rw [outcome_routeTo inCidr c _ _ _ rfl rfl, if_neg, FirstMatch.outcome_nil]
    simp [hin]

theorem outcome_dnsAndLocalRules :
    FirstMatch.outcome (ruleHolds inCidr) ruleAction dnsAndLocalRules c =
      if c.protocol = some "dns" ∨ (c.network = .udp ∧ c.port = 53) then some (some .hijackDns)
      else if c.inAny inCidr localNetworkCidrs then some (some (.route "direct")) else none := by
  unfold dnsAndLocalRules
  rw [FirstMatch.outcome_cons, FirstMatch.outcome_cons, outcome_routeTo inCidr c _ _ _ rfl rfl,
    FirstMatch.outcome_nil]
  have hudp : ("udp" == c.network.name) = decide (c.network = .udp) := by
    cases c.network <;> decide
  by_cases hdns : c.protocol = some "dns"
  · simp [hdns, ruleAction, Value.get, List.lookup_cons]
  · by_cases hport : c.network = .udp ∧ c.port = 53
    · simp [hdns, hport, Network.name, ruleAction, Value.get, List.lookup_cons]
    · have hnot : ¬(decide (c.network = .udp) && c.port == 53) = true := by
        simpa using hport
      simp [hdns, hport, hudp, hnot]

theorem outcome_restRules : FirstMatch.outcome (ruleHolds inCidr) ruleAction restRules c =
    some (some (if c.network = .icmp then .reject "default" else .route "proxy")) := by
  unfold restRules
  simp only [FirstMatch.outcome_cons, FirstMatch.outcome_nil]
  cases hn : c.network <;>
    simp [hn, routeTo, rejectDefault, Network.name, ruleAction, Value.get, Value.asStr, List.lookup_cons]

/-- The rule list of every profile decides the same: the rules of the OLC RTC
transport stand behind rules that hold of every connection. -/
theorem decideRoute_routeRules (os : TargetOs) (profile : VpnProfile)
    (routeBypassCidrs dnsUpstreams : List String) :
    decideRoute inCidr (routeRulesForProfile os profile routeBypassCidrs dnsUpstreams) c =
      some (routeDecision inCidr c os routeBypassCidrs dnsUpstreams) := by
  unfold decideRoute routeRulesForProfile routeDecision
  rw [FirstMatch.outcome_append_of_isSome]
  · simp only [FirstMatch.outcome_append, outcome_dnsUpstreamRules, outcome_dnsAndLocalRules,
      outcome_bypassRules, outcome_restRules]
    split_ifs <;> simp_all
  · rw [FirstMatch.outcome_append, outcome_restRules]
    simp

end Decision

/-! ### The OLC RTC transport -/

section Transport
variable {Address : Type*} (inCidr : String → Address → Bool) (c : Connection Address)

/-- What the first two rules take for DNS. -/
def Connection.IsDns (c : Connection Address) : Prop :=
  c.protocol = some "dns" ∨ c.network = .udp ∧ c.port = 53

/-- A connection that the rules of the transport are meant for. -/
def Connection.IsTransport (c : Connection Address) : Prop :=
  c.domain = some "stream.wb.ru" ∨ c.domain = some "wbstream01-el.wb.ru" ∨
    (c.network ≠ .icmp ∧ (c.port = 3478 ∨ c.port = 5349)) ∨ (c.network = .tcp ∧ c.port = 7880)

def Connection.InDirectRange (routeBypassCidrs : List String) : Prop :=
  c.inAny inCidr localNetworkCidrs = true ∨ c.inAny inCidr (bypassCidrs routeBypassCidrs) = true

/-- The transport goes direct, and other UDP to a remote address is rejected. -/
def BypassesTransport (routeBypassCidrs : List String) (decision : Option Action) : Prop :=
  (c.IsTransport → decision = some (.route "direct")) ∧
    (¬c.IsTransport → c.network = .udp → ¬c.InDirectRange inCidr routeBypassCidrs →
      decision = some (.reject "default"))

/-- The rules of a profile, OLC RTC included, do what the transport needs only where
other rules happen to: in a local or bypassed range, for a DNS upstream on mobile,
and for connections that are neither UDP nor the transport's. -/
theorem bypassesTransport_iff (os : TargetOs) (profile : VpnProfile)
    (routeBypassCidrs dnsUpstreams : List String) (hdns : ¬c.IsDns) :
    BypassesTransport inCidr c routeBypassCidrs (decideRoute inCidr
        (routeRulesForProfile os profile routeBypassCidrs dnsUpstreams) c) ↔
      c.InDirectRange inCidr routeBypassCidrs ∨
        (os.isMobile = true ∧ c.network = .tcp ∧ c.port = 53 ∧
          c.inAny inCidr (ipv4OnlyHostCidrs dnsUpstreams) = true) ∨
        (¬c.IsTransport ∧ c.network ≠ .udp) := by
  rw [decideRoute_routeRules]
  unfold BypassesTransport routeDecision
  by_cases hup : os.isMobile = true ∧ c.network ≠ .icmp ∧ c.port = 53 ∧
      c.inAny inCidr (ipv4OnlyHostCidrs dnsUpstreams) = true
  · -- port 53 that is not DNS is TCP
    obtain ⟨hos, hnet, hport, hin⟩ := hup
    have htcp : c.network = .tcp := by
      cases hn : c.network with
      | tcp => rfl
      | udp => exact absurd (Or.inr ⟨hn, hport⟩) hdns
      | icmp => exact absurd hn hnet
    simp [hos, hport, hin, htcp]
  · have hup' : ¬(os.isMobile = true ∧ c.network = .tcp ∧ c.port = 53 ∧
        c.inAny inCidr (ipv4OnlyHostCidrs dnsUpstreams) = true) := fun ⟨hos, htcp, hport, hin⟩ =>
      hup ⟨hos, by rw [htcp]; decide, hport, hin⟩
    rw [if_neg hup, if_neg (show ¬(c.protocol = some "dns" ∨ c.network = .udp ∧ c.port = 53) from hdns)]
    by_cases hrange : c.InDirectRange inCidr routeBypassCidrs
    · rw [if_pos (show c.inAny inCidr localNetworkCidrs = true ∨
        c.inAny inCidr (bypassCidrs routeBypassCidrs) = true from hrange)]
      simp [hrange]
    · rw [if_neg (show ¬(c.inAny inCidr localNetworkCidrs = true ∨
        c.inAny inCidr (bypassCidrs routeBypassCidrs) = true) from hrange)]
      simp only [hrange, hup', false_or, not_false_eq_true, true_imp_iff]
      by_cases ht : c.IsTransport
      · cases hn : c.network <;> simp [ht]
      · cases hn : c.network <;> simp [ht]

/-- Membership of an IPv4 address in the one range that the samples below touch. -/
def sampleInCidr (cidr : String) (address : ℕ) : Bool :=
  cidr == "192.168.0.0/16" && address / 2 ^ 16 == 0xC0A8

def sampleProfile : VpnProfile where
  id := 1
  name := "WB"
  protocol := .olcRtc
  server := "room-123"
  port := 443
  auth := { password := some "000102030405060708090a0b0c0d0e0f101112131415161718191a1b1c1d1e1f" }

/-- UDP to port 3478 of a host in the local network. -/
theorem bypassesTransport_local :
    BypassesTransport sampleInCidr ⟨.udp, some 0xC0A80105, 3478, none, none⟩ []
      (decideRoute sampleInCidr (routeRulesForProfile .linux sampleProfile [] ["1.1.1.1"])
        ⟨.udp, some 0xC0A80105, 3478, none, none⟩) :=
  (bypassesTransport_iff sampleInCidr ⟨.udp, some 0xC0A80105, 3478, none, none⟩ .linux sampleProfile []
    ["1.1.1.1"] (by unfold Connection.IsDns; decide)).mpr (Or.inl (Or.inl (by decide)))

/-- TCP to the transport's own server goes into the tunnel. -/
theorem transport_into_tunnel :
    decideRoute sampleInCidr (routeRulesForProfile .linux sampleProfile [] ["1.1.1.1"])
        ⟨.tcp, some 0xCB007107, 443, some "stream.wb.ru", none⟩ = some (.route "proxy") ∧
      ¬BypassesTransport sampleInCidr ⟨.tcp, some 0xCB007107, 443, some "stream.wb.ru", none⟩ []
        (decideRoute sampleInCidr (routeRulesForProfile .linux sampleProfile [] ["1.1.1.1"])
          ⟨.tcp, some 0xCB007107, 443, some "stream.wb.ru", none⟩) := by
  have hdecision : decideRoute sampleInCidr (routeRulesForProfile .linux sampleProfile [] ["1.1.1.1"])
      ⟨.tcp, some 0xCB007107, 443, some "stream.wb.ru", none⟩ = some (.route "proxy") := by
    rw [decideRoute_routeRules]
    decide
  refine ⟨hdecision, fun h => ?_⟩
  have hdirect := h.1 (Or.inl rfl)
  rw [hdecision] at hdirect
  exact absurd hdirect (by decide)

end Transport

end TauriVpn.Config
