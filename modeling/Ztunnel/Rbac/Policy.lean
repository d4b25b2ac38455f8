import Ztunnel.Lib.DecisionList
import Ztunnel.Net

/-!
# Traffic policies and their userspace evaluation

The policies of `rbac.rs` and the TCP path through them. A `TrafficPolicy` configures a direction by
having a rule set for it, possibly an empty one; `assertPolicies` walks an ordered list of
references, of which some may be unresolved, and stops at the first rule that matches.

`referenceDecision` is **not** translated from the source: it is what the two evaluators — the walk
here and the firewall compiler in `Ztunnel.Rbac.Compile` — are both meant to compute, stated as a
decision list over the rules of all policies. `assertPolicies_eq_reference` connects the walk to it.
-/

namespace Ztunnel.Rbac

open DecisionList

/-- `rbac::Direction`. -/
inductive Direction where
  | inbound
  | outbound
deriving DecidableEq, Repr

/-- `identity::Identity`, whose only form is a SPIFFE identity. -/
structure Identity where
  trustDomain : String
  «namespace» : String
  serviceAccount : String
deriving DecidableEq, Repr

/-- `rbac::Connection`. -/
structure Connection where
  src : SocketAddr
  dst : SocketAddr
  srcIdentity : Option Identity
  dstNetwork : String
  direction : Direction
deriving DecidableEq, Repr

/-- `rbac::Action`. -/
inductive Action where
  | allow
  | deny
deriving DecidableEq, Repr

/-- `traffic_policy::Protocol`. -/
inductive Protocol where
  | all
  | tcp
  | udp
  | icmp
  | sctp
deriving DecidableEq, Repr

/-- `rbac::PortMatch`. -/
structure PortMatch where
  protocol : Protocol
  range : Option PortRange
deriving DecidableEq, Repr

/-- `rbac::Rule`. Values inside a list are alternatives, an empty list does not constrain, and the
lists constrain together. -/
structure Rule where
  action : Action
  sourceIps : List IpNet
  destinationIps : List IpNet
  ports : List PortMatch
deriving DecidableEq, Repr

/-- `rbac::RuleSet`. -/
structure RuleSet where
  rules : List Rule
deriving DecidableEq, Repr

/-- `rbac::TrafficPolicy`: a direction without a rule set is not configured. -/
structure TrafficPolicy where
  ingress : Option RuleSet
  egress : Option RuleSet
deriving DecidableEq, Repr

/-- `TrafficPolicy::rules_for`. -/
def TrafficPolicy.rulesFor (policy : TrafficPolicy) : Direction → Option RuleSet
  | .inbound => policy.ingress
  | .outbound => policy.egress

/-- An ordered stage of references: the name, and the policy it resolves to if it does. -/
abbrev Policies := List (String × Option TrafficPolicy)

/-- `proxy::AuthorizationRejectionError`. -/
inductive AuthorizationRejectionError where
  | noWorkload
  | workloadMismatch
  | explicitlyDenied (name reason : String)
  | notAllowed
deriving DecidableEq, Repr

/-! ### The TCP path -/

/-- `Rule::matches_tcp`. -/
def Rule.matchesTcp (rule : Rule) (conn : Connection) : Bool :=
  matchesIps rule.sourceIps conn.src.ip &&
    matchesIps rule.destinationIps conn.dst.ip &&
      (rule.ports.isEmpty || rule.ports.any fun port ↦
        (port.protocol == .all || port.protocol == .tcp) &&
          port.range.all (·.contains conn.dst.port))

/-- `RuleSet::match_tcp`: the index and the action of the first rule that matches. -/
def RuleSet.matchTcp (ruleSet : RuleSet) (conn : Connection) : Option (ℕ × Action) :=
  (ruleSet.rules.zipIdx.find? fun p ↦ p.1.matchesTcp conn).map fun p ↦ (p.2, p.1.action)

/-- The loop of `assert_policies`, with its flag `configured`. -/
def assertPoliciesLoop (conn : Connection) :
    Bool → Policies → Except AuthorizationRejectionError Unit
  | configured, [] =>
    if configured then .error (.explicitlyDenied "" "DEFAULT-DENY") else .ok ()
  | configured, (name, policy) :: policies =>
    match policy.bind (·.rulesFor conn.direction) with
    | none => assertPoliciesLoop conn configured policies
    | some rules =>
      match rules.matchTcp conn with
      | some (_, .allow) => .ok ()
      | some (index, .deny) => .error (.explicitlyDenied name s!"rule-{index}")
      | none => assertPoliciesLoop conn true policies

/-- `assert_policies`: evaluate one ordered stage. An unresolved reference blocks all of it. -/
def assertPolicies (policies : Policies) (conn : Connection) :
    Except AuthorizationRejectionError Unit :=
  match policies.find? fun p ↦ p.2.isNone with
  | some (name, _) => .error (.explicitlyDenied name "policy-unavailable")
  | none => assertPoliciesLoop conn false policies

/-! ### The reference decision -/

/-- A port entry matches a packet. `ALL` with a range matches the protocols with ports only, and an
entry for one protocol never matches another; ICMP is the ICMP of the packet's family and has no
ports to constrain. -/
def PortMatch.matchesPacket (port : PortMatch) (pkt : Packet) : Bool :=
  match port.protocol with
  | .all => port.range.all fun range ↦ pkt.hasPort && range.contains pkt.dport
  | .tcp => pkt.l4proto == L4Proto.tcp && port.range.all (·.contains pkt.dport)
  | .udp => pkt.l4proto == L4Proto.udp && port.range.all (·.contains pkt.dport)
  | .sctp => pkt.l4proto == L4Proto.sctp && port.range.all (·.contains pkt.dport)
  | .icmp => pkt.isIcmp

/-- A rule matches a packet: a rule with no ports matches every protocol. -/
def Rule.matchesPacket (rule : Rule) (pkt : Packet) : Bool :=
  matchesIps rule.sourceIps pkt.src && matchesIps rule.destinationIps pkt.dst &&
    (rule.ports.isEmpty || rule.ports.any (·.matchesPacket pkt))

/-- The rules that the resolved references give for a direction, in policy order and then in rule
order. -/
def stageRules (policies : Policies) (direction : Direction) : List Rule :=
  policies.flatMap fun p ↦ ((p.2.bind (·.rulesFor direction)).map RuleSet.rules).getD []

/-- Some policy configures the direction. -/
def configures (policies : Policies) (direction : Direction) : Bool :=
  policies.any fun p ↦ (p.2.bind (·.rulesFor direction)).isSome

theorem stageRules_cons (name : String) (policy : Option TrafficPolicy) (policies : Policies)
    (direction : Direction) :
    stageRules ((name, policy) :: policies) direction =
      ((policy.bind (·.rulesFor direction)).map RuleSet.rules).getD [] ++
        stageRules policies direction :=
  List.flatMap_cons

theorem configures_cons (name : String) (policy : Option TrafficPolicy) (policies : Policies)
    (direction : Direction) :
    configures ((name, policy) :: policies) direction =
      ((policy.bind (·.rulesFor direction)).isSome || configures policies direction) :=
  List.any_cons

/-- Some reference is unresolved. -/
def unresolved (policies : Policies) : Bool := policies.any fun p ↦ p.2.isNone

/-- **The reference decision of a stage.** An unresolved reference denies; else the first rule that
matches decides; else a configured direction denies and an absent one allows. -/
def referenceDecision (policies : Policies) (direction : Direction) (pkt : Packet) : Action :=
  if unresolved policies then .deny
  else match firstMatch Rule.matchesPacket Rule.action (stageRules policies direction) pkt with
    | some action => action
    | none => if configures policies direction then .deny else .allow

/-- The connection that a TCP packet belongs to: its addresses, its destination port and the
direction. The source port, the identity and the network are free. -/
structure Connection.Carries (conn : Connection) (pkt : Packet) : Prop where
  tcp : pkt.l4proto = L4Proto.tcp
  src : conn.src.ip = pkt.src
  dst : conn.dst.ip = pkt.dst
  dport : conn.dst.port = pkt.dport

variable {conn : Connection} {pkt : Packet}

/-- On a TCP packet a port entry of the reference decides as the TCP path does. -/
theorem PortMatch.matchesPacket_tcp (h : pkt.l4proto = L4Proto.tcp) (port : PortMatch) :
    port.matchesPacket pkt =
      ((port.protocol == .all || port.protocol == .tcp) &&
        port.range.all (·.contains pkt.dport)) := by
  have hicmp : pkt.isIcmp = false := by
    simp only [Packet.isIcmp, Packet.familyIcmp, h]
    split <;> decide
  have hudp : (L4Proto.tcp == L4Proto.udp) = false := by decide
  have hsctp : (L4Proto.tcp == L4Proto.sctp) = false := by decide
  obtain ⟨protocol, range⟩ := port
  cases protocol <;> simp [matchesPacket, Packet.hasPort, h, hicmp, hudp, hsctp]

theorem Rule.matchesTcp_eq (h : conn.Carries pkt) (rule : Rule) :
    rule.matchesTcp conn = rule.matchesPacket pkt := by
  simp only [matchesTcp, matchesPacket, h.src, h.dst, h.dport,
    PortMatch.matchesPacket_tcp h.tcp]

/-- `match_tcp` finds the action that first match gives, whatever index it reports. -/
theorem RuleSet.matchTcp_action (h : conn.Carries pkt) (ruleSet : RuleSet) :
    (ruleSet.matchTcp conn).map Prod.snd =
      firstMatch Rule.matchesPacket Rule.action ruleSet.rules pkt := by
  -- the index does not take part: generalise it to the start of the enumeration
  suffices hgen : ∀ (rules : List Rule) (n : ℕ),
      ((rules.zipIdx n).find? fun p ↦ p.1.matchesTcp conn).map (fun p ↦ p.1.action) =
        firstMatch Rule.matchesPacket Rule.action rules pkt by
    rw [← hgen ruleSet.rules 0, matchTcp, Option.map_map]
    rfl
  intro rules
  induction rules with
  | nil => intro n; rfl
  | cons rule rules ih =>
    intro n
    rw [List.zipIdx_cons, List.find?_cons, firstMatch_cons, ← ih (n + 1)]
    simp only [Rule.matchesTcp_eq h rule]
    cases rule.matchesPacket pkt <;> rfl

/-- What the reference decides once the rules of the stage have been tried, given whether the
direction was configured before. -/
def stageDefault (configured : Bool) : Action := if configured then .deny else .allow

/-- The decision of a rejection or acceptance of the TCP path. -/
def decisionOf : Except AuthorizationRejectionError Unit → Action
  | .ok _ => .allow
  | .error _ => .deny

/-- **The loop, with its accumulator.** From any value of the flag the loop decides by the first
match in the remaining policies, and else by whether a direction was or is configured. -/
theorem assertPoliciesLoop_decision (h : conn.Carries pkt) (policies : Policies)
    (configured : Bool) :
    decisionOf (assertPoliciesLoop conn configured policies) =
      (firstMatch Rule.matchesPacket Rule.action (stageRules policies conn.direction) pkt).getD
        (stageDefault (configured || configures policies conn.direction)) := by
  induction policies generalizing configured with
  | nil => cases configured <;> rfl
  | cons p policies ih =>
    obtain ⟨name, policy⟩ := p
    rw [assertPoliciesLoop, stageRules_cons, configures_cons, firstMatch_append]
    cases hbody : policy.bind (·.rulesFor conn.direction) with
    | none => simpa using ih configured
    | some rules =>
      have hmatch := RuleSet.matchTcp_action h rules
      simp only [Option.map_some, Option.getD_some, Option.isSome_some, Bool.true_or,
        Bool.or_true, ← hmatch]
      rcases rules.matchTcp conn with - | ⟨index, action⟩
      · simpa using ih true
      · cases action <;> rfl

/-- **The TCP path computes the reference decision.** -/
theorem assertPolicies_eq_reference (h : conn.Carries pkt) (policies : Policies) :
    decisionOf (assertPolicies policies conn) =
      referenceDecision policies conn.direction pkt := by
  rw [assertPolicies, referenceDecision, unresolved, ← List.isSome_find?]
  cases policies.find? fun p ↦ p.2.isNone with
  | some p => rfl
  | none =>
    simp only [assertPoliciesLoop_decision h, Bool.false_or, Option.isSome_none,
      Bool.false_eq_true, if_false]
    cases firstMatch Rule.matchesPacket Rule.action (stageRules policies conn.direction) pkt <;> rfl

end Ztunnel.Rbac
