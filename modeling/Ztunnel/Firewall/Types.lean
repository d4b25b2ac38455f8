import Ztunnel.Lib.DecisionList
import Ztunnel.Net

/-!
# Firewall rules and what they mean

The rule types of `firewall/types.rs`, which the policy compiler produces and the netfilter backends
render, and the decision a rule set stands for. TCP is left to the userspace proxy, so the meaning
of a rule is given on the other packets and a TCP packet is always let through.

The meaning is stated here once, on the nested structure: the clauses of a rule constrain together,
the matches of a clause are alternatives, and empty lists do not constrain. Both backends expand
that structure; `Ztunnel.Firewall.Nft` and `Ztunnel.Firewall.Ipt` show that the expansion decides
as the structure does.
-/

namespace Ztunnel.Firewall

open DecisionList

/-- `RuleAction`. -/
inductive RuleAction where
  | allow
  | deny
deriving DecidableEq, Repr

/-- `firewall::Direction`. -/
inductive Direction where
  | inbound
  | outbound
deriving DecidableEq, Repr

/-- `FirewallProtocol`. -/
inductive FirewallProtocol where
  | nonTcp
  | udp
  | sctp
  | icmp
deriving DecidableEq, Repr

/-- `PortGroup`: destination port ranges of one protocol, none for any port. -/
structure PortGroup where
  protocol : FirewallProtocol
  ports : List PortRange
deriving DecidableEq, Repr

/-- `FirewallMatch`. -/
structure FirewallMatch where
  sourceIps : List IpNet
  destIps : List IpNet
  portGroups : List PortGroup
deriving DecidableEq, Repr

/-- `FirewallRule`. The priority is an `i32`; the smallest is tried first. -/
structure FirewallRule where
  name : String
  action : RuleAction
  direction : Direction
  priority : ℤ
  clauses : List (List FirewallMatch)
deriving DecidableEq, Repr

/-- `firewall::RuleSet`. -/
structure RuleSet where
  inlineRules : List FirewallRule
  rules : List FirewallRule
  policyAttached : Bool
deriving DecidableEq, Repr

/-! ### The meaning of a rule -/

/-- A list of port ranges constrains the destination port unless it is empty. -/
def matchesPorts (ports : List PortRange) (port : UInt16) : Bool :=
  ports.isEmpty || ports.any (·.contains port)

/-- A port group holds on a packet. `NonTcp` with ports means the non-TCP protocols with ports, and
ICMP, which has none, is the ICMP of the packet's family. -/
def PortGroup.matchesPacket (group : PortGroup) (pkt : Packet) : Bool :=
  match group.protocol with
  | .nonTcp =>
    if group.ports.isEmpty then !pkt.isTcp
    else (pkt.l4proto == L4Proto.udp || pkt.l4proto == L4Proto.sctp) &&
      group.ports.any (·.contains pkt.dport)
  | .udp => pkt.l4proto == L4Proto.udp && matchesPorts group.ports pkt.dport
  | .sctp => pkt.l4proto == L4Proto.sctp && matchesPorts group.ports pkt.dport
  | .icmp => pkt.isIcmp

/-- No port groups mean all non-TCP traffic. -/
def matchesGroups (groups : List PortGroup) (pkt : Packet) : Bool :=
  if groups.isEmpty then !pkt.isTcp else groups.any (·.matchesPacket pkt)

/-- A match holds on a packet when all its fields do. -/
def FirewallMatch.matchesPacket (m : FirewallMatch) (pkt : Packet) : Bool :=
  matchesIps m.sourceIps pkt.src && matchesIps m.destIps pkt.dst && matchesGroups m.portGroups pkt

/-- A rule fires when every clause has a match that holds. -/
def FirewallRule.matchesPacket (rule : FirewallRule) (pkt : Packet) : Bool :=
  rule.clauses.all fun clause ↦ clause.any (·.matchesPacket pkt)

/-! ### The meaning of a rule set -/

/-- The rules of a direction in stable priority order. -/
def ordered (rules : List FirewallRule) (direction : Direction) : List FirewallRule :=
  sortByKey FirewallRule.priority (rules.filter (·.direction == direction))

/-- First match in stable priority order. -/
def stageVerdict (rules : List FirewallRule) (direction : Direction) (pkt : Packet) :
    Option RuleAction :=
  firstMatch FirewallRule.matchesPacket FirewallRule.action (ordered rules direction) pkt

/-- **The decision of a rule set.** A TCP packet is let through. Any other packet passes the inline
rules, where an allow or no match continues, then the workload rules, and is otherwise rejected iff
a policy is attached. -/
def RuleSet.decision (ruleset : RuleSet) (direction : Direction) (pkt : Packet) : RuleAction :=
  if pkt.isTcp then .allow
  else match stageVerdict ruleset.inlineRules direction pkt with
    | some .deny => .deny
    | _ => (stageVerdict ruleset.rules direction pkt).getD
        (if ruleset.policyAttached then .deny else .allow)

theorem RuleSet.decision_eq (ruleset : RuleSet) (direction : Direction) (pkt : Packet) :
    ruleset.decision direction pkt =
      if pkt.isTcp then .allow
      else if stageVerdict ruleset.inlineRules direction pkt = some .deny then .deny
      else (stageVerdict ruleset.rules direction pkt).getD
        (if ruleset.policyAttached then .deny else .allow) := by
  rw [decision]
  split
  · rfl
  · rcases stageVerdict ruleset.inlineRules direction pkt with - | (_ | _) <;> rfl

end Ztunnel.Firewall
