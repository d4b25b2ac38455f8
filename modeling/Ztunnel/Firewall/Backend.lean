import Ztunnel.Firewall.Types
import Ztunnel.Lib.Expansion
import Ztunnel.Lib.Netfilter

/-!
# What the netfilter backends share

Both backends filter packets as a netfilter hook sees them, exempt the same packets from filtering
(connections already tracked, loopback, and what the proxy itself sends), and flatten the clauses of
a rule under the same assumption on the control plane: different clauses of a rule constrain
different dimensions. That assumption is `RuleSet.Independent`.
-/

namespace Ztunnel.Firewall

open Netfilter DecisionList

/-! ### Packets at a hook -/

/-- A packet at a netfilter hook, with what the fixed lines of the chains ask about. -/
structure Skb where
  packet : Packet
  /-- Conntrack has the connection as established or related. -/
  established : Bool
  /-- The input (at the output hook: the output) interface is `lo`. -/
  loopback : Bool
  mark : UInt32
  /-- Owner of the sending socket, for packets sent from here. -/
  skuid : Option UInt32
  skgid : Option UInt32
  /-- Conntrack's original destination port, and whether the packet is of the original direction. -/
  ctOrigDport : UInt16
  ctDirOriginal : Bool

/-- The user and group the proxy runs as. -/
def proxyOwner : UInt32 := 1337

/-- The packet was sent by the proxy: it has the proxy's mark where one is configured, and the
proxy's user or group otherwise. -/
def Skb.sentByProxy (skb : Skb) (proxyMark : Option UInt32) : Bool :=
  match proxyMark with
  | some mark => skb.mark == mark
  | none => skb.skuid == some proxyOwner || skb.skgid == some proxyOwner

/-- The packets the rules are about: new ones, not on loopback and, at the output hook, not sent by
the proxy. -/
structure Skb.Filtered (skb : Skb) (proxyMark : Option UInt32) (direction : Direction) : Prop where
  new : skb.established = false
  remote : skb.loopback = false
  notProxy : direction = .outbound → skb.sentByProxy proxyMark = false

/-- A packet is let through unless a chain rejects it: the hooks' policy is to accept. -/
def actionOf : Option Verdict → RuleAction
  | some .reject => .deny
  | some .accept => .allow
  | none => .allow

/-! ### Dimensions of a match -/

/-- The `is_no_port_restriction` of both backends: no port groups, or the catch-all alone. -/
def FirewallMatch.noPortRestriction (m : FirewallMatch) : Bool :=
  match m.portGroups with
  | [] => true
  | [group] => group.protocol == .nonTcp && group.ports.isEmpty
  | _ => false

/-- Two matches do not both constrain the source, nor both the destination, nor both the ports. -/
structure FirewallMatch.Independent (m m' : FirewallMatch) : Prop where
  source : m.sourceIps = [] ∨ m'.sourceIps = []
  dest : m.destIps = [] ∨ m'.destIps = []
  ports : m.noPortRestriction = true ∨ m'.noPortRestriction = true

/-- No two clauses of the rule constrain the same dimension. -/
def FirewallRule.Independent (rule : FirewallRule) : Prop :=
  rule.clauses.Pairwise fun c c' ↦ ∀ m ∈ c, ∀ m' ∈ c', m.Independent m'

/-- The control plane's promise for a whole rule set. -/
structure RuleSet.Independent (ruleset : RuleSet) : Prop where
  inline : ∀ rule ∈ ruleset.inlineRules, rule.Independent
  workload : ∀ rule ∈ ruleset.rules, rule.Independent

/-! ### What no match of a rule does -/

theorem PortGroup.matchesPacket_of_isTcp (group : PortGroup) {pkt : Packet}
    (h : pkt.isTcp = true) : group.matchesPacket pkt = false := by
  have hproto : pkt.l4proto = L4Proto.tcp := by simpa [Packet.isTcp] using h
  obtain ⟨_ | _ | _ | _, ports⟩ := group
  · simp only [matchesPacket, h, hproto]
    split <;> rfl
  · simp only [matchesPacket, hproto]
    rfl
  · simp only [matchesPacket, hproto]
    rfl
  · simp only [matchesPacket, Packet.isIcmp, Packet.familyIcmp, hproto]
    cases pkt.isIpv4 <;> rfl

/-- Without a port restriction a match asks only that the packet is not TCP. -/
theorem matchesGroups_of_noPortRestriction {m : FirewallMatch}
    (h : m.noPortRestriction = true) (pkt : Packet) :
    matchesGroups m.portGroups pkt = !pkt.isTcp := by
  unfold FirewallMatch.noPortRestriction at h
  split at h
  · next hg => simp [hg, matchesGroups]
  · next group hg =>
    obtain ⟨hproto, hports⟩ := Bool.and_eq_true_iff.1 h
    simp [hg, matchesGroups, PortGroup.matchesPacket, beq_iff_eq.1 hproto,
      List.isEmpty_iff.1 hports]
  · exact absurd h (by simp)

/-- A port restriction lists its groups. -/
theorem matchesGroups_of_portRestriction {m : FirewallMatch}
    (h : m.noPortRestriction = false) (pkt : Packet) :
    matchesGroups m.portGroups pkt = m.portGroups.any (·.matchesPacket pkt) := by
  rw [matchesGroups, if_neg]
  intro hempty
  simp [FirewallMatch.noPortRestriction, List.isEmpty_iff.1 hempty] at h

/-! ### Lines that stand for rules -/

/-- The target of a workload rule. -/
def workloadTarget {χ : Type*} : RuleAction → Target χ
  | .allow => .accept
  | .deny => .reject

/-- The target of an inline rule: an allow leaves the decision to the workload rules. -/
def inlineTarget {χ : Type*} : RuleAction → Target χ
  | .allow => .ret
  | .deny => .reject

theorem workloadTarget_ne_jump {χ : Type*} (a : RuleAction) (c : χ) :
    workloadTarget a ≠ .jump c := by
  cases a <;> simp [workloadTarget]

theorem inlineTarget_ne_jump {χ : Type*} (a : RuleAction) (c : χ) : inlineTarget a ≠ .jump c := by
  cases a <;> simp [inlineTarget]

/-- The rule fires, on packets other than TCP. -/
def fires (rule : FirewallRule) (skb : Skb) : Bool :=
  !skb.packet.isTcp && rule.matchesPacket skb.packet

/-- First match among firing rules, in terms of what the rules mean. -/
theorem firstMatch_fires {χ : Type*} (target : RuleAction → Target χ) (rules : List FirewallRule)
    (skb : Skb) :
    firstMatch fires (fun rule ↦ target rule.action) rules skb =
      if skb.packet.isTcp then none
      else (firstMatch FirewallRule.matchesPacket FirewallRule.action rules skb.packet).map
        target := by
  rcases htcp : skb.packet.isTcp
  · simp only [firstMatch, fires, htcp, Option.map_map]
    rfl
  · exact firstMatch_eq_none fun rule _ ↦ by simp [fires, htcp]

section Lines

variable {ρ χ : Type*} (holds : ρ → Skb → Bool) (target : ρ → Target χ)

/-- The lines all have target `t`, and one of them holds on `skb` iff `b`. -/
structure LinesFor (t : Target χ) (skb : Skb) (b : Bool) (lines : List ρ) : Prop where
  target_eq : ∀ line ∈ lines, target line = t
  any_holds : lines.any (holds · skb) = b

/-- The lines decide `skb` as the rules do, each rule with its target. -/
structure Decides (toTarget : RuleAction → Target χ) (skb : Skb) (rules : List FirewallRule)
    (lines : List ρ) : Prop where
  firstMatch_eq : firstMatch holds target lines skb =
    firstMatch fires (fun rule ↦ toTarget rule.action) rules skb
  no_jump : ∀ line ∈ lines, ∀ c, target line ≠ .jump c

variable {holds target} {toTarget : RuleAction → Target χ} {skb : Skb}

theorem LinesFor.append {t : Target χ} {b b' : Bool} {lines lines' : List ρ}
    (h : LinesFor holds target t skb b lines) (h' : LinesFor holds target t skb b' lines') :
    LinesFor holds target t skb (b || b') (lines ++ lines') where
  target_eq := by
    intro line hline
    rcases List.mem_append.1 hline with hline | hline
    · exact h.target_eq line hline
    · exact h'.target_eq line hline
  any_holds := by rw [List.any_append, h.any_holds, h'.any_holds]

theorem Decides.nil : Decides holds target toTarget skb [] [] := ⟨rfl, by simp⟩

/-- The lines of a rule in front of the lines of the rules behind it. -/
theorem Decides.cons {rule : FirewallRule} {rules : List FirewallRule} {lines rest : List ρ}
    (hjump : ∀ a c, toTarget a ≠ .jump c)
    (hlines : LinesFor holds target (toTarget rule.action) skb (fires rule skb) lines)
    (hrest : Decides holds target toTarget skb rules rest) :
    Decides holds target toTarget skb (rule :: rules) (lines ++ rest) where
  firstMatch_eq := by
    rw [firstMatch_append, firstMatch_const hlines.target_eq, hlines.any_holds, firstMatch_cons,
      hrest.firstMatch_eq]
    split <;> rfl
  no_jump := by
    intro line hline c
    rcases List.mem_append.1 hline with hline | hline
    · rw [hlines.target_eq line hline]
      exact hjump _ c
    · exact hrest.no_jump line hline c

/-- The walk of lines that decide as rules do. -/
theorem Decides.walk_eq {rules : List FirewallRule} {lines : List ρ}
    (h : Decides holds target toTarget skb rules lines) (call : χ → Option Verdict) :
    walk holds target call lines skb =
      if skb.packet.isTcp then .passed
      else ((firstMatch FirewallRule.matchesPacket FirewallRule.action rules skb.packet).map
        fun action ↦ (toTarget action).outcome call).getD .passed := by
  rw [walk_eq_firstMatch h.no_jump, h.firstMatch_eq, firstMatch_fires]
  split
  · rfl
  · rw [Option.map_map]
    rfl

/-- The jump to the inline rules resumes behind it unless one of them denies. -/
theorem walk_inlineJump {inline : χ} {ruleset : RuleSet} {direction : Direction}
    {inlineLines : List ρ} {jump : ρ} {call call' : χ → Option Verdict}
    (hcall : ruleset.inlineRules.isEmpty = false →
      call inline = (walk holds target call' inlineLines skb).verdict?)
    (hjump : holds jump skb = !skb.packet.isTcp ∧ target jump = .jump inline)
    (hinline : Decides holds target inlineTarget skb
      (ordered ruleset.inlineRules direction) inlineLines) :
    walk holds target call (if ruleset.inlineRules.isEmpty then [] else [jump]) skb =
      if skb.packet.isTcp = false ∧
        stageVerdict ruleset.inlineRules direction skb.packet = some .deny
      then .verdict .reject else .passed := by
  rcases hempty : ruleset.inlineRules.isEmpty
  · rw [if_neg (by simp)]
    rcases htcp : skb.packet.isTcp
    · rw [walk_cons_of_holds (by simp [hjump.1, htcp]), hjump.2, Target.outcome, hcall hempty,
        hinline.walk_eq, htcp, stageVerdict]
      rcases firstMatch FirewallRule.matchesPacket FirewallRule.action
        (ordered ruleset.inlineRules direction) skb.packet with - | (_ | _) <;> rfl
    · rw [walk_cons_of_not_holds (by simp [hjump.1, htcp])]
      rfl
  · have hnone : stageVerdict ruleset.inlineRules direction skb.packet = none := by
      rw [List.isEmpty_iff.1 hempty]
      rfl
    simp [hnone]

/-- The default reject at the end of a policy chain. -/
theorem walk_defaultReject {tail : ρ} {call : χ → Option Verdict} (policyAttached : Bool)
    (htail : holds tail skb = !skb.packet.isTcp ∧ target tail = .reject) :
    walk holds target call (if policyAttached then [tail] else []) skb =
      if skb.packet.isTcp = false ∧ policyAttached = true
      then .verdict .reject else .passed := by
  cases policyAttached
  · simp
  rw [if_pos rfl]
  rcases htcp : skb.packet.isTcp
  · rw [walk_cons_of_holds (by simp [htail.1, htcp]), htail.2]
    rfl
  · rw [walk_cons_of_not_holds (by simp [htail.1, htcp])]
    rfl

/-- **The two stages.** A policy chain that exempts packets in front, jumps to a chain of the inline
rules, has the workload rules behind and rejects at its end when a policy is attached decides a
packet that is not exempted as the rule set does. -/
theorem twoStage_decision {chains : χ → List ρ} {policy inline : χ} {ruleset : RuleSet}
    {direction : Direction} {bypass lines inlineLines : List ρ} {jump tail : ρ} (depth : ℕ)
    (hpolicy : chains policy = bypass ++ (if ruleset.inlineRules.isEmpty then [] else [jump]) ++
      lines ++ (if ruleset.policyAttached then [tail] else []))
    (hinline : ruleset.inlineRules.isEmpty = false → chains inline = inlineLines)
    (hbypass : ∀ line ∈ bypass, holds line skb = false)
    (hjump : holds jump skb = !skb.packet.isTcp ∧ target jump = .jump inline)
    (htail : holds tail skb = !skb.packet.isTcp ∧ target tail = .reject)
    (hlines : Decides holds target workloadTarget skb (ordered ruleset.rules direction) lines)
    (hinlineLines : Decides holds target inlineTarget skb
      (ordered ruleset.inlineRules direction) inlineLines) :
    actionOf (chainVerdict holds target chains (depth + 2) policy skb) =
      ruleset.decision direction skb.packet := by
  have hcall : ruleset.inlineRules.isEmpty = false →
      chainVerdict holds target chains (depth + 1) inline skb =
        (walk holds target (fun c ↦ chainVerdict holds target chains depth c skb) inlineLines
          skb).verdict? := by
    intro hne
    rw [chainVerdict, hinline hne]
  rw [chainVerdict, hpolicy, walk_append, walk_append, walk_append, walk_eq_passed hbypass,
    Outcome.passed_andThen, walk_inlineJump hcall hjump hinlineLines, hlines.walk_eq,
    walk_defaultReject ruleset.policyAttached htail, RuleSet.decision]
  rcases htcp : skb.packet.isTcp
  · -- three stages with two or three outcomes each
    simp only [true_and, Bool.false_eq_true, if_false]
    rw [← stageVerdict]
    rcases stageVerdict ruleset.inlineRules direction skb.packet with - | (_ | _) <;>
      rcases stageVerdict ruleset.rules direction skb.packet with - | (_ | _) <;>
      rcases ruleset.policyAttached <;> rfl
  · simp [Outcome.verdict?, actionOf]

end Lines

end Ztunnel.Firewall
