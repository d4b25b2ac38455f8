import Ztunnel.Firewall.Types
import Ztunnel.Rbac.Policy

/-!
# Compiling policies into firewall rules

`firewall_rulesets` of `rbac.rs`: the rules of an ordered stage, numbered through all policies so
that the backends' sorting keeps their order, with the TCP-only rules dropped and an explicit
default deny at the end of each configured direction.

`firewallRulesets_eq_reference` shows that the compiled rule set, evaluated by first match in stable
priority order, computes the reference decision on every packet that is not TCP. The numbering
matters for that: it is an `i32`, and it is in order only as long as it does not wrap around.
-/

namespace Ztunnel.Rbac

open DecisionList Firewall

/-! ### The compiler -/

/-- `n as i32`. -/
def asI32 (n : ℕ) : ℤ := Int.bmod n (2 ^ 32)

/-- `i32::MAX`. -/
def i32Max : ℤ := 2 ^ 31 - 1

/-- The action of a compiled rule. -/
def ruleAction : Action → RuleAction
  | .allow => .allow
  | .deny => .deny

/-- The direction that a compiled rule's direction takes its body from. -/
def policyDirection : Firewall.Direction → Direction
  | .inbound => .inbound
  | .outbound => .outbound

/-- The body of a policy for a firewall direction. -/
def TrafficPolicy.body (policy : TrafficPolicy) : Firewall.Direction → Option RuleSet
  | .inbound => policy.ingress
  | .outbound => policy.egress

/-- The port group of a port entry; TCP entries have none. -/
def portGroup (port : PortMatch) : Option PortGroup :=
  match port.protocol with
  | .all => some ⟨.nonTcp, port.range.toList⟩
  | .udp => some ⟨.udp, port.range.toList⟩
  | .icmp => some ⟨.icmp, port.range.toList⟩
  | .sctp => some ⟨.sctp, port.range.toList⟩
  | .tcp => none

/-- The rule that is pushed for a rule of a body. -/
def emitRule (name : String) (direction : Firewall.Direction) (offset : ℕ) (p : Rule × ℕ) :
    FirewallRule where
  name := s!"{name}/rule-{p.2}"
  action := ruleAction p.1.action
  direction := direction
  priority := asI32 (offset + p.2)
  clauses := [[{
    sourceIps := p.1.sourceIps
    destIps := p.1.destinationIps
    portGroups := p.1.ports.filterMap portGroup }]]

/-- One rule of a body. A rule with port entries of which none is left after dropping TCP is not
emitted. -/
def compileRule (name : String) (direction : Firewall.Direction) (offset : ℕ) (p : Rule × ℕ) :
    Option FirewallRule :=
  if !p.1.ports.isEmpty && (p.1.ports.filterMap portGroup).isEmpty then none
  else some (emitRule name direction offset p)

/-- The loop over the policies for one direction, with its flag and its offset. -/
def compileLoop (direction : Firewall.Direction) :
    Bool → ℕ → Policies → Bool × List FirewallRule
  | configured, _, [] => (configured, [])
  | configured, offset, (name, policy) :: policies =>
    match policy.bind (·.body direction) with
    | none => compileLoop direction configured offset policies
    | some body =>
      let rest := compileLoop direction true (offset + body.rules.length) policies
      (rest.1, body.rules.zipIdx.filterMap (compileRule name direction offset) ++ rest.2)

/-- The rule that closes a configured direction. -/
def defaultDeny (name : String) (direction : Firewall.Direction) : FirewallRule where
  name := name
  action := .deny
  direction := direction
  priority := i32Max
  clauses := [[{ sourceIps := [], destIps := [], portGroups := [⟨.nonTcp, []⟩] }]]

/-- The rules of one direction. An unresolved reference leaves its default deny only. -/
def compileDirection (policies : Policies) (direction : Firewall.Direction) : List FirewallRule :=
  match policies.find? fun p ↦ p.2.isNone with
  | some (name, _) => [defaultDeny s!"{name}/policy-unavailable" direction]
  | none =>
    let (configured, rules) := compileLoop direction false 0 policies
    if configured then rules ++ [defaultDeny "DEFAULT-DENY" direction] else rules

/-- `firewall_rulesets`. -/
def firewallRulesets (policies : Policies) : Firewall.RuleSet where
  rules := compileDirection policies .inbound ++ compileDirection policies .outbound
  inlineRules := []
  policyAttached := false

/-! ### A compiled rule holds where its source does -/

variable {pkt : Packet} {direction : Firewall.Direction} {offset : ℕ} {p : Rule × ℕ}
  {fr : FirewallRule}

/-- Away from TCP an entry's port group holds where the entry does, and an entry without one holds
nowhere. -/
theorem matchesPacket_portGroup (h : pkt.isTcp = false) (port : PortMatch) :
    (portGroup port).any (·.matchesPacket pkt) = port.matchesPacket pkt := by
  have htcp : (pkt.l4proto == L4Proto.tcp) = false := h
  obtain ⟨protocol, range⟩ := port
  cases protocol <;> cases range <;>
    simp [portGroup, PortMatch.matchesPacket, PortGroup.matchesPacket, matchesPorts,
      Packet.hasPort, h, htcp]

theorem any_filterMap_portGroup (h : pkt.isTcp = false) (ports : List PortMatch) :
    (ports.filterMap portGroup).any (·.matchesPacket pkt) = ports.any (·.matchesPacket pkt) := by
  induction ports with
  | nil => rfl
  | cons port ports ih =>
    rw [List.any_cons, ← ih, ← matchesPacket_portGroup h port, List.filterMap_cons]
    cases portGroup port <;> simp

/-- A rule that the compiler drops holds on no packet but TCP. -/
theorem matchesPacket_of_compileRule_none (h : pkt.isTcp = false) {name : String}
    (hp : compileRule name direction offset p = none) : p.1.matchesPacket pkt = false := by
  simp only [compileRule, ite_eq_left_iff, reduceCtorEq, imp_false, Decidable.not_not,
    Bool.and_eq_true, Bool.not_eq_true'] at hp
  obtain ⟨hports, hgroups⟩ := hp
  have hany := any_filterMap_portGroup h p.1.ports
  rw [List.isEmpty_iff.1 hgroups, List.any_nil] at hany
  rw [Rule.matchesPacket, ← hany, hports, Bool.or_self, Bool.and_false]

/-- What a kept rule compiles to, and why it was kept. -/
theorem compileRule_eq_some {name : String} (hp : compileRule name direction offset p = some fr) :
    fr = emitRule name direction offset p ∧
      (p.1.ports.isEmpty = false → (p.1.ports.filterMap portGroup).isEmpty = false) := by
  rw [compileRule] at hp
  obtain ⟨hkept, hfr⟩ := Option.ite_none_left_eq_some.1 hp
  rw [Bool.and_eq_true, not_and, Bool.not_eq_true', Bool.not_eq_true] at hkept
  exact ⟨(Option.some.inj hfr).symm, hkept⟩

theorem matchesPacket_of_compileRule_some (h : pkt.isTcp = false) {name : String}
    (hp : compileRule name direction offset p = some fr) :
    fr.matchesPacket pkt = p.1.matchesPacket pkt := by
  obtain ⟨rfl, hkept⟩ := compileRule_eq_some hp
  have hgroups : matchesGroups (p.1.ports.filterMap portGroup) pkt =
      (p.1.ports.isEmpty || p.1.ports.any (·.matchesPacket pkt)) := by
    rw [matchesGroups, any_filterMap_portGroup h]
    cases hports : p.1.ports.isEmpty
    · rw [hkept hports]; rfl
    · rw [List.isEmpty_iff.1 hports]; simp [h]
  simp [emitRule, FirewallRule.matchesPacket, FirewallMatch.matchesPacket, Rule.matchesPacket,
    hgroups]

/-- **One body.** First match in the compiled rules is first match in the body's rules. -/
theorem firstMatch_compileRule (h : pkt.isTcp = false) (name : String)
    (direction : Firewall.Direction) (offset n : ℕ) (rules : List Rule) :
    firstMatch FirewallRule.matchesPacket FirewallRule.action
        ((rules.zipIdx n).filterMap (compileRule name direction offset)) pkt =
      (firstMatch Rule.matchesPacket Rule.action rules pkt).map ruleAction := by
  induction rules generalizing n with
  | nil => rfl
  | cons rule rules ih =>
    rw [List.zipIdx_cons, List.filterMap_cons, firstMatch_cons]
    cases hp : compileRule name direction offset (rule, n) with
    | none =>
      have hrule := matchesPacket_of_compileRule_none h hp
      simp only [hrule, ih (n + 1), Bool.false_eq_true, if_false]
    | some fr =>
      obtain ⟨hfr, -⟩ := compileRule_eq_some hp
      rw [firstMatch_cons, matchesPacket_of_compileRule_some h hp, ih (n + 1), hfr]
      cases rule.matchesPacket pkt <;> rfl

/-! ### One direction -/

theorem body_eq_rulesFor (policy : TrafficPolicy) (direction : Firewall.Direction) :
    policy.body direction = policy.rulesFor (policyDirection direction) := by
  cases direction <;> rfl

theorem bind_body_eq (policy : Option TrafficPolicy) (direction : Firewall.Direction) :
    policy.bind (·.body direction) = policy.bind (·.rulesFor (policyDirection direction)) := by
  simp only [body_eq_rulesFor]

/-- **The loop, with its accumulators.** Its flag says whether the direction was or is configured,
and its rules decide by first match as the remaining policies' rules do. -/
theorem compileLoop_spec (h : pkt.isTcp = false) (direction : Firewall.Direction)
    (policies : Policies) (configured : Bool) (offset : ℕ) :
    (compileLoop direction configured offset policies).1 =
        (configured || configures policies (policyDirection direction)) ∧
      firstMatch FirewallRule.matchesPacket FirewallRule.action
          (compileLoop direction configured offset policies).2 pkt =
        (firstMatch Rule.matchesPacket Rule.action
          (stageRules policies (policyDirection direction)) pkt).map ruleAction := by
  induction policies generalizing configured offset with
  | nil => exact ⟨(Bool.or_false configured).symm, rfl⟩
  | cons p policies ih =>
    obtain ⟨name, policy⟩ := p
    rw [compileLoop, stageRules_cons, configures_cons, firstMatch_append, bind_body_eq]
    cases policy.bind (·.rulesFor (policyDirection direction)) with
    | none => simpa using ih configured offset
    | some body =>
      obtain ⟨ihflag, ihrules⟩ := ih true (offset + body.rules.length)
      refine ⟨by simpa using ihflag, ?_⟩
      simp only [Option.map_some, Option.getD_some]
      rw [firstMatch_append, firstMatch_compileRule h, ihrules]
      cases firstMatch Rule.matchesPacket Rule.action body.rules pkt <;> rfl

/-- Every rule of the loop has the loop's direction, and a number from the running offset on. -/
theorem mem_compileLoop {configured : Bool} {policies : Policies}
    (hfr : fr ∈ (compileLoop direction configured offset policies).2) :
    fr.direction = direction ∧ ∃ n, offset ≤ n ∧
      n < offset + (stageRules policies (policyDirection direction)).length ∧
        fr.priority = asI32 n := by
  induction policies generalizing configured offset with
  | nil => simp [compileLoop] at hfr
  | cons p policies ih =>
    obtain ⟨name, policy⟩ := p
    rw [compileLoop, bind_body_eq] at hfr
    rw [stageRules_cons, List.length_append]
    cases hrules : policy.bind (·.rulesFor (policyDirection direction)) with
    | none =>
      rw [hrules] at hfr
      simpa using ih hfr
    | some body =>
      rw [hrules] at hfr
      simp only [Option.map_some, Option.getD_some]
      rcases List.mem_append.1 hfr with hfr | hfr
      · obtain ⟨⟨rule, index⟩, hmem, hp⟩ := List.mem_filterMap.1 hfr
        obtain ⟨rfl, -⟩ := compileRule_eq_some hp
        have hindex : index < body.rules.length := List.snd_lt_of_mem_zipIdx hmem
        refine ⟨rfl, offset + index, by omega, by omega, ?_⟩
        simp only [emitRule]
      · obtain ⟨hdir, n, hle, hlt, hprio⟩ := ih hfr
        exact ⟨hdir, n, by omega, by omega, hprio⟩

/-- Below the bound the numbering does not wrap around. -/
theorem asI32_of_lt {n : ℕ} (h : n < 2 ^ 31) : asI32 n = n := by
  unfold asI32
  exact Int.bmod_eq_of_le (by omega) (by omega)

/-- **The numbering is in order** as long as it does not wrap around. -/
theorem compileLoop_pairwise (direction : Firewall.Direction) (policies : Policies)
    (configured : Bool) (offset : ℕ)
    (hlen : offset + (stageRules policies (policyDirection direction)).length < 2 ^ 31) :
    (compileLoop direction configured offset policies).2.Pairwise
      (KeyLe FirewallRule.priority) := by
  induction policies generalizing configured offset with
  | nil => exact List.Pairwise.nil
  | cons p policies ih =>
    obtain ⟨name, policy⟩ := p
    rw [stageRules_cons, List.length_append] at hlen
    rw [compileLoop, bind_body_eq]
    cases hrules : policy.bind (·.rulesFor (policyDirection direction)) with
    | none => exact ih configured offset (by omega)
    | some body =>
      rw [hrules] at hlen
      simp only [Option.map_some, Option.getD_some] at hlen
      refine List.pairwise_append.2 ⟨?_, ih true _ (by omega), ?_⟩
      · -- inside a body the numbers follow the enumeration
        have henum : body.rules.zipIdx.Pairwise fun p q ↦ p.2 < q.2 := by
          refine List.pairwise_map.1 ?_
          rw [List.zipIdx_map_snd]
          exact List.pairwise_lt_range'
        refine List.pairwise_filterMap.2 (henum.imp_of_mem ?_)
        intro p q hp hq hlt fr hfr fr' hfr'
        obtain ⟨rfl, -⟩ := compileRule_eq_some hfr
        obtain ⟨rfl, -⟩ := compileRule_eq_some hfr'
        have hq' : q.2 < body.rules.length := List.snd_lt_of_mem_zipIdx hq
        simp only [KeyLe, emitRule]
        rw [asI32_of_lt (by omega), asI32_of_lt (by omega)]
        omega
      · -- a later body starts where this one ends
        intro fr hfr fr' hfr'
        obtain ⟨⟨rule, index⟩, hmem, hp⟩ := List.mem_filterMap.1 hfr
        obtain ⟨rfl, -⟩ := compileRule_eq_some hp
        obtain ⟨-, n, hle, hlt, hprio⟩ := mem_compileLoop hfr'
        have hindex : index < body.rules.length := List.snd_lt_of_mem_zipIdx hmem
        simp only [KeyLe, emitRule, hprio]
        rw [asI32_of_lt (by omega), asI32_of_lt (by omega)]
        omega

/-! ### The compiled rule set -/

theorem mem_compileDirection {policies : Policies}
    (hfr : fr ∈ compileDirection policies direction) : fr.direction = direction := by
  rw [compileDirection] at hfr
  split at hfr
  · rw [List.mem_singleton.1 hfr]; rfl
  · simp only at hfr
    split at hfr
    · rcases List.mem_append.1 hfr with hfr | hfr
      · exact (mem_compileLoop hfr).1
      · rw [List.mem_singleton.1 hfr]; rfl
    · exact (mem_compileLoop hfr).1

theorem compileDirection_pairwise (policies : Policies) (direction : Firewall.Direction)
    (hlen : (stageRules policies (policyDirection direction)).length < 2 ^ 31) :
    (compileDirection policies direction).Pairwise (KeyLe FirewallRule.priority) := by
  rw [compileDirection]
  split
  · exact List.pairwise_singleton _ _
  · have hloop := compileLoop_pairwise direction policies false 0 (by omega)
    simp only
    split
    · refine List.pairwise_append.2 ⟨hloop, List.pairwise_singleton _ _, ?_⟩
      -- the default deny has the largest number there is
      intro fr hfr fr' hfr'
      obtain ⟨-, n, -, hlt, hprio⟩ := mem_compileLoop hfr
      rw [List.mem_singleton.1 hfr']
      simp only [KeyLe, defaultDeny, i32Max, hprio]
      rw [asI32_of_lt (by omega)]
      omega
    · exact hloop

/-- The rules that the backends see for a direction are the ones compiled for it, in their order. -/
theorem ordered_firewallRulesets (policies : Policies) (direction : Firewall.Direction)
    (hlen : (stageRules policies (policyDirection direction)).length < 2 ^ 31) :
    ordered (firewallRulesets policies).rules direction = compileDirection policies direction := by
  have hkeep : ∀ d, (compileDirection policies d).filter (·.direction == direction) =
      if d = direction then compileDirection policies direction else [] := by
    intro d
    split
    · next heq =>
      subst heq
      exact List.filter_eq_self.2 fun fr hfr ↦ by simp [mem_compileDirection hfr]
    · next hne =>
      exact List.filter_eq_nil_iff.2 fun fr hfr ↦ by simp [mem_compileDirection hfr, hne]
  have hfilter : (firewallRulesets policies).rules.filter (·.direction == direction) =
      compileDirection policies direction := by
    rw [firewallRulesets, List.filter_append, hkeep, hkeep]
    cases direction <;> simp
  rw [ordered, hfilter, sortByKey_eq_self (compileDirection_pairwise policies direction hlen)]

theorem defaultDeny_matchesPacket {pkt : Packet} (h : pkt.isTcp = false) (name : String)
    (direction : Firewall.Direction) : (defaultDeny name direction).matchesPacket pkt = true := by
  simp [defaultDeny, FirewallRule.matchesPacket, FirewallMatch.matchesPacket, matchesIps,
    matchesGroups, PortGroup.matchesPacket, h]

/-- First match in the rules of a direction decides as the reference does, an undecided packet being
let through. -/
theorem firstMatch_compileDirection {pkt : Packet} (h : pkt.isTcp = false) (policies : Policies)
    (direction : Firewall.Direction) :
    (firstMatch FirewallRule.matchesPacket FirewallRule.action
        (compileDirection policies direction) pkt).getD .allow =
      ruleAction (referenceDecision policies (policyDirection direction) pkt) := by
  rw [compileDirection, referenceDecision, unresolved, ← List.isSome_find?]
  cases policies.find? fun p ↦ p.2.isNone with
  | some p =>
    rw [firstMatch_cons, defaultDeny_matchesPacket h]
    rfl
  | none =>
    obtain ⟨hflag, hrules⟩ := compileLoop_spec h direction policies false 0
    rw [Bool.false_or] at hflag
    simp only [hflag, Option.isSome_none, Bool.false_eq_true, if_false]
    cases configures policies (policyDirection direction)
    · simp only [Bool.false_eq_true, if_false, hrules]
      cases firstMatch Rule.matchesPacket Rule.action
        (stageRules policies (policyDirection direction)) pkt <;> rfl
    · rw [if_pos rfl, firstMatch_append, hrules, firstMatch_cons, defaultDeny_matchesPacket h]
      cases firstMatch Rule.matchesPacket Rule.action
        (stageRules policies (policyDirection direction)) pkt <;> rfl

/-- **The compiled rule set computes the reference decision** on every packet that is not TCP. -/
theorem firewallRulesets_eq_reference {pkt : Packet} (h : pkt.isTcp = false) (policies : Policies)
    (direction : Firewall.Direction)
    (hlen : (stageRules policies (policyDirection direction)).length < 2 ^ 31) :
    (firewallRulesets policies).decision direction pkt =
      ruleAction (referenceDecision policies (policyDirection direction) pkt) := by
  rw [← firstMatch_compileDirection h, ← ordered_firewallRulesets policies direction hlen,
    RuleSet.decision, h]
  rfl

/-! ### Both evaluators -/

/-- The number of rules in a direction of a reference. -/
def ruleCount (direction : Direction) (policy : Option TrafficPolicy) : ℕ :=
  (((policy.bind (·.rulesFor direction)).map RuleSet.rules).getD []).length

/-- The number of rules of a stage, over both directions. -/
def totalRules (policies : Policies) : ℕ :=
  (policies.map fun p ↦ ruleCount .inbound p.2 + ruleCount .outbound p.2).sum

theorem length_stageRules_le (policies : Policies) (direction : Direction) :
    (stageRules policies direction).length ≤ totalRules policies := by
  induction policies with
  | nil => rfl
  | cons p policies ih =>
    obtain ⟨name, policy⟩ := p
    have hhead : ruleCount direction policy ≤
        ruleCount .inbound policy + ruleCount .outbound policy := by
      cases direction <;> omega
    rw [stageRules_cons, List.length_append, totalRules, List.map_cons, List.sum_cons]
    exact Nat.add_le_add hhead ih

/-- **One decision on both paths.** Whatever the references of a stage, a TCP packet is decided in
userspace and any other packet in the firewall exactly as the reference decision says. -/
theorem tcp_path_and_firewall_eq_reference (policies : Policies)
    (hlen : totalRules policies < 2 ^ 31 - 1) (direction : Firewall.Direction) (pkt : Packet) :
    (∀ conn : Connection, conn.Carries pkt → conn.direction = policyDirection direction →
      decisionOf (assertPolicies policies conn) =
        referenceDecision policies (policyDirection direction) pkt) ∧
    (pkt.isTcp = false →
      (firewallRulesets policies).decision direction pkt =
        ruleAction (referenceDecision policies (policyDirection direction) pkt)) := by
  constructor
  · intro conn hconn hdir
    rw [assertPolicies_eq_reference hconn, hdir]
  · intro hpkt
    have hle := length_stageRules_le policies (policyDirection direction)
    exact firewallRulesets_eq_reference hpkt policies direction (by omega)

/-- A stage that denies DNS over UDP from one network, allows everything else that comes in, and
does not configure the other direction. -/
def dnsStage : Policies :=
  [("base", some ⟨none, none⟩),
   ("dns", some ⟨some ⟨[
      ⟨.deny, [.v4 0x0a000000#32 8], [], [⟨.tcp, none⟩, ⟨.udp, some ⟨53, 53⟩⟩]⟩,
      ⟨.allow, [], [], []⟩]⟩, none⟩)]

/-- A packet from that network to UDP port 53. -/
def dnsPacket : Packet where
  src := .v4 0x0a010203#32
  dst := .v4 0x0a000001#32
  sameFamily := rfl
  l4proto := L4Proto.udp
  dport := 53

theorem tcp_path_and_firewall_eq_reference_dnsStage :
    totalRules dnsStage < 2 ^ 31 - 1 ∧ dnsPacket.isTcp = false ∧
      (firewallRulesets dnsStage).decision .inbound dnsPacket = .deny := by
  have hlen : totalRules dnsStage < 2 ^ 31 - 1 := by decide
  have hpkt : dnsPacket.isTcp = false := by decide
  refine ⟨hlen, hpkt, ?_⟩
  rw [(tcp_path_and_firewall_eq_reference dnsStage hlen .inbound dnsPacket).2 hpkt]
  decide

end Ztunnel.Rbac
