import Ztunnel.Firewall.IptCorrect
import Ztunnel.Firewall.NoLostUpdate
import Ztunnel.Proxy.InlineGate

/-!
# The policies of a pod, enforced

From the resources that arrive to the packets that pass: the controller turns what the state holds
for a pod into rules, and the script of the rules applied last decides every packet but TCP as the
policies in the state do, with either backend (`enforced_of_quiescent`). So does `assert_rbac` for
TCP (`assertRbac_eq_reference`).

The backends assume that no two clauses of a rule constrain the same dimension. Compiled rules have
one clause each.
-/

namespace Ztunnel.Firewall

open Ztunnel.Rbac Ztunnel.State Ztunnel.Xds Ztunnel.Proxy Transition

/-- The stage of the inline policy. -/
def FirewallInput.inline (input : FirewallInput) : Policies :=
  (input.sandbox.bind (·.2)).toList.map fun policy ↦ ("inline", some policy)

/-- What the policies say: the inline policy can deny, and the bound ones decide the rest. -/
def FirewallInput.reference (input : FirewallInput) (direction : Rbac.Direction) (pkt : Packet) :
    Action :=
  if referenceDecision input.inline direction pkt = .deny then .deny
  else referenceDecision input.policies direction pkt

variable {policies : Policies} {direction : Direction} {rule : FirewallRule}
  {input : FirewallInput} {pkt : Packet}

/-! ### The rules of an input -/

theorem independent_of_mem_compileLoop {configured : Bool} {offset : ℕ}
    (h : rule ∈ (compileLoop direction configured offset policies).2) : rule.Independent := by
  induction policies generalizing configured offset with
  | nil => cases h
  | cons p policies ih =>
    rw [compileLoop] at h
    split at h
    · exact ih h
    · rcases List.mem_append.1 h with h | h
      · obtain ⟨p, -, hp⟩ := List.mem_filterMap.1 h
        rw [(compileRule_eq_some hp).1]
        exact List.pairwise_singleton _ _
      · exact ih h

theorem independent_of_mem_compileDirection (h : rule ∈ compileDirection policies direction) :
    rule.Independent := by
  have hdeny : ∀ name, rule ∈ [defaultDeny name direction] → rule.Independent := fun _ h ↦
    List.mem_singleton.1 h ▸ List.pairwise_singleton _ _
  rw [compileDirection] at h
  split at h
  · exact hdeny _ h
  · dsimp only at h
    split at h
    · exact (List.mem_append.1 h).elim independent_of_mem_compileLoop (hdeny _)
    · exact independent_of_mem_compileLoop h

theorem independent_of_mem_firewallRulesets (h : rule ∈ (firewallRulesets policies).rules) :
    rule.Independent :=
  (List.mem_append.1 h).elim independent_of_mem_compileDirection
    independent_of_mem_compileDirection

theorem FirewallInput.ruleset_eq (input : FirewallInput) :
    input.ruleset =
      { firewallRulesets input.policies with
        inlineRules := (firewallRulesets input.inline).rules } := by
  rw [ruleset, inline]
  split <;> next h => rw [h]; rfl

theorem FirewallInput.independent_ruleset (input : FirewallInput) : input.ruleset.Independent := by
  rw [ruleset_eq]
  exact ⟨fun _ ↦ independent_of_mem_firewallRulesets, fun _ ↦ independent_of_mem_firewallRulesets⟩

theorem stageVerdict_firewallRulesets (direction : Direction) (h : pkt.isTcp = false)
    (hlen : totalRules policies < 2 ^ 31) :
    (stageVerdict (firewallRulesets policies).rules direction pkt).getD .allow =
      ruleAction (referenceDecision policies (policyDirection direction) pkt) := by
  rw [stageVerdict, ordered_firewallRulesets, firstMatch_compileDirection h]
  exact (length_stageRules_le policies _).trans_lt hlen

/-- The rule set of an input decides as its policies do. -/
theorem FirewallInput.decision_ruleset (h : pkt.isTcp = false)
    (hinline : totalRules input.inline < 2 ^ 31) (hlen : totalRules input.policies < 2 ^ 31) :
    input.ruleset.decision direction pkt =
      ruleAction (input.reference (policyDirection direction) pkt) := by
  have hfirst := stageVerdict_firewallRulesets direction h hinline
  have hsecond := stageVerdict_firewallRulesets direction h hlen
  have hdeny : stageVerdict (firewallRulesets input.inline).rules direction pkt = some .deny ↔
      referenceDecision input.inline (policyDirection direction) pkt = .deny := by
    generalize stageVerdict (firewallRulesets input.inline).rules direction pkt = v at hfirst ⊢
    generalize referenceDecision input.inline (policyDirection direction) pkt = action at hfirst ⊢
    rcases v with - | (_ | _) <;> cases action <;> simp_all [ruleAction]
  rw [ruleset_eq, RuleSet.decision_eq, h, reference]
  simp only [hdeny, Bool.false_eq_true, if_false]
  split
  · rfl
  · exact hsecond

/-! ### Whole runs -/

/-- **Policies are enforced.** In every quiescent state of a run with backends that succeed and pods
in namespaces of their own, the namespace of a registered pod whose workload is present has rules,
and their script decides every filtered packet that is not TCP as the inline policy and the bound
policies of the current state do: that of nftables but for the ICMP of the other family, and that of
iptables for IPv4. -/
theorem enforced_of_quiescent {σ U H : Type} [DecidableEq H] [Zero H] (feed : FirewallFeed σ U)
    (hash : FirewallInput → H) (hhash : Function.Injective hash) (source : σ)
    {events : List (FirewallSystemEvent U)} {final : FirewallSystem σ H}
    (hrun : run (restrict FirewallSystem.SoundStep (feed.step hash)) (feed.start source) events =
      some final)
    (hquiescent : final.controller.Quiescent (feed.state final.source)) {uid : Strng}
    {ps : PodFirewallState H} (hps : final.controller.pods.lookup uid = some ps)
    {order : WorkloadStore.IterationOrder}
    (hinput : firewallInput order.1 (feed.state final.source) ps.workloadInfo = some input)
    (hinline : totalRules input.inline < 2 ^ 31) (hlen : totalRules input.policies < 2 ^ 31) :
    ∃ ruleset, final.controller.applied ps.netns = some ruleset ∧
      ∀ direction skb, skb.packet.isTcp = false →
        let action := ruleAction (input.reference (policyDirection direction) skb.packet)
        (∀ backend : Nft.NftBackend, skb.Filtered backend.proxyMark direction →
          skb.packet.isForeignIcmp = false →
          (backend.script ruleset).decision direction skb = action) ∧
        ∀ (backend : Ipt.IptBackend) table, backend.dnsProxy = false →
          skb.Filtered backend.proxyMark direction → skb.packet.isIpv4 = true →
          Ipt.Table.decision (Ipt.restore table (backend.script ruleset)) direction skb =
            action := by
  have htracked := feed.tracked_run order hash source hrun
  refine ⟨_, (htracked.applied_of_quiescent hhash hquiescent hps hinput).2, ?_⟩
  intro direction skb htcp
  have hindependent := input.independent_ruleset
  rw [← input.decision_ruleset htcp hinline hlen]
  refine ⟨fun backend hfiltered hicmp ↦ ?_, fun backend table hdns hfiltered h4 ↦ ?_⟩
  · exact Nft.decision_script hfiltered ⟨hindependent.workload, .inl hicmp⟩
      ⟨hindependent.inline, .inl hicmp⟩
  · exact Ipt.decision_restore table hdns hindependent hfiltered h4

/-- When the binding of the pod has been taken away, everything that comes in is rejected. -/
theorem enforced_of_quiescent_deniedRun :
    ∃ final, run (restrict FirewallSystem.SoundStep (podFeed.step InputHash.of))
        (podFeed.start podSource) deniedRun = some final ∧
      ∃ ruleset, final.controller.applied 1 = some ruleset ∧
        ∀ (backend : Nft.NftBackend) skb, skb.Filtered backend.proxyMark .inbound →
          skb.packet.isTcp = false → skb.packet.isForeignIcmp = false →
          (backend.script ruleset).decision .inbound skb = .deny := by
  refine exists_run (fun final ↦ final.controller.Quiescent final.source.1 ∧
    ∃ ps ∈ final.controller.pods.lookup "a", ps.netns = 1 ∧
      firewallInput sortedUids.1 final.source.1 ps.workloadInfo =
        some ⟨"a", [("workload-binding", none)], none⟩) (by decide) ?_
  rintro final hfinal ⟨hquiescent, ps, hps, hnetns, hinput⟩
  obtain ⟨ruleset, happlied, hdecision⟩ := enforced_of_quiescent podFeed InputHash.of
    (fun _ _ ↦ InputHash.of.inj) podSource hfinal hquiescent hps hinput (by decide) (by decide)
  exact ⟨ruleset, hnetns ▸ happlied,
    fun backend skb hfiltered htcp ↦ (hdecision .inbound skb htcp).1 backend hfiltered⟩

/-! ### Connections -/

/-- **TCP is decided by the same policies.** In every reachable state `assert_rbac` decides a new
connection of a pod, inbound or outbound without a sandbox manager, as the policies in the input of
its firewall do. -/
theorem assertRbac_eq_reference {decoders : Decoders} {localNode : Option Strng}
    {state : ProxyState} (hreach : Reachable decoders localNode state)
    {order : Finset Strng → List Strng} {info : WorkloadInfo}
    {manager : Option Sandbox.Registration.SandboxManager} {conn : Connection}
    {ctx : ProxyRbacContext} (hctx : newContext order state info manager conn = some ctx)
    (hmanager : conn.direction = .outbound → manager = none)
    (hinput : firewallInput order state info = some input) (hcarries : conn.Carries pkt) :
    decisionOf (assertRbac state ctx) = input.reference conn.direction pkt := by
  obtain ⟨workload, hinfo, hpolicies⟩ := Option.map_eq_some_iff.1 hinput
  obtain rfl : ⟨conn, workload, fetchSandbox state workload⟩ = ctx := by
    rw [newContext, hinfo] at hctx
    rcases hdirection : conn.direction
    · simpa [hdirection] using hctx
    · obtain rfl := hmanager hdirection
      simpa [hdirection, sandboxForConnection, hinfo, Except.toOption] using hctx
  have hw := findUid_of_findByInfo hreach hinfo
  obtain ⟨found, hfound, hassert⟩ := assertRbac_of_tcpGate (tcpGate_of_fetched hreach hw)
  obtain rfl : workload = found := Option.some.inj (hw.symm.trans hfound)
  have hgate := firewallGate_of_findByInfo hinfo
  rw [firewallGate, hinput] at hgate
  have hinline : input.sandbox.bind (·.2) = (fetchSandbox state workload).bind (·.trafficPolicy) :=
    Option.some.inj hgate
  rw [hassert, FirewallInput.reference, FirewallInput.inline, hinline, ← hpolicies,
    ← assertPolicies_eq_reference hcarries, ← assertPolicies_eq_reference hcarries]
  rcases (fetchSandbox state workload).bind (·.trafficPolicy) with - | inline
  · rfl
  · show decisionOf (assertPolicies [("inline", some inline)] conn >>= _) =
      if decisionOf (assertPolicies [("inline", some inline)] conn) = .deny then .deny else _
    cases assertPolicies [("inline", some inline)] conn <;> rfl

theorem assertRbac_eq_reference_twoSandboxes :
    let info : WorkloadInfo := ⟨"pod", "ns", "default"⟩
    ∃ ctx input, newContext podOrder twoSandboxes info none podContext.conn = some ctx ∧
      firewallInput podOrder twoSandboxes info = some input ∧
      decisionOf (assertRbac twoSandboxes ctx) =
        input.reference .inbound ⟨.v4 0x0a000002, .v4 0x0a000001, rfl, .tcp, 8080⟩ := by
  intro info
  obtain ⟨ctx, hctx⟩ : ∃ ctx, newContext podOrder twoSandboxes info none podContext.conn =
    some ctx := ⟨_, rfl⟩
  obtain ⟨input, hinput⟩ : ∃ input, firewallInput podOrder twoSandboxes info = some input :=
    ⟨_, rfl⟩
  exact ⟨ctx, input, hctx, hinput, assertRbac_eq_reference reachable_twoSandboxes hctx
    (fun _ ↦ rfl) hinput ⟨rfl, rfl, rfl, rfl⟩⟩

end Ztunnel.Firewall
