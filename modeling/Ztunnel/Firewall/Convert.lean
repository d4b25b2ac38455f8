import Ztunnel.Rbac.Compile
import Ztunnel.State.ProxyState

/-!
# Resolving the firewall of a workload

`convert.rs`: the rule set of a pod, from the workload that its `WorkloadInfo` names, the policies
bound to it and the inline policy of its first sandbox, together with a hash of what was read. A
caller that passes the hash it applied last gets nothing when the hash is unchanged.

`FirewallInput` is what the hash reads and what the rule set is made of. The hasher of the standard
library is a parameter here, as is the iteration order of its sets.
-/

namespace Ztunnel.Firewall

open Ztunnel.State Ztunnel.Rbac

/-- What `resolve_workload_firewall` hashes. -/
structure FirewallInput where
  workloadUid : Strng
  policies : Policies
  sandbox : Option (Strng × Option TrafficPolicy)
deriving DecidableEq, Repr

/-- The rule set of an input: the workload's policies, and the inline policy as its own stage. -/
def FirewallInput.ruleset (input : FirewallInput) : RuleSet :=
  match input.sandbox.bind (·.2) with
  | some inline =>
    { firewallRulesets input.policies with
      inlineRules := (firewallRulesets [("inline", some inline)]).rules }
  | none => firewallRulesets input.policies

section Resolve

variable {H : Type} [DecidableEq H] (order : Finset Strng → List Strng)

/-- What the state holds for a pod, if its workload is there. -/
def firewallInput (state : ProxyState) (info : WorkloadInfo) : Option FirewallInput :=
  (state.workloads.findByInfo order info).map fun workload ↦
    { workloadUid := workload.uid
      policies := workload.trafficPolicies state.policies
      sandbox := (state.sandboxes.getByWorkload workload.uid).head?.map fun sandbox ↦
        (sandbox.uid, sandbox.trafficPolicy) }

/-- `resolve_workload_firewall`. -/
def resolveWorkloadFirewall (hash : FirewallInput → H) (state : ProxyState) (info : WorkloadInfo)
    (appliedHash : Option H) : Option (RuleSet × H) :=
  (firewallInput order state info).bind fun input ↦
    if appliedHash = some (hash input) then none else some (input.ruleset, hash input)

variable {order} {hash : FirewallInput → H} {state : ProxyState} {info : WorkloadInfo}

/-- A result is the rule set and the hash of the input, which was not the one applied. -/
theorem resolveWorkloadFirewall_eq_some {appliedHash : Option H} {ruleset : RuleSet}
    {policyHash : H} :
    resolveWorkloadFirewall order hash state info appliedHash = some (ruleset, policyHash) ↔
      ∃ input, firewallInput order state info = some input ∧ appliedHash ≠ some (hash input) ∧
        input.ruleset = ruleset ∧ hash input = policyHash := by
  simp only [resolveWorkloadFirewall, Option.bind_eq_some_iff, Option.ite_none_left_eq_some,
    Option.some.injEq, Prod.mk.injEq, ne_eq]

/-- There is no result when the workload is missing or the hash is the applied one. -/
theorem resolveWorkloadFirewall_eq_none {appliedHash : Option H} :
    resolveWorkloadFirewall order hash state info appliedHash = none ↔
      ∀ input, firewallInput order state info = some input →
        appliedHash = some (hash input) := by
  simp only [resolveWorkloadFirewall, Option.bind_eq_none_iff, ite_eq_left_iff, reduceCtorEq,
    imp_false, Decidable.not_not]

end Resolve

end Ztunnel.Firewall
