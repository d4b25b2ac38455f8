import Ztunnel.Xds.NodeIndex
import Ztunnel.Xds.Stores

/-!
# Stored policies are valid

There are three ways into the stores that decisions read: a batch of discovery updates, converted
from the wire; a sandbox with an inline policy, also from the wire; and a local configuration, whose
policies, sandboxes and workloads are deserialised as they are. Each of them checks an entry before
it is inserted, so every entry of every reachable state has passed its check.
-/

namespace Ztunnel.Xds

open Ztunnel.State Ztunnel.Rbac Ztunnel.Sandbox

/-- Every shared policy is valid and stands under a name that is one. -/
def PoliciesValid (resources : Strng → Option TrafficPolicy) : Prop :=
  ∀ name policy, resources name = some policy → (name ≠ "" ∧ name ≠ "*") ∧ policy.Valid

/-- Every inline policy is valid; it has no name but that of its sandbox. -/
def SandboxesValid (resources : Strng → Option Sandbox) : Prop :=
  ∀ uid sandbox, resources uid = some sandbox →
    (uid ≠ "" ∧ uid ≠ "*") ∧ ∀ policy ∈ sandbox.trafficPolicy, policy.Valid

/-- Every workload refers to policies by distinct names that are ones. -/
def WorkloadsValid (byUid : Strng → Option Workload) : Prop :=
  ∀ uid w, byUid uid = some w → w.ReferencesValid

/-! ### One entry -/

theorem PoliciesValid.insert {store : TrafficPolicyStore} (h : PoliciesValid store.resources)
    (name : Strng) {policy : TrafficPolicy} (hvalid : policy.validate = .ok ()) :
    PoliciesValid (store.insert name policy).2.resources := by
  obtain hsame | ⟨hname, heq⟩ := store.insert_cases name policy
  · rwa [hsame]
  · rw [heq]
    refine entries_of_update h fun policy' hpolicy ↦ ?_
    obtain rfl := Option.some.inj hpolicy
    exact ⟨hname, TrafficPolicy.valid_of_validate hvalid⟩

theorem PoliciesValid.after {store : TrafficPolicyStore} (h : PoliciesValid store.resources)
    (u : XdsUpdate XdsTrafficPolicy) : PoliciesValid (policiesAfter store u).resources := by
  cases u with
  | update resource =>
    obtain hsame | ⟨policy, hname, hvalid, heq⟩ :=
      store.update_cases resource.name resource.resource
    · rwa [policiesAfter, hsame]
    · rw [policiesAfter, heq]
      refine entries_of_update h fun policy' hpolicy ↦ ?_
      obtain rfl := Option.some.inj hpolicy
      exact ⟨hname, hvalid⟩
  | remove name => exact entries_of_update h fun _ hnone ↦ by cases hnone

theorem SandboxesValid.insert {store : SandboxStore} (h : SandboxesValid store.resources)
    {sandbox : Sandbox} (hvalid : sandbox.validate = .ok ()) :
    SandboxesValid (store.insert sandbox).2.resources := by
  rw [SandboxStore.insert_resources]
  refine entries_of_update h fun sandbox' hsandbox ↦ ?_
  obtain rfl := Option.some.inj hsandbox
  exact Sandbox.valid_of_validate hvalid

theorem SandboxesValid.remove {store : SandboxStore} (h : SandboxesValid store.resources)
    (name : Strng) : SandboxesValid (store.remove name).2.resources := by
  rw [SandboxStore.remove_resources]
  exact entries_of_update h fun _ hnone ↦ by cases hnone

theorem WorkloadsValid.insert {store : WorkloadStore} (h : WorkloadsValid store.byUid)
    {w : Workload} (hvalid : w.ReferencesValid) : WorkloadsValid (store.insert w).byUid := by
  rw [WorkloadStore.insert_byUid]
  refine entries_of_update h fun w' hw ↦ ?_
  obtain rfl := Option.some.inj hw
  exact hvalid

theorem WorkloadsValid.remove {store : WorkloadStore} (h : WorkloadsValid store.byUid)
    (uid : Strng) : WorkloadsValid (store.remove uid).2.byUid := by
  rw [WorkloadStore.remove_byUid]
  exact entries_of_update h fun _ hnone ↦ by cases hnone

/-! ### Every route -/

/-- What is stored has passed its check. -/
structure StoresValid (state : ProxyState) : Prop where
  policies : PoliciesValid state.policies.resources
  sandboxes : SandboxesValid state.sandboxes.resources
  workloads : WorkloadsValid state.workloads.byUid

theorem storesValid_new (localNode : Option Strng) : StoresValid (.new localNode) where
  policies _ _ h := by simp [ProxyState.new, TrafficPolicyStore.empty] at h
  sandboxes _ _ h := by simp [ProxyState.new, SandboxStore.empty] at h
  workloads _ _ h := by simp [ProxyState.new, WorkloadStore.new] at h

/-- The updates of a batch are converted, and a conversion ends with the check. -/
theorem StoresValid.handle {state : ProxyState} (h : StoresValid state) (decoders : Decoders)
    (batch : Batch) : StoresValid (batch.handle decoders state).2 where
  policies := by
    rw [resources_handle]
    exact Transition.foldl_induction
      (I := fun store : TrafficPolicyStore ↦ PoliciesValid store.resources)
      (Transition.along_true _ _) h.policies fun _ u hstore _ ↦ hstore.after u
  sandboxes :=
    sandboxes_handle_rule (P := fun store ↦ SandboxesValid store.resources) batch
      (fun _ _ hvalid hstore ↦ hstore.insert hvalid) (fun _ name hstore ↦ hstore.remove name)
      h.sandboxes
  workloads :=
    workloads_handle (P := fun store ↦ WorkloadsValid store.byUid) batch
      (fun _ uid hstore ↦ hstore.remove uid)
      (fun _ _ ⟨_, _, htry, _⟩ hstore ↦ hstore.insert (Workload.referencesValid_of_tryFrom htry))
      h.workloads

/-- A local configuration is checked entry by entry before the stores are replaced. -/
theorem StoresValid.loadConfig {localNode : Option Strng} {r : LocalConfig}
    {state state' : ProxyState} (hload : loadConfig localNode r state = .ok state') :
    StoresValid state' := by
  obtain ⟨hpolicies, hsandboxes, hworkloads⟩ := storesValid_new localNode
  simp only [Xds.loadConfig, bind_eq_ok] at hload
  obtain ⟨policies, hp, sandboxes, hs, ⟨workloads, services⟩, hw, hstate⟩ := hload
  obtain rfl := Except.ok.inj hstate
  refine ⟨?_, ?_, ?_⟩
  · show PoliciesValid policies.resources
    exact loadPolicies_rule (P := fun store ↦ PoliciesValid store.resources) hp
      (fun _ name _ hvalid hstore ↦ hstore.insert name hvalid) hpolicies
  · show SandboxesValid sandboxes.resources
    exact loadSandboxes_rule (P := fun store ↦ SandboxesValid store.resources) hs
      (fun _ _ hvalid hstore ↦ hstore.insert hvalid) hsandboxes
  · show WorkloadsValid workloads.byUid
    exact loadWorkloads_rule (P := fun store ↦ WorkloadsValid store.byUid) hw
      (fun _ _ hvalid hstore ↦
        hstore.insert (Workload.referencesValid_of_validatePolicies hvalid)) hworkloads

/-- **Stored policies are valid, whichever way they came.** After any sequence of batches and local
configurations, every shared policy and every inline policy of a sandbox has only port ranges that
are not empty and within the ports, none of them for ICMP; shared policies have names; and the
references of a workload are distinct names. -/
theorem stored_policies_valid {decoders : Decoders} {localNode : Option Strng}
    {state : ProxyState} (hreach : Reachable decoders localNode state) :
    PoliciesValid state.policies.resources ∧ SandboxesValid state.sandboxes.resources ∧
      WorkloadsValid state.workloads.byUid := by
  have hvalid : StoresValid state := by
    induction hreach with
    | new => exact storesValid_new localNode
    | handle batch _ ih => exact ih.handle decoders batch
    | loadConfig r _ hload _ => exact .loadConfig hload
  exact ⟨hvalid.policies, hvalid.sandboxes, hvalid.workloads⟩

/-- A policy that allows some ports in. -/
def webPolicy : XdsTrafficPolicy :=
  ⟨some [⟨0, some ⟨[], [], [⟨1, some 80, some 443⟩]⟩⟩], none⟩

theorem stored_policies_valid_webPolicy :
    let state := (Batch.handle noDecoders (.new none)
      (.trafficPolicies [.update ⟨"web", webPolicy⟩])).2
    (state.policies.resources "web").isSome ∧ PoliciesValid state.policies.resources ∧
      SandboxesValid state.sandboxes.resources ∧ WorkloadsValid state.workloads.byUid :=
  ⟨by decide, stored_policies_valid (.handle _ .new : Reachable noDecoders none _)⟩

end Ztunnel.Xds
