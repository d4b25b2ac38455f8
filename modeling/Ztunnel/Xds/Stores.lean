import Ztunnel.Lib.Transition
import Ztunnel.Xds.Notification

/-!
# What a batch does to one store

A batch changes the sandboxes or the shared policies only if it is one for their handler, and then
it is a fold over the store alone: `sandboxes_handle` and `resources_handle`. With the rules for a
local configuration (`loadPolicies_rule`, `loadSandboxes_rule`, `loadWorkloads_rule`) and the one
for the workloads of a batch, they carry what holds of a store along every route.
-/

namespace Ztunnel.Xds

open Ztunnel.State Ztunnel.Rbac Ztunnel.Sandbox

/-! ### Sandboxes -/

/-- One update of the handler of sandboxes, on their store alone. -/
def sandboxesAfter (store : SandboxStore) : XdsUpdate XdsSandbox → SandboxStore
  | .update resource => (store.update resource.name resource.resource).2
  | .remove name => (store.remove name).2

/-- The updates that a batch has for the handler of sandboxes. -/
def Batch.sandboxUpdates : Batch → List (XdsUpdate XdsSandbox)
  | .sandboxes updates => updates
  | _ => []

theorem handleSandbox_sandboxes (s : Bool × ProxyState) (u : XdsUpdate XdsSandbox) :
    (handleSandbox s u).2.2.sandboxes = sandboxesAfter s.2.sandboxes u := by
  cases u with
  | update resource =>
    rw [handleSandbox, sandboxesAfter]
    rcases s.2.sandboxes.update resource.name resource.resource with ⟨e | changed, store⟩ <;> rfl
  | remove name => rfl

theorem handleSandbox_policies (s : Bool × ProxyState) (u : XdsUpdate XdsSandbox) :
    (handleSandbox s u).2.2.policies = s.2.policies := by
  cases u with
  | update resource =>
    rw [handleSandbox]
    rcases s.2.sandboxes.update resource.name resource.resource with ⟨e | changed, store⟩ <;> rfl
  | remove name => rfl

/-! ### Shared policies -/

/-- One update of the handler of traffic policies, on their store alone. -/
def policiesAfter (store : TrafficPolicyStore) : XdsUpdate XdsTrafficPolicy → TrafficPolicyStore
  | .update resource => (store.update resource.name resource.resource).2
  | .remove name => (store.remove name).2

/-- The updates that a batch has for the handler of traffic policies. -/
def Batch.policyUpdates : Batch → List (XdsUpdate XdsTrafficPolicy)
  | .trafficPolicies updates => updates
  | _ => []

theorem handleTrafficPolicy_policies (s : Bool × ProxyState) (u : XdsUpdate XdsTrafficPolicy) :
    (handleTrafficPolicy s u).2.2.policies = policiesAfter s.2.policies u := by
  cases u with
  | update resource =>
    rw [handleTrafficPolicy, policiesAfter]
    rcases s.2.policies.update resource.name resource.resource with ⟨e | changed, store⟩ <;> rfl
  | remove name => rfl

theorem handleTrafficPolicy_sandboxes (s : Bool × ProxyState) (u : XdsUpdate XdsTrafficPolicy) :
    (handleTrafficPolicy s u).2.2.sandboxes = s.2.sandboxes := by
  cases u with
  | update resource =>
    rw [handleTrafficPolicy]
    rcases s.2.policies.update resource.name resource.resource with ⟨e | changed, store⟩ <;> rfl
  | remove name => rfl

/-! ### Batches -/

/-- A notification changes no store but the number of the notifications. -/
theorem notifyIf_stores (r : List RejectedConfig × (Bool × ProxyState)) :
    (notifyIf r).2.sandboxes = r.2.2.sandboxes ∧
      (notifyIf r).2.policies.resources = r.2.2.policies.resources := by
  unfold notifyIf
  dsimp only
  split <;> exact ⟨rfl, rfl⟩

/-- The sandboxes and the policies of two states are the same. -/
def SameStores (state state' : ProxyState) : Prop :=
  state'.sandboxes = state.sandboxes ∧ state'.policies.resources = state.policies.resources

theorem sameStores_remove (state : ProxyState) (name : Strng) :
    SameStores state (remove state name) := by
  obtain ⟨hsandboxes, -, hpolicies⟩ := removeInternal_cases state name false
  refine ⟨hsandboxes, ?_⟩
  rw [remove, hpolicies]
  split <;> rfl

theorem sameStores_insertWorkload (decoders : Decoders) (state : ProxyState)
    (resource : XdsWorkload) :
    SameStores state (insertWorkload decoders state resource).2 := by
  obtain hsame | ⟨w, hsandboxes, -, hpolicies⟩ := insertWorkload_cases decoders state resource
  · rw [hsame]
    exact ⟨rfl, rfl⟩
  · refine ⟨hsandboxes, ?_⟩
    rw [hpolicies]
    split <;> rfl

theorem sameStores_handleWorkload (decoders : Decoders) (state : ProxyState)
    (u : XdsUpdate XdsWorkload) : SameStores state (handleWorkload decoders state u).2 := by
  cases u with
  | update w => exact sameStores_insertWorkload decoders state w.resource
  | remove name => exact sameStores_remove state name

theorem sameStores_handleAddress (decoders : Decoders) (state : ProxyState)
    (u : XdsUpdate XdsAddress) : SameStores state (handleAddress decoders state u).2 := by
  rcases u with ⟨name, w | service | -⟩ | name
  · exact sameStores_insertWorkload decoders state w
  · obtain ⟨services, hservices⟩ := insertService_cases state service
    show SameStores state (insertService state service).2
    rw [hservices]
    exact ⟨rfl, rfl⟩
  · exact ⟨rfl, rfl⟩
  · exact sameStores_remove state name

theorem sameStores_handleSingleResource {α : Type}
    {handleOne : ProxyState → XdsUpdate α → Except ConfigError Unit × ProxyState}
    (hone : ∀ state u, SameStores state (handleOne state u).2) (state : ProxyState)
    (updates : List (XdsUpdate α)) :
    SameStores state (handleSingleResource handleOne state updates).2 :=
  handleSingleResource_preserves (P := SameStores state)
    (fun u _ s hs ↦ ⟨(hone s u).1.trans hs.1, (hone s u).2.trans hs.2⟩) ⟨rfl, rfl⟩

theorem sandboxes_handle (decoders : Decoders) (state : ProxyState) (batch : Batch) :
    (batch.handle decoders state).2.sandboxes =
      batch.sandboxUpdates.foldl sandboxesAfter state.sandboxes := by
  cases batch with
  | workloads updates =>
    exact (sameStores_handleSingleResource (sameStores_handleWorkload decoders) state updates).1
  | addresses updates =>
    exact (sameStores_handleSingleResource (sameStores_handleAddress decoders) state updates).1
  | sandboxes updates =>
    rw [Batch.handle, (notifyIf_stores _).1, handleSingleResource_snd]
    exact (List.foldl_hom (fun s : Bool × ProxyState ↦ s.2.sandboxes)
      fun s u ↦ (handleSandbox_sandboxes s u).symm).symm
  | trafficPolicies updates =>
    rw [Batch.handle, (notifyIf_stores _).1]
    exact handleSingleResource_preserves
      (P := fun s : Bool × ProxyState ↦ s.2.sandboxes = state.sandboxes)
      (fun u _ s hs ↦ (handleTrafficPolicy_sandboxes s u).trans hs) rfl

/-- What inserts of valid sandboxes and removals keep, a batch keeps. -/
theorem sandboxes_handle_rule {P : SandboxStore → Prop} {decoders : Decoders} {state : ProxyState}
    (batch : Batch)
    (hinsert : ∀ store sandbox, sandbox.validate = .ok () → P store → P (store.insert sandbox).2)
    (hremove : ∀ store name, P store → P (store.remove name).2) (h : P state.sandboxes) :
    P (batch.handle decoders state).2.sandboxes := by
  rw [sandboxes_handle]
  refine Transition.foldl_induction (I := P) (Transition.along_true _ _) h fun store u hstore _ ↦ ?_
  cases u with
  | update resource =>
    obtain ⟨-, hsame⟩ | ⟨sandbox, -, hvalid, heq⟩ :=
      store.update_cases resource.name resource.resource
    · rwa [sandboxesAfter, hsame]
    · rw [sandboxesAfter, heq]
      exact hinsert store sandbox hvalid hstore
  | remove name => exact hremove store name hstore

theorem resources_handle (decoders : Decoders) (state : ProxyState) (batch : Batch) :
    (batch.handle decoders state).2.policies.resources =
      (batch.policyUpdates.foldl policiesAfter state.policies).resources := by
  cases batch with
  | workloads updates =>
    exact (sameStores_handleSingleResource (sameStores_handleWorkload decoders) state updates).2
  | addresses updates =>
    exact (sameStores_handleSingleResource (sameStores_handleAddress decoders) state updates).2
  | sandboxes updates =>
    rw [Batch.handle, (notifyIf_stores _).2]
    have hsame : (handleSingleResource handleSandbox (false, state) updates).2.2.policies =
        state.policies :=
      handleSingleResource_preserves
        (P := fun s : Bool × ProxyState ↦ s.2.policies = state.policies)
        (fun u _ s hs ↦ (handleSandbox_policies s u).trans hs) rfl
    rw [hsame]
    rfl
  | trafficPolicies updates =>
    rw [Batch.handle, (notifyIf_stores _).2, handleSingleResource_snd]
    exact congrArg (·.resources) (List.foldl_hom (fun s : Bool × ProxyState ↦ s.2.policies)
      fun s u ↦ (handleTrafficPolicy_policies s u).symm).symm

end Ztunnel.Xds
