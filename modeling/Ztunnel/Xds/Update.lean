import Ztunnel.State.ProxyState

/-!
# Applying discovery updates to the proxy state

`xds.rs`: the mutations that discovery resources make (`ProxyStateUpdateMutator`), the four handlers
that apply a batch of them under the state's write lock, and the local configuration that replaces
the whole state.

A handler goes through its batch with `handle_single_resource`: an update that fails is reported
under its name and the batch goes on. What an update changes before it fails stays changed, so a
mutation returns the state next to its result.

Fetching and clearing of certificates, which some mutations ask for, is outside the state.
-/

namespace Ztunnel.Xds

open Ztunnel.State Ztunnel.Rbac Ztunnel.Sandbox

/-- `XdsResource`. -/
structure XdsResource (α : Type) where
  name : Strng
  resource : α

/-- `XdsUpdate`. -/
inductive XdsUpdate (α : Type) where
  | update (resource : XdsResource α)
  | remove (name : Strng)

/-- `XdsUpdate::name`. -/
def XdsUpdate.name {α : Type} : XdsUpdate α → Strng
  | .update resource => resource.name
  | .remove name => name

/-- `AdsError`, as `decode_proto` raises it. -/
inductive AdsError where
  | decode
  | missingResource
deriving DecidableEq, Repr

/-- The reasons for which an update is rejected. -/
inductive ConfigError where
  | ads (error : AdsError)
  | workload (error : WorkloadError)
  | unknownAddressType
  | sandbox (error : SandboxError)
  | policy (error : PolicyError)
  | duplicateSandbox (uid : Strng)
deriving DecidableEq, Repr

/-- `RejectedConfig`. -/
structure RejectedConfig where
  name : Strng
  reason : ConfigError
deriving DecidableEq, Repr

/-- `handle_single_resource`: the rejected updates in order, and the state after the batch. -/
def handleSingleResource {σ α : Type} (handleOne : σ → XdsUpdate α → Except ConfigError Unit × σ) :
    σ → List (XdsUpdate α) → List RejectedConfig × σ
  | s, [] => ([], s)
  | s, u :: updates =>
    let (result, s) := handleOne s u
    let (rejects, s) := handleSingleResource handleOne s updates
    match result with
    | .ok () => (rejects, s)
    | .error e => (⟨u.name, e⟩ :: rejects, s)

theorem handleSingleResource_cons_snd {σ α : Type}
    (handleOne : σ → XdsUpdate α → Except ConfigError Unit × σ) (s : σ) (u : XdsUpdate α)
    (updates : List (XdsUpdate α)) :
    (handleSingleResource handleOne s (u :: updates)).2 =
      (handleSingleResource handleOne (handleOne s u).2 updates).2 := by
  rw [handleSingleResource]
  rcases handleOne s u with ⟨e | ⟨⟩, s'⟩ <;> rfl

/-- The state after a batch is a fold over its updates. -/
theorem handleSingleResource_snd {σ α : Type}
    (handleOne : σ → XdsUpdate α → Except ConfigError Unit × σ) (s : σ)
    (updates : List (XdsUpdate α)) :
    (handleSingleResource handleOne s updates).2 =
      updates.foldl (fun s u ↦ (handleOne s u).2) s := by
  induction updates generalizing s with
  | nil => rfl
  | cons u updates ih => rw [handleSingleResource_cons_snd, ih, List.foldl_cons]

/-- What every update of a batch preserves, the batch preserves. -/
theorem handleSingleResource_preserves {σ α : Type}
    {handleOne : σ → XdsUpdate α → Except ConfigError Unit × σ} {P : σ → Prop}
    {updates : List (XdsUpdate α)} (hone : ∀ u ∈ updates, ∀ s, P s → P (handleOne s u).2) {s : σ}
    (hs : P s) : P (handleSingleResource handleOne s updates).2 := by
  induction updates generalizing s with
  | nil => exact hs
  | cons u updates ih =>
    rw [handleSingleResource_cons_snd]
    exact ih (fun v hv ↦ hone v (List.mem_cons_of_mem u hv)) (hone u List.mem_cons_self s hs)

/-! ### Mutations -/

/-- `insert_service_endpoints`. The first host that does not parse ends the loop. -/
def insertServiceEndpoints (w : Workload) :
    List (String × PortMap) → ServiceStore → Except ConfigError Unit × ServiceStore
  | [], store => (.ok (), store)
  | (host, ports) :: services, store =>
    match NamespacedHostname.fromStr host with
    | .error e => (.error (.workload e), store)
    | .ok host =>
      insertServiceEndpoints w services (store.insertEndpoint host ⟨w.uid, ports, w.status⟩)

/-- `ProxyStateUpdateMutator::remove_internal`. A removal ahead of an insert does not notify, and
does not try the name as a service. -/
def removeInternal (state : ProxyState) (xdsName : Strng) (forWorkloadInsert : Bool) :
    ProxyState :=
  match state.workloads.remove xdsName with
  | (some prev, workloads) =>
    let state := { state with
      workloads := workloads
      services := state.services.removeEndpoint prev }
    if forWorkloadInsert then state else state.notify
  | (none, _) =>
    if forWorkloadInsert then state
    else match NamespacedHostname.fromStr xdsName with
      | .error _ => state
      | .ok host =>
        if host.hostname.toList.contains '/' then state
        else { state with services := (state.services.remove host).2 }

/-- `ProxyStateUpdateMutator::remove`. -/
def remove (state : ProxyState) (xdsName : Strng) : ProxyState :=
  removeInternal state xdsName false

/-- `ProxyStateUpdateMutator::remove_workload_for_insert`. -/
def removeWorkloadForInsert (state : ProxyState) (xdsName : Strng) : ProxyState :=
  removeInternal state xdsName true

section Insert

variable (decoders : Decoders)

/-- `ProxyStateUpdateMutator::insert_workload`. The notification comes after the endpoints, so that
a host that does not parse would leave it out. -/
def insertWorkload (state : ProxyState) (w : XdsWorkload) : Except ConfigError Unit × ProxyState :=
  match Workload.tryFrom decoders w with
  | .error e => (.error (.workload e), state)
  | .ok (workload, services) =>
    let policyChanged := (state.workloads.findUid workload.uid).all fun old ↦
      old.trafficPolicyRefs != workload.trafficPolicyRefs
    let state := removeWorkloadForInsert state workload.uid
    let state := { state with workloads := state.workloads.insert workload }
    let (result, store) := insertServiceEndpoints workload
      (services.map fun service ↦ (service.1, service.2.toMap)) state.services
    let state := { state with services := store }
    match result with
    | .error e => (.error e, state)
    | .ok () => (.ok (), if policyChanged then state.notify else state)

/-- `ProxyStateUpdateMutator::insert_service`: the endpoints of an installed service are taken
over. -/
def insertService (state : ProxyState) (s : XdsService) : Except ConfigError Unit × ProxyState :=
  match Service.tryFrom s with
  | .error e => (.error (.workload e), state)
  | .ok service =>
    let service := match state.services.getByNamespacedHost service.namespacedHostname with
      | some prev => ServiceStore.addEndpoints service
          (prev.endpoints.entries.map fun e ↦ (e.2.workloadUid, e.2))
      | none => service
    (.ok (), { state with services := state.services.insert service })

/-- `XdsAddress`. -/
inductive XdsAddress where
  | workload (w : XdsWorkload)
  | service (s : XdsService)
  | unknown
deriving DecidableEq, Repr

/-- `ProxyStateUpdateMutator::insert_address`. -/
def insertAddress (state : ProxyState) : XdsAddress → Except ConfigError Unit × ProxyState
  | .workload w => insertWorkload decoders state w
  | .service s => insertService state s
  | .unknown => (.error .unknownAddressType, state)

/-! ### Handlers -/

/-- `Handler<XdsWorkload>::handle`, for one update. -/
def handleWorkload (state : ProxyState) :
    XdsUpdate XdsWorkload → Except ConfigError Unit × ProxyState
  | .update w => insertWorkload decoders state w.resource
  | .remove name => (.ok (), remove state name)

/-- `Handler<XdsAddress>::handle`, for one update. -/
def handleAddress (state : ProxyState) :
    XdsUpdate XdsAddress → Except ConfigError Unit × ProxyState
  | .update a => insertAddress decoders state a.resource
  | .remove name => (.ok (), remove state name)

end Insert

/-- `Handler<Sandbox>::handle`, for one update, with the flag `changed`. -/
def handleSandbox (s : Bool × ProxyState) :
    XdsUpdate XdsSandbox → Except ConfigError Unit × (Bool × ProxyState)
  | .update resource =>
    match s.2.sandboxes.update resource.name resource.resource with
    | (.error e, sandboxes) => (.error (.sandbox e), (s.1, { s.2 with sandboxes := sandboxes }))
    | (.ok changed, sandboxes) => (.ok (), (s.1 || changed, { s.2 with sandboxes := sandboxes }))
  | .remove name =>
    let (changed, sandboxes) := s.2.sandboxes.remove name
    (.ok (), (s.1 || changed, { s.2 with sandboxes := sandboxes }))

/-- `Handler<TrafficPolicy>::handle`, for one update, with the flag `changed`. -/
def handleTrafficPolicy (s : Bool × ProxyState) :
    XdsUpdate XdsTrafficPolicy → Except ConfigError Unit × (Bool × ProxyState)
  | .update resource =>
    match s.2.policies.update resource.name resource.resource with
    | (.error e, policies) => (.error (.policy e), (s.1, { s.2 with policies := policies }))
    | (.ok changed, policies) => (.ok (), (s.1 || changed, { s.2 with policies := policies }))
  | .remove name =>
    let (changed, policies) := s.2.policies.remove name
    (.ok (), (s.1 || changed, { s.2 with policies := policies }))

/-- The end of the two handlers with a flag: notify once for the batch. -/
def notifyIf (r : List RejectedConfig × (Bool × ProxyState)) : List RejectedConfig × ProxyState :=
  (r.1, if r.2.1 then r.2.2.notify else r.2.2)

/-- A batch for one of the four handlers. -/
inductive Batch where
  | workloads (updates : List (XdsUpdate XdsWorkload))
  | addresses (updates : List (XdsUpdate XdsAddress))
  | sandboxes (updates : List (XdsUpdate XdsSandbox))
  | trafficPolicies (updates : List (XdsUpdate XdsTrafficPolicy))

/-- `Handler::handle` of the handler of the batch. -/
def Batch.handle (decoders : Decoders) (state : ProxyState) :
    Batch → List RejectedConfig × ProxyState
  | .workloads updates => handleSingleResource (handleWorkload decoders) state updates
  | .addresses updates => handleSingleResource (handleAddress decoders) state updates
  | .sandboxes updates => notifyIf (handleSingleResource handleSandbox (false, state) updates)
  | .trafficPolicies updates =>
    notifyIf (handleSingleResource handleTrafficPolicy (false, state) updates)

/-! ### Local configuration -/

/-- `LocalConfig`. A local workload carries the port maps of its services. -/
structure LocalConfig where
  workloads : List (Workload × List (String × PortMap))
  services : List Service
  sandboxes : List Sandbox
  policies : List (Strng × TrafficPolicy)

/-- The policies of a local configuration. -/
def loadPolicies : List (Strng × TrafficPolicy) → TrafficPolicyStore →
    Except ConfigError TrafficPolicyStore
  | [], store => .ok store
  | (name, policy) :: policies, store => do
    policy.validate.mapError .policy
    match store.insert name policy with
    | (.error e, _) => throw (.policy e)
    | (.ok _, store) => loadPolicies policies store

/-- The sandboxes of a local configuration. -/
def loadSandboxes : List Sandbox → SandboxStore → Except ConfigError SandboxStore
  | [], store => .ok store
  | sandbox :: sandboxes, store => do
    sandbox.validate.mapError .sandbox
    if (store.resources sandbox.uid).isSome then throw (.duplicateSandbox sandbox.uid)
    loadSandboxes sandboxes (store.insert sandbox).2

/-- The workloads of a local configuration, with their endpoints. -/
def loadWorkloads : List (Workload × List (String × PortMap)) → WorkloadStore × ServiceStore →
    Except ConfigError (WorkloadStore × ServiceStore)
  | [], stores => .ok stores
  | (w, services) :: workloads, (store, serviceStore) => do
    w.validatePolicies.mapError .workload
    match insertServiceEndpoints w services serviceStore with
    | (.error e, _) => throw e
    | (.ok _, serviceStore) => loadWorkloads workloads (store.insert w, serviceStore)

/-- `LocalClient::load_config`: the new stores are built aside and swapped in, and the notifier of
the policies is kept and fired. -/
def loadConfig (localNode : Option Strng) (r : LocalConfig) (state : ProxyState) :
    Except ConfigError ProxyState := do
  let policies ← loadPolicies r.policies .empty
  let sandboxes ← loadSandboxes r.sandboxes .empty
  let (workloads, services) ← loadWorkloads r.workloads (.new localNode, .empty)
  let services := r.services.foldl ServiceStore.insert services
  pure (ProxyState.notify
    { workloads := workloads
      services := services
      sandboxes := sandboxes
      policies := { state.policies with resources := policies.resources } })

/-! What is loaded is reached by inserts of entries that pass their checks. -/

/-- The policies of a local configuration are inserted once they pass. -/
theorem loadPolicies_rule {P : TrafficPolicyStore → Prop} {policies : List (Strng × TrafficPolicy)}
    {store store' : TrafficPolicyStore} (hload : loadPolicies policies store = .ok store')
    (hinsert : ∀ store name policy, policy.validate = .ok () → P store →
      P (store.insert name policy).2) (hstore : P store) : P store' := by
  induction policies generalizing store with
  | nil =>
    obtain rfl := Except.ok.inj hload
    exact hstore
  | cons entry policies ih =>
    obtain ⟨name, policy⟩ := entry
    obtain ⟨⟨⟩, hvalid, hrest⟩ := bind_eq_ok.1 hload
    have hnext := hinsert store name policy (mapError_eq_ok.1 hvalid) hstore
    rcases hins : store.insert name policy with ⟨e | changed, next⟩
    · rw [hins] at hrest
      cases hrest
    · rw [hins] at hrest hnext
      exact ih hrest hnext

/-- So are its sandboxes. -/
theorem loadSandboxes_rule {P : SandboxStore → Prop} {sandboxes : List Sandbox}
    {store store' : SandboxStore} (hload : loadSandboxes sandboxes store = .ok store')
    (hinsert : ∀ store sandbox, sandbox.validate = .ok () → P store → P (store.insert sandbox).2)
    (hstore : P store) : P store' := by
  induction sandboxes generalizing store with
  | nil =>
    obtain rfl := Except.ok.inj hload
    exact hstore
  | cons sandbox sandboxes ih =>
    obtain ⟨⟨⟩, hvalid, hrest⟩ := bind_eq_ok.1 hload
    have hnext := hinsert store sandbox (mapError_eq_ok.1 hvalid) hstore
    split at hrest
    next => cases hrest
    next => exact ih hrest hnext

/-- And so are its workloads. -/
theorem loadWorkloads_rule {P : WorkloadStore → Prop}
    {workloads : List (Workload × List (String × PortMap))}
    {stores stores' : WorkloadStore × ServiceStore}
    (hload : loadWorkloads workloads stores = .ok stores')
    (hinsert : ∀ store w, w.validatePolicies = .ok () → P store → P (store.insert w))
    (hstore : P stores.1) : P stores'.1 := by
  induction workloads generalizing stores with
  | nil =>
    obtain rfl := Except.ok.inj hload
    exact hstore
  | cons entry workloads ih =>
    obtain ⟨w, services⟩ := entry
    obtain ⟨store, serviceStore⟩ := stores
    obtain ⟨⟨⟩, hvalid, hrest⟩ := bind_eq_ok.1 hload
    have hnext := hinsert store w (mapError_eq_ok.1 hvalid) hstore
    rcases hins : insertServiceEndpoints w services serviceStore with ⟨e | _, next⟩
    · rw [hins] at hrest
      cases hrest
    · rw [hins] at hrest
      exact ih hrest hnext

end Ztunnel.Xds
