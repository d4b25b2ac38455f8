import Ztunnel.Xds.Notification

/-!
# Batches of updates

A handler goes through its batch one update at a time, and a mutation that fails returns an error
after some of its statements have run. That a batch amounts to its accepted updates therefore rests
on each mutation: all its failures come before its first change (`Atomic`). For a workload this
means that the hosts of its services, parsed once by the conversion and once more when its endpoints
are added, parse the second time.
-/

namespace Ztunnel.Xds

open Ztunnel.State Ztunnel.Rbac Ztunnel.Sandbox

section HandleOne

variable {σ α : Type} (handleOne : σ → XdsUpdate α → Except ConfigError Unit × σ)

/-- The updates of a batch with their results, as the batch is gone through. -/
def results : σ → List (XdsUpdate α) → List (XdsUpdate α × Except ConfigError Unit)
  | _, [] => []
  | s, u :: updates => (u, (handleOne s u).1) :: results (handleOne s u).2 updates

/-- The updates that are accepted. -/
def accepted (s : σ) (updates : List (XdsUpdate α)) : List (XdsUpdate α) :=
  ((results handleOne s updates).filter (·.2.isOk)).map (·.1)

/-- The updates that are rejected. -/
def rejected (s : σ) (updates : List (XdsUpdate α)) : List (XdsUpdate α) :=
  ((results handleOne s updates).filter (!·.2.isOk)).map (·.1)

/-- **A rejected update leaves no trace.** -/
def Atomic : Prop :=
  ∀ s u e, (handleOne s u).1 = .error e → (handleOne s u).2 = s

variable {handleOne} {s s' : σ} {u : XdsUpdate α}

theorem handleSingleResource_cons_ok (h : handleOne s u = (.ok (), s'))
    (updates : List (XdsUpdate α)) :
    handleSingleResource handleOne s (u :: updates) =
      handleSingleResource handleOne s' updates := by
  rw [handleSingleResource, h]

theorem handleSingleResource_cons_error {e : ConfigError} (h : handleOne s u = (.error e, s'))
    (updates : List (XdsUpdate α)) :
    handleSingleResource handleOne s (u :: updates) =
      (⟨u.name, e⟩ :: (handleSingleResource handleOne s' updates).1,
        (handleSingleResource handleOne s' updates).2) := by
  rw [handleSingleResource, h]

theorem results_cons {result : Except ConfigError Unit} (h : handleOne s u = (result, s'))
    (updates : List (XdsUpdate α)) :
    results handleOne s (u :: updates) = (u, result) :: results handleOne s' updates := by
  rw [results, h]

/-- The rejects of a batch are reported under the names of the rejected updates. -/
theorem names_handleSingleResource (s : σ) (updates : List (XdsUpdate α)) :
    (handleSingleResource handleOne s updates).1.map (·.name) =
      (rejected handleOne s updates).map XdsUpdate.name := by
  induction updates generalizing s with
  | nil => rfl
  | cons u updates ih =>
    rcases hone : handleOne s u with ⟨e | ⟨⟩, s'⟩
    · rw [handleSingleResource_cons_error hone, rejected, results_cons hone]
      exact congrArg (u.name :: ·) (ih s')
    · rw [handleSingleResource_cons_ok hone, rejected, results_cons hone]
      exact ih s'

/-- The accepted updates alone are all accepted, and lead to the same state. -/
theorem handleSingleResource_accepted (hatomic : Atomic handleOne) (s : σ)
    (updates : List (XdsUpdate α)) :
    handleSingleResource handleOne s (accepted handleOne s updates) =
      ([], (handleSingleResource handleOne s updates).2) := by
  induction updates generalizing s with
  | nil => rfl
  | cons u updates ih =>
    rcases hone : handleOne s u with ⟨e | ⟨⟩, s'⟩
    · have hsame : s' = s := by
        have h := hatomic s u e
        rw [hone] at h
        exact h rfl
      rw [handleSingleResource_cons_error hone, accepted, results_cons hone, hsame]
      exact ih s
    · have haccepted :
          accepted handleOne s (u :: updates) = u :: accepted handleOne s' updates := by
        rw [accepted, results_cons hone]
        rfl
      rw [haccepted, handleSingleResource_cons_ok hone, handleSingleResource_cons_ok hone]
      exact ih s'

end HandleOne

/-! ### The four handlers -/

section Handlers

variable (decoders : Decoders)

theorem insertWorkload_atomic (state : ProxyState) (w : XdsWorkload) {e : ConfigError}
    (h : (insertWorkload decoders state w).1 = .error e) :
    (insertWorkload decoders state w).2 = state := by
  rcases htry : Workload.tryFrom decoders w with e | ⟨workload, services⟩
  · rw [insertWorkload, htry]
  · -- a workload that converts has hosts that parse, so that nothing can fail any more
    rw [insertWorkload, htry] at h
    simp only [insertServiceEndpoints_ok (hosts_parse htry)] at h
    cases h

theorem insertAddress_atomic (state : ProxyState) (a : XdsAddress) {e : ConfigError}
    (h : (insertAddress decoders state a).1 = .error e) :
    (insertAddress decoders state a).2 = state := by
  cases a with
  | workload w => exact insertWorkload_atomic decoders state w h
  | service s =>
    rw [insertAddress, insertService] at h ⊢
    rcases htry : Service.tryFrom s with e | service
    · rfl
    · rw [htry] at h
      cases h
  | unknown => rfl

theorem atomic_handleWorkload : Atomic (handleWorkload decoders) := by
  intro state u e h
  cases u with
  | update w => exact insertWorkload_atomic decoders state w.resource h
  | remove name => cases h

theorem atomic_handleAddress : Atomic (handleAddress decoders) := by
  intro state u e h
  cases u with
  | update a => exact insertAddress_atomic decoders state a.resource h
  | remove name => cases h

theorem atomic_handleSandbox : Atomic handleSandbox := by
  rintro ⟨changed, state⟩ u e h
  cases u with
  | update resource =>
    rw [handleSandbox] at h ⊢
    rcases state.sandboxes.update_cases resource.name resource.resource with
      ⟨⟨reason, hreason⟩, hsame⟩ | ⟨sandbox, -, -, hupdate⟩
    · have hupdate : state.sandboxes.update resource.name resource.resource =
          (.error reason, state.sandboxes) := Prod.ext hreason hsame
      rw [hupdate]
    · rw [hupdate] at h
      cases h
  | remove name => cases h

theorem atomic_handleTrafficPolicy : Atomic handleTrafficPolicy := by
  rintro ⟨changed, state⟩ u e h
  cases u with
  | update resource =>
    rw [handleTrafficPolicy] at h ⊢
    rcases hupdate : state.policies.update resource.name resource.resource with
      ⟨reason | changed', policies⟩
    · have hne : (state.policies.update resource.name resource.resource).1 ≠ .ok true := by
        simp [hupdate]
      have hsame := TrafficPolicyStore.update_eq_self hne
      rw [hupdate] at hsame
      obtain rfl : policies = state.policies := hsame
      rfl
    · rw [hupdate] at h
      cases h
  | remove name => cases h

end Handlers

/-- The accepted updates of a batch. -/
def Batch.accepted (decoders : Decoders) (state : ProxyState) : Batch → Batch
  | .workloads updates => .workloads (Xds.accepted (handleWorkload decoders) state updates)
  | .addresses updates => .addresses (Xds.accepted (handleAddress decoders) state updates)
  | .sandboxes updates => .sandboxes (Xds.accepted handleSandbox (false, state) updates)
  | .trafficPolicies updates =>
    .trafficPolicies (Xds.accepted handleTrafficPolicy (false, state) updates)

/-- The names of the rejected updates of a batch, in order. -/
def Batch.rejectedNames (decoders : Decoders) (state : ProxyState) : Batch → List Strng
  | .workloads updates => (rejected (handleWorkload decoders) state updates).map XdsUpdate.name
  | .addresses updates => (rejected (handleAddress decoders) state updates).map XdsUpdate.name
  | .sandboxes updates => (rejected handleSandbox (false, state) updates).map XdsUpdate.name
  | .trafficPolicies updates =>
    (rejected handleTrafficPolicy (false, state) updates).map XdsUpdate.name

/-- **A batch is its accepted updates.** For each of the four handlers: the state after a batch is
the one after its accepted updates alone, all of which are accepted again; a rejected update leaves
every store as it was; and the rejects are reported under the names of the rejected updates, in
order. -/
theorem batch_atomic (decoders : Decoders) (state : ProxyState) (batch : Batch) :
    (batch.accepted decoders state).handle decoders state = ([], (batch.handle decoders state).2) ∧
    (batch.handle decoders state).1.map (·.name) = batch.rejectedNames decoders state ∧
    Atomic (handleWorkload decoders) ∧ Atomic (handleAddress decoders) ∧ Atomic handleSandbox ∧
    Atomic handleTrafficPolicy := by
  refine ⟨?_, ?_, atomic_handleWorkload decoders, atomic_handleAddress decoders,
    atomic_handleSandbox, atomic_handleTrafficPolicy⟩
  · cases batch with
    | workloads updates =>
      exact handleSingleResource_accepted (atomic_handleWorkload decoders) state updates
    | addresses updates =>
      exact handleSingleResource_accepted (atomic_handleAddress decoders) state updates
    | sandboxes updates =>
      exact congrArg notifyIf
        (handleSingleResource_accepted atomic_handleSandbox (false, state) updates)
    | trafficPolicies updates =>
      exact congrArg notifyIf
        (handleSingleResource_accepted atomic_handleTrafficPolicy (false, state) updates)
  · cases batch with
    | workloads updates | addresses updates => exact names_handleSingleResource state updates
    | sandboxes updates | trafficPolicies updates =>
      exact names_handleSingleResource (false, state) updates

end Ztunnel.Xds
