import Ztunnel.Rbac.Store

/-!
# Sandboxes

`sandbox/discovery.rs`: a sandbox binds an inline traffic policy to a workload. `SandboxStore` keeps
the accepted sandboxes and, for each workload, the identifiers bound to it in the order in which
they were bound.
-/

namespace Ztunnel.Sandbox

open Ztunnel.State (Strng)
open Ztunnel.Rbac (TrafficPolicy XdsTrafficPolicy PolicyError)

/-- `discovery::Sandbox`. -/
structure Sandbox where
  uid : Strng
  workloadUid : Option Strng
  trafficPolicy : Option TrafficPolicy
deriving DecidableEq, Repr

/-- The errors of a conversion. -/
inductive SandboxError where
  | nameMismatch
  | invalidId
  | emptyWorkloadUid
  | policy (error : PolicyError)
deriving DecidableEq, Repr

/-- The wire form of a sandbox; `attester` is the workload UID of the attester, if there is one. -/
structure XdsSandbox where
  uid : String
  attester : Option String
  trafficPolicy : Option XdsTrafficPolicy
deriving DecidableEq, Repr

/-- `validate_id`: between `!` and `~` are the graphic ASCII characters, one byte each. -/
def validateId (id : Strng) : Except SandboxError Unit :=
  if id ≠ "" ∧ id.length ≤ 512 ∧ id ≠ "*" ∧ id.toList.all (fun c ↦ '!' ≤ c ∧ c ≤ '~') then .ok ()
  else .error .invalidId

/-- `Sandbox::validate`. -/
def Sandbox.validate (sandbox : Sandbox) : Except SandboxError Unit := do
  validateId sandbox.uid
  if sandbox.workloadUid = some "" then throw .emptyWorkloadUid
  match sandbox.trafficPolicy with
  | none => pure ()
  | some policy => policy.validate.mapError .policy

/-- `Sandbox::try_from`. -/
def Sandbox.tryFrom (resource : XdsSandbox) : Except SandboxError Sandbox := do
  let trafficPolicy ← resource.trafficPolicy.mapM fun policy ↦
    (TrafficPolicy.tryFrom policy).mapError .policy
  let sandbox : Sandbox := ⟨resource.uid, resource.attester, trafficPolicy⟩
  sandbox.validate
  pure sandbox

/-- A conversion keeps the identifier and ends with the check. -/
theorem Sandbox.valid_of_tryFrom {resource : XdsSandbox} {sandbox : Sandbox}
    (h : Sandbox.tryFrom resource = .ok sandbox) :
    sandbox.uid = resource.uid ∧ sandbox.validate = .ok () := by
  simp only [Sandbox.tryFrom, State.bind_eq_ok] at h
  obtain ⟨_, -, ⟨⟩, hvalid, hpure⟩ := h
  obtain rfl := Except.ok.inj hpure
  exact ⟨rfl, hvalid⟩

/-- What the check of a sandbox passes: an identifier that is a name, and a valid policy. -/
theorem Sandbox.valid_of_validate {sandbox : Sandbox} (h : sandbox.validate = .ok ()) :
    (sandbox.uid ≠ "" ∧ sandbox.uid ≠ "*") ∧ ∀ policy ∈ sandbox.trafficPolicy, policy.Valid := by
  obtain ⟨⟨⟩, hid, h⟩ := State.bind_eq_ok.1 h
  have huid : sandbox.uid ≠ "" ∧ sandbox.uid ≠ "*" := by
    unfold validateId at hid
    split at hid
    next hok => exact ⟨hok.1, hok.2.2.1⟩
    next => cases hid
  refine ⟨huid, fun policy hpolicy ↦ ?_⟩
  simp only [Option.mem_def.1 hpolicy] at h
  split at h
  next => cases h
  next => exact TrafficPolicy.valid_of_validate (State.mapError_eq_ok.1 h)

/-! ### The store -/

/-- `SandboxStore`. -/
structure SandboxStore where
  resources : Strng → Option Sandbox
  byWorkload : Strng → Option (List Strng)

namespace SandboxStore

/-- `SandboxStore::default`. -/
def empty : SandboxStore := ⟨fun _ ↦ none, fun _ ↦ none⟩

/-- `SandboxStore::remove_workload_binding`. -/
def removeWorkloadBinding (store : SandboxStore) (workloadUid sandboxId : Strng) : SandboxStore :=
  match store.byWorkload workloadUid with
  | none => store
  | some sandboxes =>
    let rest := sandboxes.filter (· != sandboxId)
    { store with
      byWorkload := Function.update store.byWorkload workloadUid
        (if rest.isEmpty then none else some rest) }

/-- Push an identifier to the list of a workload. -/
def pushWorkloadBinding (store : SandboxStore) (workloadUid sandboxId : Strng) : SandboxStore :=
  { store with
    byWorkload := Function.update store.byWorkload workloadUid
      (some ((store.byWorkload workloadUid).getD [] ++ [sandboxId])) }

/-- Move an identifier from the list of one workload to the end of that of another, either of which
may be missing. The order of a workload is kept when the binding stays. -/
def rebind (store : SandboxStore) (previousWorkload workload : Option Strng) (sandboxId : Strng) :
    SandboxStore :=
  if previousWorkload = workload then store
  else
    let unbound := match previousWorkload with
      | some uid => store.removeWorkloadBinding uid sandboxId
      | none => store
    match workload with
    | some uid => unbound.pushWorkloadBinding uid sandboxId
    | none => unbound

/-- `SandboxStore::insert`: whether the policy or the binding changed. -/
def insert (store : SandboxStore) (sandbox : Sandbox) : Bool × SandboxStore :=
  let previous := store.resources sandbox.uid
  (previous.all fun old ↦
      old.workloadUid != sandbox.workloadUid || old.trafficPolicy != sandbox.trafficPolicy,
    rebind { store with resources := Function.update store.resources sandbox.uid (some sandbox) }
      (previous.bind (·.workloadUid)) sandbox.workloadUid sandbox.uid)

/-- `SandboxStore::update`: the resource has to carry its own name. -/
def update (store : SandboxStore) (name : Strng) (resource : XdsSandbox) :
    Except SandboxError Bool × SandboxStore :=
  if resource.uid = name then
    match Sandbox.tryFrom resource with
    | .error e => (.error e, store)
    | .ok sandbox =>
      let (changed, store) := store.insert sandbox
      (.ok changed, store)
  else (.error .nameMismatch, store)

/-- `SandboxStore::remove`: whether there was something to remove. -/
def remove (store : SandboxStore) (name : Strng) : Bool × SandboxStore :=
  match store.resources name with
  | none => (false, store)
  | some previous =>
    let store := { store with resources := Function.update store.resources name none }
    (true, match previous.workloadUid with
      | some workloadUid => store.removeWorkloadBinding workloadUid name
      | none => store)

/-- `SandboxStore::get_for_workload`: a sandbox bound elsewhere is an error, a missing or unbound
one is unavailable. -/
def getForWorkload (store : SandboxStore) (id workloadUid : Strng) :
    Except Unit (Option Sandbox) :=
  match store.resources id with
  | none => .ok none
  | some sandbox =>
    match sandbox.workloadUid with
    | some uid => if uid = workloadUid then .ok (some sandbox) else .error ()
    | none => .ok none

/-- `SandboxStore::get_by_workload`, in binding arrival order. -/
def getByWorkload (store : SandboxStore) (workloadUid : Strng) : List Sandbox :=
  ((store.byWorkload workloadUid).getD []).filterMap store.resources

@[simp] theorem removeWorkloadBinding_resources (store : SandboxStore)
    (workloadUid sandboxId : Strng) :
    (store.removeWorkloadBinding workloadUid sandboxId).resources = store.resources := by
  unfold removeWorkloadBinding
  split <;> rfl

/-- Moving a binding leaves the resources alone. -/
@[simp] theorem rebind_resources (store : SandboxStore) (previousWorkload workload : Option Strng)
    (sandboxId : Strng) :
    (store.rebind previousWorkload workload sandboxId).resources = store.resources := by
  unfold rebind
  split
  · rfl
  · rcases previousWorkload with - | uid <;> rcases workload with - | uid' <;>
      simp [pushWorkloadBinding]

@[simp] theorem insert_resources (store : SandboxStore) (sandbox : Sandbox) :
    (store.insert sandbox).2.resources =
      Function.update store.resources sandbox.uid (some sandbox) := by
  rw [insert, rebind_resources]

/-- **An insert that reports no change makes none**, in a store whose entries stand under their
keys. -/
theorem insert_eq_self {store : SandboxStore} {sandbox : Sandbox}
    (hkeys : ∀ id s, store.resources id = some s → s.uid = id)
    (h : (store.insert sandbox).1 = false) : (store.insert sandbox).2 = store := by
  rcases hold : store.resources sandbox.uid with - | old
  · simp [insert, hold] at h
  · have hsame : old = sandbox := by
      simp only [insert, hold, Option.all_some, Bool.or_eq_false_iff, bne_eq_false_iff_eq] at h
      obtain ⟨uid, workloadUid, trafficPolicy⟩ := old
      obtain ⟨uid', workloadUid', trafficPolicy'⟩ := sandbox
      have huid : uid = uid' := hkeys _ _ hold
      obtain ⟨hworkload, hpolicy⟩ := h
      simp_all
    subst hsame
    simp only [insert, hold, Option.bind_some, rebind, if_true]
    rw [← hold, Function.update_eq_self]

@[simp] theorem remove_resources (store : SandboxStore) (name : Strng) :
    (store.remove name).2.resources = Function.update store.resources name none := by
  unfold remove
  rcases hold : store.resources name with - | previous
  · show store.resources = _
    rw [← hold, Function.update_eq_self]
  · rcases hw : previous.workloadUid with - | workloadUid
    · simp only [hw]
    · simp only [hw, removeWorkloadBinding_resources]

theorem remove_eq_self {store : SandboxStore} {name : Strng} (h : (store.remove name).1 = false) :
    (store.remove name).2 = store := by
  unfold remove at h ⊢
  rcases hold : store.resources name with - | previous
  · rfl
  · simp [hold] at h

/-- What an update can do: nothing, or insert a valid sandbox of its name and report what the insert
does. -/
theorem update_cases (store : SandboxStore) (name : Strng) (resource : XdsSandbox) :
    ((∃ e, (store.update name resource).1 = .error e) ∧ (store.update name resource).2 = store) ∨
      ∃ sandbox, sandbox.uid = name ∧ sandbox.validate = .ok () ∧ store.update name resource =
        (.ok (store.insert sandbox).1, (store.insert sandbox).2) := by
  unfold update
  split
  next hname =>
    split
    next => exact .inl ⟨⟨_, rfl⟩, rfl⟩
    next sandbox hsandbox =>
      obtain ⟨huid, hvalid⟩ := Sandbox.valid_of_tryFrom hsandbox
      exact .inr ⟨sandbox, huid.trans hname, hvalid, rfl⟩
  next => exact .inl ⟨⟨_, rfl⟩, rfl⟩

end SandboxStore

end Ztunnel.Sandbox
