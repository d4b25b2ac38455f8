import Ztunnel.Xds.Update

/-!
# Reloading a local configuration

`LocalClient::load_config` builds new stores aside and swaps them in one by one. A store that others
subscribe to holds the sender of a `watch` channel, and a channel is closed when its sender is
dropped. The policies are replaced inside their store, which keeps its sender. The workloads are
replaced as a whole, so the sender of the new store takes the place of the old one: a task that
waits for a workload is not woken by the reload, nor by anything after it.

Here a store stands next to the number of the channel of its sender (`Notifying`); how often the
sender was used is what the stores of `ProxyState` count.
-/

namespace Ztunnel.Xds

open Ztunnel.State Ztunnel.Rbac Ztunnel.Sandbox

/-- A store with the channel of its sender. -/
structure Notifying (S : Type) where
  store : S
  channel : ℕ

/-- `watch::Receiver`: its channel, and the last notification that it has seen. -/
structure Receiver where
  channel : ℕ
  seen : ℕ
deriving DecidableEq, Repr

/-- `ProxyState`, with its channels. -/
structure LiveState where
  workloads : Notifying WorkloadStore
  services : ServiceStore
  policies : Notifying TrafficPolicyStore
  sandboxes : SandboxStore

namespace LiveState

/-- The state without its channels. -/
def state (live : LiveState) : ProxyState :=
  ⟨live.workloads.store, live.services, live.policies.store, live.sandboxes⟩

/-- `ProxyState::new`, with the next two channels. -/
def new (localNode : Option Strng) (fresh : ℕ) : LiveState where
  workloads := ⟨.new localNode, fresh⟩
  services := .empty
  policies := ⟨.empty, fresh + 1⟩
  sandboxes := .empty

/-- `LocalClient::load_config`, up to the assignments: the snapshot. -/
def snapshot (localNode : Option Strng) (r : LocalConfig) (fresh : ℕ) :
    Except ConfigError LiveState := do
  let next := new localNode fresh
  let policies ← loadPolicies r.policies next.policies.store
  let sandboxes ← loadSandboxes r.sandboxes next.sandboxes
  let (workloads, services) ← loadWorkloads r.workloads (next.workloads.store, next.services)
  pure { workloads := { next.workloads with store := workloads }
         services := r.services.foldl ServiceStore.insert services
         policies := { next.policies with store := policies }
         sandboxes := sandboxes }

/-- The assignments of `load_config`: three stores are replaced, and of the fourth what it holds,
with `TrafficPolicyStore::replace`; then the policies are announced. -/
def assign (live next : LiveState) : LiveState where
  workloads := next.workloads
  services := next.services
  sandboxes := next.sandboxes
  policies := { live.policies with
    store := { live.policies.store with resources := next.policies.store.resources }.send }

/-- `LocalClient::load_config`. -/
def loadConfig (localNode : Option Strng) (r : LocalConfig) (live : LiveState) (fresh : ℕ) :
    Except ConfigError Unit × LiveState :=
  match snapshot localNode r fresh with
  | .error e => (.error e, live)
  | .ok next => (.ok (), live.assign next)

/-- Without the channels this is the reload of the state. -/
theorem state_loadConfig (localNode : Option Strng) (r : LocalConfig) (live : LiveState)
    (fresh : ℕ) :
    (live.loadConfig localNode r fresh).2.state =
      match Xds.loadConfig localNode r live.state with
      | .error _ => live.state
      | .ok state => state := by
  have hpolicies : (new localNode fresh).policies.store = .empty := rfl
  have hsandboxes : (new localNode fresh).sandboxes = .empty := rfl
  have hworkloads : ((new localNode fresh).workloads.store, (new localNode fresh).services) =
      (.new localNode, .empty) := rfl
  simp only [loadConfig, snapshot, Xds.loadConfig, hpolicies, hsandboxes, hworkloads]
  rcases loadPolicies r.policies .empty with e | policies
  · rfl
  rcases loadSandboxes r.sandboxes .empty with e | sandboxes
  · rfl
  rcases loadWorkloads r.workloads (.new localNode, .empty) with e | ⟨workloads, services⟩
  · rfl
  · rfl

end LiveState

/-! ### Subscriptions -/

/-- A process in which some tasks subscribe to policies and to workloads. The channels in use have
lower numbers than the next one, and no receiver is ahead of its sender. -/
structure Process where
  live : LiveState
  fresh : ℕ
  policyReceivers : List Receiver
  workloadReceivers : List Receiver
  fresh_gt : live.workloads.channel < fresh ∧ live.policies.channel < fresh
  policies_open : ∀ receiver ∈ policyReceivers,
    receiver.channel = live.policies.channel ∧ receiver.seen ≤ live.policies.store.notifier
  workloads_open : ∀ receiver ∈ workloadReceivers,
    receiver.channel = live.workloads.channel ∧
      receiver.seen ≤ live.workloads.store.insertNotifier

namespace Process

variable (process : Process) (localNode : Option Strng) (r : LocalConfig)

/-- `load_config` in this process. -/
def loadConfig : Except ConfigError Unit × LiveState :=
  process.live.loadConfig localNode r process.fresh

/-- What the live state holds is the snapshot. -/
def Holds (live next : LiveState) : Prop :=
  live.workloads.store = next.workloads.store ∧ live.services = next.services ∧
    live.sandboxes = next.sandboxes ∧
      live.policies.store.resources = next.policies.store.resources

/-- The receivers of policies are open and notified. -/
def PoliciesNotified (live : LiveState) : Prop :=
  ∀ receiver ∈ process.policyReceivers,
    receiver.channel = live.policies.channel ∧ receiver.seen < live.policies.store.notifier

/-- The receivers of workloads are open and notified. -/
def WorkloadsNotified (live : LiveState) : Prop :=
  ∀ receiver ∈ process.workloadReceivers,
    receiver.channel = live.workloads.channel ∧
      receiver.seen < live.workloads.store.insertNotifier

/-- A reload that fails changes nothing. One that succeeds leaves the snapshot, and every
subscription open and notified. -/
def Reloads : Prop :=
  (∀ e, (process.loadConfig localNode r).1 = .error e →
    (process.loadConfig localNode r).2 = process.live) ∧
  ((process.loadConfig localNode r).1 = .ok () →
    (∃ next, LiveState.snapshot localNode r process.fresh = .ok next ∧
      Holds (process.loadConfig localNode r).2 next) ∧
    process.PoliciesNotified (process.loadConfig localNode r).2 ∧
    process.WorkloadsNotified (process.loadConfig localNode r).2)

theorem loadConfig_of_error {e : ConfigError}
    (h : LiveState.snapshot localNode r process.fresh = .error e) :
    process.loadConfig localNode r = (.error e, process.live) := by
  rw [loadConfig, LiveState.loadConfig, h]

theorem loadConfig_of_ok {next : LiveState}
    (h : LiveState.snapshot localNode r process.fresh = .ok next) :
    process.loadConfig localNode r = (.ok (), process.live.assign next) := by
  rw [loadConfig, LiveState.loadConfig, h]

/-- The policies are replaced inside their store. -/
theorem policiesNotified_assign (next : LiveState) :
    process.PoliciesNotified (process.live.assign next) := by
  intro receiver hreceiver
  obtain ⟨hchannel, hseen⟩ := process.policies_open receiver hreceiver
  exact ⟨hchannel, Nat.lt_succ_of_le hseen⟩

/-- The workloads of a snapshot have a channel of their own. -/
theorem channel_of_snapshot {next : LiveState}
    (h : LiveState.snapshot localNode r process.fresh = .ok next) :
    next.workloads.channel = process.fresh := by
  simp only [LiveState.snapshot, bind_eq_ok] at h
  obtain ⟨_, -, _, -, _, -, hnext⟩ := h
  obtain rfl := Except.ok.inj hnext
  rfl

/-- So no receiver of the old one stays open. -/
theorem workloadsNotified_assign_iff {next : LiveState}
    (h : LiveState.snapshot localNode r process.fresh = .ok next) :
    process.WorkloadsNotified (process.live.assign next) ↔ process.workloadReceivers = [] := by
  constructor
  · intro hnotified
    refine List.eq_nil_iff_forall_not_mem.2 fun receiver hreceiver ↦ ?_
    have hchannel : next.workloads.channel = process.fresh :=
      process.channel_of_snapshot localNode r h
    have hnew : receiver.channel = process.fresh :=
      (hnotified receiver hreceiver).1.trans hchannel
    have hold := (process.workloads_open receiver hreceiver).1
    exact absurd process.fresh_gt.1 (by rw [← hold, hnew]; exact lt_irrefl _)
  · intro hnone receiver hreceiver
    rw [hnone] at hreceiver
    cases hreceiver

/-- **When a reload is as it should be**: if the configuration is refused, or no task subscribes to
workloads. -/
theorem reloads_iff :
    process.Reloads localNode r ↔
      (∃ e, LiveState.snapshot localNode r process.fresh = .error e) ∨
        process.workloadReceivers = [] := by
  rcases hsnapshot : LiveState.snapshot localNode r process.fresh with e | next
  · simp [Reloads, process.loadConfig_of_error localNode r hsnapshot]
  · have hiff := process.workloadsNotified_assign_iff localNode r hsnapshot
    have hpolicies := process.policiesNotified_assign next
    have hholds : Holds (process.live.assign next) next := ⟨rfl, rfl, rfl, rfl⟩
    simp [Reloads, process.loadConfig_of_ok localNode r hsnapshot, hsnapshot, hiff, hpolicies,
      hholds]

/-- A process with an empty state and one task that waits for a workload. -/
def waiting : Process where
  live := .new none 0
  fresh := 2
  policyReceivers := []
  workloadReceivers := [⟨0, 0⟩]
  fresh_gt := by decide
  policies_open := by simp
  workloads_open := by simp [LiveState.new, WorkloadStore.new]

/-- The empty configuration is loaded, and the channel of the task is closed. -/
theorem waiting_closed :
    (waiting.loadConfig none ⟨[], [], [], []⟩).1 = .ok () ∧
      (waiting.loadConfig none ⟨[], [], [], []⟩).2.workloads.channel ≠ 0 ∧
        ¬waiting.Reloads none ⟨[], [], [], []⟩ := by
  refine ⟨rfl, by decide, fun hreloads ↦ ?_⟩
  exact absurd ((hreloads.2 rfl).2.2 ⟨0, 0⟩ (List.mem_singleton.2 rfl)).1 (by decide)

end Process

end Ztunnel.Xds
