import Mathlib.Data.String.Basic
import Ztunnel.Xds.NodeIndex

/-!
# The in-pod firewall controller

`InpodFirewallController` of `inpod.rs`: one task that keeps the firewall of every registered pod in
step with the state. It waits in a `select!` for pod events, policy notifications, workload inserts
and a retry tick; a policy notification starts a debounce window, in which pod events are still
served, and at its end all pods are rebuilt.

The state is read under its lock and the rules are applied later, in the pod's network namespace, so
every read and every call of a backend is an event of its own and state updates fall in between.
What a backend call returns is part of the event, and so is the order in which a read goes through
the sets of UIDs. `applied` is the world outside: the rules last applied in each namespace.
`Stepped` says once what a step can do, for the invariants to go by.
-/

namespace Ztunnel.Firewall

open Ztunnel.State Ztunnel.Rbac Ztunnel.Xds
open Ztunnel.State.WorkloadStore (IterationOrder)

/-! ### Pods -/

/-- `FirewallEvent`. A network namespace is known by its number. -/
inductive FirewallEvent where
  | addPod (uid : Strng) (info : WorkloadInfo) (netns : ℕ)
  | removePod (uid : Strng)
deriving DecidableEq, Repr

/-- `PodState`. -/
inductive PodState where
  | enrolled
  | pendingWorkload
  | initFailed (retries : ℕ)
deriving DecidableEq, Repr

/-- `MAX_INIT_RETRIES`. -/
def maxInitRetries : ℕ := 5

/-- `MAX_CONCURRENT_APPLIES`. -/
def maxConcurrentApplies : ℕ := 16

/-- The controller will retry the pod on its own. -/
def PodState.retryable : PodState → Bool
  | .initFailed retries => retries < maxInitRetries
  | _ => false

/-- `PodFirewallState`. -/
structure PodFirewallState (H : Type) where
  netns : ℕ
  workloadInfo : WorkloadInfo
  lastPolicyHash : H
  state : PodState
  /-- History: what the last apply for the pod returned. -/
  lastApply : Option Bool
deriving DecidableEq, Repr

/-! ### The task -/

/-- The two loops with a `select!`: `run` and `debounce_and_rebuild`. -/
inductive Loop where
  | run
  | debounce
deriving DecidableEq, Repr

/-- The arguments of `try_init_and_apply`. -/
structure PodTask where
  uid : Strng
  info : WorkloadInfo
  netns : ℕ
deriving DecidableEq, Repr

/-- The caller of `try_init_and_apply`. -/
inductive Caller where
  /-- `handle_add_pod`, called from a loop. -/
  | addPod (loop : Loop)
  /-- `retry_init_failed_pods`, with the retries of the pod and the pods after it. -/
  | retry (retries : ℕ) (rest : List Strng)
deriving DecidableEq, Repr

/-- An element of `to_apply`. -/
structure Job (H : Type) where
  uid : Strng
  netns : ℕ
  ruleset : RuleSet
  policyHash : H
deriving DecidableEq, Repr

/-- Where the task is. -/
inductive Phase (H : Type) where
  /-- In the `select!` of a loop. -/
  | idle (loop : Loop)
  /-- In `backend.cleanup()` of `handle_remove_pod`, before the rest of `handle_add_pod` if any. -/
  | cleaning (netns : ℕ) (loop : Loop) (next : Option PodTask)
  /-- In `backend.init()`. -/
  | initializing (pod : PodTask) (caller : Caller)
  /-- After `init`, before the state is read. -/
  | resolving (pod : PodTask) (caller : Caller)
  /-- In `backend.apply()`. -/
  | applying (pod : PodTask) (ruleset : RuleSet) (policyHash : H) (caller : Caller)
  /-- In `rebuild_all_pods`: the jobs not yet done, and the results so far. -/
  | rebuilding (jobs : List (Job H)) (results : List (Strng × H × Bool))
  /-- A workload insert was seen, and the state is not yet read. -/
  | listing
  /-- In `rebuild_pending_workload_pods`. -/
  | rebuildingPending (jobs : List (Job H))
  /-- In `retry_init_failed_pods`. -/
  | retrying (rest : List Strng)
  | stopped
deriving DecidableEq, Repr

/-- `InpodFirewallController`, with its channels and the network namespaces. -/
structure Controller (H : Type) where
  pods : AList fun _ : Strng ↦ PodFirewallState H
  /-- The pod events not yet received. -/
  queue : List FirewallEvent
  /-- The notification counts that the two receivers have seen. -/
  policiesSeen : ℕ
  workloadsSeen : ℕ
  draining : Bool
  phase : Phase H
  /-- The rules last applied in a network namespace. -/
  applied : ℕ → Option RuleSet

/-- What happens to the controller. -/
inductive ControllerEvent where
  /-- A pod event is sent. -/
  | send (e : FirewallEvent)
  | startDrain
  /-- The branches of the `select!`s. -/
  | drain
  | recv
  | policiesChanged
  | debounced (order : IterationOrder) (uids : List Strng)
  | workloadsChanged
  | tick (uids : List Strng)
  /-- The calls of a backend. -/
  | cleanup (ok : Bool)
  | init (ok : Bool)
  | apply (ok : Bool)
  | applyJob (uid : Strng) (ok : Bool)
  | applyPending (ok : Bool)
  /-- A read of the state, or the next turn of a loop. -/
  | resolve (order : IterationOrder)
  | list (order : IterationOrder) (uids : List Strng)
  | next

namespace Controller

variable {H : Type}

/-- The controller before its first event, subscribed to a state. -/
def new (state : ProxyState) : Controller H where
  pods := ∅
  queue := []
  policiesSeen := state.policies.notifier
  workloadsSeen := state.workloads.insertNotifier
  draining := false
  phase := .idle .run
  applied _ := none

/-- `self.pods.get_mut(uid)`, if the pod is there. -/
def modifyPod (c : Controller H) (uid : Strng)
    (f : PodFirewallState H → PodFirewallState H) : Controller H :=
  match c.pods.lookup uid with
  | some ps => { c with pods := c.pods.insert uid (f ps) }
  | none => c

/-- `backend.apply()` in a network namespace. -/
def install (c : Controller H) (netns : ℕ) (ruleset : RuleSet) (ok : Bool) : Controller H :=
  if ok then { c with applied := Function.update c.applied netns (some ruleset) } else c

/-! ### Pod lifecycle -/

/-- `handle_remove_pod`, up to its cleanup. -/
def handleRemovePod (c : Controller H) (uid : Strng) (loop : Loop) : Controller H :=
  match c.pods.lookup uid with
  | some ps => { c with pods := c.pods.erase uid, phase := .cleaning ps.netns loop none }
  | none => { c with phase := .idle loop }

/-- `handle_add_pod`, up to the first call of a backend. -/
def handleAddPod (c : Controller H) (pod : PodTask) (loop : Loop) : Controller H :=
  match c.pods.lookup pod.uid with
  | some existing =>
    if existing.netns = pod.netns then { c with phase := .idle loop }
    else
      { c with
        pods := c.pods.erase pod.uid
        phase := .cleaning existing.netns loop (some pod) }
  | none => { c with phase := .initializing pod (.addPod loop) }

/-- What the caller of `try_init_and_apply` does with its result: `handle_add_pod` inserts the pod,
`retry_init_failed_pods` updates it and counts a failure. -/
def finish (c : Controller H) (pod : PodTask) (caller : Caller) (state : PodState) (policyHash : H)
    (result : Option Bool) : Controller H :=
  match caller with
  | .addPod loop =>
    { c with
      pods := c.pods.insert pod.uid ⟨pod.netns, pod.info, policyHash, state, result⟩
      phase := .idle loop }
  | .retry retries rest =>
    { c.modifyPod pod.uid fun ps ↦
        match state with
        | .initFailed _ =>
          { ps with
            state := .initFailed (retries + 1)
            lastApply := result.or ps.lastApply }
        | _ =>
          { ps with
            state := state
            lastPolicyHash := policyHash
            lastApply := result.or ps.lastApply } with
      phase := .retrying rest }

/-! ### Rebuilds -/

section Rebuild

variable [DecidableEq H] (hash : FirewallInput → H) (state : ProxyState)

/-- The jobs of `rebuild_all_pods`, for a visiting order of the pods: all pods but the failed ones,
where the hash has changed. -/
def rebuildJobs (c : Controller H) (order : IterationOrder) (uids : List Strng) : List (Job H) :=
  uids.filterMap fun uid ↦ (c.pods.lookup uid).bind fun ps ↦
    match ps.state with
    | .initFailed _ => none
    | _ =>
      (resolveWorkloadFirewall order.1 hash state ps.workloadInfo (some ps.lastPolicyHash)).map
        fun (ruleset, policyHash) ↦ ⟨uid, ps.netns, ruleset, policyHash⟩

/-- The jobs of `rebuild_pending_workload_pods`. -/
def pendingJobs (c : Controller H) (order : IterationOrder) (uids : List Strng) : List (Job H) :=
  uids.filterMap fun uid ↦ (c.pods.lookup uid).bind fun ps ↦
    if ps.state = .pendingWorkload then
      (resolveWorkloadFirewall order.1 hash state ps.workloadInfo none).map
        fun (ruleset, policyHash) ↦ ⟨uid, ps.netns, ruleset, policyHash⟩
    else none

/-- `ps.last_policy_hash = policy_hash; ps.state = PodState::Enrolled`. -/
def enroll (c : Controller H) (uid : Strng) (policyHash : H) : Controller H :=
  c.modifyPod uid fun ps ↦ { ps with lastPolicyHash := policyHash, state := .enrolled }

/-- An apply for a registered pod, in the history. -/
def noteApply (c : Controller H) (uid : Strng) (ok : Bool) : Controller H :=
  c.modifyPod uid fun ps ↦ { ps with lastApply := some ok }

/-- The results of `rebuild_all_pods`: a failure is only logged. -/
def recordResults (c : Controller H) : List (Strng × H × Bool) → Controller H
  | [] => c
  | (uid, policyHash, ok) :: results =>
    (if ok then c.enroll uid policyHash else c).recordResults results

/-- The pods that `retry_init_failed_pods` visits. -/
def retryable (c : Controller H) (uids : List Strng) : List Strng :=
  uids.filter fun uid ↦ (c.pods.lookup uid).any (·.state.retryable)

/-! ### Steps -/

/-- The turn of a loop that needs neither the state nor a backend. -/
def next (c : Controller H) : Option (Controller H) :=
  match c.phase with
  | .rebuilding [] results => some { c.recordResults results with phase := .idle .run }
  | .rebuildingPending [] => some { c with phase := .idle .run }
  | .retrying [] => some { c with phase := .idle .run }
  | .retrying (uid :: rest) =>
    match c.pods.lookup uid with
    | some ps =>
      match ps.state with
      | .initFailed retries =>
        some { c with
          phase := .initializing ⟨uid, ps.workloadInfo, ps.netns⟩ (.retry retries rest) }
      | _ => some { c with phase := .retrying rest }
    | none => some { c with phase := .retrying rest }
  | _ => none

/-- A read of the state by `try_init_and_apply`. -/
def resolve [Zero H] (c : Controller H) (order : IterationOrder) : Option (Controller H) :=
  match c.phase with
  | .resolving pod caller =>
    match resolveWorkloadFirewall order.1 hash state pod.info none with
    | some (ruleset, policyHash) =>
      some { c with phase := .applying pod ruleset policyHash caller }
    | none => some (c.finish pod caller .pendingWorkload 0 none)
  | _ => none

/-- A call of a backend returns. -/
def backend [Zero H] (c : Controller H) : ControllerEvent → Option (Controller H)
  | .cleanup ok =>
    match c.phase with
    | .cleaning netns loop next =>
      let applied := if ok then Function.update c.applied netns none else c.applied
      match next with
      | some pod => some { c with applied := applied, phase := .initializing pod (.addPod loop) }
      | none => some { c with applied := applied, phase := .idle loop }
    | _ => none
  | .init ok =>
    match c.phase with
    | .initializing pod caller =>
      if ok then some { c with phase := .resolving pod caller }
      else some (c.finish pod caller (.initFailed 0) 0 none)
    | _ => none
  | .apply ok =>
    match c.phase with
    | .applying pod ruleset policyHash caller =>
      if ok then
        some ((c.install pod.netns ruleset true).finish pod caller .enrolled policyHash (some true))
      else some (c.finish pod caller (.initFailed 0) 0 (some false))
    | _ => none
  | .applyJob uid ok =>
    match c.phase with
    | .rebuilding jobs results =>
      -- the jobs run concurrently, `MAX_CONCURRENT_APPLIES` at a time
      ((jobs.take maxConcurrentApplies).find? (·.uid = uid)).map fun job ↦
        { (c.install job.netns job.ruleset ok).noteApply uid ok with
          phase := .rebuilding (jobs.filter (·.uid ≠ uid))
            (results ++ [(uid, job.policyHash, ok)]) }
    | _ => none
  | .applyPending ok =>
    match c.phase with
    | .rebuildingPending (job :: jobs) =>
      let c := (c.install job.netns job.ruleset ok).noteApply job.uid ok
      some { (if ok then c.enroll job.uid job.policyHash else c) with
        phase := .rebuildingPending jobs }
    | _ => none
  | _ => none

/-- A branch of a `select!`. -/
def select (c : Controller H) (loop : Loop) : ControllerEvent → Option (Controller H)
  | .drain =>
    if c.draining then
      match loop with
      | .run => some { c with phase := .stopped }
      | .debounce => some { c with phase := .idle .run }
    else none
  | .recv =>
    match c.queue with
    | .addPod uid info netns :: queue =>
      some ({ c with queue := queue }.handleAddPod ⟨uid, info, netns⟩ loop)
    | .removePod uid :: queue => some ({ c with queue := queue }.handleRemovePod uid loop)
    | [] => none
  | .policiesChanged =>
    if c.policiesSeen ≠ state.policies.notifier then
      some { c with policiesSeen := state.policies.notifier, phase := .idle .debounce }
    else none
  | .debounced order uids =>
    if loop = .debounce ∧ uids.Perm c.pods.keys then
      some { c with phase := .rebuilding (c.rebuildJobs hash state order uids) [] }
    else none
  | .workloadsChanged =>
    if loop = .run ∧ c.workloadsSeen ≠ state.workloads.insertNotifier then
      some { c with workloadsSeen := state.workloads.insertNotifier, phase := .listing }
    else none
  | .tick uids =>
    if loop = .run ∧ uids.Perm c.pods.keys ∧ c.retryable uids ≠ [] then
      some { c with phase := .retrying (c.retryable uids) }
    else none
  | _ => none

/-- **One step of the controller**, in the given state. -/
def step [Zero H] (c : Controller H) (e : ControllerEvent) : Option (Controller H) :=
  match e with
  | .send event => some { c with queue := c.queue ++ [event] }
  | .startDrain => some { c with draining := true }
  | .resolve order => c.resolve hash state order
  | .list order uids =>
    if c.phase = .listing ∧ uids.Perm c.pods.keys then
      some { c with phase := .rebuildingPending (c.pendingJobs hash state order uids) }
    else none
  | .next => c.next
  | .cleanup _ | .init _ | .apply _ | .applyJob _ _ | .applyPending _ => c.backend e
  | .drain | .recv | .policiesChanged | .debounced _ _ | .workloadsChanged | .tick _ =>
    match c.phase with
    | .idle loop => c.select hash state loop e
    | _ => none

/-- What a step of the controller does. -/
inductive Stepped [Zero H] (c : Controller H) : ControllerEvent → Controller H → Prop
  | sent (event : FirewallEvent) : Stepped c (.send event) { c with queue := c.queue ++ [event] }
  | startedDrain : Stepped c .startDrain { c with draining := true }
  /-- `try_init_and_apply` finds the workload, or does not. -/
  | resolved (order : IterationOrder) (pod : PodTask) (caller : Caller) (ruleset : RuleSet)
    (policyHash : H) (hphase : c.phase = .resolving pod caller)
    (hresolve : resolveWorkloadFirewall order.1 hash state pod.info none =
      some (ruleset, policyHash)) :
    Stepped c (.resolve order) { c with phase := .applying pod ruleset policyHash caller }
  | missing (order : IterationOrder) (pod : PodTask) (caller : Caller)
    (hphase : c.phase = .resolving pod caller)
    (hresolve : resolveWorkloadFirewall order.1 hash state pod.info none = none) :
    Stepped c (.resolve order) (c.finish pod caller .pendingWorkload 0 none)
  | listed (order : IterationOrder) (uids : List Strng) (hphase : c.phase = .listing)
    (hperm : uids.Perm c.pods.keys) :
    Stepped c (.list order uids)
      { c with phase := .rebuildingPending (c.pendingJobs hash state order uids) }
  | recorded (results : List (Strng × H × Bool)) (hphase : c.phase = .rebuilding [] results) :
    Stepped c .next { c.recordResults results with phase := .idle .run }
  | rebuilt (hphase : c.phase = .rebuildingPending []) :
    Stepped c .next { c with phase := .idle .run }
  | retried (hphase : c.phase = .retrying []) : Stepped c .next { c with phase := .idle .run }
  /-- A pod has left since the tick, or is not failed any more. -/
  | skipped (uid : Strng) (rest : List Strng) (hphase : c.phase = .retrying (uid :: rest)) :
    Stepped c .next { c with phase := .retrying rest }
  | retrying (uid : Strng) (rest : List Strng) (ps : PodFirewallState H) (retries : ℕ)
    (hphase : c.phase = .retrying (uid :: rest)) :
    Stepped c .next
      { c with phase := .initializing ⟨uid, ps.workloadInfo, ps.netns⟩ (.retry retries rest) }
  | cleaned (netns : ℕ) (loop : Loop) (ok : Bool) (hphase : c.phase = .cleaning netns loop none) :
    Stepped c (.cleanup ok)
      { c with
        applied := if ok then Function.update c.applied netns none else c.applied
        phase := .idle loop }
  | replaced (netns : ℕ) (loop : Loop) (pod : PodTask) (ok : Bool)
    (hphase : c.phase = .cleaning netns loop (some pod)) :
    Stepped c (.cleanup ok)
      { c with
        applied := if ok then Function.update c.applied netns none else c.applied
        phase := .initializing pod (.addPod loop) }
  | initialized (pod : PodTask) (caller : Caller) (hphase : c.phase = .initializing pod caller) :
    Stepped c (.init true) { c with phase := .resolving pod caller }
  | initFailed (pod : PodTask) (caller : Caller) (hphase : c.phase = .initializing pod caller) :
    Stepped c (.init false) (c.finish pod caller (.initFailed 0) 0 none)
  | applied (pod : PodTask) (ruleset : RuleSet) (policyHash : H) (caller : Caller)
    (hphase : c.phase = .applying pod ruleset policyHash caller) :
    Stepped c (.apply true)
      ((c.install pod.netns ruleset true).finish pod caller .enrolled policyHash (some true))
  | applyFailed (pod : PodTask) (ruleset : RuleSet) (policyHash : H) (caller : Caller)
    (hphase : c.phase = .applying pod ruleset policyHash caller) :
    Stepped c (.apply false) (c.finish pod caller (.initFailed 0) 0 (some false))
  | appliedJob (jobs : List (Job H)) (results : List (Strng × H × Bool)) (job : Job H) (ok : Bool)
    (hphase : c.phase = .rebuilding jobs results) (hjob : job ∈ jobs) :
    Stepped c (.applyJob job.uid ok)
      { (c.install job.netns job.ruleset ok).noteApply job.uid ok with
        phase := .rebuilding (jobs.filter (·.uid ≠ job.uid))
          (results ++ [(job.uid, job.policyHash, ok)]) }
  | appliedPending (job : Job H) (jobs : List (Job H))
    (hphase : c.phase = .rebuildingPending (job :: jobs)) :
    Stepped c (.applyPending true)
      { ((c.install job.netns job.ruleset true).noteApply job.uid true).enroll job.uid
          job.policyHash with
        phase := .rebuildingPending jobs }
  | pendingFailed (job : Job H) (jobs : List (Job H))
    (hphase : c.phase = .rebuildingPending (job :: jobs)) :
    Stepped c (.applyPending false)
      { (c.install job.netns job.ruleset false).noteApply job.uid false with
        phase := .rebuildingPending jobs }
  | stopped (hphase : c.phase = .idle .run) (hdraining : c.draining = true) :
    Stepped c .drain { c with phase := .stopped }
  | interrupted (hphase : c.phase = .idle .debounce) (hdraining : c.draining = true) :
    Stepped c .drain { c with phase := .idle .run }
  | removed (uid : Strng) (queue : List FirewallEvent) (loop : Loop) (ps : PodFirewallState H)
    (hphase : c.phase = .idle loop) (hqueue : c.queue = .removePod uid :: queue)
    (hps : c.pods.lookup uid = some ps) :
    Stepped c .recv
      { c with
        queue := queue
        pods := c.pods.erase uid
        phase := .cleaning ps.netns loop none }
  /-- A pod is removed that is not there, or is added where it is. -/
  | ignored (queue : List FirewallEvent) (loop : Loop) (hphase : c.phase = .idle loop) :
    Stepped c .recv { c with queue := queue, phase := .idle loop }
  | moved (pod : PodTask) (queue : List FirewallEvent) (loop : Loop)
    (existing : PodFirewallState H) (hphase : c.phase = .idle loop)
    (hqueue : c.queue = .addPod pod.uid pod.info pod.netns :: queue)
    (hps : c.pods.lookup pod.uid = some existing) :
    Stepped c .recv
      { c with
        queue := queue
        pods := c.pods.erase pod.uid
        phase := .cleaning existing.netns loop (some pod) }
  | added (pod : PodTask) (queue : List FirewallEvent) (loop : Loop)
    (hphase : c.phase = .idle loop)
    (hqueue : c.queue = .addPod pod.uid pod.info pod.netns :: queue)
    (hnone : c.pods.lookup pod.uid = none) :
    Stepped c .recv { c with queue := queue, phase := .initializing pod (.addPod loop) }
  | policiesChanged (loop : Loop) (hphase : c.phase = .idle loop) :
    Stepped c .policiesChanged
      { c with policiesSeen := state.policies.notifier, phase := .idle .debounce }
  | debounced (order : IterationOrder) (uids : List Strng) (hphase : c.phase = .idle .debounce)
    (hperm : uids.Perm c.pods.keys) :
    Stepped c (.debounced order uids)
      { c with phase := .rebuilding (c.rebuildJobs hash state order uids) [] }
  | workloadsChanged (hphase : c.phase = .idle .run) :
    Stepped c .workloadsChanged
      { c with workloadsSeen := state.workloads.insertNotifier, phase := .listing }
  | ticked (uids : List Strng) (hphase : c.phase = .idle .run)
    (hretryable : c.retryable uids ≠ []) :
    Stepped c (.tick uids) { c with phase := .retrying (c.retryable uids) }

section Inversion

variable {hash state} [Zero H] {c c' : Controller H}

theorem stepped_of_resolve {order : IterationOrder} (h : c.resolve hash state order = some c') :
    Stepped hash state c (.resolve order) c' := by
  unfold resolve at h
  split at h
  · next pod caller hphase =>
    split at h
    · next ruleset policyHash hresolve =>
      obtain rfl := Option.some.inj h
      exact .resolved order pod caller ruleset policyHash hphase hresolve
    · next hresolve =>
      obtain rfl := Option.some.inj h
      exact .missing order pod caller hphase hresolve
  · cases h

theorem stepped_of_next (h : c.next = some c') : Stepped hash state c .next c' := by
  unfold Controller.next at h
  split at h
  · next results hphase =>
    obtain rfl := Option.some.inj h
    exact .recorded results hphase
  · next hphase =>
    obtain rfl := Option.some.inj h
    exact .rebuilt hphase
  · next hphase =>
    obtain rfl := Option.some.inj h
    exact .retried hphase
  · next uid rest hphase =>
    split at h
    · next ps hps =>
      split at h
      · next retries hstate =>
        obtain rfl := Option.some.inj h
        exact .retrying uid rest ps retries hphase
      · obtain rfl := Option.some.inj h
        exact .skipped uid rest hphase
    · obtain rfl := Option.some.inj h
      exact .skipped uid rest hphase
  · cases h

theorem stepped_of_backend {e : ControllerEvent} (h : c.backend e = some c') :
    Stepped hash state c e c' := by
  cases e with
  | cleanup ok =>
    dsimp only [backend] at h
    split at h
    · next netns loop after hphase =>
      split at h
      · next pod =>
        obtain rfl := Option.some.inj h
        exact .replaced netns loop pod ok hphase
      · obtain rfl := Option.some.inj h
        exact .cleaned netns loop ok hphase
    · cases h
  | init ok =>
    dsimp only [backend] at h
    split at h
    · next pod caller hphase =>
      cases ok with
      | true =>
        obtain rfl := Option.some.inj h
        exact .initialized pod caller hphase
      | false =>
        obtain rfl := Option.some.inj h
        exact .initFailed pod caller hphase
    · cases h
  | apply ok =>
    dsimp only [backend] at h
    split at h
    · next pod ruleset policyHash caller hphase =>
      cases ok with
      | true =>
        obtain rfl := Option.some.inj h
        exact .applied pod ruleset policyHash caller hphase
      | false =>
        obtain rfl := Option.some.inj h
        exact .applyFailed pod ruleset policyHash caller hphase
    · cases h
  | applyJob uid ok =>
    dsimp only [backend] at h
    split at h
    · next jobs results hphase =>
      obtain ⟨job, hfind, rfl⟩ := Option.map_eq_some_iff.1 h
      obtain rfl : job.uid = uid := by simpa using List.find?_some hfind
      have hjob : job ∈ jobs := List.mem_of_mem_take (List.mem_of_find?_eq_some hfind)
      exact .appliedJob jobs results job ok hphase hjob
    · cases h
  | applyPending ok =>
    dsimp only [backend] at h
    split at h
    · next job jobs hphase =>
      cases ok with
      | true =>
        obtain rfl := Option.some.inj h
        exact .appliedPending job jobs hphase
      | false =>
        obtain rfl := Option.some.inj h
        exact .pendingFailed job jobs hphase
    · cases h
  | _ => cases h

/-- A pod event is received: a pod that is removed, or added again elsewhere, leaves the map first.
-/
theorem stepped_of_recv {loop : Loop} (hphase : c.phase = .idle loop)
    (h : c.select hash state loop .recv = some c') :
    Stepped hash state c .recv c' := by
  dsimp only [select] at h
  split at h
  · next uid info netns queue hqueue =>
    obtain rfl := Option.some.inj h
    unfold handleAddPod
    split
    · next existing hps =>
      split
      · exact .ignored queue loop hphase
      · exact .moved ⟨uid, info, netns⟩ queue loop existing hphase hqueue hps
    · next hnone => exact .added ⟨uid, info, netns⟩ queue loop hphase hqueue hnone
  · next uid queue hqueue =>
    obtain rfl := Option.some.inj h
    unfold handleRemovePod
    split
    · next ps hps => exact .removed uid queue loop ps hphase hqueue hps
    · exact .ignored queue loop hphase
  · cases h

theorem stepped_of_select {loop : Loop} (hphase : c.phase = .idle loop) {e : ControllerEvent}
    (h : c.select hash state loop e = some c') : Stepped hash state c e c' := by
  cases e with
  | drain =>
    obtain ⟨hdraining, hsome⟩ := Option.ite_none_right_eq_some.1 h
    cases loop with
    | run =>
      obtain rfl := Option.some.inj hsome
      exact .stopped hphase hdraining
    | debounce =>
      obtain rfl := Option.some.inj hsome
      exact .interrupted hphase hdraining
  | recv => exact stepped_of_recv hphase h
  | policiesChanged =>
    obtain ⟨-, rfl⟩ := Option.ite_some_none_eq_some.1 h
    exact .policiesChanged loop hphase
  | debounced order uids =>
    obtain ⟨⟨rfl, hperm⟩, rfl⟩ := Option.ite_some_none_eq_some.1 h
    exact .debounced order uids hphase hperm
  | workloadsChanged =>
    obtain ⟨⟨rfl, -⟩, rfl⟩ := Option.ite_some_none_eq_some.1 h
    exact .workloadsChanged hphase
  | tick uids =>
    obtain ⟨⟨rfl, -, hretryable⟩, rfl⟩ := Option.ite_some_none_eq_some.1 h
    exact .ticked uids hphase hretryable
  | _ => cases h

theorem stepped_of_step {e : ControllerEvent} (h : c.step hash state e = some c') :
    Stepped hash state c e c' := by
  cases e with
  | send event =>
    obtain rfl := Option.some.inj h
    exact .sent event
  | startDrain =>
    obtain rfl := Option.some.inj h
    exact .startedDrain
  | resolve => exact stepped_of_resolve h
  | list order uids =>
    obtain ⟨⟨hphase, hperm⟩, rfl⟩ := Option.ite_some_none_eq_some.1 h
    exact .listed order uids hphase hperm
  | next => exact stepped_of_next h
  | cleanup | init | apply | applyJob | applyPending => exact stepped_of_backend h
  | drain | recv | policiesChanged | debounced | workloadsChanged | tick =>
    dsimp only [step] at h
    split at h
    · next loop hphase => exact stepped_of_select hphase h
    · cases h

end Inversion

end Rebuild

/-! ### The map of pods -/

theorem lookup_modifyPod (c : Controller H) (uid uid' : Strng)
    (f : PodFirewallState H → PodFirewallState H) :
    (c.modifyPod uid f).pods.lookup uid' =
      if uid' = uid then (c.pods.lookup uid).map f else c.pods.lookup uid' := by
  unfold modifyPod
  split
  · next ps hl =>
    by_cases heq : uid' = uid
    · subst heq
      simp only [AList.lookup_insert, if_true, hl, Option.map_some]
    · simp only [AList.lookup_insert_ne heq, if_neg heq]
  · next hl =>
    split
    · next heq => rw [heq, hl, Option.map_none]
    · rfl

/-- A visiting order of the pods has every pod. -/
theorem mem_of_perm_keys {c : Controller H} {uids : List Strng}
    (hperm : uids.Perm c.pods.keys) {uid : Strng} {ps : PodFirewallState H}
    (hps : c.pods.lookup uid = some ps) : uid ∈ uids := by
  refine hperm.mem_iff.2 (AList.mem_keys.1 (AList.lookup_isSome.1 ?_))
  rw [hps, Option.isSome_some]

/-- What a change of pods leaves alone. -/
theorem modifyPod_eq (c : Controller H) (uid : Strng)
    (f : PodFirewallState H → PodFirewallState H) :
    c.modifyPod uid f = { c with pods := (c.modifyPod uid f).pods } := by
  unfold modifyPod
  split <;> rfl

/-- An apply for a registered pod: the history of the pod and the rules of the namespace change. -/
theorem noteApply_install (c : Controller H) (netns : ℕ) (ruleset : RuleSet)
    (uid : Strng) :
    (c.install netns ruleset true).noteApply uid true =
      { c with
        pods := (c.noteApply uid true).pods
        applied := Function.update c.applied netns (some ruleset) } := by
  unfold noteApply modifyPod install
  simp only [if_true]
  split <;> rfl

theorem lookup_noteApply {c : Controller H} {uid uid' : Strng} {ok : Bool}
    {ps' : PodFirewallState H} (h : (c.noteApply uid ok).pods.lookup uid' = some ps') :
    ∃ ps, c.pods.lookup uid' = some ps ∧ ∃ result, ps' = { ps with lastApply := result } := by
  rw [noteApply, lookup_modifyPod] at h
  split at h
  · next heq =>
    obtain ⟨ps, hps, rfl⟩ := Option.map_eq_some_iff.1 h
    exact ⟨ps, heq ▸ hps, some ok, rfl⟩
  · exact ⟨ps', h, ps'.lastApply, rfl⟩

theorem lookup_noteApply_of_some {c : Controller H} (uid : Strng) (ok : Bool)
    {uid' : Strng} {ps : PodFirewallState H} (h : c.pods.lookup uid' = some ps) :
    ∃ result, (c.noteApply uid ok).pods.lookup uid' = some { ps with lastApply := result } := by
  rw [noteApply, lookup_modifyPod]
  split
  · next heq =>
    rw [← heq, h, Option.map_some]
    exact ⟨some ok, rfl⟩
  · exact ⟨ps.lastApply, h⟩

theorem recordResults_eq (results : List (Strng × H × Bool)) (c : Controller H) :
    c.recordResults results = { c with pods := (c.recordResults results).pods } := by
  induction results generalizing c with
  | nil => rfl
  | cons r results ih =>
    obtain ⟨uid, policyHash, ok⟩ := r
    rw [recordResults]
    cases ok
    · exact ih c
    · rw [if_pos rfl, ih, enroll, modifyPod_eq]

/-- The pods after the results: a pod with a success is enrolled with the hash of one of its
successes. -/
theorem lookup_recordResults (results : List (Strng × H × Bool)) (c : Controller H) (uid : Strng) :
    ((∀ r ∈ results, r.2.2 = true → r.1 ≠ uid) ∧
      (c.recordResults results).pods.lookup uid = c.pods.lookup uid) ∨
    ∃ r ∈ results, r.1 = uid ∧
      (c.recordResults results).pods.lookup uid =
        (c.pods.lookup uid).map fun ps ↦
          { ps with lastPolicyHash := r.2.1, state := .enrolled } := by
  induction results generalizing c with
  | nil => exact .inl ⟨fun _ hr ↦ absurd hr List.not_mem_nil, rfl⟩
  | cons r results ih =>
    obtain ⟨u, policyHash, ok⟩ := r
    rw [recordResults]
    cases ok with
    | false =>
      refine (ih c).imp (fun ⟨hnot, hlookup⟩ ↦ ⟨?_, hlookup⟩) fun ⟨r, hr, h⟩ ↦
        ⟨r, List.mem_cons_of_mem _ hr, h⟩
      exact List.forall_mem_cons.2 ⟨(fun hfalse ↦ nomatch hfalse), hnot⟩
    | true =>
      rw [if_pos rfl]
      have henroll := c.lookup_modifyPod u uid fun ps ↦
        { ps with lastPolicyHash := policyHash, state := .enrolled }
      obtain ⟨hnot, hlookup⟩ | ⟨r, hr, hruid, hlookup⟩ := ih (c.enroll u policyHash)
      · rw [hlookup, enroll, henroll]
        by_cases heq : uid = u
        · subst heq
          rw [if_pos rfl]
          exact .inr ⟨_, List.mem_cons_self, rfl, rfl⟩
        · rw [if_neg heq]
          exact .inl ⟨List.forall_mem_cons.2 ⟨fun _ ↦ Ne.symm heq, hnot⟩, rfl⟩
      · refine .inr ⟨r, List.mem_cons_of_mem _ hr, hruid, ?_⟩
        -- the later result overwrites the earlier one
        rw [hlookup, enroll, henroll]
        by_cases heq : uid = u
        · subst heq
          rw [if_pos rfl, Option.map_map]
          rfl
        · rw [if_neg heq]

end Controller

/-! ### The controller and the state -/

/-- Where the state comes from, and how it is updated. -/
structure FirewallSource (σ U : Type*) where
  state : σ → ProxyState
  apply : σ → U → σ

/-- A controller over a source. -/
structure FirewallSystem (σ : Type*) (H : Type) where
  source : σ
  controller : Controller H

/-- An event of the controller or a state update. -/
inductive FirewallSystemEvent (U : Type*) where
  | controller (e : ControllerEvent)
  | update (u : U)

/-- **One step of the system.** -/
def FirewallSource.step {σ U : Type*} {H : Type} [DecidableEq H] [Zero H]
    (source : FirewallSource σ U) (hash : FirewallInput → H) (s : FirewallSystem σ H) :
    FirewallSystemEvent U → Option (FirewallSystem σ H)
  | .controller e =>
    (s.controller.step hash (source.state s.source) e).map fun c ↦ { s with controller := c }
  | .update u => some { s with source := source.apply s.source u }

/-- The controller subscribes and has no pods. -/
def FirewallSource.start {σ U : Type*} {H : Type} (source : FirewallSource σ U) (s : σ) :
    FirewallSystem σ H where
  source := s
  controller := .new (source.state s)

/-- **State updates followed by their notifications.** What the firewall of a pod is made of does
not depend on the order in which it is read, changes only with a policy notification, and appears
only with an insert notification. -/
structure FirewallFeed (σ U : Type*) extends FirewallSource σ U where
  agree : ∀ s (order order' : IterationOrder) info,
    firewallInput order.1 (state s) info = firewallInput order'.1 (state s) info
  policies_le : ∀ s u, (state s).policies.notifier ≤ (state (apply s u)).policies.notifier
  inserts_le : ∀ s u,
    (state s).workloads.insertNotifier ≤ (state (apply s u)).workloads.insertNotifier
  announced : ∀ s u (order : IterationOrder) info,
    firewallInput order.1 (state (apply s u)) info ≠ firewallInput order.1 (state s) info →
      (state s).policies.notifier < (state (apply s u)).policies.notifier
  inserted : ∀ s u (order : IterationOrder) info, firewallInput order.1 (state s) info = none →
    firewallInput order.1 (state (apply s u)) info ≠ none →
      (state s).workloads.insertNotifier < (state (apply s u)).workloads.insertNotifier

/-- **The handlers of xDS batches**, where a UID keeps its attributes and no two UIDs of the node
share name, namespace and service account. -/
def FirewallFeed.xds (decoders : Decoders) (attributes : Strng → NodeAttributes) :
    FirewallFeed { s : ProxyState // Indexed attributes s }
      { batch : Batch // batch.Keeps attributes decoders } where
  state := Subtype.val
  apply s batch := ⟨(batch.1.handle decoders s.1).2, s.2.handle batch.2⟩
  agree s := firewallInput_agree s.2
  policies_le s batch := (announced_handle decoders s.2.keys batch.1).1.mono
  inserts_le s batch := (grown_handle decoders s.1 batch.1).mono
  announced s batch order _ hne := firewallInput_announced s.2 batch.2 order hne
  inserted s batch order _ hnone hsome := firewallInput_inserted s.2 batch.2 order hnone hsome

/-- Nothing is pending and the controller is back in its `select!`. -/
def Controller.Quiescent {H : Type} (state : ProxyState) (c : Controller H) : Prop :=
  c.phase = .idle .run ∧ c.queue = [] ∧ c.policiesSeen = state.policies.notifier ∧
    c.workloadsSeen = state.workloads.insertNotifier ∧ c.draining = false

instance {H : Type} [DecidableEq H] (state : ProxyState) (c : Controller H) :
    Decidable (c.Quiescent state) :=
  inferInstanceAs (Decidable (_ ∧ _))

/-! ### A sample node -/

/-- An iteration order that can be evaluated. -/
def sortedUids : IterationOrder where
  val set := Quot.liftOn set.1 (fun l : List Strng ↦ l.insertionSort (· ≤ ·)) fun l l' h ↦ by
    have hperm : (l.insertionSort (· ≤ ·)).Perm (l'.insertionSort (· ≤ ·)) :=
      (l.perm_insertionSort _).trans (h.trans (l'.perm_insertionSort _).symm)
    exact hperm.eq_of_pairwise' (l.pairwise_insertionSort _) (l'.pairwise_insertionSort _)
  property := by
    rintro ⟨⟨l⟩, hl⟩ uid
    exact (l.perm_insertionSort _).mem_iff

/-- On the sample node a workload is named, and runs, as its UID. -/
def podAttributes (uid : Strng) : NodeAttributes :=
  ⟨"node", uid, "ns", uid⟩

def podInfo (uid : Strng) : WorkloadInfo :=
  ⟨uid, "ns", uid⟩

/-- Decoders under which every reference extension binds no policy. -/
def unrestrictedDecoders : Decoders where
  policyReference _ := .ok ⟨trafficPolicyType, []⟩
  otherExtension _ := .ok ()

/-- A workload without binding, which is denied everything. -/
def deniedPod (uid : Strng) : XdsWorkload :=
  { unboundWorkload with uid := uid, name := uid, serviceAccount := uid }

/-- A workload bound to no policy, which is allowed everything. -/
def allowedPod (uid : Strng) : XdsWorkload :=
  { deniedPod uid with
    extensions :=
      [⟨"traffic-policy-reference",
        some ⟨"type.googleapis.com/kruise.networking.extensions.v1.PolicyReference", []⟩⟩] }

/-- A hash without collisions: the input itself, next to the initial zero. -/
inductive InputHash where
  | initial
  | of (input : FirewallInput)
deriving DecidableEq

instance : Zero InputHash := ⟨.initial⟩

/-- The sample node with two workloads, of which the second is denied everything. -/
def podSource : { s : ProxyState // Indexed podAttributes s } where
  val := ((Batch.workloads [.update ⟨"a", allowedPod "a"⟩, .update ⟨"b", deniedPod "b"⟩]).handle
    unrestrictedDecoders (.new none)).2
  property := by
    refine Indexed.handle ⟨keysMatch_new none, .new none fun _ _ ↦ congrArg WorkloadInfo.name⟩
      (Batch.keeps_workloads _ ?_)
    intro resource hmem
    simp only [List.mem_cons, List.not_mem_nil, or_false, XdsUpdate.update.injEq] at hmem
    obtain rfl | rfl := hmem <;> decide

def podFeed := FirewallFeed.xds unrestrictedDecoders podAttributes

/-- The events by which a pod is added. -/
def addPodRun {U : Type*} (uid : Strng) (netns : ℕ) : List (FirewallSystemEvent U) :=
  [.controller (.send (.addPod uid (podInfo uid) netns)), .controller .recv,
    .controller (.init true), .controller (.resolve sortedUids), .controller (.apply true)]

/-- The binding of the first pod is taken away. -/
def denyPod : { batch : Batch // batch.Keeps podAttributes unrestrictedDecoders } where
  val := .workloads [.update ⟨"a", deniedPod "a"⟩]
  property := by
    refine Batch.keeps_workloads _ fun resource hmem ↦ ?_
    simp only [List.mem_cons, List.not_mem_nil, or_false, XdsUpdate.update.injEq] at hmem
    obtain rfl := hmem
    decide

end Ztunnel.Firewall
