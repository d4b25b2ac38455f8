import Ztunnel.Firewall.Controller

/-!
# No firewall update is lost

The controller reads the state at one moment and applies what it read at another, skips a pod by a
stored hash, and serves two receivers of which one is drained in a nested loop. `Tracked` is the
invariant that no change falls through: for a registered pod

* an enrolled pod has the rules of some input applied, whose hash is stored; and that hash is the
  one of the current input, or a rebuild that will look at the pod is *due*: a policy notification
  is pending, the debounce window is open, or a rebuild has a job for it;
* a pending pod has no workload, or a rebuild of the pending pods is due.

Backends that fail are outside of this result, and so are two pods in one network namespace, where
each would overwrite the rules of the other: `SoundStep` excludes both. So are two workloads with
the attributes of one pod, of which either may be found: `FirewallFeed.xds` excludes them.
-/

namespace Ztunnel.Firewall

open Ztunnel.State Ztunnel.Rbac Ztunnel.Xds Transition
open Ztunnel.State.WorkloadStore (IterationOrder)

variable {H : Type}

/-! ### What is due -/

/-- The caller returns to the debounce window. -/
def Caller.debouncing : Caller → Bool
  | .addPod .debounce => true
  | _ => false

/-- A pod is being added, not retried. -/
def Caller.isAddPod : Caller → Bool
  | .addPod _ => true
  | .retry _ _ => false

namespace Phase

/-- The debounce window is open: all pods are rebuilt at its end. -/
def debouncing : Phase H → Bool
  | .idle .debounce | .cleaning _ .debounce _ => true
  | .initializing _ caller | .resolving _ caller | .applying _ _ _ caller => caller.debouncing
  | _ => false

/-- The pods with a result that is not recorded yet. -/
def resultUids : Phase H → List Strng
  | .rebuilding _ results => results.map (·.1)
  | _ => []

/-- The pods that the rebuild deals with. -/
def rebuildUids : Phase H → List Strng
  | .rebuilding jobs results => jobs.map (·.uid) ++ results.map (·.1)
  | _ => []

/-- The pods that the rebuild of the pending pods deals with. -/
def pendingUids : Phase H → List Strng
  | .rebuildingPending jobs => jobs.map (·.uid)
  | _ => []

/-- No rebuild is going on. -/
def isQuiet : Phase H → Bool
  | .rebuilding _ _ | .listing | .rebuildingPending _ => false
  | _ => true

theorem resultUids_of_isQuiet {phase : Phase H} (h : phase.isQuiet = true) :
    phase.resultUids = [] := by
  cases phase <;> first | rfl | cases h

theorem rebuildUids_of_isQuiet {phase : Phase H} (h : phase.isQuiet = true) :
    phase.rebuildUids = [] := by
  cases phase <;> first | rfl | cases h

theorem pendingUids_of_isQuiet {phase : Phase H} (h : phase.isQuiet = true) :
    phase.pendingUids = [] := by
  cases phase <;> first | rfl | cases h

theorem debouncing_idle (loop : Loop) :
    (idle loop : Phase H).debouncing = (Caller.addPod loop).debouncing := by
  cases loop <;> rfl

theorem debouncing_cleaning (netns : ℕ) (loop : Loop) (next : Option PodTask) :
    (cleaning netns loop next : Phase H).debouncing = (Caller.addPod loop).debouncing := by
  cases loop <;> rfl

end Phase

section Tracked

variable (order : IterationOrder) (hash : FirewallInput → H) (state : ProxyState)

/-- A rebuild will look at the pod, or the controller is about to stop. -/
def Controller.PolicyDue (c : Controller H) (uid : Strng) : Prop :=
  c.draining = true ∨ c.policiesSeen ≠ state.policies.notifier ∨ c.phase.debouncing = true ∨
    uid ∈ c.phase.rebuildUids

/-- A rebuild of the pending pods will look at the pod. -/
def Controller.InsertDue (c : Controller H) (uid : Strng) : Prop :=
  c.workloadsSeen ≠ state.workloads.insertNotifier ∨ c.phase = .listing ∨
    uid ∈ c.phase.pendingUids

/-- The stored hash is the one of the current input. -/
def PodFirewallState.Current (ps : PodFirewallState H) : Prop :=
  ∀ input, firewallInput order.1 state ps.workloadInfo = some input → ps.lastPolicyHash = hash input

/-- What holds of a registered pod. -/
def Controller.PodOk (c : Controller H) (uid : Strng) (ps : PodFirewallState H) : Prop :=
  match ps.state with
  | .enrolled =>
    (∃ input, ps.lastPolicyHash = hash input ∧
      (uid ∈ c.phase.resultUids ∨ c.applied ps.netns = some input.ruleset)) ∧
    (ps.Current order hash state ∨ c.PolicyDue state uid)
  | .pendingWorkload =>
    firewallInput order.1 state ps.workloadInfo = none ∨ c.InsertDue state uid
  | .initFailed _ => False

/-- An input that was read for a pod is the current one, or a notification is pending. -/
def Controller.Stands (c : Controller H) (input : FirewallInput) (info : WorkloadInfo) : Prop :=
  firewallInput order.1 state info = some input ∨ c.policiesSeen ≠ state.policies.notifier

/-- A rule set and a hash that were read for a registered pod. -/
def Controller.ReadFor (c : Controller H) (uid : Strng) (netns : ℕ) (ruleset : RuleSet)
    (policyHash : H) : Prop :=
  ∃ ps input, c.pods.lookup uid = some ps ∧ ps.netns = netns ∧ input.ruleset = ruleset ∧
    hash input = policyHash ∧ c.Stands order state input ps.workloadInfo

/-- A pod that is being added has neither its UID nor its network namespace in the map. -/
def Controller.Fresh (c : Controller H) (pod : PodTask) : Prop :=
  c.pods.lookup pod.uid = none ∧
    ∀ uid ps, c.pods.lookup uid = some ps → ps.netns ≠ pod.netns

/-- What holds in a phase. -/
def Controller.PhaseOk (c : Controller H) : Phase H → Prop
  | .idle _ | .listing | .stopped => True
  | .cleaning netns _ next =>
    (∀ uid ps, c.pods.lookup uid = some ps → ps.netns ≠ netns) ∧ ∀ pod ∈ next, c.Fresh pod
  | .initializing pod caller | .resolving pod caller => caller.isAddPod = true ∧ c.Fresh pod
  | .applying pod ruleset policyHash caller =>
    caller.isAddPod = true ∧ c.Fresh pod ∧ ∃ input, input.ruleset = ruleset ∧
      hash input = policyHash ∧ c.Stands order state input pod.info
  | .rebuilding jobs results =>
    (∀ job ∈ jobs, c.ReadFor order hash state job.uid job.netns job.ruleset job.policyHash ∧
      job.uid ∉ results.map (·.1)) ∧
    ∀ r ∈ results, r.2.2 = true ∧ ∃ netns ruleset, c.applied netns = some ruleset ∧
      c.ReadFor order hash state r.1 netns ruleset r.2.1
  | .rebuildingPending jobs =>
    ∀ job ∈ jobs, c.ReadFor order hash state job.uid job.netns job.ruleset job.policyHash
  -- no pod fails where backends succeed
  | .retrying _ => False

/-- **The invariant of the controller.** -/
structure Tracked (c : Controller H) : Prop where
  policies_le : c.policiesSeen ≤ state.policies.notifier
  inserts_le : c.workloadsSeen ≤ state.workloads.insertNotifier
  netns : ∀ uid uid' ps ps', c.pods.lookup uid = some ps → c.pods.lookup uid' = some ps' →
    ps.netns = ps'.netns → uid = uid'
  pod : ∀ uid ps, c.pods.lookup uid = some ps → c.PodOk order hash state uid ps
  phase : c.PhaseOk order hash state c.phase

end Tracked

/-- **When a step is sound**: backends succeed, and no pod is added to the network namespace of
another. -/
def Controller.SoundStep (c : Controller H) : ControllerEvent → Prop
  | .init ok | .apply ok | .applyJob _ ok | .applyPending ok => ok = true
  | .recv =>
    match c.queue with
    | .addPod uid _ netns :: _ => ∀ entry ∈ c.pods.entries, entry.1 ≠ uid → entry.2.netns ≠ netns
    | _ => True
  | _ => True

instance (c : Controller H) : (e : ControllerEvent) → Decidable (c.SoundStep e)
  | .init ok | .apply ok | .applyJob _ ok | .applyPending ok =>
    inferInstanceAs (Decidable (ok = true))
  | .recv =>
    match h : c.queue with
    | .addPod uid _ netns :: _ =>
      decidable_of_iff
        (∀ entry ∈ c.pods.entries, entry.1 ≠ uid → entry.2.netns ≠ netns)
        (by simp only [Controller.SoundStep, h])
    | .removePod _ :: _ => .isTrue (by simp only [Controller.SoundStep, h])
    | [] => .isTrue (by simp only [Controller.SoundStep, h])
  | .send _ | .startDrain | .drain | .policiesChanged | .debounced _ _ | .workloadsChanged
  | .tick _ | .cleanup _ | .resolve _ | .list _ _ | .next => .isTrue trivial

namespace Tracked

variable {order : IterationOrder} {hash : FirewallInput → H} {state : ProxyState}
  {c c' : Controller H} {uid : Strng}

/-- A registered pod, as the controller and the state go on: its rules, its policies and its
workload are each accounted for. -/
theorem podOk_imp {state' : ProxyState} {ps : PodFirewallState H}
    (h : c.PodOk order hash state uid ps)
    (happlied : ∀ ruleset, uid ∈ c.phase.resultUids ∨ c.applied ps.netns = some ruleset →
      uid ∈ c'.phase.resultUids ∨ c'.applied ps.netns = some ruleset)
    (hcurrent : ps.state = .enrolled → ps.Current order hash state ∨ c.PolicyDue state uid →
      ps.Current order hash state' ∨ c'.PolicyDue state' uid)
    (hpending : ps.state = .pendingWorkload →
      firewallInput order.1 state ps.workloadInfo = none ∨ c.InsertDue state uid →
        firewallInput order.1 state' ps.workloadInfo = none ∨ c'.InsertDue state' uid) :
    c'.PodOk order hash state' uid ps := by
  unfold Controller.PodOk at h ⊢
  split
  · next hstate =>
    rw [hstate] at h
    obtain ⟨⟨input, hhash, hruleset⟩, hdue⟩ := h
    exact ⟨⟨input, hhash, happlied _ hruleset⟩, hcurrent hstate hdue⟩
  · next hstate =>
    rw [hstate] at h
    exact hpending hstate h
  · next hstate =>
    rw [hstate] at h
    exact h

/-- What is read from the state in a phase stands as the state goes on. -/
theorem phaseOk_of_stands {state' : ProxyState} {phase : Phase H}
    (h : c.PhaseOk order hash state phase)
    (hstands : ∀ input info, c.Stands order state input info →
      c.Stands order state' input info) : c.PhaseOk order hash state' phase := by
  have hread : ∀ {uid netns ruleset policyHash},
      c.ReadFor order hash state uid netns ruleset policyHash →
        c.ReadFor order hash state' uid netns ruleset policyHash := by
    rintro uid netns ruleset policyHash ⟨ps, input, hps, hns, hrs, hhash, hs⟩
    exact ⟨ps, input, hps, hns, hrs, hhash, hstands _ _ hs⟩
  cases phase with
  | idle | cleaning | initializing | resolving | listing | retrying | stopped => exact h
  | applying =>
    obtain ⟨hadd, hfresh, input, hrs, hhash, hs⟩ := h
    exact ⟨hadd, hfresh, input, hrs, hhash, hstands _ _ hs⟩
  | rebuilding jobs results =>
    refine ⟨fun job hjob ↦ ⟨hread (h.1 job hjob).1, (h.1 job hjob).2⟩, fun r hr ↦ ?_⟩
    obtain ⟨hok, netns, ruleset, happlied, hr⟩ := h.2 r hr
    exact ⟨hok, netns, ruleset, happlied, hread hr⟩
  | rebuildingPending jobs => exact fun job hjob ↦ hread (h job hjob)

/-! ### The state changes -/

theorem update {state' : ProxyState} (h : Tracked order hash state c)
    (hpolicies : state.policies.notifier ≤ state'.policies.notifier)
    (hinserts : state.workloads.insertNotifier ≤ state'.workloads.insertNotifier)
    (hannounced : ∀ info, firewallInput order.1 state' info ≠ firewallInput order.1 state info →
      state.policies.notifier < state'.policies.notifier)
    (hinserted : ∀ info, firewallInput order.1 state info = none →
      firewallInput order.1 state' info ≠ none →
        state.workloads.insertNotifier < state'.workloads.insertNotifier) :
    Tracked order hash state' c := by
  have hple := h.policies_le
  have hile := h.inserts_le
  have hpending : c.policiesSeen ≠ state.policies.notifier →
      c.policiesSeen ≠ state'.policies.notifier := by omega
  -- either the receiver has something to see, or every input is what it was
  have hsame : c.policiesSeen ≠ state'.policies.notifier ∨
      ∀ info, firewallInput order.1 state' info = firewallInput order.1 state info := by
    by_cases hseen : c.policiesSeen = state'.policies.notifier
    · refine .inr fun info ↦ ?_
      by_contra hne
      have hlt := hannounced info hne
      omega
    · exact .inl hseen
  have hstands : ∀ input info, c.Stands order state input info →
      c.Stands order state' input info := by
    intro input info hs
    obtain hseen | hinputs := hsame
    · exact .inr hseen
    · refine hs.imp (fun hinput ↦ ?_) hpending
      rw [hinputs]
      exact hinput
  refine ⟨hple.trans hpolicies, hile.trans hinserts, h.netns, fun uid ps hps ↦ ?_,
    phaseOk_of_stands h.phase hstands⟩
  refine podOk_imp (h.pod uid ps hps) (fun _ ↦ id) (fun _ hdue ↦ ?_) fun _ hdue ↦ ?_
  · obtain hseen | hinputs := hsame
    · exact .inr (.inr (.inl hseen))
    · refine hdue.imp (fun hcurrent input hinput ↦ ?_) (Or.imp id (Or.imp hpending id))
      rw [hinputs] at hinput
      exact hcurrent input hinput
  · obtain hnone | hdue := hdue
    · by_cases hnow : firewallInput order.1 state' ps.workloadInfo = none
      · exact .inl hnow
      · have hlt := hinserted _ hnone hnow
        exact .inr (.inl (by omega))
    · exact .inr (hdue.imp (fun hne ↦ by omega) id)

/-! ### The task moves on -/

/-- The pods and the namespaces stay as they are: what was due is still due, or is done. -/
theorem move (h : Tracked order hash state c) (hpods : c'.pods = c.pods)
    (happlied : c'.applied = c.applied) (hpolicies : c'.policiesSeen ≤ state.policies.notifier)
    (hinserts : c'.workloadsSeen ≤ state.workloads.insertNotifier)
    (hresults : c.phase.resultUids = [])
    (hpolicy : ∀ uid ps, c.pods.lookup uid = some ps → ps.state = .enrolled →
      c.PolicyDue state uid → ps.Current order hash state ∨ c'.PolicyDue state uid)
    (hinsert : ∀ uid ps, c.pods.lookup uid = some ps → ps.state = .pendingWorkload →
      c.InsertDue state uid →
        firewallInput order.1 state ps.workloadInfo = none ∨ c'.InsertDue state uid)
    (hphase : c'.PhaseOk order hash state c'.phase) : Tracked order hash state c' := by
  refine ⟨hpolicies, hinserts, by rw [hpods]; exact h.netns, fun uid ps hps ↦ ?_, hphase⟩
  rw [hpods] at hps
  refine podOk_imp (h.pod uid ps hps) (fun ruleset hruleset ↦ .inr ?_)
    (fun hstate hdue ↦ hdue.elim .inl (hpolicy uid ps hps hstate))
    fun hstate hdue ↦ hdue.elim .inl (hinsert uid ps hps hstate)
  rw [hresults] at hruleset
  rw [happlied]
  exact hruleset.resolve_left List.not_mem_nil

/-- Outside of a rebuild, what is due stays due in a phase of the same loop. -/
theorem policyDue_of_nil (hdue : c.PolicyDue state uid) (hnil : c.phase.rebuildUids = [])
    (hdraining : c'.draining = c.draining) (hseen : c'.policiesSeen = c.policiesSeen)
    (hdebouncing : c.phase.debouncing = true → c'.phase.debouncing = true) :
    c'.PolicyDue state uid := by
  obtain hdrain | hne | hdeb | hmem := hdue
  · exact .inl (hdraining.trans hdrain)
  · exact .inr (.inl (hseen ▸ hne))
  · exact .inr (.inr (.inl (hdebouncing hdeb)))
  · rw [hnil] at hmem
    exact absurd hmem List.not_mem_nil

/-- Outside of a rebuild of the pending pods, one is due by a notification only. -/
theorem insertDue_of_nil (hdue : c.InsertDue state uid) (hlisting : c.phase ≠ .listing)
    (hnil : c.phase.pendingUids = []) (hseen : c'.workloadsSeen = c.workloadsSeen) :
    c'.InsertDue state uid := by
  obtain hne | hlist | hmem := hdue
  · exact .inl (hseen ▸ hne)
  · exact absurd hlist hlisting
  · rw [hnil] at hmem
    exact absurd hmem List.not_mem_nil

theorem insertDue_of_quiet (hdue : c.InsertDue state uid) (hquiet : c.phase.isQuiet = true)
    (hseen : c'.workloadsSeen = c.workloadsSeen) : c'.InsertDue state uid := by
  refine insertDue_of_nil hdue (fun hlist ↦ ?_) (Phase.pendingUids_of_isQuiet hquiet) hseen
  rw [hlist] at hquiet
  cases hquiet

/-- Pods that keep their namespaces keep them apart. -/
theorem netns_of_kept (h : Tracked order hash state c)
    (hkept : ∀ uid ps', c'.pods.lookup uid = some ps' →
      ∃ ps, c.pods.lookup uid = some ps ∧ ps'.netns = ps.netns) :
    ∀ uid uid' ps ps', c'.pods.lookup uid = some ps → c'.pods.lookup uid' = some ps' →
      ps.netns = ps'.netns → uid = uid' := by
  intro uid uid' ps ps' hps hps' heq
  obtain ⟨p, hp, hn⟩ := hkept uid ps hps
  obtain ⟨p', hp', hn'⟩ := hkept uid' ps' hps'
  exact h.netns uid uid' p p' hp hp' (hn.symm.trans (heq.trans hn'))

/-- A quiet phase is followed by another phase of the same loop. -/
theorem setPhase (h : Tracked order hash state c) (hquiet : c.phase.isQuiet = true)
    (phase : Phase H) (hdebouncing : c.phase.debouncing = true → phase.debouncing = true)
    (hphase : c.PhaseOk order hash state phase) :
    Tracked order hash state { c with phase := phase } := by
  refine h.move rfl rfl h.policies_le h.inserts_le (Phase.resultUids_of_isQuiet hquiet)
    (fun uid ps _ _ hdue ↦ .inr ?_) (fun uid ps _ _ hdue ↦ .inr ?_) hphase
  · exact policyDue_of_nil hdue (Phase.rebuildUids_of_isQuiet hquiet) rfl rfl hdebouncing
  · exact insertDue_of_quiet hdue hquiet rfl

/-- The same, from a known phase. -/
theorem goOn (h : Tracked order hash state c) {phase : Phase H} (hphase : c.phase = phase)
    (hquiet : phase.isQuiet = true) (phase' : Phase H)
    (hdebouncing : phase.debouncing = true → phase'.debouncing = true)
    (hok : c.PhaseOk order hash state phase → c.PhaseOk order hash state phase') :
    Tracked order hash state { c with phase := phase' } := by
  subst hphase
  exact h.setPhase hquiet phase' hdebouncing (hok h.phase)

theorem setQueue (h : Tracked order hash state c) (queue : List FirewallEvent) :
    Tracked order hash state { c with queue := queue } :=
  ⟨h.policies_le, h.inserts_le, h.netns, h.pod, h.phase⟩

/-- The process drains: nothing is claimed of the policies from here on. -/
theorem startDrain (h : Tracked order hash state c) :
    Tracked order hash state { c with draining := true } := by
  refine ⟨h.policies_le, h.inserts_le, h.netns, fun uid ps hps ↦ ?_, h.phase⟩
  exact podOk_imp (h.pod uid ps hps) (fun _ ↦ id) (fun _ _ ↦ .inr (.inl rfl)) fun _ ↦ id

end Tracked

/-! ### Rebuilds begin -/

section Jobs

variable [DecidableEq H] {order : IterationOrder} {hash : FirewallInput → H}
  {state : ProxyState} {c : Controller H} {uids : List Strng} {uid : Strng}
  {ps : PodFirewallState H} {job : Job H}

/-- Where the input does not depend on the order of a read, neither does what is resolved. -/
theorem resolveWorkloadFirewall_congr (hash : FirewallInput → H) {order' : IterationOrder}
    (hagree : ∀ info, firewallInput order'.1 state info = firewallInput order.1 state info) :
    resolveWorkloadFirewall order'.1 hash state = resolveWorkloadFirewall order.1 hash state := by
  funext info appliedHash
  rw [resolveWorkloadFirewall, hagree, resolveWorkloadFirewall]

/-- A job of a rebuild was read from the state for its pod. -/
theorem Controller.readFor_of_mem_rebuildJobs (hjob : job ∈ c.rebuildJobs hash state order uids) :
    c.ReadFor order hash state job.uid job.netns job.ruleset job.policyHash := by
  obtain ⟨uid, -, hbind⟩ := List.mem_filterMap.1 hjob
  obtain ⟨ps, hps, hmatch⟩ := Option.bind_eq_some_iff.1 hbind
  split at hmatch
  · cases hmatch
  · obtain ⟨⟨ruleset, policyHash⟩, hresolve, rfl⟩ := Option.map_eq_some_iff.1 hmatch
    obtain ⟨input, hinput, -, hruleset, hhash⟩ := resolveWorkloadFirewall_eq_some.1 hresolve
    exact ⟨ps, input, hps, rfl, hruleset, hhash, .inl hinput⟩

/-- A visited pod that did not fail gets a job, or its hash is current. -/
theorem Controller.mem_rebuildJobs_or_current (huid : uid ∈ uids)
    (hps : c.pods.lookup uid = some ps) (hstate : ps.state = .enrolled) :
    ps.Current order hash state ∨
      uid ∈ (c.rebuildJobs hash state order uids).map (·.uid) := by
  rcases hresolve : resolveWorkloadFirewall order.1 hash state ps.workloadInfo
    (some ps.lastPolicyHash) with - | ⟨ruleset, policyHash⟩
  · exact .inl fun input hinput ↦
      Option.some.inj (resolveWorkloadFirewall_eq_none.1 hresolve input hinput)
  · refine .inr (List.mem_map.2 ⟨⟨uid, ps.netns, ruleset, policyHash⟩,
      List.mem_filterMap.2 ⟨uid, huid, ?_⟩, rfl⟩)
    simp only [hps, Option.bind_some, hstate, hresolve, Option.map_some]

/-- A job for a pending pod was read from the state for it. -/
theorem Controller.readFor_of_mem_pendingJobs (hjob : job ∈ c.pendingJobs hash state order uids) :
    c.ReadFor order hash state job.uid job.netns job.ruleset job.policyHash := by
  obtain ⟨uid, -, hbind⟩ := List.mem_filterMap.1 hjob
  obtain ⟨ps, hps, hif⟩ := Option.bind_eq_some_iff.1 hbind
  obtain ⟨-, hmap⟩ := Option.ite_none_right_eq_some.1 hif
  obtain ⟨⟨ruleset, policyHash⟩, hresolve, rfl⟩ := Option.map_eq_some_iff.1 hmap
  obtain ⟨input, hinput, -, hruleset, hhash⟩ := resolveWorkloadFirewall_eq_some.1 hresolve
  exact ⟨ps, input, hps, rfl, hruleset, hhash, .inl hinput⟩

/-- A visited pending pod gets a job, or its workload is missing. -/
theorem Controller.mem_pendingJobs_or_missing (huid : uid ∈ uids)
    (hps : c.pods.lookup uid = some ps) (hstate : ps.state = .pendingWorkload) :
    firewallInput order.1 state ps.workloadInfo = none ∨
      uid ∈ (c.pendingJobs hash state order uids).map (·.uid) := by
  rcases hresolve : resolveWorkloadFirewall order.1 hash state ps.workloadInfo none with
    - | ⟨ruleset, policyHash⟩
  · refine .inl (Option.eq_none_iff_forall_ne_some.2 fun input hinput ↦ ?_)
    have habsurd := resolveWorkloadFirewall_eq_none.1 hresolve input hinput
    cases habsurd
  · refine .inr (List.mem_map.2 ⟨⟨uid, ps.netns, ruleset, policyHash⟩,
      List.mem_filterMap.2 ⟨uid, huid, ?_⟩, rfl⟩)
    simp only [hps, Option.bind_some, hstate, if_true, hresolve, Option.map_some]

namespace Tracked

theorem debounced (h : Tracked order hash state c) (hphase : c.phase = .idle .debounce)
    (hperm : uids.Perm c.pods.keys) :
    Tracked order hash state
      { c with phase := .rebuilding (c.rebuildJobs hash state order uids) [] } := by
  have hquiet : c.phase.isQuiet = true := by rw [hphase]; rfl
  refine h.move rfl rfl h.policies_le h.inserts_le (Phase.resultUids_of_isQuiet hquiet)
    (fun uid ps hps hstate _ ↦ ?_)
    (fun uid ps _ _ hdue ↦ .inr (insertDue_of_quiet hdue hquiet rfl))
    ⟨fun job hjob ↦ ⟨c.readFor_of_mem_rebuildJobs hjob, List.not_mem_nil⟩,
      fun r hr ↦ absurd hr List.not_mem_nil⟩
  refine (c.mem_rebuildJobs_or_current (Controller.mem_of_perm_keys hperm hps) hps hstate).imp id
    fun hjob ↦ .inr (.inr (.inr ?_))
  exact List.mem_append_left _ hjob

theorem list (h : Tracked order hash state c) (hphase : c.phase = .listing)
    (hperm : uids.Perm c.pods.keys) :
    Tracked order hash state
      { c with phase := .rebuildingPending (c.pendingJobs hash state order uids) } := by
  refine h.move rfl rfl h.policies_le h.inserts_le (by rw [hphase]; rfl)
    (fun uid ps _ _ hdue ↦ .inr ?_) (fun uid ps hps hstate _ ↦ ?_)
    fun job hjob ↦ c.readFor_of_mem_pendingJobs hjob
  · refine policyDue_of_nil hdue (by rw [hphase]; rfl) rfl rfl fun hdeb ↦ ?_
    rw [hphase] at hdeb
    cases hdeb
  · exact (c.mem_pendingJobs_or_missing (Controller.mem_of_perm_keys hperm hps) hps hstate).imp id
      fun hjob ↦ .inr (.inr hjob)

end Tracked

end Jobs

/-! ### Pods come and go -/

/-- Where a step is sound, a pod is added to a namespace of its own. -/
theorem Controller.SoundStep.free {c : Controller H} (hsound : c.SoundStep .recv) {uid : Strng}
    {info : WorkloadInfo} {netns : ℕ} {queue : List FirewallEvent}
    (hqueue : c.queue = .addPod uid info netns :: queue) (uid' : Strng) (ps : PodFirewallState H)
    (hps : c.pods.lookup uid' = some ps) (hne : uid' ≠ uid) : ps.netns ≠ netns := by
  simp only [Controller.SoundStep, hqueue] at hsound
  exact hsound ⟨uid', ps⟩ (AList.mem_lookup_iff.1 hps) hne

namespace Tracked

variable {order : IterationOrder} {hash : FirewallInput → H} {state : ProxyState}
  {c c' : Controller H} {uid : Strng} {ps : PodFirewallState H} {ruleset : RuleSet}
  {policyHash : H}

/-- A pod that is not touched, up to its history. -/
theorem podOk_of_same (h : c.PodOk order hash state uid ps) (result : Option Bool)
    (hresults : uid ∈ c.phase.resultUids → uid ∈ c'.phase.resultUids)
    (happlied : uid ∈ c'.phase.resultUids ∨ c'.applied ps.netns = c.applied ps.netns)
    (hpolicy : c.PolicyDue state uid → c'.PolicyDue state uid)
    (hinsert : c.InsertDue state uid → c'.InsertDue state uid) :
    c'.PodOk order hash state uid { ps with lastApply := result } := by
  have hsame : c'.PodOk order hash state uid ps := by
    refine podOk_imp h (fun ruleset hruleset ↦ ?_) (fun _ ↦ Or.imp id hpolicy)
      fun _ ↦ Or.imp id hinsert
    obtain hmem | hruleset := hruleset
    · exact .inl (hresults hmem)
    · exact happlied.imp id fun heq ↦ heq.trans hruleset
  exact hsame

/-- The rules of a namespace without a pod do not matter. -/
theorem setApplied (h : Tracked order hash state c) (hquiet : c.phase.isQuiet = true) {netns : ℕ}
    (hfree : ∀ uid ps, c.pods.lookup uid = some ps → ps.netns ≠ netns)
    (rules : Option RuleSet) :
    Tracked order hash state { c with applied := Function.update c.applied netns rules } := by
  refine ⟨h.policies_le, h.inserts_le, h.netns, fun uid ps hps ↦ ?_, ?_⟩
  · refine podOk_of_same (h.pod uid ps hps) ps.lastApply id (.inr ?_) id id
    exact Function.update_of_ne (hfree uid ps hps) _ _
  · have hphase := h.phase
    show Controller.PhaseOk _ _ _ _ c.phase
    revert hphase hquiet
    generalize c.phase = phase
    intro hquiet hphase
    cases phase with
    | rebuilding | listing | rebuildingPending => cases hquiet
    | idle | cleaning | initializing | resolving | applying | retrying | stopped => exact hphase

theorem erasePod (h : Tracked order hash state c) {loop : Loop} (hidle : c.phase = .idle loop)
    (uid : Strng) : Tracked order hash state { c with pods := c.pods.erase uid } := by
  have hold : ∀ uid' ps, (c.pods.erase uid).lookup uid' = some ps →
      c.pods.lookup uid' = some ps := fun _ _ hps ↦ (Index.lookup_erase_eq_some.1 hps).2
  refine ⟨h.policies_le, h.inserts_le,
    fun uid₁ uid₂ ps₁ ps₂ h₁ h₂ ↦ h.netns _ _ _ _ (hold _ _ h₁) (hold _ _ h₂),
    fun uid' ps hps ↦ h.pod uid' ps (hold uid' ps hps), ?_⟩
  show Controller.PhaseOk _ _ _ _ c.phase
  rw [hidle]
  trivial

/-- A pod joins the map, in a namespace of its own. -/
theorem insertPod (h : Tracked order hash state c) {loop : Loop} (hidle : c.phase = .idle loop)
    (hfree : ∀ uid' ps', c.pods.lookup uid' = some ps' → ps'.netns ≠ ps.netns)
    (hpod : c.PodOk order hash state uid ps) :
    Tracked order hash state { c with pods := c.pods.insert uid ps } := by
  refine ⟨h.policies_le, h.inserts_le, fun uid₁ uid₂ ps₁ ps₂ h₁ h₂ hnetns ↦ ?_,
    fun uid' ps' hps' ↦ ?_, ?_⟩
  · obtain ⟨heq₁, rfl⟩ | ⟨-, hold₁⟩ := Index.lookup_insert_eq_some.1 h₁ <;>
      obtain ⟨heq₂, rfl⟩ | ⟨-, hold₂⟩ := Index.lookup_insert_eq_some.1 h₂
    · rw [heq₁, heq₂]
    · exact absurd hnetns.symm (hfree uid₂ ps₂ hold₂)
    · exact absurd hnetns (hfree uid₁ ps₁ hold₁)
    · exact h.netns uid₁ uid₂ ps₁ ps₂ hold₁ hold₂ hnetns
  · obtain ⟨rfl, rfl⟩ | ⟨-, hold⟩ := Index.lookup_insert_eq_some.1 hps'
    · exact hpod
    · exact h.pod uid' ps' hold
  · show Controller.PhaseOk _ _ _ _ c.phase
    rw [hidle]
    trivial

/-! ### Rebuilds go on -/

/-- What was read for a pod stays so when pods keep their namespaces and infos. -/
theorem readFor_of_lookup {netns : ℕ}
    (hread : c.ReadFor order hash state uid netns ruleset policyHash)
    (hseen : c'.policiesSeen = c.policiesSeen)
    (hpods : ∀ ps, c.pods.lookup uid = some ps → ∃ ps', c'.pods.lookup uid = some ps' ∧
      ps'.netns = ps.netns ∧ ps'.workloadInfo = ps.workloadInfo) :
    c'.ReadFor order hash state uid netns ruleset policyHash := by
  obtain ⟨ps, input, hps, hnetns, hruleset, hhash, hstands⟩ := hread
  obtain ⟨ps', hps', hnetns', hinfo⟩ := hpods ps hps
  refine ⟨ps', input, hps', hnetns'.trans hnetns, hruleset, hhash, ?_⟩
  rw [Controller.Stands, hseen, hinfo]
  exact hstands

/-- An apply notes its result with the pod, which keeps the rest. -/
theorem readFor_noteApply {uid uid' : Strng} {ok : Bool} {netns : ℕ}
    (hpods : c'.pods = (c.noteApply uid ok).pods) (hseen : c'.policiesSeen = c.policiesSeen)
    (hread : c.ReadFor order hash state uid' netns ruleset policyHash) :
    c'.ReadFor order hash state uid' netns ruleset policyHash := by
  refine readFor_of_lookup hread hseen fun ps hps ↦ ?_
  obtain ⟨result, hps'⟩ := Controller.lookup_noteApply_of_some uid ok hps
  refine ⟨{ ps with lastApply := result }, ?_, rfl, rfl⟩
  rw [hpods]
  exact hps'

/-- Pods live in namespaces of their own: what is installed for one is not seen by another. -/
theorem applied_of_ne (h : Tracked order hash state c) {uid uid' : Strng}
    {ps ps' : PodFirewallState H} (hps : c.pods.lookup uid = some ps)
    (hps' : c.pods.lookup uid' = some ps') (hne : uid ≠ uid') (ruleset : RuleSet) :
    Function.update c.applied ps'.netns (some ruleset) ps.netns = c.applied ps.netns := by
  refine Function.update_of_ne (fun heq ↦ hne ?_) _ _
  exact h.netns uid uid' ps ps' hps hps' heq

/-- The pods of a rebuild, when a job of it is done. -/
theorem mem_rebuildUids_of_done {jobs : List (Job H)} {results : List (Strng × H × Bool)}
    {job : Job H} (h : uid ∈ (Phase.rebuilding jobs results).rebuildUids) :
    uid ∈ (Phase.rebuilding (jobs.filter (·.uid ≠ job.uid))
      (results ++ [(job.uid, job.policyHash, true)])).rebuildUids := by
  simp only [Phase.rebuildUids, List.mem_append, List.mem_map, List.map_append, List.mem_filter,
    List.map_cons, List.map_nil, List.mem_singleton, decide_eq_true_eq] at h ⊢
  by_cases heq : uid = job.uid
  · exact .inr (.inr heq)
  · refine h.imp ?_ .inl
    rintro ⟨j, hj, rfl⟩
    exact ⟨j, ⟨hj, heq⟩, rfl⟩

theorem applyJob (h : Tracked order hash state c) {jobs : List (Job H)}
    {results : List (Strng × H × Bool)} (hphase : c.phase = .rebuilding jobs results) {job : Job H}
    (hjob : job ∈ jobs) :
    Tracked order hash state
      { (c.install job.netns job.ruleset true).noteApply job.uid true with
        phase := .rebuilding (jobs.filter (·.uid ≠ job.uid))
          (results ++ [(job.uid, job.policyHash, true)]) } := by
  have hok := h.phase
  rw [hphase] at hok
  obtain ⟨hjobs, hresults⟩ := hok
  obtain ⟨hread, hnew⟩ := hjobs job hjob
  obtain ⟨pj, -, hpj, hpjnetns, -⟩ := id hread
  rw [Controller.noteApply_install]
  have hother : ∀ uid ps, c.pods.lookup uid = some ps → uid ≠ job.uid →
      Function.update c.applied job.netns (some job.ruleset) ps.netns = c.applied ps.netns :=
    fun uid ps hps hne ↦ hpjnetns ▸ h.applied_of_ne hps hpj hne job.ruleset
  refine ⟨h.policies_le, h.inserts_le, h.netns_of_kept fun uid ps' hps' ↦ ?_,
    fun uid ps' hps' ↦ ?_, ⟨fun job' hjob' ↦ ?_, fun r hr ↦ ?_⟩⟩
  · obtain ⟨ps, hps, result, rfl⟩ := Controller.lookup_noteApply hps'
    exact ⟨ps, hps, rfl⟩
  · obtain ⟨ps, hps, result, rfl⟩ := Controller.lookup_noteApply hps'
    refine podOk_of_same (h.pod uid ps hps) result (fun hmem ↦ ?_) ?_ (fun hdue ↦ ?_) fun hdue ↦ ?_
    · rw [hphase] at hmem
      show uid ∈ (results ++ [(job.uid, job.policyHash, true)]).map (·.1)
      rw [List.map_append]
      exact List.mem_append_left _ hmem
    · by_cases heq : uid = job.uid
      · left
        show uid ∈ (results ++ [(job.uid, job.policyHash, true)]).map (·.1)
        rw [List.map_append, heq]
        exact List.mem_append_right _ (List.mem_singleton_self _)
      · exact .inr (hother uid ps hps heq)
    · refine hdue.imp id (Or.imp id (Or.imp (fun hdeb ↦ ?_) fun hmem ↦ ?_))
      · rw [hphase] at hdeb
        cases hdeb
      · rw [hphase] at hmem
        exact mem_rebuildUids_of_done hmem
    · exact insertDue_of_nil hdue (fun hlist ↦ nomatch hphase.symm.trans hlist)
        (by rw [hphase]; rfl) rfl
  · obtain ⟨hmem, hne⟩ := List.mem_filter.1 hjob'
    obtain ⟨hread', hnew'⟩ := hjobs job' hmem
    refine ⟨readFor_noteApply rfl rfl hread', ?_⟩
    rw [List.map_append, List.mem_append, not_or]
    refine ⟨hnew', ?_⟩
    simpa using hne
  · obtain hr | hr := List.mem_append.1 hr
    · obtain ⟨hrok, netns, ruleset, happlied, hrread⟩ := hresults r hr
      refine ⟨hrok, netns, ruleset, ?_, readFor_noteApply rfl rfl hrread⟩
      obtain ⟨pr, -, hpr, hprnetns, -⟩ := hrread
      have hne : r.1 ≠ job.uid := fun heq ↦ hnew (List.mem_map.2 ⟨r, hr, heq⟩)
      exact hprnetns ▸ (hother r.1 pr hpr hne).trans (hprnetns ▸ happlied)
    · obtain rfl := List.mem_singleton.1 hr
      exact ⟨rfl, job.netns, job.ruleset, Function.update_self _ _ _,
        readFor_noteApply rfl rfl hread⟩

/-! ### Rebuilds end -/

/-- A pod that gets enrolled with what was read for it and is applied. -/
theorem podOk_enrolled {c' : Controller H} {input : FirewallInput}
    (hhash : ps.lastPolicyHash = hash input) (hstate : ps.state = .enrolled)
    (happlied : c'.applied ps.netns = some input.ruleset)
    (hstands : c'.Stands order state input ps.workloadInfo) : c'.PodOk order hash state uid ps := by
  unfold Controller.PodOk
  rw [hstate]
  refine ⟨⟨input, hhash, .inr happlied⟩, ?_⟩
  obtain hinput | hseen := hstands
  · refine .inl fun input' hinput' ↦ ?_
    rw [hinput] at hinput'
    exact Option.some.inj hinput' ▸ hhash
  · exact .inr (.inr (.inl hseen))

theorem recordResults (h : Tracked order hash state c) {results : List (Strng × H × Bool)}
    (hphase : c.phase = .rebuilding [] results) :
    Tracked order hash state { c.recordResults results with phase := .idle .run } := by
  have hok := h.phase
  rw [hphase] at hok
  have hrecorded := c.lookup_recordResults results
  rw [Controller.recordResults_eq]
  -- pods keep their namespaces
  have hnetns : ∀ uid ps', (c.recordResults results).pods.lookup uid = some ps' →
      ∃ ps, c.pods.lookup uid = some ps ∧ ps'.netns = ps.netns := by
    intro uid ps' hps'
    obtain ⟨-, hlookup⟩ | ⟨r, -, -, hlookup⟩ := hrecorded uid
    · exact ⟨ps', hlookup ▸ hps', rfl⟩
    · obtain ⟨ps, hps, rfl⟩ := Option.map_eq_some_iff.1 (hlookup ▸ hps')
      exact ⟨ps, hps, rfl⟩
  refine ⟨h.policies_le, h.inserts_le, h.netns_of_kept hnetns, fun uid ps' hps' ↦ ?_, trivial⟩
  · obtain ⟨hfailed, hlookup⟩ | ⟨r, hr, hruid, hlookup⟩ := hrecorded uid
    · have hps : c.pods.lookup uid = some ps' := hlookup ▸ hps'
      have hnot : uid ∉ results.map (·.1) := by
        rintro hmem
        obtain ⟨r, hr, hruid⟩ := List.mem_map.1 hmem
        exact hfailed r hr (hok.2 r hr).1 hruid
      refine podOk_of_same (h.pod uid ps' hps) ps'.lastApply (fun hmem ↦ ?_) (.inr rfl)
        (fun hdue ↦ ?_) fun hdue ↦ ?_
      · rw [hphase] at hmem
        exact absurd hmem hnot
      · refine hdue.imp id (Or.imp id (Or.imp (fun hdeb ↦ ?_) fun hmem ↦ ?_))
        · rw [hphase] at hdeb
          cases hdeb
        · rw [hphase] at hmem
          exact absurd hmem hnot
      · exact insertDue_of_nil hdue (fun hlist ↦ nomatch hphase.symm.trans hlist)
          (by rw [hphase]; rfl) rfl
    · obtain ⟨-, netns, ruleset, happlied, ps, input, hps, hpsnetns, hruleset, hhash, hstands⟩ :=
        hok.2 r hr
      rw [hruid] at hps
      rw [hlookup, hps] at hps'
      obtain rfl := Option.some.inj hps'
      refine podOk_enrolled hhash.symm rfl ?_ hstands
      rw [hruleset, ← happlied, ← hpsnetns]

/-- The next job of the rebuild of the pending pods is done. -/
theorem applyPending (h : Tracked order hash state c) {job : Job H} {jobs : List (Job H)}
    (hphase : c.phase = .rebuildingPending (job :: jobs)) :
    Tracked order hash state
      { ((c.install job.netns job.ruleset true).noteApply job.uid true).enroll job.uid
          job.policyHash with
        phase := .rebuildingPending jobs } := by
  have hok := h.phase
  rw [hphase] at hok
  obtain ⟨pj, input, hpj, hpjnetns, hruleset, hhash, hstands⟩ := hok job List.mem_cons_self
  set c₁ := { c with
    pods := (c.noteApply job.uid true).pods
    applied := Function.update c.applied job.netns (some job.ruleset) } with hc₁
  rw [Controller.noteApply_install, ← hc₁, Controller.enroll, Controller.modifyPod_eq]
  -- the pods after the apply and the enrolment
  have hpods : ∀ uid ps', (c₁.modifyPod job.uid fun ps ↦
        { ps with lastPolicyHash := job.policyHash, state := .enrolled }).pods.lookup uid =
          some ps' →
      (uid = job.uid ∧ ps'.netns = pj.netns ∧ ps'.workloadInfo = pj.workloadInfo ∧
        ps'.lastPolicyHash = job.policyHash ∧ ps'.state = .enrolled) ∨
      (uid ≠ job.uid ∧ ∃ ps, c.pods.lookup uid = some ps ∧
        ∃ result, ps' = { ps with lastApply := result }) := by
    intro uid ps' hps'
    rw [Controller.lookup_modifyPod] at hps'
    split at hps'
    · next heq =>
      obtain ⟨p, hp, rfl⟩ := Option.map_eq_some_iff.1 hps'
      obtain ⟨ps, hps, result, rfl⟩ := Controller.lookup_noteApply hp
      obtain rfl : pj = ps := Option.some.inj (hpj ▸ hps)
      exact .inl ⟨heq, rfl, rfl, rfl, rfl⟩
    · next hne =>
      obtain ⟨ps, hps, result, rfl⟩ := Controller.lookup_noteApply hps'
      exact .inr ⟨hne, ps, hps, result, rfl⟩
  have hnetns : ∀ uid ps', (c₁.modifyPod job.uid fun ps ↦
        { ps with lastPolicyHash := job.policyHash, state := .enrolled }).pods.lookup uid =
          some ps' → ∃ ps, c.pods.lookup uid = some ps ∧ ps'.netns = ps.netns := by
    intro uid ps' hps'
    obtain ⟨rfl, hn, -⟩ | ⟨-, ps, hps, result, rfl⟩ := hpods uid ps' hps'
    · exact ⟨pj, hpj, hn⟩
    · exact ⟨ps, hps, rfl⟩
  refine ⟨h.policies_le, h.inserts_le, h.netns_of_kept hnetns, fun uid ps' hps' ↦ ?_,
    fun job' hjob' ↦ ?_⟩
  · obtain ⟨rfl, hn, hi, hh, hs⟩ | ⟨hne, ps, hps, result, rfl⟩ := hpods uid ps' hps'
    · refine podOk_enrolled (hh.trans hhash.symm) hs ?_ (hi ▸ hstands)
      show Function.update c.applied job.netns (some job.ruleset) ps'.netns = _
      rw [hn, hpjnetns, Function.update_self, hruleset]
    · refine podOk_of_same (h.pod uid ps hps) result (fun hmem ↦ ?_) (.inr ?_) (fun hdue ↦ ?_)
        fun hdue ↦ ?_
      · rw [hphase] at hmem
        exact absurd hmem List.not_mem_nil
      · have hother := h.applied_of_ne hps hpj hne job.ruleset
        rw [hpjnetns] at hother
        exact hother
      · refine policyDue_of_nil hdue (by rw [hphase]; rfl) rfl rfl fun hdeb ↦ ?_
        rw [hphase] at hdeb
        cases hdeb
      · refine hdue.imp id (Or.imp (fun hlist ↦ ?_) fun hmem ↦ ?_)
        · rw [hphase] at hlist
          cases hlist
        · rw [hphase] at hmem
          exact (List.mem_cons.1 hmem).resolve_left hne
  · refine readFor_of_lookup (hok job' (List.mem_cons_of_mem _ hjob')) rfl fun ps hps ↦ ?_
    obtain ⟨result, hnoted⟩ := Controller.lookup_noteApply_of_some job.uid true hps
    show ∃ ps', (c₁.modifyPod job.uid _).pods.lookup job'.uid = some ps' ∧ _
    rw [Controller.lookup_modifyPod]
    split
    · next heq =>
      rw [← heq, show c₁.pods.lookup job'.uid = _ from hnoted, Option.map_some]
      exact ⟨_, rfl, rfl, rfl⟩
    · exact ⟨_, hnoted, rfl, rfl⟩

/-! ### Every sound step keeps the invariant -/

/-- A pod that is added joins the map, in the loop that received it. -/
theorem finish (h : Tracked order hash state c) (hquiet : c.phase.isQuiet = true) {pod : PodTask}
    {caller : Caller} (hadd : caller.isAddPod = true)
    (hdebouncing : c.phase.debouncing = true → caller.debouncing = true)
    (hfree : ∀ uid ps, c.pods.lookup uid = some ps → ps.netns ≠ pod.netns) {podState : PodState}
    {result : Option Bool}
    (hpod : ∀ loop, Controller.PodOk order hash state { c with phase := .idle loop } pod.uid
      ⟨pod.netns, pod.info, policyHash, podState, result⟩) :
    Tracked order hash state (c.finish pod caller podState policyHash result) := by
  cases caller with
  | retry retries rest => cases hadd
  | addPod loop =>
    have hloop := h.setPhase hquiet (.idle loop)
      (fun hdeb ↦ (Phase.debouncing_idle loop).trans (hdebouncing hdeb)) trivial
    exact hloop.insertPod rfl hfree (hpod loop)

theorem resolved [DecidableEq H] (h : Tracked order hash state c) {pod : PodTask} {caller : Caller}
    (hphase : c.phase = .resolving pod caller)
    (hresolve : resolveWorkloadFirewall order.1 hash state pod.info none =
      some (ruleset, policyHash)) :
    Tracked order hash state { c with phase := .applying pod ruleset policyHash caller } := by
  obtain ⟨input, hinput, -, hruleset, hhash⟩ := resolveWorkloadFirewall_eq_some.1 hresolve
  exact h.goOn hphase rfl _ id fun hok ↦ ⟨hok.1, hok.2, input, hruleset, hhash, .inl hinput⟩

theorem missing [DecidableEq H] [Zero H] (h : Tracked order hash state c) {pod : PodTask}
    {caller : Caller} (hphase : c.phase = .resolving pod caller)
    (hresolve : resolveWorkloadFirewall order.1 hash state pod.info none = none) :
    Tracked order hash state (c.finish pod caller .pendingWorkload 0 none) := by
  have hok := h.phase
  rw [hphase] at hok
  obtain ⟨hadd, hfresh⟩ := hok
  refine h.finish (by rw [hphase]; rfl) hadd (by rw [hphase]; exact id) hfresh.2
    fun loop ↦ .inl ?_
  refine Option.eq_none_iff_forall_ne_some.2 fun input hinput ↦ ?_
  have habsurd := resolveWorkloadFirewall_eq_none.1 hresolve input hinput
  cases habsurd

theorem applied (h : Tracked order hash state c) {pod : PodTask} {caller : Caller}
    (hphase : c.phase = .applying pod ruleset policyHash caller) :
    Tracked order hash state
      ((c.install pod.netns ruleset true).finish pod caller .enrolled policyHash (some true)) := by
  have hok := h.phase
  rw [hphase] at hok
  obtain ⟨hadd, hfresh, input, hruleset, hhash, hstands⟩ := hok
  have hquiet : c.phase.isQuiet = true := by rw [hphase]; rfl
  have hinstalled := h.setApplied hquiet hfresh.2 (some ruleset)
  refine hinstalled.finish hquiet hadd (fun hdeb ↦ ?_) hfresh.2
    fun loop ↦ podOk_enrolled hhash.symm rfl ?_ hstands
  · rw [show c.phase.debouncing = _ from congrArg _ hphase] at hdeb
    exact hdeb
  · show Function.update c.applied pod.netns (some ruleset) pod.netns = _
    rw [Function.update_self, hruleset]

/-- The namespace that is cleaned has no pod any more. -/
theorem cleanNetns (h : Tracked order hash state c) {netns : ℕ} {loop : Loop}
    {next : Option PodTask} (hphase : c.phase = .cleaning netns loop next) (ok : Bool) :
    Tracked order hash state
      { c with applied := if ok then Function.update c.applied netns none else c.applied } := by
  have hfree := h.phase
  rw [hphase] at hfree
  cases ok with
  | false => exact h
  | true => exact h.setApplied (by rw [hphase]; rfl) hfree.1 none

/-- A pod leaves the map and its namespace is cleaned, before another pod is added if any. -/
theorem leave (h : Tracked order hash state c) {loop : Loop} (hphase : c.phase = .idle loop)
    (hps : c.pods.lookup uid = some ps) {next : Option PodTask}
    (hnext : ∀ pod ∈ next, pod.uid = uid ∧
      ∀ uid' ps', c.pods.lookup uid' = some ps' → uid' ≠ uid → ps'.netns ≠ pod.netns) :
    Tracked order hash state
      { c with pods := c.pods.erase uid, phase := .cleaning ps.netns loop next } := by
  refine (h.erasePod hphase uid).goOn hphase rfl _ (fun hdeb ↦ ?_)
    fun _ ↦ ⟨fun uid' ps' hps' heq ↦ ?_, fun pod hpod ↦ ?_⟩
  · rw [Phase.debouncing_cleaning, ← Phase.debouncing_idle (H := H)]
    exact hdeb
  · obtain ⟨hne, hold⟩ := Index.lookup_erase_eq_some.1 hps'
    exact hne (h.netns uid' uid ps' ps hold hps heq)
  · obtain ⟨rfl, hfree⟩ := hnext pod hpod
    refine ⟨AList.lookup_erase _ _, fun uid' ps' hps' ↦ ?_⟩
    obtain ⟨hne, hold⟩ := Index.lookup_erase_eq_some.1 hps'
    exact hfree uid' ps' hold hne

theorem drained (h : Tracked order hash state c) (hquiet : c.phase.isQuiet = true)
    (hdraining : c.draining = true) (phase : Phase H) (hok : c.PhaseOk order hash state phase) :
    Tracked order hash state { c with phase := phase } :=
  h.move rfl rfl h.policies_le h.inserts_le (Phase.resultUids_of_isQuiet hquiet)
    (fun _ _ _ _ _ ↦ .inr (.inl hdraining))
    (fun _ _ _ _ hdue ↦ .inr (insertDue_of_quiet hdue hquiet rfl)) hok

theorem policiesChanged (h : Tracked order hash state c) {loop : Loop}
    (hphase : c.phase = .idle loop) :
    Tracked order hash state
      { c with policiesSeen := state.policies.notifier, phase := .idle .debounce } := by
  have hquiet : c.phase.isQuiet = true := by rw [hphase]; rfl
  exact h.move rfl rfl le_rfl h.inserts_le (Phase.resultUids_of_isQuiet hquiet)
    (fun _ _ _ _ _ ↦ .inr (.inr (.inr (.inl rfl))))
    (fun _ _ _ _ hdue ↦ .inr (insertDue_of_quiet hdue hquiet rfl)) trivial

/-- A workload has been inserted: the pending pods are to be listed. -/
theorem workloadsChanged (h : Tracked order hash state c) (hphase : c.phase = .idle .run) :
    Tracked order hash state
      { c with workloadsSeen := state.workloads.insertNotifier, phase := .listing } := by
  have hquiet : c.phase.isQuiet = true := by rw [hphase]; rfl
  refine h.move rfl rfl h.policies_le le_rfl (Phase.resultUids_of_isQuiet hquiet)
    (fun _ _ _ _ hdue ↦ .inr (policyDue_of_nil hdue
      (Phase.rebuildUids_of_isQuiet hquiet) rfl rfl fun hdeb ↦ ?_))
    (fun _ _ _ _ _ ↦ .inr (.inr (.inl rfl))) trivial
  rw [hphase] at hdeb
  cases hdeb

theorem rebuilt (h : Tracked order hash state c) (hphase : c.phase = .rebuildingPending []) :
    Tracked order hash state { c with phase := .idle .run } := by
  refine h.move rfl rfl h.policies_le h.inserts_le (by rw [hphase]; rfl)
    (fun uid ps _ _ hdue ↦ .inr ?_) (fun uid ps _ _ hdue ↦ .inr ?_) trivial
  · refine policyDue_of_nil hdue (by rw [hphase]; rfl) rfl rfl fun hdeb ↦ ?_
    rw [hphase] at hdeb
    cases hdeb
  · exact insertDue_of_nil hdue (fun hlist ↦ nomatch hphase.symm.trans hlist)
      (by rw [hphase]; rfl) rfl

/-- No pod has failed, so that a tick finds nothing to retry. -/
theorem retryable_eq_nil (h : Tracked order hash state c) (uids : List Strng) :
    c.retryable uids = [] := by
  refine List.filter_eq_nil_iff.2 fun uid _ hfailed ↦ ?_
  obtain ⟨ps, hps, hfailed⟩ := (Option.any_eq_true _ _).1 hfailed
  have hpod := h.pod uid ps hps
  unfold Controller.PodOk at hpod
  split at hpod
  · next hstate =>
    rw [hstate] at hfailed
    cases hfailed
  · next hstate =>
    rw [hstate] at hfailed
    cases hfailed
  · exact hpod.elim

theorem step [DecidableEq H] [Zero H] (h : Tracked order hash state c)
    (hagree : ∀ (order' : IterationOrder) info,
      firewallInput order'.1 state info = firewallInput order.1 state info)
    {e : ControllerEvent} (hsound : c.SoundStep e) (hstep : c.step hash state e = some c') :
    Tracked order hash state c' := by
  have hok := h.phase
  -- a read in another order gives what a read in the order of the invariant gives
  have hread (order' : IterationOrder) := resolveWorkloadFirewall_congr hash (hagree order')
  cases Controller.stepped_of_step hstep with
  | sent event => exact h.setQueue _
  | startedDrain => exact h.startDrain
  | resolved order' pod caller ruleset policyHash hphase hresolve =>
    exact h.resolved hphase (hread order' ▸ hresolve)
  | missing order' pod caller hphase hresolve => exact h.missing hphase (hread order' ▸ hresolve)
  | listed order' uids hphase hperm =>
    rw [Controller.pendingJobs, hread]
    exact h.list hphase hperm
  | recorded results hphase => exact h.recordResults hphase
  | rebuilt hphase => exact h.rebuilt hphase
  | retried hphase | skipped uid rest hphase | retrying uid rest ps retries hphase =>
    rw [hphase] at hok
    exact hok.elim
  | cleaned netns loop ok hphase =>
    refine (h.cleanNetns hphase ok).goOn hphase rfl (.idle loop) (fun hdeb ↦ ?_) fun _ ↦ trivial
    rwa [Phase.debouncing_idle, ← Phase.debouncing_cleaning netns loop none (H := H)]
  | replaced netns loop pod ok hphase =>
    refine (h.cleanNetns hphase ok).goOn hphase rfl _ (fun hdeb ↦ ?_) fun hok ↦
      ⟨rfl, hok.2 pod rfl⟩
    rwa [Phase.debouncing_cleaning] at hdeb
  | initialized pod caller hphase => exact h.goOn hphase rfl _ id id
  | initFailed | applyFailed | pendingFailed => cases hsound
  | applied pod ruleset policyHash caller hphase => exact h.applied hphase
  | appliedJob jobs results job ok hphase hjob =>
    obtain rfl : ok = true := hsound
    exact h.applyJob hphase hjob
  | appliedPending job jobs hphase => exact h.applyPending hphase
  | stopped hphase hdraining | interrupted hphase hdraining =>
    exact h.drained (by rw [hphase]; rfl) hdraining _ trivial
  | removed uid queue loop ps hphase hqueue hps =>
    exact (h.setQueue queue).leave hphase hps fun pod hpod ↦ by cases hpod
  | ignored queue loop hphase => exact (h.setQueue queue).goOn hphase rfl _ id fun _ ↦ trivial
  | moved pod queue loop existing hphase hqueue hps =>
    refine (h.setQueue queue).leave hphase hps fun pod' hpod ↦ ?_
    obtain rfl := Option.some.inj hpod
    exact ⟨rfl, hsound.free hqueue⟩
  | added pod queue loop hphase hqueue hnone =>
    refine (h.setQueue queue).goOn hphase rfl _ (fun hdeb ↦ ?_) fun _ ↦
      ⟨rfl, hnone, fun uid ps hps ↦ hsound.free hqueue uid ps hps fun heq ↦ ?_⟩
    · rwa [Phase.debouncing_idle] at hdeb
    · rw [heq, show c.pods.lookup pod.uid = none from hnone] at hps
      cases hps
  | policiesChanged loop hphase => exact h.policiesChanged hphase
  | debounced order' uids hphase hperm =>
    rw [Controller.rebuildJobs, hread]
    exact h.debounced hphase hperm
  | workloadsChanged hphase => exact h.workloadsChanged hphase
  | ticked uids hphase hretryable => exact absurd (h.retryable_eq_nil uids) hretryable

end Tracked

/-! ### Runs -/

/-- The condition on a step of the system. -/
def FirewallSystem.SoundStep {σ U : Type*} (s : FirewallSystem σ H) : FirewallSystemEvent U → Prop
  | .controller e => s.controller.SoundStep e
  | .update _ => True

instance {σ U : Type*} (s : FirewallSystem σ H) :
    (e : FirewallSystemEvent U) → Decidable (s.SoundStep e)
  | .controller e => inferInstanceAs (Decidable (s.controller.SoundStep e))
  | .update _ => .isTrue trivial

/-- In a quiescent state nothing is due: a pod whose workload is present has its rules. -/
theorem Tracked.applied_of_quiescent {order : IterationOrder}
    {hash : FirewallInput → H} {state : ProxyState} {c : Controller H}
    (h : Tracked order hash state c) (hhash : Function.Injective hash)
    (hquiescent : c.Quiescent state) {uid : Strng} {ps : PodFirewallState H}
    (hps : c.pods.lookup uid = some ps) {input : FirewallInput}
    (hinput : firewallInput order.1 state ps.workloadInfo = some input) :
    ps.state = .enrolled ∧ c.applied ps.netns = some input.ruleset := by
  obtain ⟨hphase, -, hpolicies, hinserts, hdraining⟩ := hquiescent
  have hpod := h.pod uid ps hps
  unfold Controller.PodOk at hpod
  split at hpod
  · next hstate =>
    obtain ⟨⟨input', hstored, happlied⟩, hcurrent⟩ := hpod
    refine ⟨hstate, ?_⟩
    rw [hphase] at happlied
    obtain hcurrent | hdrain | hne | hdeb | hmem := hcurrent
    · -- the stored hash is the one of both inputs
      have heq : input' = input := hhash (hstored.symm.trans (hcurrent input hinput))
      exact heq ▸ happlied.resolve_left List.not_mem_nil
    · rw [hdraining] at hdrain
      cases hdrain
    · exact absurd hpolicies hne
    · rw [hphase] at hdeb
      cases hdeb
    · rw [hphase] at hmem
      exact absurd hmem List.not_mem_nil
  · obtain hnone | hne | hlist | hmem := hpod
    · rw [hinput] at hnone
      cases hnone
    · exact absurd hinserts hne
    · rw [hphase] at hlist
      cases hlist
    · rw [hphase] at hmem
      exact absurd hmem List.not_mem_nil
  · exact hpod.elim

/-- The invariant along a run of sound steps, for every feed and every order in which the state may
be read in the end. -/
theorem FirewallFeed.tracked_run {σ U : Type*} [DecidableEq H] [Zero H] (feed : FirewallFeed σ U)
    (order : IterationOrder) (hash : FirewallInput → H) (source : σ)
    {events : List (FirewallSystemEvent U)} {final : FirewallSystem σ H}
    (hrun : run (restrict FirewallSystem.SoundStep (feed.step hash)) (feed.start source) events =
      some final) :
    Tracked order hash (feed.state final.source) final.controller := by
  refine run_induction (I := fun s ↦ Tracked order hash (feed.state s.source) s.controller)
    hrun ⟨le_rfl, le_rfl, (fun _ _ _ _ h _ ↦ nomatch h), (fun _ _ h ↦ nomatch h), trivial⟩ ?_
  rintro e - s s' hs hstep
  obtain ⟨hsound, hstep⟩ := restrict_eq_some.1 hstep
  rcases e with e | u
  · obtain ⟨c, hc, rfl⟩ := Option.map_eq_some_iff.1 hstep
    exact hs.step (fun order' ↦ feed.agree _ order' order) hsound hc
  · obtain rfl := Option.some.inj hstep
    exact hs.update (feed.policies_le _ _) (feed.inserts_le _ _) (feed.announced _ _ order)
      (feed.inserted _ _ order)

/-- **No firewall update is lost.** In every quiescent state of a run with backends that succeed and
pods in namespaces of their own, a registered pod whose workload is present is enrolled, and the
rules last applied in its namespace are the ones resolved from the current state, in whatever orders
the state has been read and is read now. -/
theorem no_lost_update [DecidableEq H] [Zero H] (decoders : Decoders)
    (attributes : Strng → NodeAttributes) (hash : FirewallInput → H)
    (hhash : Function.Injective hash) (source : { s : ProxyState // Indexed attributes s })
    {events : List (FirewallSystemEvent { batch : Batch // batch.Keeps attributes decoders })}
    {final : FirewallSystem { s : ProxyState // Indexed attributes s } H}
    (hrun : run (restrict FirewallSystem.SoundStep
        ((FirewallFeed.xds decoders attributes).step hash))
      ((FirewallFeed.xds decoders attributes).start source) events = some final)
    (hquiescent : final.controller.Quiescent final.source.1) :
    ∀ uid ps, final.controller.pods.lookup uid = some ps →
      ∀ (order : IterationOrder) ruleset policyHash,
        resolveWorkloadFirewall order.1 hash final.source.1 ps.workloadInfo none =
          some (ruleset, policyHash) →
        ps.state = .enrolled ∧ final.controller.applied ps.netns = some ruleset := by
  intro uid ps hps order ruleset policyHash hresolve
  obtain ⟨input, hinput, -, rfl, -⟩ := resolveWorkloadFirewall_eq_some.1 hresolve
  have htracked := (FirewallFeed.xds decoders attributes).tracked_run order hash source hrun
  exact htracked.applied_of_quiescent hhash hquiescent hps hinput

/-! ### Two pods in one namespace, and two workloads for one pod -/

/-- Backend `init` and `apply` succeed. -/
def FirewallSystemEvent.backendSucceeds {U : Type*} : FirewallSystemEvent U → Bool
  | .controller (.init ok) | .controller (.apply ok) | .controller (.applyJob _ ok)
  | .controller (.applyPending ok) => ok
  | _ => true

/-- Nothing is pending, and the namespace of a pod does not have the rules of the current state. -/
def Controller.Stale (order : IterationOrder) (state : ProxyState) (c : Controller InputHash)
    (uid : Strng) : Prop :=
  c.Quiescent state ∧ ∃ ps ∈ c.pods.lookup uid,
    ∃ result ∈ resolveWorkloadFirewall order.1 InputHash.of state ps.workloadInfo none,
      c.applied ps.netns ≠ some result.1

instance Controller.decidableStale (order : IterationOrder) (state : ProxyState)
    (c : Controller InputHash) (uid : Strng) : Decidable (c.Stale order state uid) :=
  inferInstanceAs (Decidable (_ ∧ _))

/-- The handlers of xDS batches, whatever is in them. -/
def handlers : FirewallSource ProxyState Batch where
  state := id
  apply s batch := (batch.handle unrestrictedDecoders s).2

def reversedUids : IterationOrder where
  val set := (sortedUids.1 set).reverse
  property set _ := List.mem_reverse.trans (sortedUids.2 set _)

/-- The first workload, sent once or again. -/
def sendPod : Batch := .workloads [.update ⟨"a", allowedPod "a"⟩]

/-- A pod is added when another workload has its name, namespace and service account, and its own is
sent again, after which the set is iterated the other way around. -/
def twinRun : List (FirewallSystemEvent Batch) :=
  addPodRun "a" 1 ++ [.update sendPod, .controller .workloadsChanged,
    .controller (.list reversedUids ["a"]), .controller .next]

/-- **Pods that share a namespace overwrite each other's rules, and a pod with two workloads has the
rules of either.** Backends succeed, nothing is pending, and the namespace of the first pod has the
rules of the second, or those of the workload that is no longer found. -/
theorem shared_netns_or_identity_stale :
    (∃ final, run (restrict (fun _ e ↦ e.backendSucceeds = true) (podFeed.step InputHash.of))
        (podFeed.start podSource) (addPodRun "a" 1 ++ addPodRun "b" 1) = some final ∧
      final.controller.Stale sortedUids final.source.1 "a") ∧
    ∃ final, run (restrict (fun _ e ↦ e.backendSucceeds = true) (handlers.step InputHash.of))
        (handlers.start (handlers.apply (handlers.apply (.new none) sendPod)
          (.workloads [.update ⟨"b", { deniedPod "a" with uid := "b" }⟩]))) twinRun = some final ∧
      final.controller.Stale reversedUids final.source "a" := by
  constructor
  · exact exists_run (fun final ↦ final.controller.Stale sortedUids final.source.1 "a")
      (by decide) fun _ _ h ↦ h
  · exact exists_run (fun final ↦ final.controller.Stale reversedUids final.source "a")
      (by decide) fun _ _ h ↦ h

/-- A pod is added and its binding is taken away, which wakes the controller twice. -/
def deniedRun : List (FirewallSystemEvent
    { batch : Batch // batch.Keeps podAttributes unrestrictedDecoders }) :=
  addPodRun "a" 1 ++
    [.update denyPod, .controller .policiesChanged, .controller (.debounced sortedUids ["a"]),
      .controller (.applyJob "a" true), .controller .next, .controller .workloadsChanged,
      .controller (.list sortedUids ["a"]), .controller .next]

/-- The rules of the new binding are the ones applied in the end. -/
theorem no_lost_update_deniedRun :
    ∃ final, run (restrict FirewallSystem.SoundStep (podFeed.step InputHash.of))
        (podFeed.start podSource) deniedRun = some final ∧
      ∃ ps input, final.controller.pods.lookup "a" = some ps ∧
        firewallInput sortedUids.1 final.source.1 ps.workloadInfo = some input ∧
        ps.state = .enrolled ∧ final.controller.applied ps.netns = some input.ruleset := by
  refine exists_run (fun final ↦ final.controller.Quiescent final.source.1 ∧
    ∃ ps ∈ final.controller.pods.lookup "a",
      (firewallInput sortedUids.1 final.source.1 ps.workloadInfo).isSome = true) (by decide) ?_
  rintro final hfinal ⟨hquiescent, ps, hps, hsome⟩
  obtain ⟨input, hinput⟩ := Option.isSome_iff_exists.1 hsome
  refine ⟨ps, input, hps, hinput, ?_⟩
  exact no_lost_update unrestrictedDecoders podAttributes InputHash.of
    (fun _ _ ↦ InputHash.of.inj) podSource hfinal hquiescent "a" ps hps sortedUids input.ruleset
    (.of input)
    (resolveWorkloadFirewall_eq_some.2 ⟨input, hinput, (fun h ↦ nomatch h), rfl, rfl⟩)

end Ztunnel.Firewall
