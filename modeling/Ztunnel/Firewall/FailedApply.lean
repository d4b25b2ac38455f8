import Ztunnel.Firewall.Controller

/-!
# Applies that fail

A failed `apply` should not be forgotten: the pod is to be retried, or to stand as failed. The three
paths that apply rules differ here. `try_init_and_apply` answers `InitFailed`, which is retried up
to `MAX_INIT_RETRIES` times and counted as failed after that. The rebuilds after a policy change and
after a workload insert only log the error: the pod stays `Enrolled` or `PendingWorkload`, and
nothing wakes the controller for it again (`rebuild_failure_forgotten`).

The invariant `Remembered` holds along every run in which the rebuilds succeed
(`failed_apply_remembered`).
-/

namespace Ztunnel.Firewall

open Ztunnel.State Ztunnel.Rbac Ztunnel.Xds Transition
open Ztunnel.State.WorkloadStore (IterationOrder)

variable {H : Type}

/-! ### The invariant -/

/-- **A failed apply is remembered**: the pod stands as failed. -/
structure Remembered (c : Controller H) : Prop where
  failed : ∀ uid ps, c.pods.lookup uid = some ps → ps.lastApply = some false →
    ∃ retries, ps.state = .initFailed retries
  /-- A rebuild in progress is about to record successes only. -/
  results : ∀ jobs results, c.phase = .rebuilding jobs results → ∀ r ∈ results, ∀ ps,
    c.pods.lookup r.1 = some ps → ps.lastApply = some true

/-- **When a step keeps it**: the applies of the two rebuilds succeed, and a retry after a failed
apply finds the workload. -/
def Controller.RememberedStep (state : ProxyState) (c : Controller H) : ControllerEvent → Prop
  | .applyJob _ ok | .applyPending ok => ok = true
  | .resolve order =>
    match c.phase with
    | .resolving pod (.retry _ _) =>
      (c.pods.lookup pod.uid).bind (·.lastApply) = some false →
        firewallInput order.1 state pod.info ≠ none
    | _ => True
  | _ => True

instance (state : ProxyState) (c : Controller H) :
    (e : ControllerEvent) → Decidable (c.RememberedStep state e)
  | .applyJob _ ok | .applyPending ok => inferInstanceAs (Decidable (ok = true))
  | .resolve order =>
    match h : c.phase with
    | .resolving pod (.retry _ _) =>
      decidable_of_iff
        ((c.pods.lookup pod.uid).bind (·.lastApply) = some false →
          firewallInput order.1 state pod.info ≠ none)
        (by simp only [Controller.RememberedStep, h])
    | .resolving _ (.addPod _) => .isTrue (by simp only [Controller.RememberedStep, h])
    | .idle _ | .cleaning _ _ _ | .initializing _ _ | .applying _ _ _ _ | .rebuilding _ _
    | .listing | .rebuildingPending _ | .retrying _ | .stopped =>
      .isTrue (by simp only [Controller.RememberedStep, h])
  | .send _ | .startDrain | .drain | .recv | .policiesChanged | .debounced _ _ | .workloadsChanged
  | .tick _ | .cleanup _ | .init _ | .apply _ | .list _ _ | .next => .isTrue trivial

namespace Remembered

variable {hash : FirewallInput → H} {state : ProxyState} {c c' : Controller H}

/-- The pods are kept, and no results are at hand. -/
theorem move (h : Remembered c) (hpods : c'.pods = c.pods)
    (hphase : ∀ jobs results, c'.phase = .rebuilding jobs results → results = []) :
    Remembered c' := by
  refine ⟨fun uid ps hps ↦ h.failed uid ps (hpods ▸ hps), fun jobs results hp r hr ↦ ?_⟩
  rw [hphase jobs results hp] at hr
  exact absurd hr List.not_mem_nil

theorem setPhase (h : Remembered c) {phase : Phase H}
    (hphase : ∀ jobs results, phase = .rebuilding jobs results → results = []) :
    Remembered { c with phase := phase } :=
  h.move rfl hphase

theorem erasePod (h : Remembered c) {uid : Strng} (hpods : c'.pods = c.pods.erase uid)
    (hphase : ∀ jobs results, c'.phase ≠ .rebuilding jobs results) : Remembered c' := by
  refine ⟨fun uid' ps hps ↦ ?_, fun jobs results hp ↦ absurd hp (hphase jobs results)⟩
  rw [hpods] at hps
  exact h.failed uid' ps (Index.lookup_erase_eq_some.1 hps).2

/-- One pod changes, into one that keeps its failure if it has one. -/
theorem modifyPod (h : Remembered c) (uid : Strng) {f : PodFirewallState H → PodFirewallState H}
    (hf : ∀ ps, c.pods.lookup uid = some ps → (f ps).lastApply = some false →
      ∃ retries, (f ps).state = .initFailed retries) {phase : Phase H}
    (hphase : ∀ jobs results, phase ≠ .rebuilding jobs results) :
    Remembered { c.modifyPod uid f with phase := phase } := by
  refine ⟨fun uid' ps' hps' ↦ ?_, fun jobs results hp ↦ absurd hp (hphase jobs results)⟩
  rw [Controller.lookup_modifyPod] at hps'
  split at hps'
  · obtain ⟨ps, hps, rfl⟩ := Option.map_eq_some_iff.1 hps'
    exact hf ps hps
  · exact h.failed uid' ps' hps'

/-- `try_init_and_apply` is over: a failed apply comes with `InitFailed`, and where there was no
apply the last one had not failed. -/
theorem finish (h : Remembered c) {pod : PodTask} {caller : Caller} {podState : PodState}
    {policyHash : H} {result : Option Bool}
    (hresult : result = some false → ∃ retries, podState = .initFailed retries)
    (hnone : result = none → podState = .pendingWorkload → ∀ retries rest,
      caller = .retry retries rest → ∀ ps, c.pods.lookup pod.uid = some ps →
        ps.lastApply ≠ some false) (henrolled : podState = .enrolled → result = some true) :
    Remembered (c.finish pod caller podState policyHash result) := by
  cases caller with
  | addPod loop =>
    refine ⟨fun uid ps hps ↦ ?_, fun _ _ hp ↦ nomatch hp⟩
    simp only [Controller.finish] at hps
    obtain ⟨-, rfl⟩ | ⟨-, hold⟩ := Index.lookup_insert_eq_some.1 hps
    · exact hresult
    · exact h.failed uid ps hold
  | retry retries rest =>
    refine h.modifyPod pod.uid (fun ps hps hlast ↦ ?_) fun _ _ hp ↦ nomatch hp
    cases podState with
    | initFailed n => exact ⟨retries + 1, rfl⟩
    | enrolled =>
      rw [henrolled rfl] at hlast
      cases hlast
    | pendingWorkload =>
      rcases result with - | ok
      · exact absurd hlast (hnone rfl rfl retries rest rfl ps hps)
      · exact hresult hlast

/-! ### Every such step keeps it -/

/-- `try_init_and_apply` finds no workload: the last apply of a retried pod has not failed. -/
theorem missing [DecidableEq H] [Zero H] (h : Remembered c) {order : IterationOrder}
    {pod : PodTask} {caller : Caller} (hok : c.RememberedStep state (.resolve order))
    (hphase : c.phase = .resolving pod caller)
    (hresolve : resolveWorkloadFirewall order.1 hash state pod.info none = none) :
    Remembered (c.finish pod caller .pendingWorkload 0 none) := by
  refine h.finish (fun hfalse ↦ nomatch hfalse) ?_ fun henrolled ↦ nomatch henrolled
  rintro - - retries rest rfl ps hps hlast
  simp only [Controller.RememberedStep, hphase, hps, Option.bind_some] at hok
  refine hok hlast (Option.eq_none_iff_forall_ne_some.2 fun input hinput ↦ ?_)
  exact nomatch resolveWorkloadFirewall_eq_none.1 hresolve input hinput

theorem applyJob (h : Remembered c) {jobs jobs' : List (Job H)}
    {results : List (Strng × H × Bool)} (hphase : c.phase = .rebuilding jobs results)
    (job : Job H) :
    Remembered
      { (c.install job.netns job.ruleset true).noteApply job.uid true with
        phase := .rebuilding jobs' (results ++ [(job.uid, job.policyHash, true)]) } := by
  rw [Controller.noteApply_install]
  refine ⟨fun uid ps' hps' hlast ↦ ?_, fun _ _ hp r hr ps' hps' ↦ ?_⟩
  · rw [Controller.noteApply, Controller.lookup_modifyPod] at hps'
    split at hps'
    · obtain ⟨ps, -, rfl⟩ := Option.map_eq_some_iff.1 hps'
      cases hlast
    · exact h.failed uid ps' hps' hlast
  · obtain ⟨-, rfl⟩ := Phase.rebuilding.inj hp
    rw [Controller.noteApply, Controller.lookup_modifyPod] at hps'
    split at hps'
    · obtain ⟨ps, -, rfl⟩ := Option.map_eq_some_iff.1 hps'
      rfl
    · next hne =>
      obtain hr | hr := List.mem_append.1 hr
      · exact h.results jobs results hphase r hr ps' hps'
      · obtain rfl := List.mem_singleton.1 hr
        exact absurd rfl hne

theorem recordResults (h : Remembered c) {results : List (Strng × H × Bool)}
    (hphase : c.phase = .rebuilding [] results) :
    Remembered { c.recordResults results with phase := .idle .run } := by
  refine ⟨fun uid ps' hps' hlast ↦ ?_, fun _ _ hp ↦ nomatch hp⟩
  obtain ⟨-, hlookup⟩ | ⟨r, hr, rfl, hlookup⟩ := c.lookup_recordResults results uid
  · exact h.failed uid ps' (hlookup ▸ hps') hlast
  · obtain ⟨ps, hps, rfl⟩ := Option.map_eq_some_iff.1 (hlookup ▸ hps')
    have htrue := h.results [] results hphase r hr ps hps
    exact nomatch htrue.symm.trans hlast

theorem applyPending (h : Remembered c) (job : Job H) (jobs : List (Job H)) :
    Remembered
      { ((c.install job.netns job.ruleset true).noteApply job.uid true).enroll job.uid
          job.policyHash with
        phase := .rebuildingPending jobs } := by
  rw [Controller.noteApply_install]
  refine ⟨fun uid ps' hps' hlast ↦ ?_, fun _ _ hp ↦ nomatch hp⟩
  rw [Controller.enroll, Controller.lookup_modifyPod] at hps'
  split at hps'
  · obtain ⟨ps, hps, rfl⟩ := Option.map_eq_some_iff.1 hps'
    rw [Controller.noteApply, Controller.lookup_modifyPod, if_pos rfl] at hps
    obtain ⟨ps, -, rfl⟩ := Option.map_eq_some_iff.1 hps
    cases hlast
  · next hne =>
    rw [Controller.noteApply, Controller.lookup_modifyPod, if_neg hne] at hps'
    exact h.failed uid ps' hps' hlast

theorem applied (h : Remembered c) {pod : PodTask} {ruleset : RuleSet} {policyHash : H}
    {caller : Caller} (hphase : c.phase = .applying pod ruleset policyHash caller) :
    Remembered
      ((c.install pod.netns ruleset true).finish pod caller .enrolled policyHash (some true)) := by
  have hinstalled : Remembered (c.install pod.netns ruleset true) := by
    refine h.move rfl fun _ _ hp ↦ ?_
    exact nomatch hphase.symm.trans hp
  exact hinstalled.finish (fun hfalse ↦ nomatch hfalse) (fun hnone ↦ nomatch hnone) fun _ ↦ rfl

theorem step [DecidableEq H] [Zero H] (h : Remembered c) {e : ControllerEvent}
    (hok : c.RememberedStep state e) (hstep : c.step hash state e = some c') :
    Remembered c' := by
  cases Controller.stepped_of_step hstep with
  | sent | startedDrain => exact ⟨h.failed, h.results⟩
  | missing order pod caller hphase hresolve => exact h.missing hok hphase hresolve
  | recorded results hphase => exact h.recordResults hphase
  | initFailed =>
    exact h.finish (fun hfalse ↦ nomatch hfalse) (fun _ hp ↦ nomatch hp) fun hp ↦ nomatch hp
  | applied pod ruleset policyHash caller hphase => exact h.applied hphase
  | applyFailed =>
    exact h.finish (fun _ ↦ ⟨0, rfl⟩) (fun hnone ↦ nomatch hnone) fun hp ↦ nomatch hp
  | appliedJob jobs results job ok hphase hjob =>
    obtain rfl : ok = true := hok
    exact h.applyJob hphase job
  | appliedPending job jobs => exact h.applyPending job jobs
  | pendingFailed => cases hok
  | removed | moved => exact h.erasePod rfl fun _ _ hp ↦ nomatch hp
  -- a rebuild starts without results
  | debounced => exact h.setPhase fun _ _ hp ↦ (Phase.rebuilding.inj hp).2.symm
  | resolved | listed | rebuilt | retried | skipped | retrying | cleaned | replaced | initialized
  | stopped | interrupted | ignored | added | policiesChanged | workloadsChanged | ticked =>
    exact h.move rfl fun _ _ hp ↦ nomatch hp

end Remembered

/-! ### Runs -/

/-- The condition on a step of the system. -/
def FirewallSource.RememberedStep {σ U : Type*} (source : FirewallSource σ U)
    (s : FirewallSystem σ H) : FirewallSystemEvent U → Prop
  | .controller e => s.controller.RememberedStep (source.state s.source) e
  | .update _ => True

instance {σ U : Type*} (source : FirewallSource σ U) (s : FirewallSystem σ H) :
    (e : FirewallSystemEvent U) → Decidable (source.RememberedStep s e)
  | .controller e =>
    inferInstanceAs (Decidable (s.controller.RememberedStep (source.state s.source) e))
  | .update _ => .isTrue trivial

/-- A failed pod below the limit is visited by the next tick. -/
theorem Controller.tick_visits [DecidableEq H] [Zero H] {hash : FirewallInput → H}
    {state : ProxyState} {c : Controller H} (hphase : c.phase = .idle .run) {uid : Strng}
    {ps : PodFirewallState H} (hps : c.pods.lookup uid = some ps) {retries : ℕ}
    (hstate : ps.state = .initFailed retries) (hretries : retries < maxInitRetries) :
    ∃ c' rest, c.step hash state (.tick c.pods.keys) = some c' ∧
      c'.phase = .retrying rest ∧ uid ∈ rest := by
  have hmem : uid ∈ c.retryable c.pods.keys := by
    refine List.mem_filter.2 ⟨Controller.mem_of_perm_keys (.refl _) hps, ?_⟩
    rw [hps, Option.any_some, hstate]
    exact decide_eq_true hretries
  refine ⟨{ c with phase := .retrying (c.retryable c.pods.keys) }, _, ?_, rfl, hmem⟩
  simp only [Controller.step, hphase, Controller.select]
  exact if_pos ⟨trivial, .refl _, List.ne_nil_of_mem hmem⟩

/-- **A failed apply is remembered.** In every run, over any source, in which the rebuilds succeed
and a retry after a failed apply finds its workload, a registered pod whose last apply failed stands
as failed, and the controller goes back to it as long as it is below the limit. -/
theorem failed_apply_remembered {σ U : Type*} [DecidableEq H] [Zero H]
    (source : FirewallSource σ U) (hash : FirewallInput → H) (start : σ)
    {events : List (FirewallSystemEvent U)} {final : FirewallSystem σ H}
    (hrun : run (restrict source.RememberedStep (source.step hash)) (source.start start) events =
      some final) :
    ∀ uid ps, final.controller.pods.lookup uid = some ps → ps.lastApply = some false →
      ∃ retries, ps.state = .initFailed retries ∧
        (retries < maxInitRetries → final.controller.phase = .idle .run →
          ∃ c rest, final.controller.step hash (source.state final.source)
              (.tick final.controller.pods.keys) = some c ∧
            c.phase = .retrying rest ∧ uid ∈ rest) := by
  have hfinal : Remembered final.controller := by
    refine run_induction (I := fun s ↦ Remembered s.controller) hrun
      ⟨(fun _ _ h ↦ nomatch h), (fun _ _ h ↦ nomatch h)⟩ ?_
    rintro e - s s' hs hstep
    obtain ⟨hok, hstep⟩ := restrict_eq_some.1 hstep
    rcases e with e | u
    · obtain ⟨c, hc, rfl⟩ := Option.map_eq_some_iff.1 hstep
      exact hs.step hok hc
    · obtain rfl := Option.some.inj hstep
      exact hs
  intro uid ps hps hlast
  obtain ⟨retries, hstate⟩ := hfinal.failed uid ps hps hlast
  exact ⟨retries, hstate, fun hretries hidle ↦ Controller.tick_visits hidle hps hstate hretries⟩

/-- A pod is added, its binding is taken away, and the apply of the rebuild fails. -/
def failedRebuildRun : List (FirewallSystemEvent
    { batch : Batch // batch.Keeps podAttributes unrestrictedDecoders }) :=
  addPodRun "a" 1 ++
    [.update denyPod, .controller .policiesChanged, .controller (.debounced sortedUids ["a"]),
      .controller (.applyJob "a" false), .controller .next, .controller .workloadsChanged,
      .controller (.list sortedUids ["a"]), .controller .next]

/-- **A failed rebuild is forgotten.** Nothing is pending and no retry is due, while the pod is
enrolled with rules that are not the ones last tried. -/
theorem rebuild_failure_forgotten :
    ∃ final, run (podFeed.step InputHash.of) (podFeed.start podSource) failedRebuildRun =
        some final ∧
      final.controller.Quiescent final.source.1 ∧
      final.controller.step InputHash.of final.source.1
        (.tick final.controller.pods.keys) = none ∧
      ∃ ps ruleset policyHash, final.controller.pods.lookup "a" = some ps ∧
        ps.lastApply = some false ∧ ps.state = .enrolled ∧
        resolveWorkloadFirewall sortedUids.1 InputHash.of final.source.1 ps.workloadInfo none =
          some (ruleset, policyHash) ∧
        final.controller.applied ps.netns ≠ some ruleset := by
  refine exists_run (fun final ↦ final.controller.Quiescent final.source.1 ∧
    (final.controller.step InputHash.of final.source.1
      (.tick final.controller.pods.keys)).isNone = true ∧
    ∃ ps ∈ final.controller.pods.lookup "a", ps.lastApply = some false ∧ ps.state = .enrolled ∧
      ∃ result ∈ resolveWorkloadFirewall sortedUids.1 InputHash.of final.source.1 ps.workloadInfo
        none, final.controller.applied ps.netns ≠ some result.1) (by decide) ?_
  rintro final - ⟨hquiescent, htick, ps, hps, hlast, hstate, ⟨ruleset, policyHash⟩, hresult, hne⟩
  exact ⟨hquiescent, Option.isNone_iff_eq_none.1 htick, ps, ruleset, policyHash, hps, hlast, hstate,
    hresult, hne⟩

/-- The first apply for a pod fails, and its first retry too. -/
def failedRetryRun : List (FirewallSystemEvent
    { batch : Batch // batch.Keeps podAttributes unrestrictedDecoders }) :=
  [.controller (.send (.addPod "a" (podInfo "a") 1)), .controller .recv, .controller (.init true),
    .controller (.resolve sortedUids), .controller (.apply false), .controller (.tick ["a"]),
    .controller .next, .controller (.init true), .controller (.resolve sortedUids),
    .controller (.apply false), .controller .next]

/-- The pod stands as failed and is visited again. -/
theorem failed_apply_remembered_failedRetryRun :
    ∃ final, run (restrict podFeed.RememberedStep (podFeed.step InputHash.of))
        (podFeed.start podSource) failedRetryRun = some final ∧
      ∃ ps, final.controller.pods.lookup "a" = some ps ∧ ps.lastApply = some false ∧
        ∃ retries, ps.state = .initFailed retries := by
  refine exists_run (fun final ↦ ∃ ps ∈ final.controller.pods.lookup "a",
    ps.lastApply = some false) (by decide) ?_
  rintro final hfinal ⟨ps, hps, hlast⟩
  obtain ⟨retries, hstate, -⟩ := failed_apply_remembered podFeed.toFirewallSource InputHash.of
    podSource hfinal "a" ps hps hlast
  exact ⟨ps, hps, hlast, retries, hstate⟩

end Ztunnel.Firewall
