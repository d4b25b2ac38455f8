import Ztunnel.Proxy.LateRevocation

/-!
# Revocation over a whole process

`ProxyFactory` assembles the admission paths of a process: a proxy for the dedicated workload or for
each pod, whose connection manager `Proxy::from_inputs` pairs with a `PolicyWatcher`, and in shared
mode a listener for ztunnel's own endpoints, whose connection manager gets none. All paths read one
state.

`Reevaluated` is what revocation is meant to give on a path: a live guard was evaluated since the
last notification and is allowed, or has been signalled. It should hold on every path that has
nothing left to do (`Settled`). It does on the paths whose connections are admitted under a
subscribed watcher, and fails on the listener without one.
-/

namespace Ztunnel.Proxy

open Ztunnel.State Ztunnel.Rbac Ztunnel.Xds Transition

/-! ### Assembly -/

/-- `config::ProxyMode`. -/
inductive ProxyMode where
  | shared
  | dedicated
deriving DecidableEq, Repr

/-- What the assembly of the admission paths reads of `Config`. -/
structure Config where
  proxyMode : ProxyMode
  proxy : Bool
  ztunnelIdentity : Option Identity
  ztunnelWorkload : Option WorkloadInfo
deriving DecidableEq, Repr

/-- `ProxyFactory::new_proxies_from_factory`, which also serves the dedicated proxy: the manager
goes to `Proxy::from_inputs`, which creates its watcher. -/
def newProxiesFromFactory (config : Config) : Option AdmissionPath :=
  if config.proxy then some (.new (some ⟨.unsubscribed, 0⟩)) else none

/-- `ProxyFactory::create_ztunnel_self_proxy_listener`: the manager goes to `Inbound::new` alone. -/
def createZtunnelSelfProxyListener (config : Config) : Option AdmissionPath :=
  if config.proxyMode ≠ .shared then none
  else
    match config.ztunnelIdentity, config.ztunnelWorkload with
    | some _, some _ => some (.new none)
    | _, _ => none

/-! ### The process -/

/-- The admission paths of a process over one state. -/
structure Process (σ : Type*) where
  source : σ
  paths : List AdmissionPath

/-- An assembly, an event of one path, or a state update. -/
inductive ProcessEvent (U : Type*) where
  | newProxies
  | selfProxy
  | path (i : ℕ) (e : PathEvent)
  | update (u : U)
deriving DecidableEq, Repr

variable {σ U : Type*}

/-- A path joins the process. -/
def Process.add (s : Process σ) (p : AdmissionPath) : Process σ :=
  { s with paths := s.paths ++ [p] }

/-- **One step of the process.** -/
def PolicyFeed.processStep (feed : PolicyFeed σ U) (config : Config) (s : Process σ) :
    ProcessEvent U → Option (Process σ)
  | .newProxies => (newProxiesFromFactory config).map s.add
  | .selfProxy => (createZtunnelSelfProxyListener config).map s.add
  | .path i e =>
    s.paths[i]?.bind fun p ↦
      (p.step (feed.state s.source) e).map fun p' ↦ { s with paths := s.paths.set i p' }
  | .update u =>
    some
      { source := feed.apply s.source u
        paths := s.paths.map (AdmissionPath.noteUpdate (feed.state (feed.apply s.source u))) }

/-- The path has nothing left to do: it has no watcher, the watcher has stopped, or it waits and no
notification is pending. -/
def AdmissionPath.Settled (state : ProxyState) (p : AdmissionPath) : Prop :=
  ∀ w, p.watcher = some w →
    w.phase = .stopped ∨ (w.phase = .waiting ∧ w.seen = state.policies.notifier)

/-- Every live guard was evaluated since the last notification and is allowed, or is signalled. -/
def AdmissionPath.Reevaluated (state : ProxyState) (p : AdmissionPath) : Prop :=
  ∀ h ∈ p.holders, h.phase.isGuard = true → h.channel ∈ p.manager.fired ∨ h.Current state

instance (p : AdmissionPath) : Decidable p.Subscribed :=
  decidable_of_iff (∃ w ∈ p.watcher, w.phase ≠ .unsubscribed) Iff.rfl

/-- **When a step leaves no admission unwatched**: a connection is admitted only on a path whose
watcher has subscribed, and no watcher stops. -/
def Process.WatchedStep (s : Process σ) : ProcessEvent U → Prop
  | .path i (.check _) => ∀ p ∈ s.paths[i]?, p.Subscribed
  | .path _ .stop => False
  | _ => True

instance (s : Process σ) : (e : ProcessEvent U) → Decidable (s.WatchedStep e)
  | .path i (.check _) => inferInstanceAs (Decidable (∀ p ∈ s.paths[i]?, p.Subscribed))
  | .path _ .stop => .isFalse id
  | .path _ (.register _) | .path _ (.reject _) | .path _ (.watcher _) | .path _ (.complete _)
  | .path _ (.release _) | .path _ (.drop _) | .path _ .subscribe | .path _ .wake
  | .path _ (.snapshot _) | .path _ .advance | .newProxies | .selfProxy | .update _ =>
    .isTrue trivial

/-! ### Watched admissions are re-evaluated -/

/-- The invariant of the process: that of each path, with the contexts that register on it. -/
def Process.Inv (known : ℕ → ConnectionContext → Prop) (state : ProxyState) (s : Process σ) :
    Prop :=
  ∀ i p, s.paths[i]? = some p → Watched (known i) state p ∧
    ∀ w, p.watcher = some w → w.phase ≠ .stopped

variable {known : ℕ → ConnectionContext → Prop} {state : ProxyState} {s : Process σ}

/-- A path joins before anything is admitted on it. -/
theorem Process.Inv.add (hs : s.Inv known state) {watcher : Option PolicyWatcher}
    (hwatcher : ∀ w, watcher = some w → w = ⟨.unsubscribed, 0⟩) :
    (s.add (.new watcher)).Inv known state := by
  intro i p hp
  have hnew : Watched (known i) state (.new watcher) ∧
      ∀ w, (AdmissionPath.new watcher).watcher = some w → w.phase ≠ .stopped := by
    refine ⟨.new _ (fun w hw ↦ ?_) fun w hw ↦ ?_, fun w hw ↦ ?_⟩ <;> rw [hwatcher w hw]
    · exact Nat.zero_le _
    · rfl
    · simp
  obtain hlt | hge := Nat.lt_or_ge i s.paths.length
  · rw [Process.add, List.getElem?_append_left hlt] at hp
    exact hs i p hp
  · rw [Process.add, List.getElem?_append_right hge, List.getElem?_singleton] at hp
    split at hp
    · obtain rfl := Option.some.inj hp
      exact hnew
    · cases hp

/-- One path takes a step that leaves no admission unwatched. -/
theorem Process.Inv.path (hs : s.Inv known state)
    (huid : ∀ i c₁ c₂, known i c₁ → known i c₂ → c₁.key = c₂.key →
      c₁.rbacCtx.workload.uid = c₂.rbacCtx.workload.uid)
    {i : ℕ} {e : PathEvent} (hregister : ∀ ctx, e = .register ctx → known i ctx)
    (hok : s.WatchedStep (U := U) (.path i e)) {p p' : AdmissionPath} (hp : s.paths[i]? = some p)
    (hstep : p.step state e = some p') :
    Process.Inv known state { s with paths := s.paths.set i p' } := by
  intro j q hq
  rw [List.getElem?_set] at hq
  split at hq
  · next hij =>
    subst hij
    split at hq
    · obtain rfl := Option.some.inj hq
      obtain ⟨hwatched, hrunning⟩ := hs i p hp
      refine ⟨hwatched.step (huid i) hregister ?_ hstep, fun w hw ↦ ?_⟩
      · rintro h rfl
        exact hok p hp
      · obtain hsame | ⟨_, w', -, hw', -, hstopped⟩ := AdmissionPath.watcher_of_step hstep
        · exact hrunning w (hsame ▸ hw)
        · obtain rfl : w' = w := Option.some.inj (hw' ▸ hw)
          -- only `stop` stops a watcher
          rintro hphase
          rw [hstopped hphase] at hok
          exact hok
    · cases hq
  · exact hs j q hq

theorem Process.Inv.update (hs : s.Inv known state) {state' : ProxyState}
    (hle : state.policies.notifier ≤ state'.policies.notifier)
    (hannounced : ∀ ctx, allows state' ctx ≠ allows state ctx →
      state.policies.notifier < state'.policies.notifier) (source : σ) :
    Process.Inv known state' ⟨source, s.paths.map (AdmissionPath.noteUpdate state')⟩ := by
  intro i p hp
  rw [List.getElem?_map, Option.map_eq_some_iff] at hp
  obtain ⟨q, hq, rfl⟩ := hp
  obtain ⟨hwatched, hrunning⟩ := hs i q hq
  exact ⟨hwatched.update hle hannounced, hrunning⟩

/-- A settled path under the invariant. -/
theorem Watched.reevaluated {known : ConnectionContext → Prop} {p : AdmissionPath}
    (hp : Watched known state p) (hrunning : ∀ w, p.watcher = some w → w.phase ≠ .stopped)
    (hsettled : p.Settled state) : p.Reevaluated state := by
  intro h hh hguard
  -- a guard was admitted under a watcher, and a settled one owes nothing
  obtain ⟨w, hw, -⟩ := hp.subscribed h hh hguard
  obtain hstopped | ⟨hphase, hseen⟩ := hsettled w hw
  · exact absurd hstopped (hrunning w hw)
  · refine hp.current_of_waiting ?_ hh hguard
    rw [hw, ← hphase, ← hseen]

/-- **Revocation covers every watched admission.** In a run in which connections are admitted under
subscribed watchers, every settled path of the process has re-evaluated its guards. -/
theorem revocation_covers_watched_admissions (feed : PolicyFeed σ U) (config : Config)
    (source : σ) {events : List (ProcessEvent U)} {final : Process σ}
    (huid : ∀ i c₁ c₂, .path i (.register c₁) ∈ events → .path i (.register c₂) ∈ events →
      c₁.key = c₂.key → c₁.rbacCtx.workload.uid = c₂.rbacCtx.workload.uid)
    (hrun : run (restrict Process.WatchedStep (feed.processStep config)) ⟨source, []⟩ events =
      some final) :
    ∀ p ∈ final.paths, p.Settled (feed.state final.source) →
      p.Reevaluated (feed.state final.source) := by
  let known : ℕ → ConnectionContext → Prop := fun i ctx ↦ .path i (.register ctx) ∈ events
  have hinv : final.Inv known (feed.state final.source) := by
    refine run_induction (I := fun s ↦ s.Inv known (feed.state s.source)) hrun ?_ ?_
    · intro i p hp
      cases hp
    rintro e he s s' hs hstep
    obtain ⟨hok, hstep⟩ := restrict_eq_some.1 hstep
    cases e with
    | newProxies =>
      obtain ⟨p, hp, rfl⟩ := Option.map_eq_some_iff.1 hstep
      obtain ⟨-, rfl⟩ := Option.ite_some_none_eq_some.1 hp
      exact hs.add fun w hw ↦ (Option.some.inj hw).symm
    | selfProxy =>
      obtain ⟨p, hp, rfl⟩ := Option.map_eq_some_iff.1 hstep
      obtain ⟨-, hp⟩ := Option.ite_none_left_eq_some.1 hp
      split at hp
      · obtain rfl := Option.some.inj hp
        exact hs.add fun w hw ↦ by cases hw
      · cases hp
    | path i e =>
      obtain ⟨p, hp, hstep⟩ := Option.bind_eq_some_iff.1 hstep
      obtain ⟨p', hp', rfl⟩ := Option.map_eq_some_iff.1 hstep
      refine hs.path (fun i ↦ huid i) ?_ hok hp hp'
      rintro ctx rfl
      exact he
    | update u =>
      obtain rfl := Option.some.inj hstep
      exact hs.update (feed.notifier_le _ _) (feed.announced _ _) _
  intro p hp hsettled
  obtain ⟨i, hi⟩ := List.mem_iff_getElem?.1 hp
  obtain ⟨hwatched, hrunning⟩ := hinv i p hi
  exact hwatched.reevaluated hrunning hsettled

/-! ### The listener without a watcher -/

/-- A configuration of shared mode with an identity for ztunnel itself. -/
def sharedConfig : Config where
  proxyMode := .shared
  proxy := true
  ztunnelIdentity := some ⟨"cluster.local", "istio-system", "ztunnel"⟩
  ztunnelWorkload := some ⟨"ztunnel", "istio-system", "ztunnel"⟩

/-- Decoders for the one reference extension below. -/
def podDecoders : Decoders where
  policyReference _ := .ok ⟨trafficPolicyType, []⟩
  otherExtension _ := .ok ()

/-- The sample workload, bound to no policy. -/
def boundWorkload : XdsWorkload :=
  { unboundWorkload with
    extensions :=
      [⟨"traffic-policy-reference",
        some ⟨"type.googleapis.com/kruise.networking.extensions.v1.PolicyReference", []⟩⟩] }

/-- The start of a process: an empty state and no path. -/
def emptyProcess : Process { s : ProxyState // Reachable podDecoders none s } where
  source := ⟨.new none, .new⟩
  paths := []

/-- A connection is admitted on the self-proxy listener, and its workload is removed. -/
def selfProxyRun : List (ProcessEvent Batch) :=
  [.update (.workloads [.update ⟨"pod", boundWorkload⟩]), .selfProxy,
    .path 0 (.register podConnection), .path 0 (.check (podHolder .registered 0 true)),
    .update (.workloads [.remove "pod"])]

/-- **Revocation does not cover the self-proxy listener.** Nothing is left to do, and a guard that
the state denies is not signalled. -/
theorem self_proxy_not_revoked :
    ∃ final, run ((PolicyFeed.xds podDecoders none).processStep sharedConfig) emptyProcess
        selfProxyRun = some final ∧
      ∃ p ∈ final.paths, p.Settled final.source.1 ∧ ¬ p.Reevaluated final.source.1 := by
  refine exists_run (fun final ↦ ∃ p ∈ final.paths, p.watcher = none ∧
    podHolder .guarded 1 false ∈ p.holders ∧ 0 ∉ p.manager.fired ∧
      podConnection.allowed final.source.1 = false) (by decide) ?_
  rintro final - ⟨p, hp, hwatcher, hmem, hfired, hdenied⟩
  refine ⟨p, hp, fun w hw ↦ ?_, fun hreevaluated ↦ ?_⟩
  · rw [hwatcher] at hw
    cases hw
  · obtain hsignalled | hcurrent := hreevaluated _ hmem rfl
    · exact hfired hsignalled
    · exact absurd (hdenied.symm.trans hcurrent.1) Bool.false_ne_true

/-- The same connection on the path of a pod, whose watcher closes it. -/
def watchedRun : List (ProcessEvent Batch) :=
  [.update (.workloads [.update ⟨"pod", boundWorkload⟩]), .newProxies, .path 0 .subscribe,
    .path 0 (.register podConnection), .path 0 (.check (podHolder .registered 0 true)),
    .path 0 (.watcher (podHolder .guarded 1 true)), .update (.workloads [.remove "pod"]),
    .path 0 .wake, .path 0 (.snapshot [podConnection.key]), .path 0 .advance, .path 0 .advance,
    .path 0 .advance, .path 0 (.complete (podHolder .running 2 false)), .path 0 .advance,
    .path 0 .advance]

/-- There the pass is over and the guard, still live, is signalled. -/
theorem revocation_covers_watchedRun :
    ∃ final, run (restrict Process.WatchedStep
        ((PolicyFeed.xds podDecoders none).processStep sharedConfig)) emptyProcess watchedRun =
          some final ∧
      ∃ p ∈ final.paths, podHolder .finished 2 false ∈ p.holders ∧
        p.Reevaluated final.source.1 := by
  refine exists_run (fun final ↦ ∃ p ∈ final.paths,
    p.watcher = some ⟨.waiting, final.source.1.policies.notifier⟩ ∧
      podHolder .finished 2 false ∈ p.holders) (by decide) ?_
  rintro final hfinal ⟨p, hp, hwatcher, hmem⟩
  refine ⟨p, hp, hmem, ?_⟩
  refine revocation_covers_watched_admissions (PolicyFeed.xds podDecoders none) sharedConfig
    emptyProcess.source ?_ hfinal p hp fun w hw ↦ ?_
  · intro i c₁ c₂ h₁ h₂ _
    simp only [watchedRun, List.mem_cons, ProcessEvent.path.injEq, PathEvent.register.injEq,
      reduceCtorEq, and_false, List.not_mem_nil, or_false, false_or] at h₁ h₂
    rw [h₁.2, h₂.2]
  · obtain rfl := Option.some.inj (hwatcher ▸ hw)
    exact .inr ⟨rfl, rfl⟩

end Ztunnel.Proxy
