import Ztunnel.Xds.Update

/-!
# Every change of a decision is announced

A batch of updates that changes the decision about some connection fires the policy notifier. The
handlers decide from partial comparisons whether to notify: a workload update compares the policy
references, a sandbox update the binding and the inline policy, a policy update the whole policy.
What is compared is what a decision reads (`ProxyState.view`), provided that the entries of the
stores stand under their own keys (`KeysMatch`), which holds in every reachable state.

`Announced` is the relation between the state before and after a mutation: either nothing that a
decision reads has changed, or the notifier has fired. It composes, so it holds of a batch when it
holds of each update.
-/

namespace Ztunnel.Xds

open Ztunnel.State Ztunnel.Rbac Ztunnel.Sandbox

/-! ### Entries stand under their keys -/

/-- The invariant of the stores that a decision reads. -/
structure KeysMatch (state : ProxyState) : Prop where
  workload : ∀ uid w, state.workloads.byUid uid = some w → w.uid = uid
  sandbox : ∀ id s, state.sandboxes.resources id = some s → s.uid = id

theorem keysMatch_new (localNode : Option Strng) : KeysMatch (.new localNode) :=
  ⟨fun _ _ h ↦ by simp [ProxyState.new, WorkloadStore.new] at h,
    fun _ _ h ↦ by simp [ProxyState.new, SandboxStore.empty] at h⟩

/-- What holds of the entries of a map holds after an update with such an entry, or with none. -/
theorem entries_of_update {α : Type} {m : Strng → Option α} {Q : Strng → α → Prop}
    (hm : ∀ k a, m k = some a → Q k a) {k₀ : Strng} {v : Option α}
    (hv : ∀ a, v = some a → Q k₀ a) :
    ∀ k a, Function.update m k₀ v k = some a → Q k a := by
  intro k a h
  by_cases hk : k = k₀
  · subst hk
    exact hv a (by simpa using h)
  · exact hm k a (by simpa [hk] using h)

/-! ### The relation of a mutation -/

/-- The notifier never goes back, and where it has not fired a decision reads what it did before. -/
structure Announced (s s' : ProxyState) : Prop where
  mono : s.policies.notifier ≤ s'.policies.notifier
  view : s'.policies.notifier = s.policies.notifier → s'.view = s.view

namespace Announced

variable {s s' s'' : ProxyState}

protected theorem refl (s : ProxyState) : Announced s s := ⟨le_rfl, fun _ ↦ rfl⟩

protected theorem trans (h : Announced s s') (h' : Announced s' s'') : Announced s s'' where
  mono := h.mono.trans h'.mono
  view heq := by
    have h₁ := h.mono
    have h₂ := h'.mono
    rw [h'.view (by omega), h.view (by omega)]

/-- A mutation that leaves the policies alone and the view as it was. -/
theorem of_view (hpolicies : s'.policies = s.policies) (hview : s'.view = s.view) :
    Announced s s' :=
  ⟨by rw [hpolicies], fun _ ↦ hview⟩

theorem of_fired (h : s.policies.notifier < s'.policies.notifier) : Announced s s' :=
  ⟨h.le, fun heq ↦ absurd heq h.ne'⟩

/-- **A decision that differs was announced.** -/
theorem fired_of_ne (h : Announced s s') {ctx : ProxyRbacContext}
    (hne : assertRbac s' ctx ≠ assertRbac s ctx) :
    s.policies.notifier < s'.policies.notifier := by
  refine lt_of_le_of_ne h.mono fun heq ↦ hne ?_
  exact assertRbac_eq_of_view (h.view heq.symm) ctx

end Announced

/-! ### Workloads and services -/

/-- The hosts of a workload that converts parse: the conversion has parsed them. -/
theorem fromStr_of_tryFrom {decoders : Decoders} {resource : XdsWorkload} {w : Workload}
    {services : List (String × PortList)}
    (h : Workload.tryFrom decoders resource = .ok (w, services)) :
    ∀ service ∈ services, ∃ host, NamespacedHostname.fromStr service.1 = .ok host := by
  simp only [Workload.tryFrom, bind_eq_ok] at h
  obtain ⟨_, -, _, -, _, -, hosts, hhosts, _, -, _, -, _, -, _, -, _, -, hpure⟩ := h
  obtain ⟨-, rfl⟩ := Prod.mk.inj (Except.ok.inj hpure)
  exact fun service hs ↦ exists_ok_of_mapM hhosts service hs

theorem hosts_parse {decoders : Decoders} {resource : XdsWorkload} {w : Workload}
    {services : List (String × PortList)}
    (h : Workload.tryFrom decoders resource = .ok (w, services)) :
    ∀ p ∈ services.map fun service ↦ (service.1, service.2.toMap),
      ∃ host, NamespacedHostname.fromStr p.1 = .ok host := by
  intro p hp
  obtain ⟨service, hservice, rfl⟩ := List.mem_map.1 hp
  exact fromStr_of_tryFrom h service hservice

/-- Hence adding the endpoints of a converted workload never fails. -/
theorem insertServiceEndpoints_ok {w : Workload} {services : List (String × PortMap)}
    (h : ∀ service ∈ services, ∃ host, NamespacedHostname.fromStr service.1 = .ok host)
    (store : ServiceStore) : (insertServiceEndpoints w services store).1 = .ok () := by
  induction services generalizing store with
  | nil => rfl
  | cons service services ih =>
    obtain ⟨host, hhost⟩ := h service List.mem_cons_self
    rw [insertServiceEndpoints, hhost]
    exact ih (fun service hs ↦ h service (List.mem_cons_of_mem _ hs)) _

/-- A removal touches the workload of the name or else the services, and fires if a workload goes
that is not about to be replaced. -/
theorem removeInternal_cases (state : ProxyState) (name : Strng) (forInsert : Bool) :
    (removeInternal state name forInsert).sandboxes = state.sandboxes ∧
      (removeInternal state name forInsert).workloads.byUid =
        Function.update state.workloads.byUid name none ∧
      (removeInternal state name forInsert).policies =
        if (state.workloads.byUid name).isSome && !forInsert then state.policies.send
        else state.policies := by
  have hfst := state.workloads.remove_fst name
  have hsnd := state.workloads.remove_byUid name
  unfold removeInternal
  rcases hremove : state.workloads.remove name with ⟨_ | prev, workloads⟩
  · rw [hremove] at hfst
    have hsame : Function.update state.workloads.byUid name none = state.workloads.byUid := by
      rw [show none = state.workloads.byUid name from hfst, Function.update_eq_self]
    rw [hsame, ← hfst]
    cases forInsert
    · rcases NamespacedHostname.fromStr name with e | host
      · exact ⟨rfl, rfl, rfl⟩
      · by_cases hslash : host.hostname.toList.contains '/' = true
        · simp only [hslash]
          exact ⟨rfl, rfl, rfl⟩
        · simp only [hslash]
          exact ⟨rfl, rfl, rfl⟩
    · exact ⟨rfl, rfl, rfl⟩
  · rw [hremove] at hfst hsnd
    rw [← hsnd, ← hfst]
    cases forInsert
    · exact ⟨rfl, rfl, rfl⟩
    · exact ⟨rfl, rfl, rfl⟩

/-- What an update with a workload can do: be rejected without a trace, or put the workload under
its UID and fire if its references are new. -/
theorem insertWorkload_cases (decoders : Decoders) (state : ProxyState) (resource : XdsWorkload) :
    (insertWorkload decoders state resource).2 = state ∨
      ∃ w, (insertWorkload decoders state resource).2.sandboxes = state.sandboxes ∧
        (insertWorkload decoders state resource).2.workloads.byUid =
          Function.update state.workloads.byUid w.uid (some w) ∧
        (insertWorkload decoders state resource).2.policies =
          if (state.workloads.byUid w.uid).all fun old ↦
            old.trafficPolicyRefs != w.trafficPolicyRefs
          then state.policies.send else state.policies := by
  unfold insertWorkload
  rcases htry : Workload.tryFrom decoders resource with e | ⟨w, services⟩
  · exact .inl rfl
  · refine .inr ⟨w, ?_⟩
    obtain ⟨hsandboxes, hbyUid, hpolicies⟩ := removeInternal_cases state w.uid true
    have hok := insertServiceEndpoints_ok (w := w) (hosts_parse htry)
      (removeWorkloadForInsert state w.uid).services
    rcases hins : insertServiceEndpoints w (services.map fun service ↦ (service.1, service.2.toMap))
      (removeWorkloadForInsert state w.uid).services with ⟨result, store⟩
    rw [hins] at hok
    subst hok
    simp only [removeWorkloadForInsert, WorkloadStore.findUid] at hins ⊢
    simp only [hins]
    rw [Bool.not_true, Bool.and_false, if_neg (by simp)] at hpolicies
    split
    · refine ⟨hsandboxes, ?_, ?_⟩
      · simp [ProxyState.notify, hbyUid]
      · simp [ProxyState.notify, hpolicies]
    · refine ⟨hsandboxes, ?_, hpolicies⟩
      simp [hbyUid]

theorem announced_insertWorkload (decoders : Decoders) {state : ProxyState}
    (hkeys : KeysMatch state) (resource : XdsWorkload) :
    Announced state (insertWorkload decoders state resource).2 := by
  rcases insertWorkload_cases decoders state resource with hsame | ⟨w, hs, hbyUid, hp⟩
  · rw [hsame]
    exact .refl state
  · by_cases hchanged : (state.workloads.byUid w.uid).all fun old ↦
        old.trafficPolicyRefs != w.trafficPolicyRefs
    · rw [if_pos hchanged] at hp
      refine .of_fired ?_
      rw [hp]
      exact Nat.lt_succ_self _
    · rw [if_neg hchanged] at hp
      -- the workload replaces one with its own UID and references
      obtain ⟨old, hold, hrefs⟩ : ∃ old, state.workloads.byUid w.uid = some old ∧
          old.trafficPolicyRefs = w.trafficPolicyRefs := by
        rcases hold : state.workloads.byUid w.uid with - | old
        · simp [hold] at hchanged
        · exact ⟨old, rfl, by simpa [hold] using hchanged⟩
      refine .of_view hp ?_
      simp only [ProxyState.view, hbyUid, hs, hp, RbacView.mk.injEq, and_self, and_true]
      funext uid
      by_cases huid : uid = w.uid
      · subst huid
        simp [hold, hkeys.workload _ _ hold, hrefs]
      · simp [huid]

theorem announced_remove (state : ProxyState) (name : Strng) :
    Announced state (remove state name) := by
  obtain ⟨hs, hbyUid, hp⟩ := removeInternal_cases state name false
  rw [Bool.not_false, Bool.and_true] at hp
  rcases hsome : (state.workloads.byUid name).isSome
  · rw [hsome, if_neg (by simp)] at hp
    refine .of_view hp ?_
    have hnone : state.workloads.byUid name = none := by simpa using hsome
    rw [← hnone, Function.update_eq_self] at hbyUid
    simp only [remove, ProxyState.view, hbyUid, hs, hp]
  · rw [hsome, if_pos rfl] at hp
    refine .of_fired ?_
    rw [remove, hp]
    exact Nat.lt_succ_self _

theorem keysMatch_insertWorkload (decoders : Decoders) {state : ProxyState}
    (hkeys : KeysMatch state) (resource : XdsWorkload) :
    KeysMatch (insertWorkload decoders state resource).2 := by
  rcases insertWorkload_cases decoders state resource with hsame | ⟨w, hs, hbyUid, -⟩
  · rw [hsame]
    exact hkeys
  · refine ⟨?_, by rw [hs]; exact hkeys.sandbox⟩
    rw [hbyUid]
    exact entries_of_update hkeys.workload fun a ha ↦ by rw [← Option.some.inj ha]

theorem keysMatch_remove {state : ProxyState} (hkeys : KeysMatch state) (name : Strng) :
    KeysMatch (remove state name) := by
  obtain ⟨hs, hbyUid, -⟩ := removeInternal_cases state name false
  refine ⟨?_, by rw [remove, hs]; exact hkeys.sandbox⟩
  rw [remove, hbyUid]
  exact entries_of_update hkeys.workload fun a ha ↦ by simp at ha

/-- A service update changes services only. -/
theorem insertService_cases (state : ProxyState) (s : XdsService) :
    ∃ services, (insertService state s).2 = { state with services := services } := by
  unfold insertService
  split
  · exact ⟨state.services, rfl⟩
  · exact ⟨_, rfl⟩

/-- One update of the workload and address handlers. -/
theorem announced_handleAddress (decoders : Decoders) {state : ProxyState}
    (hkeys : KeysMatch state) (u : XdsUpdate XdsAddress) :
    Announced state (handleAddress decoders state u).2 ∧
      KeysMatch (handleAddress decoders state u).2 := by
  rcases u with ⟨name, w | s | -⟩ | name
  · exact ⟨announced_insertWorkload decoders hkeys w, keysMatch_insertWorkload decoders hkeys w⟩
  · obtain ⟨services, hservices⟩ := insertService_cases state s
    show Announced state (insertService state s).2 ∧ KeysMatch (insertService state s).2
    rw [hservices]
    exact ⟨.of_view rfl rfl, hkeys.workload, hkeys.sandbox⟩
  · exact ⟨.refl state, hkeys⟩
  · exact ⟨announced_remove state name, keysMatch_remove hkeys name⟩

theorem announced_handleWorkload (decoders : Decoders) {state : ProxyState}
    (hkeys : KeysMatch state) (u : XdsUpdate XdsWorkload) :
    Announced state (handleWorkload decoders state u).2 ∧
      KeysMatch (handleWorkload decoders state u).2 := by
  rcases u with w | name
  · exact ⟨announced_insertWorkload decoders hkeys w.resource,
      keysMatch_insertWorkload decoders hkeys w.resource⟩
  · exact ⟨announced_remove state name, keysMatch_remove hkeys name⟩

/-! ### Sandboxes and policies -/

/-- The invariant of a batch with a flag, relative to the state it started from: nothing has fired
yet, and without the flag a decision reads what it did before. -/
structure Flagged (start : ProxyState) (s : Bool × ProxyState) : Prop where
  keys : KeysMatch s.2
  notifier : s.2.policies.notifier = start.policies.notifier
  view : s.1 = false → s.2.view = start.view

theorem flagged_handleSandbox {start : ProxyState} {s : Bool × ProxyState} (h : Flagged start s)
    (u : XdsUpdate XdsSandbox) : Flagged start (handleSandbox s u).2 := by
  obtain ⟨changed, state⟩ := s
  -- what a new store under the old flag, or with a change that is reported, preserves
  have hstep : ∀ (flag : Bool) (store : SandboxStore),
      (∀ id sb, store.resources id = some sb → sb.uid = id) →
      (flag = false → store = state.sandboxes) →
      Flagged start (changed || flag, { state with sandboxes := store }) := by
    intro flag store hkeys hsame
    refine ⟨⟨h.keys.workload, hkeys⟩, h.notifier, fun hflag ↦ ?_⟩
    obtain ⟨hchanged, hflag⟩ := Bool.or_eq_false_iff.1 hflag
    rw [hsame hflag]
    exact h.view hchanged
  rcases u with ⟨name, resource⟩ | name
  · simp only [handleSandbox]
    rcases state.sandboxes.update_cases name resource with ⟨⟨e, he⟩, hstore⟩ | ⟨sandbox, -, -, heq⟩
    · rw [show state.sandboxes.update name resource = (.error e, state.sandboxes) from
        Prod.ext he hstore]
      simpa using hstep false state.sandboxes h.keys.sandbox fun _ ↦ rfl
    · rw [heq]
      refine hstep _ _ ?_ fun hflag ↦ SandboxStore.insert_eq_self h.keys.sandbox hflag
      rw [SandboxStore.insert_resources]
      exact entries_of_update h.keys.sandbox fun a ha ↦ by rw [← Option.some.inj ha]
  · show Flagged start (changed || (state.sandboxes.remove name).1,
      { state with sandboxes := (state.sandboxes.remove name).2 })
    refine hstep _ _ ?_ fun hflag ↦ SandboxStore.remove_eq_self hflag
    rw [SandboxStore.remove_resources]
    exact entries_of_update h.keys.sandbox fun a ha ↦ by simp at ha

theorem flagged_handleTrafficPolicy {start : ProxyState} {s : Bool × ProxyState}
    (h : Flagged start s) (u : XdsUpdate XdsTrafficPolicy) :
    Flagged start (handleTrafficPolicy s u).2 := by
  obtain ⟨changed, state⟩ := s
  have hstep : ∀ (flag : Bool) (store : TrafficPolicyStore),
      store.notifier = state.policies.notifier → (flag = false → store = state.policies) →
      Flagged start (changed || flag, { state with policies := store }) := by
    intro flag store hnotifier hsame
    refine ⟨⟨h.keys.workload, h.keys.sandbox⟩, hnotifier.trans h.notifier, fun hflag ↦ ?_⟩
    obtain ⟨hchanged, hflag⟩ := Bool.or_eq_false_iff.1 hflag
    rw [hsame hflag]
    exact h.view hchanged
  rcases u with ⟨name, resource⟩ | name
  · simp only [handleTrafficPolicy]
    rcases hupdate : state.policies.update name resource with ⟨result, store⟩
    rcases state.policies.update_cases name resource with hsame | ⟨policy, -, -, heq⟩
    · have hsame : store = state.policies := by simpa [hupdate] using hsame
      rcases result with e | flag
      · simpa using hstep false store (by rw [hsame]) fun _ ↦ hsame
      · exact hstep flag store (by rw [hsame]) fun _ ↦ hsame
    · obtain ⟨rfl, rfl⟩ := Prod.mk.inj (hupdate.symm.trans heq)
      exact hstep true _ rfl fun hflag ↦ absurd hflag (by simp)
  · exact hstep _ _ rfl fun hflag ↦ TrafficPolicyStore.remove_eq_self hflag

/-- The end of a batch with a flag. -/
theorem announced_notifyIf {start : ProxyState} {r : List RejectedConfig × (Bool × ProxyState)}
    (h : Flagged start r.2) : Announced start (notifyIf r).2 ∧ KeysMatch (notifyIf r).2 := by
  obtain ⟨rejects, changed, state⟩ := r
  cases changed
  · exact ⟨⟨h.notifier.ge, fun _ ↦ h.view rfl⟩, h.keys⟩
  · refine ⟨.of_fired ?_, h.keys.workload, h.keys.sandbox⟩
    show start.policies.notifier < state.policies.notifier + 1
    rw [← h.notifier]
    exact Nat.lt_succ_self _

/-! ### Batches -/

/-- **A batch announces what it changes**, and keeps the entries under their keys. -/
theorem announced_handle (decoders : Decoders) {state : ProxyState} (hkeys : KeysMatch state)
    (batch : Batch) :
    Announced state (batch.handle decoders state).2 ∧
      KeysMatch (batch.handle decoders state).2 := by
  -- relative to the state the batch started from
  have hstart : Announced state state ∧ KeysMatch state := ⟨.refl state, hkeys⟩
  have hflagged : Flagged state (false, state) := ⟨hkeys, rfl, fun _ ↦ rfl⟩
  cases batch with
  | workloads updates =>
    refine handleSingleResource_preserves (P := fun s ↦ Announced state s ∧ KeysMatch s)
      (fun u _ s hs ↦ ?_) hstart
    obtain ⟨hann, hk⟩ := announced_handleWorkload decoders hs.2 u
    exact ⟨hs.1.trans hann, hk⟩
  | addresses updates =>
    refine handleSingleResource_preserves (P := fun s ↦ Announced state s ∧ KeysMatch s)
      (fun u _ s hs ↦ ?_) hstart
    obtain ⟨hann, hk⟩ := announced_handleAddress decoders hs.2 u
    exact ⟨hs.1.trans hann, hk⟩
  | sandboxes updates =>
    exact announced_notifyIf (handleSingleResource_preserves (P := Flagged state)
      (fun u _ _ hs ↦ flagged_handleSandbox hs u) hflagged)
  | trafficPolicies updates =>
    exact announced_notifyIf (handleSingleResource_preserves (P := Flagged state)
      (fun u _ _ hs ↦ flagged_handleTrafficPolicy hs u) hflagged)

/-- The states a process can reach: it starts empty, handles batches, and may load a local
configuration. -/
inductive Reachable (decoders : Decoders) (localNode : Option Strng) : ProxyState → Prop
  | new : Reachable decoders localNode (.new localNode)
  | handle {state : ProxyState} (batch : Batch) (h : Reachable decoders localNode state) :
      Reachable decoders localNode (batch.handle decoders state).2
  | loadConfig {state state' : ProxyState} (r : LocalConfig)
      (h : Reachable decoders localNode state) (hload : loadConfig localNode r state = .ok state') :
      Reachable decoders localNode state'

theorem keys_loadSandboxes {sandboxes : List Sandbox} {store store' : SandboxStore}
    (hkeys : ∀ id s, store.resources id = some s → s.uid = id)
    (h : loadSandboxes sandboxes store = .ok store') :
    ∀ id s, store'.resources id = some s → s.uid = id :=
  loadSandboxes_rule (P := fun store ↦ ∀ id s, store.resources id = some s → s.uid = id) h
    (fun store sandbox _ hkeys ↦ by
      rw [SandboxStore.insert_resources]
      exact entries_of_update hkeys fun a ha ↦ by rw [← Option.some.inj ha])
    hkeys

theorem keys_loadWorkloads {workloads : List (Workload × List (String × PortMap))}
    {stores stores' : WorkloadStore × ServiceStore}
    (hkeys : ∀ uid w, stores.1.byUid uid = some w → w.uid = uid)
    (h : loadWorkloads workloads stores = .ok stores') :
    ∀ uid w, stores'.1.byUid uid = some w → w.uid = uid :=
  loadWorkloads_rule (P := fun store ↦ ∀ uid w, store.byUid uid = some w → w.uid = uid) h
    (fun store w _ hkeys ↦ by
      rw [WorkloadStore.insert_byUid]
      exact entries_of_update hkeys fun a ha ↦ by rw [← Option.some.inj ha])
    hkeys

/-- **In every reachable state the entries stand under their keys.** -/
theorem Reachable.keysMatch {decoders : Decoders} {localNode : Option Strng} {state : ProxyState}
    (h : Reachable decoders localNode state) : KeysMatch state := by
  induction h with
  | new => exact keysMatch_new localNode
  | handle batch _ ih => exact (announced_handle decoders ih batch).2
  | loadConfig r _ hload _ =>
    simp only [Xds.loadConfig, bind_eq_ok] at hload
    obtain ⟨policies, -, sandboxes, hsandboxes, ⟨workloads, services⟩, hworkloads, hstate⟩ := hload
    obtain rfl := Except.ok.inj hstate
    refine ⟨?_, ?_⟩
    · exact keys_loadWorkloads (fun _ _ h ↦ by simp [WorkloadStore.new] at h) hworkloads
    · exact keys_loadSandboxes (fun _ _ h ↦ by simp [SandboxStore.empty] at h) hsandboxes

/-- **Notification completeness.** From every reachable state, a batch for any of the four handlers
after which some context is decided differently, the error included, has fired the policy
notifier. -/
theorem batch_fires_of_decision_change {decoders : Decoders} {localNode : Option Strng}
    {state : ProxyState} (hreach : Reachable decoders localNode state) (batch : Batch)
    (ctx : ProxyRbacContext)
    (hne : assertRbac (batch.handle decoders state).2 ctx ≠ assertRbac state ctx) :
    state.policies.notifier < (batch.handle decoders state).2.policies.notifier :=
  (announced_handle decoders hreach.keysMatch batch).1.fired_of_ne hne

/-- A workload with no policy binding. -/
def unboundWorkload : XdsWorkload where
  uid := "pod"
  name := "pod"
  «namespace» := "ns"
  addresses := [[10, 0, 0, 1]]
  hostname := ""
  network := ""
  tunnelProtocol := 1
  trustDomain := ""
  serviceAccount := ""
  waypoint := none
  node := "node"
  nativeTunnel := false
  applicationTunnel := none
  services := [("ns/svc", ⟨[⟨80, 8080⟩]⟩)]
  status := 0
  clusterId := ""
  locality := none
  networkMode := 0
  extensions := []
  capacity := none

/-- Decoders for messages that never occur. -/
def noDecoders : Decoders where
  policyReference _ := .error (.decodeError "")
  otherExtension _ := .ok ()

/-- An inbound connection to that workload. -/
def podContext : ProxyRbacContext where
  conn :=
    { src := ⟨.v4 0x0a000002, 1000⟩
      dst := ⟨.v4 0x0a000001, 8080⟩
      srcIdentity := none
      dstNetwork := ""
      direction := .inbound }
  workload :=
    { workloadIps := []
      waypoint := none
      protocol := .hbone
      networkMode := .standard
      uid := "pod"
      name := "pod"
      «namespace» := "ns"
      trustDomain := "cluster.local"
      serviceAccount := "default"
      network := ""
      hostname := ""
      node := "node"
      nativeTunnel := false
      applicationTunnel := none
      status := .healthy
      clusterId := "Kubernetes"
      locality := default
      services := []
      capacity := 1
      trafficPolicyRefs := none }
  sandbox := none

/-- A workload that arrives without its binding changes the error of a decision, and fires. -/
theorem batch_fires_on_new_workload :
    (ProxyState.new none).policies.notifier <
      (Batch.handle noDecoders (.new none)
        (.workloads [.update ⟨"pod", unboundWorkload⟩])).2.policies.notifier :=
  batch_fires_of_decision_change (.new : Reachable noDecoders none _) _ podContext (by decide)

end Ztunnel.Xds
