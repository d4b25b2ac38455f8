import Ztunnel.Firewall.Convert
import Ztunnel.State.WorkloadIndex
import Ztunnel.Xds.Notification

/-!
# The node-local index and what is found by it

`find_by_info` goes through `node_local_by_identity`, an index from an identity to the UIDs of its
workloads on the local node. Updates replace a workload by removing it and inserting it again, so
the index must come out of this as it went in. `NodeIndex` says what the index holds, on the
assumption that a UID keeps its node, name, namespace and service account, and that no two UIDs of
the node share the last three. The order in which a `HashSet` is gone through depends on how it came
about, so that without the second assumption two reads of the same state could differ.

With it, what a pod's firewall is made of (`firewallInput`) changes only when the policy notifier
fires, and appears only when the insert notifier does: the two facts on which the firewall
controllers rely.
-/

namespace Ztunnel.Xds

open Ztunnel.State Ztunnel.Rbac Ztunnel.Sandbox Ztunnel.Firewall
open Ztunnel.State.WorkloadStore (IterationOrder)

/-- What a UID is assumed to keep. -/
structure NodeAttributes where
  node : Strng
  name : Strng
  «namespace» : Strng
  serviceAccount : Strng
deriving DecidableEq, Repr

/-- The info that finds a workload with the attributes. -/
def NodeAttributes.info (a : NodeAttributes) : WorkloadInfo :=
  ⟨a.name, a.namespace, a.serviceAccount⟩

/-- The attributes of a workload. -/
def nodeAttributes (w : Workload) : NodeAttributes :=
  ⟨w.node, w.name, w.namespace, w.serviceAccount⟩

theorem matches_iff (info : WorkloadInfo) (w : Workload) :
    info.matches w = true ↔ info = (nodeAttributes w).info := by
  simp only [WorkloadInfo.matches, Bool.and_eq_true, beq_iff_eq, and_assoc]
  exact WorkloadInfo.mk.injEq .. ▸ Iff.rfl

/-- **What the index holds**, where a UID keeps its attributes and no two UIDs of the node share
name, namespace and service account. -/
structure NodeIndex (attributes : Strng → NodeAttributes) (store : WorkloadStore) : Prop
    extends store.LocallyIndexed where
  kept : ∀ uid w, store.byUid uid = some w → nodeAttributes w = attributes uid
  distinct : ∀ uid uid', store.IsLocal (attributes uid).node →
    store.IsLocal (attributes uid').node → (attributes uid).info = (attributes uid').info →
      uid = uid'

namespace NodeIndex

variable {attributes : Strng → NodeAttributes} {store store' : WorkloadStore}

theorem new {attributes : Strng → NodeAttributes} (localNode : Option Strng)
    (hdistinct : ∀ uid uid', (attributes uid).info = (attributes uid').info → uid = uid') :
    NodeIndex attributes (.new localNode) where
  toLocallyIndexed := (WorkloadStore.indexed_new localNode).toLocallyIndexed
  kept _ _ h := nomatch h
  distinct uid uid' _ _ := hdistinct uid uid'

theorem remove (h : NodeIndex attributes store) (uid : Strng) :
    NodeIndex attributes (store.remove uid).2 := by
  refine ⟨h.toLocallyIndexed.remove uid, fun uid' w hw ↦ ?_, ?_⟩
  · rw [WorkloadStore.remove_byUid, Index.update_none_eq_some] at hw
    exact h.kept uid' w hw.2
  · simp only [WorkloadStore.isLocal_remove]
    exact h.distinct

/-- A workload with the attributes of its UID is inserted. -/
theorem insert (h : NodeIndex attributes store) {w : Workload}
    (hw : nodeAttributes w = attributes w.uid) : NodeIndex attributes (store.insert w) := by
  have hremoved := h.remove w.uid
  have hnew : (store.remove w.uid).2.byUid w.uid = none := by simp
  rw [WorkloadStore.insert_eq]
  refine ⟨hremoved.toLocallyIndexed.put hnew, fun uid v hv ↦ ?_, hremoved.distinct⟩
  obtain hold | ⟨rfl, rfl⟩ := (WorkloadStore.byUid_put_eq_some hnew).1 hv
  · exact hremoved.kept uid v hold
  · exact hw

end NodeIndex

/-! ### What a batch does to the workloads -/

/-- The workloads that the updates of a batch convert to. -/
def Batch.Converts (decoders : Decoders) (batch : Batch) (w : Workload) : Prop :=
  ∃ resource services, Workload.tryFrom decoders resource = .ok (w, services) ∧
    match batch with
    | .workloads updates => ∃ name, .update ⟨name, resource⟩ ∈ updates
    | .addresses updates => ∃ name, .update ⟨name, .workload resource⟩ ∈ updates
    | .sandboxes _ => False
    | .trafficPolicies _ => False

theorem workloads_removeInternal (state : ProxyState) (name : Strng) (forInsert : Bool) :
    (removeInternal state name forInsert).workloads = (state.workloads.remove name).2 := by
  unfold removeInternal
  rcases hprev : state.workloads.byUid name with - | prev
  · have hsame : state.workloads.remove name = (none, state.workloads) := by
      simp only [WorkloadStore.remove, hprev]
    rw [hsame]
    cases forInsert
    · rcases NamespacedHostname.fromStr name with e | host
      · rfl
      · simp only [Bool.false_eq_true, if_false]
        split <;> rfl
    · rfl
  · rcases hremove : state.workloads.remove name with ⟨_ | _, workloads⟩
    · have hfst := state.workloads.remove_fst name
      rw [hremove, hprev] at hfst
      cases hfst
    · cases forInsert <;> rfl

theorem workloads_insertWorkload (decoders : Decoders) (state : ProxyState)
    (resource : XdsWorkload) :
    (insertWorkload decoders state resource).2.workloads = state.workloads ∨
      ∃ w services, Workload.tryFrom decoders resource = .ok (w, services) ∧
        (insertWorkload decoders state resource).2.workloads =
          (state.workloads.remove w.uid).2.insert w := by
  unfold insertWorkload
  rcases htry : Workload.tryFrom decoders resource with e | ⟨w, services⟩
  · exact .inl rfl
  · refine .inr ⟨w, services, rfl, ?_⟩
    rw [← workloads_removeInternal state w.uid true]
    dsimp only [removeWorkloadForInsert]
    split
    · rfl
    · dsimp only
      split <;> rfl

/-- A handler that leaves the workloads alone, with its notification. -/
theorem workloads_notifyIf {α : Type}
    {handleOne : Bool × ProxyState → XdsUpdate α → Except ConfigError Unit × (Bool × ProxyState)}
    (hsame : ∀ s u, (handleOne s u).2.2.workloads = s.2.workloads) (state : ProxyState)
    (updates : List (XdsUpdate α)) :
    (notifyIf (handleSingleResource handleOne (false, state) updates)).2.workloads =
      state.workloads := by
  have hkept : (handleSingleResource handleOne (false, state) updates).2.2.workloads =
      state.workloads :=
    handleSingleResource_preserves
      (P := fun s : Bool × ProxyState ↦ s.2.workloads = state.workloads)
      (fun u _ s hs ↦ (hsame s u).trans hs) rfl
  unfold notifyIf
  dsimp only
  split <;> exact hkept

/-- **The induction rule for the workloads of a batch**: what removals and inserts of its workloads
preserve, the batch preserves. -/
theorem workloads_handle {P : WorkloadStore → Prop} {decoders : Decoders} {state : ProxyState}
    (batch : Batch) (hremove : ∀ store uid, P store → P (store.remove uid).2)
    (hinsert : ∀ store w, batch.Converts decoders w → P store → P (store.insert w))
    (hs : P state.workloads) : P (batch.handle decoders state).2.workloads := by
  have hworkload : ∀ (s : ProxyState) (resource : XdsWorkload),
      (∀ w services, Workload.tryFrom decoders resource = .ok (w, services) →
        batch.Converts decoders w) →
      P s.workloads → P (insertWorkload decoders s resource).2.workloads := by
    intro s resource hconverts hP
    obtain hsame | ⟨w, services, htry, heq⟩ := workloads_insertWorkload decoders s resource
    · rw [hsame]
      exact hP
    · rw [heq]
      exact hinsert _ w (hconverts w services htry) (hremove _ _ hP)
  have hremoval : ∀ (s : ProxyState) (name : Strng), P s.workloads →
      P (remove s name).workloads := by
    intro s name hP
    rw [remove, workloads_removeInternal]
    exact hremove _ _ hP
  cases batch with
  | workloads updates =>
    refine handleSingleResource_preserves (P := fun s : ProxyState ↦ P s.workloads)
      (fun u hu s hP ↦ ?_) hs
    rcases u with ⟨name, resource⟩ | name
    · exact hworkload s resource (fun w services htry ↦ ⟨resource, services, htry, name, hu⟩) hP
    · exact hremoval s name hP
  | addresses updates =>
    refine handleSingleResource_preserves (P := fun s : ProxyState ↦ P s.workloads)
      (fun u hu s hP ↦ ?_) hs
    rcases u with ⟨name, resource | service | -⟩ | name
    · exact hworkload s resource (fun w services htry ↦ ⟨resource, services, htry, name, hu⟩) hP
    · obtain ⟨services, hservices⟩ := insertService_cases s service
      show P (insertService s service).2.workloads
      rw [hservices]
      exact hP
    · exact hP
    · exact hremoval s name hP
  | sandboxes updates =>
    have hsame : ∀ (s : Bool × ProxyState) (u : XdsUpdate XdsSandbox),
        (handleSandbox s u).2.2.workloads = s.2.workloads := by
      rintro s (⟨name, resource⟩ | name)
      · simp only [handleSandbox]
        split <;> rfl
      · rfl
    rw [Batch.handle, workloads_notifyIf hsame]
    exact hs
  | trafficPolicies updates =>
    have hsame : ∀ (s : Bool × ProxyState) (u : XdsUpdate XdsTrafficPolicy),
        (handleTrafficPolicy s u).2.2.workloads = s.2.workloads := by
      rintro s (⟨name, resource⟩ | name)
      · simp only [handleTrafficPolicy]
        split <;> rfl
      · rfl
    rw [Batch.handle, workloads_notifyIf hsame]
    exact hs

/-! ### What is found by info -/

/-- The insert notifier never goes back, and where it has not fired no workload has come. -/
structure Grown (store store' : WorkloadStore) : Prop where
  mono : store.insertNotifier ≤ store'.insertNotifier
  shrunk : store'.insertNotifier = store.insertNotifier →
    ∀ uid w, store'.byUid uid = some w → store.byUid uid = some w
  localNode : store'.localNode = store.localNode

/-- A batch moves the insert notifier when it inserts. -/
theorem grown_handle (decoders : Decoders) (state : ProxyState) (batch : Batch) :
    Grown state.workloads (batch.handle decoders state).2.workloads := by
  have hremoved : ∀ (store : WorkloadStore) (uid : Strng),
      (store.remove uid).2.insertNotifier = store.insertNotifier := by
    intro store uid
    unfold WorkloadStore.remove
    split <;> rfl
  refine workloads_handle (P := Grown state.workloads) batch (fun store uid h ↦ ?_)
    (fun store w _ h ↦ ?_) ⟨le_rfl, fun _ _ _ hw ↦ hw, rfl⟩
  · have hnotifier := hremoved store uid
    refine ⟨hnotifier ▸ h.mono, fun heq uid' w hw ↦ ?_,
      (store.remove_localNode uid).trans h.localNode⟩
    rw [WorkloadStore.remove_byUid, Index.update_none_eq_some] at hw
    exact h.shrunk (hnotifier ▸ heq) uid' w hw.2
  · have hfired : (store.insert w).insertNotifier = store.insertNotifier + 1 :=
      congrArg (· + 1) (hremoved store w.uid)
    have hmono := h.mono
    refine ⟨by omega, fun heq ↦ ?_, (store.remove_localNode w.uid).trans h.localNode⟩
    omega

namespace NodeIndex

variable {attributes : Strng → NodeAttributes} {store store' : WorkloadStore}

/-- The index keeps its meaning through a batch whose workloads have the attributes of their UIDs.
-/
theorem handle {decoders : Decoders} {state : ProxyState}
    (h : NodeIndex attributes state.workloads) {batch : Batch}
    (hkeeps : ∀ w, batch.Converts decoders w → nodeAttributes w = attributes w.uid) :
    NodeIndex attributes (batch.handle decoders state).2.workloads :=
  workloads_handle batch (fun _ uid hs ↦ hs.remove uid) (fun _ w hw hs ↦ hs.insert (hkeeps w hw)) h

/-- What `find_by_info` finds, in whatever order it goes through a set. -/
theorem findByInfo_eq_some (h : NodeIndex attributes store) (order : IterationOrder)
    {info : WorkloadInfo} {w : Workload} :
    store.findByInfo order.1 info = some w ↔
      store.Stored w ∧ store.IsLocal w.node ∧ info.matches w = true := by
  refine ⟨h.of_findByInfo, fun hw ↦ ?_⟩
  obtain ⟨v, hv⟩ := Option.isSome_iff_exists.1 ((h.findByInfo_isSome order info).2 ⟨w, hw⟩)
  obtain ⟨hstored, hnode, hmatches⟩ := h.of_findByInfo hv
  have hkept := h.kept _ _ hw.1
  have hkept' := h.kept _ _ hstored
  have huid : w.uid = v.uid := by
    refine h.distinct _ _ (hkept ▸ hw.2.1) (hkept' ▸ hnode) ?_
    rw [← hkept, ← hkept', ← (matches_iff info w).1 hw.2.2, ← (matches_iff info v).1 hmatches]
  rw [hv]
  exact hstored.symm.trans (huid ▸ hw.1)

/-- The binding of a workload. -/
def binding (w : Workload) : Strng × Option (List Strng) := (w.uid, w.trafficPolicyRefs)

/-- A workload that is found has one with its binding in a store with the same bindings. -/
theorem exists_findByInfo (h : NodeIndex attributes store) (h' : NodeIndex attributes store')
    (hlocal : store'.localNode = store.localNode)
    (hbinding : ∀ uid, (store'.byUid uid).map binding = (store.byUid uid).map binding)
    {order : IterationOrder} {info : WorkloadInfo} {w : Workload}
    (hw : store.findByInfo order.1 info = some w) :
    ∃ w', store'.findByInfo order.1 info = some w' ∧ binding w' = binding w := by
  obtain ⟨hstored, hnode, hmatches⟩ := (h.findByInfo_eq_some order).1 hw
  obtain ⟨w', hw', heq⟩ := Option.map_eq_some_iff.1 ((hbinding w.uid).trans (by rw [hstored]; rfl))
  have hattributes : nodeAttributes w' = nodeAttributes w :=
    (h'.kept _ _ hw').trans (h.kept _ _ hstored).symm
  refine ⟨w', (h'.findByInfo_eq_some order).2 ⟨h'.stored hw', ?_, ?_⟩, heq⟩
  · have hsame : w'.node = w.node := congrArg NodeAttributes.node hattributes
    rw [WorkloadStore.IsLocal, hlocal, hsame]
    exact hnode
  · rw [matches_iff, hattributes, ← matches_iff]
    exact hmatches

/-- The same workloads, as far as UIDs and references go, are found by the same info. -/
theorem findByInfo_eq (h : NodeIndex attributes store) (h' : NodeIndex attributes store')
    (hlocal : store'.localNode = store.localNode)
    (hbinding : ∀ uid, (store'.byUid uid).map binding = (store.byUid uid).map binding)
    (order : IterationOrder) (info : WorkloadInfo) :
    (store'.findByInfo order.1 info).map binding = (store.findByInfo order.1 info).map binding := by
  rcases hw : store.findByInfo order.1 info with - | w
  · rcases hw' : store'.findByInfo order.1 info with - | w'
    · rfl
    · obtain ⟨w, hfound, -⟩ := h'.exists_findByInfo h hlocal.symm
        (fun uid ↦ (hbinding uid).symm) hw'
      exact nomatch hw.symm.trans hfound
  · obtain ⟨w', hw', heq⟩ := h.exists_findByInfo h' hlocal hbinding hw
    rw [hw', Option.map_some, heq, Option.map_some]

end NodeIndex

/-! ### The firewall input is announced -/

/-- What the firewall of a pod is made of, from the workload found for it. -/
theorem firewallInput_eq_map (order : Finset Strng → List Strng) (state : ProxyState)
    (info : WorkloadInfo) :
    firewallInput order state info =
      ((state.workloads.findByInfo order info).map NodeIndex.binding).map
        fun (uid, refs) ↦
          { workloadUid := uid
            policies := (if refs.isNone then [("workload-binding", none)] else []) ++
              (refs.getD []).map fun name ↦ (name, state.policies.get name)
            sandbox := (state.sandboxes.getByWorkload uid).head?.map fun sandbox ↦
              (sandbox.uid, sandbox.trafficPolicy) } := by
  rw [Option.map_map]
  rfl

/-- A state whose entries stand under their keys and whose index is right. -/
structure Indexed (attributes : Strng → NodeAttributes) (state : ProxyState) : Prop where
  keys : KeysMatch state
  index : NodeIndex attributes state.workloads

/-- The workloads of a batch have the attributes of their UIDs. -/
def Batch.Keeps (attributes : Strng → NodeAttributes) (decoders : Decoders) (batch : Batch) :
    Prop :=
  ∀ w, batch.Converts decoders w → nodeAttributes w = attributes w.uid

/-- The attributes that a workload resource converts to. -/
def resourceAttributes (resource : XdsWorkload) : NodeAttributes :=
  ⟨resource.node, resource.name, resource.namespace, orDefault resource.serviceAccount "default"⟩

theorem nodeAttributes_of_tryFrom {decoders : Decoders} {resource : XdsWorkload} {w : Workload}
    {services : List (String × PortList)}
    (h : Workload.tryFrom decoders resource = .ok (w, services)) :
    w.uid = resource.uid ∧ nodeAttributes w = resourceAttributes resource := by
  simp only [Workload.tryFrom, bind_eq_ok] at h
  obtain ⟨_, -, _, -, _, -, _, -, _, -, _, -, _, -, _, -, _, -, hpure⟩ := h
  obtain ⟨rfl, -⟩ := Prod.mk.inj (Except.ok.inj hpure)
  exact ⟨rfl, rfl⟩

/-- A batch of workloads keeps the attributes if its resources do. -/
theorem Batch.keeps_workloads {attributes : Strng → NodeAttributes} (decoders : Decoders)
    {updates : List (XdsUpdate XdsWorkload)}
    (h : ∀ resource, .update resource ∈ updates →
      resourceAttributes resource.resource = attributes resource.resource.uid) :
    (Batch.workloads updates).Keeps attributes decoders := by
  rintro w ⟨resource, services, hconvert, name, hmem⟩
  obtain ⟨huid, hattributes⟩ := nodeAttributes_of_tryFrom hconvert
  rw [hattributes, huid]
  exact h ⟨name, resource⟩ hmem

section Handle

variable {attributes : Strng → NodeAttributes} {decoders : Decoders} {state : ProxyState}
  {batch : Batch}

theorem Indexed.handle (h : Indexed attributes state) (hkeeps : batch.Keeps attributes decoders) :
    Indexed attributes (batch.handle decoders state).2 :=
  ⟨(announced_handle decoders h.keys batch).2, h.index.handle hkeeps⟩

/-- **A firewall input that changes is announced** by the policy notifier. -/
theorem firewallInput_announced (h : Indexed attributes state)
    (hkeeps : batch.Keeps attributes decoders) (order : IterationOrder) {info : WorkloadInfo}
    (hne : firewallInput order.1 (batch.handle decoders state).2 info ≠
      firewallInput order.1 state info) :
    state.policies.notifier < (batch.handle decoders state).2.policies.notifier := by
  have hannounced := (announced_handle decoders h.keys batch).1
  refine lt_of_le_of_ne hannounced.mono fun heq ↦ hne ?_
  obtain ⟨hbinding, hsandboxes, hpolicies⟩ := RbacView.mk.inj (hannounced.view heq.symm)
  have hfound := h.index.findByInfo_eq (h.handle hkeeps).index
    (grown_handle decoders state batch).localNode (fun uid ↦ congrFun hbinding uid) order info
  rw [firewallInput_eq_map, firewallInput_eq_map, hfound, hsandboxes]
  simp only [TrafficPolicyStore.get, hpolicies]

/-- **A firewall input that appears** is announced by the insert notifier. -/
theorem firewallInput_inserted (h : Indexed attributes state)
    (hkeeps : batch.Keeps attributes decoders) (order : IterationOrder) {info : WorkloadInfo}
    (hnone : firewallInput order.1 state info = none)
    (hsome : firewallInput order.1 (batch.handle decoders state).2 info ≠ none) :
    state.workloads.insertNotifier <
      (batch.handle decoders state).2.workloads.insertNotifier := by
  have hgrown := grown_handle decoders state batch
  refine lt_of_le_of_ne hgrown.mono fun heq ↦ hsome ?_
  rw [firewallInput, Option.map_eq_none_iff, Option.eq_none_iff_forall_ne_some] at hnone ⊢
  intro w hw
  obtain ⟨hstored, hnode, hmatches⟩ := ((h.handle hkeeps).index.findByInfo_eq_some order).1 hw
  -- the workload was there before
  refine hnone w ((h.index.findByInfo_eq_some order).2
    ⟨hgrown.shrunk heq.symm _ _ hstored, ?_, hmatches⟩)
  rwa [WorkloadStore.IsLocal, hgrown.localNode] at hnode

/-- The order in which a read goes through the UIDs of an identity does not matter. -/
theorem firewallInput_agree (h : Indexed attributes state) (order order' : IterationOrder)
    (info : WorkloadInfo) :
    firewallInput order.1 state info = firewallInput order'.1 state info := by
  have hsame : state.workloads.findByInfo order.1 info = state.workloads.findByInfo order'.1 info :=
    Option.ext fun _ ↦
      (h.index.findByInfo_eq_some order).trans (h.index.findByInfo_eq_some order').symm
  rw [firewallInput, firewallInput, hsame]

end Handle

end Ztunnel.Xds
