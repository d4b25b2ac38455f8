import Ztunnel.State.Endpoints
import Ztunnel.Xds.Notification

/-!
# Endpoints follow the workloads

An endpoint is made when a workload is inserted, from what the update says: the ports for each
service that the workload lists, and its health. The store of workloads keeps the names of the
services only, so what an endpoint should carry is read off the updates: `announce` keeps, for each
UID, the update that was accepted last, unless the name was removed after it.

* `Tracks` is the invariant: the workloads are those announced, and every entry of the endpoint
  table carries what its workload announces for the name it stands under.
* `Complete` is the converse: a workload is an endpoint of every service that it lists and that
  admits its health. A service that is updated has the endpoints of the one before it to choose
  from, and these lack the workloads that were not admitted; the converse holds as long as no
  update would admit one of them (`AdmitsNoMore`).
-/

namespace Ztunnel.Xds

open Ztunnel.State Ztunnel.Rbac Ztunnel.Sandbox Transition

variable (decoders : Decoders)

/-! ### Operations -/

/-- The operations of the mutator on workloads and services. -/
inductive StateOp where
  | insertWorkload (w : XdsWorkload)
  | insertService (s : XdsService)
  | remove (name : Strng)

def applyOp (state : ProxyState) : StateOp → ProxyState
  | .insertWorkload w => (insertWorkload decoders state w).2
  | .insertService s => (insertService state s).2
  | .remove name => remove state name

/-- The update accepted last for each UID, if it was not removed since. -/
def announce (announced : Strng → Option XdsWorkload) : StateOp → Strng → Option XdsWorkload
  | .insertWorkload w =>
    match Workload.tryFrom decoders w with
    | .ok _ => Function.update announced w.uid (some w)
    | .error _ => announced
  | .insertService _ => announced
  | .remove name => Function.update announced name none

/-! ### Conversions -/

section Conversions

variable {decoders} {x : XdsWorkload} {w : Workload} {services : List (String × PortList)}

/-- What a list converts to comes from its elements. -/
theorem mem_of_mapM {ε α β : Type} {f : α → Except ε β} {l : List α} {l' : List β}
    (h : l.mapM f = .ok l') (b : β) : b ∈ l' ↔ ∃ a ∈ l, f a = .ok b := by
  induction l generalizing l' with
  | nil =>
    obtain rfl : [] = l' := Except.ok.inj h
    simp
  | cons a l ih =>
    rw [List.mapM_cons, bind_eq_ok] at h
    obtain ⟨b', hb', h⟩ := h
    obtain ⟨bs, hbs, hpure⟩ := bind_eq_ok.1 h
    obtain rfl : b' :: bs = l' := Except.ok.inj hpure
    rw [List.mem_cons, ih hbs, List.exists_mem_cons_iff, hb', Except.ok.injEq, eq_comm]

/-- The UID of a workload, and the services that it lists. -/
theorem tryFrom_fields (h : Workload.tryFrom decoders x = .ok (w, services)) :
    w.uid = x.uid ∧ ∀ host, host ∈ w.services ↔
      ∃ p ∈ services, NamespacedHostname.fromStr p.1 = .ok host := by
  simp only [Workload.tryFrom, bind_eq_ok] at h
  obtain ⟨_, -, _, -, _, -, hosts, hhosts, _, -, _, -, _, -, _, -, _, -, hpure⟩ := h
  obtain ⟨rfl, rfl⟩ := Prod.mk.inj (Except.ok.inj hpure)
  exact ⟨rfl, fun host ↦ mem_of_mapM hhosts host⟩

theorem tryFrom_endpoints {s : XdsService} {service : Service}
    (h : Service.tryFrom s = .ok service) : service.endpoints = ∅ := by
  simp only [Service.tryFrom, bind_eq_ok] at h
  obtain ⟨_, -, _, -, _, -, _, -, hpure⟩ := h
  exact Except.ok.inj hpure ▸ rfl

end Conversions

/-! ### The endpoints of one workload -/

/-- **The endpoints of a workload are added**: entries of its UID, of what it announces. -/
structure Enters (w : Workload) (services : List (String × PortMap))
    (store store' : ServiceStore) : Prop where
  wellStaged : store'.WellStaged
  declared : store'.declared = store.declared
  other : ∀ host uid, uid ≠ w.uid → store'.endpointAt host uid = store.endpointAt host uid
  entry : ∀ host ep, store'.endpointAt host w.uid = some ep →
    store.endpointAt host w.uid = some ep ∨ store.admits host w.status = true ∧
      ∃ p ∈ services, NamespacedHostname.fromStr p.1 = .ok host ∧ ep = ⟨w.uid, p.2, w.status⟩
  isSome : ∀ host, ((store.endpointAt host w.uid).isSome = true ∨
    store.admits host w.status = true ∧
      ∃ p ∈ services, NamespacedHostname.fromStr p.1 = .ok host) →
    (store'.endpointAt host w.uid).isSome = true

theorem enters_insertServiceEndpoints {w : Workload} {services : List (String × PortMap)}
    (hparse : ∀ p ∈ services, ∃ host, NamespacedHostname.fromStr p.1 = .ok host)
    {store : ServiceStore} (h : store.WellStaged) :
    Enters w services store (insertServiceEndpoints w services store).2 := by
  induction services generalizing store with
  | nil =>
    refine ⟨h, rfl, fun _ _ _ ↦ rfl, fun _ _ hat ↦ .inl hat, ?_⟩
    rintro host (hsome | ⟨-, p, hp, -⟩)
    · exact hsome
    · cases hp
  | cons p services ih =>
    obtain ⟨host, hhost⟩ := hparse p List.mem_cons_self
    obtain ⟨hstaged, hat⟩ := h.insertEndpoint host ⟨w.uid, p.2, w.status⟩
    have hdeclared := h.consistent.declared_insertEndpoint host ⟨w.uid, p.2, w.status⟩
    have hrest := ih (fun q hq ↦ hparse q (List.mem_cons_of_mem p hq)) hstaged
    have hadmits : ∀ host', (store.insertEndpoint host ⟨w.uid, p.2, w.status⟩).admits host'
        w.status = store.admits host' w.status := fun host' ↦
      ServiceStore.admits_congr (congrFun hdeclared host') w.status
    rw [insertServiceEndpoints, hhost]
    refine ⟨hrest.wellStaged, hrest.declared.trans hdeclared, fun host' uid hne ↦ ?_,
      fun host' ep hep ↦ ?_, fun host' hor ↦ hrest.isSome host' ?_⟩
    · rw [hrest.other host' uid hne, hat, if_neg fun hand ↦ hne hand.1.2]
    · rcases hrest.entry host' ep hep with hold | ⟨hallowed, q, hq, hparsed, heq⟩
      · rw [hat] at hold
        split at hold
        · next hand =>
          refine .inr ⟨hand.1.1 ▸ hand.2, p, List.mem_cons_self, hand.1.1 ▸ hhost, ?_⟩
          exact (Option.some.inj hold).symm
        · exact .inl hold
      · exact .inr ⟨hadmits host' ▸ hallowed, q, List.mem_cons_of_mem p hq, hparsed, heq⟩
    · rw [hat, hadmits]
      split
      · exact .inl rfl
      · next hand =>
        rcases hor with hsome | ⟨hallowed, q, hq, hparsed⟩
        · exact .inl hsome
        · rcases List.mem_cons.1 hq with rfl | hq
          · obtain rfl := Except.ok.inj (hhost.symm.trans hparsed)
            exact absurd ⟨⟨rfl, rfl⟩, hallowed⟩ hand
          · exact .inr ⟨hallowed, q, hq, hparsed⟩

/-! ### The invariant -/

/-- **An endpoint carries what its workload announces** for the service: its UID and health, and the
ports of an entry of the update with the name of the service. -/
structure Carries (w : Workload) (services : List (String × PortList)) (host : NamespacedHostname)
    (ep : Endpoint) : Prop where
  uid : ep.workloadUid = w.uid
  status : ep.status = w.status
  port : ∃ p ∈ services, NamespacedHostname.fromStr p.1 = .ok host ∧ ep.port = p.2.toMap

/-- **The invariant.** -/
structure Tracks (announced : Strng → Option XdsWorkload) (state : ProxyState) : Prop where
  wellStaged : state.services.WellStaged
  uid : ∀ uid x, announced uid = some x → x.uid = uid
  stored : ∀ uid w, state.workloads.byUid uid = some w ↔
    ∃ x services, announced uid = some x ∧ Workload.tryFrom decoders x = .ok (w, services)
  entry : ∀ host uid ep, state.services.endpointAt host uid = some ep →
    state.services.admits host ep.status = true ∧
      ∃ x w services, announced uid = some x ∧
        Workload.tryFrom decoders x = .ok (w, services) ∧ Carries w services host ep

/-- **Every workload is an endpoint** of the services that it lists and that admit its health. -/
def Complete (state : ProxyState) : Prop :=
  ∀ uid w, state.workloads.byUid uid = some w → ∀ host ∈ w.services,
    state.services.admits host w.status = true →
      (state.services.endpointAt host uid).isSome = true

theorem tracks_new (localNode : Option Strng) :
    Tracks decoders (fun _ ↦ none) (.new localNode) where
  wellStaged := ServiceStore.wellStaged_empty
  uid _ _ h := nomatch h
  stored uid w := by simp [ProxyState.new, WorkloadStore.new]
  entry _ _ _ h := nomatch h

section Steps

variable {decoders} {announced : Strng → Option XdsWorkload} {state : ProxyState}

/-- The workload of a UID is removed, if there is one, and its endpoints with it. -/
def dropWorkload (state : ProxyState) (uid : Strng) : ServiceStore :=
  match state.workloads.byUid uid with
  | some prev => state.services.removeEndpoint prev
  | none => state.services

/-- An entry of a UID stands under a name that the workload of the UID lists. -/
theorem Tracks.mem_services (h : Tracks decoders announced state) {host : NamespacedHostname}
    {uid : Strng} {ep : Endpoint} (hep : state.services.endpointAt host uid = some ep) :
    ∃ w, state.workloads.byUid uid = some w ∧ w.uid = uid ∧ host ∈ w.services := by
  obtain ⟨-, x, w, services, hx, htry, hcarries⟩ := h.entry host uid ep hep
  obtain ⟨hwx, hlists⟩ := tryFrom_fields htry
  obtain ⟨p, hp, hparsed, -⟩ := hcarries.port
  exact ⟨w, (h.stored uid w).2 ⟨x, services, hx, htry⟩, hwx.trans (h.uid uid x hx),
    (hlists host).2 ⟨p, hp, hparsed⟩⟩

/-- All entries of the UID go, and no other. -/
theorem Tracks.dropWorkload (h : Tracks decoders announced state) (uid : Strng) :
    (dropWorkload state uid).WellStaged ∧
      (dropWorkload state uid).declared = state.services.declared ∧
      ∀ host uid', (dropWorkload state uid).endpointAt host uid' =
        if uid' = uid then none else state.services.endpointAt host uid' := by
  -- entries are under names that the workload lists, where `remove_endpoint` clears them
  rcases hprev : state.workloads.byUid uid with - | prev
  · have hsame : Xds.dropWorkload state uid = state.services := by rw [Xds.dropWorkload, hprev]
    rw [hsame]
    refine ⟨h.wellStaged, rfl, fun host uid' ↦ ?_⟩
    split
    · next heq =>
      rcases hep : state.services.endpointAt host uid' with - | ep
      · rfl
      · obtain ⟨w, hw, -⟩ := h.mem_services hep
        rw [heq, hprev] at hw
        cases hw
    · rfl
  · have hdrop : Xds.dropWorkload state uid = state.services.removeEndpoint prev := by
      rw [Xds.dropWorkload, hprev]
    have hclears := h.wellStaged.removeEndpoint prev
    have huid : prev.uid = uid := by
      obtain ⟨x, services, hx, htry⟩ := (h.stored uid prev).1 hprev
      exact (tryFrom_fields htry).1.trans (h.uid uid x hx)
    rw [hdrop]
    refine ⟨hclears.wellStaged, hclears.declared, fun host uid' ↦ ?_⟩
    rw [hclears.endpointAt, huid]
    simp only [and_true]
    by_cases heq : uid' = uid
    · rw [if_pos heq]
      split
      · rfl
      · next hnot =>
        rcases hep : state.services.endpointAt host uid' with - | ep
        · rfl
        · obtain ⟨w, hw, -, hmem⟩ := h.mem_services hep
          rw [heq, hprev] at hw
          exact absurd ⟨Option.some.inj hw ▸ hmem, heq⟩ hnot
    · rw [if_neg heq, if_neg fun hand ↦ heq hand.2]

theorem notifyIf_workloads (state : ProxyState) (changed : Bool) :
    (if changed then state.notify else state).workloads = state.workloads := by
  cases changed <;> rfl

theorem notifyIf_services (state : ProxyState) (changed : Bool) :
    (if changed then state.notify else state).services = state.services := by
  cases changed <;> rfl

theorem removeWorkloadForInsert_services (state : ProxyState) (uid : Strng) :
    (removeWorkloadForInsert state uid).services = Xds.dropWorkload state uid := by
  have hfst := state.workloads.remove_fst uid
  rw [removeWorkloadForInsert, removeInternal, Xds.dropWorkload, ← hfst]
  rcases state.workloads.remove uid with ⟨_ | prev, workloads⟩ <;> rfl

/-- An accepted update: the workload is put under its UID, and its endpoints in the place of those
before it. -/
theorem insertWorkload_ok {x : XdsWorkload} {w : Workload} {services : List (String × PortList)}
    (htry : Workload.tryFrom decoders x = .ok (w, services)) (state : ProxyState) :
    (insertWorkload decoders state x).2.workloads.byUid =
        Function.update state.workloads.byUid w.uid (some w) ∧
      (insertWorkload decoders state x).2.services =
        (insertServiceEndpoints w (services.map fun service ↦ (service.1, service.2.toMap))
          (Xds.dropWorkload state w.uid)).2 := by
  have hbyUid := (removeInternal_cases state w.uid true).2.1
  have hok := insertServiceEndpoints_ok (w := w) (hosts_parse htry) (Xds.dropWorkload state w.uid)
  rw [insertWorkload, htry]
  simp only [removeWorkloadForInsert_services, hok, notifyIf_workloads, notifyIf_services,
    WorkloadStore.insert_byUid]
  rw [removeWorkloadForInsert, hbyUid, Function.update_idem]
  exact ⟨rfl, trivial⟩

/-- The endpoints of an accepted update enter a store without those of the workload. -/
theorem Tracks.enters_insertWorkload (h : Tracks decoders announced state) {x : XdsWorkload}
    {w : Workload} {services : List (String × PortList)}
    (htry : Workload.tryFrom decoders x = .ok (w, services)) :
    Enters w (services.map fun service ↦ (service.1, service.2.toMap))
      (Xds.dropWorkload state w.uid) (insertWorkload decoders state x).2.services := by
  rw [(insertWorkload_ok htry state).2]
  exact enters_insertServiceEndpoints (hosts_parse htry) (h.dropWorkload w.uid).1

/-- A workload declares no service. -/
theorem Tracks.declared_insertWorkload (h : Tracks decoders announced state) (x : XdsWorkload) :
    (insertWorkload decoders state x).2.services.declared = state.services.declared := by
  rcases htry : Workload.tryFrom decoders x with e | ⟨w, services⟩
  · rw [Xds.insertWorkload, htry]
  · exact (h.enters_insertWorkload htry).declared.trans (h.dropWorkload w.uid).2.1

theorem Tracks.insertWorkload (h : Tracks decoders announced state) (x : XdsWorkload) :
    Tracks decoders (announce decoders announced (.insertWorkload x))
      (insertWorkload decoders state x).2 := by
  rcases htry : Workload.tryFrom decoders x with e | ⟨w, services⟩
  · rw [announce, htry, Xds.insertWorkload, htry]
    exact h
  obtain ⟨hbyUid, -⟩ := insertWorkload_ok htry state
  obtain ⟨-, hdeclared, hat⟩ := h.dropWorkload w.uid
  obtain ⟨hwx, hlists⟩ := tryFrom_fields htry
  have henters := h.enters_insertWorkload htry
  have hadmits : ∀ host status,
      (Xds.insertWorkload decoders state x).2.services.admits host status =
      state.services.admits host status := fun host status ↦
    ServiceStore.admits_congr (congrFun (h.declared_insertWorkload x) host) status
  have hannounce : announce decoders announced (.insertWorkload x) =
      Function.update announced w.uid (some x) := by
    rw [announce, htry, hwx]
  rw [hannounce]
  refine ⟨henters.wellStaged, fun uid y hy ↦ ?_, fun uid v ↦ ?_, fun host uid ep hep ↦ ?_⟩
  · by_cases heq : uid = w.uid
    · rw [heq, Function.update_self, Option.some.injEq] at hy
      rw [← hy, heq, hwx]
    · rw [Function.update_of_ne heq] at hy
      exact h.uid uid y hy
  · rw [hbyUid]
    by_cases heq : uid = w.uid
    · rw [heq, Function.update_self, Function.update_self]
      simp only [Option.some.injEq, exists_and_left, exists_eq_left', htry, Except.ok.injEq,
        Prod.mk.injEq, exists_and_left, exists_eq', and_true]
    · rw [Function.update_of_ne heq, Function.update_of_ne heq]
      exact h.stored uid v
  · rw [hadmits]
    by_cases heq : uid = w.uid
    · subst heq
      rw [Function.update_self]
      rcases henters.entry host ep hep with hold | ⟨hallowed, p, hp, hparsed, rfl⟩
      · rw [hat, if_pos rfl] at hold
        cases hold
      · obtain ⟨service, hservice, rfl⟩ := List.mem_map.1 hp
        rw [ServiceStore.admits_congr (congrFun hdeclared host)] at hallowed
        exact ⟨hallowed, x, w, services, rfl, htry, rfl, rfl, service, hservice, hparsed, rfl⟩
    · rw [henters.other host uid heq, hat, if_neg heq] at hep
      rw [Function.update_of_ne heq]
      exact h.entry host uid ep hep

/-- A service update that converts: the service has the endpoints of the table that it admits. -/
theorem Tracks.replaces (h : Tracks decoders announced state) {s : XdsService} {service : Service}
    (htry : Service.tryFrom s = .ok service) :
    ServiceStore.Replaces service state.services (insertService state s).2.services := by
  have hempty := tryFrom_endpoints htry
  rw [Xds.insertService, htry]
  rcases hprev : state.services.getByNamespacedHost service.namespacedHostname with - | prev
  · simp only [hprev]
    refine ServiceStore.WellStaged.insert h.wellStaged ?_ fun _ ↦ hempty
    exact fun prev hsome ↦ nomatch hprev.symm.trans hsome
  · simp only [hprev]
    -- an endpoint stands under the UID it carries, so the entries are taken over as they are
    have hkeys : (prev.endpoints.entries.map fun e ↦ (e.2.workloadUid, e.2)) =
        prev.endpoints.entries.map fun e ↦ (e.1, e.2) := by
      refine List.map_congr_left fun e he ↦ ?_
      have hlookup : state.services.endpointAt service.namespacedHostname e.1 = some e.2 := by
        rw [ServiceStore.endpointAt_of_some hprev]
        exact AList.mem_lookup_iff.2 he
      obtain ⟨-, x, w, services, hx, hw, hcarries⟩ := h.entry _ _ _ hlookup
      rw [hcarries.uid, (tryFrom_fields hw).1, h.uid e.1 x hx]
    obtain ⟨taken, htaken⟩ := ServiceStore.addEndpoints_eq service
      (prev.endpoints.entries.map fun e ↦ (e.1, e.2))
    have hlookup := ServiceStore.lookup_addEndpoints_entries hempty prev.endpoints
    rw [htaken] at hlookup
    rw [hkeys, htaken]
    refine h.wellStaged.insert (fun prev' hsome ↦ ?_) fun hnone ↦ nomatch hprev.symm.trans hnone
    obtain rfl := Option.some.inj (hprev.symm.trans hsome)
    exact hlookup

theorem Tracks.insertService (h : Tracks decoders announced state) (s : XdsService) :
    Tracks decoders announced (insertService state s).2 := by
  rcases htry : Service.tryFrom s with e | service
  · rw [Xds.insertService, htry]
    exact h
  have hreplaces := h.replaces htry
  have hworkloads : (Xds.insertService state s).2.workloads = state.workloads := by
    rw [Xds.insertService, htry]
  refine ⟨hreplaces.wellStaged, h.uid, fun uid w ↦ ?_, fun host uid ep hep ↦ ?_⟩
  · rw [hworkloads]
    exact h.stored uid w
  · rw [hreplaces.endpointAt] at hep
    by_cases heq : host = service.namespacedHostname
    · rw [if_pos heq] at hep
      obtain ⟨hold, hallowed⟩ := Option.filter_eq_some_iff.1 hep
      refine ⟨?_, (h.entry host uid ep hold).2⟩
      rw [hreplaces.admits heq]
      exact hallowed
    · rw [if_neg heq] at hep
      rw [hreplaces.admits_of_ne heq]
      exact h.entry host uid ep hep

/-- What a removal does: the workload of the name goes with its endpoints, or else a service of the
name, or nothing. -/
theorem remove_cases (state : ProxyState) (name : Strng) :
    ((remove state name).workloads.byUid = Function.update state.workloads.byUid name none) ∧
      ((state.workloads.byUid name ≠ none ∧
          (remove state name).services = Xds.dropWorkload state name) ∨
        state.workloads.byUid name = none ∧ ((remove state name).services = state.services ∨
          ∃ host, NamespacedHostname.fromStr name = .ok host ∧
            (remove state name).services = (state.services.remove host).2)) := by
  have hfst := state.workloads.remove_fst name
  refine ⟨(removeInternal_cases state name false).2.1, ?_⟩
  rw [Xds.remove, removeInternal, Xds.dropWorkload, ← hfst]
  rcases state.workloads.remove name with ⟨_ | prev, workloads⟩
  · refine .inr ⟨rfl, ?_⟩
    simp only [Bool.false_eq_true, if_false]
    rcases hparsed : NamespacedHostname.fromStr name with e | host
    · exact .inl rfl
    · simp only
      split
      · exact .inl rfl
      · exact .inr ⟨host, rfl, rfl⟩
  · exact .inl ⟨Option.some_ne_none prev, rfl⟩

theorem Tracks.remove (h : Tracks decoders announced state) (name : Strng) :
    Tracks decoders (Function.update announced name none) (remove state name) := by
  obtain ⟨hbyUid, hservices⟩ := remove_cases state name
  have huid : ∀ uid x, Function.update announced name none uid = some x → x.uid = uid := by
    intro uid x hx
    exact h.uid uid x (Index.update_none_eq_some.1 hx).2
  have hstored : ∀ uid w, (Xds.remove state name).workloads.byUid uid = some w ↔
      ∃ x services, Function.update announced name none uid = some x ∧
        Workload.tryFrom decoders x = .ok (w, services) := by
    intro uid w
    rw [hbyUid]
    by_cases heq : uid = name
    · simp [heq]
    · rw [Function.update_of_ne heq, Function.update_of_ne heq]
      exact h.stored uid w
  -- no entry of the name is left: it is cleared, or there was no such workload
  have hentry : ∀ host uid ep, uid ≠ name → state.services.endpointAt host uid = some ep →
      state.services.admits host ep.status = true ∧ ∃ x w services,
        Function.update announced name none uid = some x ∧
          Workload.tryFrom decoders x = .ok (w, services) ∧ Carries w services host ep := by
    intro host uid ep hne hep
    rw [Function.update_of_ne hne]
    exact h.entry host uid ep hep
  rcases hservices with ⟨-, hdrop⟩ | ⟨hnone, hsame⟩
  · obtain ⟨hstaged, hdeclared, hat⟩ := h.dropWorkload name
    rw [← hdrop] at hstaged hdeclared hat
    refine ⟨hstaged, huid, hstored, fun host uid ep hep ↦ ?_⟩
    rw [hat] at hep
    obtain ⟨hne, hep⟩ := Option.ite_none_left_eq_some.1 hep
    rw [ServiceStore.admits_congr (congrFun hdeclared host)]
    exact hentry host uid ep hne hep
  · have hne : ∀ host uid ep, state.services.endpointAt host uid = some ep → uid ≠ name := by
      rintro host uid ep hep rfl
      obtain ⟨w, hw, -⟩ := h.mem_services hep
      cases hnone.symm.trans hw
    have hunchanged (hsame : (Xds.remove state name).services = state.services) :
        Tracks decoders (Function.update announced name none) (Xds.remove state name) := by
      refine ⟨hsame ▸ h.wellStaged, huid, hstored, fun host uid ep hep ↦ ?_⟩
      rw [hsame] at hep ⊢
      exact hentry host uid ep (hne host uid ep hep) hep
    rcases hsame with hsame | ⟨removed, -, hremoved⟩
    · exact hunchanged hsame
    · rcases hprev : state.services.getByNamespacedHost removed with - | prev
      · rw [ServiceStore.remove_of_none hprev] at hremoved
        exact hunchanged hremoved
      · obtain ⟨hstaged, hat⟩ := h.wellStaged.remove hprev
        rw [← hremoved] at hstaged hat
        refine ⟨hstaged, huid, hstored, fun host uid ep hep ↦ ?_⟩
        rw [hat] at hep
        obtain ⟨hother, hep⟩ := Option.ite_none_left_eq_some.1 hep
        have hdeclared : (Xds.remove state name).services.declared host =
            state.services.declared host := by
          rw [hremoved]
          exact (congrFun (h.wellStaged.consistent.declared_apply (.remove removed)) host).trans
            (Function.update_of_ne hother ..)
        rw [ServiceStore.admits_congr hdeclared]
        exact hentry host uid ep (hne host uid ep hep) hep

theorem Tracks.applyOp (h : Tracks decoders announced state) (op : StateOp) :
    Tracks decoders (announce decoders announced op) (applyOp decoders state op) := by
  cases op with
  | insertWorkload x => exact h.insertWorkload x
  | insertService s => exact h.insertService s
  | remove name => exact h.remove name

/-! ### Completeness, step by step -/

/-- No service is removed. -/
def KeepsServices (state : ProxyState) : StateOp → Prop
  | .remove name => state.workloads.byUid name = none → ∀ host,
      NamespacedHostname.fromStr name = .ok host → state.services.getByNamespacedHost host = none
  | _ => True

/-- **No update of a service admits more**: if it replaces an installed one, the health of a stored
workload that lists the service is not admitted by the new one only. -/
def AdmitsNoMore (state : ProxyState) : StateOp → Prop
  | .insertService s => ∀ service prev, Service.tryFrom s = .ok service →
      state.services.getByNamespacedHost service.namespacedHostname = some prev →
      ∀ uid w, state.workloads.byUid uid = some w → service.namespacedHostname ∈ w.services →
        service.shouldIncludeEndpoint w.status = true → prev.shouldIncludeEndpoint w.status = true
  | _ => True

theorem Complete.insertWorkload (hcomplete : Complete state) (h : Tracks decoders announced state)
    (x : XdsWorkload) : Complete (insertWorkload decoders state x).2 := by
  rcases htry : Workload.tryFrom decoders x with e | ⟨w, services⟩
  · rw [Xds.insertWorkload, htry]
    exact hcomplete
  obtain ⟨hbyUid, -⟩ := insertWorkload_ok htry state
  obtain ⟨-, -, hat⟩ := h.dropWorkload w.uid
  have henters := h.enters_insertWorkload htry
  intro uid v hv host hhost hallowed
  rw [hbyUid] at hv
  by_cases heq : uid = w.uid
  · subst heq
    rw [Function.update_self, Option.some.injEq] at hv
    subst hv
    obtain ⟨p, hp, hparsed⟩ := ((tryFrom_fields htry).2 host).1 hhost
    rw [ServiceStore.admits_congr (congrFun henters.declared host)] at hallowed
    exact henters.isSome host (.inr ⟨hallowed, (p.1, p.2.toMap), List.mem_map_of_mem hp, hparsed⟩)
  · rw [Function.update_of_ne heq] at hv
    rw [ServiceStore.admits_congr (congrFun (h.declared_insertWorkload x) host)] at hallowed
    rw [henters.other host uid heq, hat, if_neg heq]
    exact hcomplete uid v hv host hhost hallowed

theorem Complete.insertService (hcomplete : Complete state) (h : Tracks decoders announced state)
    {s : XdsService} (hadmits : AdmitsNoMore state (.insertService s)) :
    Complete (insertService state s).2 := by
  rcases htry : Service.tryFrom s with e | service
  · rw [Xds.insertService, htry]
    exact hcomplete
  have hreplaces := h.replaces htry
  have hworkloads : (Xds.insertService state s).2.workloads = state.workloads := by
    rw [Xds.insertService, htry]
  intro uid w hw host hhost hallowed
  rw [hworkloads] at hw
  rw [hreplaces.endpointAt]
  by_cases heq : host = service.namespacedHostname
  · subst heq
    rw [hreplaces.admits rfl] at hallowed
    -- the table has the entry, since what is there admits the workload too
    have hbefore : state.services.admits service.namespacedHostname w.status = true := by
      rcases hprev : state.services.getByNamespacedHost service.namespacedHostname with - | prev
      · exact ServiceStore.admits_of_none hprev w.status
      · rw [ServiceStore.admits_of_some hprev]
        exact hadmits service prev htry hprev uid w hw hhost hallowed
    obtain ⟨ep, hep⟩ := Option.isSome_iff_exists.1 (hcomplete uid w hw _ hhost hbefore)
    have hstatus : ep.status = w.status := by
      obtain ⟨-, x, v, services, hx, hv, hcarries⟩ := h.entry _ _ _ hep
      have hstored := (h.stored uid v).2 ⟨x, services, hx, hv⟩
      rw [hcarries.status, Option.some.inj (hstored.symm.trans hw)]
    rw [if_pos rfl, hep]
    exact Option.isSome_iff_exists.2
      ⟨ep, Option.filter_eq_some_iff.2 ⟨rfl, by simpa only [hstatus] using hallowed⟩⟩
  · rw [if_neg heq]
    rw [hreplaces.admits_of_ne heq] at hallowed
    exact hcomplete uid w hw host hhost hallowed

theorem Complete.remove (hcomplete : Complete state) (h : Tracks decoders announced state)
    {name : Strng} (hkeeps : KeepsServices state (.remove name)) :
    Complete (remove state name) := by
  obtain ⟨hbyUid, hservices⟩ := remove_cases state name
  intro uid w hw host hhost hallowed
  rw [hbyUid] at hw
  obtain ⟨hne, hw⟩ := Index.update_none_eq_some.1 hw
  have hunchanged (hsame : (Xds.remove state name).services = state.services) :
      ((Xds.remove state name).services.endpointAt host uid).isSome = true := by
    rw [hsame] at hallowed ⊢
    exact hcomplete uid w hw host hhost hallowed
  rcases hservices with ⟨-, hdrop⟩ | ⟨hnone, hsame | ⟨removed, hparsed, hremoved⟩⟩
  · obtain ⟨-, hdeclared, hat⟩ := h.dropWorkload name
    rw [hdrop] at hallowed ⊢
    rw [ServiceStore.admits_congr (congrFun hdeclared host)] at hallowed
    rw [hat, if_neg hne]
    exact hcomplete uid w hw host hhost hallowed
  · exact hunchanged hsame
  · rw [ServiceStore.remove_of_none (hkeeps hnone removed hparsed)] at hremoved
    exact hunchanged hremoved

end Steps

/-! ### Runs -/

/-- **An endpoint belongs to a workload**: it stands under the UID of a stored workload that lists
the service, and carries what the last update of the workload announces for the service. -/
def Belongs (announced : Strng → Option XdsWorkload) (workloads : WorkloadStore)
    (host : NamespacedHostname) (uid : Strng) (ep : Endpoint) : Prop :=
  ∃ w x services, workloads.findUid uid = some w ∧ host ∈ w.services ∧ announced uid = some x ∧
    Workload.tryFrom decoders x = .ok (w, services) ∧ Carries w services host ep

theorem Tracks.belongs {announced : Strng → Option XdsWorkload} {state : ProxyState}
    (h : Tracks decoders announced state) {host : NamespacedHostname} {uid : Strng} {ep : Endpoint}
    (hep : state.services.endpointAt host uid = some ep) :
    Belongs decoders announced state.workloads host uid ep := by
  obtain ⟨-, x, w, services, hx, htry, hcarries⟩ := h.entry host uid ep hep
  obtain ⟨p, hp, hparsed, -⟩ := hcarries.port
  exact ⟨w, x, services, (h.stored uid w).2 ⟨x, services, hx, htry⟩,
    ((tryFrom_fields htry).2 host).2 ⟨p, hp, hparsed⟩, hx, htry, hcarries⟩

theorem tracks_foldl (localNode : Option Strng) (ops : List StateOp) :
    Tracks decoders (ops.foldl (announce decoders) fun _ ↦ none)
      (ops.foldl (applyOp decoders) (.new localNode)) := by
  refine foldl_induction_past
    (I := fun past ↦ Tracks decoders (past.foldl (announce decoders) fun _ ↦ none))
    (along_true ..) (tracks_new decoders localNode) fun past state op h _ ↦ ?_
  rw [List.foldl_append]
  exact h.applyOp op

/-- **Endpoints are sound.** After any sequence of operations, every endpoint of a service and every
staged endpoint belongs to a stored workload that lists the service and carries its current ports
and health; the service admits that health; and endpoints are staged for services that are not
installed only, never an empty map of them. -/
theorem endpoints_sound (localNode : Option Strng) (ops : List StateOp) :
    let state := ops.foldl (applyOp decoders) (.new localNode)
    let announced := ops.foldl (announce decoders) fun _ ↦ none
    (∀ hostname services, state.services.byHost hostname = some services →
      ∀ service ∈ services, ∀ uid ep, service.endpoints.lookup uid = some ep →
        Belongs decoders announced state.workloads service.namespacedHostname uid ep ∧
          service.shouldIncludeEndpoint ep.status = true) ∧
    ∀ host staged, state.services.stagedServices host = some staged →
      state.services.getByNamespacedHost host = none ∧ staged.entries ≠ [] ∧
        ∀ uid ep, staged.lookup uid = some ep →
          Belongs decoders announced state.workloads host uid ep := by
  intro state announced
  have h : Tracks decoders announced state := tracks_foldl decoders localNode ops
  refine ⟨fun hostname services hservices service hmem uid ep hep ↦ ?_,
    fun host staged hstaged ↦ ?_⟩
  · have hget := h.wellStaged.consistent.getByNamespacedHost_of_mem hservices hmem
    have hat := (ServiceStore.endpointAt_of_some hget uid).trans hep
    refine ⟨h.belongs decoders hat, ?_⟩
    rw [← ServiceStore.admits_of_some hget]
    exact (h.entry _ uid ep hat).1
  · have hnone := h.wellStaged.uninstalled host staged hstaged
    refine ⟨hnone, h.wellStaged.ne_empty host staged hstaged, fun uid ep hep ↦ ?_⟩
    refine h.belongs decoders ((ServiceStore.endpointAt_of_none hnone uid).trans ?_)
    rw [hstaged, Option.bind_some]
    exact hep

/-- **Endpoints are complete**, after any sequence of operations that removes no service, and in
which no update of an installed service admits a workload that was not admitted before. -/
theorem endpoints_complete {localNode : Option Strng} {ops : List StateOp}
    (hops : Along (fun state op ↦ KeepsServices state op ∧ AdmitsNoMore state op)
      (applyOp decoders) (.new localNode) ops) :
    let state := ops.foldl (applyOp decoders) (.new localNode)
    ∀ uid w, state.workloads.findUid uid = some w → ∀ host ∈ w.services, ∀ service,
      state.services.getByNamespacedHost host = some service →
      service.shouldIncludeEndpoint w.status = true →
        ∃ ep, service.endpoints.lookup uid = some ep := by
  intro state uid w hw host hhost service hget hallowed
  have h : (∃ announced, Tracks decoders announced state) ∧ Complete state := by
    refine foldl_induction
      (I := fun state ↦ (∃ announced, Tracks decoders announced state) ∧ Complete state) hops
      ⟨⟨_, tracks_new decoders localNode⟩, fun _ _ hnone ↦ nomatch hnone⟩ ?_
    rintro state op ⟨⟨announced, h⟩, hcomplete⟩ ⟨hkeeps, hadmits⟩
    refine ⟨⟨_, h.applyOp op⟩, ?_⟩
    cases op with
    | insertWorkload x => exact hcomplete.insertWorkload h x
    | insertService s => exact hcomplete.insertService h hadmits
    | remove name => exact hcomplete.remove h hkeeps
  have hat := h.2 uid w hw host hhost ((ServiceStore.admits_of_some hget w.status).trans hallowed)
  rw [ServiceStore.endpointAt_of_some hget] at hat
  exact Option.isSome_iff_exists.1 hat

/-- Decoders for workloads without extensions. -/
def sampleDecoders : Decoders := ⟨fun _ ↦ .ok ⟨trafficPolicyType, []⟩, fun _ ↦ .ok ()⟩

/-- A workload of the service `ns/svc`, with a wire status. -/
def sampleWorkload (status : Int) : XdsWorkload where
  uid := "uid"
  name := "pod"
  «namespace» := "ns"
  addresses := []
  hostname := ""
  network := ""
  tunnelProtocol := 0
  trustDomain := ""
  serviceAccount := ""
  waypoint := none
  node := ""
  nativeTunnel := false
  applicationTunnel := none
  services := [("ns/svc", ⟨[⟨80, 8080⟩]⟩)]
  status := status
  clusterId := ""
  locality := none
  networkMode := 0
  extensions := []
  capacity := none

/-- The service `ns/svc`, with a wire health policy. -/
def sampleService (healthPolicy : Int) : XdsService where
  name := "svc"
  «namespace» := "ns"
  hostname := "svc"
  addresses := []
  ports := []
  subjectAltNames := []
  waypoint := none
  loadBalancing := some ⟨[], 0, healthPolicy⟩
  ipFamilies := 0
  canonical := true

/-- **A policy that admits more finds nothing to admit.** An unhealthy workload is inserted under a
service for healthy ones only; the service is updated to allow all, and the workload is not an
endpoint of it. -/
theorem widened_policy_misses_endpoint :
    let state := [StateOp.insertService (sampleService 0), .insertWorkload (sampleWorkload 1),
      .insertService (sampleService 1)].foldl (applyOp sampleDecoders) (.new none)
    ∃ w service, state.workloads.findUid "uid" = some w ∧ ⟨"ns", "svc"⟩ ∈ w.services ∧
      state.services.getByNamespacedHost ⟨"ns", "svc"⟩ = some service ∧
      service.shouldIncludeEndpoint w.status = true ∧ service.endpoints.lookup "uid" = none := by
  intro state
  have hcheck : ((state.workloads.findUid "uid").any fun w ↦ decide (⟨"ns", "svc"⟩ ∈ w.services) &&
      (state.services.getByNamespacedHost ⟨"ns", "svc"⟩).any fun service ↦
        service.shouldIncludeEndpoint w.status &&
          (service.endpoints.lookup "uid").isNone) = true := by
    decide
  obtain ⟨w, hw, hcheck⟩ := (Option.any_eq_true _ _).1 hcheck
  obtain ⟨hlists, hcheck⟩ := Bool.and_eq_true_iff.1 hcheck
  obtain ⟨service, hservice, hcheck⟩ := (Option.any_eq_true _ _).1 hcheck
  obtain ⟨hallowed, hnone⟩ := Bool.and_eq_true_iff.1 hcheck
  exact ⟨w, service, hw, of_decide_eq_true hlists, hservice, hallowed,
    Option.isNone_iff_eq_none.1 hnone⟩

/-- A service that allows all is updated with the same policy, and keeps the unhealthy workload. -/
theorem endpoints_complete_kept_policy :
    let state := [StateOp.insertService (sampleService 1), .insertWorkload (sampleWorkload 1),
      .insertService (sampleService 1)].foldl (applyOp sampleDecoders) (.new none)
    ∃ w service ep, state.workloads.findUid "uid" = some w ∧ w.status = .unhealthy ∧
      state.services.getByNamespacedHost ⟨"ns", "svc"⟩ = some service ∧
      service.endpoints.lookup "uid" = some ep := by
  intro state
  have hcheck : ((state.workloads.findUid "uid").any fun w ↦ decide (⟨"ns", "svc"⟩ ∈ w.services) &&
      decide (w.status = .unhealthy) &&
      (state.services.getByNamespacedHost ⟨"ns", "svc"⟩).any fun service ↦
        service.shouldIncludeEndpoint w.status) = true := by
    decide
  obtain ⟨w, hw, hcheck⟩ := (Option.any_eq_true _ _).1 hcheck
  obtain ⟨hcheck, hservice⟩ := Bool.and_eq_true_iff.1 hcheck
  obtain ⟨hlists, hstatus⟩ := Bool.and_eq_true_iff.1 hcheck
  obtain ⟨service, hservice, hallowed⟩ := (Option.any_eq_true _ _).1 hservice
  -- the service before the second update admits every health
  have hname : ∀ service, Service.tryFrom (sampleService 1) = .ok service →
      service.namespacedHostname = ⟨"ns", "svc"⟩ := by
    rintro service htry
    exact Except.ok.inj htry ▸ rfl
  have hprev : (([StateOp.insertService (sampleService 1), .insertWorkload (sampleWorkload 1)].foldl
      (applyOp sampleDecoders) (.new none)).services.getByNamespacedHost ⟨"ns", "svc"⟩).all
        (fun prev ↦ prev.shouldIncludeEndpoint .healthy && prev.shouldIncludeEndpoint .unhealthy) =
      true := by
    decide
  obtain ⟨ep, hep⟩ := @endpoints_complete sampleDecoders none
    [.insertService (sampleService 1), .insertWorkload (sampleWorkload 1),
      .insertService (sampleService 1)]
    ⟨⟨trivial, fun _ _ _ hnone ↦ nomatch hnone⟩, ⟨trivial, trivial⟩, ⟨trivial,
      fun service prev htry hget _ w _ _ _ ↦ by
        rw [hname service htry] at hget
        have hall := (Option.all_eq_true _ _).1 hprev prev hget
        rw [Bool.and_eq_true] at hall
        cases w.status with
        | healthy => exact hall.1
        | unhealthy => exact hall.2⟩, trivial⟩
    "uid" w hw _ (of_decide_eq_true hlists) service hservice hallowed
  exact ⟨w, service, ep, hw, of_decide_eq_true hstatus, hservice, hep⟩

end Ztunnel.Xds
