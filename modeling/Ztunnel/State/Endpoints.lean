import Ztunnel.State.Installed

/-!
# The endpoint table

A workload that names a service is an endpoint of it. If the service is installed the endpoint is in
the service; if not it is staged under the service's name. `endpointAt` reads the two as one table,
from a service name and a workload to an endpoint, and each operation of the store is described by
what it does to that table:

* `insert_endpoint` sets an entry, if the service admits the status of the endpoint;
* `remove_endpoint` clears the entries of a workload under the names it lists;
* an insert of a service keeps of the entries under its name those that it admits;
* a removal of a service clears the entries under its name.

`WellStaged` is the invariant that makes this a table: nothing is staged for an installed service.
-/

namespace Ztunnel.State

open Transition

namespace ServiceStore

variable {store : ServiceStore} {host : NamespacedHostname} {service : Service}

/-- The endpoint of a workload under a service name, in the service or staged. -/
def endpointAt (store : ServiceStore) (host : NamespacedHostname) (uid : Strng) :
    Option Endpoint :=
  match store.getByNamespacedHost host with
  | some service => service.endpoints.lookup uid
  | none => (store.stagedServices host).bind (·.lookup uid)

/-- An endpoint with the status would be taken: everything is staged. -/
def admits (store : ServiceStore) (host : NamespacedHostname) (status : HealthStatus) : Bool :=
  (store.getByNamespacedHost host).all (·.shouldIncludeEndpoint status)

theorem endpointAt_of_some (h : store.getByNamespacedHost host = some service) (uid : Strng) :
    store.endpointAt host uid = service.endpoints.lookup uid := by
  rw [endpointAt, h]

theorem endpointAt_of_none (h : store.getByNamespacedHost host = none) (uid : Strng) :
    store.endpointAt host uid = (store.stagedServices host).bind (·.lookup uid) := by
  rw [endpointAt, h]

theorem admits_of_some (h : store.getByNamespacedHost host = some service) (status : HealthStatus) :
    store.admits host status = service.shouldIncludeEndpoint status := by
  rw [admits, h, Option.all_some]

theorem admits_of_none (h : store.getByNamespacedHost host = none) (status : HealthStatus) :
    store.admits host status = true := by
  rw [admits, h, Option.all_none]

/-- What is admitted is declared. -/
theorem admits_congr {store' : ServiceStore} (h : store'.declared host = store.declared host)
    (status : HealthStatus) : store'.admits host status = store.admits host status := by
  have hdeclared (s : ServiceStore) :
      s.admits host status = (s.declared host).all (·.shouldIncludeEndpoint status) := by
    rw [admits, declared]
    rcases s.getByNamespacedHost host with - | service <;> rfl
  rw [hdeclared, hdeclared, h]

theorem getByNamespacedHost_eq_none_iff :
    store.getByNamespacedHost host = none ↔ store.declared host = none := by
  rw [declared, Option.map_eq_none_iff]

/-- **Nothing is staged for an installed service**, and no map of staged endpoints is empty. -/
structure WellStaged (store : ServiceStore) : Prop where
  consistent : store.Consistent
  uninstalled : ∀ host staged, store.stagedServices host = some staged →
    store.getByNamespacedHost host = none
  ne_empty : ∀ host staged, store.stagedServices host = some staged → staged.entries ≠ []

theorem WellStaged.stagedServices_eq_none (h : store.WellStaged)
    (hget : store.getByNamespacedHost host = some service) : store.stagedServices host = none := by
  by_contra hne
  obtain ⟨staged, hsome⟩ := Option.ne_none_iff_exists'.1 hne
  cases hget.symm.trans (h.uninstalled host staged hsome)

theorem wellStaged_empty : empty.WellStaged :=
  ⟨consistent_empty, (fun _ _ h ↦ nomatch h), fun _ _ h ↦ nomatch h⟩

theorem lookup_insert (endpoints : EndpointSet) (key uid : Strng) (ep : Endpoint) :
    (endpoints.insert key ep).lookup uid = if uid = key then some ep else endpoints.lookup uid := by
  split
  · next heq => rw [heq, AList.lookup_insert]
  · next hne => rw [AList.lookup_insert_ne hne]

theorem lookup_erase (endpoints : EndpointSet) (key uid : Strng) :
    (endpoints.erase key).lookup uid = if uid = key then none else endpoints.lookup uid := by
  split
  · next heq => rw [heq, AList.lookup_erase]
  · next hne => rw [AList.lookup_erase_ne hne]

/-! ### Endpoints of installed services -/

theorem WellStaged.updateEndpoints (h : store.WellStaged)
    (hget : store.getByNamespacedHost host = some service) (endpoints : EndpointSet) :
    (store.insertEndpointUpdate { service with endpoints := endpoints }).WellStaged ∧
      ∀ host' uid, (store.insertEndpointUpdate { service with endpoints := endpoints }).endpointAt
        host' uid = if host' = host then endpoints.lookup uid else store.endpointAt host' uid := by
  have hname : Service.namespacedHostname { service with endpoints := endpoints } = host :=
    (h.consistent.namespacedHostname hget :)
  have hafter : (store.insertEndpointUpdate
      { service with endpoints := endpoints }).getByNamespacedHost =
      Function.update store.getByNamespacedHost host
        (some { service with endpoints := endpoints }) := by
    rw [insertEndpointUpdate_eq, getByNamespacedHost_install, hname]
  refine ⟨⟨h.consistent.updateEndpoints hget endpoints, fun host' staged hstaged ↦ ?_,
    h.ne_empty⟩, fun host' uid ↦ ?_⟩
  · have hnone := h.uninstalled host' staged hstaged
    have hne : host' ≠ host := by
      rintro rfl
      cases hget.symm.trans hnone
    rw [hafter, Function.update_of_ne hne]
    exact hnone
  · by_cases heq : host' = host
    · rw [if_pos heq, heq]
      exact endpointAt_of_some (by rw [hafter, Function.update_self]) uid
    · rw [if_neg heq, endpointAt, hafter, Function.update_of_ne heq]
      rfl

/-! ### Staged endpoints -/

theorem getByNamespacedHost_setStaged (host host' : NamespacedHostname)
    (staged : Option EndpointSet) :
    (store.setStaged host staged).getByNamespacedHost host' = store.getByNamespacedHost host' := rfl

theorem stagedServices_setStaged (host : NamespacedHostname) (staged : Option EndpointSet) :
    (store.setStaged host staged).stagedServices =
      Function.update store.stagedServices host staged := rfl

/-- The staged endpoints of a name that is not installed change, to some that are not empty or to
none. -/
theorem WellStaged.setStaged (h : store.WellStaged) (hget : store.getByNamespacedHost host = none)
    {staged : Option EndpointSet}
    (hne : ∀ endpoints, staged = some endpoints → endpoints.entries ≠ []) :
    (store.setStaged host staged).WellStaged ∧
      ∀ host' uid, (store.setStaged host staged).endpointAt host' uid =
        if host' = host then staged.bind (·.lookup uid) else store.endpointAt host' uid := by
  refine ⟨⟨h.consistent.setStaged host staged, fun host' endpoints hstaged ↦ ?_,
    fun host' endpoints hstaged ↦ ?_⟩, fun host' uid ↦ ?_⟩
  · rw [stagedServices_setStaged] at hstaged
    by_cases heq : host' = host
    · exact heq ▸ hget
    · rw [Function.update_of_ne heq] at hstaged
      exact h.uninstalled host' endpoints hstaged
  · rw [stagedServices_setStaged] at hstaged
    by_cases heq : host' = host
    · rw [heq, Function.update_self] at hstaged
      exact hne endpoints hstaged
    · rw [Function.update_of_ne heq] at hstaged
      exact h.ne_empty host' endpoints hstaged
  · rw [endpointAt, getByNamespacedHost_setStaged, stagedServices_setStaged]
    by_cases heq : host' = host
    · rw [if_pos heq, heq, hget, Function.update_self]
    · rw [if_neg heq, Function.update_of_ne heq]
      rfl

/-! ### Operations -/

theorem insertEndpoint_of_none {ep : Endpoint} (h : store.getByNamespacedHost host = none) :
    store.insertEndpoint host ep = store.setStaged host
      (some (((store.stagedServices host).getD ∅).insert ep.workloadUid ep)) := by
  rw [insertEndpoint, h]
  rfl

theorem insertEndpoint_of_some {ep : Endpoint} (h : store.getByNamespacedHost host = some service) :
    store.insertEndpoint host ep =
      if service.shouldIncludeEndpoint ep.status then
        store.insertEndpointUpdate
          { service with endpoints := service.endpoints.insert ep.workloadUid ep }
      else store := by
  rw [insertEndpoint, h]

/-- `insert_endpoint` sets an entry, if its status is admitted. -/
theorem WellStaged.insertEndpoint (h : store.WellStaged) (host : NamespacedHostname)
    (ep : Endpoint) :
    (store.insertEndpoint host ep).WellStaged ∧
      ∀ host' uid, (store.insertEndpoint host ep).endpointAt host' uid =
        if (host' = host ∧ uid = ep.workloadUid) ∧ store.admits host ep.status = true then some ep
        else store.endpointAt host' uid := by
  rcases hget : store.getByNamespacedHost host with - | service
  · rw [insertEndpoint_of_none hget, admits_of_none hget]
    have hne : ∀ endpoints, some (((store.stagedServices host).getD ∅).insert ep.workloadUid ep) =
        some endpoints → endpoints.entries ≠ [] := by
      intro endpoints hsome
      exact Option.some.inj hsome ▸ List.cons_ne_nil _ _
    obtain ⟨hstaged, hat⟩ := h.setStaged hget hne
    refine ⟨hstaged, fun host' uid ↦ ?_⟩
    rw [hat]
    by_cases heq : host' = host
    · subst heq
      rw [if_pos rfl, Option.bind_some, lookup_insert, endpointAt_of_none hget]
      have hstaged : ((store.stagedServices host').getD ∅).lookup uid =
          (store.stagedServices host').bind (·.lookup uid) := by
        rcases store.stagedServices host' with - | staged <;> rfl
      simp only [hstaged, true_and, and_true]
    · rw [if_neg heq, if_neg fun hand ↦ heq hand.1.1]
  · rw [insertEndpoint_of_some hget, admits_of_some hget]
    by_cases hallowed : service.shouldIncludeEndpoint ep.status = true
    · rw [if_pos hallowed]
      obtain ⟨hstaged, hat⟩ := h.updateEndpoints hget (service.endpoints.insert ep.workloadUid ep)
      refine ⟨hstaged, fun host' uid ↦ ?_⟩
      rw [hat]
      by_cases heq : host' = host
      · subst heq
        rw [if_pos rfl, lookup_insert, endpointAt_of_some hget]
        simp only [hallowed, true_and, and_true]
      · rw [if_neg heq, if_neg fun hand ↦ heq hand.1.1]
    · rw [if_neg hallowed]
      exact ⟨h, fun host' uid ↦ (if_neg fun hand ↦ hallowed hand.2).symm⟩

/-! ### Clearing the entries of a workload -/

/-- **Entries are cleared**: of one workload, under those of some names whose declaration meets a
condition. Nothing else changes. -/
structure Clears (Q : Option Service → Prop) [DecidablePred Q] (uid : Strng)
    (hosts : List NamespacedHostname) (store store' : ServiceStore) : Prop where
  wellStaged : store'.WellStaged
  declared : store'.declared = store.declared
  endpointAt : ∀ host' uid', store'.endpointAt host' uid' =
    if (host' ∈ hosts ∧ uid' = uid) ∧ Q (store.declared host') then none
    else store.endpointAt host' uid'

section Clears

variable {Q : Option Service → Prop} [DecidablePred Q] {uid : Strng}
  {store' store'' : ServiceStore} {hosts hosts' : List NamespacedHostname}

theorem Clears.append (h : Clears Q uid hosts store store')
    (h' : Clears Q uid hosts' store' store'') : Clears Q uid (hosts ++ hosts') store store'' where
  wellStaged := h'.wellStaged
  declared := h'.declared.trans h.declared
  endpointAt host uid' := by
    rw [h'.endpointAt, h.endpointAt, h.declared]
    simp only [List.mem_append]
    split_ifs <;> first | rfl | tauto

/-- A loop of steps that each clear under one name. -/
theorem Clears.foldl {f : ServiceStore → NamespacedHostname → ServiceStore}
    (hf : ∀ store host, store.WellStaged → Clears Q uid [host] store (f store host))
    (hosts : List NamespacedHostname) (h : store.WellStaged) :
    Clears Q uid hosts store (hosts.foldl f store) := by
  induction hosts generalizing store with
  | nil => exact ⟨h, rfl, by simp⟩
  | cons host hosts ih => exact (hf store host h).append (ih (hf store host h).wellStaged)

end Clears

/-- The staged endpoints of a name without those of a workload; no empty map is kept. -/
def unstaged (uid : Strng) (staged : Option EndpointSet) : Option EndpointSet :=
  if ((staged.getD ∅).erase uid).entries.isEmpty then none else some ((staged.getD ∅).erase uid)

theorem unstaged_ne {uid : Strng} {staged : Option EndpointSet} {endpoints : EndpointSet}
    (h : unstaged uid staged = some endpoints) : endpoints.entries ≠ [] := by
  obtain ⟨hne, hsome⟩ := Option.ite_none_left_eq_some.1 h
  obtain rfl := Option.some.inj hsome
  exact fun hnil ↦ hne (by rw [hnil]; rfl)

theorem lookup_unstaged (uid uid' : Strng) (staged : Option EndpointSet) :
    (unstaged uid staged).bind (·.lookup uid') =
      if uid' = uid then none else staged.bind (·.lookup uid') := by
  have hgetD (o : Option EndpointSet) : o.bind (·.lookup uid') = (o.getD ∅).lookup uid' := by
    rcases o with - | endpoints <;> rfl
  have hkept : (unstaged uid staged).getD ∅ = (staged.getD ∅).erase uid := by
    rw [unstaged]
    split
    · next hempty => exact AList.ext (List.isEmpty_iff.1 hempty).symm
    · rfl
  rw [hgetD, hkept, lookup_erase, hgetD]

theorem unstage_eq (store : ServiceStore) (uid : Strng) (host : NamespacedHostname) :
    store.unstage uid host =
      store.setStaged host (unstaged uid (store.stagedServices host)) := rfl

/-- One turn of the first loop of `remove_endpoint`. -/
theorem WellStaged.unstage (h : store.WellStaged) (uid : Strng) (host : NamespacedHostname) :
    Clears (· = none) uid [host] store (store.unstage uid host) := by
  rw [unstage_eq]
  rcases hget : store.getByNamespacedHost host with - | service
  · have hne : ∀ endpoints, unstaged uid (store.stagedServices host) = some endpoints →
        endpoints.entries ≠ [] := fun _ ↦ unstaged_ne
    obtain ⟨hstaged, hat⟩ := h.setStaged hget hne
    refine ⟨hstaged, rfl, fun host' uid' ↦ ?_⟩
    rw [hat]
    by_cases heq : host' = host
    · subst heq
      rw [if_pos rfl, lookup_unstaged, endpointAt_of_none hget]
      simp [getByNamespacedHost_eq_none_iff.1 hget]
    · rw [if_neg heq, if_neg (by simp [heq])]
  · -- nothing is staged for an installed service, and nothing changes
    have hstaged := h.stagedServices_eq_none hget
    have hsame : store.setStaged host (unstaged uid (store.stagedServices host)) = store := by
      have hupdate : Function.update store.stagedServices host none = store.stagedServices :=
        Function.update_eq_self_iff.2 hstaged.symm
      rw [hstaged]
      show ({ store with stagedServices := Function.update _ host none } : ServiceStore) = store
      rw [hupdate]
    rw [hsame]
    refine ⟨h, rfl, fun host' uid' ↦ (if_neg ?_).symm⟩
    rintro ⟨⟨hmem, -⟩, hnone⟩
    rw [List.mem_singleton.1 hmem, ← getByNamespacedHost_eq_none_iff, hget] at hnone
    cases hnone

/-- One turn of the second loop of `remove_endpoint`. -/
theorem WellStaged.dropEndpoint (h : store.WellStaged) (uid : Strng) (host : NamespacedHostname) :
    Clears (· ≠ none) uid [host] store (store.dropEndpoint uid host) := by
  have hdeclared := h.consistent.declared_dropEndpoint uid host
  rcases hget : store.getByNamespacedHost host with - | service
  · have hsame : store.dropEndpoint uid host = store := by rw [ServiceStore.dropEndpoint, hget]
    rw [hsame]
    refine ⟨h, rfl, fun host' uid' ↦ (if_neg ?_).symm⟩
    rintro ⟨⟨hmem, -⟩, hsome⟩
    rw [List.mem_singleton.1 hmem] at hsome
    exact hsome (getByNamespacedHost_eq_none_iff.1 hget)
  · have hdrop : store.dropEndpoint uid host =
        store.insertEndpointUpdate { service with endpoints := service.endpoints.erase uid } := by
      rw [ServiceStore.dropEndpoint, hget]
    obtain ⟨hstaged, hat⟩ := h.updateEndpoints hget (service.endpoints.erase uid)
    rw [← hdrop] at hstaged hat
    refine ⟨hstaged, hdeclared, fun host' uid' ↦ ?_⟩
    rw [hat]
    by_cases heq : host' = host
    · subst heq
      have hsome : store.declared host' ≠ none := fun hnone ↦ by
        cases hget.symm.trans (getByNamespacedHost_eq_none_iff.2 hnone)
      rw [if_pos rfl, lookup_erase, endpointAt_of_some hget]
      simp [hsome]
    · rw [if_neg heq, if_neg (by simp [heq])]

/-- `remove_endpoint` clears the entries of a workload under the names it lists. -/
theorem WellStaged.removeEndpoint (h : store.WellStaged) (prev : Workload) :
    Clears (fun _ ↦ True) prev.uid prev.services store (store.removeEndpoint prev) := by
  have hfirst := Clears.foldl (fun _ host h ↦ h.unstage prev.uid host) prev.services h
  have hsecond := Clears.foldl (fun _ host h ↦ h.dropEndpoint prev.uid host) prev.services.dedup
    hfirst.wellStaged
  refine ⟨hsecond.wellStaged, hsecond.declared.trans hfirst.declared, fun host uid ↦ ?_⟩
  refine (hsecond.endpointAt host uid).trans ?_
  rw [hfirst.endpointAt, hfirst.declared]
  simp only [List.mem_dedup, and_true]
  split_ifs <;> first | rfl | tauto

/-! ### Services -/

/-- What a service takes over: the endpoints that it admits, before those that it had. -/
theorem lookup_addEndpoints (service : Service) {endpoints : List (Strng × Endpoint)}
    (hnodup : (endpoints.map Prod.fst).Nodup) (uid : Strng) :
    (addEndpoints service endpoints).endpoints.lookup uid =
      ((endpoints.lookup uid).filter (service.shouldIncludeEndpoint ·.status)).or
        (service.endpoints.lookup uid) := by
  induction endpoints generalizing service with
  | nil => rfl
  | cons p endpoints ih =>
    obtain ⟨key, ep⟩ := p
    obtain ⟨hnot, hnodup⟩ := List.nodup_cons.1 hnodup
    have hcons : ((key, ep) :: endpoints).lookup uid =
        if uid = key then some ep else endpoints.lookup uid := by
      rw [List.lookup_cons]
      by_cases heq : uid = key
      · simp [heq]
      · rw [if_neg heq, beq_false_of_ne heq]
    have hkey : endpoints.lookup key = none := by
      rw [List.lookup_eq_none_iff]
      rintro p hp
      simpa using fun heq : key = p.1 ↦ hnot (List.mem_map.2 ⟨p, hp, heq.symm⟩)
    rw [addEndpoints, List.foldl_cons, ← addEndpoints, ih _ hnodup, hcons]
    by_cases hallowed : service.shouldIncludeEndpoint ep.status = true
    · simp only [if_pos hallowed]
      show ((endpoints.lookup uid).filter (service.shouldIncludeEndpoint ·.status)).or
        ((service.endpoints.insert key ep).lookup uid) = _
      rw [lookup_insert]
      by_cases heq : uid = key
      · simp [heq, hkey, hallowed, Option.filter]
      · simp [heq]
    · simp only [if_neg hallowed]
      by_cases heq : uid = key
      · simp [heq, hkey, hallowed, Option.filter]
      · simp [heq]

/-- The endpoints of a set, as a service takes them over from one before it. -/
theorem lookup_entries (endpoints : EndpointSet) (uid : Strng) :
    (endpoints.entries.map fun e ↦ (e.1, e.2)).lookup uid = endpoints.lookup uid := by
  show _ = List.dlookup uid endpoints.entries
  induction endpoints.entries with
  | nil => rfl
  | cons e entries ih =>
    rw [List.map_cons, List.lookup_cons]
    obtain ⟨key, ep⟩ := e
    by_cases heq : uid = key
    · rw [heq, List.dlookup_cons_eq, beq_self_eq_true]
    · rw [List.dlookup_cons_ne _ _ heq, beq_false_of_ne heq]
      exact ih

theorem nodup_entries (endpoints : EndpointSet) :
    ((endpoints.entries.map fun e ↦ (e.1, e.2)).map Prod.fst).Nodup := by
  rw [List.map_map]
  exact endpoints.nodupKeys

/-- A service without endpoints takes over those of a set that it admits. -/
theorem lookup_addEndpoints_entries (hempty : service.endpoints = ∅) (endpoints : EndpointSet)
    (uid : Strng) :
    (addEndpoints service (endpoints.entries.map fun e ↦ (e.1, e.2))).endpoints.lookup uid =
      (endpoints.lookup uid).filter (service.shouldIncludeEndpoint ·.status) := by
  rw [lookup_addEndpoints service (nodup_entries endpoints), lookup_entries, hempty,
    AList.lookup_empty, Option.or_none]

theorem stagedServices_remove {prev : Service} (h : store.getByNamespacedHost host = some prev) :
    (store.remove host).2.stagedServices = Function.update store.stagedServices host none := by
  obtain ⟨services, -, -, hremove⟩ := remove_of_some h
  rw [hremove]

theorem stagedServices_insert (store : ServiceStore) (service : Service) :
    (store.insert service).stagedServices =
      Function.update store.stagedServices service.namespacedHostname none := by
  rw [insert_eq]
  show ((store.setStaged _ none).remove _).2.stagedServices = _
  rcases hprev : (store.setStaged service.namespacedHostname none).getByNamespacedHost
      service.namespacedHostname with - | prev
  · rw [remove_of_none hprev, stagedServices_setStaged]
  · rw [stagedServices_remove hprev, stagedServices_setStaged, Function.update_idem]

/-- A service of some name and policy is in the place of the one before it, or of none: it has the
endpoints of the table that it admits. -/
structure Replaces (service : Service) (store store' : ServiceStore) : Prop where
  wellStaged : store'.WellStaged
  declared : store'.declared =
    Function.update store.declared service.namespacedHostname (some (declaration service))
  endpointAt : ∀ host uid, store'.endpointAt host uid =
    if host = service.namespacedHostname then
      (store.endpointAt host uid).filter (service.shouldIncludeEndpoint ·.status)
    else store.endpointAt host uid

/-- The policy under its name is its own. -/
theorem Replaces.admits {store' : ServiceStore} (h : Replaces service store store')
    (hhost : host = service.namespacedHostname) (status : HealthStatus) :
    store'.admits host status = service.shouldIncludeEndpoint status := by
  have hdeclared : store'.declared host = some (declaration service) := by
    rw [h.declared, hhost, Function.update_self]
  obtain ⟨found, hfound, heq⟩ := Option.map_eq_some_iff.1 hdeclared
  rw [admits_of_some hfound]
  exact (congrArg (Service.shouldIncludeEndpoint · status) heq :)

theorem Replaces.admits_of_ne {store' : ServiceStore} (h : Replaces service store store')
    (hhost : host ≠ service.namespacedHostname) (status : HealthStatus) :
    store'.admits host status = store.admits host status :=
  admits_congr (by rw [h.declared, Function.update_of_ne hhost]) status

/-- A service is inserted with the endpoints that it should have: those that it admits, of the one
before it if there is one. -/
theorem WellStaged.insert (h : store.WellStaged) {endpoints : EndpointSet}
    (hsome : ∀ prev, store.getByNamespacedHost service.namespacedHostname = some prev →
      ∀ uid, endpoints.lookup uid =
        (prev.endpoints.lookup uid).filter (service.shouldIncludeEndpoint ·.status))
    (hnone : store.getByNamespacedHost service.namespacedHostname = none → endpoints = ∅) :
    Replaces service store (store.insert { service with endpoints := endpoints }) := by
  let inserted : Service := { service with endpoints := endpoints }
  have hlookup : ∀ uid, (store.withStaged inserted).endpoints.lookup uid =
      (store.endpointAt service.namespacedHostname uid).filter
        (service.shouldIncludeEndpoint ·.status) := by
    intro uid
    rcases hprev : store.getByNamespacedHost service.namespacedHostname with - | prev
    · rw [endpointAt_of_none hprev, ServiceStore.withStaged]
      have hempty : inserted.endpoints = ∅ := hnone hprev
      rcases hstaged : store.stagedServices service.namespacedHostname with - | staged
      · have hstaged : store.stagedServices inserted.namespacedHostname = none := hstaged
        rw [hstaged, hempty]
        rfl
      · have hstaged : store.stagedServices inserted.namespacedHostname = some staged := hstaged
        rw [hstaged]
        exact lookup_addEndpoints_entries hempty staged uid
    · have hstaged : store.stagedServices inserted.namespacedHostname = none :=
        h.stagedServices_eq_none hprev
      rw [ServiceStore.withStaged, hstaged, endpointAt_of_some hprev]
      exact hsome prev hprev uid
  have hget := h.consistent.getByNamespacedHost_insert inserted
  have hstaged : (store.insert inserted).stagedServices =
      Function.update store.stagedServices service.namespacedHostname none :=
    stagedServices_insert ..
  refine ⟨⟨h.consistent.insert inserted, fun host staged hhost ↦ ?_, fun host staged hhost ↦ ?_⟩,
    h.consistent.declared_apply (.insert inserted), fun host uid ↦ ?_⟩
  · rw [hstaged] at hhost
    obtain ⟨hne, hhost⟩ := Index.update_none_eq_some.1 hhost
    rw [hget]
    exact (Function.update_of_ne hne ..).trans (h.uninstalled host staged hhost)
  · rw [hstaged] at hhost
    exact h.ne_empty host staged (Index.update_none_eq_some.1 hhost).2
  · by_cases heq : host = service.namespacedHostname
    · rw [if_pos heq, heq]
      refine (endpointAt_of_some ?_ uid).trans (hlookup uid)
      rw [hget]
      exact Function.update_self ..
    · rw [if_neg heq, endpointAt, hget, hstaged, Function.update_of_ne heq]
      have hother : Function.update store.getByNamespacedHost inserted.namespacedHostname
          (some (store.withStaged inserted)) host = store.getByNamespacedHost host :=
        Function.update_of_ne heq ..
      rw [hother]
      rfl

theorem WellStaged.remove (h : store.WellStaged) {prev : Service}
    (hprev : store.getByNamespacedHost host = some prev) :
    (store.remove host).2.WellStaged ∧
      ∀ host' uid, (store.remove host).2.endpointAt host' uid =
        if host' = host then none else store.endpointAt host' uid := by
  have hget := h.consistent.getByNamespacedHost_remove host
  have hstaged := stagedServices_remove hprev
  refine ⟨⟨h.consistent.remove host, fun host' staged hhost ↦ ?_, fun host' staged hhost ↦ ?_⟩,
    fun host' uid ↦ ?_⟩
  · rw [hstaged] at hhost
    obtain ⟨hne, hhost⟩ := Index.update_none_eq_some.1 hhost
    rw [hget, Function.update_of_ne hne]
    exact h.uninstalled host' staged hhost
  · rw [hstaged] at hhost
    exact h.ne_empty host' staged (Index.update_none_eq_some.1 hhost).2
  · rw [endpointAt, hget, hstaged]
    by_cases heq : host' = host
    · rw [if_pos heq, heq, Function.update_self, Function.update_self]
      rfl
    · rw [if_neg heq, Function.update_of_ne heq, Function.update_of_ne heq]
      rfl

/-! ### The endpoints by name -/

/-- The endpoints of a service, by the UIDs of their workloads. -/
def endpointsOf (store : ServiceStore) (host : NamespacedHostname) :
    Option (Strng → Option Endpoint) :=
  (store.getByNamespacedHost host).map fun service uid ↦ service.endpoints.lookup uid

/-- The endpoints staged for a service, by the UIDs of their workloads. -/
def stagedFor (store : ServiceStore) (host : NamespacedHostname) :
    Option (Strng → Option Endpoint) :=
  (store.stagedServices host).map fun staged uid ↦ staged.lookup uid

/-- A map of staged endpoints has an entry. -/
theorem WellStaged.exists_endpointAt (h : store.WellStaged) {staged : EndpointSet}
    (hstaged : store.stagedServices host = some staged) :
    ∃ uid ep, store.endpointAt host uid = some ep := by
  obtain ⟨e, entries, hentries⟩ := List.exists_cons_of_ne_nil (h.ne_empty host staged hstaged)
  refine ⟨e.1, e.2, ?_⟩
  rw [endpointAt_of_none (h.uninstalled host staged hstaged), hstaged, Option.bind_some]
  exact AList.mem_lookup_iff.2 (hentries ▸ List.mem_cons_self)

/-- The table and the names of the installed services say what is staged: all the entries under a
name that is not installed, if there are any. -/
theorem WellStaged.stagedFor_eq_some (h : store.WellStaged) {entries : Strng → Option Endpoint} :
    store.stagedFor host = some entries ↔ store.getByNamespacedHost host = none ∧
      (∃ uid ep, entries uid = some ep) ∧ ∀ uid, store.endpointAt host uid = entries uid := by
  rw [stagedFor, Option.map_eq_some_iff]
  constructor
  · rintro ⟨staged, hstaged, rfl⟩
    have hnone := h.uninstalled host staged hstaged
    have hat : ∀ uid, store.endpointAt host uid = staged.lookup uid := fun uid ↦ by
      rw [endpointAt_of_none hnone, hstaged, Option.bind_some]
    obtain ⟨uid, ep, hep⟩ := h.exists_endpointAt hstaged
    exact ⟨hnone, ⟨uid, ep, (hat uid).symm.trans hep⟩, hat⟩
  · rintro ⟨hnone, ⟨uid, ep, hep⟩, hat⟩
    simp only [endpointAt_of_none hnone] at hat
    rcases hstaged : store.stagedServices host with - | staged
    · have hno := hat uid
      rw [hstaged, hep] at hno
      cases hno
    · refine ⟨staged, rfl, funext fun uid ↦ ?_⟩
      rw [← hat uid, hstaged, Option.bind_some]

/-- The table and the names of the installed services say the endpoints of each of them. -/
theorem endpointsOf_eq_some {entries : Strng → Option Endpoint} :
    store.endpointsOf host = some entries ↔ store.getByNamespacedHost host ≠ none ∧
      ∀ uid, store.endpointAt host uid = entries uid := by
  rw [endpointsOf]
  rcases hget : store.getByNamespacedHost host with - | service
  · simp
  · simp only [Option.map_some, Option.some.injEq, endpointAt_of_some hget, funext_iff, ne_eq,
      reduceCtorEq, not_false_eq_true, true_and]

/-- Two stores with one table and the same names installed. -/
theorem WellStaged.same (h : store.WellStaged) {store' : ServiceStore} (h' : store'.WellStaged)
    (hget : store.getByNamespacedHost host = none ↔ store'.getByNamespacedHost host = none)
    (hat : ∀ uid, store.endpointAt host uid = store'.endpointAt host uid) :
    store.endpointsOf host = store'.endpointsOf host ∧
      store.stagedFor host = store'.stagedFor host := by
  constructor
  · refine Option.ext fun entries ↦ ?_
    simp only [endpointsOf_eq_some, ne_eq, hget, hat]
  · refine Option.ext fun entries ↦ ?_
    simp only [h.stagedFor_eq_some, h'.stagedFor_eq_some, hget, hat]

end ServiceStore

end Ztunnel.State
