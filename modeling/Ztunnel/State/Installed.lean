import Ztunnel.Lib.Index
import Ztunnel.Lib.Transition
import Ztunnel.State.Service

/-!
# The services that are installed

A store keeps one service object in two places: in the list of its hostname, where the namespace
tells the services of a hostname apart, and under each of its VIPs. What a store is for is the
lookup `getByNamespacedHost`, a map from namespaced hostnames to services, and the operations are
described by what they do to it: `remove` takes a key out, and the end of an insert (`install`) puts
one in.

* `Consistent` is the invariant: the lists are well formed, and what is under a VIP is the service
  that the map has for its name, and lists the VIP.
* A VIP has room for one service only. Removing or replacing a service empties its VIPs, also those
  that another installed service lists; `VipComplete` survives as long as this does not happen
  (`KeepsVips`).
-/

namespace Ztunnel.State

open Transition

namespace ServiceStore

/-! ### The list of a hostname -/

/-- The services of a hostname, at most one in a namespace. -/
structure HostList (hostname : Strng) (services : List Service) : Prop where
  ne_nil : services ≠ []
  hostname : ∀ service ∈ services, service.hostname = hostname
  nodup : (services.map (·.namespace)).Nodup

/-- The lookup in the list of a hostname. -/
def findNamespace (ns : Strng) (services : List Service) : Option Service :=
  services.find? (·.namespace == ns)

theorem findNamespace_cons (ns : Strng) (service : Service) (services : List Service) :
    findNamespace ns (service :: services) =
      if service.namespace = ns then some service else findNamespace ns services := by
  unfold findNamespace
  by_cases h : service.namespace = ns <;> simp [h]

variable {ns : Strng} {services : List Service}

theorem findNamespace_eq_none :
    findNamespace ns services = none ↔ ns ∉ services.map (·.namespace) := by
  simp [findNamespace]

theorem findNamespace_eq_some {service : Service} (h : findNamespace ns services = some service) :
    service ∈ services ∧ service.namespace = ns :=
  ⟨List.mem_of_find?_eq_some h, by simpa using List.find?_some h⟩

theorem findNamespace_of_mem {service : Service} (hnodup : (services.map (·.namespace)).Nodup)
    (hmem : service ∈ services) : findNamespace service.namespace services = some service := by
  induction services with
  | nil => cases hmem
  | cons other services ih =>
    obtain ⟨hnot, hnodup⟩ := List.nodup_cons.1 hnodup
    rw [findNamespace_cons]
    rcases List.mem_cons.1 hmem with rfl | hmem
    · exact if_pos rfl
    · rw [if_neg fun h ↦ hnot (List.mem_map.2 ⟨service, hmem, h.symm⟩)]
      exact ih hnodup hmem

/-- `removeFirst` takes out what the lookup finds. -/
theorem removeFirst_eq (ns : Strng) (services : List Service) :
    removeFirst ns services =
      (findNamespace ns services).map fun service ↦
        (service, services.eraseP (·.namespace = ns)) := by
  induction services with
  | nil => rfl
  | cons other services ih =>
    rw [removeFirst, findNamespace_cons]
    by_cases h : other.namespace = ns
    · simp [h]
    · rw [if_neg h, if_neg h, ih, Option.map_map]
      simp [h, Function.comp_def]

theorem findNamespace_eraseP (hnodup : (services.map (·.namespace)).Nodup) (ns' : Strng) :
    findNamespace ns' (services.eraseP (·.namespace = ns)) =
      if ns' = ns then none else findNamespace ns' services := by
  induction services with
  | nil => simp [findNamespace]
  | cons other services ih =>
    obtain ⟨hnot, hnodup⟩ := List.nodup_cons.1 hnodup
    by_cases h : other.namespace = ns
    · subst h
      rw [List.eraseP_cons_of_pos (by simp), findNamespace_cons]
      by_cases hns : ns' = other.namespace
      · rw [if_pos hns, hns, findNamespace_eq_none]
        exact hnot
      · rw [if_neg hns, if_neg (Ne.symm hns)]
    · rw [List.eraseP_cons_of_neg (by simpa using h), findNamespace_cons, findNamespace_cons,
        ih hnodup]
      by_cases hns : ns' = ns
      · rw [if_pos hns, if_pos hns, if_neg (hns ▸ h)]
      · rw [if_neg hns, if_neg hns]

theorem findNamespace_placeService (service : Service) (services : List Service) (ns : Strng) :
    findNamespace ns (placeService service services) =
      if ns = service.namespace then some service else findNamespace ns services := by
  induction services with
  | nil =>
    rw [placeService, findNamespace_cons]
    simp only [eq_comm]
  | cons other services ih =>
    rw [placeService]
    split
    · next h =>
      rw [findNamespace_cons, findNamespace_cons, h]
      simp only [eq_comm]
      split <;> rfl
    · next h =>
      rw [findNamespace_cons, findNamespace_cons, ih]
      by_cases hns : ns = service.namespace
      · rw [if_pos hns, if_pos hns, if_neg (hns ▸ h)]
      · rw [if_neg hns, if_neg hns]

theorem map_namespace_placeService (service : Service) (services : List Service) :
    (placeService service services).map (·.namespace) =
      if service.namespace ∈ services.map (·.namespace) then services.map (·.namespace)
      else services.map (·.namespace) ++ [service.namespace] := by
  induction services with
  | nil => simp [placeService]
  | cons other services ih =>
    rw [placeService]
    by_cases h : other.namespace = service.namespace
    · simp [h]
    · rw [if_neg h, List.map_cons, ih]
      simp only [List.map_cons, List.mem_cons, Ne.symm h, false_or]
      split <;> rfl

theorem mem_placeService {service other : Service} (h : other ∈ placeService service services) :
    other = service ∨ other ∈ services := by
  induction services with
  | nil => exact .inl (List.mem_singleton.1 h)
  | cons head services ih =>
    rw [placeService] at h
    split at h
    · exact (List.mem_cons.1 h).imp id (List.mem_cons_of_mem head)
    · rcases List.mem_cons.1 h with rfl | h
      · exact .inr List.mem_cons_self
      · exact (ih h).imp id (List.mem_cons_of_mem head)

/-- A service is placed in the list of its hostname, if there is one. -/
theorem hostList_placeService {service : Service} {old : Option (List Service)}
    (hold : ∀ services, old = some services → HostList service.hostname services) :
    HostList service.hostname (placeService service (old.getD [])) := by
  refine ⟨fun hnil ↦ ?_, fun other hother ↦ ?_, ?_⟩
  · have hfind := findNamespace_placeService service (old.getD []) service.namespace
    rw [hnil, if_pos rfl] at hfind
    cases hfind
  · rcases mem_placeService hother with rfl | hother
    · rfl
    · rcases old with - | services
      · cases hother
      · exact (hold services rfl).hostname other hother
  · have hnodup : ((old.getD []).map (·.namespace)).Nodup := by
      rcases old with - | services
      · exact List.nodup_nil
      · exact (hold services rfl).nodup
    rw [map_namespace_placeService]
    split
    · exact hnodup
    · next hnew => simpa using hnodup.concat hnew

/-! ### The invariant -/

/-- **The invariant.** Under a VIP is the service that its name finds, and it lists the VIP. -/
structure Consistent (store : ServiceStore) : Prop where
  byHost : ∀ hostname services, store.byHost hostname = some services → HostList hostname services
  byVip : ∀ vip service, store.byVip vip = some service →
    store.getByNamespacedHost service.namespacedHostname = some service ∧ vip ∈ service.vips

/-- The end of `insert_internal`: the service goes under its VIPs and into the list of its
hostname. -/
def install (store : ServiceStore) (service : Service) : ServiceStore :=
  { store with
    byVip := service.vips.foldl (fun byVip vip ↦ Function.update byVip vip (some service))
      store.byVip
    byHost := Function.update store.byHost service.hostname
      (some (placeService service ((store.byHost service.hostname).getD []))) }

/-- A service with the staged endpoints of its name. -/
def withStaged (store : ServiceStore) (service : Service) : Service :=
  match store.stagedServices service.namespacedHostname with
  | some staged => addEndpoints service (staged.entries.map fun e ↦ (e.1, e.2))
  | none => service

/-- The staged endpoints of a name are set. -/
def setStaged (store : ServiceStore) (host : NamespacedHostname) (staged : Option EndpointSet) :
    ServiceStore :=
  { store with stagedServices := Function.update store.stagedServices host staged }

theorem insertEndpointUpdate_eq (store : ServiceStore) (service : Service) :
    store.insertEndpointUpdate service = store.install service := rfl

theorem insert_eq (store : ServiceStore) (service : Service) :
    store.insert service =
      ((store.setStaged service.namespacedHostname none).remove
        service.namespacedHostname).2.install (store.withStaged service) := rfl

variable {store : ServiceStore} {host : NamespacedHostname} {service : Service}

theorem getByNamespacedHost_eq (store : ServiceStore) (host : NamespacedHostname) :
    store.getByNamespacedHost host =
      (store.byHost host.hostname).bind (findNamespace host.namespace) := rfl

theorem Consistent.namespacedHostname (h : store.Consistent)
    (hget : store.getByNamespacedHost host = some service) : service.namespacedHostname = host := by
  obtain ⟨services, hservices, hfind⟩ := Option.bind_eq_some_iff.1 hget
  obtain ⟨hmem, hns⟩ := findNamespace_eq_some hfind
  have hhost := (h.byHost host.hostname services hservices).hostname service hmem
  rw [Service.namespacedHostname, hns, hhost]

/-- What is in the list of a hostname is found under its name. -/
theorem Consistent.getByNamespacedHost_of_mem (h : store.Consistent) {hostname : Strng}
    (hservices : store.byHost hostname = some services) (hmem : service ∈ services) :
    store.getByNamespacedHost service.namespacedHostname = some service := by
  have hlist := h.byHost hostname services hservices
  have hbyHost : store.byHost service.hostname = some services := by
    rw [hlist.hostname service hmem]
    exact hservices
  show (store.byHost service.hostname).bind (findNamespace service.namespace) = some service
  rw [hbyHost, Option.bind_some]
  exact findNamespace_of_mem hlist.nodup hmem

theorem getByNamespacedHost_install (store : ServiceStore) (service : Service) :
    (store.install service).getByNamespacedHost =
      Function.update store.getByNamespacedHost service.namespacedHostname (some service) := by
  funext host
  rw [getByNamespacedHost_eq]
  by_cases hhost : host.hostname = service.hostname
  · have hlist : (store.install service).byHost host.hostname =
        some (placeService service ((store.byHost service.hostname).getD [])) := by
      rw [hhost]
      exact Function.update_self ..
    rw [hlist, Option.bind_some, findNamespace_placeService]
    by_cases hns : host.namespace = service.namespace
    · have heq : host = service.namespacedHostname := by
        rw [Service.namespacedHostname, ← hhost, ← hns]
      rw [if_pos hns, heq, Function.update_self]
    · rw [if_neg hns,
        Function.update_of_ne fun heq ↦ hns (congrArg NamespacedHostname.namespace heq),
        getByNamespacedHost_eq, hhost]
      rcases store.byHost service.hostname with - | services <;> rfl
  · have hlist : (store.install service).byHost host.hostname = store.byHost host.hostname :=
      Function.update_of_ne hhost ..
    rw [hlist, Function.update_of_ne fun heq ↦ hhost (congrArg NamespacedHostname.hostname heq)]
    rfl

theorem byHost_install (store : ServiceStore) (service : Service) :
    (store.install service).byHost = Function.update store.byHost service.hostname
      (some (placeService service ((store.byHost service.hostname).getD []))) := rfl

theorem byVip_install (store : ServiceStore) (service : Service) (vip : NetworkAddress) :
    (store.install service).byVip vip =
      if vip ∈ service.vips then some service else store.byVip vip :=
  Index.foldl_update_const ..

/-- A service is installed, in the place of none or of one with the same VIPs. -/
theorem Consistent.install (h : store.Consistent)
    (hvips : ∀ old, store.getByNamespacedHost service.namespacedHostname = some old →
      old.vips = service.vips) : (store.install service).Consistent := by
  refine ⟨fun hostname services hservices ↦ ?_, fun vip found hfound ↦ ?_⟩
  · rw [byHost_install] at hservices
    by_cases hhost : hostname = service.hostname
    · subst hhost
      rw [Function.update_self, Option.some.injEq] at hservices
      exact hservices ▸ hostList_placeService (h.byHost service.hostname)
    · rw [Function.update_of_ne hhost] at hservices
      exact h.byHost hostname services hservices
  · rw [byVip_install] at hfound
    rw [getByNamespacedHost_install]
    by_cases hvip : vip ∈ service.vips
    · rw [if_pos hvip] at hfound
      obtain rfl := Option.some.inj hfound
      exact ⟨Function.update_self .., hvip⟩
    · rw [if_neg hvip] at hfound
      obtain ⟨hget, hlists⟩ := h.byVip vip found hfound
      have hne : found.namespacedHostname ≠ service.namespacedHostname := by
        intro heq
        rw [heq] at hget
        exact hvip (hvips found hget ▸ hlists)
      exact ⟨(Function.update_of_ne hne ..).trans hget, hlists⟩

/-! ### Removal -/

theorem remove_of_none (h : store.getByNamespacedHost host = none) :
    store.remove host = (false, store) := by
  have hremove : (store.byHost host.hostname).bind (removeFirst host.namespace) = none := by
    rcases hlist : store.byHost host.hostname with - | services
    · rfl
    · rw [getByNamespacedHost_eq, hlist, Option.bind_some] at h
      rw [Option.bind_some, removeFirst_eq, h, Option.map_none]
  rw [remove, hremove]

theorem remove_of_some {prev : Service} (h : store.getByNamespacedHost host = some prev) :
    ∃ services, store.byHost host.hostname = some services ∧
      findNamespace host.namespace services = some prev ∧
      store.remove host =
        (true,
          { byHost := Function.update store.byHost host.hostname
              (if (services.eraseP (·.namespace = host.namespace)).isEmpty then none
                else some (services.eraseP (·.namespace = host.namespace)))
            byVip := prev.vips.foldl (fun byVip vip ↦ Function.update byVip vip none) store.byVip
            stagedServices := Function.update store.stagedServices host none }) := by
  obtain ⟨services, hservices, hfind⟩ := Option.bind_eq_some_iff.1 h
  have hremove : (store.byHost host.hostname).bind (removeFirst host.namespace) =
      some (prev, services.eraseP (·.namespace = host.namespace)) := by
    have hfind' : findNamespace host.namespace services = some prev := hfind
    rw [hservices, Option.bind_some, removeFirst_eq, hfind', Option.map_some]
  refine ⟨services, hservices, hfind, ?_⟩
  rw [remove, hremove]

/-- A list that became empty is dropped, and finds nothing either way. -/
theorem findNamespace_nonempty (ns : Strng) (services : List Service) :
    (if services.isEmpty then none else some services).bind (findNamespace ns) =
      findNamespace ns services := by
  cases services <;> rfl

theorem Consistent.getByNamespacedHost_remove (h : store.Consistent) (host : NamespacedHostname) :
    (store.remove host).2.getByNamespacedHost =
      Function.update store.getByNamespacedHost host none := by
  rcases hprev : store.getByNamespacedHost host with - | prev
  · rw [remove_of_none hprev, ← hprev, Function.update_eq_self]
  obtain ⟨services, hservices, -, hremove⟩ := remove_of_some hprev
  have hnodup := (h.byHost host.hostname services hservices).nodup
  funext host'
  rw [getByNamespacedHost_eq, hremove]
  by_cases hhost : host'.hostname = host.hostname
  · simp only [hhost, Function.update_self]
    rw [findNamespace_nonempty, findNamespace_eraseP hnodup]
    by_cases hns : host'.namespace = host.namespace
    · have heq : host' = host := by
        cases host
        cases host'
        exact congrArg₂ NamespacedHostname.mk hns hhost
      rw [if_pos hns, heq, Function.update_self]
    · rw [if_neg hns,
        Function.update_of_ne fun heq ↦ hns (congrArg NamespacedHostname.namespace heq),
        getByNamespacedHost_eq, hhost, hservices, Option.bind_some]
  · simp only [Function.update_of_ne hhost]
    rw [Function.update_of_ne fun heq ↦ hhost (congrArg NamespacedHostname.hostname heq)]
    rfl

theorem byVip_remove {prev : Service} (h : store.getByNamespacedHost host = some prev)
    (vip : NetworkAddress) :
    (store.remove host).2.byVip vip = if vip ∈ prev.vips then none else store.byVip vip := by
  obtain ⟨services, -, -, hremove⟩ := remove_of_some h
  rw [hremove]
  exact Index.foldl_update_const ..

/-- What remains of a list is one, or nothing. -/
theorem HostList.eraseP {hostname ns : Strng} (h : HostList hostname services)
    (hne : services.eraseP (·.namespace = ns) ≠ []) :
    HostList hostname (services.eraseP (·.namespace = ns)) where
  ne_nil := hne
  hostname service hmem := h.hostname service (List.mem_of_mem_eraseP hmem)
  nodup := h.nodup.sublist ((List.eraseP_sublist ..).map _)

theorem Consistent.remove (h : store.Consistent) (host : NamespacedHostname) :
    (store.remove host).2.Consistent := by
  rcases hprev : store.getByNamespacedHost host with - | prev
  · rw [remove_of_none hprev]
    exact h
  refine ⟨fun hostname services hservices ↦ ?_, fun vip found hfound ↦ ?_⟩
  · obtain ⟨old, hold, -, hremove⟩ := remove_of_some hprev
    rw [hremove] at hservices
    by_cases hhost : hostname = host.hostname
    · subst hhost
      simp only [Function.update_self] at hservices
      obtain ⟨hempty, hsome⟩ := Option.ite_none_left_eq_some.1 hservices
      obtain rfl := Option.some.inj hsome
      exact (h.byHost host.hostname old hold).eraseP fun hnil ↦ hempty (by rw [hnil]; rfl)
    · simp only [Function.update_of_ne hhost] at hservices
      exact h.byHost hostname services hservices
  · rw [byVip_remove hprev] at hfound
    obtain ⟨hvip, hfound⟩ := Option.ite_none_left_eq_some.1 hfound
    obtain ⟨hget, hlists⟩ := h.byVip vip found hfound
    have hne : found.namespacedHostname ≠ host := by
      intro heq
      rw [heq, hprev] at hget
      exact hvip (Option.some.inj hget ▸ hlists)
    rw [h.getByNamespacedHost_remove]
    exact ⟨(Function.update_of_ne hne ..).trans hget, hlists⟩

/-! ### Operations -/

/-- Endpoints are all that a service takes over. -/
theorem addEndpoints_eq (service : Service) (endpoints : List (Strng × Endpoint)) :
    ∃ taken, addEndpoints service endpoints = { service with endpoints := taken } := by
  induction endpoints generalizing service with
  | nil => exact ⟨service.endpoints, rfl⟩
  | cons p endpoints ih =>
    rw [addEndpoints, List.foldl_cons]
    split
    · obtain ⟨taken, htaken⟩ := ih { service with endpoints := service.endpoints.insert p.1 p.2 }
      exact ⟨taken, htaken⟩
    · exact ih service

theorem withStaged_eq (store : ServiceStore) (service : Service) :
    ∃ taken, store.withStaged service = { service with endpoints := taken } := by
  unfold withStaged
  split
  · exact addEndpoints_eq ..
  · exact ⟨service.endpoints, rfl⟩

theorem Consistent.setStaged (h : store.Consistent) (host : NamespacedHostname)
    (staged : Option EndpointSet) : (store.setStaged host staged).Consistent :=
  ⟨h.byHost, h.byVip⟩

theorem Consistent.getByNamespacedHost_insert (h : store.Consistent) (service : Service) :
    (store.insert service).getByNamespacedHost =
      Function.update store.getByNamespacedHost service.namespacedHostname
        (some (store.withStaged service)) := by
  obtain ⟨taken, htaken⟩ := store.withStaged_eq service
  rw [insert_eq, getByNamespacedHost_install, (h.setStaged _ _).getByNamespacedHost_remove, htaken]
  exact Function.update_idem ..

theorem Consistent.insert (h : store.Consistent) (service : Service) :
    (store.insert service).Consistent := by
  obtain ⟨taken, htaken⟩ := store.withStaged_eq service
  have hclear := h.setStaged service.namespacedHostname none
  rw [insert_eq, htaken]
  refine (hclear.remove _).install fun old hold ↦ ?_
  rw [hclear.getByNamespacedHost_remove] at hold
  exact absurd hold (by simp [Service.namespacedHostname])

theorem Consistent.updateEndpoints (h : store.Consistent)
    (hget : store.getByNamespacedHost host = some service) (endpoints : EndpointSet) :
    (store.insertEndpointUpdate { service with endpoints := endpoints }).Consistent := by
  refine h.install fun old hold ↦ ?_
  have hsame : store.getByNamespacedHost service.namespacedHostname = some old := hold
  rw [h.namespacedHostname hget, hget] at hsame
  exact Option.some.inj hsame ▸ rfl

theorem Consistent.insertEndpoint (h : store.Consistent) (host : NamespacedHostname)
    (ep : Endpoint) : (store.insertEndpoint host ep).Consistent := by
  unfold ServiceStore.insertEndpoint
  split
  · next service hget =>
    split
    · exact h.updateEndpoints hget _
    · exact h
  · exact ⟨h.byHost, h.byVip⟩

/-- The second loop of `remove_endpoint`. -/
theorem Consistent.dropEndpoint (h : store.Consistent) (uid : Strng) (host : NamespacedHostname) :
    (store.dropEndpoint uid host).Consistent := by
  unfold ServiceStore.dropEndpoint
  split
  · next service hget => exact h.updateEndpoints hget _
  · exact h

theorem Consistent.removeEndpoint (h : store.Consistent) (prev : Workload) :
    (store.removeEndpoint prev).Consistent := by
  have hunstaged : (prev.services.foldl (·.unstage prev.uid) store).Consistent :=
    foldl_induction (along_true ..) h fun _ _ h _ ↦ ⟨h.byHost, h.byVip⟩
  exact foldl_induction (along_true ..) hunstaged fun _ host h _ ↦ h.dropEndpoint prev.uid host

theorem consistent_empty : empty.Consistent :=
  ⟨(fun _ _ h ↦ nomatch h), fun _ _ h ↦ nomatch h⟩

/-! ### Runs -/

/-- The operations of a store. -/
inductive Op where
  | insert (service : Service)
  | insertEndpoint (host : NamespacedHostname) (ep : Endpoint)
  | removeEndpoint (prev : Workload)
  | remove (host : NamespacedHostname)

def apply (store : ServiceStore) : Op → ServiceStore
  | .insert service => store.insert service
  | .insertEndpoint host ep => store.insertEndpoint host ep
  | .removeEndpoint prev => store.removeEndpoint prev
  | .remove host => (store.remove host).2

theorem Consistent.apply (h : store.Consistent) (op : Op) : (store.apply op).Consistent := by
  cases op with
  | insert service => exact h.insert service
  | insertEndpoint host ep => exact h.insertEndpoint host ep
  | removeEndpoint prev => exact h.removeEndpoint prev
  | remove host => exact h.remove host

/-- A service as it was declared, without its endpoints. -/
def declaration (service : Service) : Service := { service with endpoints := ∅ }

/-- The services as they were declared. -/
def declared (store : ServiceStore) (host : NamespacedHostname) : Option Service :=
  (store.getByNamespacedHost host).map declaration

/-- The declarations that a sequence of operations leaves: the last insert of a name, unless the
name was removed after it. -/
def declare (declared : NamespacedHostname → Option Service) :
    Op → NamespacedHostname → Option Service
  | .insert service =>
    Function.update declared service.namespacedHostname (some (declaration service))
  | .remove host => Function.update declared host none
  | .insertEndpoint _ _ | .removeEndpoint _ => declared

/-- Endpoints are not declared. -/
theorem Consistent.declared_updateEndpoints (h : store.Consistent)
    (hget : store.getByNamespacedHost host = some service) (endpoints : EndpointSet) :
    (store.insertEndpointUpdate { service with endpoints := endpoints }).declared =
      store.declared := by
  funext host'
  rw [declared, insertEndpointUpdate_eq, getByNamespacedHost_install]
  have hname : Service.namespacedHostname { service with endpoints := endpoints } = host :=
    (h.namespacedHostname hget :)
  rw [hname]
  by_cases heq : host' = host
  · rw [heq, Function.update_self, declared, hget]
    rfl
  · rw [Function.update_of_ne heq, declared]

theorem Consistent.declared_insertEndpoint (h : store.Consistent) (host : NamespacedHostname)
    (ep : Endpoint) : (store.insertEndpoint host ep).declared = store.declared := by
  unfold ServiceStore.insertEndpoint
  split
  · next service hget =>
    split
    · exact h.declared_updateEndpoints hget _
    · rfl
  · rfl

theorem Consistent.declared_dropEndpoint (h : store.Consistent) (uid : Strng)
    (host : NamespacedHostname) : (store.dropEndpoint uid host).declared = store.declared := by
  unfold ServiceStore.dropEndpoint
  split
  · next service hget => exact h.declared_updateEndpoints hget _
  · rfl

theorem Consistent.declared_removeEndpoint (h : store.Consistent) (prev : Workload) :
    (store.removeEndpoint prev).declared = store.declared := by
  have hunstaged : (prev.services.foldl (·.unstage prev.uid) store).Consistent ∧
      (prev.services.foldl (·.unstage prev.uid) store).declared = store.declared :=
    foldl_induction (I := fun s : ServiceStore ↦ s.Consistent ∧ s.declared = store.declared)
      (along_true ..)
      ⟨h, rfl⟩ fun _ _ h _ ↦ ⟨⟨h.1.byHost, h.1.byVip⟩, h.2⟩
  exact (foldl_induction (I := fun s : ServiceStore ↦ s.Consistent ∧ s.declared = store.declared)
      (along_true ..)
    hunstaged fun _ host h _ ↦
      ⟨h.1.dropEndpoint prev.uid host, (h.1.declared_dropEndpoint prev.uid host).trans h.2⟩).2

/-- **The lookup refines the declarations**, operation by operation. -/
theorem Consistent.declared_apply (h : store.Consistent) (op : Op) :
    (store.apply op).declared = declare store.declared op := by
  cases op with
  | insert service =>
    funext host
    obtain ⟨taken, htaken⟩ := store.withStaged_eq service
    rw [declared, ServiceStore.apply, h.getByNamespacedHost_insert, declare, htaken]
    by_cases heq : host = service.namespacedHostname
    · rw [heq, Function.update_self, Function.update_self]
      rfl
    · rw [Function.update_of_ne heq, Function.update_of_ne heq, declared]
  | insertEndpoint host ep => exact h.declared_insertEndpoint host ep
  | removeEndpoint prev => exact h.declared_removeEndpoint prev
  | remove host =>
    funext host'
    rw [declared, ServiceStore.apply, h.getByNamespacedHost_remove, declare]
    by_cases heq : host' = host
    · rw [heq, Function.update_self, Function.update_self]
      rfl
    · rw [Function.update_of_ne heq, Function.update_of_ne heq, declared]

/-- **Lookups are sound.** After any sequence of operations, what is found under a VIP is the very
service that its name finds, and lists the VIP; the list of a hostname is not empty and has services
of that hostname, at most one in a namespace; and the service that a name finds is the one last
declared under it. -/
theorem lookups_sound (ops : List Op) :
    (∀ vip service, (ops.foldl apply empty).getByVip vip = some service →
      (ops.foldl apply empty).getByNamespacedHost service.namespacedHostname = some service ∧
        vip ∈ service.vips) ∧
    (∀ hostname services, (ops.foldl apply empty).byHost hostname = some services →
      services ≠ [] ∧ (∀ service ∈ services, service.hostname = hostname) ∧
        (services.map (·.namespace)).Nodup) ∧
    ∀ host, ((ops.foldl apply empty).getByNamespacedHost host).map declaration =
      ops.foldl declare (fun _ ↦ none) host := by
  have h : (ops.foldl apply empty).Consistent ∧
      (ops.foldl apply empty).declared = ops.foldl declare fun _ ↦ none := by
    refine foldl_induction_past (I := fun past (store : ServiceStore) ↦
      store.Consistent ∧ store.declared = past.foldl declare fun _ ↦ none) (along_true ..)
      ⟨consistent_empty, rfl⟩ fun past store op ⟨hstore, hdeclared⟩ _ ↦ ⟨hstore.apply op, ?_⟩
    rw [hstore.declared_apply, hdeclared, List.foldl_append]
    rfl
  refine ⟨h.1.byVip, fun hostname services hservices ↦ ?_, fun host ↦ congrFun h.2 host⟩
  have hlist := h.1.byHost hostname services hservices
  exact ⟨hlist.ne_nil, hlist.hostname, hlist.nodup⟩

/-! ### Shared VIPs -/

/-- **Every VIP of an installed service finds a service**: an installed one that lists the VIP. -/
def VipComplete (store : ServiceStore) : Prop :=
  ∀ host service, store.getByNamespacedHost host = some service → ∀ vip ∈ service.vips,
    ∃ found, store.getByVip vip = some found ∧ vip ∈ found.vips ∧
      store.getByNamespacedHost found.namespacedHostname = some found

/-- **No VIP is taken from under another service**: when a service is removed, or replaced by one
without some of its VIPs, no other installed service lists these. -/
def KeepsVips (store : ServiceStore) : Op → Prop
  | .insert service =>
    ∀ prev, store.getByNamespacedHost service.namespacedHostname = some prev →
      ∀ vip ∈ prev.vips, vip ∉ service.vips → ∀ host ≠ service.namespacedHostname, ∀ other,
        store.getByNamespacedHost host = some other → vip ∉ other.vips
  | .remove removed =>
    ∀ prev, store.getByNamespacedHost removed = some prev →
      ∀ vip ∈ prev.vips, ∀ host ≠ removed, ∀ other,
        store.getByNamespacedHost host = some other → vip ∉ other.vips
  | .insertEndpoint _ _ | .removeEndpoint _ => True

/-- Every VIP of an installed service is in the index. -/
def VipsIndexed (store : ServiceStore) : Prop :=
  ∀ host service, store.getByNamespacedHost host = some service → ∀ vip ∈ service.vips,
    (store.byVip vip).isSome = true

theorem VipsIndexed.vipComplete (h : store.VipsIndexed) (hstore : store.Consistent) :
    store.VipComplete := by
  intro host service hget vip hvip
  obtain ⟨found, hfound⟩ := Option.isSome_iff_exists.1 (h host service hget vip hvip)
  obtain ⟨hsame, hlists⟩ := hstore.byVip vip found hfound
  exact ⟨found, hfound, hlists, hsame⟩

/-- A service is installed; its own VIPs are put in the index. -/
theorem VipsIndexed.install (h : ∀ host ≠ service.namespacedHostname, ∀ other,
      store.getByNamespacedHost host = some other → ∀ vip ∈ other.vips, vip ∉ service.vips →
        (store.byVip vip).isSome = true) : (store.install service).VipsIndexed := by
  intro host other hget vip hvip
  rw [getByNamespacedHost_install] at hget
  rw [byVip_install]
  by_cases hmem : vip ∈ service.vips
  · rw [if_pos hmem]
    rfl
  · rw [if_neg hmem]
    by_cases heq : host = service.namespacedHostname
    · rw [heq, Function.update_self, Option.some.injEq] at hget
      exact absurd (hget ▸ hvip) hmem
    · rw [Function.update_of_ne heq] at hget
      exact h host heq other hget vip hvip hmem

theorem VipsIndexed.insertEndpoint (h : store.VipsIndexed) (host : NamespacedHostname)
    (ep : Endpoint) : (store.insertEndpoint host ep).VipsIndexed := by
  unfold ServiceStore.insertEndpoint
  split
  · split
    · exact VipsIndexed.install fun host _ other hother vip hvip _ ↦ h host other hother vip hvip
    · exact h
  · exact h

theorem VipsIndexed.dropEndpoint (h : store.VipsIndexed) (uid : Strng)
    (host : NamespacedHostname) : (store.dropEndpoint uid host).VipsIndexed := by
  unfold ServiceStore.dropEndpoint
  split
  · exact VipsIndexed.install fun host _ other hother vip hvip _ ↦ h host other hother vip hvip
  · exact h

theorem VipsIndexed.removeEndpoint (h : store.VipsIndexed) (prev : Workload) :
    (store.removeEndpoint prev).VipsIndexed := by
  have hunstaged : (prev.services.foldl (·.unstage prev.uid) store).VipsIndexed :=
    foldl_induction (along_true ..) h fun _ _ h _ ↦ h
  exact foldl_induction (along_true ..) hunstaged fun _ host h _ ↦ h.dropEndpoint prev.uid host

/-- A service is removed, and its VIPs with it; nobody else lists those that go. -/
theorem VipsIndexed.remove (h : store.VipsIndexed) (hstore : store.Consistent)
    {removed : NamespacedHostname} {kept : List NetworkAddress}
    (hkeeps : ∀ prev, store.getByNamespacedHost removed = some prev →
      ∀ vip ∈ prev.vips, vip ∉ kept → ∀ host ≠ removed, ∀ other,
        store.getByNamespacedHost host = some other → vip ∉ other.vips) :
    ∀ host other, (store.remove removed).2.getByNamespacedHost host = some other →
      ∀ vip ∈ other.vips, vip ∉ kept → ((store.remove removed).2.byVip vip).isSome = true := by
  intro host other hget vip hvip hmem
  rcases hprev : store.getByNamespacedHost removed with - | prev
  · rw [remove_of_none hprev] at hget ⊢
    exact h host other hget vip hvip
  · rw [hstore.getByNamespacedHost_remove] at hget
    obtain ⟨hne, hget⟩ := Index.update_none_eq_some.1 hget
    rw [byVip_remove hprev,
      if_neg fun hgone ↦ hkeeps prev hprev vip hgone hmem host hne other hget hvip]
    exact h host other hget vip hvip

theorem VipsIndexed.apply (h : store.VipsIndexed) (hstore : store.Consistent) {op : Op}
    (hkeeps : store.KeepsVips op) : (store.apply op).VipsIndexed := by
  cases op with
  | insert service =>
    obtain ⟨taken, htaken⟩ := store.withStaged_eq service
    have hcleared : (store.setStaged service.namespacedHostname none).VipsIndexed := h
    rw [ServiceStore.apply, insert_eq, htaken]
    refine VipsIndexed.install fun host _ other hother vip hvip hmem ↦ ?_
    exact hcleared.remove (hstore.setStaged _ _) hkeeps host other hother vip hvip hmem
  | insertEndpoint host ep => exact h.insertEndpoint host ep
  | removeEndpoint prev => exact h.removeEndpoint prev
  | remove removed =>
    intro host other hget vip hvip
    refine h.remove hstore ?_ host other hget vip hvip List.not_mem_nil
    exact fun prev hprev vip hvip _ ↦ hkeeps prev hprev vip hvip

/-- **VIPs find their services**, after any sequence of operations that takes no VIP from under
another service. -/
theorem vipComplete_of_keepsVips {ops : List Op} (hkeeps : Along KeepsVips apply empty ops) :
    (ops.foldl apply empty).VipComplete := by
  have h : (ops.foldl apply empty).Consistent ∧ (ops.foldl apply empty).VipsIndexed :=
    foldl_induction (I := fun store : ServiceStore ↦ store.Consistent ∧ store.VipsIndexed) hkeeps
      ⟨consistent_empty, fun _ _ hget ↦ nomatch hget⟩ fun store op ⟨hstore, hindexed⟩ hkeep ↦
        ⟨hstore.apply op, hindexed.apply hstore hkeep⟩
  exact h.2.vipComplete h.1

/-- A service with given VIPs. -/
def sampleService (hostname : Strng) (vips : List NetworkAddress) : Service where
  name := hostname
  «namespace» := "ns"
  hostname := hostname
  vips := vips
  ports := fun _ ↦ none
  endpoints := ∅
  subjectAltNames := []
  waypoint := none
  loadBalancer := none
  ipFamilies := none
  canonical := false

def sampleVip (last : BitVec 32) : NetworkAddress := ⟨"net", .v4 (0x0a000000#32 + last)⟩

/-- **A shared VIP is lost.** Two services list a VIP; removing the first empties it, though the
second is installed and is the one that was found under it. -/
theorem removal_empties_shared_vip :
    let store := [Op.insert (sampleService "a" [sampleVip 1]),
      .insert (sampleService "b" [sampleVip 1])].foldl apply empty
    store.getByVip (sampleVip 1) = some (sampleService "b" [sampleVip 1]) ∧
      ¬ VipComplete (store.apply (.remove ⟨"ns", "a"⟩)) := by
  refine ⟨rfl, fun hcomplete ↦ ?_⟩
  obtain ⟨found, hfound, -⟩ :=
    hcomplete ⟨"ns", "b"⟩ (sampleService "b" [sampleVip 1]) rfl (sampleVip 1) List.mem_cons_self
  cases hfound

/-- Services that share a VIP may come, and be replaced by ones with the same VIPs. -/
theorem vipComplete_shared :
    VipComplete ([Op.insert (sampleService "a" [sampleVip 1, sampleVip 2]),
      .insert (sampleService "b" [sampleVip 2]),
      .insert (sampleService "a" [sampleVip 2, sampleVip 1])].foldl apply empty) := by
  refine vipComplete_of_keepsVips ⟨(fun _ hprev ↦ nomatch hprev), (fun _ hprev ↦ nomatch hprev),
    fun prev hprev vip hvip hmem ↦ ?_, trivial⟩
  obtain rfl : sampleService "a" [sampleVip 1, sampleVip 2] = prev := Option.some.inj hprev
  exact absurd hvip fun hvip ↦ hmem (by simpa [sampleService, or_comm] using hvip)

end ServiceStore

end Ztunnel.State
