import Ztunnel.Xds.Endpoints

/-!
# Discovery does not depend on the order of the updates

A workload may come before the services that it lists, or after them. In the first case its
endpoints are staged and filtered by the health policy when the service comes; in the second they
are filtered at once. What is left in the end is the same.

After a sequence of inserts that has no UID and no service name twice, the endpoint table is read
off the set of the inserts (`Discovered.endpointAt_iff`): the services are those that convert, and
an entry stands where a workload that converts lists the name and its health is admitted. Neither
says which insert came first, so any two orders agree.
-/

namespace Ztunnel.Xds

open Ztunnel.State Ztunnel.Rbac Ztunnel.Sandbox

variable (decoders : Decoders)

/-! ### Inserts of distinct names -/

/-- Two inserts are not of the same UID, and not of the same service. -/
def StateOp.Apart : StateOp → StateOp → Prop
  | .insertWorkload x, .insertWorkload y => x.uid ≠ y.uid
  | .insertService s, .insertService t => (s.namespace, s.hostname) ≠ (t.namespace, t.hostname)
  | _, _ => True

theorem StateOp.Apart.symm : ∀ {a b : StateOp}, a.Apart b → b.Apart a
  | .insertWorkload _, .insertWorkload _, h => Ne.symm h
  | .insertService _, .insertService _, h => Ne.symm h
  | .insertWorkload _, .insertService _, _ | .insertService _, .insertWorkload _, _ => trivial
  | .remove _, .insertWorkload _, _ | .remove _, .insertService _, _ => trivial
  | .insertWorkload _, .remove _, _ | .insertService _, .remove _, _ => trivial
  | .remove _, .remove _, _ => trivial

/-- The inserts of some workloads and services. -/
def insertions (workloads : List XdsWorkload) (services : List XdsService) : List StateOp :=
  workloads.map .insertWorkload ++ services.map .insertService

theorem pairwise_insertions {workloads : List XdsWorkload} {services : List XdsService}
    (huids : (workloads.map (·.uid)).Nodup)
    (hnames : (services.map fun s ↦ (s.namespace, s.hostname)).Nodup) :
    (insertions workloads services).Pairwise StateOp.Apart := by
  have hworkloads : workloads.Pairwise fun x y ↦ x.uid ≠ y.uid := List.pairwise_map.1 huids
  have hservices : services.Pairwise fun s t ↦
      (s.namespace, s.hostname) ≠ (t.namespace, t.hostname) := List.pairwise_map.1 hnames
  refine List.pairwise_append.2
    ⟨List.pairwise_map.2 hworkloads, List.pairwise_map.2 hservices, ?_⟩
  intro a ha b hb
  obtain ⟨x, -, rfl⟩ := List.mem_map.1 ha
  obtain ⟨s, -, rfl⟩ := List.mem_map.1 hb
  trivial

theorem remove_notMem_insertions (workloads : List XdsWorkload) (services : List XdsService)
    (name : Strng) : .remove name ∉ insertions workloads services := by
  simp [insertions]

theorem insertWorkload_mem_insertions {workloads : List XdsWorkload} {services : List XdsService}
    {x : XdsWorkload} (h : .insertWorkload x ∈ insertions workloads services) : x ∈ workloads := by
  simpa [insertions] using h

theorem tryFrom_namespacedHostname {s : XdsService} {service : Service}
    (h : Service.tryFrom s = .ok service) :
    service.namespacedHostname = ⟨s.namespace, s.hostname⟩ := by
  simp only [Service.tryFrom, bind_eq_ok] at h
  obtain ⟨_, -, _, -, _, -, _, -, hpure⟩ := h
  exact Except.ok.inj hpure ▸ rfl

theorem tryFrom_services {x : XdsWorkload} {w : Workload} {services : List (String × PortList)}
    (h : Workload.tryFrom decoders x = .ok (w, services)) : services = x.services := by
  simp only [Workload.tryFrom, bind_eq_ok] at h
  obtain ⟨_, -, _, -, _, -, _, -, _, -, _, -, _, -, _, -, _, -, hpure⟩ := h
  exact (Prod.mk.inj (Except.ok.inj hpure)).2.symm

/-- What a workload announces for a service is one endpoint. -/
theorem Carries.unique {w : Workload} {services : List (String × PortList)}
    (hkeys : (services.map Prod.fst).Nodup) {host : NamespacedHostname} {ep ep' : Endpoint}
    (h : Carries w services host ep) (h' : Carries w services host ep') : ep = ep' := by
  obtain ⟨p, hp, hparsed, hport⟩ := h.port
  obtain ⟨p', hp', hparsed', hport'⟩ := h'.port
  have hname := NamespacedHostname.fromStr_injective hparsed hparsed'
  obtain rfl := List.inj_on_of_nodup_map hkeys hp hp' hname
  have huid := h.uid.trans h'.uid.symm
  have hstatus := h.status.trans h'.status.symm
  have hport := hport.trans hport'.symm
  rcases ep with ⟨uid, port, status⟩
  rcases ep' with ⟨uid', port', status'⟩
  exact Endpoint.mk.injEq .. ▸ ⟨huid, hport, hstatus⟩

/-! ### The table after the inserts -/

/-- What was announced by a sequence of operations. -/
def announcedBy (ops : List StateOp) : Strng → Option XdsWorkload :=
  ops.foldl (announce decoders) fun _ ↦ none

/-- **The state says what was inserted**: the workloads and the services that convert, with every
endpoint that is admitted. -/
structure Discovered (past : List StateOp) (state : ProxyState) : Prop where
  tracks : Tracks decoders (announcedBy decoders past) state
  complete : Complete state
  announced : ∀ uid x, announcedBy decoders past uid = some x ↔
    .insertWorkload x ∈ past ∧ x.uid = uid ∧ ∃ result, Workload.tryFrom decoders x = .ok result
  declared : ∀ host service, state.services.declared host = some service ↔
    ∃ s, .insertService s ∈ past ∧ Service.tryFrom s = .ok service ∧
      service.namespacedHostname = host

section Steps

variable {decoders} {past : List StateOp} {state : ProxyState}

theorem announcedBy_append (op : StateOp) :
    announcedBy decoders (past ++ [op]) = announce decoders (announcedBy decoders past) op := by
  rw [announcedBy, List.foldl_append]
  rfl

theorem discovered_new (localNode : Option Strng) : Discovered decoders [] (.new localNode) where
  tracks := tracks_new decoders localNode
  complete _ _ h := nomatch h
  announced uid x := by simp [announcedBy]
  declared host service := by
    simp [ServiceStore.declared, ProxyState.new, ServiceStore.empty,
      ServiceStore.getByNamespacedHost]

theorem Discovered.insertWorkload (h : Discovered decoders past state) {x : XdsWorkload}
    (hfresh : ∀ y, .insertWorkload y ∈ past → y.uid ≠ x.uid) :
    Discovered decoders (past ++ [.insertWorkload x]) (insertWorkload decoders state x).2 where
  tracks := announcedBy_append (.insertWorkload x) ▸ h.tracks.insertWorkload x
  complete := h.complete.insertWorkload h.tracks x
  announced uid y := by
    rw [announcedBy_append, announce]
    rcases htry : Workload.tryFrom decoders x with e | result
    · rw [h.announced uid y]
      have hne : (∃ result, Workload.tryFrom decoders y = .ok result) → y ≠ x := by
        rintro ⟨result, hok⟩ rfl
        cases htry.symm.trans hok
      grind
    · show Function.update (announcedBy decoders past) x.uid (some x) uid = some y ↔ _
      by_cases heq : uid = x.uid
      · subst heq
        rw [Function.update_self, Option.some.injEq, List.mem_append, List.mem_singleton,
          StateOp.insertWorkload.injEq]
        grind
      · rw [Function.update_of_ne heq, h.announced uid y]
        grind
  declared host service := by
    rw [h.tracks.declared_insertWorkload x, h.declared]
    simp

theorem Discovered.insertService (h : Discovered decoders past state) {s : XdsService}
    (hfresh : ∀ t, .insertService t ∈ past →
      (t.namespace, t.hostname) ≠ (s.namespace, s.hostname)) :
    Discovered decoders (past ++ [.insertService s]) (insertService state s).2 := by
  -- no service of the name is installed, so that no endpoint was refused by one
  have hnew : ∀ service, Service.tryFrom s = .ok service →
      state.services.getByNamespacedHost service.namespacedHostname = none := by
    intro service htry
    rw [ServiceStore.getByNamespacedHost_eq_none_iff, Option.eq_none_iff_forall_ne_some]
    intro prev hprev
    obtain ⟨t, ht, htry', hname⟩ := (h.declared _ prev).1 hprev
    rw [tryFrom_namespacedHostname htry, tryFrom_namespacedHostname htry'] at hname
    obtain ⟨hns, hhost⟩ := NamespacedHostname.mk.inj hname
    exact hfresh t ht (Prod.ext hns hhost)
  refine ⟨announcedBy_append (.insertService s) ▸ h.tracks.insertService s,
    h.complete.insertService h.tracks ?_, fun uid x ↦ ?_, fun host service ↦ ?_⟩
  · intro service prev htry hprev
    cases (hnew service htry).symm.trans hprev
  · rw [announcedBy_append, announce, h.announced]
    simp
  · simp only [List.mem_append, List.mem_singleton, StateOp.insertService.injEq, or_and_right,
      exists_or, exists_eq_left]
    rcases htry : Service.tryFrom s with e | found
    · rw [Xds.insertService, htry, h.declared]
      simp
    · have hdeclared := (h.tracks.replaces htry).declared
      have hsame : ServiceStore.declaration found = found := by
        rw [ServiceStore.declaration, ← tryFrom_endpoints htry]
      rw [hdeclared, hsame, ← h.declared]
      by_cases heq : host = found.namespacedHostname
      · subst heq
        have hnone := ServiceStore.getByNamespacedHost_eq_none_iff.1 (hnew found htry)
        rw [Function.update_self, hnone]
        simp only [Option.some.injEq, Except.ok.injEq, reduceCtorEq, false_or]
        exact ⟨fun h ↦ ⟨h, h ▸ rfl⟩, And.left⟩
      · rw [Function.update_of_ne heq]
        simp only [Except.ok.injEq, iff_self_or, and_imp]
        rintro rfl hname
        exact absurd hname.symm heq

/-- **The state after the inserts.** -/
theorem discovered_foldl (localNode : Option Strng) {ops : List StateOp}
    (hapart : ops.Pairwise StateOp.Apart) (hinserts : ∀ name, .remove name ∉ ops) :
    Discovered decoders ops (ops.foldl (applyOp decoders) (.new localNode)) := by
  induction ops using List.reverseRecOn with
  | nil => exact discovered_new localNode
  | append_singleton past op ih =>
    obtain ⟨hpast, -, hfresh⟩ := List.pairwise_append.1 hapart
    have h := ih hpast fun name hname ↦ hinserts name (List.mem_append_left _ hname)
    rw [List.foldl_append]
    cases op with
    | insertWorkload x =>
      exact h.insertWorkload fun y hy ↦ hfresh _ hy _ List.mem_cons_self
    | insertService s =>
      exact h.insertService fun t ht ↦ hfresh _ ht _ List.mem_cons_self
    | remove name => exact absurd (List.mem_append_right _ List.mem_cons_self) (hinserts name)

/-- **The table is read off the inserts**: an endpoint stands under a name for every workload that
converts, lists the name, and has a health that is admitted there. -/
theorem Discovered.endpointAt_iff (h : Discovered decoders past state)
    (hkeys : ∀ x, .insertWorkload x ∈ past → (x.services.map Prod.fst).Nodup)
    (host : NamespacedHostname) (uid : Strng) (ep : Endpoint) :
    state.services.endpointAt host uid = some ep ↔
      state.services.admits host ep.status = true ∧ ∃ x w services, .insertWorkload x ∈ past ∧
        x.uid = uid ∧ Workload.tryFrom decoders x = .ok (w, services) ∧
          Carries w services host ep := by
  constructor
  · intro hep
    obtain ⟨hadmits, x, w, services, hx, htry, hcarries⟩ := h.tracks.entry host uid ep hep
    obtain ⟨hmem, huid, -⟩ := (h.announced uid x).1 hx
    exact ⟨hadmits, x, w, services, hmem, huid, htry, hcarries⟩
  · rintro ⟨hadmits, x, w, services, hmem, huid, htry, hcarries⟩
    have hx := (h.announced uid x).2 ⟨hmem, huid, _, htry⟩
    have hlists : host ∈ w.services := by
      obtain ⟨p, hp, hparsed, -⟩ := hcarries.port
      exact ((tryFrom_fields htry).2 host).2 ⟨p, hp, hparsed⟩
    rw [hcarries.status] at hadmits
    -- some endpoint is there, and it carries what the workload announces
    obtain ⟨ep', hep'⟩ := Option.isSome_iff_exists.1 (h.complete uid w
      ((h.tracks.stored uid w).2 ⟨x, services, hx, htry⟩) host hlists hadmits)
    obtain ⟨-, x', w', services', hx', htry', hcarries'⟩ := h.tracks.entry host uid ep' hep'
    obtain rfl := Option.some.inj (hx.symm.trans hx')
    obtain ⟨rfl, rfl⟩ := Prod.mk.inj (Except.ok.inj (htry.symm.trans htry'))
    have hservices := tryFrom_services decoders htry ▸ hkeys x hmem
    rw [hep', hcarries.unique hservices hcarries']

theorem Discovered.same {past' : List StateOp} {state' : ProxyState}
    (h : Discovered decoders past state) (h' : Discovered decoders past' state')
    (hmem : ∀ op, op ∈ past ↔ op ∈ past')
    (hkeys : ∀ x, .insertWorkload x ∈ past → (x.services.map Prod.fst).Nodup)
    (host : NamespacedHostname) :
    state.services.endpointsOf host = state'.services.endpointsOf host ∧
      state.services.stagedFor host = state'.services.stagedFor host := by
  have hdeclared : state'.services.declared host = state.services.declared host := by
    refine Option.ext fun service ↦ ?_
    rw [h'.declared, h.declared]
    simp only [hmem]
  have hkeys' : ∀ x, .insertWorkload x ∈ past' → (x.services.map Prod.fst).Nodup :=
    fun x hx ↦ hkeys x ((hmem _).2 hx)
  refine h.tracks.wellStaged.same h'.tracks.wellStaged ?_ fun uid ↦ Option.ext fun ep ↦ ?_
  · rw [ServiceStore.getByNamespacedHost_eq_none_iff, ServiceStore.getByNamespacedHost_eq_none_iff,
      hdeclared]
  · rw [h.endpointAt_iff hkeys, h'.endpointAt_iff hkeys', ServiceStore.admits_congr hdeclared]
    simp only [hmem]

end Steps

/-- **Discovery does not depend on the order.** Some workloads with distinct UIDs and some services
with distinct names are inserted, each once, into an empty state. In any two orders, every service
has the same endpoints and the same endpoints are staged. The keys of the map `services` of a
workload are distinct. -/
theorem endpoints_order_independent (localNode : Option Strng) {workloads : List XdsWorkload}
    {services : List XdsService} (huids : (workloads.map (·.uid)).Nodup)
    (hnames : (services.map fun s ↦ (s.namespace, s.hostname)).Nodup)
    (hkeys : ∀ x ∈ workloads, (x.services.map Prod.fst).Nodup) {ops ops' : List StateOp}
    (hops : ops.Perm (insertions workloads services))
    (hops' : ops'.Perm (insertions workloads services)) :
    let state := ops.foldl (applyOp decoders) (.new localNode)
    let state' := ops'.foldl (applyOp decoders) (.new localNode)
    ∀ host, state.services.endpointsOf host = state'.services.endpointsOf host ∧
      state.services.stagedFor host = state'.services.stagedFor host := by
  intro state state' host
  have hdiscovered : ∀ {order : List StateOp}, order.Perm (insertions workloads services) →
      Discovered decoders order (order.foldl (applyOp decoders) (.new localNode)) := by
    intro order horder
    refine discovered_foldl localNode ?_ fun name hname ↦ ?_
    · exact (horder.pairwise_iff StateOp.Apart.symm).2 (pairwise_insertions huids hnames)
    · exact remove_notMem_insertions workloads services name (horder.mem_iff.1 hname)
  refine (hdiscovered hops).same (hdiscovered hops') (fun op ↦ ?_) (fun x hx ↦ ?_) host
  · rw [hops.mem_iff, hops'.mem_iff]
  · exact hkeys x (insertWorkload_mem_insertions (hops.mem_iff.1 hx))

/-- An unhealthy workload of a service for healthy ones only: it is staged and then refused, or
refused at once. -/
theorem endpoints_order_independent_refused :
    let staged := [.insertWorkload (sampleWorkload 1), .insertService (sampleService 0)].foldl
      (applyOp sampleDecoders) (.new none)
    let direct := [.insertService (sampleService 0), .insertWorkload (sampleWorkload 1)].foldl
      (applyOp sampleDecoders) (.new none)
    (staged.services.getByNamespacedHost ⟨"ns", "svc"⟩).isSome = true ∧
      ∀ host, staged.services.endpointsOf host = direct.services.endpointsOf host ∧
        staged.services.stagedFor host = direct.services.stagedFor host := by
  refine ⟨by decide, @endpoints_order_independent sampleDecoders none [sampleWorkload 1]
    [sampleService 0] ?_ ?_ ?_ _ _ (List.Perm.refl _) (List.Perm.swap ..)⟩
  · decide
  · decide
  · decide

end Ztunnel.Xds
