import Mathlib.Algebra.Order.BigOperators.Group.List
import Mathlib.Algebra.Order.Ring.Nat
import Mathlib.Data.List.TakeWhile
import Ztunnel.Lib.RandomChoice
import Ztunnel.State.ProxyState

/-!
# Load balancing

`ProxyState::load_balance` chooses an endpoint of a service at random, among the endpoints that can
be reached, and `find_upstream_from_service` then resolves the port. A load balancer ranks the
endpoints by how many of its scopes, from the first on, they share with the source.

The choice is an outcome of `choose_weighted` (`WeightedChoice`), which as in the source is taken
not to fail by an overflow of the sum (`sum_capacity_lt`). What it chooses from is the list of the
*preferred* endpoints (`mem_options`). The ranking does not look at the capacity, and neither it nor
the first filter looks at the ports of the endpoint, so a service with an endpoint that would do may
be left without an upstream (`upstream_available_iff`).
-/

namespace Ztunnel.State

/-! ### The functions of the source -/

/-- The `match` over the scopes: whether a workload shares the scope with the source. -/
def LoadBalancerScopes.«matches» (src wl : Workload) : LoadBalancerScopes → Bool
  | .region => src.locality.region == wl.locality.region
  | .zone => src.locality.zone == wl.locality.zone
  | .subzone => src.locality.subzone == wl.locality.subzone
  | .node => src.node == wl.node
  | .cluster => src.clusterId == wl.clusterId
  | .network => src.network == wl.network

/-- The loop that ranks a workload, with the rank so far. The first scope that is not shared ends
it. -/
def rankFrom (src wl : Workload) : ℕ → List LoadBalancerScopes → ℕ
  | rank, [] => rank
  | rank, target :: targets =>
    if target.matches src wl then rankFrom src wl (rank + 1) targets else rank

/-- The ranked endpoints. The strict mode leaves out those that do not share all scopes. -/
def LoadBalancer.ranks (lb : LoadBalancer) (src : Workload)
    (endpoints : List (Endpoint × Workload)) : List (ℕ × Endpoint × Workload) :=
  endpoints.filterMap fun (ep, wl) ↦
    let rank := rankFrom src wl 0 lb.routingPreferences
    if lb.mode = .strict ∧ rank ≠ lb.routingPreferences.length then none else some (rank, ep, wl)

/-- `UpstreamDestination`. -/
inductive UpstreamDestination where
  | upstreamParts (workload : Workload) (port : UInt16) (service : Option Service)
  | originalDestination

namespace ProxyState

/-- The endpoints of a service that can be reached, with their workloads. -/
def endpoints (state : ProxyState) (svc : Service) (svcPort : UInt16) :
    List (Endpoint × Workload) :=
  svc.endpoints.entries.filterMap fun e ↦
    match state.workloads.findUid e.2.workloadUid with
    | none => none
    | some wl =>
      if wl.workloadIps = [] ∧ wl.hostname = "" then none
      else if svc.ports svcPort = none ∧ wl.applicationTunnel = none then none
      else some (e.2, wl)

/-- The endpoints to choose from; `none` where `load_balance` returns for want of any rank. -/
def options (state : ProxyState) (src : Workload) (svc : Service) (svcPort : UInt16) :
    Option (List (Endpoint × Workload)) :=
  match svc.loadBalancer with
  | none => some (state.endpoints svc svcPort)
  | some lb =>
    if lb.mode ≠ .standard then
      let ranks := lb.ranks src (state.endpoints svc svcPort)
      (ranks.map (·.1)).max?.map fun max ↦ (ranks.filter (·.1 == max)).map (·.2)
    else some (state.endpoints svc svcPort)

/-- `ProxyState::load_balance`, for an outcome of `choose_weighted`. -/
def loadBalance (choice : WeightedChoice (Endpoint × Workload)) (state : ProxyState)
    (src : Workload) (svc : Service) (svcPort : UInt16) : Option (Endpoint × Workload) :=
  (state.options src svc svcPort).bind fun options ↦
    choice.choose options fun option ↦ option.2.capacity.toNat

/-- The port of an upstream: that of the endpoint, or of the service, or with an application tunnel
the port itself. -/
def targetPort (svc : Service) (svcPort : UInt16) (ep : Endpoint) (wl : Workload) :
    Option UInt16 :=
  let svcTargetPort := (svc.ports svcPort).getD 0
  match ep.port svcPort with
  | some epTargetPort => some epTargetPort
  | none =>
    if svcTargetPort > 0 then some svcTargetPort
    else if (wl.applicationTunnel.bind (·.port)).isSome then some svcPort
    else none

/-- `ProxyState::find_upstream_from_service`. -/
def findUpstreamFromService (choice : WeightedChoice (Endpoint × Workload)) (state : ProxyState)
    (sourceWorkload : Workload) (svcPort : UInt16) (svc : Service) : Option UpstreamDestination :=
  (state.loadBalance choice sourceWorkload svc svcPort).bind fun (ep, wl) ↦
    (targetPort svc svcPort ep wl).map fun port ↦ .upstreamParts wl port (some svc)

end ProxyState

/-! ### Ranks -/

/-- How many scopes, from the first on, a workload shares with the source. -/
def matchedScopes (scopes : List LoadBalancerScopes) (src wl : Workload) : ℕ :=
  (scopes.takeWhile (·.matches src wl)).length

theorem rankFrom_eq (src wl : Workload) (rank : ℕ) (scopes : List LoadBalancerScopes) :
    rankFrom src wl rank scopes = rank + matchedScopes scopes src wl := by
  induction scopes generalizing rank with
  | nil => rfl
  | cons scope scopes ih =>
    rw [rankFrom, matchedScopes, List.takeWhile_cons]
    split_ifs with h
    · rw [ih, List.length_cons, matchedScopes]
      omega
    · rfl

theorem matchedScopes_eq_length_iff {scopes : List LoadBalancerScopes} {src wl : Workload} :
    matchedScopes scopes src wl = scopes.length ↔
      ∀ scope ∈ scopes, scope.matches src wl = true := by
  rw [matchedScopes, ← List.takeWhile_eq_self_iff]
  refine ⟨(List.takeWhile_prefix _).eq_of_length, fun h ↦ congrArg List.length h⟩

/-- The elements of the highest rank in a list. -/
theorem mem_filter_max {α : Type} {l : List (ℕ × α)} {a : α} :
    a ∈ ((l.map (·.1)).max?.map fun max ↦ (l.filter (·.1 == max)).map (·.2)).getD [] ↔
      ∃ rank, (rank, a) ∈ l ∧ ∀ x ∈ l, x.1 ≤ rank := by
  rcases hmax : (l.map (·.1)).max? with - | max
  · have hnil : l = [] := List.map_eq_nil_iff.1 (List.max?_eq_none_iff.1 hmax)
    simp [hnil]
  · obtain ⟨hmem, hle⟩ := List.max?_eq_some_iff.1 hmax
    obtain ⟨top, htop, rfl⟩ := List.mem_map.1 hmem
    have hbound : ∀ x ∈ l, x.1 ≤ top.1 := fun x hx ↦ hle _ (List.mem_map_of_mem hx)
    simp only [hmax, Option.map_some, Option.getD_some, List.mem_map, List.mem_filter, beq_iff_eq,
      Prod.exists, exists_eq_right]
    constructor
    · exact fun ha ↦ ⟨top.1, ha, hbound⟩
    · rintro ⟨rank, ha, hrank⟩
      rwa [Nat.le_antisymm (hrank top htop) (hbound _ ha)]

/-! ### The endpoints to choose from -/

namespace ProxyState

/-- An endpoint of a service that can be reached: its workload is stored and has an address, and
the service has the port or the workload an application tunnel. -/
structure Eligible (state : ProxyState) (svc : Service) (svcPort : UInt16) (ep : Endpoint)
    (wl : Workload) : Prop where
  endpoint : ∃ key, svc.endpoints.lookup key = some ep
  stored : state.workloads.findUid ep.workloadUid = some wl
  address : wl.workloadIps ≠ [] ∨ wl.hostname ≠ ""
  port : (svc.ports svcPort).isSome = true ∨ wl.applicationTunnel.isSome = true

/-- In the strict mode, all scopes are shared. -/
def StrictlyMatches (src : Workload) (svc : Service) (wl : Workload) : Prop :=
  ∀ lb, svc.loadBalancer = some lb → lb.mode = .strict →
    ∀ scope ∈ lb.routingPreferences, scope.matches src wl = true

/-- An endpoint that is ranked, where endpoints are. -/
def Candidate (state : ProxyState) (src : Workload) (svc : Service) (svcPort : UInt16)
    (ep : Endpoint) (wl : Workload) : Prop :=
  state.Eligible svc svcPort ep wl ∧ StrictlyMatches src svc wl

/-- **The endpoints to choose from**: where endpoints are ranked, those that no other exceeds. -/
def Preferred (state : ProxyState) (src : Workload) (svc : Service) (svcPort : UInt16)
    (ep : Endpoint) (wl : Workload) : Prop :=
  state.Candidate src svc svcPort ep wl ∧
    ∀ lb, svc.loadBalancer = some lb → lb.mode ≠ .standard →
      ∀ ep' wl', state.Candidate src svc svcPort ep' wl' →
        matchedScopes lb.routingPreferences src wl' ≤ matchedScopes lb.routingPreferences src wl

variable {state : ProxyState} {src : Workload} {svc : Service} {svcPort : UInt16} {ep : Endpoint}
  {wl : Workload}

theorem mem_endpoints :
    (ep, wl) ∈ state.endpoints svc svcPort ↔ state.Eligible svc svcPort ep wl := by
  rw [endpoints, List.mem_filterMap]
  constructor
  · rintro ⟨⟨key, ep'⟩, hmem, hfound⟩
    split at hfound
    · cases hfound
    · next wl' hstored =>
      split_ifs at hfound with haddress hport
      obtain ⟨rfl, rfl⟩ := Prod.mk.inj (Option.some.inj hfound)
      refine ⟨⟨key, AList.mem_lookup_iff.2 hmem⟩, hstored, not_and_or.1 haddress, ?_⟩
      simpa only [Option.isSome_iff_ne_none] using not_and_or.1 hport
  · rintro ⟨⟨key, hkey⟩, hstored, haddress, hport⟩
    refine ⟨⟨key, ep⟩, AList.mem_lookup_iff.1 hkey, ?_⟩
    simp only [Option.isSome_iff_ne_none] at hport
    simp only [hstored]
    rw [if_neg (not_and_or.2 haddress), if_neg (not_and_or.2 hport)]

theorem mem_ranks {lb : LoadBalancer} (hlb : svc.loadBalancer = some lb) {rank : ℕ} :
    (rank, ep, wl) ∈ lb.ranks src (state.endpoints svc svcPort) ↔
      state.Candidate src svc svcPort ep wl ∧
        rank = matchedScopes lb.routingPreferences src wl := by
  have hstrict : StrictlyMatches src svc wl ↔ ¬(lb.mode = .strict ∧
      matchedScopes lb.routingPreferences src wl ≠ lb.routingPreferences.length) := by
    rw [StrictlyMatches, hlb, not_and_not_right, matchedScopes_eq_length_iff]
    simp
  rw [LoadBalancer.ranks, List.mem_filterMap, Candidate, hstrict]
  simp only [rankFrom_eq, Nat.zero_add, Prod.exists, mem_endpoints, Option.ite_none_left_eq_some,
    Option.some.injEq, Prod.mk.injEq]
  constructor
  · rintro ⟨ep', wl', heligible, hmatches, rfl, rfl, rfl⟩
    exact ⟨⟨heligible, hmatches⟩, rfl⟩
  · rintro ⟨⟨heligible, hmatches⟩, rfl⟩
    exact ⟨ep, wl, heligible, hmatches, rfl, rfl, rfl⟩

/-- **What the choice is made from.** -/
theorem mem_options :
    (ep, wl) ∈ (state.options src svc svcPort).getD [] ↔
      state.Preferred src svc svcPort ep wl := by
  have hplain : (∀ lb, svc.loadBalancer = some lb → lb.mode = .standard) →
      ((ep, wl) ∈ state.endpoints svc svcPort ↔ state.Preferred src svc svcPort ep wl) := by
    intro hstandard
    rw [mem_endpoints]
    refine ⟨fun h ↦ ⟨⟨h, fun lb hlb hstrict ↦ ?_⟩, fun lb hlb hne ↦ ?_⟩, fun h ↦ h.1.1⟩
    · rw [hstandard lb hlb] at hstrict
      cases hstrict
    · exact absurd (hstandard lb hlb) hne
  rw [options]
  rcases hlb : svc.loadBalancer with - | lb
  · exact hplain fun lb hlb' ↦ nomatch hlb.symm.trans hlb'
  by_cases hmode : lb.mode = .standard
  · simp only [hmode, ne_eq, not_true_eq_false, if_false, Option.getD_some]
    refine hplain fun lb' hlb' ↦ ?_
    obtain rfl := Option.some.inj (hlb.symm.trans hlb')
    exact hmode
  · simp only [ne_eq, hmode, not_false_eq_true, if_true]
    rw [mem_filter_max]
    constructor
    · rintro ⟨rank, hmem, hmax⟩
      obtain ⟨hcandidate, rfl⟩ := (mem_ranks hlb).1 hmem
      refine ⟨hcandidate, fun lb' hlb' _ ep' wl' hother ↦ ?_⟩
      obtain rfl := Option.some.inj (hlb.symm.trans hlb')
      exact hmax _ ((mem_ranks hlb).2 ⟨hother, rfl⟩)
    · rintro ⟨hcandidate, hmax⟩
      refine ⟨_, (mem_ranks hlb).2 ⟨hcandidate, rfl⟩, ?_⟩
      rintro ⟨rank, ep', wl'⟩ hmem
      obtain ⟨hother, rfl⟩ := (mem_ranks hlb).1 hmem
      exact hmax lb hlb hmode ep' wl' hother

theorem loadBalance_eq (choice : WeightedChoice (Endpoint × Workload)) :
    state.loadBalance choice src svc svcPort =
      choice.choose ((state.options src svc svcPort).getD []) fun option ↦
        option.2.capacity.toNat := by
  rw [loadBalance]
  rcases state.options src svc svcPort with - | options
  · exact (choice.choose_eq_none_iff.2 (by simp)).symm
  · rfl

theorem length_options_le (state : ProxyState) (src : Workload) (svc : Service) (svcPort : UInt16) :
    ((state.options src svc svcPort).getD []).length ≤ svc.endpoints.entries.length := by
  have hendpoints : (state.endpoints svc svcPort).length ≤ svc.endpoints.entries.length :=
    List.length_filterMap_le ..
  unfold options
  split
  · exact hendpoints
  · next lb _ =>
    have hbest (best : Option ℕ) : ((best.map fun max ↦ ((lb.ranks src
        (state.endpoints svc svcPort)).filter (·.1 == max)).map (·.2)).getD []).length ≤
          svc.endpoints.entries.length := by
      rcases best with - | max
      · exact Nat.zero_le _
      · rw [Option.map_some, Option.getD_some, List.length_map]
        exact (List.length_filter_le ..).trans ((List.length_filterMap_le ..).trans hendpoints)
    split
    · exact hbest _
    · exact hendpoints

/-- **The sum of the weights fits a `u64`** unless a service has more than `2 ^ 32` endpoints. -/
theorem sum_capacity_lt (state : ProxyState) (src : Workload) {svc : Service} (svcPort : UInt16)
    (hsize : svc.endpoints.entries.length ≤ 2 ^ 32) :
    (((state.options src svc svcPort).getD []).map fun option ↦ option.2.capacity.toNat).sum <
      2 ^ 64 := by
  have hlength := (state.length_options_le src svc svcPort).trans hsize
  have hsum := List.sum_le_card_nsmul
    (((state.options src svc svcPort).getD []).map fun option ↦ option.2.capacity.toNat)
    (2 ^ 32 - 1) (by
      simp only [List.forall_mem_map]
      exact fun option _ ↦ Nat.le_pred_of_lt option.2.capacity.toNat_lt)
  rw [List.length_map, Nat.nsmul_eq_mul] at hsum
  omega

theorem preferred_of_loadBalance {choice : WeightedChoice (Endpoint × Workload)}
    (h : state.loadBalance choice src svc svcPort = some (ep, wl)) :
    state.Preferred src svc svcPort ep wl ∧ wl.capacity ≠ 0 := by
  rw [loadBalance_eq] at h
  refine ⟨mem_options.1 (choice.mem h), fun hzero ↦ ?_⟩
  have hpos := choice.pos h
  rw [hzero] at hpos
  cases hpos

/-- **Load-balancing choice.** Whatever the outcome of the random choice, what is chosen is an
endpoint of the service whose workload is stored and has an IP or a hostname; the service has the
port or the workload an application tunnel; in the strict mode the workload shares all scopes with
the source, and in the failover mode no endpoint that can be reached shares more of them from the
first on; and its capacity is not zero. -/
theorem loadBalance_choice (choice : WeightedChoice (Endpoint × Workload)) (state : ProxyState)
    (src : Workload) (svc : Service) (svcPort : UInt16) {ep : Endpoint} {wl : Workload}
    (h : state.loadBalance choice src svc svcPort = some (ep, wl)) :
    (∃ key, svc.endpoints.lookup key = some ep) ∧
    state.workloads.findUid ep.workloadUid = some wl ∧
    (wl.workloadIps ≠ [] ∨ wl.hostname ≠ "") ∧
    ((svc.ports svcPort).isSome = true ∨ wl.applicationTunnel.isSome = true) ∧
    (∀ lb, svc.loadBalancer = some lb → lb.mode = .strict →
      ∀ scope ∈ lb.routingPreferences, scope.matches src wl = true) ∧
    (∀ lb, svc.loadBalancer = some lb → lb.mode = .failover →
      ∀ ep' wl', state.Eligible svc svcPort ep' wl' →
        matchedScopes lb.routingPreferences src wl' ≤
          matchedScopes lb.routingPreferences src wl) ∧
    wl.capacity ≠ 0 := by
  obtain ⟨⟨⟨heligible, hstrict⟩, hmax⟩, hcapacity⟩ := preferred_of_loadBalance h
  refine ⟨heligible.endpoint, heligible.stored, heligible.address, heligible.port, hstrict,
    fun lb hlb hfailover ep' wl' hother ↦ ?_, hcapacity⟩
  have hmode : lb.mode ≠ .standard ∧ lb.mode ≠ .strict := by simp [hfailover]
  refine hmax lb hlb hmode.1 ep' wl' ⟨hother, fun lb' hlb' hstrict' ↦ ?_⟩
  obtain rfl := Option.some.inj (hlb.symm.trans hlb')
  exact absurd hstrict' hmode.2

end ProxyState

/-! ### Two endpoints, one of them near -/

/-- A pod with an IP, in a region. -/
def regionalPod (uid region : Strng) (capacity : UInt32) : Workload where
  workloadIps := [.v4 0x0a000001]
  waypoint := none
  protocol := .hbone
  networkMode := .standard
  uid := uid
  name := uid
  «namespace» := "ns"
  trustDomain := "cluster.local"
  serviceAccount := "default"
  network := ""
  hostname := ""
  node := "node"
  nativeTunnel := false
  applicationTunnel := none
  status := .healthy
  clusterId := "Kubernetes"
  locality := ⟨region, "", ""⟩
  services := []
  capacity := capacity
  trafficPolicyRefs := none

/-- A service that prefers endpoints of the region of the source. -/
def regionalService : Service where
  name := "svc"
  «namespace» := "ns"
  hostname := "svc"
  vips := []
  ports := fun port ↦ if port = 80 then some 8080 else none
  endpoints := ((∅ : EndpointSet).insert "far" ⟨"far", fun _ ↦ none, .healthy⟩).insert "near"
    ⟨"near", fun _ ↦ none, .healthy⟩
  subjectAltNames := []
  waypoint := none
  loadBalancer := some ⟨[.region], .failover, .onlyHealthy⟩
  ipFamilies := none
  canonical := false

/-- The near pod has the given capacity, the far one a capacity of one. -/
def regionalState (capacity : UInt32) : ProxyState :=
  { ProxyState.new none with
    workloads := ((WorkloadStore.new none).insert (regionalPod "near" "here" capacity)).insert
      (regionalPod "far" "there" 1) }

namespace ProxyState

theorem loadBalance_choice_near :
    ∃ ep, (regionalState 1).loadBalance (.ofDraw 0) (regionalPod "client" "here" 1)
        regionalService 80 = some (ep, regionalPod "near" "here" 1) ∧
      ∀ ep' wl', (regionalState 1).Eligible regionalService 80 ep' wl' →
        matchedScopes [.region] (regionalPod "client" "here" 1) wl' ≤ 1 := by
  have hchosen : (regionalState 1).loadBalance (.ofDraw 0) (regionalPod "client" "here" 1)
      regionalService 80 = some (⟨"near", fun _ ↦ none, .healthy⟩, regionalPod "near" "here" 1) :=
    rfl
  obtain ⟨-, -, -, -, -, hmax, -⟩ := loadBalance_choice _ _ _ _ _ hchosen
  exact ⟨_, hchosen, hmax _ rfl rfl⟩

/-! ### Availability -/

/-- The port of an upstream can be resolved: the endpoint maps it, the service has a port for it
that is not zero, or there is an application tunnel with a port. -/
def ResolvablePort (svc : Service) (svcPort : UInt16) (ep : Endpoint) (wl : Workload) : Prop :=
  (ep.port svcPort).isSome = true ∨ (∃ port, svc.ports svcPort = some port ∧ port ≠ 0) ∨
    (wl.applicationTunnel.bind (·.port)).isSome = true

/-- An endpoint that would do. -/
structure Available (state : ProxyState) (src : Workload) (svc : Service) (svcPort : UInt16)
    (ep : Endpoint) (wl : Workload) : Prop where
  endpoint : ∃ key, svc.endpoints.lookup key = some ep
  stored : state.workloads.findUid ep.workloadUid = some wl
  address : wl.workloadIps ≠ [] ∨ wl.hostname ≠ ""
  capacity : wl.capacity ≠ 0
  strict : StrictlyMatches src svc wl
  port : ResolvablePort svc svcPort ep wl

variable {state : ProxyState} {src : Workload} {svc : Service} {svcPort : UInt16} {ep : Endpoint}
  {wl : Workload}

theorem targetPort_isSome :
    (targetPort svc svcPort ep wl).isSome = true ↔ ResolvablePort svc svcPort ep wl := by
  have hservice : (svc.ports svcPort).getD 0 > 0 ↔ ∃ port, svc.ports svcPort = some port ∧
      port ≠ 0 := by
    rcases svc.ports svcPort with - | port
    · simp
    · simp [UInt16.pos_iff_ne_zero]
  rw [targetPort, ResolvablePort, ← hservice]
  rcases ep.port svcPort with - | epTargetPort
  · dsimp only
    split_ifs with hport htunnel
    · simp [hport]
    · simp [htunnel]
    · simp [hport, htunnel]
  · simp

theorem toNat_capacity_pos : 0 < wl.capacity.toNat ↔ wl.capacity ≠ 0 := by
  rw [Nat.pos_iff_ne_zero, Ne, Ne, ← UInt32.toNat_inj]
  rfl

/-- **An upstream is found whatever is chosen** if and only if something can be chosen, and the port
of whatever can be chosen can be resolved. -/
theorem findUpstreamFromService_isSome_iff :
    (∀ choice, (state.findUpstreamFromService choice src svcPort svc).isSome = true) ↔
      (∃ ep wl, state.Preferred src svc svcPort ep wl ∧ wl.capacity ≠ 0) ∧
        ∀ ep wl, state.Preferred src svc svcPort ep wl → wl.capacity ≠ 0 →
          ResolvablePort svc svcPort ep wl := by
  constructor
  · intro hall
    constructor
    · obtain ⟨upstream, hupstream⟩ := Option.isSome_iff_exists.1 (hall (.ofDraw 0))
      obtain ⟨⟨ep, wl⟩, hchosen, -⟩ := Option.bind_eq_some_iff.1 hupstream
      exact ⟨ep, wl, preferred_of_loadBalance hchosen⟩
    · intro ep wl hpreferred hcapacity
      -- each of the endpoints is the outcome of some choice
      obtain ⟨choice, hchosen⟩ : ∃ choice : WeightedChoice (Endpoint × Workload),
          choice.choose ((state.options src svc svcPort).getD []) (·.2.capacity.toNat) =
            some (ep, wl) :=
        WeightedChoice.exists_choose_eq (mem_options.2 hpreferred) (toNat_capacity_pos.2 hcapacity)
      have hsome := hall choice
      rw [← loadBalance_eq] at hchosen
      rwa [findUpstreamFromService, hchosen, Option.bind_some, Option.isSome_map,
        targetPort_isSome] at hsome
  · rintro ⟨⟨ep, wl, hpreferred, hcapacity⟩, hport⟩ choice
    have hsum : 0 < (((state.options src svc svcPort).getD []).map fun option ↦
        option.2.capacity.toNat).sum :=
      WeightedChoice.sum_pos_iff.2 ⟨(ep, wl), mem_options.2 hpreferred,
        toNat_capacity_pos.2 hcapacity⟩
    obtain ⟨⟨ep', wl'⟩, hchosen⟩ := Option.isSome_iff_exists.1 (choice.isSome hsum)
    rw [← loadBalance_eq] at hchosen
    obtain ⟨hpreferred', hcapacity'⟩ := preferred_of_loadBalance hchosen
    rw [findUpstreamFromService, hchosen, Option.bind_some, Option.isSome_map, targetPort_isSome]
    exact hport ep' wl' hpreferred' hcapacity'

/-- **Upstream availability.** That a service with an available endpoint has an upstream, whatever
is chosen, holds exactly if one of the preferred endpoints has a capacity, and each of them that has
one has a port that can be resolved. -/
theorem upstream_available_iff (state : ProxyState) (src : Workload) (svc : Service)
    (svcPort : UInt16) :
    ((∃ ep wl, state.Available src svc svcPort ep wl) →
      ∀ choice, (state.findUpstreamFromService choice src svcPort svc).isSome = true) ↔
    ((∃ ep wl, state.Available src svc svcPort ep wl) →
      (∃ ep wl, state.Preferred src svc svcPort ep wl ∧ wl.capacity ≠ 0) ∧
        ∀ ep wl, state.Preferred src svc svcPort ep wl → wl.capacity ≠ 0 →
          ResolvablePort svc svcPort ep wl) :=
  imp_congr_right fun _ ↦ findUpstreamFromService_isSome_iff

/-- The near pod has no capacity. The far one would do, but is never chosen. -/
theorem near_pod_without_capacity :
    (∃ ep wl, (regionalState 0).Available (regionalPod "client" "here" 1) regionalService 80 ep
      wl) ∧
    ∀ choice, (regionalState 0).findUpstreamFromService choice (regionalPod "client" "here" 1) 80
      regionalService = none := by
  have hoptions : (regionalState 0).options (regionalPod "client" "here" 1) regionalService 80 =
      some [(⟨"near", fun _ ↦ none, .healthy⟩, regionalPod "near" "here" 0)] :=
    rfl
  have hstrict : StrictlyMatches (regionalPod "client" "here" 1) regionalService
      (regionalPod "far" "there" 1) := by
    intro lb hlb hmode
    obtain rfl := Option.some.inj hlb
    cases hmode
  constructor
  · exact ⟨⟨"far", fun _ ↦ none, .healthy⟩, regionalPod "far" "there" 1, ⟨"far", rfl⟩, rfl,
      .inl (List.cons_ne_nil _ _), by decide, hstrict, .inr (.inl ⟨8080, rfl, by decide⟩)⟩
  · intro choice
    have hnone : (regionalState 0).loadBalance choice (regionalPod "client" "here" 1)
        regionalService 80 = none := by
      rw [loadBalance_eq, hoptions, choice.choose_eq_none_iff]
      simp [regionalPod]
    rw [findUpstreamFromService, hnone, Option.bind_none]

end ProxyState

end Ztunnel.State
