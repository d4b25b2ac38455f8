import Ztunnel.State.Destination
import Ztunnel.State.LoadBalance

/-!
# The address of an upstream

`DemandProxyState::fetch_waypoint` and what it calls: `find_upstream` chooses a workload, through a
service or by its own address, and `finalize_upstream` selects the IP to connect to. That IP is the
one that was asked for if the workload has it, else one of the IPs of the workload, else one that
its hostname resolves to.

The service may restrict the family of the IP. Only the second of the three ways looks at the
restriction (`ipFamily_respected_iff`).

Parameters are the outcomes of the random choices, the replies of the resolver, and the order in
which the workloads are searched by hostname. `none` stands for a panic, outside of the result of
the source.
-/

namespace Ztunnel

/-- `IpAddr::is_ipv6`. -/
def IpAddr.isIpv6 : IpAddr → Bool
  | v4 _ => false
  | v6 _ => true

end Ztunnel

namespace Ztunnel.State

/-- `IpFamily::accepts_ip`. -/
def IpFamily.acceptsIp : IpFamily → IpAddr → Bool
  | .dual, _ => true
  | .ipv4, ip => ip.isIpv4
  | .ipv6, ip => ip.isIpv6

/-- `Upstream`. -/
structure Upstream where
  workload : Workload
  selectedWorkloadIp : IpAddr
  port : UInt16
  serviceSans : List Strng

namespace Upstream

/-- The values of `proxy::Error` that occur here. -/
inductive Error where
  /-- `unknown waypoint: waypoint {0} not found`, for a hostname. -/
  | unknownWaypointHostname (hostname : Strng)
  /-- `unknown waypoint: waypoint {0} not found`, for what the reference leads to. -/
  | unknownWaypoint (gwAddress : GatewayAddress)
  /-- `no valid routing destination for workload: {0}` -/
  | noValidDestination (workload : Workload)
  /-- `no ip addresses were resolved for workload: {0}` -/
  | noResolvedAddresses (uid : Strng)
  /-- `ip addresses were resolved for workload {0}, but valid dns response had no A/AAAA records` -/
  | emptyResolvedAddresses (uid : Strng)
deriving DecidableEq, Repr

end Upstream

open Upstream (Error)

/-! ### The functions of the source -/

/-- `Itertools::find_or_first`. -/
def findOrFirst {α : Type} (p : α → Bool) (l : List α) : Option α := (l.find? p).or l.head?

section Finalize

variable (lookupIp : Strng → Except Unit (List IpAddr)) (choice : UniformChoice IpAddr)

/-- `resolve_on_demand_dns`, behind `resolve_workload_address`. -/
def resolveWorkloadAddress (workload : Workload) (originalTargetAddress : SocketAddr) :
    Except Error IpAddr :=
  match lookupIp workload.hostname with
  | .error () => .error (.noResolvedAddresses workload.uid)
  | .ok resp =>
    let (matching, unmatching) := resp.partition fun record ↦
      record.isIpv6 == originalTargetAddress.ip.isIpv6
    match (choice.choose matching).or (choice.choose unmatching) with
    | some ip => .ok ip
    | none => .error (.emptyResolvedAddresses workload.uid)

/-- `pick_workload_destination_or_resolve`. -/
def pickWorkloadDestinationOrResolve (dstWorkload : Workload) (originalTargetAddress : SocketAddr)
    (ipFamilyRestriction : Option IpFamily) : Except Error IpAddr :=
  if originalTargetAddress.ip ∈ dstWorkload.workloadIps then .ok originalTargetAddress.ip
  else
    let suitable := dstWorkload.workloadIps.filter fun ip ↦
      (ipFamilyRestriction.map (·.acceptsIp ip)).getD true
    match findOrFirst (fun ip ↦ ip.isIpv6 == originalTargetAddress.ip.isIpv6) suitable with
    | some ip => .ok ip
    | none =>
      if dstWorkload.hostname = "" then .error (.noValidDestination dstWorkload)
      else resolveWorkloadAddress lookupIp choice dstWorkload originalTargetAddress

/-- `finalize_upstream`. The source workload only labels a metric. -/
def finalizeUpstream (originalTargetAddress : SocketAddr) :
    Option UpstreamDestination → Except Error (Option Upstream)
  | none | some .originalDestination => .ok none
  | some (.upstreamParts wl port svc) => do
    let ip ← pickWorkloadDestinationOrResolve lookupIp choice wl originalTargetAddress
      (svc.bind (·.ipFamilies))
    pure (some ⟨wl, ip, port, (svc.map (·.subjectAltNames)).getD []⟩)

end Finalize

namespace ProxyState

variable (balance : WeightedChoice (Endpoint × Workload))

/-- `ProxyState::find_upstream`. -/
def findUpstream (state : ProxyState) (network : Strng) (sourceWorkload : Workload)
    (addr : SocketAddr) : Option (Option UpstreamDestination) :=
  match state.services.getByVip ⟨network, addr.ip⟩ with
  | some svc =>
    if (svc.loadBalancer.map (·.mode)) = some .passthrough then some (some .originalDestination)
    else some (state.findUpstreamFromService balance sourceWorkload addr.port svc)
  | none => do
    let wl ← state.workloads.findAddress ⟨network, addr.ip⟩
    return wl.map fun wl ↦ .upstreamParts wl addr.port none

/-- `DemandProxyState::fetch_waypoint`. -/
def fetchWaypoint (lookupIp : Strng → Except Unit (List IpAddr)) (choice : UniformChoice IpAddr)
    (order : WorkloadStore → List Strng) (state : ProxyState) (gwAddress : GatewayAddress)
    (sourceWorkload : Workload) (originalDestinationAddress : SocketAddr) :
    Option (Except Error Upstream) :=
  let finalize (targetAddress : SocketAddr) (res : Option UpstreamDestination) :
      Except Error Upstream := do
    match ← finalizeUpstream lookupIp choice targetAddress res with
    | some upstream => pure upstream
    | none => throw (.unknownWaypoint gwAddress)
  match gwAddress.destination with
  | .address ip => do
    let addr : SocketAddr := ⟨ip.address, gwAddress.hboneMtlsPort⟩
    let us ← state.findUpstream balance ip.network sourceWorkload addr
    return finalize addr us
  | .hostname host =>
    match state.findHostname order host with
    | some (.service s) =>
      some (finalize originalDestinationAddress
        (state.findUpstreamFromService balance sourceWorkload gwAddress.hboneMtlsPort s))
    | some (.workload w) =>
      some (finalize originalDestinationAddress
        (some (.upstreamParts w gwAddress.hboneMtlsPort none)))
    | none => some (.error (.unknownWaypointHostname host.hostname))

end ProxyState

/-! ### Which addresses are selected -/

theorem mem_of_findOrFirst {α : Type} {p : α → Bool} {l : List α} {a : α}
    (h : findOrFirst p l = some a) : a ∈ l := by
  rcases Option.or_eq_some_iff.1 h with hfind | ⟨-, hhead⟩
  · exact List.mem_of_find?_eq_some hfind
  · exact List.mem_of_head? hhead

theorem findOrFirst_eq_none {α : Type} {p : α → Bool} {l : List α} :
    findOrFirst p l = none ↔ l = [] := by
  rw [findOrFirst, Option.or_eq_none_iff, List.head?_eq_none_iff]
  exact and_iff_right_of_imp fun h ↦ h ▸ rfl

/-- The resolved addresses to choose from: those of the family that was asked for, if any. -/
def resolvedFor (target : SocketAddr) (resp : List IpAddr) : List IpAddr :=
  let matching := resp.filter fun record ↦ record.isIpv6 == target.ip.isIpv6
  if matching = [] then resp else matching

/-- The IPs of a workload that a restriction accepts. -/
def suitableIps (restriction : Option IpFamily) (wl : Workload) : List IpAddr :=
  wl.workloadIps.filter fun ip ↦ (restriction.map (·.acceptsIp ip)).getD true

/-- **The addresses that some choice selects**: the one that was asked for, or one of the workload
that is suitable, or one that was resolved. -/
inductive Selectable (lookupIp : Strng → Except Unit (List IpAddr)) (wl : Workload)
    (target : SocketAddr) (restriction : Option IpFamily) : IpAddr → Prop
  | requested (h : target.ip ∈ wl.workloadIps) : Selectable lookupIp wl target restriction target.ip
  | own {ip : IpAddr} (h : target.ip ∉ wl.workloadIps)
      (hip : findOrFirst (fun ip ↦ ip.isIpv6 == target.ip.isIpv6) (suitableIps restriction wl) =
        some ip) : Selectable lookupIp wl target restriction ip
  | resolved {ip : IpAddr} {resp : List IpAddr} (h : target.ip ∉ wl.workloadIps)
      (hnone : suitableIps restriction wl = []) (hhostname : wl.hostname ≠ "")
      (hresp : lookupIp wl.hostname = .ok resp) (hip : ip ∈ resolvedFor target resp) :
      Selectable lookupIp wl target restriction ip

section Selectable

variable {lookupIp : Strng → Except Unit (List IpAddr)} {choice : UniformChoice IpAddr}
  {wl : Workload} {target : SocketAddr} {restriction : Option IpFamily} {ip : IpAddr}

/-- One choice, among the addresses to choose from, is as good as two. -/
theorem choose_resolvedFor (resp : List IpAddr) :
    (choice.choose (resp.partition fun r ↦ r.isIpv6 == target.ip.isIpv6).1).or
        (choice.choose (resp.partition fun r ↦ r.isIpv6 == target.ip.isIpv6).2) =
      choice.choose (resolvedFor target resp) := by
  rw [List.partition_eq_filter_filter, resolvedFor]
  dsimp only
  split_ifs with hnil
  · have hall : resp.filter (not ∘ fun r ↦ r.isIpv6 == target.ip.isIpv6) = resp := by
      refine List.filter_eq_self.2 fun r hr ↦ ?_
      have hr' := List.filter_eq_nil_iff.1 hnil r hr
      simpa using hr'
    rw [hnil, choice.choose_eq_none_iff.2 rfl, Option.none_or, hall]
  · obtain ⟨r, hr⟩ := Option.isSome_iff_exists.1 (choice.isSome hnil)
    rw [hr, Option.some_or]

theorem resolveWorkloadAddress_eq_ok :
    resolveWorkloadAddress lookupIp choice wl target = .ok ip ↔
      ∃ resp, lookupIp wl.hostname = .ok resp ∧
        choice.choose (resolvedFor target resp) = some ip := by
  rw [resolveWorkloadAddress]
  rcases lookupIp wl.hostname with ⟨⟩ | resp
  · simp
  · simp only [choose_resolvedFor, Except.ok.injEq, exists_eq_left']
    rcases choice.choose (resolvedFor target resp) with - | r <;> simp

theorem pick_requested (h : target.ip ∈ wl.workloadIps) :
    pickWorkloadDestinationOrResolve lookupIp choice wl target restriction = .ok target.ip :=
  if_pos h

/-- What happens to an address that is not one of the workload. -/
theorem pick_other (h : target.ip ∉ wl.workloadIps) :
    pickWorkloadDestinationOrResolve lookupIp choice wl target restriction =
      match findOrFirst (fun ip ↦ ip.isIpv6 == target.ip.isIpv6) (suitableIps restriction wl) with
      | some ip => .ok ip
      | none =>
        if wl.hostname = "" then .error (.noValidDestination wl)
        else resolveWorkloadAddress lookupIp choice wl target :=
  if_neg h

theorem selectable_of_pick
    (h : pickWorkloadDestinationOrResolve lookupIp choice wl target restriction = .ok ip) :
    Selectable lookupIp wl target restriction ip := by
  by_cases hrequested : target.ip ∈ wl.workloadIps
  · rw [pick_requested hrequested] at h
    obtain rfl := Except.ok.inj h
    exact .requested hrequested
  rw [pick_other hrequested] at h
  split at h
  · next hown =>
    obtain rfl := Except.ok.inj h
    exact .own hrequested hown
  · next hnone =>
    split_ifs at h with hhostname
    obtain ⟨resp, hresp, hip⟩ := resolveWorkloadAddress_eq_ok.1 h
    exact .resolved hrequested (findOrFirst_eq_none.1 hnone) hhostname hresp (choice.mem hip)

theorem Selectable.exists_pick (h : Selectable lookupIp wl target restriction ip) :
    ∃ choice, pickWorkloadDestinationOrResolve lookupIp choice wl target restriction = .ok ip := by
  cases h with
  | requested h => exact ⟨.ofDraw 0, pick_requested h⟩
  | own h hip =>
    refine ⟨.ofDraw 0, ?_⟩
    rw [pick_other h, hip]
  | resolved h hnone hhostname hresp hip =>
    obtain ⟨choice, hchosen⟩ := UniformChoice.exists_choose_eq hip
    refine ⟨choice, ?_⟩
    rw [pick_other h, findOrFirst_eq_none.2 hnone]
    dsimp only
    rw [if_neg hhostname]
    exact resolveWorkloadAddress_eq_ok.2 ⟨_, hresp, hchosen⟩

/-! ### The restriction -/

variable {family : IpFamily}

/-- A family that restricts accepts the addresses of one kind. -/
theorem acceptsIp_eq (hfamily : family ≠ .dual) :
    ∃ v6, ∀ ip, family.acceptsIp ip = (ip.isIpv6 == v6) := by
  cases family with
  | dual => exact absurd rfl hfamily
  | ipv4 => exact ⟨false, fun ip ↦ by cases ip <;> rfl⟩
  | ipv6 => exact ⟨true, fun ip ↦ by cases ip <;> rfl⟩

/-- The addresses to choose from are accepted exactly if all resolved ones are, or if the address
that was asked for is and one of the resolved ones is. -/
theorem forall_resolvedFor_iff {resp : List IpAddr} :
    (∀ ip ∈ resolvedFor target resp, family.acceptsIp ip = true) ↔
      (∀ ip ∈ resp, family.acceptsIp ip = true) ∨
        family.acceptsIp target.ip = true ∧ ∃ ip ∈ resp, family.acceptsIp ip = true := by
  by_cases hdual : family = .dual
  · subst hdual
    exact ⟨fun _ ↦ .inl fun _ _ ↦ rfl, fun _ _ _ ↦ rfl⟩
  obtain ⟨v6, hv6⟩ := acceptsIp_eq hdual
  simp only [hv6, beq_iff_eq, resolvedFor]
  by_cases htarget : target.ip.isIpv6 = v6
  · rw [htarget]
    split_ifs with hnil
    · have hnone : ¬∃ ip ∈ resp, ip.isIpv6 = v6 := by
        simpa [List.filter_eq_nil_iff] using hnil
      simp [hnone]
    · have hsome : ∃ ip ∈ resp, ip.isIpv6 = v6 := by
        simpa [List.filter_eq_nil_iff] using hnil
      simp [hsome]
  · split_ifs with hnil
    · simp [htarget]
    · obtain ⟨r, hr, hother⟩ : ∃ r ∈ resp, r.isIpv6 = target.ip.isIpv6 := by
        simpa [List.filter_eq_nil_iff] using hnil
      have hv : r.isIpv6 ≠ v6 := hother ▸ htarget
      refine ⟨fun h ↦ ?_, ?_⟩
      · exact absurd (h r (List.mem_filter.2 ⟨hr, by simpa using hother⟩)) hv
      · rintro (h | h)
        · exact absurd (h r hr) hv
        · exact absurd h.1 htarget

/-- No address that the workload has, or that its hostname resolves to, is accepted. -/
def NoneAcceptable (lookupIp : Strng → Except Unit (List IpAddr)) (wl : Workload)
    (family : IpFamily) : Prop :=
  (∀ ip ∈ wl.workloadIps, family.acceptsIp ip = false) ∧
    (wl.hostname ≠ "" → ∀ resp, lookupIp wl.hostname = .ok resp →
      ∀ ip ∈ resp, family.acceptsIp ip = false)

theorem mem_suitableIps : ip ∈ suitableIps (some family) wl ↔
    ip ∈ wl.workloadIps ∧ family.acceptsIp ip = true :=
  List.mem_filter

theorem suitableIps_eq_nil : suitableIps (some family) wl = [] ↔
    ∀ ip ∈ wl.workloadIps, family.acceptsIp ip = false := by
  simp [suitableIps, List.filter_eq_nil_iff]

theorem mem_of_mem_resolvedFor {resp : List IpAddr} (h : ip ∈ resolvedFor target resp) :
    ip ∈ resp := by
  rw [resolvedFor] at h
  split_ifs at h
  · exact h
  · exact List.mem_of_mem_filter h

/-- If no address is acceptable, none that can be selected is accepted. -/
theorem Selectable.acceptsIp_eq_false (h : Selectable lookupIp wl target restriction ip)
    (hnone : NoneAcceptable lookupIp wl family) (hr : restriction = some family) :
    family.acceptsIp ip = false := by
  subst hr
  cases h with
  | requested h => exact hnone.1 _ h
  | own h hip => exact hnone.1 ip (mem_suitableIps.1 (mem_of_findOrFirst hip)).1
  | resolved h hempty hhostname hresp hip =>
    exact hnone.2 hhostname _ hresp ip (mem_of_mem_resolvedFor hip)

/-- **When every address that can be selected is accepted**: the address that was asked for is, if
it is selected; and so is every resolved address that can be, if one has to be resolved. -/
theorem forall_selectable_iff :
    (∀ ip, Selectable lookupIp wl target (some family) ip → family.acceptsIp ip = true) ↔
      (target.ip ∈ wl.workloadIps → family.acceptsIp target.ip = true) ∧
      (target.ip ∉ wl.workloadIps → (∀ ip ∈ wl.workloadIps, family.acceptsIp ip = false) →
        wl.hostname ≠ "" → ∀ resp, lookupIp wl.hostname = .ok resp →
          (∀ ip ∈ resp, family.acceptsIp ip = true) ∨
            family.acceptsIp target.ip = true ∧ ∃ ip ∈ resp, family.acceptsIp ip = true) := by
  constructor
  · intro hall
    refine ⟨fun h ↦ hall _ (.requested h), fun h hnone hhostname resp hresp ↦ ?_⟩
    refine forall_resolvedFor_iff.1 fun ip hip ↦ hall ip ?_
    exact .resolved h (suitableIps_eq_nil.2 hnone) hhostname hresp hip
  · rintro ⟨hrequested, hresolved⟩ ip hip
    cases hip with
    | requested h => exact hrequested h
    | own h hip => exact (mem_suitableIps.1 (mem_of_findOrFirst hip)).2
    | resolved h hnone hhostname hresp hip =>
      exact forall_resolvedFor_iff.2
        (hresolved h (suitableIps_eq_nil.1 hnone) hhostname _ hresp) ip hip

theorem finalizeUpstream_service (port : UInt16) (svc : Service) :
    finalizeUpstream lookupIp choice target (some (.upstreamParts wl port (some svc))) =
      (pickWorkloadDestinationOrResolve lookupIp choice wl target svc.ipFamilies).map fun ip ↦
        some ⟨wl, ip, port, svc.subjectAltNames⟩ := by
  show (pickWorkloadDestinationOrResolve lookupIp choice wl target svc.ipFamilies >>= _) = _
  cases pickWorkloadDestinationOrResolve lookupIp choice wl target svc.ipFamilies <;> rfl

end Selectable

/-- **IP family restriction.** That the selected IP of an upstream is accepted by the restriction of
its service, whatever is chosen, with an error if no address is acceptable, holds exactly if the
address that was asked for is accepted in case the workload has it, and in case an address has to be
resolved, all resolved ones are accepted, or the one that was asked for and one of them. -/
theorem ipFamily_respected_iff (lookupIp : Strng → Except Unit (List IpAddr)) (wl : Workload)
    (port : UInt16) (svc : Service) (target : SocketAddr) {family : IpFamily}
    (hfamily : svc.ipFamilies = some family) :
    (∀ choice,
      (∀ upstream, finalizeUpstream lookupIp choice target
          (some (.upstreamParts wl port (some svc))) = .ok (some upstream) →
        family.acceptsIp upstream.selectedWorkloadIp = true) ∧
      (NoneAcceptable lookupIp wl family → ∃ e, finalizeUpstream lookupIp choice target
        (some (.upstreamParts wl port (some svc))) = .error e)) ↔
    (target.ip ∈ wl.workloadIps → family.acceptsIp target.ip = true) ∧
    (target.ip ∉ wl.workloadIps → (∀ ip ∈ wl.workloadIps, family.acceptsIp ip = false) →
      wl.hostname ≠ "" → ∀ resp, lookupIp wl.hostname = .ok resp →
        (∀ ip ∈ resp, family.acceptsIp ip = true) ∨
          family.acceptsIp target.ip = true ∧ ∃ ip ∈ resp, family.acceptsIp ip = true) := by
  rw [← forall_selectable_iff]
  simp only [finalizeUpstream_service, hfamily]
  constructor
  · intro hall ip hip
    obtain ⟨choice, hpick⟩ := hip.exists_pick
    refine (hall choice).1 ⟨wl, ip, port, svc.subjectAltNames⟩ ?_
    rw [hpick]
    rfl
  · intro hall choice
    rcases hpick : pickWorkloadDestinationOrResolve lookupIp choice wl target (some family) with
      e | ip
    · exact ⟨(fun upstream h ↦ nomatch h), fun _ ↦ ⟨e, rfl⟩⟩
    · have hip := selectable_of_pick hpick
      refine ⟨fun upstream h ↦ ?_, fun hnone ↦ ?_⟩
      · obtain rfl := Option.some.inj (Except.ok.inj h)
        exact hall ip hip
      · have hfalse := hip.acceptsIp_eq_false hnone rfl
        rw [hall ip hip] at hfalse
        cases hfalse

/-! ### A waypoint outside of the cluster -/

/-- A gateway that has a hostname and no IP. -/
def hostnameGateway : Workload :=
  { regionalPod "gateway" "here" 1 with workloadIps := [], hostname := "gateway.example.com" }

/-- A waypoint service for IPv4, with the gateway as its endpoint. -/
def ipv4Waypoint : Service :=
  { regionalService with
    hostname := "waypoint"
    ports := fun port ↦ if port = 15008 then some 15008 else none
    endpoints := (∅ : EndpointSet).insert "gateway" ⟨"gateway", fun _ ↦ none, .healthy⟩
    ipFamilies := some .ipv4 }

def waypointState : ProxyState :=
  { ProxyState.new none with
    workloads := (WorkloadStore.new none).insert hostnameGateway
    services := ServiceStore.empty.insert ipv4Waypoint }

/-- The hostname of the gateway resolves to an address of each family. -/
def dualStack : Strng → Except Unit (List IpAddr) := fun _ ↦ .ok [.v4 0x0a000009, .v6 9]

/-- For a client that asks for an IPv4 address, the restriction is kept. -/
theorem ipFamily_respected_iff_ipv4 :
    ipv4Waypoint.ipFamilies = some .ipv4 ∧ ∀ choice upstream,
      finalizeUpstream dualStack choice ⟨.v4 0x0a0a0001, 80⟩
          (some (.upstreamParts hostnameGateway 15008 (some ipv4Waypoint))) = .ok (some upstream) →
        IpFamily.ipv4.acceptsIp upstream.selectedWorkloadIp = true := by
  refine ⟨rfl, fun choice ↦ ?_⟩
  refine ((ipFamily_respected_iff dualStack hostnameGateway 15008 ipv4Waypoint
    ⟨.v4 0x0a0a0001, 80⟩ rfl).2 ⟨fun _ ↦ rfl, fun _ _ _ resp hresp ↦ .inr ⟨rfl, ?_⟩⟩ choice).1
  obtain rfl := Except.ok.inj hresp
  exact ⟨.v4 0x0a000009, List.mem_cons_self, rfl⟩

/-- A client that asks for an IPv6 address is sent to the IPv6 address of the gateway, although the
waypoint is a service for IPv4 and the gateway has an IPv4 address. -/
theorem ipv4Waypoint_over_ipv6 :
    ipv4Waypoint.ipFamilies = some .ipv4 ∧
    waypointState.findUpstreamFromService (.ofDraw 0) (regionalPod "client" "here" 1) 15008
      ipv4Waypoint = some (.upstreamParts hostnameGateway 15008 (some ipv4Waypoint)) ∧
    ∃ upstream, finalizeUpstream dualStack (.ofDraw 0) ⟨.v6 1, 80⟩
        (some (.upstreamParts hostnameGateway 15008 (some ipv4Waypoint))) = .ok (some upstream) ∧
      waypointState.fetchWaypoint (.ofDraw 0) dualStack (.ofDraw 0) (fun _ ↦ [])
        ⟨.hostname ⟨"ns", "waypoint"⟩, 15008⟩ (regionalPod "client" "here" 1) ⟨.v6 1, 80⟩ =
          some (.ok upstream) ∧
      upstream.selectedWorkloadIp = .v6 9 ∧
      IpFamily.ipv4.acceptsIp upstream.selectedWorkloadIp = false :=
  ⟨rfl, rfl, ⟨hostnameGateway, .v6 9, 15008, []⟩, rfl, rfl, rfl, rfl⟩

end Ztunnel.State
