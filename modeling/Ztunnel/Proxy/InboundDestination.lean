import Ztunnel.State.Destination

/-!
# Where an inbound tunnel may lead

`validate_destination` and `find_inbound_upstream` of `proxy/inbound.rs`. A tunnel arrives on the IP
of the local workload and names its target in the `CONNECT` authority, by address or by hostname.
The upstream always has the IP that the tunnel arrived on; the authority decides the port, and an
address that is not the arrival IP must have the local workload as its waypoint.

`validate_destination` reads the state, and reads it again after a fetch on demand if the address is
not known (`DemandProxyState`); `find_inbound_upstream` reads it later. The reads may see different
states. `none` stands for a panic, outside of the result of the source.
-/

namespace Ztunnel.Proxy.Inbound

open Ztunnel.State
open Ztunnel.Rbac (Connection)

/-- `HboneAddress`. -/
inductive HboneAddress where
  | socketAddr (addr : SocketAddr)
  | svcHostname (hostname : Strng) (port : UInt16)
deriving DecidableEq, Repr

/-- The values of `proxy::Error` that the two functions return. -/
inductive Error where
  /-- `ip mismatch: {0} != {1}` -/
  | ipMismatch (arrived requested : IpAddr)
  /-- `no service or workload for hostname: {0}` -/
  | noHostname (hostname : Strng)
  /-- `requested service {0}:{1} found, but cannot resolve port` -/
  | noPortForServices (hostname : Strng) (port : UInt16)
  /-- `attempted recursive call to ourselves` -/
  | selfCall
  /-- `requested service {0} found, but has no IP addresses` -/
  | noIPForService (hostname : Strng)
deriving DecidableEq, Repr

/-- `DemandProxyState`: what a read sees, whether addresses are fetched on demand, and what a read
sees when the fetch of an address has returned. -/
structure DemandProxyState where
  read : ProxyState
  supportsOnDemand : Bool
  fetchOnDemand : NetworkAddress → ProxyState

/-- The field of `Config` that is read. -/
structure Config where
  illegalPorts : Finset UInt16

/-- `TunnelRequest`. -/
structure TunnelRequest where
  tunnelTarget : SocketAddr
  protocol : TunnelProtocol
deriving DecidableEq, Repr

/-! ### `validate_destination` -/

section Validate

variable (order : WorkloadStore → List Strng)

/-- The closure `lookup_is_destination_this_waypoint`. `some none` asks for a fetch on demand. -/
def lookupIsDestinationThisWaypoint (state : ProxyState) (conn : Connection)
    (localWorkload : Workload) (hboneDst : NetworkAddress) : Option (Option Bool) := do
  let some hboneTarget ← state.findAddress hboneDst | return none
  let some targetWaypoint := hboneTarget.waypoint | return some false
  match ← state.findDestination order targetWaypoint.destination with
  | none => return some false
  | some (.service svc) => return some (svc.containsEndpoint localWorkload)
  | some (.workload wl) => return some (decide (conn.dst.ip ∈ wl.workloadIps))

/-- `Inbound::validate_destination`. -/
def validateDestination (state : DemandProxyState) (conn : Connection) (localWorkload : Workload) :
    HboneAddress → Option (Except Error Unit)
  | .svcHostname _ _ => return .ok ()
  | .socketAddr hboneAddr => do
    if conn.dst.ip = hboneAddr.ip then return .ok ()
    if localWorkload.applicationTunnel.isSome then return .ok ()
    let hboneDst : NetworkAddress := ⟨conn.dstNetwork, hboneAddr.ip⟩
    let lookup (seen : ProxyState) :=
      lookupIsDestinationThisWaypoint order seen conn localWorkload hboneDst
    let res ← match ← lookup state.read with
      | some r => pure (some r)
      | none =>
        if state.supportsOnDemand then lookup (state.fetchOnDemand hboneDst) else pure none
    match res with
    | none | some false => return .error (.ipMismatch conn.dst.ip hboneAddr.ip)
    | some true => return .ok ()

/-- The workload is, or is behind, what a waypoint resolves to. -/
def Serves (conn : Connection) (localWorkload : Workload) : Address → Prop
  | .service svc => ∃ ep, svc.endpoints.lookup localWorkload.uid = some ep
  | .workload wl => conn.dst.ip ∈ wl.workloadIps

/-- **An address has the local workload as its waypoint**: it resolves to a service or a workload
whose waypoint resolves to a service that contains the local workload, or to a workload with the IP
that the tunnel arrived on. -/
def HasWaypoint (state : ProxyState) (conn : Connection) (localWorkload : Workload)
    (hboneDst : NetworkAddress) : Prop :=
  ∃ target waypoint found, state.findAddress hboneDst = some (some target) ∧
    target.waypoint = some waypoint ∧
    state.findDestination order waypoint.destination = some (some found) ∧
    Serves conn localWorkload found

variable {order} {state : ProxyState} {conn : Connection} {localWorkload : Workload}

theorem lookupIsDestinationThisWaypoint_eq_none {hboneDst : NetworkAddress} :
    lookupIsDestinationThisWaypoint order state conn localWorkload hboneDst = some none ↔
      state.findAddress hboneDst = some none := by
  rw [lookupIsDestinationThisWaypoint]
  rcases state.findAddress hboneDst with - | - | target
  · simp
  · simp
  · rcases hwaypoint : target.waypoint with - | waypoint
    · simp [hwaypoint]
    · rcases hfound : state.findDestination order waypoint.destination with - | - | wl | svc <;>
        simp [hwaypoint, hfound]

theorem lookupIsDestinationThisWaypoint_eq_true {hboneDst : NetworkAddress} :
    lookupIsDestinationThisWaypoint order state conn localWorkload hboneDst = some (some true) ↔
      HasWaypoint order state conn localWorkload hboneDst := by
  rw [lookupIsDestinationThisWaypoint, HasWaypoint]
  rcases state.findAddress hboneDst with - | - | target
  · simp
  · simp
  · rcases hwaypoint : target.waypoint with - | waypoint
    · simp [hwaypoint]
    · rcases hfound : state.findDestination order waypoint.destination with - | - | wl | svc
      · simp [hwaypoint, hfound]
      · simp [hwaypoint, hfound]
      · simp [hwaypoint, hfound, Serves]
      · simp [hwaypoint, hfound, Serves, Service.containsEndpoint, Option.isSome_iff_exists]

/-- **When an address is accepted.** The second state is read only if the first one does not know
the address. -/
theorem validateDestination_socketAddr {state : DemandProxyState} {addr : SocketAddr} :
    validateDestination order state conn localWorkload (.socketAddr addr) = some (.ok ()) ↔
      conn.dst.ip = addr.ip ∨ localWorkload.applicationTunnel.isSome = true ∨
      HasWaypoint order state.read conn localWorkload ⟨conn.dstNetwork, addr.ip⟩ ∨
      state.read.findAddress ⟨conn.dstNetwork, addr.ip⟩ = some none ∧
        state.supportsOnDemand = true ∧
        HasWaypoint order (state.fetchOnDemand ⟨conn.dstNetwork, addr.ip⟩) conn localWorkload
          ⟨conn.dstNetwork, addr.ip⟩ := by
  rw [validateDestination]
  by_cases hip : conn.dst.ip = addr.ip
  · simp [hip]
  by_cases htunnel : localWorkload.applicationTunnel.isSome = true
  · simp [hip, htunnel]
  rw [← lookupIsDestinationThisWaypoint_eq_true, ← lookupIsDestinationThisWaypoint_eq_true,
    ← @lookupIsDestinationThisWaypoint_eq_none order state.read conn localWorkload]
  -- the first lookup panics, finds nothing, or decides
  rcases hfirst : lookupIsDestinationThisWaypoint order state.read conn localWorkload
    ⟨conn.dstNetwork, addr.ip⟩ with - | - | decided
  · simp [hip, htunnel, hfirst]
  · rcases state.supportsOnDemand with - | -
    · simp [hip, htunnel, hfirst]
    · rcases hsecond : lookupIsDestinationThisWaypoint order
        (state.fetchOnDemand ⟨conn.dstNetwork, addr.ip⟩) conn localWorkload
        ⟨conn.dstNetwork, addr.ip⟩ with - | - | - | - <;>
        simp [hip, htunnel, hfirst, hsecond]
  · cases decided <;> simp [hip, htunnel, hfirst]

end Validate

/-! ### `find_inbound_upstream` -/

/-- `Inbound::find_service_by_hostname`. -/
def findServiceByHostname (state : ProxyState) (localWorkload : Workload) (hboneHost : Strng) :
    Except Error Service :=
  match state.services.getBestByHost hboneHost (some localWorkload.namespace) with
  | some svc => .ok svc
  | none => .error (.noHostname hboneHost)

/-- The target, and the services it could be for. -/
def resolveTarget (state : ProxyState) (conn : Connection) (localWorkload : Workload) :
    HboneAddress → Except Error (SocketAddr × List Service)
  | .svcHostname hostname servicePort => do
    let svc ← findServiceByHostname state localWorkload hostname
    let endpointPort := (svc.endpoints.lookup localWorkload.uid).bind (·.port servicePort)
    match endpointPort with
    | some epPort => return (⟨conn.dst.ip, epPort⟩, [svc])
    | none =>
      let serviceTargetPort := (svc.ports servicePort).getD 0
      if serviceTargetPort = 0 then .error (.noPortForServices hostname servicePort)
      else return (⟨conn.dst.ip, serviceTargetPort⟩, [svc])
  | .socketAddr hboneAddr =>
    return (⟨conn.dst.ip, hboneAddr.port⟩, state.services.getByWorkload localWorkload)

/-- The preference for a VIP to send in the tunnel. -/
def vipRank (conn : Connection) (a : NetworkAddress) : ℕ :=
  if a.network = conn.dstNetwork then if a.address.isIpv4 then 2 else 1 else 0

/-- The address that is sent in the tunnel; `none` is the panic of `expect`. -/
def tunnelTarget (conn : Connection) (services : List Service) :
    HboneAddress → Option (Except Error SocketAddr)
  | .svcHostname h port => do
    match maxByKey (vipRank conn) (← services.head?).vips with
    | some vip => return .ok ⟨vip.address, port⟩
    | none => return .error (.noIPForService h)
  | .socketAddr s => return .ok s

/-- `Inbound::find_inbound_upstream`. -/
def findInboundUpstream (cfg : Config) (state : ProxyState) (conn : Connection)
    (localWorkload : Workload) (hboneAddr : HboneAddress) :
    Option (Except Error (SocketAddr × Option TunnelRequest × List Service)) :=
  match resolveTarget state conn localWorkload hboneAddr with
  | .error e => return .error e
  | .ok (dest, services) =>
    if dest.port ∈ cfg.illegalPorts then return .error .selfCall
    else
      match localWorkload.applicationTunnel with
      | some ⟨protocol, port⟩ => do
        let newTarget : SocketAddr := ⟨dest.ip, port.getD dest.port⟩
        match ← tunnelTarget conn services hboneAddr with
        | .ok target => return .ok (newTarget, some ⟨target, protocol⟩, services)
        | .error e => return .error e
      | none => return .ok (dest, none, services)

/-- **The port that an authority stands for**: its own, with an address; with a hostname, the port
that the endpoint of the local workload maps it to in the best service of that name, or else the
target port of the service, which is not zero. -/
def TargetPort (state : ProxyState) (localWorkload : Workload) : HboneAddress → UInt16 → Prop
  | .socketAddr addr, port => port = addr.port
  | .svcHostname hostname servicePort, port => ∃ svc,
    state.services.getBestByHost hostname (some localWorkload.namespace) = some svc ∧
    let mapped := (svc.endpoints.lookup localWorkload.uid).bind (·.port servicePort)
    (mapped = some port ∨ mapped = none ∧ svc.ports servicePort = some port ∧ port ≠ 0)

variable {state : ProxyState} {conn : Connection} {localWorkload : Workload}

theorem findServiceByHostname_eq_ok {hboneHost : Strng} {svc : Service}
    (h : findServiceByHostname state localWorkload hboneHost = .ok svc) :
    state.services.getBestByHost hboneHost (some localWorkload.namespace) = some svc := by
  rw [findServiceByHostname] at h
  split at h
  · next hbest => exact hbest.trans (congrArg some (Except.ok.inj h))
  · cases h

theorem resolveTarget_eq_ok {hboneAddr : HboneAddress} {dest : SocketAddr} {services : List Service}
    (h : resolveTarget state conn localWorkload hboneAddr = .ok (dest, services)) :
    dest.ip = conn.dst.ip ∧ TargetPort state localWorkload hboneAddr dest.port := by
  cases hboneAddr with
  | socketAddr addr =>
    obtain ⟨rfl, -⟩ := Prod.mk.inj (Except.ok.inj h)
    exact ⟨rfl, rfl⟩
  | svcHostname hostname servicePort =>
    rw [resolveTarget] at h
    obtain ⟨svc, hsvc, h⟩ := bind_eq_ok.1 h
    have hbest := findServiceByHostname_eq_ok hsvc
    dsimp only at h
    split at h
    · next epPort hmapped =>
      obtain ⟨rfl, -⟩ := Prod.mk.inj (Except.ok.inj h)
      exact ⟨rfl, svc, hbest, .inl hmapped⟩
    · next hmapped =>
      split at h
      · cases h
      · next hzero =>
        obtain ⟨rfl, -⟩ := Prod.mk.inj (Except.ok.inj h)
        obtain ⟨port, hport⟩ : ∃ port, svc.ports servicePort = some port := by
          by_contra hnone
          rw [not_exists, ← Option.eq_none_iff_forall_ne_some] at hnone
          exact hzero (by rw [hnone]; rfl)
        rw [hport] at hzero ⊢
        exact ⟨rfl, svc, hbest, .inr ⟨hmapped, hport, hzero⟩⟩

/-- What is found, if anything: the target under the checks, with the port of the application tunnel
if there is one. -/
theorem findInboundUpstream_eq_ok {cfg : Config} {hboneAddr : HboneAddress} {upstream : SocketAddr}
    {tunnel : Option TunnelRequest} {services : List Service}
    (h : findInboundUpstream cfg state conn localWorkload hboneAddr =
      some (.ok (upstream, tunnel, services))) :
    ∃ dest, resolveTarget state conn localWorkload hboneAddr = .ok (dest, services) ∧
      dest.port ∉ cfg.illegalPorts ∧ upstream.ip = dest.ip ∧
      upstream.port = (localWorkload.applicationTunnel.bind (·.port)).getD dest.port := by
  rw [findInboundUpstream] at h
  split at h
  · cases Option.some.inj h
  · next dest found hresolve =>
    split at h
    · cases Option.some.inj h
    · next hlegal =>
      split at h
      · next protocol port htunnel =>
        obtain ⟨result, -, h⟩ := Option.bind_eq_some_iff.1 h
        split at h
        · obtain ⟨rfl, hrest⟩ := Prod.mk.inj (Except.ok.inj (Option.some.inj h))
          obtain ⟨-, rfl⟩ := Prod.mk.inj hrest
          exact ⟨dest, hresolve, hlegal, rfl, by rw [htunnel]; rfl⟩
        · cases Option.some.inj h
      · next htunnel =>
        obtain ⟨rfl, hrest⟩ := Prod.mk.inj (Except.ok.inj (Option.some.inj h))
        obtain ⟨-, rfl⟩ := Prod.mk.inj hrest
        exact ⟨dest, hresolve, hlegal, rfl, by rw [htunnel]; rfl⟩

/-! ### Confinement -/

/-- **An inbound tunnel is confined.** Whatever the reads of the state see, a request that both
functions accept goes to the IP that the tunnel arrived on. It goes to the port of the application
tunnel, if one is set, and else to a port that is not illegal and that the authority stands for. An
address other than the arrival IP is accepted only of a workload with an application tunnel, or if
it has the local workload as its waypoint. -/
theorem inbound_destination_confined (order : WorkloadStore → List Strng) (cfg : Config)
    (state : DemandProxyState) (later : ProxyState) (conn : Connection) (localWorkload : Workload)
    (hboneAddr : HboneAddress) {upstream : SocketAddr} {tunnel : Option TunnelRequest}
    {services : List Service}
    (hvalid : validateDestination order state conn localWorkload hboneAddr = some (.ok ()))
    (hfound : findInboundUpstream cfg later conn localWorkload hboneAddr =
      some (.ok (upstream, tunnel, services))) :
    upstream.ip = conn.dst.ip ∧
    (∀ port, localWorkload.applicationTunnel.bind (·.port) = some port → upstream.port = port) ∧
    (localWorkload.applicationTunnel.bind (·.port) = none →
      upstream.port ∉ cfg.illegalPorts ∧
        TargetPort later localWorkload hboneAddr upstream.port) ∧
    ∀ addr, hboneAddr = .socketAddr addr → addr.ip ≠ conn.dst.ip →
      localWorkload.applicationTunnel.isSome = true ∨
      HasWaypoint order state.read conn localWorkload ⟨conn.dstNetwork, addr.ip⟩ ∨
      state.read.findAddress ⟨conn.dstNetwork, addr.ip⟩ = some none ∧
        state.supportsOnDemand = true ∧
        HasWaypoint order (state.fetchOnDemand ⟨conn.dstNetwork, addr.ip⟩) conn localWorkload
          ⟨conn.dstNetwork, addr.ip⟩ := by
  obtain ⟨dest, hresolve, hlegal, hip, hport⟩ := findInboundUpstream_eq_ok hfound
  obtain ⟨hdest, htarget⟩ := resolveTarget_eq_ok hresolve
  refine ⟨hip.trans hdest, fun port htunnel ↦ ?_, fun htunnel ↦ ?_, fun addr haddr hne ↦ ?_⟩
  · rw [hport, htunnel, Option.getD_some]
  · rw [htunnel, Option.getD_none] at hport
    rw [hport]
    exact ⟨hlegal, htarget⟩
  · rw [haddr] at hvalid
    exact (validateDestination_socketAddr.1 hvalid).resolve_left fun heq ↦ hne heq.symm

/-- A waypoint pod at `10.0.0.3`, without a tunnel of its own. -/
def waypointPod : Workload where
  workloadIps := [.v4 0x0a000003]
  waypoint := none
  protocol := .hbone
  networkMode := .standard
  uid := "waypoint"
  name := "waypoint"
  «namespace» := "ns"
  trustDomain := "cluster.local"
  serviceAccount := "waypoint"
  network := ""
  hostname := ""
  node := "node"
  nativeTunnel := false
  applicationTunnel := none
  status := .healthy
  clusterId := "Kubernetes"
  locality := default
  services := []
  capacity := 1
  trafficPolicyRefs := none

/-- A service with one VIP. -/
def serviceAt (hostname : Strng) (vip : BitVec 32) (endpoints : EndpointSet)
    (waypoint : Option GatewayAddress) : Service where
  name := hostname
  «namespace» := "ns"
  hostname := hostname
  vips := [⟨"", .v4 vip⟩]
  ports := fun _ ↦ none
  endpoints := endpoints
  subjectAltNames := []
  waypoint := waypoint
  loadBalancer := none
  ipFamilies := none
  canonical := false

/-- The service `server` at `10.10.0.1`, with the service `waypoint` at `10.10.0.2` as its
waypoint. -/
def sandwich : ProxyState :=
  { ProxyState.new none with
    services := (ServiceStore.empty.insert (serviceAt "server" 0x0a0a0001 ∅
        (some ⟨.address ⟨"", .v4 0x0a0a0002⟩, 15008⟩))).insert
      (serviceAt "waypoint" 0x0a0a0002
        ((∅ : EndpointSet).insert "waypoint" ⟨"waypoint", fun _ ↦ none, .healthy⟩) none) }

/-- A tunnel to the waypoint pod. -/
def sandwichConnection : Connection where
  src := ⟨.v4 0x0a000001, 1234⟩
  dst := ⟨.v4 0x0a000003, 15008⟩
  srcIdentity := none
  dstNetwork := ""
  direction := .inbound

/-- A tunnel to the waypoint pod names the VIP of `server`, which is fetched on demand: it is
accepted, and goes to the pod. -/
theorem inbound_destination_confined_sandwich :
    let authority := HboneAddress.socketAddr ⟨.v4 0x0a0a0001, 8080⟩
    let state : DemandProxyState := ⟨.new none, true, fun _ ↦ sandwich⟩
    ∃ upstream tunnel services,
      validateDestination (fun _ ↦ []) state sandwichConnection waypointPod authority =
        some (.ok ()) ∧
      findInboundUpstream ⟨{15001, 15006, 15008}⟩ sandwich sandwichConnection waypointPod
        authority = some (.ok (upstream, tunnel, services)) ∧
      upstream.ip = .v4 0x0a000003 ∧ upstream.port = 8080 ∧
      HasWaypoint (fun _ ↦ []) sandwich sandwichConnection waypointPod ⟨"", .v4 0x0a0a0001⟩ := by
  intro authority state
  have hvalid : validateDestination (fun _ ↦ []) state sandwichConnection waypointPod authority =
      some (.ok ()) := by
    decide
  have hfound : findInboundUpstream ⟨{15001, 15006, 15008}⟩ sandwich sandwichConnection waypointPod
      authority = some (.ok (⟨.v4 0x0a000003, 8080⟩, none, [])) := by
    rfl
  obtain ⟨hip, -, hport, hwaypoint⟩ := inbound_destination_confined _ _ _ _ _ _ _ hvalid hfound
  refine ⟨_, _, _, hvalid, hfound, hip, (hport rfl).2, ?_⟩
  rcases hwaypoint _ rfl (by decide) with htunnel | hknown | ⟨-, -, hfetched⟩
  · cases htunnel
  · obtain ⟨target, -, -, hnone, -⟩ := hknown
    cases hnone
  · exact hfetched

end Ztunnel.Proxy.Inbound
