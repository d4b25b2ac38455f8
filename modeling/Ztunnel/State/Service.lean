import Mathlib.Data.List.AList
import Ztunnel.State.Workload

/-!
# Services and their endpoints

`state/service.rs`: a service with the set of its endpoints, its conversion from the wire, and the
store that finds services by virtual address and by hostname and that stages the endpoints of
services it does not know yet.

The maps that are iterated, from workload UIDs to endpoints, are Mathlib's association lists; their
order is an iteration order of the `HashMap`. The other maps are functions into `Option`.
-/

namespace Ztunnel.State

/-- `Endpoint`. -/
structure Endpoint where
  workloadUid : Strng
  port : PortMap
  status : HealthStatus

/-- `EndpointSet`. -/
abbrev EndpointSet := AList fun _ : Strng ↦ Endpoint

/-- `LoadBalancerScopes`. -/
inductive LoadBalancerScopes where
  | region
  | zone
  | subzone
  | node
  | cluster
  | network
deriving DecidableEq, Repr

/-- `LoadBalancerMode`. -/
inductive LoadBalancerMode where
  | standard
  | strict
  | failover
  | passthrough
deriving DecidableEq, Repr

/-- `LoadBalancerHealthPolicy`. -/
inductive LoadBalancerHealthPolicy where
  | onlyHealthy
  | allowAll
deriving DecidableEq, Repr

/-- `LoadBalancer`. -/
structure LoadBalancer where
  routingPreferences : List LoadBalancerScopes
  mode : LoadBalancerMode
  healthPolicy : LoadBalancerHealthPolicy
deriving DecidableEq, Repr

/-- `IpFamily`. -/
inductive IpFamily where
  | dual
  | ipv4
  | ipv6
deriving DecidableEq, Repr

/-- `Service`. -/
structure Service where
  name : Strng
  «namespace» : Strng
  hostname : Strng
  vips : List NetworkAddress
  ports : PortMap
  endpoints : EndpointSet
  subjectAltNames : List Strng
  waypoint : Option GatewayAddress
  loadBalancer : Option LoadBalancer
  ipFamilies : Option IpFamily
  canonical : Bool

namespace Service

/-- `Service::namespaced_hostname`. -/
def namespacedHostname (service : Service) : NamespacedHostname :=
  ⟨service.namespace, service.hostname⟩

/-- `Service::should_include_endpoint`. -/
def shouldIncludeEndpoint (service : Service) (health : HealthStatus) : Bool :=
  health == .healthy || (service.loadBalancer.map (·.healthPolicy == .allowAll)).getD false

end Service

/-! ### Conversion from the wire -/

structure XdsNetworkAddress where
  network : String
  address : List UInt8
deriving DecidableEq, Repr

structure XdsLoadBalancing where
  routingPreference : List Int
  mode : Int
  healthPolicy : Int
deriving DecidableEq, Repr

/-- The wire form of a service. -/
structure XdsService where
  name : String
  «namespace» : String
  hostname : String
  addresses : List XdsNetworkAddress
  ports : List Port
  subjectAltNames : List String
  waypoint : Option XdsGatewayAddress
  loadBalancing : Option XdsLoadBalancing
  ipFamilies : Int
  canonical : Bool
deriving DecidableEq, Repr

/-- `LoadBalancerScopes::try_from`, after the scope has been read: the unspecified one is
invalid. -/
def LoadBalancerScopes.tryFrom (raw : Int) : Except WorkloadError LoadBalancerScopes := do
  let scope ← enumOf [(0, none), (1, some region), (2, some zone), (3, some subzone),
    (4, some node), (5, some cluster), (6, some network)] raw
  match scope with
  | some scope => pure scope
  | none => throw (.enumParse "invalid target")

/-- The load balancer of a service. -/
def LoadBalancer.tryFrom (lb : XdsLoadBalancing) : Except WorkloadError LoadBalancer := do
  let routingPreferences ← lb.routingPreference.mapM LoadBalancerScopes.tryFrom
  let mode ← enumOf [(0, LoadBalancerMode.standard), (1, .strict), (2, .failover),
    (3, .passthrough)] lb.mode
  let healthPolicy ← enumOf [(0, LoadBalancerHealthPolicy.onlyHealthy), (1, .allowAll)]
    lb.healthPolicy
  pure ⟨routingPreferences, mode, healthPolicy⟩

/-- `Service::try_from`. -/
def Service.tryFrom (s : XdsService) : Except WorkloadError Service := do
  let vips ← s.addresses.mapM fun addr ↦ do
    let ip ← byteToIp addr.address
    pure (⟨addr.network, ip⟩ : NetworkAddress)
  let waypoint ← s.waypoint.mapM GatewayAddress.tryFrom
  let loadBalancer ← s.loadBalancing.mapM LoadBalancer.tryFrom
  let ipFamilies ← enumOf [(0, none), (1, some IpFamily.ipv4), (2, some .ipv6), (3, some .dual)]
    s.ipFamilies
  pure
    { name := s.name
      «namespace» := s.namespace
      hostname := s.hostname
      vips := vips
      ports := (PortList.mk s.ports).toMap
      endpoints := ∅
      subjectAltNames := s.subjectAltNames
      waypoint := waypoint
      loadBalancer := loadBalancer
      ipFamilies := ipFamilies
      canonical := s.canonical }

/-! ### The store -/

/-- `ServiceStore`. -/
structure ServiceStore where
  stagedServices : NamespacedHostname → Option EndpointSet
  byVip : NetworkAddress → Option Service
  byHost : Strng → Option (List Service)

namespace ServiceStore

/-- `ServiceStore::default`. -/
def empty : ServiceStore := ⟨fun _ ↦ none, fun _ ↦ none, fun _ ↦ none⟩

/-- `ServiceStore::get_by_vip`. -/
def getByVip (store : ServiceStore) (vip : NetworkAddress) : Option Service := store.byVip vip

/-- `ServiceStore::get_by_namespaced_host`. -/
def getByNamespacedHost (store : ServiceStore) (host : NamespacedHostname) : Option Service :=
  (store.byHost host.hostname).bind (·.find? (·.namespace == host.namespace))

/-- Remove the first service of a namespace from a list. -/
def removeFirst («namespace» : Strng) : List Service → Option (Service × List Service)
  | [] => none
  | service :: services =>
    if service.namespace = «namespace» then some (service, services)
    else (removeFirst «namespace» services).map fun p ↦ (p.1, service :: p.2)

/-- `ServiceStore::remove`. -/
def remove (store : ServiceStore) (host : NamespacedHostname) : Bool × ServiceStore :=
  match (store.byHost host.hostname).bind (removeFirst host.namespace) with
  | none => (false, store)
  | some (prev, rest) =>
    (true,
      { byHost := Function.update store.byHost host.hostname
          (if rest.isEmpty then none else some rest)
        byVip := prev.vips.foldl (fun byVip vip ↦ Function.update byVip vip none) store.byVip
        stagedServices := Function.update store.stagedServices host none })

/-- The slot of a service in the list of its hostname: the one of its namespace, or the end. -/
def placeService (service : Service) : List Service → List Service
  | [] => [service]
  | other :: services =>
    if other.namespace = service.namespace then service :: services
    else other :: placeService service services

/-- The endpoints that a service takes over, in their order. -/
def addEndpoints (service : Service) (endpoints : List (Strng × Endpoint)) : Service :=
  endpoints.foldl (fun service p ↦
    if service.shouldIncludeEndpoint p.2.status then
      { service with endpoints := service.endpoints.insert p.1 p.2 }
    else service) service

/-- `ServiceStore::insert_internal`. -/
def insertInternal (store : ServiceStore) (service : Service) (endpointUpdateOnly : Bool) :
    ServiceStore :=
  let host := service.namespacedHostname
  let (service, store) :=
    if endpointUpdateOnly then (service, store)
    else
      let service := match store.stagedServices host with
        | some staged => addEndpoints service (staged.entries.map fun e ↦ (e.1, e.2))
        | none => service
      let store := { store with stagedServices := Function.update store.stagedServices host none }
      (service, (store.remove host).2)
  { store with
    byVip := service.vips.foldl (fun byVip vip ↦ Function.update byVip vip (some service))
      store.byVip
    byHost := Function.update store.byHost service.hostname
      (some (placeService service ((store.byHost service.hostname).getD []))) }

/-- `ServiceStore::insert`. -/
def insert (store : ServiceStore) (service : Service) : ServiceStore :=
  store.insertInternal service false

/-- `ServiceStore::insert_endpoint_update`. -/
def insertEndpointUpdate (store : ServiceStore) (service : Service) : ServiceStore :=
  store.insertInternal service true

/-- `ServiceStore::insert_endpoint`. -/
def insertEndpoint (store : ServiceStore) (host : NamespacedHostname) (ep : Endpoint) :
    ServiceStore :=
  match store.getByNamespacedHost host with
  | some service =>
    if service.shouldIncludeEndpoint ep.status then
      store.insertEndpointUpdate
        { service with endpoints := service.endpoints.insert ep.workloadUid ep }
    else store
  | none =>
    { store with
      stagedServices := Function.update store.stagedServices host
        (some (((store.stagedServices host).getD ∅).insert ep.workloadUid ep)) }

/-- The first loop of `remove_endpoint`: unstage the endpoint, and drop what becomes empty. -/
def unstage (store : ServiceStore) (uid : Strng) (host : NamespacedHostname) : ServiceStore :=
  let staged := ((store.stagedServices host).getD ∅).erase uid
  { store with
    stagedServices := Function.update store.stagedServices host
      (if staged.entries.isEmpty then none else some staged) }

/-- The second loop of `remove_endpoint`: drop the endpoint from an installed service. -/
def dropEndpoint (store : ServiceStore) (uid : Strng) (host : NamespacedHostname) :
    ServiceStore :=
  match store.getByNamespacedHost host with
  | some service =>
    store.insertEndpointUpdate { service with endpoints := service.endpoints.erase uid }
  | none => store

/-- `ServiceStore::remove_endpoint`. The second loop visits each service of the set once. -/
def removeEndpoint (store : ServiceStore) (prev : Workload) : ServiceStore :=
  let store := prev.services.foldl (·.unstage prev.uid) store
  prev.services.dedup.foldl (·.dropEndpoint prev.uid) store

end ServiceStore

end Ztunnel.State
