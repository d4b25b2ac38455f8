import Ztunnel.State.ProxyState

/-!
# Destinations

`ProxyState::find_destination`: a workload or a service, by address or by hostname, and the choice
of a service among those of one hostname (`ServiceMatch::find_best_match`).

An address is first that of a workload; `WorkloadStore::find_address` may panic, which is `none`
here, outside of the option that the source returns. A hostname is first that of a service, and else
that of some workload: which one is found depends on the iteration order of the map, a parameter.
-/

namespace Ztunnel.State

/-! ### The best service of a hostname -/

/-- `ServiceMatch`. -/
inductive ServiceMatch where
  | canonical (service : Service)
  | ofNamespace (service : Service)
  | preferredNamespace (service : Service)
  | first (service : Service)
  | none

namespace ServiceMatch

/-- `Option::from`. -/
def service : ServiceMatch → Option Service
  | canonical s | first s | ofNamespace s | preferredNamespace s => some s
  | none => .none

/-- `matches!(r, ServiceMatch::Canonical(_))`. -/
def isCanonical : ServiceMatch → Bool
  | canonical _ => true
  | _ => false

/-- A service that nothing prefers is taken if it is the first. -/
def orFirst (r : ServiceMatch) (s : Service) : ServiceMatch :=
  match r with
  | none => first s
  | r => r

/-- The loop of `find_best_match`, with the match so far. A service of the client's namespace ends
it. -/
def foldBest (clientNs preferredNs : Option Strng) : ServiceMatch → List Service → ServiceMatch
  | r, [] => r
  | r, s :: services =>
    if some s.namespace = clientNs then .ofNamespace s
    else if s.canonical then foldBest clientNs preferredNs (.canonical s) services
    else if preferredNs = some s.namespace ∧ r.isCanonical = false then
      foldBest clientNs preferredNs (.preferredNamespace s) services
    else foldBest clientNs preferredNs (r.orFirst s) services

/-- `ServiceMatch::find_best_match`. -/
def findBestMatch (services : List Service) (clientNs preferredNs : Option Strng) :
    Option Service :=
  (foldBest clientNs preferredNs .none services).service

end ServiceMatch

namespace ServiceStore

/-- `ServiceStore::get_by_host`. -/
def getByHost (store : ServiceStore) (hostname : Strng) : Option (List Service) :=
  store.byHost hostname

/-- `ServiceStore::get_best_by_host`. -/
def getBestByHost (store : ServiceStore) (hostname : Strng) (ns : Option Strng) : Option Service :=
  (store.getByHost hostname).bind fun services ↦ ServiceMatch.findBestMatch services ns none

/-- `ServiceStore::get_by_workload`. -/
def getByWorkload (store : ServiceStore) (workload : Workload) : List Service :=
  workload.services.filterMap store.getByNamespacedHost

end ServiceStore

/-- `Service::contains_endpoint`. -/
def Service.containsEndpoint (service : Service) (wl : Workload) : Bool :=
  (service.endpoints.lookup wl.uid).isSome

/-! ### Destinations -/

/-- `address::Address`. -/
inductive Address where
  | workload (w : Workload)
  | service (s : Service)

/-- The waypoint of a workload or of a service. -/
def Address.waypoint : Address → Option GatewayAddress
  | workload w => w.waypoint
  | service s => s.waypoint

namespace ProxyState

/-- `ProxyState::find_address`. -/
def findAddress (state : ProxyState) (addr : NetworkAddress) : Option (Option Address) := do
  match ← state.workloads.findAddress addr with
  | none => return (state.services.getByVip addr).map .service
  | some wl => return some (.workload wl)

variable (order : WorkloadStore → List Strng)

/-- `ProxyState::find_hostname`, for an iteration order of the workloads. -/
def findHostname (state : ProxyState) (name : NamespacedHostname) : Option Address :=
  ((state.services.getByNamespacedHost name).map .service).or
    ((((order state.workloads).filterMap state.workloads.byUid).find? fun w ↦
      w.hostname == name.hostname && w.namespace == name.namespace).map .workload)

/-- `ProxyState::find_destination`. -/
def findDestination (state : ProxyState) : Destination → Option (Option Address)
  | .address addr => state.findAddress addr
  | .hostname hostname => some (state.findHostname order hostname)

end ProxyState

end Ztunnel.State
