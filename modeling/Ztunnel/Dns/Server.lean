import Ztunnel.Dns.Name
import Ztunnel.Lib.KeepFirst
import Ztunnel.State.Destination

/-!
# The DNS server's search for a service (`dns/server.rs`)

`Store::find_server` looks for the service that a client means by a name. A client may leave out a
part of the name of a Kubernetes service, and its resolver may have appended a search domain, so the
name stands for several aliases (`get_aliases`), and a service may be registered for a wildcard.

Some conversions panic when they fail: the domain, the namespace of the client and the search
domains have to be names, and appended names must not be too long. A function that may panic gives
an `Option` here, and `none` is the panic, outside of the option that the source returns. The other
calls of `unwrap` and `expect` cannot fail: `SVC` is a name, a part of a name is one, and the
service domain is printed with a dot at its end because it is fully qualified, which is a field of
`Store`.
-/

namespace Ztunnel.Dns

open State

variable {N : Type}

/-! ### Search domains -/

/-- `SearchDomains`, the search domains of a `SystemForwarder`. -/
inductive SearchDomains (N : Type) where
  | static (domains : List N)
  | dynamic (clusterDomain : String)

/-- `SystemForwarder::search_domains`. -/
def SearchDomains.searchDomains (lib : NameLib N) : SearchDomains N → Workload → Option (List N)
  | .static domains, _ => some domains
  | .dynamic clusterDomain, wl => do
    let namespaceDomain ← lib.fromUtf8 (wl.namespace ++ ".svc." ++ clusterDomain)
    let svcDomain ← lib.fromUtf8 ("svc." ++ clusterDomain)
    let domain ← lib.fromUtf8 clusterDomain
    return [namespaceDomain, svcDomain, domain]

/-! ### The store -/

/-- `Store`, as far as the search reads it. The forwarder is there for its search domains. -/
structure Store (lib : NameLib N) where
  searchDomains : Workload → Option (List N)
  domain : N
  svcDomain : N
  preferedServiceNamespace : Option Strng
  /-- The service domain is `svc` and the domain. -/
  labels_svcDomain : lib.labels svcDomain = svcLabel :: lib.labels domain
  isFqdn_svcDomain : lib.isFqdn svcDomain = true

/-- `Alias`. -/
structure Alias (N : Type) where
  name : N
  stripped : Option N

/-- `ServerMatch`. The server is a service, as long as workloads are not looked up. -/
structure ServerMatch (N : Type) where
  name : N
  «alias» : Alias N
  server : Service

namespace Store

/-- `Store::new`. -/
def new (lib : NameLib N) (domain : String) (searchDomains : Workload → Option (List N))
    (preferedServiceNamespace : Option Strng) : Option (Store lib) :=
  match lib.fromStr domain with
  | none => none
  | some domain =>
    match h : lib.appendDomain lib.svc domain with
    | none => none
    | some svcDomain =>
      have hsvc := lib.appendDomain_eq_some _ _ _ h
      some
        { searchDomains
          domain
          svcDomain
          preferedServiceNamespace
          labels_svcDomain := by rw [hsvc.1, lib.labels_svc, List.singleton_append]
          isFqdn_svcDomain := hsvc.2 }

variable {lib : NameLib N} (store : Store lib)

/-! ### Aliases -/

/-- `to_kube_fqdns`. -/
def toKubeFqdns (name namespacedDomain : N) : Option (List N) :=
  match (lib.labels name).length with
  | 1 => do
    let service ← lib.appendDomain name namespacedDomain
    return [service]
  | 2 => do
    let service ← lib.appendDomain name store.svcDomain
    let pod ← lib.appendDomain name namespacedDomain
    return [service, pod]
  | 3 => do
    let out ←
      if lib.hasDomain name lib.svc then (lib.appendDomain name store.domain).map fun service ↦
        [service]
      else some []
    let pod ← lib.appendDomain name store.svcDomain
    return out ++ [pod]
  | 4 =>
    if lib.hasDomain name lib.svc then (lib.appendDomain name store.domain).map fun pod ↦ [pod]
    else some []
  | _ => some []

/-- `add_alias`. The names of `out` are those of the set `added`. -/
def addAlias (lib : NameLib N) : List (Alias N) → Alias N → List (Alias N) :=
  KeepFirst.push fun new other ↦ lib.eq new.name other.name

/-- One turn of the loop of `get_aliases` over the search domains. -/
def addSearchDomain (name namespacedDomain : N) (out : List (Alias N)) (searchDomain : N) :
    Option (List (Alias N)) :=
  match lib.trimDomain name searchDomain with
  | none => some out
  | some stripped => do
    let out := addAlias lib out ⟨stripped, some stripped⟩
    let kubeFqdns ← store.toKubeFqdns stripped namespacedDomain
    return kubeFqdns.foldl (fun out kubeFqdn ↦ addAlias lib out ⟨kubeFqdn, some stripped⟩) out

/-- `get_aliases`. -/
def getAliases (client : Workload) (name : N) : Option (List (Alias N)) := do
  let out := addAlias lib [] ⟨name, none⟩
  let ns ← lib.fromStr client.namespace
  let namespacedDomain ← lib.appendDomain ns store.svcDomain
  let kubeFqdns ← store.toKubeFqdns name namespacedDomain
  let out := kubeFqdns.foldl (fun out kubeFqdn ↦ addAlias lib out ⟨kubeFqdn, none⟩) out
  let searchDomains ← store.searchDomains client
  searchDomains.foldlM (store.addSearchDomain name namespacedDomain) out

/-! ### Services -/

end Store

/-- `str::strip_suffix`, with a dot. -/
def stripDot (text : String) : Option String :=
  if text.toList.getLast? = some '.' then some (String.ofList text.toList.dropLast) else none

theorem isSome_stripDot (text : String) : (stripDot (text ++ ".")).isSome = true := by
  have hlast : (text ++ ".").toList.getLast? = some '.' := by
    rw [String.toList_append]
    exact List.getLast?_concat
  rw [stripDot, if_pos hlast, Option.isSome_some]

namespace Store

variable {lib : NameLib N} (store : Store lib)

theorem isSome_stripDot_svcDomain :
    (stripDot ("." ++ lib.toUtf8 store.svcDomain)).isSome = true := by
  obtain ⟨text, htext⟩ := lib.toUtf8_of_isFqdn _ store.isFqdn_svcDomain
  rw [htext, ← String.append_assoc]
  exact isSome_stripDot _

/-- The service domain behind a dot, as hostnames end with it. -/
def svcSuffix : String :=
  (stripDot ("." ++ lib.toUtf8 store.svcDomain)).get store.isSome_stripDot_svcDomain

/-- The services of a hostname that have a VIP or are Kubernetes services. -/
def eligible (services : ServiceStore) (host : Strng) : List Service :=
  ((services.getByHost host).getD []).filter fun service ↦
    !service.vips.isEmpty || service.hostname.endsWith store.svcSuffix

/-- The hostname that a name is looked up as. -/
def hostOf (lib : NameLib N) (searchName : N) : Strng := lib.display (lib.setFqdn searchName false)

/-- The best of the services for a client. -/
def bestMatch (services : List Service) (client : Workload) : Option Service :=
  ServiceMatch.findBestMatch services (some client.namespace)
    (some (store.preferedServiceNamespace.getD ""))

/-- One turn of the inner loop of `find_server`. -/
def matchName (services : ServiceStore) (client : Workload) («alias» : Alias N) (searchName : N) :
    Option (ServerMatch N) :=
  (store.bestMatch (store.eligible services (hostOf lib searchName)) client).map fun service ↦
    ⟨lib.setFqdn (lib.setFqdn searchName false) true, «alias», service⟩

/-- `find_server`. -/
def findServer (services : ServiceStore) (client : Workload) (requestedName : N) :
    Option (Option (ServerMatch N)) :=
  (store.getAliases client requestedName).map fun aliases ↦
    aliases.findSome? fun «alias» ↦
      (lib.getWildcards «alias».name).findSome? (store.matchName services client «alias»)

end Store

end Ztunnel.Dns
