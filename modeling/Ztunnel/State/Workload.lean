import Mathlib.Data.Finset.Basic
import Ztunnel.Rbac.Policy

/-!
# Workloads

`state/workload.rs`: the workload a proxy knows about, its conversion from the wire with every way
in which the conversion fails, and the store of workloads with its three indices.

Enumerations arrive as the raw `i32` of the wire. The two decoders of `prost` messages that occur
inside an extension are parameters (`Decoders`): the policy reference, whose contents are stored,
and every other extension, of which only the failure matters here (the labels and the egress
policies that some of them carry are read by nothing in this development).

A `HashMap` is a function into `Option`. A set of UIDs is a `Finset`, whose iteration order is not
fixed; `findByInfo` takes the order as an argument.
-/

namespace Ztunnel.State

open Ztunnel.Rbac (Identity)

/-- `strng::Strng`. -/
abbrev Strng := String

/-- `str::split_once`. -/
def splitOnce (sep : Char) (s : Strng) : Option (Strng × Strng) :=
  match s.toList.span (· != sep) with
  | (before, _ :: after) => some (String.ofList before, String.ofList after)
  | (_, []) => none

/-! ### The parts of a workload -/

/-- `HealthStatus`. -/
inductive HealthStatus where
  | healthy
  | unhealthy
deriving DecidableEq, Repr

/-- `InboundProtocol`. -/
inductive InboundProtocol where
  | tcp
  | hbone
deriving DecidableEq, Repr

/-- `NetworkMode`. -/
inductive NetworkMode where
  | standard
  | hostNetwork
deriving DecidableEq, Repr

/-- `NamespacedHostname`. -/
structure NamespacedHostname where
  «namespace» : Strng
  hostname : Strng
deriving DecidableEq, Repr

/-- `NetworkAddress`. -/
structure NetworkAddress where
  network : Strng
  address : IpAddr
deriving DecidableEq, Repr

/-- `gatewayaddress::Destination`. -/
inductive Destination where
  | address (addr : NetworkAddress)
  | hostname (host : NamespacedHostname)
deriving DecidableEq, Repr

/-- `GatewayAddress`. -/
structure GatewayAddress where
  destination : Destination
  hboneMtlsPort : UInt16
deriving DecidableEq, Repr

/-- `application_tunnel::Protocol`. -/
inductive TunnelProtocol where
  | none
  | proxy
deriving DecidableEq, Repr

/-- `ApplicationTunnel`. -/
structure ApplicationTunnel where
  protocol : TunnelProtocol
  port : Option UInt16
deriving DecidableEq, Repr

/-- `Locality`. -/
structure Locality where
  region : Strng
  zone : Strng
  subzone : Strng
deriving DecidableEq, Repr, Inhabited

/-- `Workload`, without the fields that are only reported (workload name and type, canonical name
and revision, labels) and the egress policies. -/
structure Workload where
  workloadIps : List IpAddr
  waypoint : Option GatewayAddress
  protocol : InboundProtocol
  networkMode : NetworkMode
  uid : Strng
  name : Strng
  «namespace» : Strng
  trustDomain : Strng
  serviceAccount : Strng
  network : Strng
  hostname : Strng
  node : Strng
  nativeTunnel : Bool
  applicationTunnel : Option ApplicationTunnel
  status : HealthStatus
  clusterId : Strng
  locality : Locality
  services : List NamespacedHostname
  capacity : UInt32
  /-- `none` when the binding has not been delivered; an empty list permits an empty stage. -/
  trafficPolicyRefs : Option (List Strng)
deriving DecidableEq, Repr

/-- `Workload::identity`. -/
def Workload.identity (w : Workload) : Identity :=
  ⟨w.trustDomain, w.namespace, w.serviceAccount⟩

/-! ### Conversion from the wire -/

/-- `WorkloadError`, as far as the conversion raises it. -/
inductive WorkloadError where
  | policyReference (message : String)
  | namespacedHostnameParse (value : String)
  | byteAddressParse (length : ℕ)
  | enumParse (message : String)
  | missingGatewayAddress
  | decodeError (message : String)
  | enumError (value : Int)
  | egressPolicy (message : String)
deriving DecidableEq, Repr

/-- An integer from bytes in network order. -/
def bitsOfBytes (w : ℕ) (bytes : List UInt8) : BitVec w :=
  bytes.foldl (fun acc byte ↦ acc <<< 8 ||| byte.toBitVec.setWidth w) 0#w

/-- `byte_to_ip`. -/
def byteToIp (bytes : List UInt8) : Except WorkloadError IpAddr :=
  if bytes.length = 4 then .ok (.v4 (bitsOfBytes 32 bytes))
  else if bytes.length = 16 then .ok (.v6 (bitsOfBytes 128 bytes))
  else .error (.byteAddressParse bytes.length)

/-- `TryFrom<i32>` of an enumeration with the given values. -/
def enumOf {α : Type} (values : List (Int × α)) (raw : Int) : Except WorkloadError α :=
  match values.find? fun v ↦ v.1 == raw with
  | some v => .ok v.2
  | none => .error (.enumError raw)

/-- The wire form of a port mapping. -/
structure Port where
  servicePort : UInt32
  targetPort : UInt32
deriving DecidableEq, Repr

/-- The wire form of a port list. -/
structure PortList where
  ports : List Port
deriving DecidableEq, Repr

/-- A map of service ports to target ports. -/
abbrev PortMap := UInt16 → Option UInt16

/-- `From<&PortList>`: both ports are cast to `u16`, and a later entry replaces an earlier one. -/
def PortList.toMap (list : PortList) : PortMap :=
  list.ports.foldl
    (fun m p ↦ Function.update m p.servicePort.toUInt16 (some p.targetPort.toUInt16)) fun _ ↦ none

/-- The wire form of a gateway address. -/
inductive XdsDestination where
  | address (network : String) (address : List UInt8)
  | hostname (host : NamespacedHostname)
deriving DecidableEq, Repr

structure XdsGatewayAddress where
  destination : Option XdsDestination
  hboneMtlsPort : UInt32
deriving DecidableEq, Repr

/-- `GatewayAddress::try_from`. -/
def GatewayAddress.tryFrom (value : XdsGatewayAddress) : Except WorkloadError GatewayAddress :=
  match value.destination with
  | some (.address network address) => do
    let ip ← byteToIp address
    pure ⟨.address ⟨network, ip⟩, value.hboneMtlsPort.toUInt16⟩
  | some (.hostname host) => pure ⟨.hostname host, value.hboneMtlsPort.toUInt16⟩
  | none => throw .missingGatewayAddress

structure XdsApplicationTunnel where
  protocol : Int
  port : UInt32
deriving DecidableEq, Repr

/-- `ApplicationTunnel::try_from`. -/
def ApplicationTunnel.tryFrom (value : XdsApplicationTunnel) :
    Except WorkloadError ApplicationTunnel := do
  let protocol ← enumOf [(0, TunnelProtocol.none), (1, .proxy)] value.protocol
  pure ⟨protocol, if value.port = 0 then none else some value.port.toUInt16⟩

/-- `google.protobuf.Any`. -/
structure ProtoAny where
  typeUrl : String
  value : List UInt8
deriving DecidableEq, Repr

/-- The wire form of an extension. -/
structure Extension where
  name : String
  config : Option ProtoAny
deriving DecidableEq, Repr

/-- `PolicyReference`: the type of the resources referred to, and their names. -/
structure PolicyReference where
  typeUrl : String
  resources : List String
deriving DecidableEq, Repr

/-- The decoders of the messages inside extensions. -/
structure Decoders where
  policyReference : List UInt8 → Except WorkloadError PolicyReference
  otherExtension : Extension → Except WorkloadError Unit

/-- The wire form of a workload, without the fields that are only reported. The entries of
`services` stand in the iteration order of the map. -/
structure XdsWorkload where
  uid : String
  name : String
  «namespace» : String
  addresses : List (List UInt8)
  hostname : String
  network : String
  tunnelProtocol : Int
  trustDomain : String
  serviceAccount : String
  waypoint : Option XdsGatewayAddress
  node : String
  nativeTunnel : Bool
  applicationTunnel : Option XdsApplicationTunnel
  services : List (String × PortList)
  status : Int
  clusterId : String
  locality : Option Locality
  networkMode : Int
  extensions : List Extension
  capacity : Option UInt32
deriving DecidableEq, Repr

/-- `NamespacedHostname::from_str`. -/
def NamespacedHostname.fromStr (value : String) : Except WorkloadError NamespacedHostname :=
  match splitOnce '/' value with
  | some (ns, hostname) => .ok ⟨ns, hostname⟩
  | none => .error (.namespacedHostnameParse value)

/-- What stands before and after the separator is the whole text. -/
theorem toList_of_splitOnce {sep : Char} {s before after : Strng}
    (h : splitOnce sep s = some (before, after)) :
    s.toList = before.toList ++ sep :: after.toList := by
  rw [splitOnce, List.span_eq_takeWhile_dropWhile] at h
  have hsplit := List.takeWhile_append_dropWhile (p := (· != sep)) (l := s.toList)
  rcases hrest : s.toList.dropWhile (· != sep) with - | ⟨c, rest⟩
  · rw [hrest] at h
    cases h
  · rw [hrest] at h hsplit
    obtain ⟨rfl, rfl⟩ := Prod.mk.inj (Option.some.inj h)
    have hsep : c = sep := by
      have hhead := List.head?_dropWhile_not (· != sep) s.toList
      rw [hrest, List.head?_cons] at hhead
      simpa using hhead
    rw [hsep] at hsplit
    rw [String.toList_ofList, String.toList_ofList, hsplit]

/-- Different texts are different names. -/
theorem NamespacedHostname.fromStr_injective {a b : String} {host : NamespacedHostname}
    (ha : fromStr a = .ok host) (hb : fromStr b = .ok host) : a = b := by
  have htext : ∀ s, fromStr s = .ok host →
      s.toList = host.namespace.toList ++ '/' :: host.hostname.toList := by
    intro s hs
    rw [fromStr] at hs
    rcases hsplit : splitOnce '/' s with - | ⟨ns, hostname⟩
    · rw [hsplit] at hs
      cases hs
    · rw [hsplit] at hs
      obtain rfl := Except.ok.inj hs
      exact toList_of_splitOnce hsplit
  exact String.toList_inj.1 ((htext a ha).trans (htext b hb).symm)

/-- The type of the shared policies. -/
def trafficPolicyType : String := "type.googleapis.com/agentio.security.TrafficPolicy"

/-- The loop over the extensions, with the references read so far. -/
def readExtensions (decoders : Decoders) :
    List Extension → Option (List Strng) → Except WorkloadError (Option (List Strng))
  | [], refs => .ok refs
  | extension :: extensions, refs =>
    if extension.name = "traffic-policy-reference" then
      match extension.config with
      | none => .error (.policyReference "missing config")
      | some config =>
        if refs.isSome ∨ config.typeUrl ≠
            "type.googleapis.com/kruise.networking.extensions.v1.PolicyReference" then
          .error (.policyReference "duplicate reference extension or invalid config type")
        else do
          let reference ← decoders.policyReference config.value
          if reference.typeUrl ≠ trafficPolicyType then
            .error (.policyReference ("unsupported policy type: " ++ reference.typeUrl))
          else readExtensions decoders extensions (some reference.resources)
    else do
      decoders.otherExtension extension
      readExtensions decoders extensions refs

/-- `Workload::validate_policies`, with the names seen so far. -/
def validateNames : List Strng → List Strng → Except WorkloadError Unit
  | _, [] => .ok ()
  | seen, name :: names =>
    if name = "" ∨ name = "*" ∨ name ∈ seen then
      .error (.policyReference ("invalid or duplicate policy name: " ++ name))
    else validateNames (name :: seen) names

/-- `Workload::validate_policies`. -/
def Workload.validatePolicies (w : Workload) : Except WorkloadError Unit :=
  match w.trafficPolicyRefs with
  | some names => validateNames [] names
  | none => .ok ()

/-- The default for an empty string. -/
def orDefault (value default : String) : String := if value = "" then default else value

/-- `TryFrom<XdsWorkload> for (Workload, HashMap<String, PortList>)`. -/
def Workload.tryFrom (decoders : Decoders) (resource : XdsWorkload) :
    Except WorkloadError (Workload × List (String × PortList)) := do
  let waypoint ← resource.waypoint.mapM GatewayAddress.tryFrom
  let applicationTunnel ← resource.applicationTunnel.mapM ApplicationTunnel.tryFrom
  let addresses ← resource.addresses.mapM byteToIp
  let services ← resource.services.mapM fun service ↦ NamespacedHostname.fromStr service.1
  let trafficPolicyRefs ← readExtensions decoders resource.extensions none
  let protocol ← enumOf [(0, InboundProtocol.tcp), (1, .hbone)] resource.tunnelProtocol
  let networkMode ← enumOf [(0, NetworkMode.standard), (1, .hostNetwork)] resource.networkMode
  let status ← enumOf [(0, HealthStatus.healthy), (1, .unhealthy)] resource.status
  let workload : Workload :=
    { workloadIps := addresses
      waypoint := waypoint
      protocol := protocol
      networkMode := networkMode
      uid := resource.uid
      name := resource.name
      «namespace» := resource.namespace
      trustDomain := orDefault resource.trustDomain "cluster.local"
      serviceAccount := orDefault resource.serviceAccount "default"
      network := resource.network
      hostname := resource.hostname
      node := resource.node
      nativeTunnel := resource.nativeTunnel
      applicationTunnel := applicationTunnel
      status := status
      clusterId := orDefault resource.clusterId "Kubernetes"
      locality := resource.locality.getD default
      services := services
      capacity := resource.capacity.getD 1
      trafficPolicyRefs := trafficPolicyRefs }
  workload.validatePolicies
  pure (workload, resource.services)

/-! ### Conversions that succeed -/

/-- The result of a sequence of fallible steps comes from each of them. -/
theorem bind_eq_ok {ε α β : Type} {x : Except ε α} {f : α → Except ε β} {b : β} :
    (x >>= f) = .ok b ↔ ∃ a, x = .ok a ∧ f a = .ok b := by
  cases x with
  | error e => simp [bind, Except.bind]
  | ok a => simp [bind, Except.bind]

theorem exists_ok_of_mapM {ε α β : Type} {f : α → Except ε β} {l : List α} {l' : List β}
    (h : l.mapM f = .ok l') : ∀ a ∈ l, ∃ b, f a = .ok b := by
  induction l generalizing l' with
  | nil => simp
  | cons a l ih =>
    rw [List.mapM_cons, bind_eq_ok] at h
    obtain ⟨b, hb, h⟩ := h
    obtain ⟨bs, hbs, -⟩ := bind_eq_ok.1 h
    intro a' ha'
    rcases List.mem_cons.1 ha' with rfl | ha'
    · exact ⟨b, hb⟩
    · exact ih hbs a' ha'

theorem forM_eq_ok {ε α : Type} {f : α → Except ε Unit} {l : List α} :
    l.forM f = .ok () ↔ ∀ a ∈ l, f a = .ok () := by
  induction l with
  | nil => exact ⟨fun _ _ ha ↦ absurd ha List.not_mem_nil, fun _ ↦ rfl⟩
  | cons a l ih =>
    show (f a >>= fun _ ↦ l.forM f) = .ok () ↔ _
    rw [bind_eq_ok, List.forall_mem_cons, ← ih]
    exact ⟨fun ⟨(), ha, hl⟩ ↦ ⟨ha, hl⟩, fun ⟨ha, hl⟩ ↦ ⟨(), ha, hl⟩⟩

@[simp]
theorem mapError_eq_ok {ε ε' α : Type} {f : ε → ε'} {x : Except ε α} {a : α} :
    x.mapError f = .ok a ↔ x = .ok a := by
  cases x with
  | error e => simp [Except.mapError]
  | ok b => simp [Except.mapError]

/-- The names that pass are distinct, not among those seen, and neither empty nor the wildcard. -/
theorem validateNames_eq_ok {seen names : List Strng} (h : validateNames seen names = .ok ()) :
    names.Nodup ∧ ∀ name ∈ names, name ∉ seen ∧ name ≠ "" ∧ name ≠ "*" := by
  induction names generalizing seen with
  | nil => simp
  | cons name names ih =>
    rw [validateNames] at h
    split at h
    next => cases h
    next hok =>
      obtain ⟨hempty, hwildcard, hseen⟩ : name ≠ "" ∧ name ≠ "*" ∧ name ∉ seen := by
        simpa only [not_or] using hok
      obtain ⟨hnodup, hrest⟩ := ih h
      refine ⟨List.nodup_cons.2 ⟨fun hmem ↦ ?_, hnodup⟩, List.forall_mem_cons.2
        ⟨⟨hseen, hempty, hwildcard⟩, fun name' hmem ↦ ?_⟩⟩
      · exact (hrest name hmem).1 List.mem_cons_self
      · obtain ⟨hnot, hok'⟩ := hrest name' hmem
        exact ⟨fun hin ↦ hnot (List.mem_cons_of_mem name hin), hok'⟩

/-- The policies that a workload refers to are distinct, and each of them is a name that a policy
can have. -/
def Workload.ReferencesValid (w : Workload) : Prop :=
  ∀ names ∈ w.trafficPolicyRefs, names.Nodup ∧ "" ∉ names ∧ "*" ∉ names

theorem Workload.referencesValid_of_validatePolicies {w : Workload}
    (h : w.validatePolicies = .ok ()) : w.ReferencesValid := by
  intro names hnames
  have hok : validateNames [] names = .ok () := by
    simpa only [Workload.validatePolicies, Option.mem_def.1 hnames] using h
  obtain ⟨hnodup, hall⟩ := validateNames_eq_ok hok
  exact ⟨hnodup, fun hmem ↦ (hall _ hmem).2.1 rfl, fun hmem ↦ (hall _ hmem).2.2 rfl⟩

/-- The conversion ends with this check. -/
theorem Workload.referencesValid_of_tryFrom {decoders : Decoders} {resource : XdsWorkload}
    {w : Workload} {services : List (String × PortList)}
    (h : Workload.tryFrom decoders resource = .ok (w, services)) : w.ReferencesValid := by
  simp only [Workload.tryFrom, bind_eq_ok] at h
  obtain ⟨_, -, _, -, _, -, _, -, _, -, _, -, _, -, _, -, _, hvalid, hpure⟩ := h
  obtain ⟨rfl, -⟩ := Prod.mk.inj (Except.ok.inj hpure)
  exact Workload.referencesValid_of_validatePolicies hvalid

/-! ### The store -/

/-- `WorkloadInfo`: what a proxy instance knows about the workload it serves. -/
structure WorkloadInfo where
  name : String
  «namespace» : String
  serviceAccount : String
deriving DecidableEq, Repr

/-- `WorkloadInfo::matches`. -/
def WorkloadInfo.«matches» (info : WorkloadInfo) (w : Workload) : Bool :=
  info.name == w.name && info.namespace == w.namespace && info.serviceAccount == w.serviceAccount

/-- `WorkloadIdentity`: an identity without its trust domain. -/
structure WorkloadIdentity where
  «namespace» : Strng
  serviceAccount : Strng
deriving DecidableEq, Repr

/-- `From<&Identity>`, at the identity of a workload. -/
def Workload.nodeIdentity (w : Workload) : WorkloadIdentity := ⟨w.namespace, w.serviceAccount⟩

/-- `WorkloadByAddr`. -/
inductive WorkloadByAddr where
  | single (workload : Workload)
  | many (workloads : List Workload)
deriving DecidableEq, Repr

/-- `WorkloadByAddr::insert`. -/
def WorkloadByAddr.insert : WorkloadByAddr → Workload → WorkloadByAddr
  | .single workload, w => .many [workload, w]
  | .many workloads, w => .many (workloads ++ [w])

/-- `WorkloadByAddr::remove_uid`; `none` when no workload remains. -/
def WorkloadByAddr.removeUid : WorkloadByAddr → Strng → Option WorkloadByAddr
  | .single workload, uid => if workload.uid = uid then none else some (.single workload)
  | .many workloads, uid =>
    match workloads.filter (·.uid != uid) with
    | [] => none
    | [workload] => some (.single workload)
    | rest => some (.many rest)

/-- `Iterator::max_by_key`: of several maximal elements, the last. -/
def maxByKey {α : Type} (key : α → ℕ) : List α → Option α
  | [] => none
  | a :: l => some (l.foldl (fun best x ↦ if key best ≤ key x then x else best) a)

/-- The ranking of `WorkloadByAddr::get`. -/
def Workload.addressRank (w : Workload) : ℕ :=
  let isPod := decide ("//Pod/".toList <:+: w.uid.toList)
  let isHbone := decide (w.protocol = .hbone)
  match isPod, isHbone with
  | true, true => 3
  | true, false => 2
  | false, true => 1
  | false, false => 0

/-- `WorkloadByAddr::get`; `none` is the panic of its `expect`. -/
def WorkloadByAddr.get : WorkloadByAddr → Option Workload
  | .single workload => some workload
  | .many workloads => maxByKey Workload.addressRank workloads

/-- `WorkloadStore`. The notifier of inserts is the number of its notifications. -/
structure WorkloadStore where
  localNode : Option Strng
  insertNotifier : ℕ
  byAddr : NetworkAddress → Option WorkloadByAddr
  byUid : Strng → Option Workload
  nodeLocalByIdentity : WorkloadIdentity → Option (Finset Strng)

namespace WorkloadStore

/-- `WorkloadStore::new`. -/
def new (localNode : Option Strng) : WorkloadStore where
  localNode := localNode
  insertNotifier := 0
  byAddr := fun _ ↦ none
  byUid := fun _ ↦ none
  nodeLocalByIdentity := fun _ ↦ none

/-- The keys of a workload in the address index. -/
def addresses (w : Workload) : List NetworkAddress :=
  if w.networkMode = .hostNetwork then [] else w.workloadIps.map (⟨w.network, ·⟩)

/-- `WorkloadStore::remove`. -/
def remove (store : WorkloadStore) (uid : Strng) : Option Workload × WorkloadStore :=
  match store.byUid uid with
  | none => (none, store)
  | some prev =>
    let byAddr := (addresses prev).foldl (fun byAddr addr ↦
      Function.update byAddr addr ((byAddr addr).bind (·.removeUid prev.uid))) store.byAddr
    let nodeLocalByIdentity := Function.update store.nodeLocalByIdentity prev.nodeIdentity
      ((store.nodeLocalByIdentity prev.nodeIdentity).bind fun set ↦
        if set.erase prev.uid = ∅ then none else some (set.erase prev.uid))
    (some prev, { store with
      byAddr := byAddr
      byUid := Function.update store.byUid uid none
      nodeLocalByIdentity := nodeLocalByIdentity })

/-- `WorkloadStore::insert`. -/
def insert (store : WorkloadStore) (w : Workload) : WorkloadStore :=
  let store := (store.remove w.uid).2
  let byAddr := (addresses w).foldl (fun byAddr addr ↦
    Function.update byAddr addr (some (match byAddr addr with
      | some ws => ws.insert w
      | none => .single w))) store.byAddr
  let nodeLocalByIdentity :=
    if store.localNode.isNone ∨ store.localNode = some w.node then
      Function.update store.nodeLocalByIdentity w.nodeIdentity
        (some (Insert.insert w.uid ((store.nodeLocalByIdentity w.nodeIdentity).getD ∅)))
    else store.nodeLocalByIdentity
  { store with
    byAddr := byAddr
    byUid := Function.update store.byUid w.uid (some w)
    nodeLocalByIdentity := nodeLocalByIdentity
    insertNotifier := store.insertNotifier + 1 }

/-- `WorkloadStore::find_address`; `none` is the panic of `WorkloadByAddr::get`. -/
def findAddress (store : WorkloadStore) (addr : NetworkAddress) : Option (Option Workload) :=
  match store.byAddr addr with
  | some ws => ws.get.map some
  | none => some none

/-- `WorkloadStore::find_uid`. -/
def findUid (store : WorkloadStore) (uid : Strng) : Option Workload := store.byUid uid

/-- `WorkloadStore::find_by_info`, for an iteration order of the set of candidates. -/
def findByInfo (store : WorkloadStore) (order : Finset Strng → List Strng) (info : WorkloadInfo) :
    Option Workload :=
  (store.nodeLocalByIdentity ⟨info.namespace, info.serviceAccount⟩).bind fun set ↦
    (order set).findSome? fun uid ↦ (store.byUid uid).filter info.matches

/-- `WorkloadStore::was_last_identity_on_node`. -/
def wasLastIdentityOnNode (store : WorkloadStore) (nodeName : Strng) (identity : WorkloadIdentity) :
    Bool :=
  if store.localNode.isNone ∨ store.localNode = some nodeName then
    (store.nodeLocalByIdentity identity).isNone
  else false

@[simp] theorem remove_fst (store : WorkloadStore) (uid : Strng) :
    (store.remove uid).1 = store.byUid uid := by
  unfold remove
  split <;> simp_all

/-- Removing a UID removes it from the main index and nothing else. -/
@[simp] theorem remove_byUid (store : WorkloadStore) (uid : Strng) :
    (store.remove uid).2.byUid = Function.update store.byUid uid none := by
  unfold remove
  split
  · next h => rw [← h, Function.update_eq_self]
  · rfl

@[simp] theorem insert_byUid (store : WorkloadStore) (w : Workload) :
    (store.insert w).byUid = Function.update store.byUid w.uid (some w) := by
  simp [insert]

end WorkloadStore

end Ztunnel.State
