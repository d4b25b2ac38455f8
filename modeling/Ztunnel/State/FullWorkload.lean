import Ztunnel.Lib.StdHash
import Ztunnel.State.Workload

/-!
# Workloads with all their fields, and their hash

`FullWorkload` is the `Workload` of `state/workload.rs` with the fields that are only reported and
with the egress policies of `extensions/extensions.rs`.

A policy is hashed by hand: the names of its namespaces are hashed in the order of iteration of the
set that they are in. Two equal sets may be iterated over in different orders, and then the
policies, and the workloads that have them, do not hash alike (`hash_agrees_iff`).
-/

namespace Ztunnel.State

open StdHash

/-! ### Egress policies -/

/-- `EgressPolicyAction`. -/
inductive EgressPolicyAction where
  | passthrough
  | deny
  | gateway
deriving DecidableEq, Repr

/-- `EgressPolicy`. -/
structure EgressPolicy where
  namespaces : HashSet String
  matchCidrs : List IpNet
  matchPorts : List UInt16
  policy : EgressPolicyAction
  gateway : Option GatewayAddress

/-- `EgressPolicies`. -/
structure EgressPolicies where
  policies : List EgressPolicy

/-- `Workload`. -/
structure FullWorkload extends Workload where
  workloadName : Strng
  workloadType : Strng
  canonicalName : Strng
  canonicalRevision : Strng
  encodedLabels : Option Strng
  egressPolicies : Option EgressPolicies

/-! ### Equality -/

/-- `==` of policies. -/
def EgressPolicy.Same (p q : EgressPolicy) : Prop :=
  p.namespaces.Same q.namespaces ∧ p.matchCidrs = q.matchCidrs ∧ p.matchPorts = q.matchPorts ∧
    p.policy = q.policy ∧ p.gateway = q.gateway

/-- `==` of lists of policies. -/
def EgressPolicies.Same (p q : EgressPolicies) : Prop :=
  List.Forall₂ EgressPolicy.Same p.policies q.policies

/-- `==` of workloads. -/
def FullWorkload.Same (w w' : FullWorkload) : Prop :=
  w.toWorkload = w'.toWorkload ∧ w.workloadName = w'.workloadName ∧
    w.workloadType = w'.workloadType ∧ w.canonicalName = w'.canonicalName ∧
    w.canonicalRevision = w'.canonicalRevision ∧ w.encodedLabels = w'.encodedLabels ∧
    Option.Rel EgressPolicies.Same w.egressPolicies w'.egressPolicies

/-! ### Hashing

How the addresses and networks of the libraries are hashed does not matter. -/

section Hash

variable [Hashed IpAddr] [Hashed IpNet]

instance hashedInboundProtocol : Hashed InboundProtocol where
  calls
    | .tcp => [.writeIsize 0]
    | .hbone => [.writeIsize 1]

instance hashedNetworkMode : Hashed NetworkMode where
  calls
    | .standard => [.writeIsize 0]
    | .hostNetwork => [.writeIsize 1]

instance hashedHealthStatus : Hashed HealthStatus where
  calls
    | .healthy => [.writeIsize 0]
    | .unhealthy => [.writeIsize 1]

instance hashedTunnelProtocol : Hashed TunnelProtocol where
  calls
    | .none => [.writeIsize 0]
    | .proxy => [.writeIsize 1]

instance hashedNamespacedHostname : Hashed NamespacedHostname where
  calls host := Hashed.calls host.namespace ++ Hashed.calls host.hostname

instance hashedNetworkAddress : Hashed NetworkAddress where
  calls addr := Hashed.calls addr.network ++ Hashed.calls addr.address

instance hashedDestination : Hashed Destination where
  calls
    | .address addr => .writeIsize 0 :: Hashed.calls addr
    | .hostname host => .writeIsize 1 :: Hashed.calls host

instance hashedGatewayAddress : Hashed GatewayAddress where
  calls gw := Hashed.calls gw.destination ++ Hashed.calls gw.hboneMtlsPort

instance hashedApplicationTunnel : Hashed ApplicationTunnel where
  calls tunnel := Hashed.calls tunnel.protocol ++ Hashed.calls tunnel.port

instance hashedLocality : Hashed Locality where
  calls l := Hashed.calls l.region ++ Hashed.calls l.zone ++ Hashed.calls l.subzone

instance hashedEgressPolicyAction : Hashed EgressPolicyAction where
  calls
    | .passthrough => [.writeIsize 0]
    | .deny => [.writeIsize 1]
    | .gateway => [.writeIsize 2]

/-- What `EgressPolicy::hash` does after its first loop. -/
def EgressPolicy.matchCalls (p : EgressPolicy) : List Call :=
  Hashed.calls p.matchCidrs ++ Hashed.calls p.matchPorts ++ Hashed.calls p.policy ++
    Hashed.calls p.gateway

/-- `EgressPolicy::hash`. -/
instance hashedEgressPolicy : Hashed EgressPolicy where
  calls p := p.namespaces.elements.flatMap Hashed.calls ++ p.matchCalls

/-- `EgressPolicies::hash`. -/
instance hashedEgressPolicies : Hashed EgressPolicies where
  calls p := Hashed.calls p.policies

/-- The fields of a workload before its egress policies. -/
def FullWorkload.callsBefore (w : FullWorkload) : List Call :=
  Hashed.calls w.workloadIps ++ Hashed.calls w.waypoint ++ Hashed.calls w.protocol ++
    Hashed.calls w.networkMode ++ Hashed.calls w.uid ++ Hashed.calls w.name ++
    Hashed.calls w.namespace ++ Hashed.calls w.trustDomain ++ Hashed.calls w.serviceAccount ++
    Hashed.calls w.network ++ Hashed.calls w.workloadName ++ Hashed.calls w.workloadType ++
    Hashed.calls w.canonicalName ++ Hashed.calls w.canonicalRevision ++ Hashed.calls w.hostname ++
    Hashed.calls w.node ++ Hashed.calls w.nativeTunnel ++ Hashed.calls w.applicationTunnel ++
    Hashed.calls w.status ++ Hashed.calls w.clusterId ++ Hashed.calls w.locality ++
    Hashed.calls w.services ++ Hashed.calls w.capacity ++ Hashed.calls w.encodedLabels

/-- The derived hash of `Workload`. -/
instance hashedFullWorkload : Hashed FullWorkload where
  calls w := w.callsBefore ++ Hashed.calls w.egressPolicies ++ Hashed.calls w.trafficPolicyRefs

/-! ### When equal values hash alike -/

/-- The orders in which the namespaces of the policies of a workload are iterated over. -/
def FullWorkload.namespaceOrders (w : FullWorkload) : List (List String) :=
  (w.egressPolicies.map (·.policies)).getD [] |>.map (·.namespaces.elements)

section Policies

variable {p q : EgressPolicy}

theorem EgressPolicy.Same.matchCalls (h : p.Same q) : p.matchCalls = q.matchCalls := by
  obtain ⟨-, hcidrs, hports, hpolicy, hgateway⟩ := h
  rw [EgressPolicy.matchCalls, EgressPolicy.matchCalls, hcidrs, hports, hpolicy, hgateway]

theorem EgressPolicy.Same.length_calls (h : p.Same q) :
    (Hashed.calls p).length = (Hashed.calls q).length := by
  have hperm := HashSet.same_iff_perm.1 h.1
  show (p.namespaces.elements.flatMap Hashed.calls ++ p.matchCalls).length =
    (q.namespaces.elements.flatMap Hashed.calls ++ q.matchCalls).length
  rw [h.matchCalls, List.length_append, List.length_append, (hperm.flatMap_right _).length_eq]

/-- **Equal policies make the same calls** exactly if their namespaces come in the same order. -/
theorem EgressPolicy.Same.calls_eq_iff (h : p.Same q) :
    Hashed.calls p = Hashed.calls q ↔ p.namespaces.elements = q.namespaces.elements := by
  show p.namespaces.elements.flatMap Hashed.calls ++ p.matchCalls =
    q.namespaces.elements.flatMap Hashed.calls ++ q.matchCalls ↔ _
  rw [h.matchCalls, List.append_left_inj]
  exact flatMap_calls_string_inj h.1.1

/-- Equal lists of policies, one policy after the other. -/
theorem flatMap_calls_eq_iff {ps qs : List EgressPolicy}
    (h : List.Forall₂ EgressPolicy.Same ps qs) :
    ps.flatMap Hashed.calls = qs.flatMap Hashed.calls ↔
      ps.map (·.namespaces.elements) = qs.map (·.namespaces.elements) := by
  induction h with
  | nil => exact iff_of_true rfl rfl
  | cons hpq _ ih =>
    rw [List.flatMap_cons, List.flatMap_cons, List.map_cons, List.map_cons, List.cons.injEq,
      ← hpq.calls_eq_iff, ← ih]
    exact ⟨fun heq ↦ List.append_inj heq hpq.length_calls, fun heq ↦ by rw [heq.1, heq.2]⟩

end Policies

/-- **Equal workloads make the same calls** exactly if the namespaces of each of their policies come
in the same order. -/
theorem FullWorkload.Same.calls_eq_iff {w w' : FullWorkload} (h : w.Same w') :
    Hashed.calls w = Hashed.calls w' ↔ w.namespaceOrders = w'.namespaceOrders := by
  obtain ⟨base, name, type, canonicalName, revision, labels, policies⟩ := w
  obtain ⟨base', name', type', canonicalName', revision', labels', policies'⟩ := w'
  obtain ⟨rfl, rfl, rfl, rfl, rfl, rfl, hpolicies⟩ := h
  refine Iff.trans (List.append_left_inj _) (Iff.trans (List.append_right_inj _) ?_)
  cases hpolicies with
  | none => exact iff_of_true rfl rfl
  | @some ps qs hsame =>
    have hlen : ps.policies.length = qs.policies.length := hsame.length_eq
    show Call.writeIsize 1 :: Call.writeUsize ps.policies.length :: ps.policies.flatMap _ =
      Call.writeIsize 1 :: Call.writeUsize qs.policies.length :: qs.policies.flatMap _ ↔
        ps.policies.map _ = qs.policies.map _
    rw [hlen, List.cons_inj_right, List.cons_inj_right]
    exact flatMap_calls_eq_iff hsame

/-- **Hash and equality.** That two policies hash alike if they are equal holds exactly if their
namespaces come in the same order if they are equal; and likewise for two workloads and the
namespaces of each of their policies. -/
theorem hash_agrees_iff (p q : EgressPolicy) (w w' : FullWorkload) :
    ((p.Same q → HashAlike p q) ↔
      (p.Same q → p.namespaces.elements = q.namespaces.elements)) ∧
    ((w.Same w' → HashAlike w w') ↔ (w.Same w' → w.namespaceOrders = w'.namespaceOrders)) :=
  ⟨imp_congr_right fun h ↦ hashAlike_iff.trans h.calls_eq_iff,
    imp_congr_right fun h ↦ hashAlike_iff.trans h.calls_eq_iff⟩

end Hash

/-! ### A policy for two namespaces -/

/-- The bytes of an integer, the lowest first. -/
def leBytes : ℕ → ℕ → List UInt8
  | 0, _ => []
  | k + 1, n => UInt8.ofNat n :: leBytes k (n / 256)

/-- What the default methods of `Hasher` pass on to `write`, on 64-bit targets. -/
def callBytes : Call → List UInt8
  | .write bytes => bytes
  | .writeU8 i => [i]
  | .writeU16 i => leBytes 2 i.toNat
  | .writeU32 i => leBytes 4 i.toNat
  | .writeUsize i => leBytes 8 i
  | .writeIsize i => leBytes 8 (i % 18446744073709551616).toNat

/-- FNV-1a. -/
def fnv : Hasher UInt64 where
  call s c := (callBytes c).foldl (fun s b ↦ (s ^^^ b.toUInt64) * 0x100000001b3) s
  finish s := s

/-- A policy that passes the traffic of some namespaces. -/
def passthroughFor (namespaces : HashSet String) : EgressPolicy :=
  ⟨namespaces, [], [], .passthrough, none⟩

/-- The set of `a` and `b`, in one order and in the other. -/
theorem namespace_order_hashed :
    let p := passthroughFor ⟨["a", "b"], by decide⟩
    let q := passthroughFor ⟨["b", "a"], by decide⟩
    p.Same q ∧ ∀ (_ : Hashed IpAddr) (_ : Hashed IpNet),
      fnv.result 0xcbf29ce484222325 p ≠ fnv.result 0xcbf29ce484222325 q := by
  intro p q
  refine ⟨⟨⟨rfl, by decide⟩, rfl, rfl, rfl, rfl⟩, fun _ _ ↦ ?_⟩
  have hp : Hashed.calls p = [.write [97], .writeU8 0xff, .write [98], .writeU8 0xff,
      .writeUsize 0, .writeUsize 0, .writeIsize 0, .writeIsize 0] := rfl
  have hq : Hashed.calls q = [.write [98], .writeU8 0xff, .write [97], .writeU8 0xff,
      .writeUsize 0, .writeUsize 0, .writeIsize 0, .writeIsize 0] := rfl
  rw [Hasher.result, Hasher.result, hp, hq]
  decide

end Ztunnel.State
