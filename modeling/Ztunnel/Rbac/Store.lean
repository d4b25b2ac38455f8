import Ztunnel.State.Workload

/-!
# The store of shared traffic policies

The conversion and validation of a policy from the wire (`TryFrom` and `validate` in `rbac.rs`), and
`TrafficPolicyStore`, which also holds the notifier that every change to policies or to their
bindings is announced with. The notifier is a `watch` channel of units; the number of its
notifications stands for it.
-/

namespace Ztunnel.Rbac

open Ztunnel.State (Strng WorkloadError byteToIp)

/-! ### Conversion from the wire -/

structure XdsPrefix where
  address : List UInt8
  length : UInt32
deriving DecidableEq, Repr

structure XdsPortMatch where
  protocol : Int
  port : Option UInt32
  endPort : Option UInt32
deriving DecidableEq, Repr

structure XdsMatch where
  sourceIps : List XdsPrefix
  destinationIps : List XdsPrefix
  ports : List XdsPortMatch
deriving DecidableEq, Repr

structure XdsRule where
  action : Int
  «match» : Option XdsMatch
deriving DecidableEq, Repr

/-- The wire form of a traffic policy. -/
structure XdsTrafficPolicy where
  ingress : Option (List XdsRule)
  egress : Option (List XdsRule)
deriving DecidableEq, Repr

/-- The errors of a conversion. A cause of another module is wrapped, and a context is put around
the cause. -/
inductive PolicyError where
  | unknownEnum (value : Int)
  | missingMatch
  | address (error : WorkloadError)
  | prefixLength (length : UInt32)
  | portRange (port : UInt32)
  | icmpPort
  | portZero
  | reversedRange
  | badName
  | context (message : String) (error : PolicyError)
deriving DecidableEq, Repr

/-- `anyhow::Context::context`. -/
def withContext {α : Type} (message : String) : Except PolicyError α → Except PolicyError α
  | .ok a => .ok a
  | .error e => .error (.context message e)

/-- `parse_address`: host bits are cleared. -/
def parseAddress (p : XdsPrefix) : Except PolicyError IpNet :=
  match byteToIp p.address with
  | .error e => .error (.address e)
  | .ok (.v4 bits) =>
    if h : p.length.toNat ≤ 32 then
      .ok (.v4 (bits >>> (32 - p.length.toNat) <<< (32 - p.length.toNat))
        ⟨p.length.toNat, by omega⟩)
    else .error (.prefixLength p.length)
  | .ok (.v6 bits) =>
    if h : p.length.toNat ≤ 128 then
      .ok (.v6 (bits >>> (128 - p.length.toNat) <<< (128 - p.length.toNat))
        ⟨p.length.toNat, by omega⟩)
    else .error (.prefixLength p.length)

/-- `u16::try_from`. -/
def portOf (port : UInt32) : Except PolicyError UInt16 :=
  if port.toNat < 65536 then .ok port.toUInt16 else .error (.portRange port)

/-- `PortMatch::try_from`. -/
def PortMatch.tryFrom (value : XdsPortMatch) : Except PolicyError PortMatch := do
  let protocol ← match value.protocol with
    | 0 => pure Protocol.all
    | 1 => pure .tcp
    | 2 => pure .udp
    | 3 => pure .icmp
    | 4 => pure .sctp
    | n => throw (.unknownEnum n)
  let port ← value.port.mapM portOf
  let endPort ← value.endPort.mapM portOf
  pure ⟨protocol, match port, endPort with
    | none, none => none
    | some port, none => some ⟨port, port⟩
    | none, some stop => some ⟨1, stop⟩
    | some start, some stop => some ⟨start, stop⟩⟩

/-- `Rule::try_from`. -/
def Rule.tryFrom (value : XdsRule) : Except PolicyError Rule := do
  let action ← match value.action with
    | 0 => pure Action.allow
    | 1 => pure .deny
    | n => throw (.unknownEnum n)
  match value.match with
  | none => throw .missingMatch
  | some m =>
    let sourceIps ← m.sourceIps.mapM parseAddress
    let destinationIps ← m.destinationIps.mapM parseAddress
    let ports ← m.ports.mapM PortMatch.tryFrom
    pure ⟨action, sourceIps, destinationIps, ports⟩

/-- `RuleSet::try_from`. -/
def RuleSet.tryFrom (rules : List XdsRule) : Except PolicyError RuleSet := do
  let rules ← rules.zipIdx.mapM fun (rule, index) ↦
    withContext s!"rule {index}" (Rule.tryFrom rule)
  pure ⟨rules⟩

/-- `PortMatch::validate`. -/
def PortMatch.validate (port : PortMatch) : Except PolicyError Unit :=
  match port.range with
  | none => .ok ()
  | some range =>
    if port.protocol = .icmp then .error .icmpPort
    else if range.start = 0 ∨ range.stop = 0 then .error .portZero
    else if range.stop < range.start then .error .reversedRange
    else .ok ()

/-- The checks of one direction in `TrafficPolicy::validate`. -/
def validateDirection (direction : String) (rules : Option RuleSet) : Except PolicyError Unit :=
  match rules with
  | none => .ok ()
  | some rules =>
    rules.rules.zipIdx.forM fun (rule, index) ↦
      rule.ports.forM fun port ↦
        withContext s!"TrafficPolicy {direction} rule {index}" port.validate

/-- `TrafficPolicy::validate`. -/
def TrafficPolicy.validate (policy : TrafficPolicy) : Except PolicyError Unit := do
  validateDirection "ingress" policy.ingress
  validateDirection "egress" policy.egress

/-- `TrafficPolicy::try_from`. -/
def TrafficPolicy.tryFrom (resource : XdsTrafficPolicy) : Except PolicyError TrafficPolicy := do
  let ingress ← withContext "TrafficPolicy ingress" (resource.ingress.mapM RuleSet.tryFrom)
  let egress ← withContext "TrafficPolicy egress" (resource.egress.mapM RuleSet.tryFrom)
  let policy : TrafficPolicy := ⟨ingress, egress⟩
  policy.validate
  pure policy

/-! ### Valid policies -/

/-- A port entry with a range is not of a protocol without ports, and its range has a port and lies
within the ports there are. -/
def PortMatch.Valid (port : PortMatch) : Prop :=
  ∀ range ∈ port.range, port.protocol ≠ .icmp ∧ 1 ≤ range.start.toNat ∧
    range.start.toNat ≤ range.stop.toNat ∧ range.stop.toNat ≤ 65535

/-- Every port entry of either direction is valid. -/
def TrafficPolicy.Valid (policy : TrafficPolicy) : Prop :=
  ∀ direction, ∀ rules ∈ policy.rulesFor direction, ∀ rule ∈ rules.rules, ∀ port ∈ rule.ports,
    port.Valid

@[simp]
theorem withContext_eq_ok {α : Type} {message : String} {x : Except PolicyError α} {a : α} :
    withContext message x = .ok a ↔ x = .ok a := by
  cases x with
  | error e => simp [withContext]
  | ok b => simp [withContext]

theorem PortMatch.valid_of_validate {port : PortMatch} (h : port.validate = .ok ()) :
    port.Valid := by
  intro range hrange
  simp only [PortMatch.validate, Option.mem_def.1 hrange] at h
  split at h
  next => cases h
  next hprotocol =>
    split at h
    next => cases h
    next hzero =>
      split at h
      next => cases h
      next hreversed =>
        rw [not_or] at hzero
        have hstart : range.start.toNat ≠ 0 := fun h0 ↦ hzero.1 (UInt16.toNat_inj.1 h0)
        have hle : range.start.toNat ≤ range.stop.toNat := by
          simpa [UInt16.lt_iff_toNat_lt] using hreversed
        have hlt : range.stop.toNat < 65536 := range.stop.toNat_lt
        exact ⟨hprotocol, by omega, hle, by omega⟩

theorem valid_of_validateDirection {name : String} {rules : RuleSet}
    (h : validateDirection name (some rules) = .ok ()) :
    ∀ rule ∈ rules.rules, ∀ port ∈ rule.ports, port.Valid := by
  intro rule hrule port hport
  -- the index of a rule is only there for the message
  rw [← List.zipIdx_map_fst 0 rules.rules] at hrule
  obtain ⟨⟨rule, index⟩, hindex, rfl⟩ := List.mem_map.1 hrule
  have hports := State.forM_eq_ok.1 (State.forM_eq_ok.1 h _ hindex) port hport
  exact PortMatch.valid_of_validate (withContext_eq_ok.1 hports)

/-- **A policy that passes is valid.** -/
theorem TrafficPolicy.valid_of_validate {policy : TrafficPolicy} (h : policy.validate = .ok ()) :
    policy.Valid := by
  obtain ⟨⟨⟩, hingress, hegress⟩ := State.bind_eq_ok.1 h
  intro direction rules hrules
  cases direction with
  | inbound =>
    have hsome : policy.ingress = some rules := hrules
    exact valid_of_validateDirection (hsome ▸ hingress)
  | outbound =>
    have hsome : policy.egress = some rules := hrules
    exact valid_of_validateDirection (hsome ▸ hegress)

theorem TrafficPolicy.valid_of_tryFrom {resource : XdsTrafficPolicy} {policy : TrafficPolicy}
    (h : TrafficPolicy.tryFrom resource = .ok policy) : policy.Valid := by
  simp only [TrafficPolicy.tryFrom, State.bind_eq_ok] at h
  obtain ⟨_, -, _, -, ⟨⟩, hvalid, hpure⟩ := h
  obtain rfl := Except.ok.inj hpure
  exact TrafficPolicy.valid_of_validate hvalid

/-! ### The store -/

/-- `TrafficPolicyStore`. -/
structure TrafficPolicyStore where
  resources : Strng → Option TrafficPolicy
  notifier : ℕ

namespace TrafficPolicyStore

/-- `TrafficPolicyStore::default`. -/
def empty : TrafficPolicyStore := ⟨fun _ ↦ none, 0⟩

/-- `TrafficPolicyStore::send`. -/
def send (store : TrafficPolicyStore) : TrafficPolicyStore :=
  { store with notifier := store.notifier + 1 }

/-- `TrafficPolicyStore::get`. -/
def get (store : TrafficPolicyStore) (name : Strng) : Option TrafficPolicy := store.resources name

/-- `TrafficPolicyStore::insert`: whether the store changed. -/
def insert (store : TrafficPolicyStore) (name : Strng) (policy : TrafficPolicy) :
    Except PolicyError Bool × TrafficPolicyStore :=
  if name = "" ∨ name = "*" then (.error .badName, store)
  else if store.get name = some policy then (.ok false, store)
  else (.ok true, { store with resources := Function.update store.resources name (some policy) })

/-- `TrafficPolicyStore::update`. -/
def update (store : TrafficPolicyStore) (name : Strng) (resource : XdsTrafficPolicy) :
    Except PolicyError Bool × TrafficPolicyStore :=
  match TrafficPolicy.tryFrom resource with
  | .error e => (.error e, store)
  | .ok policy => store.insert name policy

/-- `TrafficPolicyStore::remove`: whether there was something to remove. -/
def remove (store : TrafficPolicyStore) (name : Strng) : Bool × TrafficPolicyStore :=
  ((store.resources name).isSome,
    { store with resources := Function.update store.resources name none })

/-- What an insert can do: nothing, or put the policy under a name that is one and report it. -/
theorem insert_cases (store : TrafficPolicyStore) (name : Strng) (policy : TrafficPolicy) :
    (store.insert name policy).2 = store ∨
      (name ≠ "" ∧ name ≠ "*") ∧ store.insert name policy = (.ok true,
        { store with resources := Function.update store.resources name (some policy) }) := by
  unfold insert
  split
  next => exact .inl rfl
  next hname =>
    split
    next => exact .inl rfl
    next => exact .inr ⟨not_or.1 hname, rfl⟩

/-- What an update can do: nothing, or put a valid policy under its name and report it. -/
theorem update_cases (store : TrafficPolicyStore) (name : Strng) (resource : XdsTrafficPolicy) :
    (store.update name resource).2 = store ∨
      ∃ policy, (name ≠ "" ∧ name ≠ "*") ∧ policy.Valid ∧ store.update name resource =
        (.ok true,
          { store with resources := Function.update store.resources name (some policy) }) := by
  unfold update
  split
  next => exact .inl rfl
  next policy hp =>
    obtain hsame | ⟨hname, heq⟩ := store.insert_cases name policy
    · exact .inl hsame
    · exact .inr ⟨policy, hname, TrafficPolicy.valid_of_tryFrom hp, heq⟩

/-- **An update that reports no change makes none**, an invalid one included. -/
theorem update_eq_self {store : TrafficPolicyStore} {name : Strng} {resource : XdsTrafficPolicy}
    (h : (store.update name resource).1 ≠ .ok true) :
    (store.update name resource).2 = store := by
  rcases store.update_cases name resource with hsame | ⟨policy, -, -, heq⟩
  · exact hsame
  · exact absurd (by rw [heq]) h

theorem remove_eq_self {store : TrafficPolicyStore} {name : Strng}
    (h : (store.remove name).1 = false) : (store.remove name).2 = store := by
  have hnone : store.resources name = none := by simpa [remove] using h
  rw [remove, ← hnone, Function.update_eq_self]

end TrafficPolicyStore

end Ztunnel.Rbac
