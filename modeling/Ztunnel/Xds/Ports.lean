import Ztunnel.Xds.Endpoints

/-!
# Ports from the wire

A port is an `u32` on the wire and an `u16` in the stores: the ports of a service, the port maps of
the endpoints, the port of an application tunnel and the HBONE port of a gateway. Each conversion is
a cast with `as`, so a value that does not fit is not refused: it is stored modulo `2 ^ 16`.

No port makes an update refused (`insertAddress_withoutPorts`), so the stores hold the values of the
wire exactly if these fit, or if the update is refused for what else it has (`ports_exact_iff`). The
statement is about an update of any state that updates can lead to, and about the stores after it.
-/

namespace Ztunnel.State

/-! ### The conversions -/

/-- The entry of a list that the stored target of a service port comes from: the last one with this
service port, after the cast. -/
def PortList.source (list : PortList) (servicePort : UInt16) : Option Port :=
  list.ports.reverse.find? (·.servicePort.toUInt16 == servicePort)

theorem PortList.toMap_apply (list : PortList) (servicePort : UInt16) :
    list.toMap servicePort = (list.source servicePort).map (·.targetPort.toUInt16) := by
  have hfold : ∀ (ports : List Port) (m : PortMap), ports.foldl (fun (m : PortMap) p ↦
      Function.update m p.servicePort.toUInt16 (some p.targetPort.toUInt16)) m servicePort =
        ((ports.reverse.find? (·.servicePort.toUInt16 == servicePort)).map
          (·.targetPort.toUInt16)).or (m servicePort) := by
    intro ports
    induction ports with
    | nil => intro m; rfl
    | cons p ports ih =>
      intro m
      rw [List.foldl_cons, ih, List.reverse_cons, List.find?_append, List.find?_singleton]
      by_cases h : p.servicePort.toUInt16 = servicePort
      · subst h
        simp
      · simp [h, Function.update_of_ne (Ne.symm h)]
  rw [PortList.toMap, hfold, Option.or_none, PortList.source]

/-- **A port map has the ports of the wire**: each entry is, as a number, the one it comes from. -/
def PortList.ExactlyAs (list : PortList) (map : PortMap) : Prop :=
  ∀ servicePort targetPort, map servicePort = some targetPort →
    ∃ p, list.source servicePort = some p ∧ p.servicePort.toNat = servicePort.toNat ∧
      p.targetPort.toNat = targetPort.toNat

/-- A wire value that fits is kept by the cast. -/
theorem toNat_toUInt16 {value : UInt32} (h : value.toNat < 65536) :
    value.toUInt16.toNat = value.toNat := by
  rw [UInt32.toNat_toUInt16]
  exact Nat.mod_eq_of_lt h

theorem PortList.exactlyAs_toMap {list : PortList} (h : ∀ p ∈ list.ports,
    p.servicePort.toNat < 65536 ∧ p.targetPort.toNat < 65536) : list.ExactlyAs list.toMap := by
  intro servicePort targetPort htarget
  rw [toMap_apply] at htarget
  obtain ⟨p, hp, rfl⟩ := Option.map_eq_some_iff.1 htarget
  obtain ⟨hservice, htargetPort⟩ := h p (List.mem_reverse.1 (List.mem_of_find?_eq_some hp))
  have hcast : p.servicePort.toUInt16 = servicePort := by simpa using List.find?_some hp
  refine ⟨p, hp, ?_, (toNat_toUInt16 htargetPort).symm⟩
  rw [← hcast, toNat_toUInt16 hservice]

/-- What an optional value converts to comes from it. -/
theorem mem_of_optionMapM {ε α β : Type} {f : α → Except ε β} {o : Option α} {o' : Option β}
    (h : o.mapM f = .ok o') {b : β} (hb : b ∈ o') : ∃ a ∈ o, f a = .ok b := by
  rcases o with - | a
  · obtain rfl := Except.ok.inj h
    cases hb
  · obtain ⟨b', hb', hpure⟩ := bind_eq_ok.1 h
    obtain rfl := Except.ok.inj hpure
    obtain rfl := Option.some.inj hb
    exact ⟨a, rfl, hb'⟩

theorem GatewayAddress.hboneMtlsPort_of_tryFrom {value : XdsGatewayAddress} {gw : GatewayAddress}
    (h : GatewayAddress.tryFrom value = .ok gw) :
    gw.hboneMtlsPort = value.hboneMtlsPort.toUInt16 := by
  rw [tryFrom] at h
  rcases hdestination : value.destination with - | ⟨network, address⟩ | host <;>
    simp only [hdestination] at h
  · cases h
  · obtain ⟨ip, -, hpure⟩ := bind_eq_ok.1 h
    exact Except.ok.inj hpure ▸ rfl
  · exact Except.ok.inj h ▸ rfl

theorem ApplicationTunnel.port_of_tryFrom {value : XdsApplicationTunnel}
    {tunnel : ApplicationTunnel} (h : ApplicationTunnel.tryFrom value = .ok tunnel)
    {port : UInt16} (hport : port ∈ tunnel.port) : port = value.port.toUInt16 := by
  obtain ⟨protocol, -, hpure⟩ := bind_eq_ok.1 h
  obtain rfl := Except.ok.inj hpure
  exact (Option.some.inj (Option.ite_none_left_eq_some.1 hport).2).symm

end Ztunnel.State

namespace Ztunnel.Xds

open Ztunnel.State

/-! ### The ports of an update -/

/-- The ports of a list, as they stand on the wire. -/
def portValues (ports : List Port) : List UInt32 :=
  ports.flatMap fun p ↦ [p.servicePort, p.targetPort]

/-- The HBONE port of a gateway, if there is one. -/
def gatewayPorts (waypoint : Option XdsGatewayAddress) : List UInt32 :=
  (waypoint.map (·.hboneMtlsPort)).toList

/-- The ports of an update, as they stand on the wire. -/
def XdsAddress.wirePorts : XdsAddress → List UInt32
  | .workload x => gatewayPorts x.waypoint ++ (x.applicationTunnel.map (·.port)).toList ++
      x.services.flatMap fun service ↦ portValues service.2.ports
  | .service s => gatewayPorts s.waypoint ++ portValues s.ports
  | .unknown => []

/-- The HBONE port of a stored gateway is that of the wire. -/
def GatewayExact (waypoint : Option XdsGatewayAddress) (stored : Option GatewayAddress) : Prop :=
  ∀ gw ∈ stored, ∃ value ∈ waypoint, gw.hboneMtlsPort.toNat = value.hboneMtlsPort.toNat

/-- **The stored ports are those of the wire**: of the workload or the service under the name of the
update, and of the endpoints of the workload. -/
def StoredExactly (state : ProxyState) : XdsAddress → Prop
  | .workload x =>
    (∀ w, state.workloads.findUid x.uid = some w →
      GatewayExact x.waypoint w.waypoint ∧
      ∀ tunnel ∈ w.applicationTunnel, ∀ port ∈ tunnel.port,
        ∃ value ∈ x.applicationTunnel, port.toNat = value.port.toNat) ∧
    ∀ host ep, state.services.endpointAt host x.uid = some ep →
      ∃ service ∈ x.services, NamespacedHostname.fromStr service.1 = .ok host ∧
        service.2.ExactlyAs ep.port
  | .service s =>
    ∀ service, state.services.getByNamespacedHost ⟨s.namespace, s.hostname⟩ = some service →
      GatewayExact s.waypoint service.waypoint ∧ (PortList.mk s.ports).ExactlyAs service.ports
  | .unknown => True

/-! ### Updates without their ports -/

/-- The update with its ports cleared: no ports in the lists, and 0 for the others. -/
def XdsAddress.withoutPorts : XdsAddress → XdsAddress
  | .workload x => .workload { x with
      waypoint := x.waypoint.map fun value ↦ { value with hboneMtlsPort := 0 }
      applicationTunnel := x.applicationTunnel.map fun value ↦ { value with port := 0 }
      services := x.services.map fun service ↦ (service.1, ⟨[]⟩) }
  | .service s => .service { s with
      waypoint := s.waypoint.map fun value ↦ { value with hboneMtlsPort := 0 }
      ports := [] }
  | .unknown => .unknown

section

variable {decoders : Decoders} {state : ProxyState}

/-- A workload is accepted iff it converts. -/
theorem insertWorkload_eq_ok {x : XdsWorkload} :
    (insertWorkload decoders state x).1 = .ok () ↔ ∃ p, Workload.tryFrom decoders x = .ok p := by
  rcases htry : Workload.tryFrom decoders x with e | ⟨w, services⟩
  · simp [insertWorkload, htry]
  · simp [insertWorkload, htry, insertServiceEndpoints_ok (hosts_parse htry)]

/-- A service is accepted iff it converts. -/
theorem insertService_eq_ok {s : XdsService} :
    (insertService state s).1 = .ok () ↔ ∃ service, Service.tryFrom s = .ok service := by
  rcases htry : Service.tryFrom s with e | service <;> simp [insertService, htry]

/-- A sequence of fallible steps succeeds iff another one does whose steps succeed alike. -/
theorem exists_bind_congr {ε α β : Type} {x y : Except ε α} {f g : α → Except ε β}
    (hxy : (∃ a, x = .ok a) ↔ ∃ a, y = .ok a)
    (hfg : ∀ a a', (∃ b, f a = .ok b) ↔ ∃ b, g a' = .ok b) :
    (∃ b, (x >>= f) = .ok b) ↔ ∃ b, (y >>= g) = .ok b := by
  simp only [bind_eq_ok]
  constructor
  · rintro ⟨b, a, ha, hb⟩
    obtain ⟨a', ha'⟩ := hxy.1 ⟨a, ha⟩
    exact ((hfg a a').1 ⟨b, hb⟩).imp fun b' hb' ↦ ⟨a', ha', hb'⟩
  · rintro ⟨b, a, ha, hb⟩
    obtain ⟨a', ha'⟩ := hxy.2 ⟨a, ha⟩
    exact ((hfg a' a).2 ⟨b, hb⟩).imp fun b' hb' ↦ ⟨a', ha', hb'⟩

/-- The same, after a common first step. -/
theorem exists_bind_congr_right {ε α β : Type} {x : Except ε α} {f g : α → Except ε β}
    (hfg : ∀ a, (∃ b, f a = .ok b) ↔ ∃ b, g a = .ok b) :
    (∃ b, (x >>= f) = .ok b) ↔ ∃ b, (x >>= g) = .ok b := by
  cases x with
  | error e => exact Iff.rfl
  | ok a => exact hfg a

theorem optionMapM_map_iff {ε α β : Type} {f : α → Except ε β} {g : α → α}
    (h : ∀ a, (∃ b, f (g a) = .ok b) ↔ ∃ b, f a = .ok b) (o : Option α) :
    (∃ o', (o.map g).mapM f = .ok o') ↔ ∃ o', o.mapM f = .ok o' := by
  cases o with
  | none => exact Iff.rfl
  | some a => exact exists_bind_congr (h a) fun _ _ ↦ iff_of_true ⟨_, rfl⟩ ⟨_, rfl⟩

theorem gateway_withoutPort (waypoint : Option XdsGatewayAddress) :
    (∃ gw, (waypoint.map fun value ↦ { value with hboneMtlsPort := 0 }).mapM
      GatewayAddress.tryFrom = .ok gw) ↔ ∃ gw, waypoint.mapM GatewayAddress.tryFrom = .ok gw := by
  refine optionMapM_map_iff (fun value ↦ ?_) waypoint
  rcases value with ⟨- | ⟨network, address⟩ | host, port⟩
  · exact Iff.rfl
  · exact exists_bind_congr_right fun ip ↦ iff_of_true ⟨_, rfl⟩ ⟨_, rfl⟩
  · exact iff_of_true ⟨_, rfl⟩ ⟨_, rfl⟩

theorem applicationTunnel_withoutPort (tunnel : Option XdsApplicationTunnel) :
    (∃ t, (tunnel.map fun value ↦ { value with port := 0 }).mapM
      ApplicationTunnel.tryFrom = .ok t) ↔ ∃ t, tunnel.mapM ApplicationTunnel.tryFrom = .ok t := by
  refine optionMapM_map_iff (fun value ↦ ?_) tunnel
  exact exists_bind_congr_right fun protocol ↦ iff_of_true ⟨_, rfl⟩ ⟨_, rfl⟩

/-- **No port makes an update refused.** -/
theorem insertAddress_withoutPorts (update : XdsAddress) :
    (insertAddress decoders state update.withoutPorts).1 = .ok () ↔
      (insertAddress decoders state update).1 = .ok () := by
  cases update with
  | unknown => exact Iff.rfl
  | service s =>
    show (insertService state _).1 = _ ↔ (insertService state s).1 = _
    rw [insertService_eq_ok, insertService_eq_ok]
    exact exists_bind_congr_right fun _ ↦ exists_bind_congr (gateway_withoutPort s.waypoint)
      fun _ _ ↦ exists_bind_congr_right fun _ ↦ exists_bind_congr_right fun _ ↦
        iff_of_true ⟨_, rfl⟩ ⟨_, rfl⟩
  | workload x =>
    show (insertWorkload decoders state _).1 = _ ↔ (insertWorkload decoders state x).1 = _
    rw [insertWorkload_eq_ok, insertWorkload_eq_ok]
    refine exists_bind_congr (gateway_withoutPort x.waypoint) fun _ _ ↦
      exists_bind_congr (applicationTunnel_withoutPort x.applicationTunnel) fun _ _ ↦
      exists_bind_congr_right fun _ ↦ exists_bind_congr ?_ fun _ _ ↦ ?_
    · rw [List.mapM_map]
      exact Iff.rfl
    -- the references, which are validated, are the same
    exact exists_bind_congr_right fun refs ↦ exists_bind_congr_right fun _ ↦
      exists_bind_congr_right fun _ ↦ exists_bind_congr_right fun _ ↦
      exists_bind_congr Iff.rfl fun _ _ ↦ iff_of_true ⟨_, rfl⟩ ⟨_, rfl⟩

end

/-! ### Updates whose ports fit -/

section

variable {decoders : Decoders} {announced : Strng → Option XdsWorkload} {state : ProxyState}

/-- The parts of a workload that ports come from. -/
theorem tryFrom_ports {x : XdsWorkload} {w : Workload} {services : List (String × PortList)}
    (h : Workload.tryFrom decoders x = .ok (w, services)) :
    x.waypoint.mapM GatewayAddress.tryFrom = .ok w.waypoint ∧
      x.applicationTunnel.mapM ApplicationTunnel.tryFrom = .ok w.applicationTunnel ∧
      services = x.services := by
  simp only [Workload.tryFrom, bind_eq_ok] at h
  obtain ⟨_, hwaypoint, _, htunnel, _, -, _, -, _, -, _, -, _, -, _, -, _, -, hpure⟩ := h
  obtain ⟨rfl, rfl⟩ := Prod.mk.inj (Except.ok.inj hpure)
  exact ⟨hwaypoint, htunnel, rfl⟩

/-- The parts of a service that ports come from, and its name. -/
theorem serviceTryFrom_ports {s : XdsService} {service : Service}
    (h : Service.tryFrom s = .ok service) :
    s.waypoint.mapM GatewayAddress.tryFrom = .ok service.waypoint ∧
      service.ports = (PortList.mk s.ports).toMap ∧
      service.namespacedHostname = ⟨s.namespace, s.hostname⟩ := by
  simp only [Service.tryFrom, bind_eq_ok] at h
  obtain ⟨_, -, _, hwaypoint, _, -, _, -, hpure⟩ := h
  obtain rfl := Except.ok.inj hpure
  exact ⟨hwaypoint, rfl, rfl⟩

theorem gatewayExact_of_mapM {waypoint : Option XdsGatewayAddress}
    {stored : Option GatewayAddress} (h : waypoint.mapM GatewayAddress.tryFrom = .ok stored)
    (hfits : ∀ value ∈ gatewayPorts waypoint, value.toNat < 65536) :
    GatewayExact waypoint stored := by
  intro gw hgw
  obtain ⟨value, hvalue, htry⟩ := mem_of_optionMapM h hgw
  obtain rfl := Option.mem_def.1 hvalue
  refine ⟨value, hvalue, ?_⟩
  rw [GatewayAddress.hboneMtlsPort_of_tryFrom htry]
  exact toNat_toUInt16 (hfits _ List.mem_cons_self)

theorem exactlyAs_of_portValues {ports : List Port}
    (h : ∀ value ∈ portValues ports, value.toNat < 65536) :
    (PortList.mk ports).ExactlyAs (PortList.mk ports).toMap := by
  refine PortList.exactlyAs_toMap fun p hp ↦ ⟨h _ ?_, h _ ?_⟩
  · exact List.mem_flatMap.2 ⟨p, hp, List.mem_cons_self⟩
  · exact List.mem_flatMap.2 ⟨p, hp, List.mem_cons_of_mem _ List.mem_cons_self⟩

theorem storedExactly_workload (h : Tracks decoders announced state) {x : XdsWorkload}
    (hok : (insertWorkload decoders state x).1 = .ok ())
    (hfits : ∀ value ∈ (XdsAddress.workload x).wirePorts, value.toNat < 65536) :
    StoredExactly (insertWorkload decoders state x).2 (.workload x) := by
  obtain ⟨⟨w, services⟩, htry⟩ := insertWorkload_eq_ok.1 hok
  obtain ⟨hwaypoint, htunnel, rfl⟩ := tryFrom_ports htry
  have huid := (tryFrom_fields htry).1
  simp only [XdsAddress.wirePorts, List.mem_append, or_imp, forall_and] at hfits
  obtain ⟨⟨hgateway, happlication⟩, hservices⟩ := hfits
  refine ⟨fun w' hw' ↦ ?_, fun host ep hep ↦ ?_⟩
  · rw [WorkloadStore.findUid, (insertWorkload_ok htry state).1, huid, Function.update_self] at hw'
    obtain rfl := Option.some.inj hw'
    refine ⟨gatewayExact_of_mapM hwaypoint hgateway, fun tunnel ht port hport ↦ ?_⟩
    obtain ⟨value, hvalue, hconvert⟩ := mem_of_optionMapM htunnel ht
    refine ⟨value, hvalue, ?_⟩
    rw [ApplicationTunnel.port_of_tryFrom hconvert hport]
    refine toNat_toUInt16 (happlication _ ?_)
    rw [Option.mem_def.1 hvalue]
    exact List.mem_cons_self
  · -- the entries of the UID are those of this update, since those before it are dropped
    rw [← huid] at hep
    rcases (h.enters_insertWorkload htry).entry host ep hep with hold | ⟨-, p, hp, hparsed, rfl⟩
    · rw [(h.dropWorkload w.uid).2.2, if_pos rfl] at hold
      cases hold
    · obtain ⟨service, hservice, rfl⟩ := List.mem_map.1 hp
      refine ⟨service, hservice, hparsed, exactlyAs_of_portValues fun value hvalue ↦ ?_⟩
      exact hservices value (List.mem_flatMap.2 ⟨service, hservice, hvalue⟩)

theorem storedExactly_service (h : Tracks decoders announced state) {s : XdsService}
    (hok : (insertService state s).1 = .ok ())
    (hfits : ∀ value ∈ (XdsAddress.service s).wirePorts, value.toNat < 65536) :
    StoredExactly (insertService state s).2 (.service s) := by
  obtain ⟨service, htry⟩ := insertService_eq_ok.1 hok
  obtain ⟨hwaypoint, hports, hname⟩ := serviceTryFrom_ports htry
  simp only [XdsAddress.wirePorts, List.mem_append, or_imp, forall_and] at hfits
  intro stored hstored
  have hdeclared := congrFun (h.replaces htry).declared ⟨s.namespace, s.hostname⟩
  rw [hname, Function.update_self, ServiceStore.declared, hstored] at hdeclared
  have heq : ServiceStore.declaration stored = ServiceStore.declaration service :=
    Option.some.inj hdeclared
  have hstoredWaypoint : stored.waypoint = service.waypoint :=
    (congrArg Service.waypoint heq :)
  have hstoredPorts : stored.ports = service.ports := (congrArg Service.ports heq :)
  rw [hstoredWaypoint, hstoredPorts, hports]
  exact ⟨gatewayExact_of_mapM hwaypoint hfits.1, exactlyAs_of_portValues hfits.2⟩

end

/-- **No silent wrap-around of ports.** Take any state that updates lead to, and one more update of
a workload or a service. That its stored ports are those of the wire if it is accepted, and that it
is not accepted if one of them does not fit, holds exactly if all of them fit or it is refused even
without its ports. -/
theorem ports_exact_iff (decoders : Decoders) (localNode : Option Strng) (ops : List StateOp)
    (update : XdsAddress) :
    let state := ops.foldl (applyOp decoders) (.new localNode)
    let result := insertAddress decoders state update
    ((result.1 = .ok () → StoredExactly result.2 update) ∧
      ((∃ value ∈ update.wirePorts, 65536 ≤ value.toNat) → result.1 ≠ .ok ())) ↔
    (∀ value ∈ update.wirePorts, value.toNat < 65536) ∨
      (insertAddress decoders state update.withoutPorts).1 ≠ .ok () := by
  intro state result
  have htracks : Tracks decoders _ state := tracks_foldl decoders localNode ops
  have haccepted : _ ↔ result.1 = .ok () := insertAddress_withoutPorts update
  constructor
  · rintro ⟨-, hrejected⟩
    refine or_iff_not_imp_left.2 fun hlarge ↦ haccepted.not.2 (hrejected ?_)
    push Not at hlarge
    exact hlarge
  · rintro (hfits | hrefused)
    · refine ⟨fun hok ↦ ?_, ?_⟩
      · cases update with
        | workload x => exact storedExactly_workload htracks hok hfits
        | service s => exact storedExactly_service htracks hok hfits
        | unknown => trivial
      · rintro ⟨value, hvalue, hlarge⟩
        exact absurd (hfits value hvalue) (Nat.not_lt.2 hlarge)
    · have hnot : result.1 ≠ .ok () := haccepted.not.1 hrefused
      exact ⟨fun hok ↦ absurd hok hnot, fun _ ↦ hnot⟩

/-- A service with port 65616 on the wire is accepted, and has port 80. -/
theorem port_wraps_around :
    let update := XdsAddress.service { sampleService 0 with ports := [⟨65616, 8080⟩] }
    let result := insertAddress sampleDecoders (.new none) update
    result.1 = .ok () ∧ (∃ value ∈ update.wirePorts, 65536 ≤ value.toNat) ∧
      ((result.2.services.getByNamespacedHost ⟨"ns", "svc"⟩).map fun service ↦
        (service.ports 80, (PortList.mk [⟨65616, 8080⟩]).source 80)) =
        some (some 8080, some ⟨65616, 8080⟩) :=
  ⟨rfl, ⟨65616, List.mem_cons_self, by decide⟩, rfl⟩

end Ztunnel.Xds
