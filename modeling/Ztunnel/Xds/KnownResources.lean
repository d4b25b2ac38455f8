import Ztunnel.Xds.Stores
import Ztunnel.Xds.Subscription

/-!
# What the client says it has

On a new stream the client lists the names it knows in `initial_resource_versions`, and the server
sends removals only for names it was told. A resource that is enforced but not listed would never go
away.

The store and the known names are brought up to date in different orders: the handler applies
updates, then removals, while the names that are removed are forgotten first and those of the
resources added then, the rejected ones included. `Tracks` is what the known names need of a handler
for this to be harmless, for any state behind the handlers, and `Knows` the invariant: what is held
is known, or is about to be.
-/

namespace Ztunnel.Xds

open Ztunnel.State Ztunnel.Rbac Ztunnel.Sandbox Transition

variable {σ : Type}

/-- `held s typeUrl name`: the resource is in its store. A handler may add what the response lists
as a resource of its type, and what the response removes is gone unless it lists it too. -/
def Config.Tracks (config : Config σ) (held : σ → Strng → Strng → Prop) : Prop :=
  ∀ s res h, config.handlers res.typeUrl = some h → ∀ typeUrl name, held (h s res).2 typeUrl name →
    (held s typeUrl name ∧ (typeUrl = res.typeUrl → name ∉ res.removedResources)) ∨
      (typeUrl = res.typeUrl ∧ name ∈ res.resources.map (·.name))

/-- The names of a type that the client has yet to forget, after the handler has run. -/
def ClientPhase.forgets : ClientPhase → Strng → List Strng
  | .notifying removes _ res _, typeUrl => if typeUrl = res.typeUrl then removes else []
  | _, _ => []

/-- The names of a type that the client has yet to add. -/
def ClientPhase.learns : ClientPhase → Strng → List Strng
  | .notifying _ resources res _, typeUrl => if typeUrl = res.typeUrl then resources else []
  | _, _ => []

/-- No names of a response are left to go through. -/
def ClientPhase.Settled (phase : ClientPhase) : Prop :=
  ∀ typeUrl, phase.forgets typeUrl = [] ∧ phase.learns typeUrl = []

theorem ClientPhase.settled_notifying_nil (res : DeltaDiscoveryResponse)
    (rejects : List RejectedConfig) : (notifying [] [] res rejects).Settled :=
  fun _ ↦ ⟨ite_self _, ite_self _⟩

namespace AdsClient

/-- The name is known, or will be when the names of the last response have been gone through. -/
def WillKnow (c : AdsClient σ) (typeUrl name : Strng) : Prop :=
  (name ∈ c.knownResources typeUrl ∧ name ∉ c.phase.forgets typeUrl) ∨
    name ∈ c.phase.learns typeUrl

/-- What is held is of a watched type, and known; and the requests for a new stream list what is
known. -/
structure Knows (config : Config σ) (held : σ → Strng → Strng → Prop) (c : AdsClient σ) :
    Prop where
  watched : ∀ typeUrl name, held c.proxy typeUrl name → typeUrl ∈ config.watchedTypes
  known : ∀ typeUrl name, held c.proxy typeUrl name → c.WillKnow typeUrl name
  listed : ∀ requests, c.phase = .connecting requests →
    requests.map (·.typeUrl) = config.watchedTypes ∧
      ∀ r ∈ requests, r.initialResourceVersions = c.knownResources r.typeUrl

variable {config : Config σ} {held : σ → Strng → Strng → Prop} {c c' : AdsClient σ}
  {res : DeltaDiscoveryResponse} {rejects : List RejectedConfig}

theorem initialRequest_versions (c : AdsClient σ) (e : DeltaDiscoveryRequest) :
    (c.initialRequest e).initialResourceVersions =
      c.knownResources (c.initialRequest e).typeUrl :=
  rfl

/-- Acknowledging a response changes what is expected and nothing else. -/
theorem acked_rest (c : AdsClient σ) (request : DeltaDiscoveryRequest) :
    (c.acked request).proxy = c.proxy ∧ (c.acked request).knownResources = c.knownResources ∧
      (c.acked request).phase = c.phase := by
  dsimp only [acked]
  split <;> exact ⟨rfl, rfl, rfl⟩

namespace Knows

/-- A step that leaves the store and the known names alone, from one settled phase to another. -/
theorem move (h : Knows config held c) (hproxy : c'.proxy = c.proxy)
    (hknown : c'.knownResources = c.knownResources) {phase : ClientPhase} (hphase : c.phase = phase)
    (hfrom : phase.Settled) (hto : c'.phase.Settled)
    (hlisted : ∀ requests, c'.phase ≠ .connecting requests) : Knows config held c' where
  watched typeUrl name hheld := h.watched typeUrl name (hproxy ▸ hheld)
  known typeUrl name hheld := by
    have hwill := h.known typeUrl name (hproxy ▸ hheld)
    rw [WillKnow, hphase, (hfrom typeUrl).1, (hfrom typeUrl).2] at hwill
    rwa [WillKnow, hknown, (hto typeUrl).1, (hto typeUrl).2]
  listed requests hphase := absurd hphase (hlisted requests)

/-- The requests of a new stream are made from the known names. -/
theorem start (h : Knows config held c) (hphase : c.phase = .backoff) :
    Knows config held
      { c with phase := .connecting (config.initialRequests.map c.initialRequest) } where
  watched := h.watched
  known typeUrl name hheld := by
    have hwill := h.known typeUrl name hheld
    rw [WillKnow, hphase] at hwill
    exact hwill
  listed requests hconnecting := by
    obtain rfl : config.initialRequests.map c.initialRequest = requests := by
      simpa using hconnecting
    refine ⟨?_, fun r hr ↦ ?_⟩
    · rw [List.map_map, Config.watchedTypes]
      exact List.map_congr_left fun e _ ↦ initialRequest_typeUrl c e
    · obtain ⟨e, -, rfl⟩ := List.mem_map.1 hr
      exact initialRequest_versions c e

/-- **The handler runs**: what it adds is about to be known, and what is about to be forgotten is no
longer held. -/
theorem handle (hconfig : config.Tracks held)
    (hwatched : ∀ typeUrl, config.handlers typeUrl ≠ none → typeUrl ∈ config.watchedTypes)
    (h : Knows config held c) (hphase : c.phase = .handling res) :
    Knows config held (c.handle config res) := by
  rcases hhandler : config.handlers res.typeUrl with - | handler
  · have heq : c.handle config res =
        { c with handled := c.handled + 1, phase := .acking (acknowledge res []) } := by
      rw [AdsClient.handle, hhandler]
    rw [heq]
    exact h.move rfl rfl hphase (fun _ ↦ ⟨rfl, rfl⟩) (fun _ ↦ ⟨rfl, rfl⟩) (by simp)
  · have heq : c.handle config res =
        { c with
          proxy := (handler c.proxy res).2
          handled := c.handled + 1
          phase := .notifying res.removedResources (res.resources.map (·.name)) res
            (handler c.proxy res).1 } := by
      rw [AdsClient.handle, hhandler]
    rw [heq]
    refine ⟨fun typeUrl name hheld ↦ ?_, fun typeUrl name hheld ↦ ?_, by simp⟩
    · obtain ⟨hold, -⟩ | ⟨rfl, -⟩ := hconfig c.proxy res handler hhandler typeUrl name hheld
      · exact h.watched typeUrl name hold
      · exact hwatched _ (by rw [hhandler]; simp)
    · obtain ⟨hold, hkept⟩ | ⟨rfl, hnew⟩ := hconfig c.proxy res handler hhandler typeUrl name hheld
      · have hwill := h.known typeUrl name hold
        rw [WillKnow, hphase] at hwill
        obtain ⟨hmem, -⟩ | hlearn := hwill
        · refine .inl ⟨hmem, ?_⟩
          show name ∉ if typeUrl = res.typeUrl then res.removedResources else []
          split
          next htype => exact hkept htype
          next => exact List.not_mem_nil
        · cases hlearn
      · refine .inr ?_
        show name ∈ if res.typeUrl = res.typeUrl then res.resources.map (·.name) else []
        rwa [if_pos rfl]

theorem removed (h : Knows config held c) {name : Strng} {removes resources : List Strng}
    (hphase : c.phase = .notifying (name :: removes) resources res rejects) :
    Knows config held
      { (c.removeResource res.typeUrl name).notifyOnDemand ⟨name, res.typeUrl⟩ with
        phase := .notifying removes resources res rejects } where
  watched := h.watched
  known typeUrl name' hheld := by
    have hwill := h.known typeUrl name' hheld
    simp only [WillKnow, hphase, ClientPhase.forgets, ClientPhase.learns, notifyOnDemand,
      removeResource] at hwill ⊢
    rcases eq_or_ne typeUrl res.typeUrl with rfl | hother
    · simp only [if_true, Function.update_self, Finset.mem_erase, List.mem_cons, not_or] at hwill ⊢
      obtain ⟨hmem, hne, hrest⟩ | hlearn := hwill
      · exact .inl ⟨⟨hne, hmem⟩, hrest⟩
      · exact .inr hlearn
    · rwa [if_neg hother, if_neg hother, Function.update_of_ne hother] at *
  listed := by simp

theorem added (h : Knows config held c) {name : Strng} {resources : List Strng}
    (hphase : c.phase = .notifying [] (name :: resources) res rejects) :
    Knows config held
      { (c.notifyOnDemand ⟨name, res.typeUrl⟩).addResource res.typeUrl name with
        phase := .notifying [] resources res rejects } where
  watched := h.watched
  known typeUrl name' hheld := by
    have hwill := h.known typeUrl name' hheld
    simp only [WillKnow, hphase, ClientPhase.forgets, ClientPhase.learns, notifyOnDemand,
      addResource, ite_self, List.not_mem_nil, not_false_eq_true, and_true] at hwill ⊢
    rcases eq_or_ne typeUrl res.typeUrl with rfl | hother
    · simp only [if_true, Function.update_self, Finset.mem_insert, List.mem_cons] at hwill ⊢
      obtain hmem | hnew | hlearn := hwill
      · exact .inl (.inr hmem)
      · exact .inl (.inl hnew)
      · exact .inr hlearn
    · rwa [if_neg hother, Function.update_of_ne hother] at *
  listed := by simp

/-- **Every step keeps what is held known.** -/
theorem step (hconfig : config.Tracks held)
    (hwatched : ∀ typeUrl, config.handlers typeUrl ≠ none → typeUrl ∈ config.watchedTypes)
    (h : Knows config held c) {e : ClientEvent} (hstep : Stepped config c e c') :
    Knows config held c' := by
  cases hstep with
  | demanded | completed | cancelled => exact ⟨h.watched, h.known, h.listed⟩
  | started hphase => exact h.start hphase
  | established requests hphase =>
    exact h.move rfl rfl hphase (fun _ ↦ ⟨rfl, rfl⟩) (fun _ ↦ ⟨rfl, rfl⟩)
      (by simp [establish])
  | refused requests hphase | dequeued channel key demand hphase hdemand | received res hphase
  | ended hphase | subscribed request hphase =>
    exact h.move rfl rfl hphase (fun _ ↦ ⟨rfl, rfl⟩) (fun _ ↦ ⟨rfl, rfl⟩) (by simp)
  | handled res hphase => exact handle hconfig hwatched h hphase
  | removed name removes resources res rejects hphase => exact h.removed hphase
  | added name resources res rejects hphase => exact h.added hphase
  | notified res rejects hphase =>
    exact h.move rfl rfl hphase (ClientPhase.settled_notifying_nil res rejects)
      (fun _ ↦ ⟨rfl, rfl⟩) (by simp)
  | acked request hphase =>
    obtain ⟨hproxy, hknown, hidle⟩ :=
      acked_rest { c with stream := c.stream ++ [request], phase := .idle } request
    refine h.move hproxy hknown hphase (fun _ ↦ ⟨rfl, rfl⟩) ?_ (by simp [hidle])
    rw [hidle]
    exact fun _ ↦ ⟨rfl, rfl⟩
  | unsent request hphase =>
    obtain hphase | hphase := hphase <;>
    exact h.move rfl rfl hphase (fun _ ↦ ⟨rfl, rfl⟩) (fun _ ↦ ⟨rfl, rfl⟩) (by simp)

end Knows

end AdsClient

/-! ### The handlers of the proxy -/

section Handlers

variable {α : Type}

theorem decodeProto_name {decode : List UInt8 → Option α} {raw : ProtoResource}
    {resource : XdsResource α} (h : decodeProto decode raw = .ok resource) :
    resource.name = raw.name := by
  unfold decodeProto at h
  split at h
  next => cases h
  next =>
    split at h
    next => cases h
    next =>
      obtain rfl := Except.ok.inj h
      rfl

/-- The names in a store after the updates and then the removals of a response. -/
theorem names_after {S : Type} {after : S → XdsUpdate α → S} {H : S → Strng → Prop}
    (hupdate : ∀ s resource name, H (after s (.update resource)) name →
      H s name ∨ name = resource.name)
    (hremove : ∀ s removed name, H (after s (.remove removed)) name →
      H s name ∧ name ≠ removed)
    {s : S} {updates : List (XdsResource α)} {removes : List Strng} {name : Strng}
    (h : H ((updates.map XdsUpdate.update ++ removes.map XdsUpdate.remove).foldl after s) name) :
    (H s name ∨ name ∈ updates.map (·.name)) ∧ name ∉ removes := by
  induction updates generalizing s with
  | cons resource updates ih =>
    obtain ⟨hbefore | hlater, hkept⟩ := ih h
    · obtain hs | rfl := hupdate s resource name hbefore
      · exact ⟨.inl hs, hkept⟩
      · exact ⟨.inr List.mem_cons_self, hkept⟩
    · exact ⟨.inr (List.mem_cons_of_mem _ hlater), hkept⟩
  | nil =>
    induction removes generalizing s with
    | nil => exact ⟨.inl h, List.not_mem_nil⟩
    | cons removed removes ih =>
      obtain ⟨hbefore | hnone, hkept⟩ := ih h
      · obtain ⟨hs, hne⟩ := hremove s removed name hbefore
        exact ⟨.inl hs, List.not_mem_cons_of_ne_of_not_mem hne hkept⟩
      · cases hnone

/-- The updates that the wrapper hands to the typed handler have names that the response lists. -/
theorem names_of_decoded {decode : List UInt8 → Option α} {res : DeltaDiscoveryResponse}
    {name : Strng} (h : name ∈ (res.resources.filterMap fun raw ↦
      (decodeProto decode raw).toOption).map (·.name)) :
    name ∈ res.resources.map (·.name) := by
  obtain ⟨resource, hresource, rfl⟩ := List.mem_map.1 h
  obtain ⟨raw, hraw, hdecode⟩ := List.mem_filterMap.1 hresource
  rcases hok : decodeProto decode raw with e | resource'
  · rw [hok] at hdecode
    cases hdecode
  · rw [hok] at hdecode
    obtain rfl := Option.some.inj hdecode
    exact List.mem_map.2 ⟨raw, hraw, (decodeProto_name hok).symm⟩

end Handlers

/-- The resource is in the store of its type. -/
def held (state : ProxyState) (typeUrl name : Strng) : Prop :=
  (typeUrl = trafficPolicyType ∧ (state.policies.resources name).isSome) ∨
    (typeUrl = sandboxType ∧ (state.sandboxes.resources name).isSome)

/-- A map that is updated at one name. -/
theorem isSome_update {α : Type} {m : Strng → Option α} {name name' : Strng} {v : Option α}
    (h : (Function.update m name' v name).isSome) : (m name).isSome ∨ name = name' := by
  rcases eq_or_ne name name' with hname | hname
  · exact .inr hname
  · rw [Function.update_of_ne hname] at h
    exact .inl h

theorem isSome_update_none {α : Type} {m : Strng → Option α} {name name' : Strng}
    (h : (Function.update m name' none name).isSome) : (m name).isSome ∧ name ≠ name' := by
  rcases eq_or_ne name name' with rfl | hname
  · simp at h
  · rw [Function.update_of_ne hname] at h
    exact ⟨h, hname⟩

theorem eq_of_update_some {α : Type} {m : Strng → Option α} {name name' : Strng} {v w : α}
    (h : Function.update m name' (some v) name = some w) : (name = name' ∧ w = v) ∨ m name = w := by
  rcases eq_or_ne name name' with rfl | hname
  · rw [Function.update_self] at h
    exact .inl ⟨rfl, (Option.some.inj h).symm⟩
  · rw [Function.update_of_ne hname] at h
    exact .inr h

theorem has_policiesAfter_update (store : TrafficPolicyStore)
    (resource : XdsResource XdsTrafficPolicy) (name : Strng)
    (h : ((policiesAfter store (.update resource)).resources name).isSome) :
    (store.resources name).isSome ∨ name = resource.name := by
  obtain hsame | ⟨policy, -, -, heq⟩ := store.update_cases resource.name resource.resource
  · rw [policiesAfter, hsame] at h
    exact .inl h
  · rw [policiesAfter, heq] at h
    exact isSome_update h

theorem has_sandboxesAfter_update (store : SandboxStore) (resource : XdsResource XdsSandbox)
    (name : Strng) (h : ((sandboxesAfter store (.update resource)).resources name).isSome) :
    (store.resources name).isSome ∨ name = resource.name := by
  obtain ⟨-, hsame⟩ | ⟨sandbox, huid, -, heq⟩ :=
    store.update_cases resource.name resource.resource
  · rw [sandboxesAfter, hsame] at h
    exact .inl h
  · rw [sandboxesAfter, heq, SandboxStore.insert_resources, huid] at h
    exact isSome_update h

theorem has_sandboxesAfter_remove (store : SandboxStore) (removed name : Strng)
    (h : ((sandboxesAfter store (.remove removed)).resources name).isSome) :
    (store.resources name).isSome ∧ name ≠ removed := by
  rw [sandboxesAfter, SandboxStore.remove_resources] at h
  exact isSome_update_none h

section Proxy

variable (decoders : Decoders) (payloads : PayloadDecoders)

/-- The handler of traffic policies, as it is configured. -/
def trafficPolicyHandler : RawHandler ProxyState :=
  handlerWrapper payloads.trafficPolicy fun state updates ↦
    (Batch.trafficPolicies updates).handle decoders state

/-- The handler of sandboxes, as it is configured. -/
def sandboxHandler : RawHandler ProxyState :=
  handlerWrapper payloads.sandbox fun state updates ↦
    (Batch.sandboxes updates).handle decoders state

/-- The handler of addresses, as it is configured. -/
def addressHandler : RawHandler ProxyState :=
  handlerWrapper payloads.address fun state updates ↦
    (Batch.addresses updates).handle decoders state

theorem trafficPolicyHandler_names {state : ProxyState} {res : DeltaDiscoveryResponse}
    {name : Strng}
    (h : (((trafficPolicyHandler decoders payloads state res).2).policies.resources name).isSome) :
    ((state.policies.resources name).isSome ∨ name ∈ res.resources.map (·.name)) ∧
      name ∉ res.removedResources := by
  dsimp only [trafficPolicyHandler, handlerWrapper] at h
  rw [resources_handle] at h
  obtain ⟨hbefore | hnew, hkept⟩ := names_after
    (H := fun (store : TrafficPolicyStore) name ↦ (store.resources name).isSome)
    has_policiesAfter_update (fun _ _ _ ↦ isSome_update_none) h
  · exact ⟨.inl hbefore, hkept⟩
  · exact ⟨.inr (names_of_decoded hnew), hkept⟩

theorem trafficPolicyHandler_sandboxes (state : ProxyState) (res : DeltaDiscoveryResponse) :
    (trafficPolicyHandler decoders payloads state res).2.sandboxes = state.sandboxes :=
  sandboxes_handle decoders state (.trafficPolicies _)

theorem sandboxHandler_names {state : ProxyState} {res : DeltaDiscoveryResponse} {name : Strng}
    (h : (((sandboxHandler decoders payloads state res).2).sandboxes.resources name).isSome) :
    ((state.sandboxes.resources name).isSome ∨ name ∈ res.resources.map (·.name)) ∧
      name ∉ res.removedResources := by
  dsimp only [sandboxHandler, handlerWrapper] at h
  rw [sandboxes_handle] at h
  obtain ⟨hbefore | hnew, hkept⟩ := names_after
    (H := fun (store : SandboxStore) name ↦ (store.resources name).isSome)
    has_sandboxesAfter_update has_sandboxesAfter_remove h
  · exact ⟨.inl hbefore, hkept⟩
  · exact ⟨.inr (names_of_decoded hnew), hkept⟩

/-- The handlers of every proxy. -/
def baseHandlers : Strng → Option (RawHandler ProxyState) :=
  Function.update (Function.update (fun _ ↦ none) addressType
    (some (addressHandler decoders payloads))) trafficPolicyType
    (some (trafficPolicyHandler decoders payloads))

variable (onDemand enableSandboxManager sandboxMode : Bool)

/-- What a proxy handles and what it watches: sandboxes only with a manager or in sandbox mode. -/
theorem proxyStateConfig_tables :
    (proxyStateConfig decoders payloads onDemand enableSandboxManager sandboxMode).handlers =
        (if enableSandboxManager || sandboxMode then
          Function.update (baseHandlers decoders payloads) sandboxType
            (some (sandboxHandler decoders payloads))
        else baseHandlers decoders payloads) ∧
      (proxyStateConfig decoders payloads onDemand enableSandboxManager sandboxMode).watchedTypes =
        [addressType, trafficPolicyType] ++
          if enableSandboxManager || sandboxMode then [sandboxType] else [] := by
  unfold proxyStateConfig
  cases enableSandboxManager with
  | true =>
    refine ⟨rfl, ?_⟩
    simp [Config.withOnDemandHandler, Config.withHandler, Config.watchedTypes,
      Config.withWatchedHandler, Config.watch, Config.new]
  | false =>
    cases sandboxMode with
    | true => exact ⟨rfl, by simp⟩
    | false => exact ⟨rfl, by simp⟩

/-- The three handlers of the proxy, each for its type, which is watched. -/
theorem proxyStateConfig_handlers {typeUrl : Strng} {h : RawHandler ProxyState}
    (hhandler : (proxyStateConfig decoders payloads onDemand enableSandboxManager
      sandboxMode).handlers typeUrl = some h) :
    typeUrl ∈ (proxyStateConfig decoders payloads onDemand enableSandboxManager
        sandboxMode).watchedTypes ∧
      ((typeUrl = addressType ∧ h = addressHandler decoders payloads) ∨
        (typeUrl = trafficPolicyType ∧ h = trafficPolicyHandler decoders payloads) ∨
          (typeUrl = sandboxType ∧ h = sandboxHandler decoders payloads)) := by
  obtain ⟨hhandlers, hwatched⟩ := proxyStateConfig_tables decoders payloads onDemand
    enableSandboxManager sandboxMode
  rw [hhandlers] at hhandler
  rw [hwatched]
  have hbase : baseHandlers decoders payloads typeUrl = some h →
      (typeUrl = addressType ∧ h = addressHandler decoders payloads) ∨
        (typeUrl = trafficPolicyType ∧ h = trafficPolicyHandler decoders payloads) := by
    intro hbase
    obtain hpolicy | hrest := eq_of_update_some hbase
    · exact .inr hpolicy
    · obtain haddress | hnone := eq_of_update_some hrest
      · exact .inl haddress
      · cases hnone
  split at hhandler
  next hsandboxes =>
    rw [if_pos hsandboxes]
    obtain ⟨rfl, rfl⟩ | hrest := eq_of_update_some hhandler
    · exact ⟨by simp, .inr (.inr ⟨rfl, rfl⟩)⟩
    · obtain ⟨rfl, rfl⟩ | ⟨rfl, rfl⟩ := hbase hrest
      · exact ⟨by simp, .inl ⟨rfl, rfl⟩⟩
      · exact ⟨by simp, .inr (.inl ⟨rfl, rfl⟩)⟩
  next =>
    obtain ⟨rfl, rfl⟩ | ⟨rfl, rfl⟩ := hbase hhandler
    · exact ⟨by simp, .inl ⟨rfl, rfl⟩⟩
    · exact ⟨by simp, .inr (.inl ⟨rfl, rfl⟩)⟩

/-- **The handlers of the proxy track what is held.** -/
theorem proxyStateConfig_tracks :
    (proxyStateConfig decoders payloads onDemand enableSandboxManager sandboxMode).Tracks held := by
  intro state res h hhandler typeUrl name hheld
  obtain ⟨htype, rfl⟩ | ⟨htype, rfl⟩ | ⟨htype, rfl⟩ :=
    (proxyStateConfig_handlers decoders payloads onDemand enableSandboxManager sandboxMode
      hhandler).2
  · have hpolicies : (addressHandler decoders payloads state res).2.policies.resources =
        state.policies.resources := resources_handle decoders state (.addresses _)
    have hsandboxes : (addressHandler decoders payloads state res).2.sandboxes =
        state.sandboxes := sandboxes_handle decoders state (.addresses _)
    rw [held, hpolicies, hsandboxes] at hheld
    refine .inl ⟨hheld, fun heq ↦ ?_⟩
    rw [htype] at heq
    obtain ⟨rfl, -⟩ | ⟨rfl, -⟩ := hheld
    · exact absurd heq (by decide)
    · exact absurd heq (by decide)
  · obtain ⟨rfl, hpolicy⟩ | ⟨rfl, hsandbox⟩ := hheld
    · obtain ⟨hbefore | hnew, hkept⟩ := trafficPolicyHandler_names decoders payloads hpolicy
      · exact .inl ⟨.inl ⟨rfl, hbefore⟩, fun _ ↦ hkept⟩
      · exact .inr ⟨htype.symm, hnew⟩
    · rw [trafficPolicyHandler_sandboxes] at hsandbox
      refine .inl ⟨.inr ⟨rfl, hsandbox⟩, fun heq ↦ ?_⟩
      exact absurd (heq.trans htype) (by decide)
  · obtain ⟨rfl, hpolicy⟩ | ⟨rfl, hsandbox⟩ := hheld
    · have hpolicies : (sandboxHandler decoders payloads state res).2.policies.resources =
          state.policies.resources := resources_handle decoders state (.sandboxes _)
      rw [hpolicies] at hpolicy
      refine .inl ⟨.inl ⟨rfl, hpolicy⟩, fun heq ↦ ?_⟩
      exact absurd (heq.trans htype) (by decide)
    · obtain ⟨hbefore | hnew, hkept⟩ := sandboxHandler_names decoders payloads hsandbox
      · exact .inl ⟨.inr ⟨rfl, hbefore⟩, fun _ ↦ hkept⟩
      · exact .inr ⟨htype.symm, hnew⟩

/-- **What is enforced is known, and listed on every new stream.** After any run of the client of
the proxy, between two responses every policy and every sandbox in its store has its name among the
known ones; and when the client connects, there is a request of the resource's type and each such
request lists the name. -/
theorem enforced_resources_known {localNode : Option Strng} {events : List ClientEvent}
    {c : AdsClient ProxyState}
    (hrun : run (AdsClient.step
        (proxyStateConfig decoders payloads onDemand enableSandboxManager sandboxMode))
      (.new (proxyStateConfig decoders payloads onDemand enableSandboxManager sandboxMode)
        (.new localNode)) events = some c) :
    ((∀ removes resources res rejects, c.phase ≠ .notifying removes resources res rejects) →
      ∀ typeUrl name, held c.proxy typeUrl name → name ∈ c.knownResources typeUrl) ∧
    ∀ requests, c.phase = .connecting requests → ∀ typeUrl name, held c.proxy typeUrl name →
      (∃ r ∈ requests, r.typeUrl = typeUrl) ∧
        ∀ r ∈ requests, r.typeUrl = typeUrl → name ∈ r.initialResourceVersions := by
  have hknows : c.Knows (proxyStateConfig decoders payloads onDemand enableSandboxManager
      sandboxMode) held := by
    refine run_induction hrun ⟨?_, ?_, by simp [AdsClient.new]⟩ fun _ _ s s' hs hstep ↦
      hs.step (proxyStateConfig_tracks _ _ _ _ _) (fun typeUrl hsome ↦ ?_)
        (AdsClient.stepped_of_step hstep)
    · simp [held, AdsClient.new, ProxyState.new, TrafficPolicyStore.empty, SandboxStore.empty]
    · simp [held, AdsClient.new, ProxyState.new, TrafficPolicyStore.empty, SandboxStore.empty]
    · obtain ⟨h, hh⟩ := Option.ne_none_iff_exists'.1 hsome
      exact (proxyStateConfig_handlers _ _ _ _ _ hh).1
  have hnames : (∀ removes resources res rejects,
      c.phase ≠ .notifying removes resources res rejects) →
        ∀ typeUrl name, held c.proxy typeUrl name → name ∈ c.knownResources typeUrl := by
    intro hphase typeUrl name hheld
    have hwill := hknows.known typeUrl name hheld
    obtain ⟨hmem, -⟩ | hlearn := hwill
    · exact hmem
    · unfold ClientPhase.learns at hlearn
      split at hlearn
      next hnotifying => exact absurd hnotifying (hphase _ _ _ _)
      next => cases hlearn
  refine ⟨hnames, fun requests hconnecting typeUrl name hheld ↦ ?_⟩
  obtain ⟨htypes, hversions⟩ := hknows.listed requests hconnecting
  refine ⟨?_, fun r hr htype ↦ ?_⟩
  · have hwatched := hknows.watched typeUrl name hheld
    rw [← htypes] at hwatched
    exact List.mem_map.1 hwatched
  · rw [hversions r hr, htype]
    exact hnames (by simp [hconnecting]) typeUrl name hheld

end Proxy

/-- A proxy for which one payload is a policy. -/
def policyConfig : Config ProxyState :=
  proxyStateConfig ⟨fun _ ↦ .ok ⟨trafficPolicyType, []⟩, fun _ ↦ .ok ()⟩
    ⟨fun _ ↦ none, fun bytes ↦ if bytes = [1] then some ⟨some [], none⟩ else none, fun _ ↦ none⟩
    false false false

/-- A response with a policy, one that does not decode, and one that is removed as well; the stream
ends after it and the client connects again. -/
def policyRun : List ClientEvent :=
  [.start, .connect true,
    .message ⟨trafficPolicyType,
      [⟨"web", some ⟨trafficPolicyType, [1]⟩⟩, ⟨"bad", some ⟨trafficPolicyType, [0]⟩⟩,
        ⟨"both", some ⟨trafficPolicyType, [1]⟩⟩], ["both"], "nonce"⟩,
    .handle, .notify, .notify, .notify, .notify, .notify, .sent true, .streamEnd, .start]

theorem enforced_resources_known_policyRun :
    ∃ c requests, run (AdsClient.step policyConfig) (.new policyConfig (.new none)) policyRun =
        some c ∧ c.phase = .connecting requests ∧ held c.proxy trafficPolicyType "web" ∧
      (∃ r ∈ requests, r.typeUrl = trafficPolicyType) ∧
        ∀ r ∈ requests, r.typeUrl = trafficPolicyType → "web" ∈ r.initialResourceVersions := by
  have hrun : ((run (AdsClient.step policyConfig) (.new policyConfig (.new none)) policyRun).any
      fun c ↦ decide (c.phase = .connecting (policyConfig.initialRequests.map c.initialRequest)) &&
        (c.proxy.policies.resources "web").isSome) = true := by decide
  obtain ⟨c, hc, hfinal⟩ := (Option.any_eq_true _ _).1 hrun
  obtain ⟨hphase, hweb⟩ := (Bool.and_eq_true _ _).mp hfinal
  have hconnecting := of_decide_eq_true hphase
  have hheld : held c.proxy trafficPolicyType "web" := .inl ⟨rfl, hweb⟩
  exact ⟨c, _, hc, hconnecting, hheld,
    (enforced_resources_known _ _ _ _ _ hc).2 _ hconnecting trafficPolicyType "web" hheld⟩

end Ztunnel.Xds
