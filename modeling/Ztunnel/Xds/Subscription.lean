import Ztunnel.Xds.Client

/-!
# Subscriptions on a stream

For an on-demand type the client subscribes to names as they are demanded, and a stream that breaks
takes the server's record of them with it. `run_internal` therefore replays the names in the initial
request of the next stream.

* `subscribed` is the server's side: the names a sequence of requests leaves subscribed for a type,
  with the wildcard for a first request that names nothing.
* `AdsClient.Subscribes` is the invariant: the requests of the current call of `run_internal`, the
  one being handed to the stream included, leave exactly the names of `subscriptions` subscribed.
* `Dequeues` ties `subscriptions` to the events so far: the names of the demands taken from the
  queue. Both together give `subscribed_eq_dequeuedNames`.
-/

namespace Ztunnel.Xds

open Ztunnel.State Ztunnel.Rbac Ztunnel.Sandbox Transition

variable {σ : Type}

/-! ### The server's side -/

/-- **One request of a type**, after the names held for it so far. A first request that names
nothing subscribes to the wildcard; names are unsubscribed after names are subscribed. -/
def serverSubscribe (held : Option (Finset Strng)) (r : DeltaDiscoveryRequest) : Finset Strng :=
  match held with
  | none =>
    (if r.resourceNamesSubscribe = ∅ then {"*"} else r.resourceNamesSubscribe) \
      r.resourceNamesUnsubscribe
  | some names => (names ∪ r.resourceNamesSubscribe) \ r.resourceNamesUnsubscribe

/-- The names that the requests of a stream leave subscribed for a type; `none` if there is no
request of the type. -/
def subscribed (typeUrl : Strng) (stream : List DeltaDiscoveryRequest) : Option (Finset Strng) :=
  stream.foldl (fun held r ↦ if r.typeUrl = typeUrl then some (serverSubscribe held r) else held)
    none

theorem subscribed_concat (typeUrl : Strng) (stream : List DeltaDiscoveryRequest)
    (r : DeltaDiscoveryRequest) :
    subscribed typeUrl (stream ++ [r]) =
      if r.typeUrl = typeUrl then some (serverSubscribe (subscribed typeUrl stream) r)
      else subscribed typeUrl stream := by
  unfold subscribed
  rw [List.foldl_append]
  rfl

/-- Requests of other types say nothing of a type. -/
theorem subscribed_eq_none {typeUrl : Strng} {stream : List DeltaDiscoveryRequest}
    (h : ∀ r ∈ stream, r.typeUrl ≠ typeUrl) : subscribed typeUrl stream = none := by
  induction stream using List.reverseRecOn with
  | nil => rfl
  | append_singleton stream r ih =>
    rw [subscribed_concat, if_neg (h r (by simp))]
    exact ih fun r' hr' ↦ h r' (List.mem_append_left _ hr')

/-- If the types of the requests are distinct, a type has what its one request gives it. -/
theorem subscribed_of_mem {stream : List DeltaDiscoveryRequest} {r : DeltaDiscoveryRequest}
    (hnodup : (stream.map (·.typeUrl)).Nodup) (hr : r ∈ stream) :
    subscribed r.typeUrl stream = some (serverSubscribe none r) := by
  induction stream using List.reverseRecOn with
  | nil => simp at hr
  | append_singleton stream r' ih =>
    rw [List.map_append, List.nodup_append] at hnodup
    obtain ⟨hnodup, -, hdisjoint⟩ := hnodup
    have hother : ∀ q ∈ stream, q.typeUrl ≠ r'.typeUrl := fun q hq ↦
      hdisjoint q.typeUrl (List.mem_map_of_mem hq) r'.typeUrl (by simp)
    rw [subscribed_concat]
    rcases List.mem_append.1 hr with hr | hr
    · rw [if_neg (hother r hr).symm]
      exact ih hnodup hr
    · obtain rfl := List.mem_singleton.1 hr
      rw [if_pos rfl, subscribed_eq_none hother]

/-- A request that names nothing changes nothing for a type that is subscribed. -/
theorem subscribed_concat_of_empty {typeUrl : Strng} {stream : List DeltaDiscoveryRequest}
    {names : Finset Strng} (h : subscribed typeUrl stream = some names)
    {r : DeltaDiscoveryRequest} (hsubscribe : r.resourceNamesSubscribe = ∅)
    (hunsubscribe : r.resourceNamesUnsubscribe = ∅) :
    subscribed typeUrl (stream ++ [r]) = some names := by
  rw [subscribed_concat, h]
  split
  · simp [serverSubscribe, hsubscribe, hunsubscribe]
  · rfl

/-! ### Configurations -/

namespace Config

variable {config : Config σ}

/-- The types of the initial requests. -/
def watchedTypes (config : Config σ) : List Strng := config.initialRequests.map (·.typeUrl)

@[simp] theorem constructInitialRequest_typeUrl (typeUrl : Strng) (noOnDemand : Bool) :
    (config.constructInitialRequest typeUrl noOnDemand).typeUrl = typeUrl := by
  unfold constructInitialRequest
  split <;> rfl

@[simp] theorem new_watchedTypes (onDemand : Bool) :
    (new onDemand : Config σ).watchedTypes = [] := rfl

@[simp] theorem withWatchedHandler_watchedTypes (typeUrl : Strng) (h : RawHandler σ)
    (noOnDemand : Bool) :
    (config.withWatchedHandler typeUrl h noOnDemand).watchedTypes =
      config.watchedTypes ++ [typeUrl] := by
  simp [watchedTypes, withWatchedHandler, withHandler, watch]

/-- **A configuration as the builder makes it**, with each type watched once. -/
inductive Built : Config σ → Prop
  | new (onDemand : Bool) : Built (new onDemand)
  | withHandler {config : Config σ} (h : Built config) (typeUrl : Strng)
      (handler : RawHandler σ) : Built (config.withHandler typeUrl handler)
  | watch {config : Config σ} (h : Built config) {typeUrl : Strng}
      (hnew : typeUrl ∉ config.watchedTypes) (noOnDemand : Bool) :
      Built (config.watch typeUrl noOnDemand)
  | withWatchedHandler {config : Config σ} (h : Built config) {typeUrl : Strng}
      (hnew : typeUrl ∉ config.watchedTypes) (handler : RawHandler σ) (noOnDemand : Bool) :
      Built (config.withWatchedHandler typeUrl handler noOnDemand)
  | withOptionalWatchedHandler {config : Config σ} (h : Built config) {typeUrl : Strng}
      (hnew : typeUrl ∉ config.watchedTypes) (handler : RawHandler σ) (noOnDemand : Bool) :
      Built (config.withOptionalWatchedHandler typeUrl handler noOnDemand)
  | withOnDemandHandler {config : Config σ} (h : Built config) {typeUrl : Strng}
      (hnew : typeUrl ∉ config.watchedTypes) (handler : RawHandler σ) :
      Built (config.withOnDemandHandler typeUrl handler)

/-- What the initial requests of a built configuration look like. -/
structure Distinct (requests : List DeltaDiscoveryRequest) : Prop where
  nodup : (requests.map (·.typeUrl)).Nodup
  onDemand : ∀ r ∈ requests, isInitialRequestOnDemand r = true →
    r.resourceNamesSubscribe = {"*"} ∧ r.resourceNamesUnsubscribe = {"*"}

/-- One more request, of a new type. -/
theorem Distinct.concat {requests : List DeltaDiscoveryRequest} (h : Distinct requests)
    {r : DeltaDiscoveryRequest} (hnew : r.typeUrl ∉ requests.map (·.typeUrl))
    (hr : isInitialRequestOnDemand r = true →
      r.resourceNamesSubscribe = {"*"} ∧ r.resourceNamesUnsubscribe = {"*"}) :
    Distinct (requests ++ [r]) := by
  refine ⟨?_, ?_⟩
  · rw [List.map_append, List.map_singleton, ← List.concat_eq_append]
    exact h.nodup.concat hnew
  · intro r' hr'
    rcases List.mem_append.1 hr' with hr' | hr'
    · exact h.onDemand r' hr'
    · exact List.mem_singleton.1 hr' ▸ hr

theorem Distinct.watch (h : Distinct config.initialRequests) {typeUrl : Strng}
    (hnew : typeUrl ∉ config.watchedTypes) (noOnDemand : Bool) :
    Distinct (config.watch typeUrl noOnDemand).initialRequests := by
  refine h.concat (by rwa [constructInitialRequest_typeUrl]) fun hr ↦ ?_
  unfold constructInitialRequest at hr ⊢
  split at hr
  · next hdemand => simp [hdemand]
  · simp [isInitialRequestOnDemand] at hr

theorem Built.distinct (h : config.Built) : Distinct config.initialRequests := by
  induction h with
  | new => exact ⟨List.nodup_nil, fun r hr ↦ absurd hr List.not_mem_nil⟩
  | withHandler _ _ _ ih => exact ih
  | watch _ hnew noOnDemand ih | withWatchedHandler _ hnew _ noOnDemand ih
  | withOptionalWatchedHandler _ hnew _ noOnDemand ih => exact ih.watch hnew noOnDemand
  | withOnDemandHandler _ hnew _ ih =>
    refine ih.concat ?_ fun _ ↦ ⟨rfl, rfl⟩
    show (constructInitialRequest _ _ false).typeUrl ∉ _
    rwa [constructInitialRequest_typeUrl]

end Config

/-- The client of the proxy is built so, whatever its flags. -/
theorem proxyStateConfig_built (decoders : Decoders) (payloads : PayloadDecoders)
    (onDemand enableSandboxManager sandboxMode : Bool) :
    (proxyStateConfig decoders payloads onDemand enableSandboxManager sandboxMode).Built := by
  have hpolicy : trafficPolicyType ∉ [addressType] := by decide
  have hsandbox : sandboxType ∉ [addressType, trafficPolicyType] := by decide
  have hbuilder (addresses policies : RawHandler ProxyState) :
      (((Config.new onDemand).withWatchedHandler addressType addresses false).withWatchedHandler
        trafficPolicyType policies true).Built :=
    ((Config.Built.new onDemand).withWatchedHandler (by simp) _ _).withWatchedHandler
      (by simpa using hpolicy) _ _
  unfold proxyStateConfig
  split
  · exact (hbuilder _ _).withOnDemandHandler (by simpa using hsandbox) _
  · split
    · exact (hbuilder _ _).withWatchedHandler (by simpa using hsandbox) _ _
    · exact hbuilder _ _

/-! ### The invariant of the stream -/

namespace AdsClient

variable {config : Config σ} {c c' : AdsClient σ}

/-- The requests of the current call of `run_internal`: those made on its stream, and the one that
is being handed to it. -/
def requests (c : AdsClient σ) : Option (List DeltaDiscoveryRequest) :=
  match c.phase with
  | .backoff => none
  | .connecting initialRequests => some initialRequests
  | .idle | .handling _ | .notifying _ _ _ _ => some c.stream
  | .acking request | .subscribing request => some (c.stream ++ [request])

/-- **The invariant.** The requests leave exactly the names of `subscriptions` subscribed. -/
def Subscribes (config : Config σ) (c : AdsClient σ) : Prop :=
  ∀ requests ∈ c.requests, ∀ typeUrl ∈ config.onDemandTypes,
    subscribed typeUrl requests = some (c.subscriptions typeUrl)

@[simp] theorem initialRequest_typeUrl (c : AdsClient σ) (e : DeltaDiscoveryRequest) :
    (c.initialRequest e).typeUrl = e.typeUrl := by
  simp only [initialRequest]
  split <;> rfl

theorem acked_requests (c : AdsClient σ) (request : DeltaDiscoveryRequest) :
    (c.acked request).requests = c.requests := by
  unfold acked
  split <;> rfl

theorem acked_subscriptions (c : AdsClient σ) (request : DeltaDiscoveryRequest) :
    (c.acked request).subscriptions = c.subscriptions := by
  unfold acked
  split <;> rfl

theorem acked_demand (c : AdsClient σ) (request : DeltaDiscoveryRequest) :
    (c.acked request).demand = c.demand := by
  unfold acked
  split <;> rfl

/-- An initial request of an on-demand type subscribes to the names so far, to none if there is
none. -/
theorem serverSubscribe_initialRequest {e : DeltaDiscoveryRequest}
    (hdemand : isInitialRequestOnDemand e = true) (hsubscribe : e.resourceNamesSubscribe = {"*"})
    (hunsubscribe : e.resourceNamesUnsubscribe = {"*"}) :
    serverSubscribe none (c.initialRequest e) = c.subscriptions e.typeUrl := by
  by_cases hnames : c.subscriptions e.typeUrl = ∅
  · simp [serverSubscribe, initialRequest, hnames, hsubscribe, hunsubscribe]
  · simp [serverSubscribe, initialRequest, hnames, hdemand]

/-- The initial requests of a stream. -/
theorem subscribed_initialRequests (hconfig : config.Built) {typeUrl : Strng}
    (htype : typeUrl ∈ config.onDemandTypes) :
    subscribed typeUrl (config.initialRequests.map c.initialRequest) =
      some (c.subscriptions typeUrl) := by
  obtain ⟨e, he, rfl⟩ := List.mem_map.1 htype
  obtain ⟨hmem, hdemand⟩ := List.mem_filter.1 he
  obtain ⟨hsubscribe, hunsubscribe⟩ := hconfig.distinct.onDemand e hmem hdemand
  have hnodup : ((config.initialRequests.map c.initialRequest).map (·.typeUrl)).Nodup := by
    simpa [Function.comp_def] using hconfig.distinct.nodup
  have h := subscribed_of_mem hnodup (List.mem_map_of_mem hmem)
  rw [initialRequest_typeUrl] at h
  rw [h, serverSubscribe_initialRequest hdemand hsubscribe hunsubscribe]

namespace Subscribes

theorem move (h : Subscribes config c) (hrequests : c'.requests = none ∨ c'.requests = c.requests)
    (hsubscriptions : c'.subscriptions = c.subscriptions) : Subscribes config c' := by
  intro requests hmem
  rw [hsubscriptions]
  rcases hrequests with hnone | hsame
  · rw [hnone] at hmem
    cases hmem
  · exact h requests (hsame ▸ hmem)

theorem acknowledge (h : Subscribes config c) (hstream : c.requests = some c.stream)
    {res : DeltaDiscoveryResponse} {rejects : List RejectedConfig}
    (hphase : c'.phase = .acking (AdsClient.acknowledge res rejects))
    (hsame : c'.stream = c.stream) (hsubscriptions : c'.subscriptions = c.subscriptions) :
    Subscribes config c' := by
  intro requests hmem typeUrl htype
  have hrequests : c'.requests = some (c.stream ++ [AdsClient.acknowledge res rejects]) := by
    rw [AdsClient.requests, hphase, hsame]
  obtain rfl := Option.some.inj (hrequests.symm.trans hmem)
  rw [hsubscriptions]
  exact subscribed_concat_of_empty (h c.stream hstream typeUrl htype) rfl rfl

/-- A demand is taken from the queue: its name joins the subscriptions, and the request for it is
under way. -/
theorem dequeue (h : Subscribes config c) (hidle : c.phase = .idle) (channel : ℕ)
    (key : ResourceKey) (demand : List (ℕ × ResourceKey)) :
    Subscribes config
      { { c with demand := demand }.insertPending key channel with
        subscriptions := Function.update c.subscriptions key.typeUrl
          (insert key.name (c.subscriptions key.typeUrl))
        phase := .subscribing
          { typeUrl := key.typeUrl, resourceNamesSubscribe := {key.name} } } := by
  have hstream : c.requests = some c.stream := by rw [AdsClient.requests, hidle]
  intro requests hmem typeUrl htype
  obtain rfl := Option.some.inj hmem
  have hold := h c.stream hstream typeUrl htype
  show subscribed typeUrl (c.stream ++ _) = some (Function.update c.subscriptions _ _ typeUrl)
  rw [subscribed_concat, hold]
  by_cases heq : key.typeUrl = typeUrl
  · subst heq
    rw [if_pos rfl, Function.update_self]
    congr 1
    ext name
    simp only [serverSubscribe, Finset.sdiff_empty, Finset.mem_union, Finset.mem_insert,
      Finset.mem_singleton]
    exact or_comm
  · rw [if_neg heq, Function.update_of_ne (Ne.symm heq)]

theorem handle (h : Subscribes config c) {res : DeltaDiscoveryResponse}
    (hphase : c.phase = .handling res) : Subscribes config (c.handle config res) := by
  have hstream : c.requests = some c.stream := by rw [AdsClient.requests, hphase]
  unfold AdsClient.handle
  split
  · exact h.move (.inr hstream.symm) rfl
  · exact h.acknowledge hstream rfl rfl rfl

theorem step (hconfig : config.Built) (h : Subscribes config c) {e : ClientEvent}
    (hstep : c.step config e = some c') : Subscribes config c' := by
  cases stepped_of_step hstep with
  | demanded | completed | cancelled => exact h
  | started =>
    intro requests hmem typeUrl htype
    obtain rfl := Option.some.inj hmem
    exact subscribed_initialRequests hconfig htype
  | established initialRequests hphase =>
    have hrequests : c.requests = some initialRequests := by rw [AdsClient.requests, hphase]
    exact h.move (.inr hrequests.symm) rfl
  | dequeued channel key demand hphase => exact h.dequeue hphase channel key demand
  | handled res hphase => exact h.handle hphase
  | received res hphase | removed name removes resources res rejects hphase
  | added name resources res rejects hphase =>
    have hstream : c.requests = some c.stream := by rw [AdsClient.requests, hphase]
    exact h.move (.inr hstream.symm) rfl
  | notified res rejects hphase =>
    exact h.acknowledge (by rw [AdsClient.requests, hphase]) rfl rfl rfl
  | acked request hphase =>
    have hrequests : c.requests = some (c.stream ++ [request]) := by
      rw [AdsClient.requests, hphase]
    refine h.move (.inr ?_) (acked_subscriptions _ request)
    rw [acked_requests]
    exact hrequests.symm
  | subscribed request hphase =>
    have hrequests : c.requests = some (c.stream ++ [request]) := by
      rw [AdsClient.requests, hphase]
    exact h.move (.inr hrequests.symm) rfl
  -- the task is off its stream
  | refused | ended | unsent => exact h.move (.inl rfl) rfl

end Subscribes

end AdsClient

/-! ### The demands taken from the queue -/

/-- The key that an event demands. -/
def ClientEvent.demandedKey : ClientEvent → Option ResourceKey
  | .demand key => some key
  | _ => none

/-- The keys demanded by a sequence of events, in their order. -/
def demandedKeys (events : List ClientEvent) : List ResourceKey :=
  events.filterMap ClientEvent.demandedKey

/-- The keys demanded and dequeued: the queue gives demands out in the order they came, one for each
`demandEvent`. -/
def dequeuedKeys (events : List ClientEvent) : List ResourceKey :=
  (demandedKeys events).take (events.count .demandEvent)

/-- The names demanded and dequeued for a type. -/
def dequeuedNames (events : List ClientEvent) (typeUrl : Strng) : Finset Strng :=
  (((dequeuedKeys events).filter (·.typeUrl = typeUrl)).map (·.name)).toFinset

theorem mem_dequeuedNames {events : List ClientEvent} {typeUrl name : Strng} :
    name ∈ dequeuedNames events typeUrl ↔ ⟨name, typeUrl⟩ ∈ dequeuedKeys events := by
  simp only [dequeuedNames, List.mem_toFinset, List.mem_map, List.mem_filter, decide_eq_true_eq]
  constructor
  · rintro ⟨key, ⟨hmem, rfl⟩, rfl⟩
    exact hmem
  · intro hmem
    exact ⟨⟨name, typeUrl⟩, ⟨hmem, rfl⟩, rfl⟩

namespace AdsClient

variable {config : Config σ} {c c' : AdsClient σ} {past : List ClientEvent}

/-- **The queue and the subscriptions after some events**: the demands are those dequeued and those
queued, and the subscriptions are the names of the former. -/
structure Dequeues (past : List ClientEvent) (c : AdsClient σ) : Prop where
  count_le : past.count .demandEvent ≤ (demandedKeys past).length
  queue : demandedKeys past = dequeuedKeys past ++ c.demand.map Prod.snd
  subscriptions : ∀ typeUrl, c.subscriptions typeUrl = dequeuedNames past typeUrl

theorem Dequeues.demand (h : Dequeues past c) {key : ResourceKey}
    (hstep : c.makeDemand config key = some c') : Dequeues (past ++ [.demand key]) c' := by
  obtain ⟨-, rfl⟩ := Option.ite_some_none_eq_some.1 hstep
  have hkeys : demandedKeys (past ++ [.demand key]) = demandedKeys past ++ [key] := by
    simp [demandedKeys, ClientEvent.demandedKey]
  have hcount : List.count .demandEvent (past ++ [ClientEvent.demand key]) =
      past.count .demandEvent := by simp
  have hdequeued : dequeuedKeys (past ++ [.demand key]) = dequeuedKeys past := by
    rw [dequeuedKeys, hkeys, hcount, List.take_append_of_le_length h.count_le, dequeuedKeys]
  refine ⟨?_, ?_, ?_⟩
  · rw [hcount, hkeys, List.length_append]
    exact h.count_le.trans (Nat.le_add_right _ _)
  · rw [hkeys, hdequeued, h.queue]
    simp
  · intro typeUrl
    rw [dequeuedNames, hdequeued]
    exact h.subscriptions typeUrl

/-- `handle_demand_event` takes the first of the queue. -/
theorem Dequeues.demandEvent (h : Dequeues past c) (hstep : c.handleDemandEvent = some c') :
    Dequeues (past ++ [.demandEvent]) c' := by
  unfold handleDemandEvent at hstep
  split at hstep
  · next channel key demand hdemand =>
    obtain rfl := Option.some.inj hstep
    have hkeys : demandedKeys (past ++ [.demandEvent]) = demandedKeys past := by
      simp [demandedKeys, ClientEvent.demandedKey]
    have hcount : List.count .demandEvent (past ++ [ClientEvent.demandEvent]) =
        past.count .demandEvent + 1 := by simp
    have hqueue : demandedKeys past = (dequeuedKeys past ++ [key]) ++ demand.map Prod.snd := by
      rw [h.queue, hdemand]
      simp
    have hlength : (dequeuedKeys past ++ [key]).length =
        past.count ClientEvent.demandEvent + 1 := by
      rw [List.length_append, dequeuedKeys, List.length_take_of_le h.count_le]
      rfl
    have hdequeued : dequeuedKeys (past ++ [.demandEvent]) = dequeuedKeys past ++ [key] := by
      rw [dequeuedKeys, hkeys, hcount, hqueue, List.take_left' hlength]
    refine ⟨?_, ?_, ?_⟩
    · rw [hcount, hkeys, hqueue, List.length_append, hlength]
      exact Nat.le_add_right _ _
    · rw [hkeys, hdequeued]
      exact hqueue
    · intro typeUrl
      show Function.update c.subscriptions _ _ typeUrl = _
      ext name
      rw [mem_dequeuedNames, hdequeued, List.mem_append, ← mem_dequeuedNames, ← h.subscriptions]
      by_cases heq : typeUrl = key.typeUrl
      · subst heq
        rw [Function.update_self, Finset.mem_insert, List.mem_singleton, or_comm]
        exact or_congr_right ⟨fun hname ↦ hname ▸ rfl, fun hkey ↦ congrArg ResourceKey.name hkey⟩
      · rw [Function.update_of_ne heq, List.mem_singleton]
        exact (or_iff_left fun hkey ↦ heq (congrArg ResourceKey.typeUrl hkey)).symm
  · cases hstep

/-- No other event concerns the queue or the subscriptions. -/
theorem step_demand_subscriptions {e : ClientEvent} (hdemand : e.demandedKey = none)
    (hevent : e ≠ .demandEvent) (hstep : c.step config e = some c') :
    c'.demand = c.demand ∧ c'.subscriptions = c.subscriptions := by
  cases stepped_of_step hstep with
  | demanded => cases hdemand
  | dequeued => exact absurd rfl hevent
  | handled =>
    unfold AdsClient.handle
    split <;> exact ⟨rfl, rfl⟩
  | acked => exact ⟨acked_demand _ _, acked_subscriptions _ _⟩
  | completed | cancelled | started | established | refused | received | ended | removed | added
  | notified | subscribed | unsent => exact ⟨rfl, rfl⟩

theorem Dequeues.step (h : Dequeues past c) {e : ClientEvent}
    (hstep : c.step config e = some c') : Dequeues (past ++ [e]) c' := by
  by_cases hevent : e = .demandEvent
  · subst hevent
    obtain ⟨-, hstep⟩ := Option.ite_none_right_eq_some.1 hstep
    exact h.demandEvent hstep
  rcases hdemand : e.demandedKey with - | key
  · obtain ⟨hqueue, hsubscriptions⟩ := step_demand_subscriptions hdemand hevent hstep
    have hkeys : demandedKeys (past ++ [e]) = demandedKeys past := by simp [demandedKeys, hdemand]
    have hcount : List.count .demandEvent (past ++ [e]) = past.count .demandEvent := by
      simp [hevent]
    have hdequeued : dequeuedKeys (past ++ [e]) = dequeuedKeys past := by
      rw [dequeuedKeys, hkeys, hcount, dequeuedKeys]
    refine ⟨?_, ?_, fun typeUrl ↦ ?_⟩
    · rw [hcount, hkeys]
      exact h.count_le
    · rw [hkeys, hdequeued, hqueue]
      exact h.queue
    · rw [hsubscriptions, dequeuedNames, hdequeued]
      exact h.subscriptions typeUrl
  · cases e with
    | demand key' => exact h.demand hstep
    | _ => cases hdemand

/-- **Every stream carries the names demanded so far.** In every run, whenever the client is in its
`select!`, the requests made on the stream leave subscribed for an on-demand type exactly the names
demanded and dequeued since the start; the wildcard is among them only if it was demanded as a
name. -/
theorem subscribed_eq_dequeuedNames (hconfig : config.Built) {proxy : σ}
    {events : List ClientEvent} (hrun : run (step config) (new config proxy) events = some c)
    (hidle : c.phase = .idle) {typeUrl : Strng} (htype : typeUrl ∈ config.onDemandTypes) :
    subscribed typeUrl c.stream = some (dequeuedNames events typeUrl) ∧
      ((∀ key, ClientEvent.demand key ∈ events → key.name ≠ "*") →
        "*" ∉ dequeuedNames events typeUrl) := by
  have hsubscribes : Subscribes config c := by
    refine run_induction hrun ?_ fun e _ c c' h hstep ↦ h.step hconfig hstep
    intro requests hmem
    cases hmem
  have hdequeues : Dequeues events c := by
    refine run_induction_past hrun ?_ fun past e c c' h hstep ↦ h.step hstep
    exact ⟨le_rfl, rfl, fun _ ↦ rfl⟩
  refine ⟨?_, fun hnames hmem ↦ ?_⟩
  · rw [← hdequeues.subscriptions]
    exact hsubscribes c.stream (by rw [requests, hidle]; rfl) typeUrl htype
  · have hdemanded := List.mem_of_mem_take (mem_dequeuedNames.1 hmem)
    obtain ⟨e, he, hkey⟩ := List.mem_filterMap.1 hdemanded
    cases e with
    | demand key =>
      obtain rfl := Option.some.inj hkey
      exact hnames _ he rfl
    | _ => cases hkey

end AdsClient

/-- A proxy with addresses on demand, whose payloads do not decode. -/
def onDemandConfig : Config ProxyState :=
  proxyStateConfig ⟨fun _ ↦ .ok ⟨trafficPolicyType, []⟩, fun _ ↦ .ok ()⟩
    ⟨fun _ ↦ none, fun _ ↦ none, fun _ ↦ none⟩ true false false

/-- The stream ends while the request for a first address is under way; a second one is demanded
before the next stream, and dequeued on it. -/
def reconnectRun : List ClientEvent :=
  [.start, .connect true, .demand ⟨"net/10.0.0.1", addressType⟩, .demandEvent, .sent false,
    .demand ⟨"net/10.0.0.2", addressType⟩, .start, .connect true, .demandEvent, .sent true]

theorem subscribed_reconnectRun :
    ∃ c, run (AdsClient.step onDemandConfig) (.new onDemandConfig (.new none)) reconnectRun =
        some c ∧
      subscribed addressType c.stream = some {"net/10.0.0.1", "net/10.0.0.2"} := by
  refine exists_run (fun c ↦ c.phase = .idle) (by decide) fun c hc hidle ↦ ?_
  have hnames : dequeuedNames reconnectRun addressType = {"net/10.0.0.1", "net/10.0.0.2"} := by
    decide
  rw [← hnames]
  exact (AdsClient.subscribed_eq_dequeuedNames (proxyStateConfig_built _ _ _ _ _) hc hidle
    (by decide)).1

end Ztunnel.Xds
