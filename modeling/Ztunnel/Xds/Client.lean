import Ztunnel.Lib.Transition
import Ztunnel.Xds.Update

/-!
# The discovery client

`xds/client.rs`: the delta xDS client as a transition system. The client task connects, subscribes,
and in its `select!` takes either a demand from the queue or a message from the stream. Other tasks
demand resources by key and wait on a oneshot channel, at any point of this.

* A message goes to the handler of its type first. Then the names it lists are gone through, removed
  ones first: the sender pending for a key is taken out of the map and fired, and the set of known
  names is brought up to date. The response is acknowledged, or refused with what was rejected.
* A demand puts its sender into the map of pending senders, replacing the one that is there: the
  channel of the replaced sender closes. The name stays subscribed across reconnects.

`Demanded` is a waiter with its channel. Its field `after`, and the fields `received` and `handled`
of the client, are a history that no step reads: the messages taken from a stream, how many of them
have been through their handlers, and how many had been taken when a waiter made its demand.

`step` is the function that runs are made of, and `Stepped` the cases that an invariant has to go
through. Node metadata, the transport and the backoff times are outside the model. A vector of names
that is only tested for membership is a finite set here.
-/

namespace Ztunnel.Xds

open Ztunnel.State Ztunnel.Rbac Ztunnel.Sandbox Transition

/-! ### Messages -/

/-- `ResourceKey`. -/
structure ResourceKey where
  name : Strng
  typeUrl : Strng
deriving DecidableEq, Repr

/-- `ProtoResource`. -/
structure ProtoResource where
  name : Strng
  resource : Option ProtoAny
deriving DecidableEq, Repr

/-- `DeltaDiscoveryResponse`. -/
structure DeltaDiscoveryResponse where
  typeUrl : Strng
  resources : List ProtoResource
  removedResources : List Strng
  nonce : String
deriving DecidableEq, Repr

/-- The response lists a key, as a resource or as a removal. -/
def DeltaDiscoveryResponse.Lists (res : DeltaDiscoveryResponse) (key : ResourceKey) : Prop :=
  key.typeUrl = res.typeUrl ∧
    (key.name ∈ res.removedResources ∨ key.name ∈ res.resources.map (·.name))

instance (res : DeltaDiscoveryResponse) (key : ResourceKey) : Decidable (res.Lists key) :=
  inferInstanceAs (Decidable (_ ∧ _))

/-- `DeltaDiscoveryRequest`. The error detail is the list of rejects that its text is made of. -/
structure DeltaDiscoveryRequest where
  typeUrl : Strng
  resourceNamesSubscribe : Finset Strng := ∅
  resourceNamesUnsubscribe : Finset Strng := ∅
  initialResourceVersions : Finset Strng := ∅
  responseNonce : String := ""
  errorDetail : Option (List RejectedConfig) := none
deriving DecidableEq

/-! ### Handlers -/

/-- `decode_proto`. -/
def decodeProto {α : Type} (decode : List UInt8 → Option α) (resource : ProtoResource) :
    Except AdsError (XdsResource α) :=
  match resource.resource with
  | none => .error .missingResource
  | some res =>
    match decode res.value with
    | none => .error .decode
    | some r => .ok ⟨resource.name, r⟩

/-- `RawHandler`, on the state behind the handlers: the rejects, and the state. -/
abbrev RawHandler (σ : Type) := σ → DeltaDiscoveryResponse → List RejectedConfig × σ

/-- `HandlerWrapper::handle`, up to the notifications: the resources that decode and the removals go
to the typed handler, the others are rejected. -/
def handlerWrapper {σ α : Type} (decode : List UInt8 → Option α)
    (handle : σ → List (XdsUpdate α) → List RejectedConfig × σ) : RawHandler σ := fun s res ↦
  let updates := res.resources.filterMap fun raw ↦ (decodeProto decode raw).toOption
  let decodeFailures := res.resources.filterMap fun raw ↦
    match decodeProto decode raw with
    | .ok _ => none
    | .error e => some ⟨raw.name, .ads e⟩
  let (rejects, s) := handle s (updates.map .update ++ res.removedResources.map .remove)
  (rejects ++ decodeFailures, s)

/-! ### Configuration -/

/-- `Config`. -/
structure Config (σ : Type) where
  onDemand : Bool
  handlers : Strng → Option (RawHandler σ)
  initialRequests : List DeltaDiscoveryRequest
  optionalTypes : Finset Strng

/-- `AdsClient::is_initial_request_on_demand`. -/
def isInitialRequestOnDemand (r : DeltaDiscoveryRequest) : Bool :=
  decide (r.resourceNamesSubscribe ≠ ∅)

namespace Config

variable {σ : Type}

/-- `Config::new`. -/
def new (onDemand : Bool) : Config σ :=
  ⟨onDemand, fun _ ↦ none, [], ∅⟩

/-- `Config::construct_initial_request`. To subscribe to nothing, the wildcard is subscribed and
unsubscribed in one request. -/
def constructInitialRequest (config : Config σ) (requestType : Strng) (noOnDemand : Bool) :
    DeltaDiscoveryRequest :=
  if !noOnDemand && config.onDemand then
    { typeUrl := requestType
      resourceNamesSubscribe := {"*"}
      resourceNamesUnsubscribe := {"*"} }
  else { typeUrl := requestType }

/-- `Config::with_handler`. -/
def withHandler (config : Config σ) (typeUrl : Strng) (h : RawHandler σ) : Config σ :=
  { config with handlers := Function.update config.handlers typeUrl (some h) }

/-- `Config::watch`. -/
def watch (config : Config σ) (typeUrl : Strng) (noOnDemand : Bool) : Config σ :=
  { config with
    initialRequests :=
      config.initialRequests ++ [config.constructInitialRequest typeUrl noOnDemand] }

/-- `Config::with_watched_handler`, for a handler with the given `no_on_demand`. -/
def withWatchedHandler (config : Config σ) (typeUrl : Strng) (h : RawHandler σ)
    (noOnDemand : Bool) : Config σ :=
  (config.withHandler typeUrl h).watch typeUrl noOnDemand

/-- `Config::with_optional_watched_handler`. -/
def withOptionalWatchedHandler (config : Config σ) (typeUrl : Strng) (h : RawHandler σ)
    (noOnDemand : Bool) : Config σ :=
  { config with optionalTypes := insert typeUrl config.optionalTypes }.withWatchedHandler typeUrl h
    noOnDemand

/-- `Config::with_on_demand_handler`. -/
def withOnDemandHandler (config : Config σ) (typeUrl : Strng) (h : RawHandler σ) : Config σ :=
  let request :=
    { config.constructInitialRequest typeUrl false with
      resourceNamesSubscribe := {"*"}
      resourceNamesUnsubscribe := {"*"} }
  { config with initialRequests := config.initialRequests ++ [request] }.withHandler typeUrl h

/-- The types of `AdsClient::demander`. -/
def onDemandTypes (config : Config σ) : List Strng :=
  (config.initialRequests.filter isInitialRequestOnDemand).map (·.typeUrl)

/-- The types that `AdsClient::new` expects before it is ready. -/
def typesToExpect (config : Config σ) : Finset Strng :=
  (((config.initialRequests.filter (!isInitialRequestOnDemand ·)).filter
    (·.typeUrl ∉ config.optionalTypes)).map (·.typeUrl)).toFinset

end Config

/-! ### The client and its waiters -/

/-- A oneshot channel: with a live sender, sent on, or closed by dropping its sender. -/
inductive Oneshot where
  | live
  | sent
  | closed
deriving DecidableEq, Repr

/-- What became of `Demanded::recv`. -/
inductive Waiter where
  | waiting
  | completed
  /-- The future was dropped. -/
  | cancelled
deriving DecidableEq, Repr

/-- `Demanded`, with the key it was demanded for. -/
structure Demanded where
  key : ResourceKey
  channel : Oneshot
  waiter : Waiter
  /-- The number of messages received before the demand. -/
  after : ℕ
deriving DecidableEq, Repr

/-- Where the client task is. -/
inductive ClientPhase where
  /-- Between two calls of `run_internal`. -/
  | backoff
  /-- In `run_internal`, before the stream is established. -/
  | connecting (initialRequests : List DeltaDiscoveryRequest)
  /-- In the `select!`. -/
  | idle
  /-- A message was received, and its handler is yet to run. -/
  | handling (res : DeltaDiscoveryResponse)
  /-- After the handler: the removed names and the resource names yet to be gone through. -/
  | notifying (removes resources : List Strng) (res : DeltaDiscoveryResponse)
      (rejects : List RejectedConfig)
  /-- In the `send` of `handle_stream_event`. -/
  | acking (request : DeltaDiscoveryRequest)
  /-- In the `send` of `handle_demand_event`. -/
  | subscribing (request : DeltaDiscoveryRequest)
deriving DecidableEq

/-- `AdsClient` with its `State`, over a state `σ` behind the handlers. -/
structure AdsClient (σ : Type) where
  proxy : σ
  knownResources : Strng → Finset Strng
  /-- The senders, by the number of their channel. -/
  pending : AList fun _ : ResourceKey ↦ ℕ
  subscriptions : Strng → Finset Strng
  /-- The queue of demands. -/
  demand : List (ℕ × ResourceKey)
  typesToExpect : Finset Strng
  blockReady : Bool
  phase : ClientPhase
  /-- The requests made on the current stream. -/
  stream : List DeltaDiscoveryRequest
  demands : List Demanded
  received : List DeltaDiscoveryResponse
  handled : ℕ

/-- What happens to the client and its waiters. -/
inductive ClientEvent where
  /-- `Demander::demand`, by any task. -/
  | demand (key : ResourceKey)
  /-- `Demanded::recv` returns. -/
  | recv (channel : ℕ)
  /-- A waiter is dropped. -/
  | cancel (channel : ℕ)
  /-- `run_internal` is called, and its stream is established or not. -/
  | start
  | connect (ok : Bool)
  /-- The branches of the `select!`: a demand, a message, the end of the stream. -/
  | demandEvent
  | message (res : DeltaDiscoveryResponse)
  | streamEnd
  /-- The handler of a message runs; the next name is gone through. -/
  | handle
  | notify
  /-- A request is handed to the stream, or the stream is gone. -/
  | sent (ok : Bool)
deriving DecidableEq

/-- The capacity of the queue of demands. -/
def demandCapacity : ℕ := 100

namespace AdsClient

variable {σ : Type} (config : Config σ)

/-- `AdsClient::new`. -/
def new (proxy : σ) : AdsClient σ where
  proxy := proxy
  knownResources _ := ∅
  pending := ∅
  subscriptions _ := ∅
  demand := []
  typesToExpect := config.typesToExpect
  blockReady := true
  phase := .backoff
  stream := []
  demands := []
  received := []
  handled := 0

/-- A waiter changes. -/
def setWaiter (c : AdsClient σ) (channel : ℕ) (value : Waiter) : AdsClient σ :=
  { c with demands := c.demands.modify channel fun d ↦ { d with waiter := value } }

/-- `State::notify_on_demand`. A failed `send` is only logged. -/
def notifyOnDemand (c : AdsClient σ) (key : ResourceKey) : AdsClient σ :=
  { c with
    pending := c.pending.erase key
    demands :=
      match c.pending.lookup key with
      | some channel => c.demands.modify channel fun d ↦ { d with channel := .sent }
      | none => c.demands }

/-- `State::add_resource`. -/
def addResource (c : AdsClient σ) (typeUrl name : Strng) : AdsClient σ :=
  { c with
    knownResources :=
      Function.update c.knownResources typeUrl (insert name (c.knownResources typeUrl)) }

/-- A removed name is no longer known. -/
def removeResource (c : AdsClient σ) (typeUrl name : Strng) : AdsClient σ :=
  { c with
    knownResources :=
      Function.update c.knownResources typeUrl ((c.knownResources typeUrl).erase name) }

/-- `pending.insert(key, tx)`, which drops the sender that was there. -/
def insertPending (c : AdsClient σ) (key : ResourceKey) (channel : ℕ) : AdsClient σ :=
  { c with
    pending := c.pending.insert key channel
    demands :=
      match c.pending.lookup key with
      | some old => c.demands.modify old fun d ↦ { d with channel := .closed }
      | none => c.demands }

/-- `Demander::demand`, for a supported type. The queue is bounded. -/
def makeDemand (c : AdsClient σ) (key : ResourceKey) : Option (AdsClient σ) :=
  if key.typeUrl ∈ config.onDemandTypes ∧ c.demand.length < demandCapacity then
    some { c with
      demand := c.demand ++ [(c.demands.length, key)]
      demands := c.demands ++ [⟨key, .live, .waiting, c.received.length⟩] }
  else none

/-- `Demanded::recv`, which ignores an error of the channel. -/
def recv (c : AdsClient σ) (channel : ℕ) : Option (AdsClient σ) :=
  (c.demands[channel]?).bind fun d ↦
    if d.waiter = .waiting ∧ d.channel ≠ .live then some (c.setWaiter channel .completed) else none

/-- A waiter is dropped. -/
def cancel (c : AdsClient σ) (channel : ℕ) : Option (AdsClient σ) :=
  (c.demands[channel]?).bind fun d ↦
    if d.waiter = .waiting then some (c.setWaiter channel .cancelled) else none

/-- An initial request as `run_internal` sends it, with the subscriptions made so far. -/
def initialRequest (c : AdsClient σ) (e : DeltaDiscoveryRequest) : DeltaDiscoveryRequest :=
  let names := c.subscriptions e.typeUrl
  let req :=
    if isInitialRequestOnDemand e ∧ names ≠ ∅ then
      { e with resourceNamesSubscribe := names, resourceNamesUnsubscribe := ∅ }
    else e
  { req with initialResourceVersions := c.knownResources req.typeUrl }

/-- The stream is established. Without a type to expect the client is ready. -/
def establish (c : AdsClient σ) (initialRequests : List DeltaDiscoveryRequest) : AdsClient σ :=
  { c with
    phase := .idle
    stream := initialRequests
    blockReady := if c.typesToExpect = ∅ then false else c.blockReady }

/-- `handle_demand_event`, up to its `send`. -/
def handleDemandEvent (c : AdsClient σ) : Option (AdsClient σ) :=
  match c.demand with
  | (channel, key) :: demand =>
    some { { c with demand := demand }.insertPending key channel with
      subscriptions := Function.update c.subscriptions key.typeUrl
        (insert key.name (c.subscriptions key.typeUrl))
      phase := .subscribing { typeUrl := key.typeUrl, resourceNamesSubscribe := {key.name} } }
  | [] => none

/-- The request that acknowledges a response or refuses it. -/
def acknowledge (res : DeltaDiscoveryResponse) (rejects : List RejectedConfig) :
    DeltaDiscoveryRequest :=
  { typeUrl := res.typeUrl
    responseNonce := res.nonce
    errorDetail := if rejects = [] then none else some rejects }

/-- `handle_stream_event`: the handler of the type runs, if there is one. -/
def handle (c : AdsClient σ) (res : DeltaDiscoveryResponse) : AdsClient σ :=
  match config.handlers res.typeUrl with
  | some h =>
    let (rejects, proxy) := h c.proxy res
    { c with
      proxy := proxy
      handled := c.handled + 1
      phase := .notifying res.removedResources (res.resources.map (·.name)) res rejects }
  | none => { c with handled := c.handled + 1, phase := .acking (acknowledge res []) }

/-- One turn of the loops of `HandlerWrapper::handle` over the names. -/
def notify (c : AdsClient σ) : Option (AdsClient σ) :=
  match c.phase with
  | .notifying (name :: removes) resources res rejects =>
    some { (c.removeResource res.typeUrl name).notifyOnDemand ⟨name, res.typeUrl⟩ with
      phase := .notifying removes resources res rejects }
  | .notifying [] (name :: resources) res rejects =>
    some { (c.notifyOnDemand ⟨name, res.typeUrl⟩).addResource res.typeUrl name with
      phase := .notifying [] resources res rejects }
  | .notifying [] [] res rejects => some { c with phase := .acking (acknowledge res rejects) }
  | _ => none

/-- An acknowledged type is no longer expected. -/
def acked (c : AdsClient σ) (request : DeltaDiscoveryRequest) : AdsClient σ :=
  if request.errorDetail = none ∧ c.typesToExpect ≠ ∅ then
    let typesToExpect := c.typesToExpect.erase request.typeUrl
    { c with
      typesToExpect := typesToExpect
      blockReady := if typesToExpect = ∅ then false else c.blockReady }
  else c

/-- A `send` to the stream returns. An error ends `run_internal`. -/
def sent (c : AdsClient σ) (ok : Bool) : Option (AdsClient σ) :=
  match c.phase with
  | .acking request =>
    if ok then some ({ c with stream := c.stream ++ [request], phase := .idle }.acked request)
    else some { c with phase := .backoff }
  | .subscribing request =>
    if ok then some { c with stream := c.stream ++ [request], phase := .idle }
    else some { c with phase := .backoff }
  | _ => none

/-- **One step of the client or of a waiter.** -/
def step (c : AdsClient σ) : ClientEvent → Option (AdsClient σ)
  | .demand key => c.makeDemand config key
  | .recv channel => c.recv channel
  | .cancel channel => c.cancel channel
  | .start =>
    if c.phase = .backoff then
      some { c with phase := .connecting (config.initialRequests.map c.initialRequest) }
    else none
  | .connect ok =>
    match c.phase with
    | .connecting initialRequests =>
      if ok then some (c.establish initialRequests) else some { c with phase := .backoff }
    | _ => none
  | .demandEvent => if c.phase = .idle then c.handleDemandEvent else none
  | .message res =>
    if c.phase = .idle then
      some { c with received := c.received ++ [res], phase := .handling res }
    else none
  | .streamEnd => if c.phase = .idle then some { c with phase := .backoff } else none
  | .handle =>
    match c.phase with
    | .handling res => some (c.handle config res)
    | _ => none
  | .notify => c.notify
  | .sent ok => c.sent ok

/-! ### What a step does -/

/-- What a step of the client or of a waiter does. -/
inductive Stepped (c : AdsClient σ) : ClientEvent → AdsClient σ → Prop
  | demanded (key : ResourceKey) :
    Stepped c (.demand key)
      { c with
        demand := c.demand ++ [(c.demands.length, key)]
        demands := c.demands ++ [⟨key, .live, .waiting, c.received.length⟩] }
  | completed (channel : ℕ) (d : Demanded) (hd : c.demands[channel]? = some d)
    (hwaiting : d.waiter = .waiting) (hchannel : d.channel ≠ .live) :
    Stepped c (.recv channel) (c.setWaiter channel .completed)
  | cancelled (channel : ℕ) : Stepped c (.cancel channel) (c.setWaiter channel .cancelled)
  | started (hphase : c.phase = .backoff) :
    Stepped c .start { c with phase := .connecting (config.initialRequests.map c.initialRequest) }
  | established (initialRequests : List DeltaDiscoveryRequest)
    (hphase : c.phase = .connecting initialRequests) :
    Stepped c (.connect true) (c.establish initialRequests)
  | refused (initialRequests : List DeltaDiscoveryRequest)
    (hphase : c.phase = .connecting initialRequests) :
    Stepped c (.connect false) { c with phase := .backoff }
  | dequeued (channel : ℕ) (key : ResourceKey) (demand : List (ℕ × ResourceKey))
    (hphase : c.phase = .idle) (hdemand : c.demand = (channel, key) :: demand) :
    Stepped c .demandEvent
      { { c with demand := demand }.insertPending key channel with
        subscriptions := Function.update c.subscriptions key.typeUrl
          (insert key.name (c.subscriptions key.typeUrl))
        phase := .subscribing { typeUrl := key.typeUrl, resourceNamesSubscribe := {key.name} } }
  | received (res : DeltaDiscoveryResponse) (hphase : c.phase = .idle) :
    Stepped c (.message res) { c with received := c.received ++ [res], phase := .handling res }
  | ended (hphase : c.phase = .idle) : Stepped c .streamEnd { c with phase := .backoff }
  | handled (res : DeltaDiscoveryResponse) (hphase : c.phase = .handling res) :
    Stepped c .handle (c.handle config res)
  | removed (name : Strng) (removes resources : List Strng) (res : DeltaDiscoveryResponse)
    (rejects : List RejectedConfig)
    (hphase : c.phase = .notifying (name :: removes) resources res rejects) :
    Stepped c .notify
      { (c.removeResource res.typeUrl name).notifyOnDemand ⟨name, res.typeUrl⟩ with
        phase := .notifying removes resources res rejects }
  | added (name : Strng) (resources : List Strng) (res : DeltaDiscoveryResponse)
    (rejects : List RejectedConfig)
    (hphase : c.phase = .notifying [] (name :: resources) res rejects) :
    Stepped c .notify
      { (c.notifyOnDemand ⟨name, res.typeUrl⟩).addResource res.typeUrl name with
        phase := .notifying [] resources res rejects }
  | notified (res : DeltaDiscoveryResponse) (rejects : List RejectedConfig)
    (hphase : c.phase = .notifying [] [] res rejects) :
    Stepped c .notify { c with phase := .acking (acknowledge res rejects) }
  | acked (request : DeltaDiscoveryRequest) (hphase : c.phase = .acking request) :
    Stepped c (.sent true)
      ({ c with stream := c.stream ++ [request], phase := .idle }.acked request)
  | subscribed (request : DeltaDiscoveryRequest) (hphase : c.phase = .subscribing request) :
    Stepped c (.sent true) { c with stream := c.stream ++ [request], phase := .idle }
  | unsent (request : DeltaDiscoveryRequest)
    (hphase : c.phase = .acking request ∨ c.phase = .subscribing request) :
    Stepped c (.sent false) { c with phase := .backoff }

variable {config} {c c' : AdsClient σ}

theorem stepped_of_notify (h : c.notify = some c') : Stepped config c .notify c' := by
  unfold notify at h
  split at h
  · next name removes resources res rejects hphase =>
    obtain rfl := Option.some.inj h
    exact .removed name removes resources res rejects hphase
  · next name resources res rejects hphase =>
    obtain rfl := Option.some.inj h
    exact .added name resources res rejects hphase
  · next res rejects hphase =>
    obtain rfl := Option.some.inj h
    exact .notified res rejects hphase
  · cases h

theorem stepped_of_sent {ok : Bool} (h : c.sent ok = some c') :
    Stepped config c (.sent ok) c' := by
  unfold sent at h
  split at h
  · next request hphase =>
    cases ok with
    | true =>
      obtain rfl := Option.some.inj h
      exact .acked request hphase
    | false =>
      obtain rfl := Option.some.inj h
      exact .unsent request (.inl hphase)
  · next request hphase =>
    cases ok with
    | true =>
      obtain rfl := Option.some.inj h
      exact .subscribed request hphase
    | false =>
      obtain rfl := Option.some.inj h
      exact .unsent request (.inr hphase)
  · cases h

theorem stepped_of_step {e : ClientEvent} (h : c.step config e = some c') :
    Stepped config c e c' := by
  cases e with
  | demand key =>
    obtain ⟨-, rfl⟩ := Option.ite_some_none_eq_some.1 h
    exact .demanded key
  | recv channel =>
    obtain ⟨d, hd, hsome⟩ := Option.bind_eq_some_iff.1 h
    obtain ⟨⟨hwaiting, hchannel⟩, rfl⟩ := Option.ite_some_none_eq_some.1 hsome
    exact .completed channel d hd hwaiting hchannel
  | cancel channel =>
    obtain ⟨d, -, hsome⟩ := Option.bind_eq_some_iff.1 h
    obtain ⟨-, rfl⟩ := Option.ite_some_none_eq_some.1 hsome
    exact .cancelled channel
  | start =>
    obtain ⟨hphase, rfl⟩ := Option.ite_some_none_eq_some.1 h
    exact .started hphase
  | connect ok =>
    dsimp only [step] at h
    split at h
    · next initialRequests hphase =>
      cases ok with
      | true =>
        obtain rfl := Option.some.inj h
        exact .established initialRequests hphase
      | false =>
        obtain rfl := Option.some.inj h
        exact .refused initialRequests hphase
    · cases h
  | demandEvent =>
    obtain ⟨hphase, hsome⟩ := Option.ite_none_right_eq_some.1 h
    unfold handleDemandEvent at hsome
    split at hsome
    · next channel key demand hdemand =>
      obtain rfl := Option.some.inj hsome
      exact .dequeued channel key demand hphase hdemand
    · cases hsome
  | message res =>
    obtain ⟨hphase, rfl⟩ := Option.ite_some_none_eq_some.1 h
    exact .received res hphase
  | streamEnd =>
    obtain ⟨hphase, rfl⟩ := Option.ite_some_none_eq_some.1 h
    exact .ended hphase
  | handle =>
    dsimp only [step] at h
    split at h
    · next res hphase =>
      obtain rfl := Option.some.inj h
      exact .handled res hphase
    · cases h
  | notify => exact stepped_of_notify h
  | sent ok => exact stepped_of_sent h

end AdsClient

/-! ### The client of the proxy -/

def addressType : Strng := "type.googleapis.com/istio.workload.Address"

def sandboxType : Strng := "type.googleapis.com/agentio.sandbox.Sandbox"

/-- The decoders of payloads. -/
structure PayloadDecoders where
  address : List UInt8 → Option XdsAddress
  trafficPolicy : List UInt8 → Option XdsTrafficPolicy
  sandbox : List UInt8 → Option XdsSandbox

/-- The client that `ProxyStateManager::new` configures, for the flags `xds_on_demand`,
`enable_sandbox_manager` and `sandbox_mode`. -/
def proxyStateConfig (decoders : Decoders) (payloads : PayloadDecoders)
    (onDemand enableSandboxManager sandboxMode : Bool) : Config ProxyState :=
  let addresses := handlerWrapper payloads.address fun state updates ↦
    (Batch.addresses updates).handle decoders state
  let trafficPolicies := handlerWrapper payloads.trafficPolicy fun state updates ↦
    (Batch.trafficPolicies updates).handle decoders state
  let sandboxes := handlerWrapper payloads.sandbox fun state updates ↦
    (Batch.sandboxes updates).handle decoders state
  let builder := ((Config.new onDemand).withWatchedHandler addressType addresses false)
    |>.withWatchedHandler trafficPolicyType trafficPolicies true
  if enableSandboxManager then builder.withOnDemandHandler sandboxType sandboxes
  else if sandboxMode then builder.withWatchedHandler sandboxType sandboxes true
  else builder

end Ztunnel.Xds
