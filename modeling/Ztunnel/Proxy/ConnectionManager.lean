import Ztunnel.State.ProxyState

/-!
# The connection manager and its policy watcher

`connection_manager.rs`: admitted connections are tracked in a map from their context to a drain
channel, and a `PolicyWatcher` re-evaluates every tracked context after a policy notification and
closes the channels of those that are no longer allowed.

* The map is an `AList` over `ContextKey`, what `PartialEq` of a context compares; an entry keeps
  the context it was inserted with. Two contexts of one key share an entry.
* A drain channel is a number. It has *fired* once `wait_for_drain` completes on it: the drain was
  signalled, or its trigger was dropped together with its entry.
* An `AdmissionPath` is a manager with the connections that hold a watcher of it and, if there is
  one, its `PolicyWatcher`. The tasks interleave at every lock and await point, so an admission
  (register, check, then a guard or a release), a guard's end and a watcher pass are several events
  each.

Two fields of a `Holder` are history: no step reads them.
-/

namespace Ztunnel.Proxy

open Ztunnel.State Ztunnel.Rbac

/-- `OutboundProtocol`. -/
inductive OutboundProtocol where
  | tcp
  | hbone
deriving DecidableEq, Repr

/-- `ConnectionAttributes`, with the fields of `InboundAttributes` and `OutboundAttributes`. -/
inductive ConnectionAttributes where
  | inbound (destService : Option String)
  | outbound (actualDst : SocketAddr) (protocol : OutboundProtocol)
deriving DecidableEq, Repr

/-- `ConnectionContext`. -/
structure ConnectionContext where
  rbacCtx : ProxyRbacContext
  attributes : ConnectionAttributes
deriving DecidableEq, Repr

/-- What equality and hash of a context read: the workload is ignored and of the sandbox only the
UID counts. -/
structure ContextKey where
  conn : Connection
  sandbox : Option Strng
  attributes : ConnectionAttributes
deriving DecidableEq, Repr

def ConnectionContext.key (ctx : ConnectionContext) : ContextKey where
  conn := ctx.rbacCtx.conn
  sandbox := ctx.rbacCtx.sandbox.map (·.uid)
  attributes := ctx.attributes

/-- The state allows the context now. -/
def ConnectionContext.allowed (ctx : ConnectionContext) (state : ProxyState) : Bool :=
  allows state ctx.rbacCtx

/-- Contexts that compare equal and carry the same workload UID are decided alike. -/
theorem ConnectionContext.allowed_eq {c₁ c₂ : ConnectionContext} (hkey : c₁.key = c₂.key)
    (huid : c₁.rbacCtx.workload.uid = c₂.rbacCtx.workload.uid) (state : ProxyState) :
    c₁.allowed state = c₂.allowed state := by
  obtain ⟨hconn, hsandbox, -⟩ := ContextKey.mk.inj hkey
  have hassert := assertRbac_congr state hconn huid hsandbox
  rw [ConnectionContext.allowed, ConnectionContext.allowed, allows, allows, hassert]

/-! ### The map of drains -/

/-- `ConnectionDrain`: the trigger and the watcher of one channel, and the number of holders. -/
structure ConnectionDrain where
  channel : ℕ
  count : ℕ
deriving DecidableEq, Repr

/-- `ConnectionManager`, with the drain channels of the process. -/
structure ConnectionManager where
  drains : AList fun _ : ContextKey ↦ ConnectionContext × ConnectionDrain
  /-- The channel that the next `drain::new` creates. -/
  nextChannel : ℕ
  /-- The channels on which `wait_for_drain` completes. -/
  fired : Finset ℕ

namespace ConnectionManager

/-- `ConnectionManager::default`. -/
def empty : ConnectionManager where
  drains := ∅
  nextChannel := 0
  fired := ∅

/-- `register`: joins the entry of the key or creates one. Returns the channel of the watcher. -/
def register (cm : ConnectionManager) (ctx : ConnectionContext) : ℕ × ConnectionManager :=
  match cm.drains.lookup ctx.key with
  | some (stored, drain) =>
    (drain.channel,
      { cm with
        drains := cm.drains.insert ctx.key (stored, { drain with count := drain.count + 1 }) })
  | none =>
    (cm.nextChannel,
      { cm with
        drains := cm.drains.insert ctx.key (ctx, ⟨cm.nextChannel, 1⟩)
        nextChannel := cm.nextChannel + 1 })

/-- `release`, by key. The last holder drops the entry and with it the trigger, which fires the
channel. -/
def release (cm : ConnectionManager) (ctx : ConnectionContext) : ConnectionManager :=
  match cm.drains.lookup ctx.key with
  | some (stored, drain) =>
    if 1 < drain.count then
      { cm with
        drains := cm.drains.insert ctx.key (stored, { drain with count := drain.count - 1 }) }
    else { cm with drains := cm.drains.erase ctx.key, fired := insert drain.channel cm.fired }
  | none => cm

/-- The first half of `close`: the entry leaves the map. -/
def take (cm : ConnectionManager) (ctx : ConnectionContext) : ConnectionManager :=
  { cm with drains := cm.drains.erase ctx.key }

/-- The second half of `close`, `ConnectionDrain::drain`: the signal is sent. -/
def signal (cm : ConnectionManager) (channel : ℕ) : ConnectionManager :=
  { cm with fired := insert channel cm.fired }

/-- `connections`: the contexts of the map, in the order in which its keys are visited. -/
def connections (cm : ConnectionManager) (order : List ContextKey) : List ConnectionContext :=
  order.filterMap fun key ↦ (cm.drains.lookup key).map (·.1)

/-- The channel of the entry of a key. -/
def channelAt (cm : ConnectionManager) (key : ContextKey) : Option ℕ :=
  (cm.drains.lookup key).map (·.2.channel)

end ConnectionManager

/-! ### Connections -/

/-- Where a connection is between `register` and its end. -/
inductive HolderPhase where
  /-- In `assert_rbac`, before the check. -/
  | registered
  /-- In `assert_rbac`, after a failed check and before its release. -/
  | denied
  /-- A `ConnectionGuard` with its watcher. -/
  | guarded
  /-- In `handle_connection!`: the watcher is taken, the future is being polled. -/
  | running
  /-- In `handle_connection!`: the future is done, the guard is not yet released. -/
  | finished
  /-- In `ConnectionGuard::release` of a guard whose watcher was not taken, before its `Drop`. -/
  | releasing
deriving DecidableEq, Repr

/-- A `ConnectionGuard` exists. -/
def HolderPhase.isGuard : HolderPhase → Bool
  | .registered | .denied => false
  | .guarded | .running | .finished | .releasing => true

/-- A `DrainWatcher` of the channel exists. -/
def HolderPhase.isWatching : HolderPhase → Bool
  | .finished => false
  | _ => true

/-- A connection that registered and has not ended. -/
structure Holder where
  ctx : ConnectionContext
  /-- The channel of the entry it joined. -/
  channel : ℕ
  phase : HolderPhase
  /-- History: the state allowed the context at every moment since it was registered. -/
  steady : Bool
  /-- History: the notification count at the last evaluation of the context. -/
  evaluated : ℕ
deriving DecidableEq, Repr

/-- The state allows the context, and it was evaluated since the last notification. -/
def Holder.Current (state : ProxyState) (h : Holder) : Prop :=
  h.ctx.allowed state = true ∧ h.evaluated = state.policies.notifier

/-- The check of `assert_rbac`. -/
def Holder.check (state : ProxyState) (h : Holder) : Holder :=
  { h with
    phase := if h.ctx.allowed state then .guarded else .denied
    evaluated := state.policies.notifier }

/-- An evaluation of the stored context `ctx` counts for every connection of its key. -/
def Holder.noteEvaluation (state : ProxyState) (ctx : ConnectionContext) (h : Holder) : Holder :=
  if h.ctx.key = ctx.key then { h with evaluated := state.policies.notifier } else h

/-- A state update seen by the history of a connection. -/
def Holder.noteUpdate (state : ProxyState) (h : Holder) : Holder :=
  { h with steady := h.steady && h.ctx.allowed state }

/-! ### The watcher -/

/-- Where `PolicyWatcher::run` is. -/
inductive WatcherPhase where
  /-- Not started: `subscribe` was not called. -/
  | unsubscribed
  /-- In the `select!`. -/
  | waiting
  /-- `changed` completed, the connections are not yet listed. -/
  | woken
  /-- Before the check of the first remaining connection. -/
  | checking (remaining : List ConnectionContext)
  /-- The check of `ctx` failed and `close` was not yet called. -/
  | closing (ctx : ConnectionContext) (remaining : List ConnectionContext)
  /-- `close` removed the entry and has not yet signalled. -/
  | signalling (channel : ℕ) (remaining : List ConnectionContext)
  /-- `close` waits for the watchers of the channel. -/
  | draining (channel : ℕ) (remaining : List ConnectionContext)
  /-- The process drains. -/
  | stopped
deriving DecidableEq, Repr

/-- `PolicyWatcher`, with the notification count its receiver has seen. -/
structure PolicyWatcher where
  phase : WatcherPhase
  seen : ℕ
deriving DecidableEq, Repr

/-- A manager, the connections that registered with it, and its watcher if it has one. -/
structure AdmissionPath where
  manager : ConnectionManager
  holders : List Holder
  watcher : Option PolicyWatcher

/-! ### Steps of an admission path -/

/-- What happens at one lock or await point of a task of the path. -/
inductive PathEvent where
  /-- `ConnectionManager::assert_rbac` registers. -/
  | register (ctx : ConnectionContext)
  /-- It checks against the state, and returns the guard if the check passes. -/
  | check (h : Holder)
  /-- It releases after a failed check. -/
  | reject (h : Holder)
  /-- `handle_connection!` takes the watcher. -/
  | watcher (h : Holder)
  /-- The future of `handle_connection!` is done, which drops the watcher. -/
  | complete (h : Holder)
  /-- `ConnectionGuard::release`. -/
  | release (h : Holder)
  /-- `ConnectionGuard` is dropped, in `handle_connection!` after its drain fired or on
  cancellation. -/
  | drop (h : Holder)
  /-- `PolicyWatcher::run` starts and subscribes. -/
  | subscribe
  /-- The stop branch of its `select!`. -/
  | stop
  /-- The `changed` branch. -/
  | wake
  /-- It lists the connections, in some order of the keys of the map. -/
  | snapshot (order : List ContextKey)
  /-- The next step of a pass. -/
  | advance
deriving DecidableEq, Repr

namespace AdmissionPath

/-- A path before anything was admitted. -/
def new (watcher : Option PolicyWatcher) : AdmissionPath where
  manager := .empty
  holders := []
  watcher := watcher

def register (state : ProxyState) (p : AdmissionPath) (ctx : ConnectionContext) : AdmissionPath :=
  { p with
    manager := (p.manager.register ctx).2
    holders :=
      { ctx := ctx
        channel := (p.manager.register ctx).1
        phase := .registered
        steady := ctx.allowed state
        evaluated := 0 } :: p.holders }

/-- The connection `h` goes on as `h'`. -/
def replace (p : AdmissionPath) (h h' : Holder) : AdmissionPath :=
  { p with holders := h' :: p.holders.erase h }

/-- The connection `h` ends. -/
def forget (p : AdmissionPath) (h : Holder) : AdmissionPath :=
  { p with holders := p.holders.erase h }

/-- `self.cm.release(&self.conn)`. -/
def releaseKey (p : AdmissionPath) (h : Holder) : AdmissionPath :=
  { p with manager := p.manager.release h.ctx }

/-- `ConnectionGuard::release(self)`. The `Drop` that follows does nothing when the watcher was
taken, and releases again otherwise. -/
def release (p : AdmissionPath) (h : Holder) : Option AdmissionPath :=
  match h.phase with
  | .guarded => some ((p.replace h { h with phase := .releasing }).releaseKey h)
  | .finished => some ((p.forget h).releaseKey h)
  | _ => none

/-- `Drop for ConnectionGuard`: releases only when the watcher was not taken. -/
def drop (p : AdmissionPath) (h : Holder) : Option AdmissionPath :=
  match h.phase with
  | .guarded | .releasing => some ((p.forget h).releaseKey h)
  | .running => some (p.forget h)
  | _ => none

/-- The watcher goes on in another phase. -/
def moveTo (p : AdmissionPath) (w : PolicyWatcher) (phase : WatcherPhase) : AdmissionPath :=
  { p with watcher := some { w with phase := phase } }

/-- One step of the `for` loop of `PolicyWatcher::run`. -/
def advance (state : ProxyState) (p : AdmissionPath) (w : PolicyWatcher) :
    Option AdmissionPath :=
  match w.phase with
  | .checking [] => some (p.moveTo w .waiting)
  | .checking (ctx :: remaining) =>
    some
      { p with
        holders := p.holders.map (Holder.noteEvaluation state ctx)
        watcher := some
          { w with
            phase := if ctx.allowed state then .checking remaining else .closing ctx remaining } }
  | .closing ctx remaining =>
    match p.manager.channelAt ctx.key with
    | some channel =>
      some ({ p with manager := p.manager.take ctx }.moveTo w (.signalling channel remaining))
    -- "requested drain on a Connection which wasn't initialized"
    | none => some (p.moveTo w (.checking remaining))
  | .signalling channel remaining =>
    some ({ p with manager := p.manager.signal channel }.moveTo w (.draining channel remaining))
  | .draining channel remaining =>
    if ∀ h ∈ p.holders, h.channel = channel → h.phase.isWatching = false then
      some (p.moveTo w (.checking remaining))
    else none
  | _ => none

/-- The events of the watcher. -/
def watcherStep (state : ProxyState) (p : AdmissionPath) (w : PolicyWatcher) :
    PathEvent → Option AdmissionPath
  | .subscribe =>
    if w.phase = .unsubscribed then
      some { p with watcher := some ⟨.waiting, state.policies.notifier⟩ }
    else none
  | .stop => if w.phase = .waiting then some (p.moveTo w .stopped) else none
  | .wake =>
    if w.phase = .waiting ∧ w.seen ≠ state.policies.notifier then
      some { p with watcher := some ⟨.woken, state.policies.notifier⟩ }
    else none
  | .snapshot order =>
    if w.phase = .woken ∧ order.Perm p.manager.drains.keys then
      some (p.moveTo w (.checking (p.manager.connections order)))
    else none
  | .advance => p.advance state w
  | _ => none

/-- **One step of the path**, in the given state. -/
def step (state : ProxyState) (p : AdmissionPath) : PathEvent → Option AdmissionPath
  | .register ctx => some (p.register state ctx)
  | .check h =>
    if h ∈ p.holders ∧ h.phase = .registered then some (p.replace h (h.check state)) else none
  | .reject h =>
    if h ∈ p.holders ∧ h.phase = .denied then some ((p.forget h).releaseKey h) else none
  | .watcher h =>
    if h ∈ p.holders ∧ h.phase = .guarded then
      some (p.replace h { h with phase := .running })
    else none
  | .complete h =>
    if h ∈ p.holders ∧ h.phase = .running then
      some (p.replace h { h with phase := .finished })
    else none
  | .release h => if h ∈ p.holders then p.release h else none
  | .drop h => if h ∈ p.holders then p.drop h else none
  | e => p.watcher.bind fun w ↦ p.watcherStep state w e

/-- A state update, as the history of the connections sees it. -/
def noteUpdate (state : ProxyState) (p : AdmissionPath) : AdmissionPath :=
  { p with holders := p.holders.map (Holder.noteUpdate state) }

end AdmissionPath

/-! ### One path and the state -/

/-- **State updates followed by their notification.** The notification counter never goes back, and
moves whenever a decision changes. -/
structure PolicyFeed (σ U : Type*) where
  state : σ → ProxyState
  apply : σ → U → σ
  notifier_le : ∀ s u, (state s).policies.notifier ≤ (state (apply s u)).policies.notifier
  announced : ∀ s u ctx, allows (state (apply s u)) ctx ≠ allows (state s) ctx →
    (state s).policies.notifier < (state (apply s u)).policies.notifier

/-- One admission path over a policy source. -/
structure PathSystem (σ : Type*) where
  source : σ
  path : AdmissionPath

/-- An event of the path or a state update. -/
inductive SystemEvent (U : Type*) where
  | path (e : PathEvent)
  | update (u : U)
deriving DecidableEq, Repr

variable {σ U : Type*}

/-- **One step of the system.** -/
def PolicyFeed.step (feed : PolicyFeed σ U) (s : PathSystem σ) :
    SystemEvent U → Option (PathSystem σ)
  | .path e => (s.path.step (feed.state s.source) e).map fun p ↦ { s with path := p }
  | .update u =>
    some
      { source := feed.apply s.source u
        path := s.path.noteUpdate (feed.state (feed.apply s.source u)) }

end Ztunnel.Proxy
