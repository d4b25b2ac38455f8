import Ztunnel.Proxy.DatagramRelay
import Ztunnel.Proxy.UdpSessions

/-!
# The UDP listener with its counters (`proxy/outbound_udp.rs`)

Every datagram that the listener receives is meant to end up in one of its counters: the capsules
that were written, or the drops by reason. On its way it is with the dispatcher, in the queue of a
session, or in the batch that the session writes; what is left in a queue is counted when the
session ends, what is left in a batch when the relay ends.

`Listener` is the dispatcher of `UdpSessions` with all sessions and the counters. Datagrams are
numbered as they are received, and the ledger says for which of them a counter went up; the code
only has the counters. A session is cut where it waits and where it counts, as tasks run in parallel
and the forced shutdown cancels a session where it waits.

`UdpSessions` looks at the same dispatcher without the counters, and at less of the tasks. Every
run of the listener is a run of that dispatcher (`Listener.reached_of_run`).
-/

namespace Ztunnel.Proxy.Accounting

open Capsule (Bytes encodeDatagramInto maxDatagramSize)
open Transition

/-! ### The counters -/

inductive UdpDropReason where
  | kernelRxQueue
  | truncated
  | missingOriginalDestination
  | sessionQueue
  | sessionLimit
  | draining
  | selfRedirect
  | oversizedDatagram
  | sessionEstablishment
  | sessionEnd
  | hboneWrite
  | applicationSend
  | responseSend
  deriving DecidableEq

/-- The counters of `UdpMetrics` that datagrams from the clients end up in. -/
structure UdpMetrics where
  datagramsDropped : UdpDropReason → ℕ
  capsuleDatagrams : ℕ

inductive Counter where
  | capsules
  | drops (reason : UdpDropReason)
  deriving DecidableEq

namespace UdpMetrics

def recordDrop (m : UdpMetrics) (reason : UdpDropReason) (count : ℕ) : UdpMetrics :=
  { m with
    datagramsDropped := Function.update m.datagramsDropped reason
      (m.datagramsDropped reason + count) }

def recordCapsuleBatch (m : UdpMetrics) (datagrams : ℕ) : UdpMetrics :=
  { m with capsuleDatagrams := m.capsuleDatagrams + datagrams }

def record (m : UdpMetrics) (count : ℕ) : Counter → UdpMetrics
  | .capsules => m.recordCapsuleBatch count
  | .drops reason => m.recordDrop reason count

def count (m : UdpMetrics) : Counter → ℕ
  | .capsules => m.capsuleDatagrams
  | .drops reason => m.datagramsDropped reason

end UdpMetrics

/-! ### The sessions -/

/-- Where the task of a session is. -/
inductive Stage where
  /-- `run_session` has not been polled, and drops are not tracked yet -/
  | spawned
  /-- in `connect_udp` -/
  | establishing
  /-- in `relay_datagrams`, where `next_capsule_batch` waits for a first datagram -/
  | receiving
  /-- in the loop of `next_capsule_batch` -/
  | batching (batch : Bytes) (taken : List ℕ)
  /-- in `write_all_buf` -/
  | writing (inFlight : List ℕ)
  /-- the receiver is about to be dropped, and to count what is queued -/
  | dropping
  /-- what was queued is counted, or is not tracked, and the queue is still open -/
  | closing
  | ended
  /-- the dispatcher has been told -/
  | reported
  deriving DecidableEq

/-- The datagrams that a session has taken from its queue. -/
def Stage.taken : Stage → List ℕ
  | .batching _ taken => taken
  | .writing inFlight => inFlight
  | _ => []

/-- A session, with the numbers of the datagrams in its queue that have not been counted. -/
structure Session where
  key : FlowKey
  id : UInt64
  queue : DatagramChannel
  numbers : List ℕ
  stage : Stage

/-- What the task of a session does. -/
inductive Op where
  /-- `run_session` is polled for the first time, and tracks drops from then on -/
  | poll
  | connected
  /-- `connect_udp` fails or takes too long -/
  | notConnected
  /-- there is no response socket -/
  | noSocket
  /-- one turn in `next_capsule_batch` -/
  | recv
  /-- `write_all_buf` is done -/
  | written
  /-- `relay_datagrams` ends: the write fails or takes too long, the stream ends or fails, or the
  session has been idle -/
  | endRelay
  /-- the forced shutdown drops `run_session` where it waits -/
  | cancel
  /-- `record_pending_drops` as the receiver is dropped -/
  | drop
  /-- the queue is closed, and what is in it is gone -/
  | close
  | report
  deriving DecidableEq

/-- What a task has done: how much it added to a counter, for which datagrams, and the datagrams
that are gone without having been counted. -/
structure Effect where
  session : Session
  counter : Counter
  count : ℕ
  counted : List ℕ
  lost : List ℕ

/-- A task goes on and counts nothing. -/
def Effect.quiet (x : Session) : Effect := ⟨x, .capsules, 0, [], []⟩

namespace Session

/-- `record_pending_drops`, while drops are tracked; after it they are not. -/
def recordPendingDrops (x : Session) (reason : UdpDropReason) : Effect where
  session := { x with numbers := [], stage := .closing }
  counter := .drops reason
  count := x.queue.queued.length
  counted := x.numbers
  lost := []

/-- A datagram is taken from the queue and added to the batch. If it does not fit a capsule, the
relay ends, with nothing in flight. -/
def take (x : Session) (queue : DatagramChannel) (payload batch : Bytes) (taken : List ℕ) :
    Effect :=
  match encodeDatagramInto payload batch with
  | .error _ =>
    { session :=
        { x with queue := queue.release, numbers := x.numbers.drop 1, stage := .dropping }
      counter := .capsules
      count := 0
      counted := []
      lost := taken ++ x.numbers.take 1 }
  | .ok batch =>
    .quiet { x with
      queue := queue
      numbers := x.numbers.drop 1
      stage := .batching batch (taken ++ x.numbers.take 1) }

/-- The batch is complete. -/
def endBatch (x : Session) (taken : List ℕ) : Effect :=
  .quiet { x with queue := x.queue.release, stage := .writing taken }

/-- One step of a task. A batch is put together without waiting, so nothing interrupts it. -/
def step (x : Session) (op : Op) : Option Effect :=
  match x.stage, op with
  | .spawned, .poll => some (.quiet { x with stage := .establishing })
  | .spawned, .cancel => some (.quiet { x with stage := .closing })
  | .establishing, .connected => some (.quiet { x with stage := .receiving })
  | .establishing, .notConnected => some (x.recordPendingDrops .sessionEstablishment)
  | .establishing, .noSocket => some (.quiet { x with stage := .dropping })
  | .establishing, .cancel => some (.quiet { x with stage := .dropping })
  | .receiving, .recv => x.queue.tryRecv.map fun (first, queue) ↦ x.take queue first [] []
  | .receiving, .endRelay => some (.quiet { x with stage := .dropping })
  | .receiving, .cancel => some (.quiet { x with stage := .dropping })
  | .batching batch taken, .recv =>
    if batch.length < maxCapsuleBatchBytes then
      match x.queue.tryRecv with
      | some (payload, queue) =>
        -- only the first datagram is held until the batch is complete
        some (x.take { queue with held := x.queue.held } payload batch taken)
      | none => some (x.endBatch taken)
    else some (x.endBatch taken)
  | .writing inFlight, .written =>
    some ⟨{ x with stage := .receiving }, .capsules, inFlight.length, inFlight, []⟩
  | .writing inFlight, .endRelay =>
    some ⟨{ x with stage := .dropping }, .drops .hboneWrite, inFlight.length, inFlight, []⟩
  | .writing inFlight, .cancel =>
    -- the count of what is in flight is dropped with `relay_datagrams`
    some ⟨{ x with stage := .dropping }, .capsules, 0, [], inFlight⟩
  | .dropping, .drop => some (x.recordPendingDrops .sessionEnd)
  | .closing, .close =>
    some ⟨{ x with queue := x.queue.close, numbers := [], stage := .ended }, .capsules, 0, [],
      x.numbers⟩
  | .ended, .report => some (.quiet { x with stage := .reported })
  | _, _ => none

end Session

/-! ### The listener -/

/-- What the socket gives: `decode_message`. -/
inductive Message where
  | truncated
  | missingOriginalDestination
  | datagram (source destination : SocketAddr) (payload : Bytes)

/-- The dispatcher with the sessions and the counters. `received` is the number of messages so far;
`ledger` and `lost` are the datagrams that were counted and those that are gone without. -/
structure Listener where
  cfg : UdpConfig
  sessions : SessionTable
  draining : Bool
  forced : Bool
  returned : Bool
  tasks : List Session
  completed : List Completion
  metrics : UdpMetrics
  received : ℕ
  ledger : List (ℕ × Counter)
  lost : List ℕ

inductive Event where
  | forceShutdown
  | drain
  /-- the dispatcher returns: the shutdown is forced, or it drains and has no sessions left -/
  | return
  /-- a message that a session has ended arrives -/
  | completed
  | received (message : Message)
  | task (session : ℕ) (op : Op)

namespace Listener

def new (cfg : UdpConfig) : Listener where
  cfg := cfg
  sessions := .new cfg.udpMaxSessions
  draining := false
  forced := false
  returned := false
  tasks := []
  completed := []
  metrics := ⟨fun _ ↦ 0, 0⟩
  received := 0
  ledger := []
  lost := []

/-- A counter goes up, for some datagrams. -/
def record (s : Listener) (counter : Counter) (count : ℕ) (numbers : List ℕ) : Listener :=
  { s with
    metrics := s.metrics.record count counter
    ledger := s.ledger ++ numbers.map (·, counter) }

/-- The end of the loop over received datagrams: a flow without a session gets one, unless the
listener drains or the table is full. -/
def openSession (s : Listener) (key : FlowKey) (number : ℕ) (payload : Bytes) : Listener :=
  if s.draining then s.record (.drops .draining) 1 [number]
  else
    match s.sessions.insert key s.tasks.length with
    | none => s.record (.drops .sessionLimit) 1 [number]
    | some (id, _, sessions) =>
      let queue := datagramChannelWithLimits s.cfg.udpMaxBufferedDatagrams s.cfg.udpMaxBufferedBytes
      match queue.trySend payload with
      | .error _ =>
        -- no task is spawned, and both ends of the queue are dropped
        { s.record (.drops .sessionQueue) 1 [number] with
          sessions := sessions.complete key id
          tasks := s.tasks ++ [⟨key, id, queue.close, [], .reported⟩] }
      | .ok queue =>
        { s with
          sessions := sessions
          tasks := s.tasks ++ [⟨key, id, queue, [number], .spawned⟩] }

/-- The loop over received datagrams, for one of them. -/
def dispatch (s : Listener) (key : FlowKey) (number : ℕ) (payload : Bytes) : Listener :=
  if isIllegalCall key.destination s.cfg.outboundUdpPort then
    s.record (.drops .selfRedirect) 1 [number]
  else
    match s.sessions.get key with
    | none => s.openSession key number payload
    | some (id, sender) =>
      match s.tasks[sender]? with
      -- a session of the table always has its task
      | none => s.openSession key number payload
      | some x =>
        match x.queue.trySend payload with
        | .ok queue =>
          { s with
            tasks := s.tasks.set sender
              { x with queue := queue, numbers := x.numbers ++ [number] } }
        | .error .full => s.record (.drops .sessionQueue) 1 [number]
        | .error (.closed returned) =>
          ({ s with sessions := s.sessions.complete key id }).openSession key number returned

/-- A message from the socket. -/
def receive (s : Listener) (message : Message) : Listener :=
  let number := s.received
  let s := { s with received := number + 1 }
  match message with
  | .truncated => s.record (.drops .truncated) 1 [number]
  | .missingOriginalDestination => s.record (.drops .missingOriginalDestination) 1 [number]
  | .datagram source destination payload =>
    s.dispatch ⟨source.toCanonical, destination.toCanonical⟩ number payload

/-- A task has done something. -/
def apply (s : Listener) (k : ℕ) (e : Effect) : Listener :=
  { s.record e.counter e.count e.counted with
    tasks := s.tasks.set k e.session
    lost := s.lost ++ e.lost }

def taskStep (s : Listener) (k : ℕ) (op : Op) : Option Listener :=
  match s.tasks[k]? with
  | none => none
  | some x =>
    match op with
    | .cancel => if s.forced then (x.step .cancel).map (s.apply k) else none
    | .report =>
      (x.step .report).map fun e ↦
        { s.apply k e with completed := s.completed ++ [⟨k, x.key, x.id⟩] }
    | op => (x.step op).map (s.apply k)

/-- One event. Tasks go on when the dispatcher has returned. -/
def step (s : Listener) : Event → Option Listener
  | .forceShutdown => if s.forced then none else some { s with forced := true }
  | .drain => if s.returned || s.draining then none else some { s with draining := true }
  | .return =>
    if !s.returned && (s.forced || s.draining && s.sessions.entries.entries.isEmpty) then
      some { s with returned := true }
    else none
  | .completed =>
    if s.returned then none
    else
      match s.completed with
      | [] => none
      | m :: rest => some { s with completed := rest, sessions := s.sessions.complete m.key m.id }
  | .received message => if s.returned then none else some (s.receive message)
  | .task k op => s.taskStep k op

/-! ### What an event can do -/

variable {s s' : Listener} {e : Event}

/-- The transitions of the listener. -/
inductive Stepped (s : Listener) : Event → Listener → Prop
  | forced : Stepped s .forceShutdown { s with forced := true }
  | drains (hguard : ¬(s.returned || s.draining)) : Stepped s .drain { s with draining := true }
  | returned
    (hguard : !s.returned && (s.forced || s.draining && s.sessions.entries.entries.isEmpty)) :
    Stepped s .return { s with returned := true }
  | completed (m : Completion) (rest : List Completion) (hguard : ¬s.returned)
    (hcompleted : s.completed = m :: rest) :
    Stepped s .completed
      { s with completed := rest, sessions := s.sessions.complete m.key m.id }
  | received (message : Message) (hguard : ¬s.returned) :
    Stepped s (.received message) (s.receive message)
  | task (k : ℕ) (op : Op) (x : Session) (effect : Effect) (completed : List Completion)
    (htask : s.tasks[k]? = some x) (heffect : x.step op = some effect)
    (hcompleted : completed =
      if op = .report then s.completed ++ [⟨k, x.key, x.id⟩] else s.completed) :
    Stepped s (.task k op) { s.apply k effect with completed := completed }

theorem stepped_of_taskStep {k : ℕ} {op : Op} (h : s.taskStep k op = some s') :
    Stepped s (.task k op) s' := by
  unfold taskStep at h
  split at h
  · cases h
  next x htask =>
  split at h
  · obtain ⟨-, h⟩ := Option.ite_none_right_eq_some.1 h
    obtain ⟨effect, heffect, rfl⟩ := Option.map_eq_some_iff.1 h
    exact .task k _ x effect _ htask heffect rfl
  · obtain ⟨effect, heffect, rfl⟩ := Option.map_eq_some_iff.1 h
    exact .task k _ x effect _ htask heffect rfl
  · next hreport =>
    obtain ⟨effect, heffect, rfl⟩ := Option.map_eq_some_iff.1 h
    exact .task k _ x effect _ htask heffect (if_neg hreport).symm

theorem stepped_of_step (h : s.step e = some s') : Stepped s e s' := by
  cases e with
  | forceShutdown =>
    obtain ⟨-, ⟨⟩⟩ := Option.ite_none_left_eq_some.1 h
    exact .forced
  | drain =>
    obtain ⟨hguard, ⟨⟩⟩ := Option.ite_none_left_eq_some.1 h
    exact .drains hguard
  | «return» =>
    obtain ⟨hguard, ⟨⟩⟩ := Option.ite_none_right_eq_some.1 h
    exact .returned hguard
  | completed =>
    obtain ⟨hguard, h⟩ := Option.ite_none_left_eq_some.1 h
    split at h
    · cases h
    · next m rest hcompleted =>
      obtain rfl := Option.some.inj h
      exact .completed m rest hguard hcompleted
  | received message =>
    obtain ⟨hguard, ⟨⟩⟩ := Option.ite_none_left_eq_some.1 h
    exact .received message hguard
  | task k op => exact stepped_of_taskStep h

end Listener

/-! ### The dispatcher of `UdpSessions` -/

/-- Where `UdpSessions` has a session that is at a stage. -/
def Stage.phase : Stage → SessionPhase
  | .ended => .ended
  | .reported => .reported
  | _ => .running

def Session.toTask (x : Session) : SessionTask := ⟨x.key, x.id, x.queue, x.stage.phase⟩

/-- A task of `UdpSessions` goes on, short of its report. -/
inductive Goes : SessionTask → SessionTask → Prop
  | recv (key : FlowKey) (id : UInt64) (hold : Bool) {queue queue' : DatagramChannel}
    {payload : Bytes} (hrecv : queue.tryRecv = some (payload, queue')) :
    Goes ⟨key, id, queue, .running⟩
      ⟨key, id, if hold then queue' else { queue' with held := queue.held }, .running⟩
  | release (key : FlowKey) (id : UInt64) (queue : DatagramChannel) :
    Goes ⟨key, id, queue, .running⟩ ⟨key, id, queue.release, .running⟩
  | finish (key : FlowKey) (id : UInt64) (queue : DatagramChannel) :
    Goes ⟨key, id, queue, .running⟩ ⟨key, id, queue.close, .ended⟩

theorem Session.goes_take {x : Session} {payload batch : Bytes} {queue : DatagramChannel}
    {taken : List ℕ} (h : Goes x.toTask ⟨x.key, x.id, queue, .running⟩) :
    Relation.ReflTransGen Goes x.toTask (x.take queue payload batch taken).session.toTask := by
  unfold take
  split
  · exact .tail (.single h) (.release ..)
  · exact .single h

/-- What a task does is nothing to `UdpSessions`, or one step, or two when a datagram does not fit a
capsule. -/
theorem Session.goes_of_step {x : Session} {op : Op} {e : Effect} (h : x.step op = some e)
    (hop : op ≠ .report) : Relation.ReflTransGen Goes x.toTask e.session.toTask := by
  obtain ⟨key, id, queue, numbers, stage⟩ := x
  cases stage with
  | spawned | establishing | writing | dropping => cases op <;> cases h <;> exact .refl
  | receiving =>
    cases op with
    | recv =>
      obtain ⟨⟨first, queue'⟩, hrecv, rfl⟩ := Option.map_eq_some_iff.1 h
      exact goes_take (.recv key id true hrecv)
    | _ => cases h <;> exact .refl
  | batching batch taken =>
    cases op with
    | recv =>
      dsimp only [step] at h
      split at h
      · split at h
        · next hrecv =>
          obtain rfl := Option.some.inj h
          exact goes_take (.recv key id false hrecv)
        · obtain rfl := Option.some.inj h
          exact .single (.release ..)
      · obtain rfl := Option.some.inj h
        exact .single (.release ..)
    | _ => cases h
  | closing => cases op <;> cases h; exact .single (.finish ..)
  | ended =>
    cases op with
    | report => exact absurd rfl hop
    | _ => cases h
  | reported => cases op <;> cases h

namespace Listener

variable {s s' : Listener} {e : Event} {replaced : List SessionEntry}

/-- The dispatcher without its counters, with the entries that were replaced. -/
def toDispatcher (s : Listener) (replaced : List SessionEntry) : Dispatcher where
  cfg := s.cfg
  sessions := s.sessions
  draining := s.draining
  returned := s.returned
  tasks := s.tasks.map Session.toTask
  completed := s.completed
  replaced := replaced

theorem toDispatcher_openSession (s : Listener) (replaced : List SessionEntry) (key : FlowKey)
    (number : ℕ) (payload : Bytes) :
    ∃ replaced', (s.openSession key number payload).toDispatcher replaced' =
      (s.toDispatcher replaced).openSession key payload := by
  have hlength : (s.toDispatcher replaced).tasks.length = s.tasks.length := List.length_map ..
  have hdraining : (s.toDispatcher replaced).draining = s.draining := rfl
  have hsessions : (s.toDispatcher replaced).sessions = s.sessions := rfl
  have hcfg : (s.toDispatcher replaced).cfg = s.cfg := rfl
  unfold openSession Dispatcher.openSession
  rw [hlength, hdraining, hsessions, hcfg]
  split
  · exact ⟨replaced, rfl⟩
  rcases s.sessions.insert key s.tasks.length with - | ⟨id, old, sessions⟩
  · exact ⟨replaced, rfl⟩
  · dsimp only
    rw [DatagramChannel.trySend_new]
    refine ⟨replaced ++ old.toList, ?_⟩
    unfold toDispatcher
    rw [List.map_append]
    rfl

theorem modify_eq_set {tasks : List SessionTask} {k : ℕ} {t : SessionTask}
    (h : tasks[k]? = some t) (f : SessionTask → SessionTask) :
    tasks.modify k f = tasks.set k (f t) := by
  rw [List.modify_eq_set_getElem?, h]
  rfl

theorem toDispatcher_getElem? (replaced : List SessionEntry) {k : ℕ} {x : Session}
    (htask : s.tasks[k]? = some x) : (s.toDispatcher replaced).tasks[k]? = some x.toTask := by
  rw [toDispatcher, List.getElem?_map, htask, Option.map_some]

/-- **The listener dispatches as `UdpSessions` has it**, and counts besides. -/
theorem toDispatcher_receive {cfg : UdpConfig} (hsound : (s.toDispatcher replaced).Sound cfg)
    (source destination : SocketAddr) (payload : Bytes) :
    ∃ replaced', (s.receive (.datagram source destination payload)).toDispatcher replaced' =
      (s.toDispatcher replaced).receive source destination payload := by
  have hopen := fun sessions ↦ toDispatcher_openSession
    { s with received := s.received + 1, sessions := sessions } replaced
    ⟨source.toCanonical, destination.toCanonical⟩ s.received
  have hcfg : (s.toDispatcher replaced).cfg = s.cfg := rfl
  have hsessions : (s.toDispatcher replaced).sessions = s.sessions := rfl
  unfold receive dispatch Dispatcher.receive
  dsimp only
  rw [hcfg, hsessions]
  split
  · exact ⟨replaced, rfl⟩
  rcases hget : s.sessions.get ⟨source.toCanonical, destination.toCanonical⟩ with - | ⟨id, k⟩
  · exact hopen s.sessions payload
  obtain ⟨entry, hlookup, hentry⟩ := Option.map_eq_some_iff.1 hget
  obtain ⟨rfl, rfl⟩ := Prod.mk.inj hentry
  -- a session of the table has been created, so it has its task
  have hcreated := hsound.entries _ entry hlookup
  rw [Dispatcher.created, toDispatcher, List.map_map, List.getElem?_map] at hcreated
  obtain ⟨x, htask, -⟩ := Option.map_eq_some_iff.1 hcreated
  have hqueue : x.toTask.queue = x.queue := rfl
  have hd := toDispatcher_getElem? replaced htask
  dsimp only
  rw [htask, hd]
  dsimp only
  rw [hqueue]
  rcases x.queue.trySend payload with (- | returned) | queue
  · exact ⟨replaced, rfl⟩
  · exact hopen _ returned
  · refine ⟨replaced, ?_⟩
    dsimp only
    rw [Dispatcher.setQueue, modify_eq_set hd, toDispatcher, List.map_set]
    rfl

theorem exists_taskStep {d : Dispatcher} {k : ℕ} {t t' : SessionTask} (h : Goes t t')
    (ht : d.tasks[k]? = some t) :
    ∃ op, d.taskStep k op = some { d with tasks := d.tasks.set k t' } := by
  cases h with
  | recv key id hold hrecv =>
    refine ⟨.recv hold, ?_⟩
    rw [Dispatcher.taskStep, ht]
    dsimp only
    rw [hrecv, Option.map_some, Dispatcher.setQueue, modify_eq_set ht]
  | release key id queue =>
    refine ⟨.release, ?_⟩
    rw [Dispatcher.taskStep, ht]
    dsimp only
    rw [Dispatcher.setQueue, modify_eq_set ht]
  | finish key id queue =>
    refine ⟨.finish, ?_⟩
    rw [Dispatcher.taskStep, ht]
    dsimp only [Dispatcher.setPhase, Dispatcher.setQueue]
    rw [List.modify_modify_eq, modify_eq_set ht]
    rfl

theorem exists_run_of_goes {d : Dispatcher} {k : ℕ} {t t' : SessionTask}
    (h : Relation.ReflTransGen Goes t t') (ht : d.tasks[k]? = some t) :
    ∃ events, run Dispatcher.step d events = some { d with tasks := d.tasks.set k t' } := by
  obtain ⟨hlt, rfl⟩ := List.getElem?_eq_some_iff.1 ht
  induction h with
  | refl => exact ⟨[], by rw [List.set_getElem_self]; rfl⟩
  | tail _ hgoes ih =>
    obtain ⟨events, hrun⟩ := ih
    obtain ⟨op, hstep⟩ := exists_taskStep (d := { d with tasks := d.tasks.set k _ }) hgoes
      (List.getElem?_set_self hlt)
    dsimp only at hstep
    rw [List.set_set] at hstep
    refine ⟨events ++ [.task k op], ?_⟩
    rw [run_append, hrun]
    exact run_cons_eq_some.2 ⟨_, hstep, rfl⟩

/-- The dispatcher gets to where the listener is. -/
def Reached (d : Dispatcher) (s : Listener) : Prop :=
  ∃ events replaced, run Dispatcher.step d events = some (s.toDispatcher replaced)

/-- **An event of the listener is a few events of the dispatcher**, or none. -/
theorem toDispatcher_step {cfg : UdpConfig} (hsound : (s.toDispatcher replaced).Sound cfg)
    (hstep : Stepped s e s') : Reached (s.toDispatcher replaced) s' := by
  have hone (event : UdpEvent) (replaced' : List SessionEntry)
      (h : (s.toDispatcher replaced).step event = some (s'.toDispatcher replaced')) :
      Reached (s.toDispatcher replaced) s' :=
    ⟨[event], replaced', run_cons_eq_some.2 ⟨_, h, rfl⟩⟩
  cases hstep with
  | forced => exact ⟨[], replaced, rfl⟩
  | drains hguard => exact hone .drain replaced (if_neg hguard)
  | returned hguard =>
    rw [Bool.and_eq_true, Bool.or_eq_true, Bool.not_eq_true'] at hguard
    obtain ⟨hreturned, hforced | hempty⟩ := hguard
    · exact hone .forceShutdown replaced (if_neg (Bool.eq_false_iff.1 hreturned))
    · refine hone .return replaced (if_pos ?_)
      rw [Bool.and_assoc]
      exact Bool.and_eq_true_iff.2 ⟨by rw [toDispatcher, hreturned]; rfl, hempty⟩
  | completed m rest hguard hcompleted =>
    refine hone .completed replaced ((if_neg hguard).trans ?_)
    rw [toDispatcher, hcompleted]
    rfl
  | received message hguard =>
    cases message with
    | truncated | missingOriginalDestination => exact ⟨[], replaced, rfl⟩
    | datagram source destination payload =>
      obtain ⟨replaced', hreceive⟩ := toDispatcher_receive hsound source destination payload
      exact hone (.received source destination payload) replaced'
        ((if_neg hguard).trans (congrArg some hreceive.symm))
  | task k op x effect completed htask heffect hcompleted =>
    have hd := toDispatcher_getElem? replaced htask
    have happly : ({ s.apply k effect with completed := completed } : Listener).toDispatcher
        replaced = { s.toDispatcher replaced with
          tasks := (s.toDispatcher replaced).tasks.set k effect.session.toTask
          completed := completed } := by
      unfold toDispatcher apply
      dsimp only
      rw [List.map_set]
      rfl
    by_cases hop : op = .report
    · subst hop hcompleted
      obtain ⟨key, id, queue, numbers, stage⟩ := x
      cases stage with
      | ended =>
        obtain rfl := Option.some.inj heffect
        refine hone (.task k .report) replaced ?_
        rw [happly, Dispatcher.step, Dispatcher.taskStep, hd]
        dsimp only [Session.toTask, Stage.phase]
        rw [Dispatcher.setPhase, modify_eq_set hd]
        rfl
      | _ => cases heffect
    · rw [if_neg hop] at hcompleted
      obtain ⟨events, hrun⟩ := exists_run_of_goes (Session.goes_of_step heffect hop) hd
      exact ⟨events, replaced, hrun.trans (by rw [happly, hcompleted]; rfl)⟩

/-- **The listener is the dispatcher of `UdpSessions`**: its runs are runs of the dispatcher, whose
table, tasks and messages are as `Dispatcher.Sound` says. -/
theorem reached_of_run {cfg : UdpConfig} {events : List Event}
    (hrun : run Listener.step (new cfg) events = some s) : Reached (.new cfg) s := by
  refine run_induction hrun ⟨[], [], rfl⟩ fun e _ s s' ⟨events, replaced, hd⟩ hstep ↦ ?_
  obtain ⟨events', replaced', hd'⟩ :=
    toDispatcher_step (Dispatcher.sound_of_run hd) (stepped_of_step hstep)
  exact ⟨events ++ events', replaced', by rw [run_append, hd, Option.bind_some, hd']⟩

end Listener

end Ztunnel.Proxy.Accounting
