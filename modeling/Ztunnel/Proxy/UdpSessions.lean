import Ztunnel.Lib.Index
import Ztunnel.Lib.Transition
import Ztunnel.Net
import Ztunnel.Proxy.DatagramChannel

/-!
# The sessions of the UDP listener (`proxy/outbound_udp.rs`)

`OutboundUdp::accept` dispatches redirected datagrams to one session per flow. `SessionTable` maps a
flow to its session; a session is a task with a queue, and when it ends it sends a message that
makes the dispatcher forget it. The message may arrive much later. By then the dispatcher may have
found the queue closed, forgotten the session on its own and opened another one for the flow.

`Dispatcher` is the dispatcher with the tasks of all sessions and the messages on their way.
A session is named by its number in the order of creation, which the code does not have: its own
identifier wraps around. What the table, the tasks and the messages have to do with each other is in
`Dispatcher.Sound`.
-/

namespace Ztunnel.Proxy

open Capsule (Bytes)
open Transition

structure FlowKey where
  source : SocketAddr
  destination : SocketAddr
  deriving DecidableEq

/-- An entry of the table. The sending end of the queue is named by the number of the session. -/
structure SessionEntry where
  id : UInt64
  sender : ℕ
  deriving DecidableEq

structure SessionTable where
  entries : AList fun _ : FlowKey ↦ SessionEntry
  maxSessions : ℕ
  nextId : UInt64

namespace SessionTable

def new (maxSessions : ℕ) : SessionTable := ⟨∅, maxSessions, 0⟩

/-- `SessionTable::insert`, with what `HashMap::insert` returns: the entry it replaced. -/
def insert (t : SessionTable) (key : FlowKey) (sender : ℕ) :
    Option (UInt64 × Option SessionEntry × SessionTable) :=
  if t.entries.entries.length ≥ t.maxSessions then none
  else
    let id := t.nextId
    some (id, t.entries.lookup key,
      { t with nextId := t.nextId + 1, entries := t.entries.insert key ⟨id, sender⟩ })

/-- `SessionTable::complete`. -/
def complete (t : SessionTable) (key : FlowKey) (id : UInt64) : SessionTable :=
  if (t.entries.lookup key).any (·.id == id) then { t with entries := t.entries.erase key } else t

/-- `SessionTable::get`. -/
def get (t : SessionTable) (key : FlowKey) : Option (UInt64 × ℕ) :=
  (t.entries.lookup key).map fun entry ↦ (entry.id, entry.sender)

end SessionTable

/-- Where the task of a session is. -/
inductive SessionPhase where
  /-- in `run_session`, with the receiving end of the queue -/
  | running
  /-- `run_session` is over or cancelled, and the queue is closed -/
  | ended
  /-- the dispatcher has been told -/
  | reported
  deriving DecidableEq

structure SessionTask where
  key : FlowKey
  id : UInt64
  queue : DatagramChannel
  phase : SessionPhase

/-- A message that a session has ended, with the number of the session. -/
structure Completion where
  session : ℕ
  key : FlowKey
  id : UInt64

/-- The part of the configuration that the dispatcher reads. -/
structure UdpConfig where
  udpMaxSessions : ℕ
  udpMaxBufferedDatagrams : ℕ
  udpMaxBufferedBytes : ℕ
  outboundUdpPort : UInt16

/-- The dispatcher, the tasks of all sessions it has created, in order, and the messages on their
way. `replaced` is the history of the entries that an insert has replaced. -/
structure Dispatcher where
  cfg : UdpConfig
  sessions : SessionTable
  draining : Bool
  returned : Bool
  tasks : List SessionTask
  completed : List Completion
  replaced : List SessionEntry

/-- `is_illegal_call`. -/
def isIllegalCall (destination : SocketAddr) (listenerPort : UInt16) : Bool :=
  destination.ip.isLoopback && destination.port == listenerPort

namespace Dispatcher

def new (cfg : UdpConfig) : Dispatcher where
  cfg := cfg
  sessions := .new cfg.udpMaxSessions
  draining := false
  returned := false
  tasks := []
  completed := []
  replaced := []

/-- The queue of a session, as its task or the dispatcher leaves it. -/
def setQueue (d : Dispatcher) (session : ℕ) (queue : DatagramChannel) : Dispatcher :=
  { d with tasks := d.tasks.modify session fun task ↦ { task with queue := queue } }

/-- A task gets on. -/
def setPhase (d : Dispatcher) (session : ℕ) (phase : SessionPhase) : Dispatcher :=
  { d with tasks := d.tasks.modify session fun task ↦ { task with phase := phase } }

/-- The end of the loop over received datagrams: a flow without a session gets one, unless the
listener drains or the table is full. -/
def openSession (d : Dispatcher) (key : FlowKey) (payload : Bytes) : Dispatcher :=
  if d.draining then d
  else
    match d.sessions.insert key d.tasks.length with
    | none => d
    | some (id, replaced, sessions) =>
      let queue := datagramChannelWithLimits d.cfg.udpMaxBufferedDatagrams d.cfg.udpMaxBufferedBytes
      let d := { d with sessions := sessions, replaced := d.replaced ++ replaced.toList }
      match queue.trySend payload with
      | .error _ =>
        -- no task is spawned, and both ends of the queue are dropped
        { d with
          sessions := d.sessions.complete key id
          tasks := d.tasks ++ [⟨key, id, queue.close, .reported⟩] }
      | .ok queue => { d with tasks := d.tasks ++ [⟨key, id, queue, .running⟩] }

/-- The loop over received datagrams, for one of them. -/
def receive (d : Dispatcher) (source destination : SocketAddr) (payload : Bytes) : Dispatcher :=
  let key : FlowKey := ⟨source.toCanonical, destination.toCanonical⟩
  if isIllegalCall key.destination d.cfg.outboundUdpPort then d
  else
    match d.sessions.get key with
    | none => d.openSession key payload
    | some (id, sender) =>
      match d.tasks[sender]? with
      | none => d
      | some task =>
        match task.queue.trySend payload with
        | .ok queue => d.setQueue sender queue
        | .error .full => d
        | .error (.closed returned) =>
          ({ d with sessions := d.sessions.complete key id }).openSession key returned

end Dispatcher

/-- What the task of a session does. -/
inductive TaskOp where
  /-- takes a datagram from its queue, to hold on to or to drop at once -/
  | recv (hold : Bool)
  /-- drops the datagrams it holds -/
  | release
  /-- `run_session` ends, or is cancelled by the forced shutdown -/
  | finish
  /-- sends the message that the session has ended -/
  | report

inductive UdpEvent where
  | forceShutdown
  | drain
  /-- the listener drains and has no sessions left -/
  | return
  /-- a message that a session has ended arrives -/
  | completed
  | received (source destination : SocketAddr) (payload : Bytes)
  | task (session : ℕ) (op : TaskOp)

namespace Dispatcher

def taskStep (d : Dispatcher) (session : ℕ) (op : TaskOp) : Option Dispatcher :=
  match d.tasks[session]? with
  | none => none
  | some task =>
    match task.phase, op with
    | .running, .recv hold => task.queue.tryRecv.map fun (_, queue) ↦
      d.setQueue session (if hold then queue else { queue with held := task.queue.held })
    | .running, .release => some (d.setQueue session task.queue.release)
    | .running, .finish => some ((d.setQueue session task.queue.close).setPhase session .ended)
    | .ended, .report =>
      some { d.setPhase session .reported with
        completed := d.completed ++ [⟨session, task.key, task.id⟩] }
    | _, _ => none

/-- One event. Tasks go on when the dispatcher has returned. -/
def step (d : Dispatcher) : UdpEvent → Option Dispatcher
  | .forceShutdown => if d.returned then none else some { d with returned := true }
  | .drain => if d.returned || d.draining then none else some { d with draining := true }
  | .return =>
    if !d.returned && d.draining && d.sessions.entries.entries.isEmpty then
      some { d with returned := true }
    else none
  | .completed =>
    if d.returned then none
    else
      match d.completed with
      | [] => none
      | m :: rest =>
        some { d with completed := rest, sessions := d.sessions.complete m.key m.id }
  | .received source destination payload =>
    if d.returned then none else some (d.receive source destination payload)
  | .task session op => d.taskStep session op

end Dispatcher

/-! ### The table -/

namespace SessionTable

variable {t t' : SessionTable} {key : FlowKey}

theorem insert_eq_some {sender : ℕ} {id : UInt64} {replaced : Option SessionEntry}
    (h : t.insert key sender = some (id, replaced, t')) :
    t.entries.entries.length < t.maxSessions ∧ id = t.nextId ∧ replaced = t.entries.lookup key ∧
      t' = { t with
        nextId := t.nextId + 1
        entries := t.entries.insert key ⟨t.nextId, sender⟩ } := by
  obtain ⟨hroom, hsome⟩ := Option.ite_none_left_eq_some.1 h
  obtain ⟨rfl, hrest⟩ := Prod.mk.inj (Option.some.inj hsome)
  obtain ⟨rfl, rfl⟩ := Prod.mk.inj hrest
  exact ⟨Nat.lt_of_not_le hroom, rfl, rfl, rfl⟩

/-- A completion removes the entry that has its identifier, and no other. -/
theorem lookup_complete (t : SessionTable) (key : FlowKey) (id : UInt64) (key' : FlowKey) :
    (t.complete key id).entries.lookup key' =
      if key' = key then (t.entries.lookup key).filter (·.id != id) else t.entries.lookup key' := by
  rw [complete]
  rcases hlookup : t.entries.lookup key with - | entry
  · rw [if_neg (by simp)]
    split
    · next heq =>
      rw [heq, hlookup]
      rfl
    · rfl
  · by_cases hid : entry.id = id
    · rw [if_pos (by simpa using hid)]
      split
      · next heq =>
        rw [heq, AList.lookup_erase]
        simp [Option.filter, hid]
      · next heq => exact AList.lookup_erase_ne heq
    · rw [if_neg (by simpa using hid)]
      split
      · next heq =>
        rw [heq, hlookup]
        simp [Option.filter, hid]
      · rfl

theorem lookup_of_complete {id : UInt64} {key' : FlowKey} {entry : SessionEntry}
    (h : (t.complete key id).entries.lookup key' = some entry) :
    t.entries.lookup key' = some entry := by
  rw [lookup_complete] at h
  split at h
  · next heq => exact heq ▸ (Option.filter_eq_some_iff.1 h).1
  · exact h

theorem length_complete_le (t : SessionTable) (key : FlowKey) (id : UInt64) :
    (t.complete key id).entries.entries.length ≤ t.entries.entries.length := by
  rw [complete]
  split
  · exact (List.kerase_sublist key t.entries.entries).length_le
  · exact le_rfl

theorem complete_maxSessions (t : SessionTable) (key : FlowKey) (id : UInt64) :
    (t.complete key id).maxSessions = t.maxSessions := by
  rw [complete]
  split <;> rfl

theorem complete_nextId (t : SessionTable) (key : FlowKey) (id : UInt64) :
    (t.complete key id).nextId = t.nextId := by
  rw [complete]
  split <;> rfl

end SessionTable

/-! ### The table, the sessions and the messages -/

/-- **The invariant.** `created` are the flows and identifiers of all sessions, by number. -/
structure SessionTable.Consistent (cfg : UdpConfig) (t : SessionTable)
    (created : List (FlowKey × UInt64)) (completed : List Completion)
    (replaced : List SessionEntry) : Prop where
  limit : t.maxSessions = cfg.udpMaxSessions
  bounded : t.entries.entries.length ≤ t.maxSessions
  /-- identifiers are given out in order, and wrap around -/
  ids : ∀ i key id, created[i]? = some (key, id) → id = UInt64.ofNat i
  nextId : t.nextId = UInt64.ofNat created.length
  /-- an entry is that of a session of its flow -/
  entries : ∀ key entry, t.entries.lookup key = some entry →
    created[entry.sender]? = some (key, entry.id)
  completed : ∀ m ∈ completed, created[m.session]? = some (m.key, m.id)
  replaced : replaced = []

namespace SessionTable.Consistent

variable {cfg : UdpConfig} {t t' : SessionTable} {created : List (FlowKey × UInt64)}
  {completed : List Completion} {replaced : List SessionEntry} {key : FlowKey}

theorem new (cfg : UdpConfig) : (SessionTable.new cfg.udpMaxSessions).Consistent cfg [] [] [] where
  limit := rfl
  bounded := Nat.zero_le _
  ids _ _ _ h := nomatch h
  nextId := rfl
  entries _ _ h := nomatch h
  completed _ h := nomatch h
  replaced := rfl

theorem complete (h : t.Consistent cfg created completed replaced) (key : FlowKey) (id : UInt64) :
    (t.complete key id).Consistent cfg created completed replaced where
  limit := (t.complete_maxSessions key id).trans h.limit
  bounded := by
    rw [complete_maxSessions]
    exact (t.length_complete_le key id).trans h.bounded
  ids := h.ids
  nextId := (t.complete_nextId key id).trans h.nextId
  entries key' entry hentry := h.entries key' entry (lookup_of_complete hentry)
  completed := h.completed
  replaced := h.replaced

/-- A session is created for a flow that has none. -/
theorem insert (h : t.Consistent cfg created completed replaced)
    (hnone : t.entries.lookup key = none) {id : UInt64} {old : Option SessionEntry}
    (hinsert : t.insert key created.length = some (id, old, t')) :
    t'.Consistent cfg (created ++ [(key, id)]) completed (replaced ++ old.toList) := by
  obtain ⟨hroom, rfl, rfl, rfl⟩ := insert_eq_some hinsert
  have hmem : key ∉ t.entries := AList.lookup_eq_none.1 hnone
  -- the sessions so far keep their numbers
  have hgrow : ∀ {i : ℕ} {x : FlowKey × UInt64}, created[i]? = some x →
      (created ++ [(key, t.nextId)])[i]? = some x := by
    intro i x hx
    obtain ⟨hi, -⟩ := List.getElem?_eq_some_iff.1 hx
    rwa [List.getElem?_append_left hi]
  exact {
    limit := h.limit
    bounded := by
      show (t.entries.insert key _).entries.length ≤ t.maxSessions
      rw [AList.entries_insert_of_notMem hmem]
      exact hroom
    ids := by
      intro i key' id' hi
      rcases Nat.lt_or_ge i created.length with hlt | hge
      · rw [List.getElem?_append_left hlt] at hi
        exact h.ids i key' id' hi
      · rw [List.getElem?_append_right hge, List.getElem?_singleton] at hi
        obtain ⟨hzero, hsome⟩ := Option.ite_none_right_eq_some.1 hi
        obtain ⟨rfl, rfl⟩ := Prod.mk.inj (Option.some.inj hsome)
        rw [h.nextId, show i = created.length by omega]
    nextId := by
      show t.nextId + 1 = _
      rw [h.nextId, List.length_append, List.length_singleton, UInt64.ofNat_add]
      rfl
    entries := by
      intro key' entry hentry
      obtain ⟨rfl, rfl⟩ | ⟨-, hold⟩ := Index.lookup_insert_eq_some.1 hentry
      · exact List.getElem?_concat_length
      · exact hgrow (h.entries key' entry hold)
    completed := fun m hm ↦ hgrow (h.completed m hm)
    replaced := by
      rw [h.replaced, hnone]
      rfl }

theorem report (h : t.Consistent cfg created completed replaced) {session : ℕ} {id : UInt64}
    (hsession : created[session]? = some (key, id)) :
    t.Consistent cfg created (completed ++ [⟨session, key, id⟩]) replaced :=
  { h with
    completed := by
      intro m hm
      rcases List.mem_append.1 hm with hm | hm
      · exact h.completed m hm
      · obtain rfl := List.mem_singleton.1 hm
        exact hsession }

theorem forget (h : t.Consistent cfg created completed replaced) {rest : List Completion}
    (hrest : ∀ m ∈ rest, m ∈ completed) : t.Consistent cfg created rest replaced :=
  { h with completed := fun m hm ↦ h.completed m (hrest m hm) }

/-- **Identifiers are unique** among any `2 ^ 64` sessions in a row. -/
theorem id_ne (h : t.Consistent cfg created completed replaced) {i j : ℕ} {key key' : FlowKey}
    {id id' : UInt64} (hi : created[i]? = some (key, id)) (hj : created[j]? = some (key', id'))
    (hlt : i < j) (hwindow : j < i + 2 ^ 64) : id ≠ id' := by
  intro heq
  rw [h.ids i key id hi, h.ids j key' id' hj] at heq
  have hmod := congrArg UInt64.toNat heq
  rw [UInt64.toNat_ofNat', UInt64.toNat_ofNat'] at hmod
  omega

/-- **A late completion leaves a newer session alone.** -/
theorem complete_of_newer (h : t.Consistent cfg created completed replaced) {m : Completion}
    (hm : m ∈ completed) {entry : SessionEntry} (hentry : t.entries.lookup m.key = some entry)
    (hlt : m.session < entry.sender) (hwindow : entry.sender < m.session + 2 ^ 64) :
    (t.complete m.key m.id).entries.lookup m.key = some entry := by
  have hne := h.id_ne (h.completed m hm) (h.entries m.key entry hentry) hlt hwindow
  rw [lookup_complete, if_pos rfl, hentry]
  exact if_pos (bne_iff_ne.2 hne.symm)

end SessionTable.Consistent

namespace Dispatcher

variable {cfg : UdpConfig} {d d' : Dispatcher}

/-- The flows and identifiers of all sessions, in the order of their creation. -/
def created (d : Dispatcher) : List (FlowKey × UInt64) := d.tasks.map fun task ↦ (task.key, task.id)

def Sound (cfg : UdpConfig) (d : Dispatcher) : Prop :=
  d.sessions.Consistent cfg d.created d.completed d.replaced

theorem length_created (d : Dispatcher) : d.created.length = d.tasks.length := List.length_map _

theorem created_getElem? {session : ℕ} {task : SessionTask} (h : d.tasks[session]? = some task) :
    d.created[session]? = some (task.key, task.id) := by
  rw [created, List.getElem?_map, h]
  rfl

theorem created_modify (tasks : List SessionTask) (session : ℕ) (f : SessionTask → SessionTask)
    (hf : ∀ task, ((f task).key, (f task).id) = (task.key, task.id)) :
    (tasks.modify session f).map (fun task ↦ (task.key, task.id)) =
      tasks.map fun task ↦ (task.key, task.id) := by
  refine List.ext_getElem? fun i ↦ ?_
  rw [List.getElem?_map, List.getElem?_map, List.getElem?_modify]
  rcases tasks[i]? with - | task
  · rfl
  · show some _ = some _
    split
    · exact congrArg some (hf task)
    · rfl

theorem created_setQueue (d : Dispatcher) (session : ℕ) (queue : DatagramChannel) :
    (d.setQueue session queue).created = d.created :=
  created_modify _ _ _ fun _ ↦ rfl

theorem created_setPhase (d : Dispatcher) (session : ℕ) (phase : SessionPhase) :
    (d.setPhase session phase).created = d.created :=
  created_modify _ _ _ fun _ ↦ rfl

theorem Sound.setQueue (h : d.Sound cfg) (session : ℕ) (queue : DatagramChannel) :
    (d.setQueue session queue).Sound cfg := by
  rw [Sound, created_setQueue]
  exact h

theorem Sound.setPhase (h : d.Sound cfg) (session : ℕ) (phase : SessionPhase) :
    (d.setPhase session phase).Sound cfg := by
  rw [Sound, created_setPhase]
  exact h

/-- **What opening a session can do**: nothing, or create one. The queue is new, so that it always
takes the datagram and the session gets a task. -/
theorem openSession_cases (d : Dispatcher) (key : FlowKey) (payload : Bytes) :
    d.openSession key payload = d ∨
      d.draining = false ∧ ∃ id old sessions queue,
        d.sessions.insert key d.tasks.length = some (id, old, sessions) ∧
        d.openSession key payload =
          { d with
            sessions := sessions
            replaced := d.replaced ++ old.toList
            tasks := d.tasks ++ [⟨key, id, queue, .running⟩] } := by
  rw [openSession]
  by_cases hdraining : d.draining = true
  · exact .inl (if_pos hdraining)
  rw [if_neg hdraining]
  rcases hinsert : d.sessions.insert key d.tasks.length with - | ⟨id, old, sessions⟩
  · exact .inl rfl
  · simp only [DatagramChannel.trySend_new]
    exact .inr ⟨Bool.eq_false_iff.2 hdraining, id, old, sessions, _, rfl, rfl⟩

/-- The dispatcher forgets the session it has just found closed. -/
theorem lookup_complete_get {key : FlowKey} {id : UInt64} {sender : ℕ}
    (hget : d.sessions.get key = some (id, sender)) :
    (d.sessions.complete key id).entries.lookup key = none := by
  obtain ⟨entry, hentry, heq⟩ := Option.map_eq_some_iff.1 hget
  obtain ⟨rfl, -⟩ := Prod.mk.inj heq
  rw [SessionTable.lookup_complete, if_pos rfl, hentry]
  exact if_neg (by simp)

/-- **What a received datagram can do**: nothing, or go into the queue of a session, or open a
session for a flow that has none, or none any more. -/
theorem receive_cases (d : Dispatcher) (source destination : SocketAddr) (payload : Bytes) :
    d.receive source destination payload = d ∨
      (∃ session queue, d.receive source destination payload = d.setQueue session queue) ∨
      ∃ key sessions payload',
        (sessions = d.sessions ∨ ∃ id, sessions = d.sessions.complete key id) ∧
        sessions.entries.lookup key = none ∧
        d.receive source destination payload =
          ({ d with sessions := sessions }).openSession key payload' := by
  rw [receive]
  split
  · exact .inl rfl
  rcases hget : d.sessions.get ⟨source.toCanonical, destination.toCanonical⟩ with - | ⟨id, sender⟩
  · exact .inr (.inr ⟨_, d.sessions, payload, .inl rfl, Option.map_eq_none_iff.1 hget, rfl⟩)
  dsimp only
  split
  · exact .inl rfl
  split
  · exact .inr (.inl ⟨sender, _, rfl⟩)
  · exact .inl rfl
  · next returned _ =>
    exact .inr (.inr ⟨_, _, returned, .inr ⟨id, rfl⟩, lookup_complete_get hget, rfl⟩)

/-- **What a task can do**: get on with its queue, end, or report that it has ended. -/
theorem taskStep_cases {session : ℕ} {op : TaskOp} (hstep : d.taskStep session op = some d') :
    (∃ queue, d' = d.setQueue session queue) ∨
      (∃ queue, d' = (d.setQueue session queue).setPhase session .ended) ∨
      ∃ task, d.tasks[session]? = some task ∧
        d' = { d.setPhase session .reported with
          completed := d.completed ++ [⟨session, task.key, task.id⟩] } := by
  rw [taskStep] at hstep
  rcases htask : d.tasks[session]? with - | task
  · rw [htask] at hstep
    exact nomatch hstep
  simp only [htask] at hstep
  split at hstep
  · obtain ⟨⟨payload, queue⟩, -, rfl⟩ := Option.map_eq_some_iff.1 hstep
    exact .inl ⟨_, rfl⟩
  · exact .inl ⟨_, (Option.some.inj hstep).symm⟩
  · exact .inr (.inl ⟨_, (Option.some.inj hstep).symm⟩)
  · exact .inr (.inr ⟨task, rfl, (Option.some.inj hstep).symm⟩)
  · exact nomatch hstep

/-- **What an event can do.** A listener that drains goes on with it. -/
theorem step_cases {event : UdpEvent} (hstep : d.step event = some d') :
    (∃ draining returned, (d.draining = true → draining = true) ∧
        d' = { d with draining := draining, returned := returned }) ∨
      (∃ m rest, d.completed = m :: rest ∧
        d' = { d with completed := rest, sessions := d.sessions.complete m.key m.id }) ∨
      (∃ source destination payload, d' = d.receive source destination payload) ∨
      ∃ session op, d.taskStep session op = some d' := by
  cases event with
  | forceShutdown =>
    obtain ⟨-, hsome⟩ := Option.ite_none_left_eq_some.1 hstep
    exact .inl ⟨d.draining, true, id, (Option.some.inj hsome).symm⟩
  | drain =>
    obtain ⟨-, hsome⟩ := Option.ite_none_left_eq_some.1 hstep
    exact .inl ⟨true, d.returned, fun _ ↦ rfl, (Option.some.inj hsome).symm⟩
  | «return» =>
    obtain ⟨-, hsome⟩ := Option.ite_none_right_eq_some.1 hstep
    exact .inl ⟨d.draining, true, id, (Option.some.inj hsome).symm⟩
  | completed =>
    obtain ⟨-, hsome⟩ := Option.ite_none_left_eq_some.1 hstep
    rcases hcompleted : d.completed with - | ⟨m, rest⟩
    · rw [hcompleted] at hsome
      exact nomatch hsome
    · rw [hcompleted] at hsome
      exact .inr (.inl ⟨m, rest, rfl, (Option.some.inj hsome).symm⟩)
  | received source destination payload =>
    obtain ⟨-, hsome⟩ := Option.ite_none_left_eq_some.1 hstep
    exact .inr (.inr (.inl ⟨source, destination, payload, (Option.some.inj hsome).symm⟩))
  | task session op => exact .inr (.inr (.inr ⟨session, op, hstep⟩))

theorem Sound.openSession (h : d.Sound cfg) {key : FlowKey}
    (hnone : d.sessions.entries.lookup key = none) (payload : Bytes) :
    (d.openSession key payload).Sound cfg := by
  obtain hsame | ⟨-, id, old, sessions, queue, hinsert, heq⟩ := d.openSession_cases key payload
  · exact hsame.symm ▸ h
  · rw [← length_created] at hinsert
    have hcreated := SessionTable.Consistent.insert h hnone hinsert
    rw [heq, Sound, created, List.map_append]
    exact hcreated

theorem Sound.receive (h : d.Sound cfg) (source destination : SocketAddr) (payload : Bytes) :
    (d.receive source destination payload).Sound cfg := by
  obtain hsame | ⟨session, queue, heq⟩ | ⟨key, sessions, payload', hsessions, hnone, heq⟩ :=
    d.receive_cases source destination payload
  · exact hsame.symm ▸ h
  · exact heq ▸ h.setQueue session queue
  · have hconsistent : sessions.Consistent cfg d.created d.completed d.replaced := by
      obtain rfl | ⟨id, rfl⟩ := hsessions
      · exact h
      · exact SessionTable.Consistent.complete h key id
    rw [heq]
    exact Sound.openSession (d := { d with sessions := sessions }) hconsistent hnone payload'

theorem Sound.taskStep (h : d.Sound cfg) {session : ℕ} {op : TaskOp}
    (hstep : d.taskStep session op = some d') : d'.Sound cfg := by
  obtain ⟨queue, rfl⟩ | ⟨queue, rfl⟩ | ⟨task, htask, rfl⟩ := taskStep_cases hstep
  · exact h.setQueue session queue
  · exact (h.setQueue session queue).setPhase session .ended
  · have hsession :
        (d.setPhase session .reported).created[session]? = some (task.key, task.id) := by
      rw [created_setPhase]
      exact created_getElem? htask
    exact SessionTable.Consistent.report (h.setPhase session .reported) hsession

theorem sound_new (cfg : UdpConfig) : (new cfg).Sound cfg := SessionTable.Consistent.new cfg

theorem Sound.step (h : d.Sound cfg) {event : UdpEvent} (hstep : d.step event = some d') :
    d'.Sound cfg := by
  obtain ⟨draining, returned, -, rfl⟩ | ⟨m, rest, hcompleted, rfl⟩ |
    ⟨source, destination, payload, rfl⟩ | ⟨session, op, htask⟩ := step_cases hstep
  · exact h
  · have hrest : ∀ m' ∈ rest, m' ∈ d.completed :=
      fun m' hm' ↦ hcompleted ▸ List.mem_cons_of_mem m hm'
    exact (SessionTable.Consistent.forget h hrest).complete m.key m.id
  · exact h.receive source destination payload
  · exact h.taskStep htask

theorem sound_of_run {events : List UdpEvent} (hrun : run step (.new cfg) events = some d) :
    d.Sound cfg :=
  run_induction hrun (sound_new cfg) fun _ _ _ _ h hstep ↦ h.step hstep

/-! ### Draining -/

/-- The listener drains, and no session has been created since `created` were. -/
structure Drains (created : List (FlowKey × UInt64)) (d : Dispatcher) : Prop where
  draining : d.draining = true
  created : d.created = created

variable {created : List (FlowKey × UInt64)}

theorem Drains.openSession (h : d.Drains created) (key : FlowKey) (payload : Bytes) :
    (d.openSession key payload).Drains created := by
  rw [Dispatcher.openSession, if_pos h.draining]
  exact h

theorem Drains.setQueue (h : d.Drains created) (session : ℕ) (queue : DatagramChannel) :
    (d.setQueue session queue).Drains created :=
  ⟨h.draining, (created_setQueue ..).trans h.created⟩

theorem Drains.setPhase (h : d.Drains created) (session : ℕ) (phase : SessionPhase) :
    (d.setPhase session phase).Drains created :=
  ⟨h.draining, (created_setPhase ..).trans h.created⟩

/-- **No event creates a session** when the listener drains. -/
theorem Drains.step (h : d.Drains created) {event : UdpEvent} (hstep : d.step event = some d') :
    d'.Drains created := by
  obtain ⟨draining, returned, hdraining, rfl⟩ | ⟨m, rest, -, rfl⟩ |
    ⟨source, destination, payload, rfl⟩ | ⟨session, op, htask⟩ := step_cases hstep
  · exact ⟨hdraining h.draining, h.created⟩
  · exact ⟨h.draining, h.created⟩
  · obtain hsame | ⟨session, queue, heq⟩ | ⟨key, sessions, payload', -, -, heq⟩ :=
      d.receive_cases source destination payload
    · exact hsame.symm ▸ h
    · exact heq ▸ h.setQueue session queue
    · have hdrains : ({ d with sessions := sessions }).Drains created := ⟨h.draining, h.created⟩
      exact heq ▸ hdrains.openSession key payload'
  · obtain ⟨queue, rfl⟩ | ⟨queue, rfl⟩ | ⟨task, -, rfl⟩ := taskStep_cases htask
    · exact h.setQueue session queue
    · exact (h.setQueue session queue).setPhase session .ended
    · exact ⟨h.draining, (h.setPhase session .reported).created⟩

end Dispatcher

/-! ### The sessions of the listener -/

/-- **The session table is sound**, whatever datagrams come, sessions end, messages are late and
queues are found closed. It never holds more than `udp_max_sessions` entries; an insert never
replaces an entry; among `2 ^ 64` sessions no two have the same identifier; a message that a session
has ended leaves a newer session of the flow in the table; and once the listener drains, no session
is created. -/
theorem session_table_sound {cfg : UdpConfig} {events : List UdpEvent} {d : Dispatcher}
    (hrun : run Dispatcher.step (.new cfg) events = some d) :
    d.sessions.entries.entries.length ≤ cfg.udpMaxSessions ∧ d.replaced = [] ∧
      (∀ i j key key' id id', d.created[i]? = some (key, id) → d.created[j]? = some (key', id') →
        i < j → j < i + 2 ^ 64 → id ≠ id') ∧
      (∀ d' m rest entry, d.completed = m :: rest → d.step .completed = some d' →
        d.sessions.entries.lookup m.key = some entry → m.session < entry.sender →
        entry.sender < m.session + 2 ^ 64 → d'.sessions.entries.lookup m.key = some entry) ∧
      (d.draining = true → ∀ later d', run Dispatcher.step d later = some d' →
        d'.created = d.created) := by
  have hsound := Dispatcher.sound_of_run hrun
  refine ⟨hsound.limit ▸ hsound.bounded, hsound.replaced, ?_, ?_, ?_⟩
  · intro i j key key' id id' hi hj hlt hwindow
    exact hsound.id_ne hi hj hlt hwindow
  · intro d' m rest entry hcompleted hstep hentry hlt hwindow
    obtain ⟨-, hsome⟩ := Option.ite_none_left_eq_some.1 hstep
    rw [hcompleted] at hsome
    obtain rfl := Option.some.inj hsome
    exact hsound.complete_of_newer (hcompleted ▸ List.mem_cons_self) hentry hlt hwindow
  · intro hdraining later d' hlater
    have hdrains : d'.Drains d.created := run_induction hlater ⟨hdraining, rfl⟩
      fun _ _ _ _ h hstep ↦ h.step hstep
    exact hdrains.created

/-- A flow from `10.0.0.1:1000` to `10.0.0.2:53`. -/
def sampleFlow : FlowKey := ⟨⟨.v4 0x0a000001, 1000⟩, ⟨.v4 0x0a000002, 53⟩⟩

/-- A datagram of the sample flow. -/
def sampleDatagram : UdpEvent := .received sampleFlow.source sampleFlow.destination [1]

/-- The session of a flow ends; before its message arrives, the dispatcher finds the queue closed
and opens another session. -/
def reopened : List UdpEvent :=
  [sampleDatagram, .task 0 .finish, sampleDatagram, .task 0 .report]

/-- The late message leaves the second session in the table, which has room for one. -/
theorem session_table_sound_reopened :
    ∃ d d' entry, run Dispatcher.step (.new ⟨1, 4, 100, 15009⟩) reopened = some d ∧
      d.step .completed = some d' ∧ entry.sender = 1 ∧
      d'.sessions.entries.lookup sampleFlow = some entry ∧
      d'.sessions.entries.entries.length ≤ 1 := by
  have hcheck : ((run Dispatcher.step (.new ⟨1, 4, 100, 15009⟩) reopened).any fun d ↦
      (d.completed.head?.any fun m ↦ decide (m.session = 0) && decide (m.key = sampleFlow)) &&
        (d.step .completed).isSome &&
        (d.sessions.entries.lookup sampleFlow).any fun entry ↦ decide (entry.sender = 1)) =
      true := by
    decide
  obtain ⟨d, hrun, hcheck⟩ := (Option.any_eq_true _ _).1 hcheck
  obtain ⟨hcheck, hentry⟩ := Bool.and_eq_true_iff.1 hcheck
  obtain ⟨hmessage, hstep⟩ := Bool.and_eq_true_iff.1 hcheck
  obtain ⟨entry, hentry, hsender⟩ := (Option.any_eq_true _ _).1 hentry
  obtain ⟨d', hstep⟩ := Option.isSome_iff_exists.1 hstep
  obtain ⟨m, hm, hmessage⟩ := (Option.any_eq_true _ _).1 hmessage
  obtain ⟨hsession, hkey⟩ := Bool.and_eq_true_iff.1 hmessage
  obtain ⟨rest, hcompleted⟩ := List.head?_eq_some_iff.1 hm
  have hsender := of_decide_eq_true hsender
  have hsession := of_decide_eq_true hsession
  have hkey := of_decide_eq_true hkey
  obtain ⟨-, -, -, hlate, -⟩ := session_table_sound hrun
  have hkept := hlate d' m rest entry hcompleted hstep (hkey ▸ hentry) (by omega) (by omega)
  have hafter :
      run Dispatcher.step (.new ⟨1, 4, 100, 15009⟩) (reopened ++ [.completed]) = some d' := by
    rw [run_append, hrun]
    exact run_cons_eq_some.2 ⟨d', hstep, rfl⟩
  exact ⟨d, d', entry, hrun, hstep, hsender, hkey ▸ hkept, (session_table_sound hafter).1⟩

end Ztunnel.Proxy
