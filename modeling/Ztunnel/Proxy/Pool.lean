import Ztunnel.Lib.KeyedLock
import Ztunnel.Lib.Transition
import Ztunnel.Rbac.Policy

/-!
# The HBONE connection pool

`WorkloadHBONEPool` of `pool.rs` with the connections of `h2/client.rs`: many tasks ask for a
connection to a workload, and are given clones of few. Connections and locks are filed under a
64-bit hash of the workload key. A task that finds no lock for its hash enters one and races for it;
the winner opens a connection, and the losers sleep until the pool is notified of a check-in. Every
other task waits for the lock, and under it takes a pooled connection or opens one. The locks are
tokio's: a lock that is given back belongs to the first task in its queue at once, so `try_lock`
fails although that task has not been polled, and the task may be dropped before it is.

Each clone of the pool is a client with its own watch receiver, in which it has seen the
notifications up to some number. Between two awaits the tasks of a pool run in parallel on the
threads of the runtime, so every access to the shared state is an event of its own: the lookup and
the insertion of a lock, its acquisition and release, the check of the stream counter, the
check-in, and the increment and decrement of the counter. The hash, the outcome of an attempt to
connect and the connection that the inner pool gives out are arbitrary.
-/

namespace Ztunnel.Proxy.Pool

open Ztunnel.Rbac

/-! ### Connections -/

/-- `WorkloadKey`. -/
structure WorkloadKey where
  srcId : Identity
  dstId : List Identity
  sandboxId : Option String
  dst : SocketAddr
  src : IpAddr
deriving DecidableEq, Repr

/-- What the pool is configured with: the hash of its keys, and `pool_max_streams_per_conn`, a
`u16`. -/
structure Config where
  hash : WorkloadKey → UInt64
  poolMaxStreamsPerConn : ℕ
  poolMaxStreamsPerConn_le : poolMaxStreamsPerConn ≤ 65535

/-- `max_allowed_streams` of `spawn_connection`, from the limit that the peer reports. -/
def Config.maxAllowedStreams (cfg : Config) (peer : ℕ) : ℕ :=
  min cfg.poolMaxStreamsPerConn (if peer ≤ 65535 then peer else 65535)

/-- `H2ConnectClient`. Clones share the connection and its counter, so a clone is the number of its
connection. -/
structure H2ConnectClient where
  wlKey : WorkloadKey
  maxAllowedStreams : ℕ
  streamCount : ℕ
deriving DecidableEq, Repr

/-- `is_for_workload`. -/
def H2ConnectClient.isForWorkload (conn : H2ConnectClient) (key : WorkloadKey) :
    Except String Unit :=
  if conn.wlKey = key then .ok () else .error "connection does not match workload key!"

/-- `will_be_at_max_streamcount`. -/
def H2ConnectClient.willBeAtMaxStreamcount (conn : H2ConnectClient) : Bool :=
  (conn.streamCount + 1) % 65536 ≥ conn.maxAllowedStreams

/-- A request on its way, or a stream with the halves that are not yet dropped. -/
inductive StreamState where
  | requested
  | opened (read write : Bool)
deriving DecidableEq, Repr

/-- The request waits for its response, or a half of the stream is in use. -/
def StreamState.inProgress : StreamState → Bool
  | .requested => true
  | .opened read write => read || write

/-- A call of `send_request`, with the key it was made for. -/
structure H2Stream where
  key : WorkloadKey
  conn : ℕ
  state : StreamState
deriving DecidableEq, Repr

/-! ### The shared state -/

/-- `PoolState`. -/
structure PoolState where
  /-- `established_conn_writelock`. -/
  writelock : LockMap UInt64
  /-- `connected_pool`: connections by hash. -/
  connectedPool : List (UInt64 × ℕ)
  /-- How often `pool_notifier` has been sent to. -/
  notified : ℕ
  conns : List H2ConnectClient
  streams : List H2Stream

namespace PoolState

/-- `fetch_add` on the counter of a connection. -/
def fetchAdd (s : PoolState) (n : ℕ) : PoolState :=
  { s with conns := s.conns.modify n fun conn ↦
    { conn with streamCount := (conn.streamCount + 1) % 65536 } }

/-- `fetch_sub` on the counter of a connection. -/
def fetchSub (s : PoolState) (n : ℕ) : PoolState :=
  { s with conns := s.conns.modify n fun conn ↦
    { conn with streamCount := (conn.streamCount + 65535) % 65536 } }

/-- The client gets in line for the lock of a hash. -/
def join (s : PoolState) (h : UInt64) (i : ℕ) : PoolState :=
  { s with writelock := s.writelock.join h i }

/-- The client gives the lock of a hash back, or no longer waits for it. -/
def release (s : PoolState) (h : UInt64) (i : ℕ) : PoolState :=
  { s with writelock := s.writelock.leave h i }

/-- The connection is taken out of the pool. -/
def take (s : PoolState) (h : UInt64) (n : ℕ) : PoolState :=
  { s with connectedPool := s.connectedPool.erase (h, n) }

/-- The requests and streams in progress on a connection. -/
def inProgress (s : PoolState) (n : ℕ) : ℕ :=
  s.streams.countP fun stream ↦ stream.conn = n && stream.state.inProgress

end PoolState

/-! ### The clients -/

/-- Where a call of `send_request_pooled` is. -/
inductive Phase where
  | idle
  /-- In `checkout_conn_under_writelock`, before the lookup; woken by a notification or not. -/
  | checkout (woken : Bool) (key : WorkloadKey)
  /-- In `lock().await`. -/
  | awaitLock (key : WorkloadKey)
  /-- Before `try_insert`. -/
  | inserting (key : WorkloadKey)
  /-- In `start_conn_if_win_writelock`, before `try_lock`. -/
  | trying (key : WorkloadKey)
  /-- In `pool_watcher.changed().await`. -/
  | waiting (key : WorkloadKey)
  /-- In the loop around `guarded_get`. -/
  | holding (key : WorkloadKey)
  /-- In `new_pool_conn`. -/
  | connecting (key : WorkloadKey)
  /-- In `maybe_checkin_conn`, before the counter is read. -/
  | checkingIn (key : WorkloadKey) (conn : ℕ)
  /-- In `maybe_checkin_conn`, before the connection is put into the pool. -/
  | putting (key : WorkloadKey) (conn : ℕ)
  /-- Before the lock is dropped; the connection was put into the pool or not. -/
  | returning (key : WorkloadKey) (conn : ℕ) (put : Bool)
  /-- `connect` has returned, before `send_request`. -/
  | connected (key : WorkloadKey) (conn : ℕ)
deriving DecidableEq, Repr

/-- The hash whose lock is held in a phase. -/
def Phase.holds (hash : WorkloadKey → UInt64) : Phase → Option UInt64
  | .holding key | .connecting key | .checkingIn key _ | .putting key _ | .returning key _ _ =>
    some (hash key)
  | _ => none

/-- The hash whose lock is held or waited for in a phase. -/
def Phase.wants (hash : WorkloadKey → UInt64) : Phase → Option UInt64
  | .awaitLock key => some (hash key)
  | phase => phase.holds hash

/-- A clone of the pool. -/
structure Client where
  /-- The notifications that `pool_watcher` has seen. -/
  seen : ℕ
  phase : Phase
deriving DecidableEq, Repr

/-- What a client does next. -/
inductive ClientEvent where
  | connect (key : WorkloadKey)
  | lookup
  /-- The future of `lock().await` is polled. -/
  | acquire
  | tryInsert
  | tryLock
  /-- `guarded_get`, with what the pool gives out and whether that is ready to use. -/
  | get (conn : Option ℕ) (ready : Bool)
  /-- `new_pool_conn` returns an error, or a connection with the limit of the peer. -/
  | spawned (peer : Option ℕ)
  | check
  | put
  | release
  | changed
  | send
  /-- The future is dropped at an await. -/
  | cancel
deriving DecidableEq, Repr

variable (cfg : Config)

/-- One event of the client `i`. -/
def clientStep (s : PoolState) (i : ℕ) (client : Client) (event : ClientEvent) :
    Option (PoolState × Client) :=
  let goto (phase : Phase) : Client := { client with phase := phase }
  match client.phase, event with
  | .idle, .connect key => some (s, goto (.checkout false key))
  | .checkout woken key, .lookup =>
    match s.writelock (cfg.hash key) with
    | some _ => some (s, goto (.awaitLock key))
    | none => some (s, goto (if woken then .waiting key else .inserting key))
  | .awaitLock key, .acquire =>
    match s.writelock (cfg.hash key) with
    | some line =>
      if i ∈ line then
        if line.head? = some i then some (s, goto (.holding key)) else none
      else some (s.join (cfg.hash key) i, goto (if line = [] then .holding key else .awaitLock key))
    | none => none
  | .inserting key, .tryInsert =>
    some ({ s with writelock := s.writelock.insert (cfg.hash key) }, goto (.trying key))
  | .trying key, .tryLock =>
    match s.writelock (cfg.hash key) with
    | some [] => some (s.join (cfg.hash key) i, goto (.connecting key))
    | some (_ :: _) => some (s, goto (.waiting key))
    | none => none
  | .holding key, .get none _ =>
    if s.connectedPool.all (·.1 ≠ cfg.hash key) then some (s, goto (.connecting key)) else none
  | .holding key, .get (some n) ready =>
    if (cfg.hash key, n) ∈ s.connectedPool then
      s.conns[n]?.map fun conn ↦
        match conn.isForWorkload key with
        | .error _ => ((s.take (cfg.hash key) n).release (cfg.hash key) i, goto .idle)
        | .ok () =>
          -- a connection that is not ready is dropped, and the loop goes on
          (s.take (cfg.hash key) n, goto (if ready then .checkingIn key n else .holding key))
    else none
  | .connecting key, .spawned none => some (s.release (cfg.hash key) i, goto .idle)
  | .connecting key, .spawned (some peer) =>
    some ({ s with conns := s.conns ++ [⟨key, cfg.maxAllowedStreams peer, 0⟩] },
      goto (.checkingIn key s.conns.length))
  | .checkingIn key n, .check =>
    s.conns[n]?.map fun conn ↦
      (s, goto (if conn.willBeAtMaxStreamcount then .returning key n false else .putting key n))
  | .putting key n, .put =>
    some ({ s with
      connectedPool := s.connectedPool ++ [(cfg.hash key, n)]
      notified := s.notified + 1 }, goto (.returning key n true))
  | .returning key n _, .release => some (s.release (cfg.hash key) i, goto (.connected key n))
  | .waiting key, .changed =>
    if client.seen ≠ s.notified then
      some (s, { seen := s.notified, phase := .checkout true key })
    else none
  | .connected key n, .send =>
    some ({ s.fetchAdd n with streams := s.streams ++ [⟨key, n, .requested⟩] }, goto .idle)
  -- a lock that has been handed over is given back
  | .awaitLock key, .cancel => some (s.release (cfg.hash key) i, goto .idle)
  | .waiting _, .cancel => some (s, goto .idle)
  | .connecting key, .cancel => some (s.release (cfg.hash key) i, goto .idle)
  | _, _ => none

/-! ### The pool -/

/-- The pool, with its clones. -/
structure WorkloadHBONEPool where
  state : PoolState
  clients : List Client

/-- What happens to the pool. -/
inductive Event where
  | client (i : ℕ) (event : ClientEvent)
  /-- The pool is cloned, with what its receiver has seen. -/
  | clone (i : ℕ)
  /-- A request gets a response, which opens a stream, or fails or is cancelled. -/
  | respond (j : ℕ) (ok : Bool)
  /-- One half of a stream is dropped: the read half or the write half. -/
  | dropHalf (j : ℕ) (read : Bool)
  /-- Both halves of a stream are dropped. -/
  | dropStream (j : ℕ)
  /-- The inner pool drops a connection that is idle or of which it has too many. -/
  | evict (h : UInt64) (n : ℕ)
deriving DecidableEq, Repr

/-- `WorkloadHBONEPool::new`. -/
def new : WorkloadHBONEPool := ⟨⟨fun _ ↦ none, [], 0, [], []⟩, [⟨0, .idle⟩]⟩

/-- The state of a stream is set. -/
def PoolState.setStream (s : PoolState) (j : ℕ) (stream : H2Stream) (state : StreamState) :
    PoolState :=
  { s with streams := s.streams.set j { stream with state := state } }

/-- `DropCounter::drop` for one half: the counter goes down if the other half still holds its
guard. -/
def dropHalf (s : PoolState) (j : ℕ) (stream : H2Stream) (read : Bool) : Option PoolState :=
  match stream.state, read with
  | .opened true true, true =>
    some ((s.fetchSub stream.conn).setStream j stream (.opened false true))
  | .opened true true, false =>
    some ((s.fetchSub stream.conn).setStream j stream (.opened true false))
  | .opened true false, true => some (s.setStream j stream (.opened false false))
  | .opened false true, false => some (s.setStream j stream (.opened false false))
  | _, _ => none

/-- One event of the pool. -/
def step (p : WorkloadHBONEPool) : Event → Option WorkloadHBONEPool
  | .client i event =>
    p.clients[i]?.bind fun client ↦
      (clientStep cfg p.state i client event).map fun moved ↦
        { state := moved.1, clients := p.clients.set i moved.2 }
  | .clone i =>
    p.clients[i]?.map fun client ↦ { p with clients := p.clients ++ [⟨client.seen, .idle⟩] }
  | .respond j ok =>
    p.state.streams[j]?.bind fun stream ↦
      if stream.state = .requested then
        some { p with state :=
          if ok then p.state.setStream j stream (.opened true true)
          else (p.state.fetchSub stream.conn).setStream j stream (.opened false false) }
      else none
  | .dropHalf j read =>
    p.state.streams[j]?.bind fun stream ↦
      (dropHalf p.state j stream read).map fun s ↦ { p with state := s }
  | .dropStream j =>
    p.state.streams[j]?.bind fun stream ↦
      if stream.state = .opened true true then
        some { p with state :=
          (p.state.fetchSub stream.conn).setStream j stream (.opened false false) }
      else none
  | .evict h n => some { p with state := p.state.take h n }

/-! ### What a client can do -/

/-- The transitions of a client, by where it is and what it finds. -/
inductive Moved (s : PoolState) (i : ℕ) (c : Client) : ClientEvent → PoolState → Client → Prop
  | connect (key : WorkloadKey) (hphase : c.phase = .idle) :
    Moved s i c (.connect key) s ⟨c.seen, .checkout false key⟩
  | found (woken : Bool) (key : WorkloadKey) (hphase : c.phase = .checkout woken key)
    (hlock : (s.writelock (cfg.hash key)).isSome) :
    Moved s i c .lookup s ⟨c.seen, .awaitLock key⟩
  | absent (key : WorkloadKey) (hphase : c.phase = .checkout false key)
    (hlock : s.writelock (cfg.hash key) = none) :
    Moved s i c .lookup s ⟨c.seen, .inserting key⟩
  | absentAgain (key : WorkloadKey) (hphase : c.phase = .checkout true key)
    (hlock : s.writelock (cfg.hash key) = none) :
    Moved s i c .lookup s ⟨c.seen, .waiting key⟩
  | acquire (key : WorkloadKey) (hphase : c.phase = .awaitLock key)
    (hline : s.writelock.line (cfg.hash key) = []) :
    Moved s i c .acquire (s.join (cfg.hash key) i) ⟨c.seen, .holding key⟩
  | queue (key : WorkloadKey) (hphase : c.phase = .awaitLock key)
    (hline : i ∉ s.writelock.line (cfg.hash key)) :
    Moved s i c .acquire (s.join (cfg.hash key) i) ⟨c.seen, .awaitLock key⟩
  | granted (key : WorkloadKey) (hphase : c.phase = .awaitLock key)
    (howner : s.writelock.owner (cfg.hash key) = some i) :
    Moved s i c .acquire s ⟨c.seen, .holding key⟩
  | insert (key : WorkloadKey) (hphase : c.phase = .inserting key) :
    Moved s i c .tryInsert { s with writelock := s.writelock.insert (cfg.hash key) }
      ⟨c.seen, .trying key⟩
  | win (key : WorkloadKey) (hphase : c.phase = .trying key)
    (hline : s.writelock.line (cfg.hash key) = []) :
    Moved s i c .tryLock (s.join (cfg.hash key) i) ⟨c.seen, .connecting key⟩
  | lose (key : WorkloadKey) (hphase : c.phase = .trying key)
    (hline : s.writelock.line (cfg.hash key) ≠ []) :
    Moved s i c .tryLock s ⟨c.seen, .waiting key⟩
  | empty (key : WorkloadKey) (ready : Bool) (hphase : c.phase = .holding key) :
    Moved s i c (.get none ready) s ⟨c.seen, .connecting key⟩
  | mismatch (key : WorkloadKey) (n : ℕ) (ready : Bool) (conn : H2ConnectClient)
    (hphase : c.phase = .holding key) (hconn : s.conns[n]? = some conn) (hkey : conn.wlKey ≠ key) :
    Moved s i c (.get (some n) ready) ((s.take (cfg.hash key) n).release (cfg.hash key) i)
      ⟨c.seen, .idle⟩
  | broken (key : WorkloadKey) (n : ℕ) (hphase : c.phase = .holding key) :
    Moved s i c (.get (some n) false) (s.take (cfg.hash key) n) ⟨c.seen, .holding key⟩
  | reuse (key : WorkloadKey) (n : ℕ) (conn : H2ConnectClient) (hphase : c.phase = .holding key)
    (hpooled : (cfg.hash key, n) ∈ s.connectedPool) (hconn : s.conns[n]? = some conn)
    (hkey : conn.wlKey = key) :
    Moved s i c (.get (some n) true) (s.take (cfg.hash key) n) ⟨c.seen, .checkingIn key n⟩
  | refused (key : WorkloadKey) (hphase : c.phase = .connecting key) :
    Moved s i c (.spawned none) (s.release (cfg.hash key) i) ⟨c.seen, .idle⟩
  | spawned (key : WorkloadKey) (peer : ℕ) (hphase : c.phase = .connecting key) :
    Moved s i c (.spawned (some peer))
      { s with conns := s.conns ++ [⟨key, cfg.maxAllowedStreams peer, 0⟩] }
      ⟨c.seen, .checkingIn key s.conns.length⟩
  | full (key : WorkloadKey) (n : ℕ) (hphase : c.phase = .checkingIn key n) :
    Moved s i c .check s ⟨c.seen, .returning key n false⟩
  | room (key : WorkloadKey) (n : ℕ) (conn : H2ConnectClient)
    (hphase : c.phase = .checkingIn key n) (hconn : s.conns[n]? = some conn)
    (hroom : conn.willBeAtMaxStreamcount = false) :
    Moved s i c .check s ⟨c.seen, .putting key n⟩
  | put (key : WorkloadKey) (n : ℕ) (hphase : c.phase = .putting key n) :
    Moved s i c .put
      { s with
        connectedPool := s.connectedPool ++ [(cfg.hash key, n)]
        notified := s.notified + 1 }
      ⟨c.seen, .returning key n true⟩
  | release (key : WorkloadKey) (n : ℕ) (put : Bool) (hphase : c.phase = .returning key n put) :
    Moved s i c .release (s.release (cfg.hash key) i) ⟨c.seen, .connected key n⟩
  | changed (key : WorkloadKey) (hphase : c.phase = .waiting key) (hseen : c.seen ≠ s.notified) :
    Moved s i c .changed s ⟨s.notified, .checkout true key⟩
  | send (key : WorkloadKey) (n : ℕ) (hphase : c.phase = .connected key n) :
    Moved s i c .send { s.fetchAdd n with streams := s.streams ++ [⟨key, n, .requested⟩] }
      ⟨c.seen, .idle⟩
  | giveUp (key : WorkloadKey) (hphase : c.phase = .awaitLock key) :
    Moved s i c .cancel (s.release (cfg.hash key) i) ⟨c.seen, .idle⟩
  | leave (key : WorkloadKey) (hphase : c.phase = .waiting key) :
    Moved s i c .cancel s ⟨c.seen, .idle⟩
  | abort (key : WorkloadKey) (hphase : c.phase = .connecting key) :
    Moved s i c .cancel (s.release (cfg.hash key) i) ⟨c.seen, .idle⟩

variable {cfg} {s s' : PoolState} {i : ℕ} {c c' : Client} {event : ClientEvent}

theorem moved_of_clientStep (h : clientStep cfg s i c event = some (s', c')) :
    Moved cfg s i c event s' c' := by
  unfold clientStep at h
  dsimp only at h
  split at h
  · next key hphase =>
    cases h
    exact .connect key hphase
  · next woken key hphase =>
    split at h
    · next hlock =>
      cases h
      exact .found woken key hphase (hlock ▸ rfl)
    · next hlock =>
      cases h
      cases woken with
      | true => exact .absentAgain key hphase hlock
      | false => exact .absent key hphase hlock
  · next key hphase =>
    split at h
    · next line hlock =>
      obtain rfl : s.writelock.line (cfg.hash key) = line := congrArg (·.getD []) hlock
      split_ifs at h with hmem hhead hempty <;> cases h
      · exact .granted key hphase hhead
      · exact .acquire key hphase hempty
      · exact .queue key hphase hmem
    · cases h
  · next key hphase =>
    cases h
    exact .insert key hphase
  · next key hphase =>
    split at h
    · next hlock =>
      cases h
      exact .win key hphase (congrArg (·.getD []) hlock)
    · next owner line hlock =>
      cases h
      refine .lose key hphase ?_
      rw [LockMap.line, hlock]
      exact List.cons_ne_nil owner line
    · cases h
  · next key ready hphase =>
    split at h
    · cases h
      exact .empty key ready hphase
    · cases h
  · next key n ready hphase =>
    split at h
    · next hpooled =>
      obtain ⟨conn, hconn, hmoved⟩ := Option.map_eq_some_iff.1 h
      unfold H2ConnectClient.isForWorkload at hmoved
      by_cases hkey : conn.wlKey = key
      · rw [if_pos hkey] at hmoved
        cases hmoved
        cases ready with
        | true => exact .reuse key n conn hphase hpooled hconn hkey
        | false => exact .broken key n hphase
      · rw [if_neg hkey] at hmoved
        cases hmoved
        exact .mismatch key n ready conn hphase hconn hkey
    · cases h
  · next key hphase =>
    cases h
    exact .refused key hphase
  · next key peer hphase =>
    cases h
    exact .spawned key peer hphase
  · next key n hphase =>
    obtain ⟨conn, hconn, hmoved⟩ := Option.map_eq_some_iff.1 h
    cases hmoved
    cases hroom : conn.willBeAtMaxStreamcount with
    | true => exact .full key n hphase
    | false => exact .room key n conn hphase hconn hroom
  · next key n hphase =>
    cases h
    exact .put key n hphase
  · next key n put hphase =>
    cases h
    exact .release key n put hphase
  · next key hphase =>
    split at h
    · next hseen =>
      cases h
      exact .changed key hphase hseen
    · cases h
  · next key n hphase =>
    cases h
    exact .send key n hphase
  · next key hphase =>
    cases h
    exact .giveUp key hphase
  · next key hphase =>
    cases h
    exact .leave key hphase
  · next key hphase =>
    cases h
    exact .abort key hphase
  · cases h

/-- The transitions of requests, streams and the inner pool. -/
inductive Passed (s : PoolState) : Event → PoolState → Prop
  | opened (j : ℕ) (stream : H2Stream) (hstream : s.streams[j]? = some stream)
    (hstate : stream.state = .requested) :
    Passed s (.respond j true) (s.setStream j stream (.opened true true))
  | failed (j : ℕ) (stream : H2Stream) (hstream : s.streams[j]? = some stream)
    (hstate : stream.state = .requested) :
    Passed s (.respond j false) ((s.fetchSub stream.conn).setStream j stream (.opened false false))
  | firstHalf (j : ℕ) (stream : H2Stream) (read : Bool) (hstream : s.streams[j]? = some stream)
    (hstate : stream.state = .opened true true) :
    Passed s (.dropHalf j read)
      ((s.fetchSub stream.conn).setStream j stream (.opened (!read) read))
  | secondHalf (j : ℕ) (stream : H2Stream) (read : Bool) (hstream : s.streams[j]? = some stream)
    (hstate : stream.state = .opened read (!read)) :
    Passed s (.dropHalf j read) (s.setStream j stream (.opened false false))
  | dropped (j : ℕ) (stream : H2Stream) (hstream : s.streams[j]? = some stream)
    (hstate : stream.state = .opened true true) :
    Passed s (.dropStream j) ((s.fetchSub stream.conn).setStream j stream (.opened false false))
  | evicted (h : UInt64) (n : ℕ) : Passed s (.evict h n) (s.take h n)

variable {p p' : WorkloadHBONEPool} {event : Event}

theorem passed_of_dropHalf {j : ℕ} {stream : H2Stream} {read : Bool}
    (hstream : s.streams[j]? = some stream) (h : dropHalf s j stream read = some s') :
    Passed s (.dropHalf j read) s' := by
  unfold dropHalf at h
  split at h
  · next hstate =>
    cases h
    exact .firstHalf j stream true hstream hstate
  · next hstate =>
    cases h
    exact .firstHalf j stream false hstream hstate
  · next hstate =>
    cases h
    exact .secondHalf j stream true hstream hstate
  · next hstate =>
    cases h
    exact .secondHalf j stream false hstream hstate
  · cases h

theorem eq_of_getElem?_new (h : new.clients[i]? = some c) : c = ⟨0, .idle⟩ :=
  List.mem_singleton.1 (List.mem_of_getElem? h)

/-- What an event can do: a client moves, the pool is cloned, or a stream goes on. -/
theorem step_cases (h : step cfg p event = some p') :
    (∃ i e c s' c', event = .client i e ∧ p.clients[i]? = some c ∧
      Moved cfg p.state i c e s' c' ∧ p' = ⟨s', p.clients.set i c'⟩) ∨
    (∃ i c, event = .clone i ∧ p.clients[i]? = some c ∧
      p' = { p with clients := p.clients ++ [⟨c.seen, .idle⟩] }) ∨
    (∃ s', Passed p.state event s' ∧ p' = { p with state := s' }) := by
  cases event with
  | client i e =>
    obtain ⟨c, hc, hmap⟩ := Option.bind_eq_some_iff.1 h
    obtain ⟨⟨s', c'⟩, hmoved, rfl⟩ := Option.map_eq_some_iff.1 hmap
    exact .inl ⟨i, e, c, s', c', rfl, hc, moved_of_clientStep hmoved, rfl⟩
  | clone i =>
    obtain ⟨c, hc, rfl⟩ := Option.map_eq_some_iff.1 h
    exact .inr (.inl ⟨i, c, rfl, hc, rfl⟩)
  | respond j ok =>
    obtain ⟨stream, hstream, hif⟩ := Option.bind_eq_some_iff.1 h
    split at hif
    · next hstate =>
      cases hif
      cases ok with
      | true => exact .inr (.inr ⟨_, .opened j stream hstream hstate, rfl⟩)
      | false => exact .inr (.inr ⟨_, .failed j stream hstream hstate, rfl⟩)
    · cases hif
  | dropHalf j read =>
    obtain ⟨stream, hstream, hmap⟩ := Option.bind_eq_some_iff.1 h
    obtain ⟨s', hs', rfl⟩ := Option.map_eq_some_iff.1 hmap
    exact .inr (.inr ⟨s', passed_of_dropHalf hstream hs', rfl⟩)
  | dropStream j =>
    obtain ⟨stream, hstream, hif⟩ := Option.bind_eq_some_iff.1 h
    split at hif
    · next hstate =>
      cases hif
      exact .inr (.inr ⟨_, .dropped j stream hstream hstate, rfl⟩)
    · cases hif
  | evict k n =>
    cases h
    exact .inr (.inr ⟨_, .evicted k n, rfl⟩)

end Ztunnel.Proxy.Pool
