import Ztunnel.Proxy.Pool

/-!
# Who shares a pooled connection, and how many

Isolation holds whatever the hash does. A connection leaves the pool only through `guarded_get`,
which compares the whole key, and a new one is opened for the key of its client; so every connection
that `connect` returns was opened for the key it was asked for (`pool_isolated`).

The limit on streams is not kept. `maybe_checkin_conn` checks the counter, but the counter goes up
only later, in `send_request`, and in between the connection is back in the pool: clients that check
it out one after the other all find room, and then all send (`stream_limit_exceeded`). Besides,
`DropCounter` lowers the counter when the first half of a stream is dropped and not the second. The
limit holds if a connection is given out again only while there is room for one more beside the
streams in progress and the clients that have yet to send, both halves of a stream are dropped
together, and a connection allows at least one stream (`stream_limit_kept`).
-/

namespace Ztunnel.Proxy.Pool

open Ztunnel.Rbac Transition

variable {cfg : Config} {s s' : PoolState} {p p' : WorkloadHBONEPool} {i : ℕ} {c c' : Client}
  {e : ClientEvent} {event : Event}

/-! ### The key of a connection -/

/-- The key a connection was opened for. -/
def PoolState.connKey (s : PoolState) (n : ℕ) : Option WorkloadKey :=
  s.conns[n]?.map H2ConnectClient.wlKey

theorem connKey_fetchAdd (s : PoolState) (n m : ℕ) : (s.fetchAdd n).connKey m = s.connKey m := by
  rw [PoolState.connKey, PoolState.fetchAdd, List.getElem?_modify, PoolState.connKey]
  cases s.conns[m]? with
  | none => rfl
  | some conn => by_cases h : n = m <;> simp [h]

theorem connKey_fetchSub (s : PoolState) (n m : ℕ) : (s.fetchSub n).connKey m = s.connKey m := by
  rw [PoolState.connKey, PoolState.fetchSub, List.getElem?_modify, PoolState.connKey]
  cases s.conns[m]? with
  | none => rfl
  | some conn => by_cases h : n = m <;> simp [h]

theorem Moved.connKey (h : Moved cfg s i c e s' c') {n : ℕ} {key : WorkloadKey}
    (hkey : s.connKey n = some key) : s'.connKey n = some key := by
  cases h with
  | spawned k peer hphase =>
    obtain ⟨conn, hconn, rfl⟩ := Option.map_eq_some_iff.1 hkey
    refine Option.map_eq_some_iff.2 ⟨conn, ?_, rfl⟩
    exact (List.getElem?_append_left (List.getElem?_eq_some_iff.1 hconn).1).trans hconn
  | send k m hphase => exact (connKey_fetchAdd s m n).trans hkey
  | connect | found | absent | absentAgain | acquire | queue | granted | insert | win | lose |
    empty | mismatch | broken | reuse | refused | full | room | put | release | changed | giveUp |
    leave | abort => exact hkey

theorem Passed.connKey (h : Passed s event s') (n : ℕ) : s'.connKey n = s.connKey n := by
  cases h with
  | opened | secondHalf | evicted => rfl
  | failed | firstHalf | dropped => exact connKey_fetchSub s _ n

/-- The connection that a client has, and the key it asked for. -/
def Phase.conn : Phase → Option (WorkloadKey × ℕ)
  | .checkingIn key n | .putting key n | .returning key n _ | .connected key n => some (key, n)
  | _ => none

/-- A client comes by a connection of the key it asked for. -/
theorem Moved.conn (h : Moved cfg s i c e s' c')
    (hc : ∀ key n, c.phase.conn = some (key, n) → s.connKey n = some key) :
    ∀ key n, c'.phase.conn = some (key, n) → s'.connKey n = some key := by
  intro key n hconn
  cases h with
  | connect | found | absent | absentAgain | acquire | queue | granted | insert | win | lose |
    empty | mismatch | broken | refused | changed | send | giveUp | leave | abort => cases hconn
  | reuse k m conn hphase hpooled hm hkey =>
    cases hconn
    exact Option.map_eq_some_iff.2 ⟨conn, hm, hkey⟩
  | spawned k peer hphase =>
    cases hconn
    show Option.map _ (s.conns ++ _)[s.conns.length]? = _
    rw [List.getElem?_concat_length, Option.map_some]
  | full k m hphase | room k m conn hphase | put k m hphase | release k m put hphase =>
    exact hc key n (hphase ▸ hconn)

theorem Moved.streams (h : Moved cfg s i c e s' c') :
    s'.streams = s.streams ∨
      ∃ key n, c.phase.conn = some (key, n) ∧ s'.streams = s.streams ++ [⟨key, n, .requested⟩] := by
  cases h with
  | send key n hphase => exact .inr ⟨key, n, hphase ▸ rfl, rfl⟩
  | connect | found | absent | absentAgain | acquire | queue | granted | insert | win | lose |
    empty | mismatch | broken | reuse | refused | spawned | full | room | put | release | changed |
    giveUp | leave | abort => exact .inl rfl

theorem Passed.streams (h : Passed s event s') {stream : H2Stream} (hmem : stream ∈ s'.streams) :
    ∃ old ∈ s.streams, old.key = stream.key ∧ old.conn = stream.conn := by
  have hset : ∀ j old state, s.streams[j]? = some old →
      stream ∈ s.streams.set j { old with state := state } →
      ∃ old ∈ s.streams, old.key = stream.key ∧ old.conn = stream.conn := by
    intro j old state hold hmem
    obtain hmem | rfl := List.mem_or_eq_of_mem_set hmem
    · exact ⟨stream, hmem, rfl, rfl⟩
    · exact ⟨old, List.mem_of_getElem? hold, rfl, rfl⟩
  cases h with
  | evicted h n => exact ⟨stream, hmem, rfl, rfl⟩
  | opened j old hold | failed j old hold | dropped j old hold => exact hset j old _ hold hmem
  | firstHalf j old read hold | secondHalf j old read hold => exact hset j old _ hold hmem

/-- Clients and streams are on connections of their keys. -/
structure Keyed (p : WorkloadHBONEPool) : Prop where
  clients : ∀ (i : ℕ) (c : Client), p.clients[i]? = some c →
    ∀ key n, c.phase.conn = some (key, n) → p.state.connKey n = some key
  streams : ∀ stream ∈ p.state.streams, p.state.connKey stream.conn = some stream.key

theorem Keyed.init : Keyed new where
  clients i c hc key n hconn := by
    rw [eq_of_getElem?_new hc] at hconn
    cases hconn
  streams stream hmem := by cases hmem

theorem Keyed.step (h : step cfg p event = some p') (hp : Keyed p) : Keyed p' := by
  obtain ⟨i, e, c, s', c', -, hc, hmoved, rfl⟩ | ⟨i, c, -, hc, rfl⟩ | ⟨s', hpassed, rfl⟩ :=
    step_cases h
  · refine ⟨?_, ?_⟩
    · refine List.forall_getElem?_set ?_ (hmoved.conn (hp.clients i c hc))
      intro j d hd _ key n hconn
      exact hmoved.connKey (hp.clients j d hd key n hconn)
    · intro stream hmem
      obtain heq | ⟨key, n, hconn, heq⟩ := hmoved.streams
      · exact hmoved.connKey (hp.streams stream (heq ▸ hmem))
      · rw [heq] at hmem
        obtain hmem | hmem := List.mem_append.1 hmem
        · exact hmoved.connKey (hp.streams stream hmem)
        · obtain rfl := List.mem_singleton.1 hmem
          exact hmoved.connKey (hp.clients i c hc key n hconn)
  · refine ⟨?_, hp.streams⟩
    exact List.forall_getElem?_concat hp.clients fun key n hconn ↦ nomatch hconn
  · refine ⟨?_, ?_⟩
    · intro j d hd key n hconn
      rw [hpassed.connKey]
      exact hp.clients j d hd key n hconn
    · intro stream hmem
      obtain ⟨old, hold, hkey, hconn⟩ := hpassed.streams hmem
      rw [hpassed.connKey, ← hkey, ← hconn]
      exact hp.streams old hold

/-- **The pool isolates its keys**, for any hash: a connection that `connect` returns was opened for
the key it was asked for, and streams that share a connection have the same key. -/
theorem pool_isolated {events : List Event} (hrun : run (step cfg) new events = some p) :
    (∀ (i : ℕ) (c : Client) key n, p.clients[i]? = some c → c.phase = .connected key n →
      p.state.connKey n = some key) ∧
    (∀ stream ∈ p.state.streams, ∀ stream' ∈ p.state.streams,
      stream.conn = stream'.conn → stream.key = stream'.key) := by
  have hkeyed : Keyed p :=
    run_induction hrun Keyed.init fun _ _ _ _ hp hstep ↦ hp.step hstep
  refine ⟨fun i c key n hc hphase ↦ hkeyed.clients i c hc key n (hphase ▸ rfl), ?_⟩
  intro stream hmem stream' hmem' hconn
  have hkey := hkeyed.streams stream hmem
  rw [hconn, hkeyed.streams stream' hmem'] at hkey
  exact (Option.some.inj hkey).symm

/-- A key of the examples below, by its Sandbox. -/
def sampleKey (sandboxId : Option String) : WorkloadKey :=
  ⟨⟨"cluster.local", "ns", "client"⟩, [⟨"cluster.local", "ns", "server"⟩], sandboxId,
    ⟨.v4 0x0a000002, 15008⟩, .v4 0x0a000001⟩

/-- A pool in which all keys collide, with the given limit. -/
def collidingConfig (limit : ℕ) (h : limit ≤ 65535) : Config := ⟨fun _ ↦ 0, limit, h⟩

/-- Events of one client. -/
def byClient (i : ℕ) (es : List ClientEvent) : List Event := es.map (.client i)

/-- A client connects, another one with a colliding key is first given the pooled connection, which
is refused, and then opens its own. -/
def collidingRun : List Event :=
  .clone 0 :: byClient 0 [.connect (sampleKey none), .lookup, .tryInsert, .tryLock,
    .spawned (some 100), .check, .put, .release, .send] ++
  byClient 1 [.connect (sampleKey (some "box")), .lookup, .acquire, .get (some 0) true,
    .connect (sampleKey (some "box")), .lookup, .acquire, .get none true, .spawned (some 100),
    .check, .put, .release]

theorem pool_isolated_collidingRun :
    ∃ p, run (step (collidingConfig 100 (by decide))) new collidingRun = some p ∧
      p.clients[1]? = some ⟨0, .connected (sampleKey (some "box")) 1⟩ ∧
      p.state.connKey 1 = some (sampleKey (some "box")) := by
  exact exists_run (fun p ↦ p.clients[1]? =
    some ⟨0, .connected (sampleKey (some "box")) 1⟩) (by decide) fun p hp hc ↦
      ⟨hc, (pool_isolated hp).1 1 _ _ _ hc rfl⟩

/-! ### The stream limit -/

/-- The phase has the connection, and has yet to send on it. -/
def Phase.has (phase : Phase) (n : ℕ) : Bool := phase.conn.any (·.2 = n)

/-- The clients that have the connection, and have yet to send on it. -/
def holders (clients : List Client) (n : ℕ) : ℕ := clients.countP fun c ↦ c.phase.has n

/-- The event gives a connection out only if it has room for one more beside the streams in progress
and the clients that have yet to send, does not drop one half of a stream alone, and does not open a
connection that allows no stream. -/
def keepsLimit (cfg : Config) (p : WorkloadHBONEPool) : Event → Bool
  | .client _ (.get (some n) _) => p.state.conns[n]?.all fun conn ↦
    p.state.inProgress n + holders p.clients n < conn.maxAllowedStreams
  | .client _ (.spawned (some peer)) => 0 < cfg.maxAllowedStreams peer
  | .dropHalf _ _ => false
  | _ => true

/-- The account of one connection: it has room for the streams in progress and for the clients that
have yet to send on it. -/
structure Account (conn : Option H2ConnectClient) (held inProgress : ℕ) : Prop where
  unopened : conn = none → held = 0 ∧ inProgress = 0
  max_le : ∀ conn', conn = some conn' → conn'.maxAllowedStreams ≤ 65535
  counted : ∀ conn', conn = some conn' → conn'.streamCount = inProgress
  budget : ∀ conn', conn = some conn' → inProgress + held ≤ conn'.maxAllowedStreams

/-- The account of a connection in a pool. -/
def accountOf (s : PoolState) (clients : List Client) (n : ℕ) : Prop :=
  Account s.conns[n]? (holders clients n) (s.inProgress n)

/-- What a client's event does to the account of a connection. -/
inductive Effect (cfg : Config) (s s' : PoolState) (c c' : Client) (n : ℕ) : ClientEvent → Prop
  /-- Nothing, or the connection is let go. -/
  | neutral (e : ClientEvent) (hconn : s'.conns[n]? = s.conns[n]?)
    (hprogress : s'.inProgress n = s.inProgress n)
    (hhas : c'.phase.has n = true → c.phase.has n = true) : Effect cfg s s' c c' n e
  /-- It is checked out of the pool. -/
  | reuse (conn : H2ConnectClient) (hold : s.conns[n]? = some conn)
    (hconn : s'.conns[n]? = s.conns[n]?) (hprogress : s'.inProgress n = s.inProgress n) :
    Effect cfg s s' c c' n (.get (some n) true)
  /-- It is opened. -/
  | spawned (key : WorkloadKey) (peer : ℕ) (hold : s.conns[n]? = none)
    (hconn : s'.conns[n]? = some ⟨key, cfg.maxAllowedStreams peer, 0⟩)
    (hprogress : s'.inProgress n = s.inProgress n) : Effect cfg s s' c c' n (.spawned (some peer))
  /-- A request is sent on it. -/
  | send (hconn : s'.conns[n]? = s.conns[n]?.map fun conn ↦
      { conn with streamCount := (conn.streamCount + 1) % 65536 })
    (hprogress : s'.inProgress n = s.inProgress n + 1) (hhad : c.phase.has n = true)
    (hhas : c'.phase.has n = false) : Effect cfg s s' c c' n .send

theorem inProgress_append (s : PoolState) (stream : H2Stream) (n : ℕ) :
    ({ s with streams := s.streams ++ [stream] } : PoolState).inProgress n =
      s.inProgress n + if stream.conn = n && stream.state.inProgress then 1 else 0 := by
  rw [PoolState.inProgress, List.countP_append, List.countP_singleton]
  rfl

theorem getElem?_concat_of_ne {conns : List H2ConnectClient} (conn : H2ConnectClient) {n : ℕ}
    (h : conns.length ≠ n) : (conns ++ [conn])[n]? = conns[n]? := by
  rcases Nat.lt_or_gt_of_ne h with hlt | hgt
  · rw [List.getElem?_eq_none (Nat.le_of_lt hlt), List.getElem?_eq_none (by simp; omega)]
  · rw [List.getElem?_append_left hgt]

theorem Moved.effect (hmoved : Moved cfg s i c e s' c') (n : ℕ) : Effect cfg s s' c c' n e := by
  cases hmoved with
  | connect | found | absent | absentAgain | acquire | queue | granted | insert | win | lose |
    empty | mismatch | broken | refused | changed | giveUp | leave | abort =>
    exact .neutral _ rfl rfl fun h ↦ nomatch h
  | full key m hphase | room key m conn hphase | put key m hphase | release key m put hphase =>
    refine .neutral _ rfl rfl ?_
    simp [Phase.has, Phase.conn, hphase]
  | reuse key m conn hphase hpooled hconn hkey =>
    by_cases hm : m = n
    · subst hm
      exact .reuse conn hconn rfl rfl
    · refine .neutral _ rfl rfl ?_
      simp [Phase.has, Phase.conn, hm]
  | spawned key peer hphase =>
    by_cases hm : s.conns.length = n
    · subst hm
      exact .spawned key peer (List.getElem?_eq_none (Nat.le_refl _))
        List.getElem?_concat_length rfl
    · refine .neutral _ (getElem?_concat_of_ne _ hm) rfl ?_
      simp [Phase.has, Phase.conn, hm]
  | send key m hphase =>
    by_cases hm : m = n
    · subst hm
      refine .send ?_ ?_ ?_ rfl
      · simp [PoolState.fetchAdd]
      · exact (inProgress_append (s.fetchAdd m) ⟨key, m, .requested⟩ m).trans (by simp; rfl)
      · simp [Phase.has, Phase.conn, hphase]
    · refine .neutral _ ?_ ?_ fun h ↦ nomatch h
      · simp [PoolState.fetchAdd, hm]
      · exact (inProgress_append (s.fetchAdd m) ⟨key, m, .requested⟩ n).trans (by simp [hm]; rfl)

theorem Config.maxAllowedStreams_le (cfg : Config) (peer : ℕ) :
    cfg.maxAllowedStreams peer ≤ 65535 :=
  (Nat.min_le_left ..).trans cfg.poolMaxStreamsPerConn_le

namespace Account

variable {conn : Option H2ConnectClient} {held held' inProgress : ℕ}

theorem letGo (h : Account conn held inProgress) (hle : held' ≤ held) :
    Account conn held' inProgress where
  unopened hnone := by
    have := h.unopened hnone
    omega
  max_le := h.max_le
  counted := h.counted
  budget conn' hconn := by
    have := h.budget conn' hconn
    omega

theorem reuse {conn : H2ConnectClient} (h : Account (some conn) held inProgress)
    (hroom : inProgress + held < conn.maxAllowedStreams) (hle : held' ≤ held + 1) :
    Account (some conn) held' inProgress where
  unopened hnone := nomatch hnone
  max_le := h.max_le
  counted := h.counted
  budget := by
    rintro _ ⟨⟩
    omega

theorem spawned (h : Account none held inProgress) {new : H2ConnectClient}
    (hmax : new.maxAllowedStreams ≤ 65535) (hpos : 0 < new.maxAllowedStreams)
    (hzero : new.streamCount = 0) (hle : held' ≤ held + 1) :
    Account (some new) held' inProgress := by
  obtain ⟨hheld, hprogress⟩ := h.unopened rfl
  refine ⟨(fun hnone ↦ nomatch hnone), ?_, ?_, ?_⟩
  · rintro _ ⟨⟩
    exact hmax
  · rintro _ ⟨⟩
    exact hzero.trans hprogress.symm
  · rintro _ ⟨⟩
    omega

/-- The counter follows the number of streams in progress, within the limit. -/
theorem recount {inProgress' : ℕ} {f : ℕ → ℕ} (h : Account conn held inProgress)
    (hopen : 0 < inProgress + held) (hle : inProgress' + held' ≤ inProgress + held)
    (hf : inProgress + held ≤ 65535 → f inProgress = inProgress') :
    Account (conn.map fun conn ↦ { conn with streamCount := f conn.streamCount }) held'
      inProgress' := by
  cases conn with
  | none =>
    have := h.unopened rfl
    omega
  | some conn =>
    have hmax := h.max_le conn rfl
    have hbudget := h.budget conn rfl
    refine ⟨(fun hnone ↦ nomatch hnone), ?_, ?_, ?_⟩
    · rintro _ ⟨⟩
      exact hmax
    · rintro _ ⟨⟩
      show f conn.streamCount = inProgress'
      rw [h.counted conn rfl, hf (hbudget.trans hmax)]
    · rintro _ ⟨⟩
      exact hle.trans hbudget

/-- There is room for a request, so the counter does not wrap. -/
theorem send (h : Account conn held inProgress) (heq : held' + 1 = held) :
    Account (conn.map fun conn ↦ { conn with streamCount := (conn.streamCount + 1) % 65536 }) held'
      (inProgress + 1) :=
  h.recount (f := fun count ↦ (count + 1) % 65536) (by omega) (by omega) (by omega)

/-- A stream that ends is counted, so the counter is not zero. -/
theorem ended (h : Account conn held (inProgress + 1)) :
    Account (conn.map fun conn ↦ { conn with streamCount := (conn.streamCount + 65535) % 65536 })
      held inProgress :=
  h.recount (f := fun count ↦ (count + 65535) % 65536) (by omega) (by omega) (by omega)

end Account

/-- A client keeps the account of every connection. -/
theorem accountOf_moved {n : ℕ} (hc : p.clients[i]? = some c)
    (hmoved : Moved cfg p.state i c e s' c') (hok : keepsLimit cfg p (.client i e) = true)
    (hn : accountOf p.state p.clients n) : accountOf s' (p.clients.set i c') n := by
  have hset := List.countP_set_add hc (fun c ↦ c.phase.has n) c'
  have hone := Bool.toNat_le (c'.phase.has n)
  unfold accountOf holders at hn ⊢
  cases hmoved.effect n with
  | neutral _ hconn hprogress hhas =>
    have hle := Bool.toNat_le_toNat hhas
    rw [hconn, hprogress]
    exact hn.letGo (by omega)
  | reuse conn hold hconn hprogress =>
    rw [keepsLimit, hold, Option.all_some] at hok
    rw [hconn, hprogress, hold]
    rw [hold] at hn
    exact hn.reuse (of_decide_eq_true hok) (by omega)
  | spawned key peer hold hconn hprogress =>
    rw [hold] at hn
    rw [hconn, hprogress]
    exact hn.spawned (cfg.maxAllowedStreams_le peer) (of_decide_eq_true hok) rfl (by omega)
  | send hconn hprogress hhad hhas =>
    rw [hhad, hhas, Bool.toNat_true, Bool.toNat_false] at hset
    rw [hconn, hprogress]
    exact hn.send hset

/-- A client that has just been cloned has no connection. -/
theorem accountOf_clone {clients : List Client} {n : ℕ} (seen : ℕ) (hn : accountOf s clients n) :
    accountOf s (clients ++ [⟨seen, .idle⟩]) n := by
  rw [accountOf, holders, List.countP_append, List.countP_singleton]
  exact hn

theorem inProgress_setStream {j : ℕ} {stream : H2Stream} (hstream : s.streams[j]? = some stream)
    (state : StreamState) (n : ℕ) :
    (s.setStream j stream state).inProgress n +
        (decide (stream.conn = n) && stream.state.inProgress).toNat =
      s.inProgress n + (decide (stream.conn = n) && state.inProgress).toNat :=
  List.countP_set_add hstream _ _

theorem PoolState.fetchSub_self (s : PoolState) (n : ℕ) :
    (s.fetchSub n).conns[n]? = s.conns[n]?.map fun conn ↦
      { conn with streamCount := (conn.streamCount + 65535) % 65536 } :=
  List.getElem?_modify_eq ..

theorem PoolState.fetchSub_of_ne (s : PoolState) {m n : ℕ} (h : m ≠ n) :
    (s.fetchSub m).conns[n]? = s.conns[n]? :=
  List.getElem?_modify_ne _ _ h

/-- The end of a stream in progress keeps the account of every connection. -/
theorem accountOf_ended {clients : List Client} {j n : ℕ} {stream : H2Stream}
    (hstream : s.streams[j]? = some stream) (hprogress : stream.state.inProgress = true)
    (hn : accountOf s clients n) :
    accountOf ((s.fetchSub stream.conn).setStream j stream (.opened false false)) clients n := by
  have hcount := inProgress_setStream (s := s.fetchSub stream.conn) hstream (.opened false false) n
  have hsame : (s.fetchSub stream.conn).inProgress n = s.inProgress n := rfl
  have hclosed : (StreamState.opened false false).inProgress = false := rfl
  rw [hprogress, hsame, hclosed, Bool.and_true, Bool.and_false, Bool.toNat_false, Nat.add_zero]
    at hcount
  unfold accountOf at hn ⊢
  by_cases hconn : stream.conn = n
  · subst hconn
    rw [decide_eq_true rfl, Bool.toNat_true] at hcount
    rw [← hcount] at hn
    have hended := hn.ended
    rw [← s.fetchSub_self] at hended
    exact hended
  · rw [decide_eq_false hconn, Bool.toNat_false, Nat.add_zero] at hcount
    rw [← s.fetchSub_of_ne hconn, ← hcount] at hn
    exact hn

/-- What the streams do keeps the account of every connection. -/
theorem accountOf_passed {clients : List Client} {n : ℕ} (hpassed : Passed s event s')
    (hwhole : ∀ j read, event ≠ .dropHalf j read) (hn : accountOf s clients n) :
    accountOf s' clients n := by
  cases hpassed with
  | opened j stream hstream hstate =>
    have hcount := inProgress_setStream hstream (.opened true true) n
    have hopen : (StreamState.opened true true).inProgress =
        StreamState.requested.inProgress := rfl
    rw [hstate, hopen, Nat.add_right_cancel_iff] at hcount
    unfold accountOf at hn ⊢
    rw [hcount]
    exact hn
  | failed j stream hstream hstate | dropped j stream hstream hstate =>
    exact accountOf_ended hstream (hstate ▸ rfl) hn
  | firstHalf j stream read =>
    exact absurd rfl (hwhole j read)
  | secondHalf j stream read =>
    exact absurd rfl (hwhole j read)
  | evicted h m =>
    exact hn

theorem accountOf_step {n : ℕ} (hok : keepsLimit cfg p event = true)
    (hstep : step cfg p event = some p') (hn : accountOf p.state p.clients n) :
    accountOf p'.state p'.clients n := by
  obtain ⟨i, e, c, s', c', rfl, hc, hmoved, rfl⟩ | ⟨i, c, rfl, hc, rfl⟩ | ⟨s', hpassed, rfl⟩ :=
    step_cases hstep
  · exact accountOf_moved hc hmoved hok hn
  · exact accountOf_clone c.seen hn
  · refine accountOf_passed hpassed ?_ hn
    rintro j read rfl
    cases hok

theorem accountOf_new (n : ℕ) : accountOf new.state new.clients n where
  unopened _ := ⟨rfl, rfl⟩
  max_le _ hconn := by cases hconn
  counted _ hconn := by cases hconn
  budget _ hconn := by cases hconn

/-- **The stream limit**: if a connection is given out again only while there is room for one more
beside the streams in progress and the clients that have yet to send, the halves of a stream are
dropped together, and connections allow a stream, then the requests and streams in progress on a
connection stay within its limit and its counter counts them, without wrapping around. -/
theorem stream_limit_kept {events : List Event}
    (hrun : run (restrict (fun p event ↦ keepsLimit cfg p event = true)
      (step cfg)) new events = some p) {n : ℕ} {conn : H2ConnectClient}
    (hconn : p.state.conns[n]? = some conn) :
    p.state.inProgress n ≤ conn.maxAllowedStreams ∧ conn.streamCount = p.state.inProgress n := by
  have hn : accountOf p.state p.clients n := by
    refine run_induction (I := fun p ↦ accountOf p.state p.clients n) hrun
      (accountOf_new n) fun _ _ _ _ hp hstep ↦ ?_
    obtain ⟨hok, hstep⟩ := restrict_eq_some.1 hstep
    exact accountOf_step hok hstep hp
  have hbudget := hn.budget conn hconn
  exact ⟨by omega, hn.counted conn hconn⟩

/-- The first client opens a connection, and checks it in. -/
def openRun : List Event :=
  byClient 0 [.connect (sampleKey none), .lookup, .tryInsert, .tryLock, .spawned (some 100), .check,
    .put, .release]

/-- A client checks out the connection, and does what is given. -/
def reuseRun (i : ℕ) (es : List ClientEvent) : List Event :=
  byClient i ([.connect (sampleKey none), .lookup, .acquire, .get (some 0) true, .check] ++ es)

/-- The second client gets the connection before the first one has sent. -/
def reusedRun : List Event :=
  .clone 0 :: openRun ++ reuseRun 1 [.put, .release] ++ [.client 0 .send, .client 1 .send]

theorem stream_limit_kept_reusedRun :
    ∃ p, run (restrict
        (fun p event ↦ keepsLimit (collidingConfig 2 (by decide)) p event = true)
        (step (collidingConfig 2 (by decide)))) new reusedRun = some p ∧
      p.state.conns[0]? = some ⟨sampleKey none, 2, 2⟩ ∧ p.state.inProgress 0 ≤ 2 := by
  exact exists_run (fun p ↦ p.state.conns[0]? = some ⟨sampleKey none, 2, 2⟩) (by decide)
    fun _ hp hconn ↦ ⟨hconn, (stream_limit_kept hp hconn).1⟩

/-- Three clients have the connection before any of them sends. -/
def crowdedRun : List Event :=
  .clone 0 :: .clone 0 :: openRun ++ reuseRun 1 [.put, .release] ++ reuseRun 2 [.put, .release] ++
  [.client 0 .send, .client 1 .send, .client 2 .send]

/-- Each of the checks finds room for two, and three streams are opened. -/
theorem stream_limit_exceeded :
    ∃ p conn, run (step (collidingConfig 2 (by decide))) new crowdedRun = some p ∧
      p.state.conns[0]? = some conn ∧ conn.maxAllowedStreams < p.state.inProgress 0 := by
  have hrun : (run (step (collidingConfig 2 (by decide))) new crowdedRun).any (fun p ↦
      p.state.conns[0]?.any fun conn ↦ decide (conn.maxAllowedStreams < p.state.inProgress 0)) =
        true := by
    decide
  obtain ⟨p, hp, hfinal⟩ := (Option.any_eq_true _ _).1 hrun
  obtain ⟨conn, hconn, hlt⟩ := (Option.any_eq_true _ _).1 hfinal
  exact ⟨p, conn, hp, hconn, of_decide_eq_true hlt⟩

end Ztunnel.Proxy.Pool
