import Ztunnel.Proxy.PoolTunnels

/-!
# What the stream counter counts

`send_request` raises the counter of its connection, and installs two guards that share a marker:
one goes to each half of the stream, or both are dropped if the request fails or is cancelled. The
drop of a guard is to lower the counter if the other half has been dropped already, so that the last
half does it. The test is the other way round: `Arc::into_inner` returns the marker to its *last*
owner, and the counter is lowered where it returns nothing, which is the first drop
(`DropCounter.lowers`).

Every stream is counted once up and once down all the same, so nothing leaks. But a stream with one
half left is in use and not counted (`half_open_not_counted`). The counter is the number of
requests and streams in progress iff there is no such stream, and the number fits the `u16`
(`streamCount_eq_iff`).
-/

namespace Ztunnel.Proxy.Pool

open Transition

variable {cfg : Config} {s s' : PoolState} {p p' : WorkloadHBONEPool} {i n : ℕ} {c c' : Client}
  {e : ClientEvent} {event : Event}

/-! ### The guards of a stream -/

/-- `Arc::into_inner`, by the number of owners. -/
def arcIntoInner (owners : ℕ) : Option Unit := if owners = 1 then some () else none

/-- `DropCounter::drop` lowers the counter. -/
def DropCounter.lowers (owners : ℕ) : Bool := (arcIntoInner owners).isNone

/-- The guards of a stream that are not dropped. -/
def StreamState.owners : StreamState → ℕ
  | .requested => 2
  | .opened read write => read.toNat + write.toNat

/-- The counter after a guard of the stream is dropped. -/
def PoolState.dropGuard (s : PoolState) (stream : H2Stream) : PoolState :=
  if DropCounter.lowers stream.state.owners then s.fetchSub stream.conn else s

/-- The drop of a half is the drop of its guard. -/
theorem dropHalf_eq_some {j : ℕ} {stream : H2Stream} {read : Bool} :
    dropHalf s j stream read = some s' ↔ ∃ r w, stream.state = .opened r w ∧
      (if read then r else w) = true ∧
      s' = (s.dropGuard stream).setStream j stream
        (if read then .opened false w else .opened r false) := by
  obtain ⟨key, conn, state⟩ := stream
  cases state with
  | requested => simp [dropHalf]
  | opened r w =>
    cases r <;> cases w <;> cases read <;> simp [dropHalf, PoolState.dropGuard, StreamState.owners,
      DropCounter.lowers, arcIntoInner, eq_comm]

/-! ### Requests and streams -/

/-- The request waits for its response. -/
def StreamState.awaits : StreamState → Bool
  | .requested => true
  | .opened _ _ => false

/-- A half of the stream is not dropped. -/
def StreamState.live : StreamState → Bool
  | .requested => false
  | .opened read write => read || write

/-- One half of the stream is dropped and the other is not. -/
def StreamState.halfOpen : StreamState → Bool
  | .requested => false
  | .opened read write => read != write

namespace PoolState

/-- The requests and streams of a connection in a state. -/
def count (s : PoolState) (q : StreamState → Bool) (n : ℕ) : ℕ :=
  s.streams.countP fun stream ↦ stream.conn = n && q stream.state

/-- The requests on a connection that wait for their response. -/
def awaiting (s : PoolState) (n : ℕ) : ℕ := s.count StreamState.awaits n

/-- The streams of a connection with a half that is not dropped. -/
def live (s : PoolState) (n : ℕ) : ℕ := s.count StreamState.live n

/-- The streams of a connection with one half dropped. -/
def halfOpen (s : PoolState) (n : ℕ) : ℕ := s.count StreamState.halfOpen n

end PoolState

theorem inProgress_eq_add (s : PoolState) (n : ℕ) : s.inProgress n = s.awaiting n + s.live n := by
  have hstate : ∀ state : StreamState, state.inProgress.toNat =
      state.awaits.toNat + state.live.toNat := by
    intro state
    cases state with
    | requested => rfl
    | opened read write => exact (Nat.zero_add _).symm
  unfold PoolState.inProgress PoolState.awaiting PoolState.live PoolState.count
  induction s.streams with
  | nil => rfl
  | cons stream streams ih =>
    have hite : ∀ b : Bool, (if b = true then 1 else 0) = b.toNat := by decide
    have hhead := hstate stream.state
    simp only [List.countP_cons, ih, hite]
    by_cases hconn : stream.conn = n
    · simp only [hconn, decide_true, Bool.true_and]
      omega
    · simp only [hconn, decide_false, Bool.false_and, Bool.toNat_false]
      omega

theorem halfOpen_le_inProgress (s : PoolState) (n : ℕ) : s.halfOpen n ≤ s.inProgress n := by
  refine List.countP_mono_left fun stream _ hstream ↦ ?_
  rw [Bool.and_eq_true] at hstream ⊢
  refine ⟨hstream.1, ?_⟩
  obtain ⟨-, hstate⟩ := hstream
  cases hs : stream.state with
  | requested => rfl
  | opened read write =>
    rw [hs] at hstate
    cases read <;> cases write <;> simp_all [StreamState.halfOpen, StreamState.inProgress]

theorem count_setStream {q : StreamState → Bool} {j : ℕ} {stream : H2Stream}
    (hstream : s.streams[j]? = some stream) (state : StreamState) (n : ℕ) :
    (s.setStream j stream state).count q n + (decide (stream.conn = n) && q stream.state).toNat =
      s.count q n + (decide (stream.conn = n) && q state).toNat :=
  List.countP_set_add hstream _ _

/-! ### The counter of a connection -/

/-- The counter of a connection, up to overflow, is the number of requests and streams in progress
without the half-open streams. -/
structure Counts (conn : Option H2ConnectClient) (inProgress halfOpen : ℕ) : Prop where
  unopened : conn = none → inProgress = 0
  counter : ∀ conn', conn = some conn' → conn'.streamCount < 65536 ∧
    (conn'.streamCount + halfOpen) % 65536 = inProgress % 65536

namespace Counts

variable {conn : Option H2ConnectClient} {inProgress inProgress' halfOpen halfOpen' : ℕ}

theorem keep (h : Counts conn inProgress halfOpen) (hle : inProgress' ≤ inProgress)
    (heq : inProgress' + halfOpen = inProgress + halfOpen') :
    Counts conn inProgress' halfOpen' where
  unopened hnone := by
    have := h.unopened hnone
    omega
  counter conn' hconn := by
    obtain ⟨hlt, hcount⟩ := h.counter conn' hconn
    exact ⟨hlt, by omega⟩

theorem down (h : Counts conn inProgress halfOpen) (hle : inProgress' ≤ inProgress)
    (heq : inProgress' + halfOpen + 1 = inProgress + halfOpen') :
    Counts (conn.map fun conn ↦ { conn with streamCount := (conn.streamCount + 65535) % 65536 })
      inProgress' halfOpen' where
  unopened hnone := by
    have := h.unopened (Option.map_eq_none_iff.1 hnone)
    omega
  counter conn' hconn := by
    obtain ⟨old, hold, rfl⟩ := Option.map_eq_some_iff.1 hconn
    obtain ⟨hlt, hcount⟩ := h.counter old hold
    refine ⟨Nat.mod_lt _ (by decide), ?_⟩
    dsimp only
    omega

theorem up (h : Counts conn inProgress halfOpen) (hconn : conn ≠ none) :
    Counts (conn.map fun conn ↦ { conn with streamCount := (conn.streamCount + 1) % 65536 })
      (inProgress + 1) halfOpen where
  unopened hnone := absurd (Option.map_eq_none_iff.1 hnone) hconn
  counter conn' hconn := by
    obtain ⟨old, hold, rfl⟩ := Option.map_eq_some_iff.1 hconn
    obtain ⟨hlt, hcount⟩ := h.counter old hold
    refine ⟨Nat.mod_lt _ (by decide), ?_⟩
    dsimp only
    omega

/-- **What the counter says**: the number in progress, iff no stream is half open and the number
fits. -/
theorem streamCount_eq {conn : H2ConnectClient} (h : Counts (some conn) inProgress halfOpen)
    (hle : halfOpen ≤ inProgress) :
    conn.streamCount = inProgress ↔ halfOpen = 0 ∧ inProgress < 65536 := by
  obtain ⟨hlt, hcount⟩ := h.counter conn rfl
  omega

end Counts

/-- The account of a connection in a pool. -/
def PoolState.Counts (s : PoolState) (n : ℕ) : Prop :=
  Pool.Counts s.conns[n]? (s.inProgress n) (s.halfOpen n)

/-- A stream goes on in a way that the counter does not show. -/
theorem PoolState.Counts.setStream {j : ℕ} {stream : H2Stream} {state : StreamState}
    (h : s.Counts n) (hstream : s.streams[j]? = some stream)
    (hle : state.inProgress.toNat ≤ stream.state.inProgress.toNat)
    (heq : state.inProgress.toNat + stream.state.halfOpen.toNat =
      stream.state.inProgress.toNat + state.halfOpen.toNat) :
    (s.setStream j stream state).Counts n := by
  have hprogress := inProgress_setStream hstream state n
  have hhalf := count_setStream (q := StreamState.halfOpen) hstream state n
  unfold PoolState.Counts PoolState.halfOpen at h ⊢
  by_cases hconn : stream.conn = n
  · rw [decide_eq_true hconn, Bool.true_and, Bool.true_and] at hprogress hhalf
    exact h.keep (by omega) (by omega)
  · rw [decide_eq_false hconn, Bool.false_and, Bool.false_and] at hprogress hhalf
    exact h.keep (by omega) (by omega)

/-- A stream goes on, and the counter goes down. -/
theorem PoolState.Counts.fetchSub {j : ℕ} {stream : H2Stream} {state : StreamState}
    (h : s.Counts n) (hstream : s.streams[j]? = some stream)
    (hle : state.inProgress.toNat ≤ stream.state.inProgress.toNat)
    (heq : state.inProgress.toNat + stream.state.halfOpen.toNat + 1 =
      stream.state.inProgress.toNat + state.halfOpen.toNat) :
    ((s.fetchSub stream.conn).setStream j stream state).Counts n := by
  have hprogress := inProgress_setStream (s := s.fetchSub stream.conn) hstream state n
  have hhalf := count_setStream (q := StreamState.halfOpen) (s := s.fetchSub stream.conn) hstream
    state n
  have hsame : (s.fetchSub stream.conn).inProgress n = s.inProgress n := rfl
  have hsame' : (s.fetchSub stream.conn).count StreamState.halfOpen n =
    s.count StreamState.halfOpen n := rfl
  have hconns : ((s.fetchSub stream.conn).setStream j stream state).conns =
    (s.fetchSub stream.conn).conns := rfl
  unfold PoolState.Counts PoolState.halfOpen at h ⊢
  by_cases hconn : stream.conn = n
  · subst hconn
    rw [decide_eq_true rfl, Bool.true_and, Bool.true_and] at hprogress hhalf
    rw [hconns, s.fetchSub_self]
    exact h.down (by omega) (by omega)
  · rw [decide_eq_false hconn, Bool.false_and, Bool.false_and] at hprogress hhalf
    rw [hconns, s.fetchSub_of_ne hconn]
    exact h.keep (by omega) (by omega)

theorem counts_passed (hpassed : Passed s event s') (h : s.Counts n) : s'.Counts n := by
  cases hpassed with
  | opened j stream hstream hstate =>
    refine h.setStream hstream ?_ ?_ <;> rw [hstate] <;> decide
  | failed j stream hstream hstate | dropped j stream hstream hstate =>
    refine h.fetchSub hstream ?_ ?_ <;> rw [hstate] <;> decide
  | firstHalf j stream read hstream hstate =>
    refine h.fetchSub hstream ?_ ?_ <;> rw [hstate] <;> cases read <;> decide
  | secondHalf j stream read hstream hstate =>
    refine h.setStream hstream ?_ ?_ <;> rw [hstate] <;> cases read <;> decide
  | evicted key m => exact h

/-- A client opens no stream of which a half is dropped. -/
theorem Moved.halfOpen (h : Moved cfg s i c e s' c') (n : ℕ) :
    s'.halfOpen n = s.halfOpen n := by
  unfold PoolState.halfOpen PoolState.count
  obtain hsame | ⟨key, m, -, happend⟩ := h.streams
  · rw [hsame]
  · rw [happend, List.countP_append, List.countP_singleton]
    simp [StreamState.halfOpen]

theorem counts_moved (hkeyed : Keyed p) (hc : p.clients[i]? = some c)
    (hmoved : Moved cfg p.state i c e s' c') (h : p.state.Counts n) : s'.Counts n := by
  have hhalf := hmoved.halfOpen n
  have hhalf_le := halfOpen_le_inProgress p.state n
  unfold PoolState.Counts at h ⊢
  rw [hhalf]
  cases hmoved.effect n with
  | neutral _ hconn hprogress | reuse conn hold hconn hprogress => rwa [hconn, hprogress]
  | spawned key peer hold hconn hprogress =>
    have hzero := h.unopened hold
    rw [hconn, hprogress]
    refine ⟨fun hnone ↦ absurd hnone (Option.some_ne_none _), ?_⟩
    rintro _ ⟨⟩
    refine ⟨(by decide : 0 < 65536), ?_⟩
    dsimp only
    omega
  | send hconn hprogress hhad =>
    rw [hconn, hprogress]
    refine h.up fun hnone ↦ ?_
    obtain ⟨⟨key, m⟩, hphase, hm⟩ := (Option.any_eq_true _ _).1 hhad
    obtain rfl : m = n := of_decide_eq_true hm
    have hkey := hkeyed.clients i c hc key m hphase
    rw [PoolState.connKey, hnone] at hkey
    cases hkey

theorem counts_of_run {events : List Event}
    (hrun : run (step cfg) new events = some p) (n : ℕ) : p.state.Counts n := by
  refine (run_induction (I := fun p ↦ Keyed p ∧ p.state.Counts n) hrun ⟨Keyed.init, ?_⟩
    fun _ _ p p' hp hstep ↦ ⟨hp.1.step hstep, ?_⟩).2
  · exact ⟨fun _ ↦ rfl, fun conn hconn ↦ by cases hconn⟩
  · obtain ⟨i, e, c, s', c', -, hc, hmoved, rfl⟩ | ⟨i, c, -, hc, rfl⟩ | ⟨s', hpassed, rfl⟩ :=
      step_cases hstep
    · exact counts_moved hp.1 hc hmoved hp.2
    · exact hp.2
    · exact counts_passed hpassed hp.2

/-- **What the stream counter counts**: it is the number of requests that wait for a response and of
streams with a half in use iff no stream of the connection is half open and the number fits the
counter. -/
theorem streamCount_eq_iff {events : List Event}
    (hrun : run (step cfg) new events = some p) {conn : H2ConnectClient}
    (hconn : p.state.conns[n]? = some conn) :
    conn.streamCount = p.state.awaiting n + p.state.live n ↔
      p.state.halfOpen n = 0 ∧ p.state.awaiting n + p.state.live n < 65536 := by
  have hcounts := counts_of_run hrun n
  rw [PoolState.Counts, hconn] at hcounts
  rw [← inProgress_eq_add]
  exact hcounts.streamCount_eq (halfOpen_le_inProgress p.state n)

/-- A stream is open, and a second request on its connection waits for its response. -/
def twoRequestsRun : List Event :=
  openRun ++ [.client 0 .send, .respond 0 true] ++ reuseRun 0 [.put, .release, .send]

theorem streamCount_eq_iff_twoRequestsRun :
    ∃ p conn, run (step (collidingConfig 100 (by decide))) new twoRequestsRun = some p ∧
      p.state.conns[0]? = some conn ∧ p.state.awaiting 0 = 1 ∧ p.state.live 0 = 1 ∧
      conn.streamCount = p.state.awaiting 0 + p.state.live 0 := by
  have hrun : (run (step (collidingConfig 100 (by decide))) new twoRequestsRun).any
      (fun p ↦ p.state.conns[0]?.isSome &&
        decide (p.state.awaiting 0 = 1 ∧ p.state.live 0 = 1 ∧ p.state.halfOpen 0 = 0)) = true := by
    decide
  obtain ⟨p, hp, hfinal⟩ := (Option.any_eq_true _ _).1 hrun
  obtain ⟨hsome, hcounts⟩ := Bool.and_eq_true_iff.1 hfinal
  obtain ⟨conn, hconn⟩ := Option.isSome_iff_exists.1 hsome
  obtain ⟨hawaiting, hlive, hhalf⟩ := of_decide_eq_true hcounts
  refine ⟨p, conn, hp, hconn, hawaiting, hlive, (streamCount_eq_iff hp hconn).2 ⟨hhalf, ?_⟩⟩
  rw [hawaiting, hlive]
  decide

/-- The only stream of a connection has lost its read half, and the counter is at zero. -/
theorem half_open_not_counted :
    ∃ p conn, run (step (collidingConfig 100 (by decide))) new
        (openRun ++ [.client 0 .send, .respond 0 true, .dropHalf 0 true]) = some p ∧
      p.state.conns[0]? = some conn ∧ conn.streamCount = 0 ∧
      p.state.awaiting 0 + p.state.live 0 = 1 := by
  have hrun : (run (step (collidingConfig 100 (by decide))) new
      (openRun ++ [.client 0 .send, .respond 0 true, .dropHalf 0 true])).any (fun p ↦
        p.state.conns[0]?.any (fun conn ↦ decide (conn.streamCount = 0)) &&
          decide (p.state.awaiting 0 + p.state.live 0 = 1)) = true := by
    decide
  obtain ⟨p, hp, hfinal⟩ := (Option.any_eq_true _ _).1 hrun
  obtain ⟨hany, hcount⟩ := Bool.and_eq_true_iff.1 hfinal
  obtain ⟨conn, hconn, hzero⟩ := (Option.any_eq_true _ _).1 hany
  exact ⟨p, conn, hp, hconn, of_decide_eq_true hzero, of_decide_eq_true hcount⟩

end Ztunnel.Proxy.Pool
