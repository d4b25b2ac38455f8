import Ztunnel.Proxy.PoolTunnels

/-!
# Who wakes a client that waits for the pool

A client that loses the race for a lock waits for a notification of the pool, which is sent when a
connection is put into it. The winner may end otherwise: the attempt to connect fails or is
cancelled, or the new connection is already at its limit. Then the lock is given back without a
notification, and if nobody queues for it, a client that waits with nothing unseen sleeps on
(`failed_winner_strands_waiter`). If somebody queues, the lock is handed over, and the same question
arises when that client ends, which may be before it has noticed.

There is no other way to strand a client. A client that races was at the table before the lock was
entered, so it has not seen what the present holder of the lock sends; hence a holder that puts its
connection into the pool wakes everyone who waits for its lock, and a client that waits either has
an unseen notification or waits for a lock that has an owner (`waiter_not_stranded`).
-/

namespace Ztunnel.Proxy.Pool

open Transition

variable {cfg : Config} {s s' : PoolState} {p p' : WorkloadHBONEPool} {i : ℕ} {c c' : Client}
  {e : ClientEvent} {event : Event} {key : WorkloadKey}

/-! ### Locks that are given back without a notification -/

/-- The hash whose lock a client gives back without having sent a notification, if it has it. -/
def quietRelease (cfg : Config) (s : PoolState) : Phase → ClientEvent → Option UInt64
  | .holding key, .get (some n) _ =>
    if s.conns[n]?.any (·.wlKey ≠ key) then some (cfg.hash key) else none
  | .connecting key, .spawned none => some (cfg.hash key)
  | .connecting key, .cancel => some (cfg.hash key)
  | .awaitLock key, .cancel => some (cfg.hash key)
  | .returning key _ false, .release => some (cfg.hash key)
  | _, _ => none

/-- The client waits for the lock of a hash, with nothing unseen. -/
def Client.sleeps (hash : WorkloadKey → UInt64) (notified : ℕ) (h : UInt64) : Client → Bool
  | ⟨seen, .waiting key⟩ => hash key = h && seen = notified
  | _ => false

/-- A lock is left free without a notification only if no client sleeps for it. -/
def wakesWaiters (cfg : Config) (p : WorkloadHBONEPool) : Event → Bool
  | .client i e => (p.clients[i]?.bind (quietRelease cfg p.state ·.phase e)).all fun h ↦
    p.state.writelock.line h ≠ [i] ||
      p.clients.all fun c ↦ !c.sleeps cfg.hash p.state.notified h
  | _ => true

/-! ### What a move does to the lock, the notifications and the race -/

theorem Moved.lockStep (hmoved : Moved cfg s i c e s' c') :
    LockMap.Step (·.phase.holds cfg.hash) (·.phase.wants cfg.hash) s.writelock i c c'
      s'.writelock := by
  obtain ⟨seen, phase⟩ := c
  cases hmoved with
  | connect key hphase | absent key hphase | absentAgain key hphase | lose key hphase
  | empty key ready hphase | broken key n hphase | reuse key n conn hphase
  | spawned key peer hphase | full key n hphase | room key n conn hphase | put key n hphase
  | changed key hphase | send key n hphase | leave key hphase =>
    cases hphase
    exact .keep rfl (.inl rfl)
  | found woken key hphase =>
    cases hphase
    exact .keep rfl (.inr rfl)
  | insert key hphase =>
    cases hphase
    exact .insert _ rfl rfl
  | acquire key hphase hline =>
    cases hphase
    refine .join _ (hline ▸ List.not_mem_nil) ?_ rfl ?_
    · exact fun h hh ↦ (Option.some.inj hh).symm
    · exact fun h hh ↦ ⟨(Option.some.inj hh).symm, hline⟩
  | win key hphase hline =>
    cases hphase
    refine .join _ (hline ▸ List.not_mem_nil) (fun h hh ↦ nomatch hh) rfl ?_
    exact fun h hh ↦ ⟨(Option.some.inj hh).symm, hline⟩
  | queue key hphase hline =>
    cases hphase
    exact .join _ hline (fun h hh ↦ (Option.some.inj hh).symm) rfl fun h hh ↦ nomatch hh
  | granted key hphase howner =>
    cases hphase
    exact .grant _ howner rfl rfl
  | mismatch key n ready conn hphase | refused key hphase | release key n put hphase
  | giveUp key hphase | abort key hphase =>
    cases hphase
    exact .leave _ rfl rfl rfl

/-- The phases in which the key's lock has been found or entered. -/
def Phase.entered : Phase → Option WorkloadKey
  | .checkout true key | .awaitLock key | .trying key | .waiting key => some key
  | _ => none

/-- The phases of a client that found no lock for its key. -/
def Phase.races : Phase → Option WorkloadKey
  | .inserting key | .trying key | .waiting key => some key
  | _ => none

theorem Moved.entered (hmoved : Moved cfg s i c e s' c') (h : c'.phase.entered = some key) :
    c.phase.entered = some key ∨ (s'.writelock (cfg.hash key)).isSome := by
  cases hmoved with
  | found woken key' hphase hlock =>
    cases h
    exact .inr hlock
  | insert key' hphase =>
    cases h
    right
    show (s.writelock.insert _ _).isSome
    rw [LockMap.insert, Function.update_self, Option.isSome_some]
  | absentAgain key' hphase | lose key' hphase | changed key' hphase | queue key' hphase =>
    cases h
    exact .inl (hphase ▸ rfl)
  | _ => cases h

/-- A client that starts to race has found no lock. -/
theorem Moved.races (hmoved : Moved cfg s i c e s' c') (h : c'.phase.races = some key) :
    c.phase.races = some key ∧ c'.seen = c.seen ∨ s.writelock (cfg.hash key) = none := by
  cases hmoved with
  | absent key' hphase hlock | absentAgain key' hphase hlock =>
    cases h
    exact .inr hlock
  | insert key' hphase | lose key' hphase =>
    cases h
    exact .inl ⟨hphase ▸ rfl, rfl⟩
  | _ => cases h

/-- A client waits after it has lost to an owner, or has not found a lock. -/
theorem Moved.waits (hmoved : Moved cfg s i c e s' c') (h : c'.phase = .waiting key) :
    s'.writelock.line (cfg.hash key) ≠ [] ∨
      c.phase = .checkout true key ∧ s.writelock (cfg.hash key) = none := by
  cases hmoved with
  | lose key' hphase hline =>
    cases h
    exact .inl hline
  | absentAgain key' hphase hlock =>
    cases h
    exact .inr ⟨hphase, hlock⟩
  | _ => cases h

/-- A move sends a notification, and the client has not seen it, or it sends none. -/
theorem Moved.notifies (hmoved : Moved cfg s i c e s' c') (hseen : c.seen ≤ s.notified) :
    s'.notified = s.notified + 1 ∧ c'.seen ≤ s.notified ∨
    s'.notified = s.notified ∧ c'.seen ≤ s.notified ∧
      ∀ key n, c'.phase ≠ .returning key n true := by
  cases hmoved with
  | put key n hphase => exact .inl ⟨rfl, hseen⟩
  | changed key hphase => exact .inr ⟨rfl, Nat.le_refl _, fun _ _ h ↦ nomatch h⟩
  | _ => exact .inr ⟨rfl, hseen, fun _ _ h ↦ nomatch h⟩

/-- A lock is given back after a notification, or without one. -/
theorem Moved.released (hmoved : Moved cfg s i c e s' c') {h : UInt64}
    (hbefore : c.phase.wants cfg.hash = some h) (hafter : c'.phase.wants cfg.hash = none) :
    (∃ key n, c.phase = .returning key n true ∧ cfg.hash key = h) ∨
      quietRelease cfg s c.phase e = some h := by
  cases hmoved with
  | mismatch key n ready conn hphase hconn hkey =>
    rw [hphase] at hbefore ⊢
    right
    show (if s.conns[n]?.any (·.wlKey ≠ key) then some (cfg.hash key) else none) = some h
    rw [hconn, Option.any_some, decide_eq_true hkey]
    exact hbefore
  | refused key hphase | abort key hphase | giveUp key hphase =>
    rw [hphase] at hbefore ⊢
    exact .inr hbefore
  | release key n put hphase =>
    rw [hphase] at hbefore ⊢
    cases put with
    | true => exact .inl ⟨key, n, rfl, Option.some.inj hbefore⟩
    | false => exact .inr hbefore
  | connect key hphase | absent key hphase | absentAgain key hphase | insert key hphase
  | lose key hphase | changed key hphase | send key n hphase | leave key hphase =>
    rw [hphase] at hbefore
    cases hbefore
  | _ => cases hafter

/-! ### The invariant -/

/-- No client is stranded. -/
structure Attended (cfg : Config) (p : WorkloadHBONEPool) : Prop where
  locks : LockMap.Consistent p.state.writelock p.clients (·.phase.holds cfg.hash)
    (·.phase.wants cfg.hash)
  seen_le : ∀ (i : ℕ) c, p.clients[i]? = some c → c.seen ≤ p.state.notified
  entered : ∀ (i : ℕ) c, p.clients[i]? = some c → ∀ key, c.phase.entered = some key →
    (p.state.writelock (cfg.hash key)).isSome
  /-- A client that races for a lock has not seen what the holder of the lock has sent. -/
  fresh : ∀ (i : ℕ) c, p.clients[i]? = some c → ∀ key, c.phase.races = some key →
    c.seen = p.state.notified → ∀ (j : ℕ) d, p.clients[j]? = some d →
    ∀ key' n, d.phase = .returning key' n true → cfg.hash key' ≠ cfg.hash key
  held : ∀ (i : ℕ) c, p.clients[i]? = some c → ∀ key, c.phase = .waiting key →
    c.seen = p.state.notified → p.state.writelock.line (cfg.hash key) ≠ []

namespace Attended

theorem init : Attended cfg new where
  locks := by
    refine ⟨fun _ ↦ List.nodup_nil, (fun _ _ h ↦ nomatch h), fun i c hc k hholds ↦ ?_⟩
    rw [eq_of_getElem?_new hc] at hholds
    cases hholds
  seen_le i c hc := by
    rw [eq_of_getElem?_new hc]
    exact Nat.le_refl 0
  entered i c hc key hkey := by
    rw [eq_of_getElem?_new hc] at hkey
    cases hkey
  fresh i c hc key hkey := by
    rw [eq_of_getElem?_new hc] at hkey
    cases hkey
  held i c hc key hphase := by
    rw [eq_of_getElem?_new hc] at hphase
    cases hphase

/-- The lock of a client that is about to give it back. -/
theorem writelock_of_returning (hp : Attended cfg p) {j : ℕ} {d : Client}
    (hd : p.clients[j]? = some d) {n : ℕ} {put : Bool} (hphase : d.phase = .returning key n put) :
    p.state.writelock.owner (cfg.hash key) = some j := by
  refine hp.locks.holds j d hd _ ?_
  show d.phase.holds cfg.hash = _
  rw [hphase]
  rfl

theorem fresh_moved (hp : Attended cfg p) (hc : p.clients[i]? = some c)
    (hmoved : Moved cfg p.state i c e s' c') (hsame : s'.notified = p.state.notified)
    (hreturning : ∀ key n, c'.phase ≠ .returning key n true) :
    ∀ (j : ℕ) d, (p.clients.set i c')[j]? = some d → ∀ key, d.phase.races = some key →
      d.seen = s'.notified → ∀ (k : ℕ) d', (p.clients.set i c')[k]? = some d' →
      ∀ key' n, d'.phase = .returning key' n true → cfg.hash key' ≠ cfg.hash key := by
  rw [hsame]
  -- the client that moved is not about to give a lock back, so the other one was so before
  have hbefore (key : WorkloadKey) (hclear : ∀ (k : ℕ) d', p.clients[k]? = some d' →
      ∀ key' n, d'.phase = .returning key' n true → cfg.hash key' ≠ cfg.hash key) :
      ∀ (k : ℕ) d', (p.clients.set i c')[k]? = some d' →
        ∀ key' n, d'.phase = .returning key' n true → cfg.hash key' ≠ cfg.hash key := by
    refine List.forall_getElem?_set (fun k d' hd' _ ↦ hclear k d' hd') ?_
    exact fun key' n h ↦ absurd h (hreturning key' n)
  refine List.forall_getElem?_set ?_ ?_
  · exact fun j d hd _ key hraces hseen ↦ hbefore key (hp.fresh j d hd key hraces hseen)
  · intro key hraces hseen
    refine hbefore key ?_
    obtain ⟨hraced, heq⟩ | hnone := hmoved.races hraces
    · exact hp.fresh i c hc key hraced (heq ▸ hseen)
    · intro k d' hd' key' n hphase hhash
      have hlock := hp.writelock_of_returning hd' hphase
      rw [hhash, LockMap.owner, LockMap.line, hnone] at hlock
      cases hlock

/-- The lock that a client sleeps for is not left free by the move of another client. -/
theorem held_moved (hp : Attended cfg p) (hc : p.clients[i]? = some c)
    (hmoved : Moved cfg p.state i c e s' c') (hok : wakesWaiters cfg p (.client i e) = true)
    {j : ℕ} {d : Client} (hd : p.clients[j]? = some d) (hphase : d.phase = .waiting key)
    (hseen : d.seen = p.state.notified) : s'.writelock.line (cfg.hash key) ≠ [] := by
  obtain hheld | ⟨halone, hbefore, hafter⟩ :=
    hmoved.lockStep.owned (hp.held j d hd key hphase hseen)
  · exact hheld
  obtain ⟨key', n, hreturning, hhash⟩ | hquiet := hmoved.released hbefore hafter
  · exact absurd hhash (hp.fresh j d hd key (hphase ▸ rfl) hseen i c hc key' n hreturning)
  · have hawake := hok
    rw [wakesWaiters, hc, Option.bind_some, hquiet, Option.all_some, halone,
      decide_eq_false (not_not_intro rfl), Bool.false_or, List.all_eq_true] at hawake
    have hd' := hawake d (List.mem_of_getElem? hd)
    obtain ⟨seen, phase⟩ := d
    cases hphase
    cases hseen
    simp [Client.sleeps] at hd'

theorem moved (hp : Attended cfg p) (hc : p.clients[i]? = some c)
    (hmoved : Moved cfg p.state i c e s' c') (hok : wakesWaiters cfg p (.client i e) = true) :
    Attended cfg ⟨s', p.clients.set i c'⟩ := by
  have hlocks := hp.locks.step hc hmoved.lockStep
  have hentered : ∀ (j : ℕ) d, (p.clients.set i c')[j]? = some d → ∀ key,
      d.phase.entered = some key → (s'.writelock (cfg.hash key)).isSome := by
    refine List.forall_getElem?_set ?_ ?_
    · exact fun j d hd _ key hkey ↦ hmoved.lockStep.isSome (hp.entered j d hd key hkey)
    · intro key hkey
      obtain hold | hnew := hmoved.entered hkey
      · exact hmoved.lockStep.isSome (hp.entered i c hc key hold)
      · exact hnew
  obtain ⟨hnotified, hself⟩ | ⟨hnotified, hself, hreturning⟩ := hmoved.notifies (hp.seen_le i c hc)
  · -- everyone has a notification to see
    have hbehind : ∀ (j : ℕ) d, (p.clients.set i c')[j]? = some d → d.seen ≤ p.state.notified :=
      List.forall_getElem?_set (fun j d hd _ ↦ hp.seen_le j d hd) hself
    have hunseen (j : ℕ) (d : Client) (hd : (p.clients.set i c')[j]? = some d) :
        d.seen ≠ s'.notified := by
      have := hbehind j d hd
      omega
    refine ⟨hlocks, ?_, hentered, ?_, ?_⟩
    · intro j d hd
      show d.seen ≤ s'.notified
      have := hbehind j d hd
      omega
    · exact fun j d hd key _ hseen ↦ absurd hseen (hunseen j d hd)
    · exact fun j d hd key _ hseen ↦ absurd hseen (hunseen j d hd)
  · refine ⟨hlocks, ?_, hentered, hp.fresh_moved hc hmoved hnotified hreturning, ?_⟩
    · refine List.forall_getElem?_set ?_ ?_
      · exact fun j d hd _ ↦ hnotified ▸ hp.seen_le j d hd
      · exact hnotified ▸ hself
    · refine List.forall_getElem?_set ?_ ?_
      · exact fun j d hd _ key hphase hseen ↦
          hp.held_moved hc hmoved hok hd hphase (hseen.trans hnotified)
      · intro key hphase hseen
        obtain hheld | ⟨hwoken, hnone⟩ := hmoved.waits hphase
        · exact hheld
        · have hsome := hp.entered i c hc key (hwoken ▸ rfl)
          rw [hnone] at hsome
          cases hsome

/-- A client that has just been cloned neither holds a lock nor races for one. -/
theorem clone (hp : Attended cfg p) (hc : p.clients[i]? = some c) :
    Attended cfg { p with clients := p.clients ++ [⟨c.seen, .idle⟩] } where
  locks := hp.locks.append rfl
  seen_le := List.forall_getElem?_concat hp.seen_le (hp.seen_le i c hc)
  entered := List.forall_getElem?_concat hp.entered fun _ h ↦ nomatch h
  fresh := by
    refine List.forall_getElem?_concat ?_ (fun _ h ↦ nomatch h)
    intro j d hd key hraces hseen
    refine List.forall_getElem?_concat (hp.fresh j d hd key hraces hseen) ?_
    exact fun _ _ h ↦ nomatch h
  held := List.forall_getElem?_concat hp.held fun _ h ↦ nomatch h

theorem passed (hp : Attended cfg p) (hpassed : Passed p.state event s') :
    Attended cfg { p with state := s' } := by
  have hsame : s'.writelock = p.state.writelock ∧ s'.notified = p.state.notified := by
    cases hpassed <;> exact ⟨rfl, rfl⟩
  obtain ⟨hlocks, hseen, hentered, hfresh, hheld⟩ := hp
  rw [← hsame.1] at hlocks hentered hheld
  rw [← hsame.2] at hseen hfresh hheld
  exact ⟨hlocks, hseen, hentered, hfresh, hheld⟩

theorem step (hp : Attended cfg p) (hok : wakesWaiters cfg p event = true)
    (hstep : Pool.step cfg p event = some p') : Attended cfg p' := by
  obtain ⟨i, e, c, s', c', rfl, hc, hmoved, rfl⟩ | ⟨i, c, rfl, hc, rfl⟩ | ⟨s', hpassed, rfl⟩ :=
    step_cases hstep
  · exact hp.moved hc hmoved hok
  · exact hp.clone hc
  · exact hp.passed hpassed

end Attended

/-- **No stranded waiter**, if no lock is left free without a notification while a client sleeps for
it: a client that waits has an unseen notification, or the lock of its key has an owner, which holds
it or has been handed it while it waits in `lock().await`. -/
theorem waiter_not_stranded {events : List Event}
    (hrun : run (restrict (fun p event ↦ wakesWaiters cfg p event = true)
      (step cfg)) new events = some p) {i : ℕ} {c : Client} {key : WorkloadKey}
    (hc : p.clients[i]? = some c) (hphase : c.phase = .waiting key) :
    c.seen ≠ p.state.notified ∨
      ∃ (j : ℕ) (d : Client), p.clients[j]? = some d ∧
        p.state.writelock.owner (cfg.hash key) = some j ∧
        d.phase.wants cfg.hash = some (cfg.hash key) := by
  have hp : Attended cfg p := by
    refine run_induction hrun Attended.init fun _ _ _ _ hp hstep ↦ ?_
    obtain ⟨hok, hstep⟩ := restrict_eq_some.1 hstep
    exact hp.step hok hstep
  by_cases hseen : c.seen = p.state.notified
  · obtain ⟨j, rest, hline⟩ := List.exists_cons_of_ne_nil (hp.held i c hc key hphase hseen)
    obtain ⟨d, hd, hwants⟩ := hp.locks.wants _ j (hline ▸ List.mem_cons_self)
    exact .inr ⟨j, d, hd, congrArg List.head? hline, hwants⟩
  · exact .inl hseen

/-- Two clients find no lock for their key; the first one takes it, and the second one has yet to
try. -/
def raceRun : List Event :=
  [.clone 0, .client 0 (.connect (sampleKey none)), .client 1 (.connect (sampleKey none)),
    .client 0 .lookup, .client 1 .lookup, .client 0 .tryInsert, .client 1 .tryInsert,
    .client 0 .tryLock]

/-- A third client queues for the lock, and is handed it when the first one fails to connect; so the
second one loses, and waits. -/
def handOverRun : List Event :=
  raceRun ++ .clone 0 :: byClient 2 [.connect (sampleKey none), .lookup, .acquire] ++
  [.client 0 (.spawned none), .client 1 .tryLock]

theorem waiter_not_stranded_handOverRun :
    ∃ p, run (restrict
        (fun p event ↦ wakesWaiters (collidingConfig 100 (by decide)) p event = true)
        (step (collidingConfig 100 (by decide)))) new handOverRun = some p ∧
      p.clients = [⟨0, .idle⟩, ⟨0, .waiting (sampleKey none)⟩, ⟨0, .awaitLock (sampleKey none)⟩] ∧
      (0 ≠ p.state.notified ∨ ∃ (j : ℕ) (d : Client), p.clients[j]? = some d ∧
        p.state.writelock.owner 0 = some j ∧ d.phase.wants (fun _ ↦ 0) = some 0) := by
  refine exists_run (fun p ↦ p.clients = [⟨0, .idle⟩, ⟨0, .waiting (sampleKey none)⟩,
    ⟨0, .awaitLock (sampleKey none)⟩]) (by decide) fun p hp hclients ↦ ?_
  have hc : p.clients[1]? = some ⟨0, .waiting (sampleKey none)⟩ := by
    rw [hclients]
    rfl
  exact ⟨hclients, waiter_not_stranded hp hc rfl⟩

/-- The first client fails to connect after the second one has begun to wait; or it fails before,
and the third client is dropped before it notices that it was handed the lock. Either way the second
client waits, has seen every notification, and nobody holds the lock or queues for it. -/
theorem failed_winner_strands_waiter :
    (∃ p, run (step (collidingConfig 100 (by decide))) new
        (raceRun ++ [.client 1 .tryLock, .client 0 (.spawned none)]) = some p ∧
      p.clients = [⟨0, .idle⟩, ⟨0, .waiting (sampleKey none)⟩] ∧ p.state.notified = 0 ∧
      p.state.writelock 0 = some []) ∧
    (∃ p, run (step (collidingConfig 100 (by decide))) new
        (handOverRun ++ [.client 2 .cancel]) = some p ∧
      p.clients = [⟨0, .idle⟩, ⟨0, .waiting (sampleKey none)⟩, ⟨0, .idle⟩] ∧
      p.state.notified = 0 ∧ p.state.writelock 0 = some []) := by
  constructor
  · exact exists_run (fun p ↦ p.clients = [⟨0, .idle⟩, ⟨0, .waiting (sampleKey none)⟩] ∧
      p.state.notified = 0 ∧ p.state.writelock 0 = some []) (by decide) fun _ _ h ↦ h
  · exact exists_run (fun p ↦ p.clients = [⟨0, .idle⟩, ⟨0, .waiting (sampleKey none)⟩,
      ⟨0, .idle⟩] ∧ p.state.notified = 0 ∧ p.state.writelock 0 = some []) (by decide) fun _ _ h ↦ h

end Ztunnel.Proxy.Pool
