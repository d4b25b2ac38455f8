import Ztunnel.Lib.KeyedLock
import Ztunnel.Lib.Semaphore
import Ztunnel.Proxy.UdpListener

/-!
# Accounting for datagrams

What one event makes of the datagrams of the listener is `Settles`: some arrive, some are counted,
some are past being counted. There are four ways for the last to happen (`Listener.Loses`), and
nothing else is lost. So once all sessions have ended, every datagram was counted once if and only
if none of the four has happened (`allCounted_iff`).
-/

namespace Ztunnel.Proxy.Accounting

open Capsule (Bytes encodeDatagramInto maxDatagramSize)
open Transition

/-! ### What a session makes of its datagrams -/

namespace Session

/-- The datagrams of a session that can still be counted. -/
def live (x : Session) : List ℕ :=
  match x.stage with
  | .closing => []
  | stage => x.numbers ++ stage.taken

/-- The datagrams of a session that are past being counted. -/
def doomed (x : Session) : List ℕ :=
  match x.stage with
  | .closing => x.numbers
  | _ => []

/-- `run_session` is over, and the queue is closed. -/
def Ended (x : Session) : Prop := x.stage = .ended ∨ x.stage = .reported

/-- The numbers are those of the queue, a new session has a datagram, and so has a batch. -/
def Sound (x : Session) : Prop :=
  match x.stage with
  | .spawned => x.numbers.length = x.queue.queued.length ∧ x.numbers ≠ []
  | .establishing | .receiving | .dropping => x.numbers.length = x.queue.queued.length
  | .batching _ taken | .writing taken =>
    x.numbers.length = x.queue.queued.length ∧ taken ≠ []
  | .closing => True
  | .ended | .reported => x.numbers = [] ∧ x.queue.closed = true

/-- The next turn in `next_capsule_batch` takes a datagram, if there is one. -/
def Takes (x : Session) : Prop :=
  match x.stage with
  | .receiving => True
  | .batching batch _ => batch.length < maxCapsuleBatchBytes
  | _ => False

/-- **How a session loses datagrams**: it is cancelled before drops are tracked or while a batch is
in flight, or it takes a datagram that does not fit a capsule. -/
def Loses (x : Session) : Op → Prop
  | .cancel => x.stage = .spawned ∨ ∃ inFlight, x.stage = .writing inFlight
  | .recv => x.Takes ∧ ∃ payload rest, x.queue.queued = payload :: rest ∧
      maxDatagramSize < payload.length
  | _ => False

end Session

/-- A step of a session counts what it says, and some of its datagrams are past being counted. -/
structure Effect.Settles (e : Effect) (x : Session) (uncounted : List ℕ) : Prop where
  count : e.count = e.counted.length
  live : x.live.Perm (e.session.live ++ (e.counted ++ uncounted))
  doomed : (e.session.doomed ++ e.lost).Perm (x.doomed ++ uncounted)
  sound : e.session.Sound

theorem iff_nil_ne_nil {p : Prop} (h : ¬p) : p ↔ ([] : List ℕ) ≠ [] :=
  iff_of_false h fun hne ↦ hne rfl

namespace Session

variable {x x' : Session} {op : Op} {e : Effect}

theorem settles_quiet (hlive : x.live.Perm x'.live) (hdoomed : x'.doomed = x.doomed)
    (hsound : x'.Sound) : (Effect.quiet x').Settles x [] where
  count := rfl
  live := hlive.trans (.of_eq (List.append_nil _).symm)
  doomed := .of_eq (congrArg (· ++ []) hdoomed)
  sound := hsound

/-- A datagram that is taken is in the batch, or lost with it. -/
theorem settles_take (x : Session) (queue : DatagramChannel) (payload batch : Bytes)
    (taken : List ℕ) (hlive : x.live = x.numbers ++ taken) (hdoomed : x.doomed = [])
    (htracked : x.numbers.length = queue.queued.length + 1) :
    ∃ uncounted, (x.take queue payload batch taken).Settles x uncounted ∧
      (maxDatagramSize < payload.length ↔ uncounted ≠ []) := by
  obtain ⟨number, numbers, hnumbers⟩ := List.exists_cons_of_length_eq_add_one htracked
  have hlength : numbers.length = queue.queued.length := by
    rw [hnumbers] at htracked
    exact Nat.succ.inj htracked
  have hmoved : x.live.Perm (numbers ++ (taken ++ [number])) := by
    rw [hlive, hnumbers, ← List.append_assoc]
    exact (List.perm_append_singleton number (numbers ++ taken)).symm
  have hbatch : taken ++ [number] ≠ [] :=
    List.append_ne_nil_of_right_ne_nil taken (List.cons_ne_nil number [])
  unfold take
  rw [hnumbers]
  rcases hencode : encodeDatagramInto payload batch with error | batch'
  · have hlarge : maxDatagramSize < payload.length := by
      by_contra hfits
      obtain ⟨length, hencode', -⟩ :=
        Capsule.encodeDatagramInto_spec (Nat.le_of_not_lt hfits) batch
      rw [hencode] at hencode'
      cases hencode'
    refine ⟨taken ++ [number], ⟨rfl, ?_, ?_, hlength⟩, iff_of_true hlarge hbatch⟩
    · exact hmoved.trans (.of_eq (congrArg (· ++ _) (List.append_nil numbers).symm))
    · exact .of_eq (congrArg (· ++ _) hdoomed.symm)
  · have hfits := Capsule.length_le_of_encode hencode
    exact ⟨[], settles_quiet hmoved hdoomed.symm ⟨hlength, hbatch⟩,
      iff_of_false (Nat.not_lt_of_le hfits) fun h ↦ h rfl⟩

theorem settles_recordPendingDrops (reason : UdpDropReason) (hlive : x.live = x.numbers)
    (hdoomed : x.doomed = []) (htracked : x.numbers.length = x.queue.queued.length) :
    (x.recordPendingDrops reason).Settles x [] where
  count := htracked.symm
  live := .of_eq (hlive.trans (List.append_nil _).symm)
  doomed := .of_eq (congrArg (· ++ []) hdoomed.symm)
  sound := trivial

/-- A session that is cancelled where it waits for the peer or for a datagram loses nothing. -/
theorem not_loses_cancel (hspawned : x.stage ≠ .spawned)
    (hwriting : ∀ inFlight, x.stage ≠ .writing inFlight) : ¬x.Loses .cancel := by
  rintro (h | ⟨inFlight, h⟩)
  · exact hspawned h
  · exact hwriting inFlight h

theorem loses_recv (x : Session) {payload : Bytes} {rest : List Bytes} (htakes : x.Takes)
    (hqueue : x.queue.queued = payload :: rest) :
    x.Loses .recv ↔ maxDatagramSize < payload.length := by
  refine ⟨?_, fun h ↦ ⟨htakes, payload, rest, hqueue, h⟩⟩
  rintro ⟨-, payload', rest', hqueue', h⟩
  rw [hqueue] at hqueue'
  cases hqueue'
  exact h

/-- **What a step of a session makes of its datagrams.** -/
theorem settles_of_step (hsound : x.Sound) (hstep : x.step op = some e) :
    ∃ uncounted, e.Settles x uncounted ∧ (x.Loses op ↔ uncounted ≠ []) := by
  obtain ⟨key, id, queue, numbers, stage⟩ := x
  cases stage with
  | spawned =>
    obtain ⟨htracked, hnumbers⟩ := hsound
    cases op with
    | poll =>
      obtain rfl := Option.some.inj hstep
      exact ⟨[], settles_quiet (.refl _) rfl htracked, iff_nil_ne_nil not_false⟩
    | cancel =>
      obtain rfl := Option.some.inj hstep
      refine ⟨numbers, ⟨rfl, ?_, ?_, trivial⟩, iff_of_true (.inl rfl) hnumbers⟩
      · exact .of_eq (List.append_nil numbers)
      · exact .of_eq (List.append_nil numbers)
    | _ => cases hstep
  | establishing =>
    cases op with
    | connected | noSocket =>
      obtain rfl := Option.some.inj hstep
      exact ⟨[], settles_quiet (.refl _) rfl hsound, iff_nil_ne_nil not_false⟩
    | notConnected =>
      obtain rfl := Option.some.inj hstep
      exact ⟨[], settles_recordPendingDrops _ (List.append_nil numbers) rfl hsound,
        iff_nil_ne_nil not_false⟩
    | cancel =>
      obtain rfl := Option.some.inj hstep
      exact ⟨[], settles_quiet (.refl _) rfl hsound,
        iff_nil_ne_nil (not_loses_cancel nofun nofun)⟩
    | _ => cases hstep
  | receiving =>
    cases op with
    | recv =>
      obtain ⟨⟨first, queue'⟩, hrecv, rfl⟩ := Option.map_eq_some_iff.1 hstep
      obtain ⟨rest, hqueue, rfl⟩ := DatagramChannel.tryRecv_eq_some.1 hrecv
      have hloses := loses_recv ⟨key, id, queue, numbers, .receiving⟩ trivial hqueue
      obtain ⟨uncounted, hsettles, hlarge⟩ := settles_take
        ⟨key, id, queue, numbers, .receiving⟩ { queue with queued := rest, held := _ } first [] []
        rfl rfl (hsound.trans (congrArg List.length hqueue))
      exact ⟨uncounted, hsettles, hloses.trans hlarge⟩
    | endRelay =>
      obtain rfl := Option.some.inj hstep
      exact ⟨[], settles_quiet (.refl _) rfl hsound, iff_nil_ne_nil not_false⟩
    | cancel =>
      obtain rfl := Option.some.inj hstep
      exact ⟨[], settles_quiet (.refl _) rfl hsound,
        iff_nil_ne_nil (not_loses_cancel nofun nofun)⟩
    | _ => cases hstep
  | batching batch taken =>
    obtain ⟨htracked, htaken⟩ := hsound
    cases op with
    | recv =>
      dsimp only [step] at hstep
      split at hstep
      · next hroom =>
        split at hstep
        · next payload queue' hrecv =>
          obtain rfl := Option.some.inj hstep
          obtain ⟨rest, hqueue, rfl⟩ := DatagramChannel.tryRecv_eq_some.1 hrecv
          have hloses := loses_recv ⟨key, id, queue, numbers, .batching batch taken⟩ hroom hqueue
          obtain ⟨uncounted, hsettles, hlarge⟩ := settles_take
            ⟨key, id, queue, numbers, .batching batch taken⟩ { queue with queued := rest } payload
            batch taken rfl rfl (htracked.trans (congrArg List.length hqueue))
          exact ⟨uncounted, hsettles, hloses.trans hlarge⟩
        · next hrecv =>
          obtain rfl := Option.some.inj hstep
          have hempty := DatagramChannel.tryRecv_eq_none.1 hrecv
          refine ⟨[], settles_quiet (.refl _) rfl ⟨htracked, htaken⟩, iff_nil_ne_nil ?_⟩
          rintro ⟨-, payload, rest, hqueue, -⟩
          exact List.cons_ne_nil payload rest (hqueue.symm.trans hempty)
      · next hroom =>
        obtain rfl := Option.some.inj hstep
        refine ⟨[], settles_quiet (.refl _) rfl ⟨htracked, htaken⟩, iff_nil_ne_nil ?_⟩
        rintro ⟨htakes, -⟩
        exact hroom htakes
    | _ => cases hstep
  | writing inFlight =>
    obtain ⟨htracked, hinFlight⟩ := hsound
    have hlive : (numbers ++ inFlight).Perm (numbers ++ [] ++ inFlight) :=
      .of_eq (congrArg (· ++ inFlight) (List.append_nil numbers).symm)
    cases op with
    | written | endRelay =>
      obtain rfl := Option.some.inj hstep
      refine ⟨[], ⟨rfl, ?_, .refl _, htracked⟩, iff_nil_ne_nil not_false⟩
      exact hlive.trans (.of_eq (congrArg _ (List.append_nil inFlight).symm))
    | cancel =>
      obtain rfl := Option.some.inj hstep
      exact ⟨inFlight, ⟨rfl, hlive, .refl _, htracked⟩,
        iff_of_true (.inr ⟨inFlight, rfl⟩) hinFlight⟩
    | _ => cases hstep
  | dropping =>
    cases op with
    | drop =>
      obtain rfl := Option.some.inj hstep
      exact ⟨[], settles_recordPendingDrops _ (List.append_nil numbers) rfl hsound,
        iff_nil_ne_nil not_false⟩
    | _ => cases hstep
  | closing =>
    cases op with
    | close =>
      obtain rfl := Option.some.inj hstep
      exact ⟨[], ⟨rfl, .refl [], .of_eq (List.append_nil numbers).symm, ⟨rfl, rfl⟩⟩,
        iff_nil_ne_nil not_false⟩
    | _ => cases hstep
  | ended =>
    cases op with
    | report =>
      obtain rfl := Option.some.inj hstep
      exact ⟨[], settles_quiet (.refl _) rfl hsound, iff_nil_ne_nil not_false⟩
    | _ => cases hstep
  | reported => cases op <;> cases hstep

theorem not_closed_of_trySend {queue queue' : DatagramChannel} {payload : Bytes}
    (h : queue.trySend payload = .ok queue') : ¬queue.closed = true := by
  intro hclosed
  rw [DatagramChannel.trySend, if_pos hclosed] at h
  split at h <;> cases h

/-- A session gets another datagram, which is past being counted if what is queued has been. -/
theorem settles_enqueue (hsound : x.Sound) {queue : DatagramChannel} {payload : Bytes}
    (hsend : x.queue.trySend payload = .ok queue) (number : ℕ) :
    ∃ uncounted,
      (x.live ++ [number]).Perm
        (({ x with queue := queue, numbers := x.numbers ++ [number] } : Session).live ++
          uncounted) ∧
      ({ x with queue := queue, numbers := x.numbers ++ [number] } : Session).doomed.Perm
        (x.doomed ++ uncounted) ∧
      ({ x with queue := queue, numbers := x.numbers ++ [number] } : Session).Sound ∧
      (x.stage = .closing ↔ uncounted ≠ []) := by
  have hopen := not_closed_of_trySend hsend
  obtain rfl := DatagramChannel.trySend_ok hsend
  have hlength : ∀ {numbers : List ℕ} {queued : List Bytes}, numbers.length = queued.length →
      (numbers ++ [number]).length = (queued ++ [payload]).length := by
    intro numbers queued h
    rw [List.length_append, List.length_append, h]
    rfl
  have hlive : ∀ numbers taken : List ℕ, (numbers ++ taken ++ [number]).Perm
      (numbers ++ [number] ++ taken ++ []) := by
    intro numbers taken
    rw [List.append_nil, List.append_assoc, List.append_assoc]
    exact List.perm_append_comm.append_left numbers
  obtain ⟨key, id, queue, numbers, stage⟩ := x
  cases stage with
  | spawned =>
    exact ⟨[], hlive numbers [], .refl [], ⟨hlength hsound.1, by simp⟩, iff_nil_ne_nil nofun⟩
  | establishing | receiving | dropping =>
    exact ⟨[], hlive numbers [], .refl [], hlength hsound, iff_nil_ne_nil nofun⟩
  | batching batch taken =>
    exact ⟨[], hlive numbers taken, .refl [], ⟨hlength hsound.1, hsound.2⟩, iff_nil_ne_nil nofun⟩
  | writing inFlight =>
    exact ⟨[], hlive numbers inFlight, .refl [], ⟨hlength hsound.1, hsound.2⟩, iff_nil_ne_nil nofun⟩
  | closing =>
    exact ⟨[number], .refl _, .refl _, trivial, iff_of_true rfl (List.cons_ne_nil number [])⟩
  | ended => exact absurd hsound.2 hopen
  | reported => exact absurd hsound.2 hopen

end Session

/-! ### What an event makes of the datagrams -/

namespace Listener

/-- The datagrams that can still be counted. -/
def live (s : Listener) : List ℕ := s.tasks.flatMap Session.live

/-- The datagrams that were lost or are past being counted. -/
def uncounted (s : Listener) : List ℕ := s.lost ++ s.tasks.flatMap Session.doomed

def Sound (s : Listener) : Prop := ∀ (k : ℕ) (x : Session), s.tasks[k]? = some x → x.Sound

/-- A datagram goes into the queue of a session that has counted what is queued and has not closed
the queue yet. -/
def Late (s : Listener) (key : FlowKey) (payload : Bytes) : Prop :=
  ¬isIllegalCall key.destination s.cfg.outboundUdpPort ∧
    ∃ id k x queue, s.sessions.get key = some (id, k) ∧ s.tasks[k]? = some x ∧
      x.stage = .closing ∧ x.queue.trySend payload = .ok queue

/-- **How datagrams are lost**: by a session, or as they come late. -/
inductive Loses (s : Listener) : Event → Prop
  | task (k : ℕ) (x : Session) (op : Op) (htask : s.tasks[k]? = some x) (hloses : x.Loses op) :
    Loses s (.task k op)
  | late (source destination : SocketAddr) (payload : Bytes)
    (hlate : s.Late ⟨source.toCanonical, destination.toCanonical⟩ payload) :
    Loses s (.received (.datagram source destination payload))

/-- Some datagrams have arrived, some are counted, and some are past being counted. -/
structure Settles (s s' : Listener) (arrived counted uncounted : List ℕ) (counter : Counter) :
    Prop where
  ledger : s'.ledger = s.ledger ++ counted.map (·, counter)
  metrics : s'.metrics = s.metrics.record counted.length counter
  live : (s.live ++ arrived).Perm (s'.live ++ (counted ++ uncounted))
  uncounted : s'.uncounted.Perm (s.uncounted ++ uncounted)
  sound : s'.Sound

variable {s s' : Listener} {e : Event}

/-- Nothing happens to the datagrams. -/
theorem Settles.frame (hsound : s.Sound) (htasks : s'.tasks = s.tasks)
    (hledger : s'.ledger = s.ledger) (hmetrics : s'.metrics = s.metrics)
    (hlost : s'.lost = s.lost) : s.Settles s' [] [] [] .capsules where
  ledger := hledger.trans (List.append_nil _).symm
  metrics := hmetrics
  live := by
    rw [Listener.live, Listener.live, htasks]
    exact .refl _
  uncounted := by
    rw [Listener.uncounted, Listener.uncounted, htasks, hlost, List.append_nil]
  sound := by
    rw [Sound, htasks]
    exact hsound

theorem settles_record (hsound : s.Sound) (sessions : SessionTable) (reason : UdpDropReason)
    (number : ℕ) :
    s.Settles (record { s with sessions := sessions } (.drops reason) 1 [number]) [number] [number]
      [] (.drops reason) where
  ledger := rfl
  metrics := rfl
  live := .refl _
  uncounted := .of_eq (List.append_nil _).symm
  sound := hsound

/-- A datagram opens a session. -/
theorem settles_concat (hsound : s.Sound) (sessions : SessionTable) {x : Session} {number : ℕ}
    (hlive : x.live = [number]) (hdoomed : x.doomed = []) (hx : x.Sound) :
    s.Settles { s with sessions := sessions, tasks := s.tasks ++ [x] } [number] [] []
      .capsules where
  ledger := (List.append_nil _).symm
  metrics := rfl
  live := by
    rw [Listener.live, Listener.live, List.flatMap_append, List.flatMap_singleton, hlive]
    exact .of_eq (List.append_nil _).symm
  uncounted := by
    rw [Listener.uncounted, Listener.uncounted, List.flatMap_append, List.flatMap_singleton,
      hdoomed, List.append_nil, List.append_nil]
  sound := List.forall_getElem?_concat hsound hx

theorem settles_openSession (hsound : s.Sound) (sessions : SessionTable) (key : FlowKey)
    (number : ℕ) (payload : Bytes) :
    ∃ counted counter, s.Settles (openSession { s with sessions := sessions } key number payload)
      [number] counted [] counter := by
  unfold openSession
  split
  · exact ⟨_, _, settles_record hsound sessions .draining number⟩
  split
  · exact ⟨_, _, settles_record hsound sessions .sessionLimit number⟩
  · next id replaced sessions' hinsert =>
    -- a new queue takes its first datagram, so the session is always spawned
    dsimp only
    rw [DatagramChannel.trySend_new]
    exact ⟨_, _, settles_concat hsound sessions' rfl rfl ⟨rfl, List.cons_ne_nil number []⟩⟩

/-- A session changes, and nothing happens to the datagrams of the others. -/
theorem settles_set {k : ℕ} {x x' : Session} {arrived counted uncounted lost : List ℕ}
    {counter : Counter} (hsound : s.Sound) (htask : s.tasks[k]? = some x)
    (htasks : s'.tasks = s.tasks.set k x') (hlost : s'.lost = s.lost ++ lost)
    (hledger : s'.ledger = s.ledger ++ counted.map (·, counter))
    (hmetrics : s'.metrics = s.metrics.record counted.length counter)
    (hlive : (x.live ++ arrived).Perm (x'.live ++ (counted ++ uncounted)))
    (hdoomed : (x'.doomed ++ lost).Perm (x.doomed ++ uncounted)) (hx' : x'.Sound) :
    s.Settles s' arrived counted uncounted counter where
  ledger := hledger
  metrics := hmetrics
  live := by
    rw [Listener.live, Listener.live, htasks]
    exact Semaphore.flatMap_set_exchange htask Session.live hlive
  uncounted := by
    have hexchange := Semaphore.flatMap_set_exchange htask Session.doomed hdoomed.symm
    rw [Listener.uncounted, Listener.uncounted, htasks, hlost, List.append_assoc,
      List.append_assoc]
    exact (List.perm_append_comm.trans hexchange.symm).append_left s.lost
  sound := by
    rw [Sound, htasks]
    exact List.forall_getElem?_set (fun j y hj _ ↦ hsound j y hj) hx'

theorem late_iff {key : FlowKey} {id : UInt64} {k : ℕ} {x : Session} (payload : Bytes)
    (hlegal : ¬isIllegalCall key.destination s.cfg.outboundUdpPort)
    (hget : s.sessions.get key = some (id, k)) (htask : s.tasks[k]? = some x) :
    s.Late key payload ↔ x.stage = .closing ∧ ∃ queue, x.queue.trySend payload = .ok queue := by
  constructor
  · rintro ⟨-, id', k', x', queue, hget', htask', hstage, hsend⟩
    rw [hget] at hget'
    cases hget'
    rw [htask] at htask'
    cases htask'
    exact ⟨hstage, queue, hsend⟩
  · rintro ⟨hstage, queue, hsend⟩
    exact ⟨hlegal, id, k, x, queue, hget, htask, hstage, hsend⟩

/-- **What the dispatcher makes of a datagram**: it is counted, or goes to a session. -/
theorem settles_dispatch (hsound : s.Sound) (key : FlowKey) (number : ℕ) (payload : Bytes) :
    ∃ counted uncounted counter,
      s.Settles (s.dispatch key number payload) [number] counted uncounted counter ∧
      (s.Late key payload ↔ uncounted ≠ []) := by
  have hopened := fun sessions ↦ settles_openSession hsound sessions key number
  unfold dispatch
  split
  · next hillegal =>
    exact ⟨_, [], _, settles_record hsound s.sessions .selfRedirect number,
      iff_nil_ne_nil fun hlate ↦ hlate.1 hillegal⟩
  next hlegal =>
  split
  · next hget =>
    obtain ⟨counted, counter, hsettles⟩ := hopened s.sessions payload
    refine ⟨counted, [], counter, hsettles, iff_nil_ne_nil ?_⟩
    rintro ⟨-, id, k, x, queue, hget', -⟩
    exact absurd (hget.symm.trans hget') (Option.some_ne_none _).symm
  next id k hget =>
  split
  · next htask =>
    obtain ⟨counted, counter, hsettles⟩ := hopened s.sessions payload
    refine ⟨counted, [], counter, hsettles, iff_nil_ne_nil ?_⟩
    rintro ⟨-, id', k', x, queue, hget', htask', -⟩
    rw [hget] at hget'
    cases hget'
    exact absurd (htask.symm.trans htask') (Option.some_ne_none _).symm
  next x htask =>
  have hlate := late_iff payload hlegal hget htask
  split
  · next queue hsend =>
    obtain ⟨uncounted, hlive, hdoomed, hx', hclosing⟩ :=
      Session.settles_enqueue (hsound k x htask) hsend number
    refine ⟨[], uncounted, .capsules, settles_set hsound htask rfl (List.append_nil _).symm
      (List.append_nil _).symm rfl hlive ?_ hx', ?_⟩
    · exact (List.append_nil _).symm ▸ hdoomed
    · rw [hlate, ← hclosing]
      exact ⟨fun h ↦ h.1, fun h ↦ ⟨h, queue, hsend⟩⟩
  · next hsend =>
    refine ⟨_, [], _, settles_record hsound s.sessions .sessionQueue number,
      iff_nil_ne_nil ?_⟩
    rw [hlate]
    rintro ⟨-, queue, hsend'⟩
    rw [hsend] at hsend'
    cases hsend'
  · next returned hsend =>
    obtain ⟨counted, counter, hsettles⟩ := hopened (s.sessions.complete key id) returned
    refine ⟨counted, [], counter, hsettles, iff_nil_ne_nil ?_⟩
    rw [hlate]
    rintro ⟨-, queue, hsend'⟩
    rw [hsend] at hsend'
    cases hsend'

theorem received_openSession (s : Listener) (key : FlowKey) (number : ℕ) (payload : Bytes) :
    (s.openSession key number payload).received = s.received := by
  unfold openSession
  split
  · rfl
  split
  · rfl
  · dsimp only
    split <;> rfl

theorem received_dispatch (s : Listener) (key : FlowKey) (number : ℕ) (payload : Bytes) :
    (s.dispatch key number payload).received = s.received := by
  unfold dispatch
  split
  · rfl
  split
  · exact received_openSession ..
  split
  · exact received_openSession ..
  split
  · rfl
  · rfl
  · exact received_openSession ..

theorem settles_receive (hsound : s.Sound) (message : Message) :
    ∃ counted uncounted counter,
      s.Settles (s.receive message) [s.received] counted uncounted counter ∧
      (s.receive message).received = s.received + 1 ∧
      (s.Loses (.received message) ↔ uncounted ≠ []) := by
  cases message with
  | truncated | missingOriginalDestination =>
    refine ⟨_, [], _, ⟨rfl, rfl, .refl _, .of_eq (List.append_nil _).symm, hsound⟩, rfl,
      iff_nil_ne_nil ?_⟩
    rintro ⟨⟩
  | datagram source destination payload =>
    obtain ⟨counted, uncounted, counter, hsettles, hlate⟩ := settles_dispatch
      (s := { s with received := s.received + 1 }) hsound
      ⟨source.toCanonical, destination.toCanonical⟩ s.received payload
    refine ⟨counted, uncounted, counter, ⟨hsettles.ledger, hsettles.metrics, hsettles.live,
      hsettles.uncounted, hsettles.sound⟩, received_dispatch .., ?_⟩
    refine Iff.trans ⟨fun h ↦ ?_, .late source destination payload⟩ hlate
    cases h with
    | late _ _ _ hlate => exact hlate

theorem settles_apply {k : ℕ} {x : Session} {op : Op} {effect : Effect} (hsound : s.Sound)
    (htask : s.tasks[k]? = some x) (hstep : x.step op = some effect) :
    ∃ uncounted, s.Settles (s.apply k effect) [] effect.counted uncounted effect.counter ∧
      (s.Loses (.task k op) ↔ uncounted ≠ []) := by
  obtain ⟨uncounted, hsettles, hloses⟩ := Session.settles_of_step (hsound k x htask) hstep
  refine ⟨uncounted, settles_set hsound htask rfl rfl rfl ?_ ?_ hsettles.doomed hsettles.sound, ?_⟩
  · exact congrArg (s.metrics.record · effect.counter) hsettles.count
  · exact (List.append_nil x.live).symm ▸ hsettles.live
  · refine Iff.trans ⟨fun h ↦ ?_, .task k x op htask⟩ hloses
    cases h with
    | task _ x' _ htask' hloses' =>
      rw [htask] at htask'
      cases htask'
      exact hloses'

/-- **What an event makes of the datagrams.** -/
theorem settles_of_stepped (hsound : s.Sound) (hstep : Stepped s e s') :
    ∃ arrived counted uncounted counter, s.Settles s' arrived counted uncounted counter ∧
      List.range s'.received = List.range s.received ++ arrived ∧
      (s.Loses e ↔ uncounted ≠ []) := by
  have hnone : List.range s.received = List.range s.received ++ [] := (List.append_nil _).symm
  have hflag : ∀ {t}, s.Settles t [] [] [] .capsules → t.received = s.received → ¬s.Loses e →
      ∃ arrived counted uncounted counter, s.Settles t arrived counted uncounted counter ∧
        List.range t.received = List.range s.received ++ arrived ∧
        (s.Loses e ↔ uncounted ≠ []) :=
    fun hsettles hreceived hloses ↦
      ⟨[], [], [], .capsules, hsettles, hreceived ▸ hnone, iff_nil_ne_nil hloses⟩
  cases hstep with
  | forced | drains | returned | completed m rest =>
    exact hflag (.frame hsound rfl rfl rfl rfl) rfl nofun
  | received message =>
    obtain ⟨counted, uncounted, counter, hsettles, hreceived, hloses⟩ :=
      settles_receive hsound message
    refine ⟨[s.received], counted, uncounted, counter, hsettles, ?_, hloses⟩
    rw [hreceived, List.range_succ]
  | task k op x effect completed htask heffect =>
    obtain ⟨uncounted, hsettles, hloses⟩ := settles_apply hsound htask heffect
    exact ⟨[], effect.counted, uncounted, effect.counter, ⟨hsettles.ledger, hsettles.metrics,
      hsettles.live, hsettles.uncounted, hsettles.sound⟩, hnone, hloses⟩

end Listener

/-! ### Runs -/

/-- No event of a run loses a datagram. -/
def Lossless (cfg : UdpConfig) (events : List Event) : Prop :=
  Throughout (fun s e ↦ ¬s.Loses e) Listener.step (Listener.new cfg) events

namespace Listener

variable {s s' : Listener} {e : Event}

/-- The datagrams that were received are those that were counted, those that can be and those that
are past it, and the counters say what the ledger does. -/
structure Balanced (s : Listener) : Prop where
  datagrams : (List.range s.received).Perm (s.ledger.map Prod.fst ++ (s.live ++ s.uncounted))
  counters : ∀ c, s.metrics.count c = s.ledger.countP (·.2 = c)
  sound : s.Sound

theorem Balanced.new (cfg : UdpConfig) : (Listener.new cfg).Balanced where
  datagrams := .refl []
  counters c := by cases c <;> rfl
  sound _ _ h := by cases h

theorem count_record (m : UdpMetrics) (count : ℕ) (counter c : Counter) :
    (m.record count counter).count c = m.count c + if counter = c then count else 0 := by
  cases counter with
  | capsules => cases c <;> rfl
  | drops reason =>
    cases c with
    | capsules => rfl
    | drops reason' =>
      by_cases h : reason = reason'
      · subst h
        simp [UdpMetrics.record, UdpMetrics.recordDrop, UdpMetrics.count]
      · simp [UdpMetrics.record, UdpMetrics.recordDrop, UdpMetrics.count, h, Ne.symm h]

theorem Balanced.step (h : s.Balanced) (hstep : Stepped s e s') : s'.Balanced := by
  obtain ⟨arrived, counted, uncounted, counter, hsettles, hreceived, -⟩ :=
    settles_of_stepped h.sound hstep
  refine ⟨?_, fun c ↦ ?_, hsettles.sound⟩
  · have hfst : (counted.map (·, counter)).map Prod.fst = counted := by
      rw [List.map_map]
      exact List.map_id counted
    rw [hreceived, hsettles.ledger, List.map_append, hfst]
    refine List.perm_iff_count.2 fun a ↦ ?_
    have hdatagrams := h.datagrams.count_eq a
    have hlive := hsettles.live.count_eq a
    have huncounted := hsettles.uncounted.count_eq a
    simp only [List.count_append] at hdatagrams hlive huncounted ⊢
    omega
  · rw [hsettles.metrics, count_record, hsettles.ledger, List.countP_append, h.counters c,
      List.countP_map]
    congr 1
    by_cases hcounter : counter = c
    · simp [hcounter, Function.comp_def]
    · simp [hcounter, Function.comp_def]

/-- Along a run the datagrams stay balanced, and all can be counted if no event loses one. -/
theorem balanced_of_run {cfg : UdpConfig} {events : List Event}
    (hrun : run Listener.step (Listener.new cfg) events = some s) :
    s.Balanced ∧ (s.uncounted = [] ↔ Lossless cfg events) := by
  have hinduction := run_induction_past (I := fun past t ↦
    run Listener.step (Listener.new cfg) past = some t ∧ t.Balanced ∧
      (t.uncounted = [] ↔ Lossless cfg past)) hrun ?_ ?_
  · exact hinduction.2
  · exact ⟨rfl, .new cfg, iff_of_true rfl throughout_nil⟩
  · rintro past e t t' ⟨hpast, hbalanced, hlossless⟩ hstep
    have hstepped := stepped_of_step hstep
    refine ⟨?_, hbalanced.step hstepped, ?_⟩
    · rw [run_append, hpast]
      exact run_cons_eq_some.2 ⟨t', hstep, rfl⟩
    · obtain ⟨_, _, uncounted, _, hsettles, -, hloses⟩ :=
        settles_of_stepped hbalanced.sound hstepped
      have hnil : t'.uncounted = [] ↔ t.uncounted = [] ∧ uncounted = [] := by
        rw [← List.append_eq_nil_iff, ← List.length_eq_zero_iff, hsettles.uncounted.length_eq,
          List.length_eq_zero_iff]
      rw [hnil, Lossless, throughout_concat hpast, hloses, not_not, hlossless, Lossless]

theorem live_eq_nil (hsound : s.Sound) (hended : ∀ x ∈ s.tasks, x.Ended) : s.live = [] := by
  refine List.flatMap_eq_nil_iff.2 fun x hx ↦ ?_
  obtain ⟨k, hk⟩ := List.mem_iff_getElem?.1 hx
  have hx' := hsound k x hk
  obtain ⟨key, id, queue, numbers, stage⟩ := x
  obtain rfl | rfl := hended _ hx
  · exact (congrArg (· ++ []) hx'.1).trans rfl
  · exact (congrArg (· ++ []) hx'.1).trans rfl

/-- Every datagram was counted once, and the counters have counted nothing else. -/
structure AllCounted (s : Listener) : Prop where
  once : (s.ledger.map Prod.fst).Perm (List.range s.received)
  counters : ∀ c, s.metrics.count c = s.ledger.countP (·.2 = c)

/-- **Accounting for datagrams**, for any interleaving: once all sessions have ended, every datagram
that was received has been counted once, in the capsules or under one reason, if and only if no
event of the run has lost one. -/
theorem allCounted_iff {cfg : UdpConfig} {events : List Event}
    (hrun : run Listener.step (Listener.new cfg) events = some s)
    (hended : ∀ x ∈ s.tasks, x.Ended) : s.AllCounted ↔ Lossless cfg events := by
  obtain ⟨hbalanced, hlossless⟩ := balanced_of_run hrun
  have hdatagrams := hbalanced.datagrams
  rw [live_eq_nil hbalanced.sound hended, List.nil_append] at hdatagrams
  rw [← hlossless]
  constructor
  · intro h
    have hlength := h.once.length_eq.trans hdatagrams.length_eq
    rw [List.length_append] at hlength
    exact List.length_eq_zero_iff.1 (by omega)
  · intro h
    rw [h, List.append_nil] at hdatagrams
    exact ⟨hdatagrams.symm, hbalanced.counters⟩

/-! ### Two shutdowns -/

def sampleConfig : UdpConfig := ⟨8, 8, 1024, 15009⟩

/-- A datagram from a client to a resolver. -/
def sampleQuery : Event :=
  .received (.datagram ⟨.v4 0x0a000001, 40000⟩ ⟨.v4 0x08080808, 53⟩ [1])

/-- The shutdown is forced while the session is being established. -/
def cutEstablishment : List Event :=
  [sampleQuery, .task 0 .poll, .forceShutdown, .task 0 .cancel, .task 0 .drop, .task 0 .close]

/-- The shutdown is forced while a batch is in flight. -/
def cutWrite : List Event :=
  [sampleQuery, .task 0 .poll, .task 0 .connected, .task 0 .recv, .task 0 .recv, .forceShutdown,
    .task 0 .cancel, .task 0 .drop, .task 0 .close]

theorem ended_of_stages (h : s.tasks.map Session.stage = [.ended]) : ∀ x ∈ s.tasks, x.Ended := by
  intro x hx
  have hstage := List.mem_map_of_mem (f := Session.stage) hx
  rw [h, List.mem_singleton] at hstage
  exact .inl hstage

theorem allCounted_iff_cutEstablishment :
    ∃ s, run Listener.step (Listener.new sampleConfig) cutEstablishment = some s ∧
      s.ledger = [(0, .drops .sessionEnd)] ∧ Lossless sampleConfig cutEstablishment := by
  obtain ⟨s, hrun, hstages, hreceived, hledger⟩ : ∃ s,
      run Listener.step (Listener.new sampleConfig) cutEstablishment = some s ∧
      s.tasks.map Session.stage = [.ended] ∧ s.received = 1 ∧
      s.ledger = [(0, .drops .sessionEnd)] :=
    ⟨_, rfl, rfl, rfl, rfl⟩
  refine ⟨s, hrun, hledger, (allCounted_iff hrun (ended_of_stages hstages)).1 ⟨?_, ?_⟩⟩
  · rw [hledger, hreceived]
    exact .refl [0]
  · exact (balanced_of_run hrun).1.counters

/-- **A batch in flight is forgotten** when the shutdown is forced: no counter has gone up. -/
theorem cancelled_write_not_counted :
    ∃ s, run Listener.step (Listener.new sampleConfig) cutWrite = some s ∧
      (∀ x ∈ s.tasks, x.Ended) ∧ s.received = 1 ∧ (∀ c, s.metrics.count c = 0) ∧
      ¬s.AllCounted := by
  obtain ⟨s, hrun, hstages, hreceived, hledger⟩ : ∃ s,
      run Listener.step (Listener.new sampleConfig) cutWrite = some s ∧
      s.tasks.map Session.stage = [.ended] ∧ s.received = 1 ∧ s.ledger = [] :=
    ⟨_, rfl, rfl, rfl, rfl⟩
  refine ⟨s, hrun, ended_of_stages hstages, hreceived, fun c ↦ ?_, fun h ↦ ?_⟩
  · rw [(balanced_of_run hrun).1.counters c, hledger, List.countP_nil]
  · have hlength := h.once.length_eq
    rw [hledger, hreceived] at hlength
    cases hlength

end Listener

end Ztunnel.Proxy.Accounting
