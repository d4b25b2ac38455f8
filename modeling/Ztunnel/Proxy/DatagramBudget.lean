import Ztunnel.Lib.KeyedLock
import Ztunnel.Lib.Semaphore
import Ztunnel.Lib.Transition
import Ztunnel.Proxy.DatagramChannel

/-!
# The byte budget of a datagram queue

`DatagramSender::try_send` takes permits for the bytes of a datagram from a semaphore, and then
offers the datagram to a bounded channel, which may be full or closed; the permits go with the
datagram, through the queue and to the receiver, and are given back when it is dropped. Senders run
in parallel, so the two accesses of a call are steps of their own, and so is the drop of a datagram
that the channel gives back.

What a call, the queue or the receiver holds is a `QueuedDatagram` with its permits. The permits
that are left and those that are held make up the budget in every state (`Accounted`); the rest is
`Semaphore.sum_size_le_or_alone`. `DatagramChannel` is the queue as a single call at a time sees it,
and a call that is not interrupted does what its `trySend` says (`trySend_eq_call`).
-/

namespace Ztunnel.Proxy

open Capsule (Bytes)
open Semaphore (share Conserves)
open Transition

/-! ### The queue and its calls -/

/-- `QueuedDatagram`, with the permits it holds and the call of `try_send` it came from. -/
structure QueuedDatagram where
  call : ℕ
  payload : Bytes
  permits : ℕ
deriving DecidableEq

/-- Where a call of `try_send` is. -/
inductive TrySend where
  /-- Before `try_acquire_many_owned`. -/
  | entered
  /-- Before `try_send` of the channel. -/
  | acquired (queued : QueuedDatagram)
  /-- The channel was closed or full and has given the datagram back. -/
  | rejected (queued : QueuedDatagram) (closed : Bool)
  | returned (result : Except DatagramTrySendError Unit)

/-- The datagram that a call holds. -/
def TrySend.held : TrySend → List QueuedDatagram
  | .acquired queued | .rejected queued _ => [queued]
  | .entered | .returned _ => []

/-- A call of `try_send`. -/
structure SendCall where
  payload : Bytes
  phase : TrySend

/-- The semaphore and the channel, what the receiver holds, and the calls so far. The datagrams that
were accepted and received are kept for the statements, in order. -/
structure DatagramQueue where
  maxDatagrams : ℕ
  maxBytes : ℕ
  available : ℕ
  queued : List QueuedDatagram
  held : List QueuedDatagram
  closed : Bool
  calls : List SendCall
  accepted : List QueuedDatagram
  received : List QueuedDatagram

namespace DatagramQueue

/-- `datagram_channel_with_limits`. -/
def new (maxDatagrams maxBytes : ℕ) : DatagramQueue where
  maxDatagrams := max maxDatagrams 1
  maxBytes := min (max maxBytes 1) u32Max
  available := min (max maxBytes 1) u32Max
  queued := []
  held := []
  closed := false
  calls := []
  accepted := []
  received := []

/-- The datagrams that calls hold. -/
def inHand (q : DatagramQueue) : List QueuedDatagram := q.calls.flatMap (·.phase.held)

/-- The datagrams that hold permits. -/
def outstanding (q : DatagramQueue) : List QueuedDatagram := q.queued ++ (q.held ++ q.inHand)

inductive Event where
  | call (payload : Bytes)
  | acquire (k : ℕ)
  | send (k : ℕ)
  /-- A datagram that was given back is dropped, and the call returns. -/
  | giveBack (k : ℕ)
  | recv
  /-- The receiver drops a datagram it holds. -/
  | drop (j : ℕ)
  /-- The receiver is dropped, and what is queued with it. -/
  | close

/-- A call goes on. -/
def goOn (q : DatagramQueue) (k : ℕ) (payload : Bytes) (phase : TrySend) : DatagramQueue :=
  { q with calls := q.calls.set k ⟨payload, phase⟩ }

/-- One access to the semaphore or the channel. -/
def step (q : DatagramQueue) : Event → Option DatagramQueue
  | .call payload => some { q with calls := q.calls ++ [⟨payload, .entered⟩] }
  | .acquire k =>
    match q.calls[k]? with
    | some ⟨payload, .entered⟩ =>
      let permits := share q.maxBytes payload.length
      if q.available < permits then some (q.goOn k payload (.returned (.error .full)))
      else some { q.goOn k payload (.acquired ⟨k, payload, permits⟩) with
        available := q.available - permits }
    | _ => none
  | .send k =>
    match q.calls[k]? with
    | some ⟨payload, .acquired queued⟩ =>
      if q.closed then some (q.goOn k payload (.rejected queued true))
      else if q.queued.length ≥ q.maxDatagrams then
        some (q.goOn k payload (.rejected queued false))
      else some { q.goOn k payload (.returned (.ok ())) with
        queued := q.queued ++ [queued]
        accepted := q.accepted ++ [queued] }
    | _ => none
  | .giveBack k =>
    match q.calls[k]? with
    | some ⟨payload, .rejected queued closed⟩ =>
      some { q.goOn k payload
          (.returned (.error (if closed then .closed queued.payload else .full))) with
        available := q.available + queued.permits }
    | _ => none
  | .recv =>
    match q.queued with
    | [] => none
    | queued :: rest => some { q with
        queued := rest
        held := q.held ++ [queued]
        received := q.received ++ [queued] }
  | .drop j =>
    match q.held[j]? with
    | none => none
    | some queued => some { q with
        available := q.available + queued.permits
        held := q.held.eraseIdx j }
  | .close => some { q with
      available := q.available + (q.queued.map QueuedDatagram.permits).sum
      queued := []
      closed := true }

/-! ### What a step can do -/

/-- The transitions of the queue. -/
inductive Stepped (q : DatagramQueue) : Event → DatagramQueue → Prop
  | called (payload : Bytes) :
    Stepped q (.call payload) { q with calls := q.calls ++ [⟨payload, .entered⟩] }
  | exhausted (k : ℕ) (payload : Bytes) (hcall : q.calls[k]? = some ⟨payload, .entered⟩) :
    Stepped q (.acquire k) (q.goOn k payload (.returned (.error .full)))
  | acquired (k : ℕ) (payload : Bytes) (hcall : q.calls[k]? = some ⟨payload, .entered⟩)
    (hpermits : share q.maxBytes payload.length ≤ q.available) :
    Stepped q (.acquire k)
      { q.goOn k payload (.acquired ⟨k, payload, share q.maxBytes payload.length⟩) with
        available := q.available - share q.maxBytes payload.length }
  | rejected (k : ℕ) (payload : Bytes) (queued : QueuedDatagram) (closed : Bool)
    (hcall : q.calls[k]? = some ⟨payload, .acquired queued⟩) :
    Stepped q (.send k) (q.goOn k payload (.rejected queued closed))
  | accepted (k : ℕ) (payload : Bytes) (queued : QueuedDatagram)
    (hcall : q.calls[k]? = some ⟨payload, .acquired queued⟩) (hopen : q.closed = false) :
    Stepped q (.send k)
      { q.goOn k payload (.returned (.ok ())) with
        queued := q.queued ++ [queued]
        accepted := q.accepted ++ [queued] }
  | gaveBack (k : ℕ) (payload : Bytes) (queued : QueuedDatagram) (closed : Bool)
    (hcall : q.calls[k]? = some ⟨payload, .rejected queued closed⟩) :
    Stepped q (.giveBack k)
      { q.goOn k payload
          (.returned (.error (if closed then .closed queued.payload else .full))) with
        available := q.available + queued.permits }
  | received (queued : QueuedDatagram) (rest : List QueuedDatagram)
    (hqueued : q.queued = queued :: rest) :
    Stepped q .recv
      { q with
        queued := rest
        held := q.held ++ [queued]
        received := q.received ++ [queued] }
  | dropped (j : ℕ) (queued : QueuedDatagram) (hheld : q.held[j]? = some queued) :
    Stepped q (.drop j)
      { q with
        available := q.available + queued.permits
        held := q.held.eraseIdx j }
  | closed :
    Stepped q .close
      { q with
        available := q.available + (q.queued.map QueuedDatagram.permits).sum
        queued := []
        closed := true }

theorem stepped_of_step {q q' : DatagramQueue} {e : Event} (h : q.step e = some q') :
    Stepped q e q' := by
  cases e with
  | call payload =>
    cases h
    exact .called payload
  | acquire k =>
    dsimp only [step] at h
    split at h
    · next payload hcall =>
      split at h <;> cases h
      · exact .exhausted k payload hcall
      · next hpermits => exact .acquired k payload hcall (Nat.le_of_not_lt hpermits)
    · cases h
  | send k =>
    dsimp only [step] at h
    split at h
    · next payload queued hcall =>
      split at h
      · cases h
        exact .rejected k payload queued true hcall
      · next hopen =>
        split at h <;> cases h
        · exact .rejected k payload queued false hcall
        · exact .accepted k payload queued hcall (Bool.eq_false_iff.2 hopen)
    · cases h
  | giveBack k =>
    dsimp only [step] at h
    split at h
    · next payload queued closed hcall =>
      cases h
      exact .gaveBack k payload queued closed hcall
    · cases h
  | recv =>
    dsimp only [step] at h
    split at h
    · cases h
    · next queued rest hqueued =>
      cases h
      exact .received queued rest hqueued
  | drop j =>
    dsimp only [step] at h
    split at h
    · cases h
    · next queued hheld =>
      cases h
      exact .dropped j queued hheld
  | close =>
    cases h
    exact .closed

/-! ### The permits -/

/-- What a step does to the permits: datagrams change hands, one takes its permits, or some give
theirs back. -/
inductive Changed (q q' : DatagramQueue) : Prop
  | moved (havailable : q'.available = q.available)
    (hperm : q'.outstanding.Perm q.outstanding)
  | taken (d : QueuedDatagram) (hshare : d.permits = share q.maxBytes d.payload.length)
    (hle : d.permits ≤ q.available) (havailable : q'.available = q.available - d.permits)
    (hperm : q'.outstanding.Perm (d :: q.outstanding))
  | given (ds : List QueuedDatagram)
    (havailable : q'.available = q.available + (ds.map QueuedDatagram.permits).sum)
    (hperm : q.outstanding.Perm (ds ++ q'.outstanding))

variable {q q' : DatagramQueue} {e : Event}

/-- A call goes on, and the others hold what they held. -/
theorem inHand_goOn {k : ℕ} {payload : Bytes} {phase : TrySend}
    (hcall : q.calls[k]? = some ⟨payload, phase⟩) (phase' : TrySend) :
    ∃ rest, q.inHand.Perm (phase.held ++ rest) ∧
      (q.goOn k payload phase').inHand.Perm (phase'.held ++ rest) := by
  obtain ⟨rest, hold, hnew⟩ := Semaphore.flatMap_set_perm hcall (·.phase.held)
  exact ⟨rest, hold, hnew ⟨payload, phase'⟩⟩

theorem changed_of_stepped (h : Stepped q e q') : Changed q q' := by
  cases h with
  | called payload =>
    refine .moved rfl (List.Perm.of_eq ?_)
    simp [outstanding, inHand, TrySend.held]
  | exhausted k payload hcall =>
    obtain ⟨rest, hold, hnew⟩ := inHand_goOn hcall (.returned (.error .full))
    exact .moved rfl ((hnew.trans hold.symm).append_left _ |>.append_left _)
  | acquired k payload hcall hpermits =>
    obtain ⟨rest, hold, hnew⟩ :=
      inHand_goOn hcall (.acquired ⟨k, payload, share q.maxBytes payload.length⟩)
    refine .taken ⟨k, payload, share q.maxBytes payload.length⟩ rfl hpermits rfl ?_
    have hhand := hnew.trans (hold.symm.cons _)
    exact (((hhand.append_left _).trans List.perm_middle).append_left _).trans List.perm_middle
  | rejected k payload queued closed hcall =>
    obtain ⟨rest, hold, hnew⟩ := inHand_goOn hcall (.rejected queued closed)
    exact .moved rfl ((hnew.trans hold.symm).append_left _ |>.append_left _)
  | accepted k payload queued hcall hopen =>
    obtain ⟨rest, hold, hnew⟩ := inHand_goOn hcall (.returned (.ok ()))
    have hhand : q.inHand.Perm (queued :: (q.goOn k payload (.returned (.ok ()))).inHand) :=
      hold.trans (hnew.symm.cons _)
    refine .moved rfl ?_
    rw [outstanding, List.append_assoc]
    refine List.Perm.append_left _ (List.Perm.symm ?_)
    exact (hhand.append_left _).trans List.perm_middle
  | gaveBack k payload queued closed hcall =>
    obtain ⟨rest, hold, hnew⟩ := inHand_goOn hcall
      (.returned (.error (if closed then .closed queued.payload else .full)))
    have hhand := hold.trans (hnew.symm.cons queued)
    refine .given [queued] rfl ?_
    exact (((hhand.append_left _).trans List.perm_middle).append_left _).trans List.perm_middle
  | received queued rest hqueued =>
    refine .moved rfl ?_
    rw [outstanding, outstanding, hqueued, List.append_assoc]
    exact (List.perm_middle.append_left _).trans List.perm_middle
  | dropped j queued hheld =>
    obtain ⟨hj, rfl⟩ := List.getElem?_eq_some_iff.1 hheld
    refine .given [q.held[j]] rfl ?_
    have hperm := (List.getElem_cons_eraseIdx_perm hj).symm
    exact ((hperm.append_right _).append_left _).trans List.perm_middle
  | closed => exact .given q.queued rfl (List.Perm.refl _)

theorem maxBytes_of_stepped (h : Stepped q e q') : q'.maxBytes = q.maxBytes := by
  cases h <;> rfl

/-- **The permits add up**, and each datagram holds the share of its payload. -/
structure Accounted (q : DatagramQueue) : Prop where
  positive : 0 < q.maxBytes
  conserves : Conserves q.maxBytes q.available QueuedDatagram.permits q.outstanding
  shares : ∀ d ∈ q.outstanding, d.permits = share q.maxBytes d.payload.length

theorem Accounted.new (maxDatagrams maxBytes : ℕ) : (new maxDatagrams maxBytes).Accounted where
  positive := lt_min (lt_max_of_lt_right Nat.one_pos) (by decide)
  conserves := Nat.add_zero _
  shares d hd := by cases hd

theorem Accounted.step (h : q.Accounted) (hstep : Stepped q e q') : q'.Accounted := by
  obtain ⟨hpositive, hconserves, hshares⟩ := h
  have hmax := maxBytes_of_stepped hstep
  refine ⟨hmax ▸ hpositive, ?_, ?_⟩
  · rw [hmax]
    cases changed_of_stepped hstep with
    | moved havailable hperm =>
      rw [havailable]
      exact hconserves.perm hperm
    | taken d hshare hle havailable hperm =>
      rw [havailable]
      exact hconserves.take hle hperm
    | given ds havailable hperm =>
      rw [havailable]
      exact hconserves.give hperm
  · rw [hmax]
    intro d hd
    cases changed_of_stepped hstep with
    | moved havailable hperm => exact hshares d (hperm.mem_iff.1 hd)
    | taken d' hshare hle havailable hperm =>
      obtain rfl | hold := List.mem_cons.1 (hperm.mem_iff.1 hd)
      · exact hshare
      · exact hshares d hold
    | given ds havailable hperm =>
      exact hshares d (hperm.mem_iff.2 (List.mem_append_right ds hd))

/-! ### The calls -/

/-- The calls know their datagrams: a call holds its own, one that returned `Ok` has had its
datagram accepted, and one that returned `Closed` returned its payload. -/
structure Tracked (q : DatagramQueue) : Prop where
  inHand : ∀ (k : ℕ) (call : SendCall), q.calls[k]? = some call →
    ∀ d ∈ call.phase.held, d.call = k ∧ d.payload = call.payload
  accepted : ∀ d ∈ q.accepted, q.calls[d.call]? = some ⟨d.payload, .returned (.ok ())⟩
  returned : ∀ (k : ℕ) (call : SendCall), q.calls[k]? = some call →
    call.phase = .returned (.ok ()) → ∃ d ∈ q.accepted, d.call = k
  closed : ∀ (k : ℕ) (call : SendCall), q.calls[k]? = some call →
    ∀ p, call.phase = .returned (.error (.closed p)) → p = call.payload
  kept : ∀ d ∈ q.queued ++ q.held, d ∈ q.accepted

namespace Tracked

variable {k : ℕ} {payload : Bytes} {queued : QueuedDatagram}

theorem new (maxDatagrams maxBytes : ℕ) : (new maxDatagrams maxBytes).Tracked where
  inHand k call h := by cases h
  accepted d h := by cases h
  returned k call h := by cases h
  closed k call h := by cases h
  kept d h := by cases h

/-- Permits or datagrams change hands, apart from the calls. -/
theorem frame (h : q.Tracked) (hcalls : q'.calls = q.calls) (haccepted : q'.accepted = q.accepted)
    (hkept : ∀ d ∈ q'.queued ++ q'.held, d ∈ q.queued ++ q.held) : q'.Tracked where
  inHand := hcalls ▸ h.inHand
  accepted := hcalls ▸ haccepted ▸ h.accepted
  returned := hcalls ▸ haccepted ▸ h.returned
  closed := hcalls ▸ h.closed
  kept d hd := haccepted ▸ h.kept d (hkept d hd)

/-- A call that has not returned goes on, and does not return `Ok`. -/
theorem goOn (h : q.Tracked) {phase phase' : TrySend} (hcall : q.calls[k]? = some ⟨payload, phase⟩)
    (hphase : phase ≠ .returned (.ok ()))
    (hheld : ∀ d ∈ phase'.held, d.call = k ∧ d.payload = payload)
    (hok : phase' ≠ .returned (.ok ()))
    (hclosed : ∀ p, phase' = .returned (.error (.closed p)) → p = payload) :
    (q.goOn k payload phase').Tracked where
  inHand := List.forall_getElem?_set (fun j call hj _ ↦ h.inHand j call hj) hheld
  accepted d hd := by
    have hret := h.accepted d hd
    have hne : k ≠ d.call := by
      rintro rfl
      rw [hcall] at hret
      exact hphase (congrArg SendCall.phase (Option.some.inj hret))
    exact (List.getElem?_set_ne hne).trans hret
  returned := List.forall_getElem?_set (fun j call hj _ ↦ h.returned j call hj)
    fun hphase' ↦ absurd hphase' hok
  closed := List.forall_getElem?_set (fun j call hj _ ↦ h.closed j call hj) hclosed
  kept := h.kept

/-- A call holds its own datagram. -/
theorem acquired (h : q.Tracked) (hcall : q.calls[k]? = some ⟨payload, .acquired queued⟩) :
    queued.call = k ∧ queued.payload = payload :=
  h.inHand k _ hcall queued List.mem_cons_self

theorem rejected (h : q.Tracked) {closed : Bool}
    (hcall : q.calls[k]? = some ⟨payload, .rejected queued closed⟩) :
    queued.call = k ∧ queued.payload = payload :=
  h.inHand k _ hcall queued List.mem_cons_self

theorem accept (h : q.Tracked) (hcall : q.calls[k]? = some ⟨payload, .acquired queued⟩) :
    Tracked { q.goOn k payload (.returned (.ok ())) with
      queued := q.queued ++ [queued]
      accepted := q.accepted ++ [queued] } where
  inHand := List.forall_getElem?_set (fun j call hj _ ↦ h.inHand j call hj) fun d hd ↦ by cases hd
  accepted d hd := by
    obtain ⟨rfl, rfl⟩ := h.acquired hcall
    obtain hold | hnew := List.mem_append.1 hd
    · have hret := h.accepted d hold
      have hne : queued.call ≠ d.call := by
        intro heq
        rw [← heq, hcall] at hret
        have hphase := congrArg SendCall.phase (Option.some.inj hret)
        cases hphase
      exact (List.getElem?_set_ne hne).trans hret
    · obtain rfl := List.mem_singleton.1 hnew
      exact List.getElem?_set_self (List.getElem?_eq_some_iff.1 hcall).1
  returned := by
    refine List.forall_getElem?_set (fun j call hj _ hphase ↦ ?_) fun _ ↦ ?_
    · obtain ⟨d, hd, hd'⟩ := h.returned j call hj hphase
      exact ⟨d, List.mem_append_left _ hd, hd'⟩
    · exact ⟨queued, List.mem_append_right _ (List.mem_singleton_self _), (h.acquired hcall).1⟩
  closed := List.forall_getElem?_set (fun j call hj _ ↦ h.closed j call hj) fun p hp ↦ by cases hp
  kept d hd := by
    rw [List.append_assoc, List.mem_append, List.mem_append] at hd
    obtain hqueued | hnew | hheld := hd
    · exact List.mem_append_left _ (h.kept d (List.mem_append_left _ hqueued))
    · exact List.mem_append_right _ hnew
    · exact List.mem_append_left _ (h.kept d (List.mem_append_right _ hheld))

theorem step (h : q.Tracked) (hstep : Stepped q e q') : q'.Tracked := by
  cases hstep with
  | called payload =>
    refine ⟨?_, fun d hd ↦ ?_, ?_, ?_, h.kept⟩
    · exact List.forall_getElem?_concat h.inHand fun d hd ↦ by cases hd
    · have hret := h.accepted d hd
      exact (List.getElem?_append_left (List.getElem?_eq_some_iff.1 hret).1).trans hret
    · exact List.forall_getElem?_concat h.returned fun hphase ↦ by cases hphase
    · exact List.forall_getElem?_concat h.closed fun p hp ↦ by cases hp
  | exhausted k payload hcall =>
    exact h.goOn hcall (fun hp ↦ by cases hp) (fun d hd ↦ by cases hd) (fun hp ↦ by cases hp)
      fun p hp ↦ by cases hp
  | acquired k payload hcall hpermits =>
    have hgoOn : (q.goOn k payload
        (.acquired ⟨k, payload, share q.maxBytes payload.length⟩)).Tracked := by
      refine h.goOn hcall (fun hp ↦ by cases hp) (fun d hd ↦ ?_) (fun hp ↦ by cases hp)
        fun p hp ↦ by cases hp
      obtain rfl := List.mem_singleton.1 hd
      exact ⟨rfl, rfl⟩
    exact hgoOn.frame rfl rfl fun _ hd ↦ hd
  | rejected k payload queued closed hcall =>
    refine h.goOn hcall (fun hp ↦ by cases hp) (fun d hd ↦ ?_) (fun hp ↦ by cases hp)
      fun p hp ↦ by cases hp
    obtain rfl := List.mem_singleton.1 hd
    exact h.acquired hcall
  | accepted k payload queued hcall hopen => exact h.accept hcall
  | gaveBack k payload queued closed hcall =>
    have hgoOn : (q.goOn k payload (.returned
        (.error (if closed then .closed queued.payload else .full)))).Tracked := by
      refine h.goOn hcall (fun hp ↦ by cases hp) (fun d hd ↦ by cases hd) (fun hp ↦ by cases hp)
        fun p hp ↦ ?_
      cases closed with
      | false => cases hp
      | true =>
        cases hp
        exact (h.rejected hcall).2
    exact hgoOn.frame rfl rfl fun _ hd ↦ hd
  | received queued rest hqueued =>
    refine h.frame rfl rfl fun d hd ↦ ?_
    rw [hqueued]
    simp only [List.mem_append, List.mem_cons, List.not_mem_nil, or_false] at hd ⊢
    tauto
  | dropped j queued hheld =>
    refine h.frame rfl rfl fun d hd ↦ ?_
    obtain hqueued | hheld := List.mem_append.1 hd
    · exact List.mem_append_left _ hqueued
    · exact List.mem_append_right _ (List.mem_of_mem_eraseIdx hheld)
  | closed => exact h.frame rfl rfl fun d hd ↦ List.mem_append_right _ hd

end Tracked

/-! ### The order of datagrams -/

/-- What was received and what is queued is what was accepted, until the receiver is gone. -/
structure Ordered (q : DatagramQueue) : Prop where
  received : q.received <+: q.accepted
  opened : q.closed = false → q.accepted = q.received ++ q.queued
  closed : q.closed = true → q.queued = []

theorem Ordered.step (h : q.Ordered) (hstep : Stepped q e q') : q'.Ordered := by
  cases hstep with
  | called | exhausted | acquired | rejected | gaveBack | dropped =>
    exact ⟨h.received, h.opened, h.closed⟩
  | accepted k payload queued hcall hopen =>
    refine ⟨h.received.trans (List.prefix_append _ _), fun _ ↦ ?_, fun hclosed ↦ ?_⟩
    · show q.accepted ++ [queued] = q.received ++ (q.queued ++ [queued])
      rw [h.opened hopen, List.append_assoc]
    · exact absurd (hopen.symm.trans hclosed) Bool.false_ne_true
  | received queued rest hqueued =>
    have hopen : q.closed = false := by
      refine Bool.eq_false_iff.2 fun hclosed ↦ ?_
      rw [h.closed hclosed] at hqueued
      cases hqueued
    have haccepted : q.accepted = q.received ++ [queued] ++ rest := by
      rw [h.opened hopen, hqueued, List.append_assoc]
      rfl
    refine ⟨haccepted ▸ List.prefix_append _ _, fun _ ↦ haccepted, fun hclosed ↦ ?_⟩
    exact absurd (hopen.symm.trans hclosed) Bool.false_ne_true
  | closed =>
    refine ⟨h.received, fun hopen ↦ ?_, fun _ ↦ rfl⟩
    cases hopen

/-! ### Runs -/

/-- The invariant of a queue. -/
structure Sound (q : DatagramQueue) : Prop where
  accounted : q.Accounted
  tracked : q.Tracked
  ordered : q.Ordered

theorem sound_of_run {maxDatagrams maxBytes : ℕ} {events : List Event}
    (hrun : run step (new maxDatagrams maxBytes) events = some q) : q.Sound := by
  refine run_induction (I := Sound) hrun ⟨.new _ _, .new _ _, ?_⟩ ?_
  · exact ⟨List.prefix_rfl, fun _ ↦ rfl, fun _ ↦ rfl⟩
  · intro e _ q q' hq hstep
    have hstep := stepped_of_step hstep
    exact ⟨hq.accounted.step hstep, hq.tracked.step hstep, hq.ordered.step hstep⟩

/-- No permit is held for a call that has returned an error. -/
theorem Tracked.call_ne (h : q.Tracked) {k : ℕ} {payload : Bytes} {error : DatagramTrySendError}
    (hcall : q.calls[k]? = some ⟨payload, .returned (.error error)⟩) :
    ∀ d ∈ q.outstanding, d.call ≠ k := by
  rintro d hd rfl
  rw [outstanding, ← List.append_assoc] at hd
  obtain hkept | hhand := List.mem_append.1 hd
  · have hret := h.accepted d (h.kept d hkept)
    rw [hcall] at hret
    cases hret
  · obtain ⟨call, hmem, hheld⟩ := List.mem_flatMap.1 hhand
    obtain ⟨j, hj⟩ := List.mem_iff_getElem?.1 hmem
    obtain ⟨rfl, -⟩ := h.inHand j call hj d hheld
    rw [hcall] at hj
    cases hj
    cases hheld

/-- **The byte budget of a queue**, for calls in any interleaving: the permits that are left and
those that datagrams hold make up the budget; the payloads of the datagrams that hold permits stay
within it, unless one datagram alone exceeds it; a call that returns an error leaves no permit held,
and `Closed` returns its payload; the calls that return `Ok` are those whose datagrams were
accepted, and these are received in order. -/
theorem datagram_budget {maxDatagrams maxBytes : ℕ} {events : List Event}
    (hrun : run step (new maxDatagrams maxBytes) events = some q) :
    q.available + (q.outstanding.map QueuedDatagram.permits).sum = q.maxBytes ∧
    ((q.outstanding.map (·.payload.length)).sum ≤ q.maxBytes ∨
      ∃ d, q.outstanding = [d] ∧ q.maxBytes < d.payload.length) ∧
    (∀ k payload error, q.calls[k]? = some ⟨payload, .returned (.error error)⟩ →
      (∀ d ∈ q.outstanding, d.call ≠ k) ∧ ∀ p, error = .closed p → p = payload) ∧
    (∀ k payload, q.calls[k]? = some ⟨payload, .returned (.ok ())⟩ ↔
      ∃ d ∈ q.accepted, d.call = k ∧ d.payload = payload) ∧
    q.received <+: q.accepted ∧ (q.closed = false → q.accepted = q.received ++ q.queued) := by
  obtain ⟨haccounted, htracked, hordered⟩ := sound_of_run hrun
  refine ⟨haccounted.conserves, ?_, fun k payload error hcall ↦ ⟨?_, ?_⟩, fun k payload ↦ ?_,
    hordered.received, hordered.opened⟩
  · exact Semaphore.sum_size_le_or_alone haccounted.positive haccounted.shares
      haccounted.conserves.sum_le
  · exact htracked.call_ne hcall
  · rintro p rfl
    exact htracked.closed k _ hcall p rfl
  · constructor
    · intro hcall
      obtain ⟨d, hd, rfl⟩ := htracked.returned k _ hcall rfl
      have hret := htracked.accepted d hd
      rw [hcall] at hret
      cases hret
      exact ⟨d, hd, rfl, rfl⟩
    · rintro ⟨d, hd, rfl, rfl⟩
      exact htracked.accepted d hd

/-- Two calls are on their way at the same time and the budget is enough for one of them; a third
one finds the queue closed. -/
def overlappingCalls : List Event :=
  [.call [1, 2, 3], .call [4, 5], .acquire 0, .acquire 1, .send 0, .recv, .close, .call [6],
    .acquire 2, .send 2, .giveBack 2]

theorem datagram_budget_overlappingCalls :
    ∃ q, run step (new 8 4) overlappingCalls = some q ∧
      q.available + (q.outstanding.map QueuedDatagram.permits).sum = q.maxBytes ∧
      q.calls[2]? = some ⟨[6], .returned (.error (.closed [6]))⟩ ∧
      ∀ d ∈ q.outstanding, d.call ≠ 2 := by
  obtain ⟨q, hrun, hclosed⟩ : ∃ q, run step (new 8 4) overlappingCalls = some q ∧
      q.calls[2]? = some ⟨[6], .returned (.error (.closed [6]))⟩ :=
    ⟨_, rfl, rfl⟩
  obtain ⟨hconserves, -, herror, -⟩ := datagram_budget hrun
  exact ⟨q, hrun, hconserves, hclosed, (herror 2 [6] _ hclosed).1⟩

/-! ### A call that is not interrupted -/

/-- The queue as a single call sees it. -/
def toChannel (q : DatagramQueue) : DatagramChannel where
  maxDatagrams := q.maxDatagrams
  maxBytes := q.maxBytes
  queued := q.queued.map QueuedDatagram.payload
  held := q.held.map QueuedDatagram.payload
  closed := q.closed

/-- While no call is on its way, the permits that are left are the capacity of the channel. -/
theorem byteCapacity_toChannel (h : q.Accounted) (hidle : q.inHand = []) :
    q.toChannel.byteCapacity = q.available := by
  have hshares : (q.queued ++ q.held).map QueuedDatagram.permits =
      ((q.queued ++ q.held).map QueuedDatagram.payload).map q.toChannel.permits := by
    rw [List.map_map]
    refine List.map_congr_left fun d hd ↦ ?_
    refine (h.shares d ?_).trans rfl
    rw [outstanding, ← List.append_assoc]
    exact List.mem_append_left _ hd
  have hconserves := h.conserves
  rw [Conserves, outstanding, hidle, List.append_nil, hshares, List.map_append] at hconserves
  exact Nat.sub_eq_of_eq_add hconserves.symm

/-- The queue with one more call. -/
def withCall (q : DatagramQueue) (payload : Bytes) (phase : TrySend) : DatagramQueue :=
  { q with calls := q.calls ++ [⟨payload, phase⟩] }

theorem getElem?_withCall (q : DatagramQueue) (payload : Bytes) (phase : TrySend) :
    (q.withCall payload phase).calls[q.calls.length]? = some ⟨payload, phase⟩ :=
  List.getElem?_concat_length

theorem goOn_withCall (q : DatagramQueue) (payload : Bytes) (phase phase' : TrySend) :
    (q.withCall payload phase).goOn q.calls.length payload phase' = q.withCall payload phase' := by
  have hset : (q.calls ++ [(⟨payload, phase⟩ : SendCall)]).set q.calls.length ⟨payload, phase'⟩ =
      q.calls ++ [⟨payload, phase'⟩] := by
    rw [List.set_append_right _ _ le_rfl, Nat.sub_self, List.set_cons_zero]
  exact congrArg (fun calls ↦ { q with calls := calls }) hset

/-- The events of a call that is not interrupted. -/
def callEvents (q : DatagramQueue) (payload : Bytes) : List Event :=
  .call payload :: .acquire q.calls.length ::
    if q.available < share q.maxBytes payload.length then []
    else .send q.calls.length ::
      if q.closed ∨ q.queued.length ≥ q.maxDatagrams then [.giveBack q.calls.length] else []

/-- The datagram of a call that is not interrupted. -/
def callDatagram (q : DatagramQueue) (payload : Bytes) : QueuedDatagram :=
  ⟨q.calls.length, payload, share q.maxBytes payload.length⟩

/-- The queue after the first access of a call that finds enough permits. -/
def taken (q : DatagramQueue) (payload : Bytes) : DatagramQueue :=
  { q with available := q.available - share q.maxBytes payload.length }

theorem step_acquire_withCall (q : DatagramQueue) (payload : Bytes) :
    (q.withCall payload .entered).step (.acquire q.calls.length) =
      if q.available < share q.maxBytes payload.length then
        some (q.withCall payload (.returned (.error .full)))
      else some ((q.taken payload).withCall payload (.acquired (q.callDatagram payload))) := by
  simp only [step, getElem?_withCall, goOn_withCall]
  rfl

/-- The queue after a call that is accepted. -/
def sent (q : DatagramQueue) (payload : Bytes) : DatagramQueue :=
  { (q.taken payload).withCall payload (.returned (.ok ())) with
    queued := q.queued ++ [q.callDatagram payload]
    accepted := q.accepted ++ [q.callDatagram payload] }

theorem step_send_withCall (q : DatagramQueue) (payload : Bytes) :
    ((q.taken payload).withCall payload (.acquired (q.callDatagram payload))).step
        (.send q.calls.length) =
      if q.closed then
        some ((q.taken payload).withCall payload (.rejected (q.callDatagram payload) true))
      else if q.queued.length ≥ q.maxDatagrams then
        some ((q.taken payload).withCall payload (.rejected (q.callDatagram payload) false))
      else some (q.sent payload) := by
  have hcalls : q.calls.length = (q.taken payload).calls.length := rfl
  simp only [step, hcalls, getElem?_withCall, goOn_withCall]
  rfl

/-- A call whose datagram is given back gives all of its permits back. -/
theorem step_giveBack_withCall (payload : Bytes) (closed : Bool)
    (hfull : ¬q.available < share q.maxBytes payload.length) :
    ((q.taken payload).withCall payload (.rejected (q.callDatagram payload) closed)).step
        (.giveBack q.calls.length) =
      some (q.withCall payload
        (.returned (.error (if closed then .closed payload else .full)))) := by
  have havailable : q.available - share q.maxBytes payload.length +
      share q.maxBytes payload.length = q.available :=
    Nat.sub_add_cancel (Nat.le_of_not_lt hfull)
  have hcalls : q.calls.length = (q.taken payload).calls.length := rfl
  simp only [step, hcalls, getElem?_withCall, goOn_withCall]
  exact congrArg (fun available ↦ some { q.withCall payload _ with available := available })
    havailable

/-- The queue after a call that is not interrupted. -/
theorem run_callEvents (q : DatagramQueue) (payload : Bytes) :
    run step q (q.callEvents payload) =
      some (if q.available < share q.maxBytes payload.length then
        q.withCall payload (.returned (.error .full))
      else if q.closed then q.withCall payload (.returned (.error (.closed payload)))
      else if q.queued.length ≥ q.maxDatagrams then q.withCall payload (.returned (.error .full))
      else q.sent payload) := by
  have hcalled : q.step (.call payload) = some (q.withCall payload .entered) := rfl
  have hacquire := step_acquire_withCall q payload
  have hsend := step_send_withCall q payload
  unfold callEvents
  by_cases hfull : q.available < share q.maxBytes payload.length
  · rw [if_pos hfull] at hacquire
    simp [run, hcalled, hacquire, hfull]
  rw [if_neg hfull] at hacquire
  have hback := fun closed ↦ step_giveBack_withCall payload closed hfull
  by_cases hclosed : q.closed = true
  · rw [if_pos hclosed] at hsend
    simp [run, hcalled, hacquire, hsend, hback, hfull, hclosed]
  rw [if_neg hclosed] at hsend
  by_cases hslots : q.queued.length ≥ q.maxDatagrams
  · rw [if_pos hslots] at hsend
    simp [run, hcalled, hacquire, hsend, hback, hfull, hclosed, hslots]
  · rw [if_neg hslots] at hsend
    simp [run, hcalled, hacquire, hsend, hfull, hclosed, hslots]

theorem toChannel_sent (q : DatagramQueue) (payload : Bytes) :
    (q.sent payload).toChannel =
      { q.toChannel with queued := q.toChannel.queued ++ [payload] } := by
  unfold toChannel sent callDatagram
  rw [List.map_append]
  rfl

/-- **A call that is not interrupted** does what `DatagramChannel.trySend` says, in every state of a
run in which no other call is on its way. -/
theorem trySend_eq_call {maxDatagrams maxBytes : ℕ} {events : List Event}
    (hrun : run step (new maxDatagrams maxBytes) events = some q) (hidle : q.inHand = [])
    (payload : Bytes) :
    ∃ q', run step q (q.callEvents payload) = some q' ∧
      q'.calls[q.calls.length]? =
        some ⟨payload, .returned ((q.toChannel.trySend payload).map fun _ ↦ ())⟩ ∧
      q'.toChannel = (q.toChannel.trySend payload).toOption.getD q.toChannel := by
  have hpermits : q.toChannel.permits payload = share q.maxBytes payload.length := rfl
  have hlength : q.toChannel.queued.length = q.queued.length := List.length_map ..
  have hclosed : q.toChannel.closed = q.closed := rfl
  have hslots : q.toChannel.maxDatagrams = q.maxDatagrams := rfl
  refine ⟨_, run_callEvents q payload, ?_⟩
  rw [DatagramChannel.trySend, byteCapacity_toChannel (sound_of_run hrun).accounted hidle,
    hpermits, hlength, hclosed, hslots]
  split_ifs
  · exact ⟨getElem?_withCall .., rfl⟩
  · exact ⟨getElem?_withCall .., rfl⟩
  · exact ⟨getElem?_withCall .., rfl⟩
  · exact ⟨getElem?_withCall .., toChannel_sent q payload⟩

theorem trySend_eq_call_overlappingCalls :
    ∃ q, run step (new 8 4) overlappingCalls = some q ∧ q.inHand = [] ∧
      ∃ q', run step q (q.callEvents [7]) = some q' ∧
        q'.toChannel = (q.toChannel.trySend [7]).toOption.getD q.toChannel := by
  obtain ⟨q, hrun, hidle⟩ : ∃ q, run step (new 8 4) overlappingCalls = some q ∧
    q.inHand = [] := ⟨_, rfl, rfl⟩
  obtain ⟨q', hcall, -, hchannel⟩ := trySend_eq_call hrun hidle [7]
  exact ⟨q, hrun, hidle, q', hcall, hchannel⟩

end DatagramQueue

end Ztunnel.Proxy
