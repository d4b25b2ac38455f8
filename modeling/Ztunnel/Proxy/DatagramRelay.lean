import Ztunnel.Lib.Transition
import Ztunnel.Proxy.CapsuleParser
import Ztunnel.Proxy.DatagramChannel

/-!
# Relaying datagrams into a stream (`proxy/outbound_udp.rs`)

The upload half of `relay_datagrams` takes the datagrams of a session from its queue, encodes as
many as are there into a batch (`next_capsule_batch`), and writes the batch to the stream
(`write_all_buf`), which may take it in parts. `Upload` is its state, with what the stream has
taken; the events are datagrams that arrive, the turns of the upload and the answers of the stream.

Whatever the order of the events, the stream carries the datagrams, up to the batch at hand
(`Upload.Relays`). So the peer's decoder gets the datagrams that were queued, and when the upload
has caught up, all of them (`relay_exact`).
-/

namespace Ztunnel.Proxy

open Capsule Transition

def maxCapsuleBatchBytes : ℕ := 16384

structure CapsuleBatch where
  bytes : Bytes
  datagrams : ℕ
  payloadBytes : ℕ
  deriving DecidableEq

structure DatagramTotals where
  packets : ℕ
  bytes : ℕ
  deriving DecidableEq

/-- Where the upload is. -/
inductive UploadPhase where
  /-- in `next_capsule_batch`, waiting for a first datagram -/
  | receiving
  /-- in the loop of `next_capsule_batch` -/
  | batching (batch : Bytes) (datagramCount payloadBytes : ℕ)
  /-- in the loop of `write_all_buf` -/
  | writing (buf : Bytes) (batch : CapsuleBatch)
  /-- there is no sender any more, and the upload waits for the session to end -/
  | finished
  | failed (error : IoError)
  deriving DecidableEq

/-- What has come of an upload: the datagrams that were queued, the bytes the stream has taken, the
batches that were written, and the totals in the session's log. -/
structure Transcript where
  queued : List Bytes
  written : Bytes
  batches : List CapsuleBatch
  sent : DatagramTotals
  deriving DecidableEq

/-- The upload. -/
structure Upload where
  datagrams : DatagramChannel
  disconnected : Bool
  phase : UploadPhase
  transcript : Transcript
  deriving DecidableEq

/-- The answers of `poll_write_buf`. -/
inductive PollWrite where
  | pending
  | ready (written : ℕ)
  | error (e : IoError)

inductive UploadEvent where
  /-- the dispatcher gives the session a datagram -/
  | trySend (payload : Bytes)
  /-- the last sender is dropped -/
  | disconnect
  /-- the upload goes on, to where it looks at its queue or at the stream again -/
  | run
  | poll (result : PollWrite)
  /-- the deadline of a batch passes -/
  | timeout

/-- The events the upload is made for: datagrams that fit a capsule, and a stream that takes some of
what it is offered or makes the upload wait. -/
def UploadEvent.Benign : UploadEvent → Prop
  | .trySend payload => payload.length ≤ maxDatagramSize
  | .disconnect => True
  | .run => True
  | .poll .pending => True
  | .poll (.ready written) => 0 < written
  | .poll (.error _) => False
  | .timeout => False

namespace Transcript

/-- A datagram is queued. -/
def enqueue (t : Transcript) (payload : Bytes) : Transcript :=
  { t with queued := t.queued ++ [payload] }

/-- The stream takes bytes. -/
def write (t : Transcript) (bytes : Bytes) : Transcript :=
  { t with written := t.written ++ bytes }

/-- A batch is written, and counted in the session's log. -/
def record (t : Transcript) (batch : CapsuleBatch) : Transcript :=
  { t with
    batches := t.batches ++ [batch]
    sent := ⟨t.sent.packets + batch.datagrams, t.sent.bytes + batch.payloadBytes⟩ }

end Transcript

namespace Upload

def new (maxDatagrams maxBytes : ℕ) : Upload where
  datagrams := datagramChannelWithLimits maxDatagrams maxBytes
  disconnected := false
  phase := .receiving
  transcript := ⟨[], [], [], ⟨0, 0⟩⟩

/-- A datagram is added to the batch. -/
def encode (u : Upload) (payload batch : Bytes) (datagramCount payloadBytes : ℕ) : Upload :=
  match encodeDatagramInto payload batch with
  | .error e => { u with phase := .failed e }
  | .ok batch =>
    { u with phase := .batching batch (datagramCount + 1) (payloadBytes + payload.length) }

/-- The batch is complete, and the first datagram of it is dropped only now. -/
def endBatch (u : Upload) (batch : Bytes) (datagramCount payloadBytes : ℕ) : Upload :=
  { u with
    datagrams := u.datagrams.release
    phase := .writing batch ⟨batch, datagramCount, payloadBytes⟩ }

/-- One turn of the upload; `none` where it has to wait. -/
def next (u : Upload) : Option Upload :=
  match u.phase with
  | .receiving =>
    match u.datagrams.tryRecv with
    | some (first, datagrams) => some (({ u with datagrams := datagrams }).encode first [] 0 0)
    | none => if u.disconnected then some { u with phase := .finished } else none
  | .batching batch datagramCount payloadBytes =>
    if batch.length < maxCapsuleBatchBytes then
      match u.datagrams.tryRecv with
      | some (payload, datagrams) =>
        -- the datagram is dropped at the end of the turn, the first one is still held
        some (({ u with datagrams := { datagrams with held := u.datagrams.held } }).encode payload
          batch datagramCount payloadBytes)
      | none => some (u.endBatch batch datagramCount payloadBytes)
    else some (u.endBatch batch datagramCount payloadBytes)
  | .writing [] batch =>
    some { u with phase := .receiving, transcript := u.transcript.record batch }
  | .writing (_ :: _) _ => none
  | .finished => none
  | .failed _ => none

/-- The stream answers. It takes no more than it is offered. -/
def answer (u : Upload) (result : PollWrite) : Option Upload :=
  match u.phase with
  | .writing (b :: buf) batch =>
    match result with
    | .pending => some u
    | .error e => some { u with phase := .failed e }
    | .ready written =>
      if written > (b :: buf).length then none
      else if written = 0 then some { u with phase := .failed ⟨.writeZero, "write zero"⟩ }
      else some { u with
        transcript := u.transcript.write ((b :: buf).take written)
        phase := .writing ((b :: buf).drop written) batch }
  | _ => none

def step (u : Upload) : UploadEvent → Option Upload
  | .trySend payload =>
    if u.disconnected then none
    else
      match u.datagrams.trySend payload with
      | .error _ => some u
      | .ok datagrams =>
        some { u with datagrams := datagrams, transcript := u.transcript.enqueue payload }
  | .disconnect => some { u with disconnected := true }
  | .run => u.next
  | .poll result => u.answer result
  | .timeout =>
    match u.phase with
    | .writing (_ :: _) _ =>
      some { u with phase := .failed ⟨.timedOut, "CONNECT-UDP stream write stalled"⟩ }
    | _ => none

end Upload

/-! ### What an event can do -/

/-- The batch that the next datagram goes into, with the number of its datagrams and their bytes. -/
def UploadPhase.batch : UploadPhase → Option (Bytes × ℕ × ℕ)
  | .receiving => some ([], 0, 0)
  | .batching batch datagramCount payloadBytes => some (batch, datagramCount, payloadBytes)
  | .writing _ _ => none
  | .finished => none
  | .failed _ => none

namespace Upload

variable {u u' : Upload}

/-- **What a turn can do**: find that there is nothing more to come, encode a datagram, complete a
batch, or go on behind one that is written. -/
theorem next_cases (h : u.next = some u') :
    (u.phase = .receiving ∧ u.datagrams.queued = [] ∧ u.disconnected = true ∧
        u' = { u with phase := .finished }) ∨
      (∃ batch count bytes payload rest held, u.phase.batch = some (batch, count, bytes) ∧
        u.datagrams.queued = payload :: rest ∧
        u' = ({ u with datagrams := { u.datagrams with queued := rest, held := held } }).encode
          payload batch count bytes) ∨
      (∃ batch count bytes, u.phase = .batching batch count bytes ∧
        u' = u.endBatch batch count bytes) ∨
      ∃ batch, u.phase = .writing [] batch ∧
        u' = { u with phase := .receiving, transcript := u.transcript.record batch } := by
  rw [next] at h
  rcases hu : u.phase with - | ⟨batch, count, bytes⟩ | ⟨_ | ⟨b, buf⟩, batch⟩ | - | e
  · simp only [hu] at h
    rcases hrecv : u.datagrams.tryRecv with - | ⟨first, datagrams⟩
    · simp only [hrecv] at h
      obtain ⟨hdisconnected, hsome⟩ := Option.ite_none_right_eq_some.1 h
      exact .inl ⟨rfl, DatagramChannel.tryRecv_eq_none.1 hrecv, hdisconnected,
        (Option.some.inj hsome).symm⟩
    · simp only [hrecv] at h
      obtain ⟨rest, hcons, rfl⟩ := DatagramChannel.tryRecv_eq_some.1 hrecv
      exact .inr (.inl ⟨[], 0, 0, first, rest, _, rfl, hcons, (Option.some.inj h).symm⟩)
  · simp only [hu] at h
    split at h
    · rcases hrecv : u.datagrams.tryRecv with - | ⟨payload, datagrams⟩
      · simp only [hrecv] at h
        exact .inr (.inr (.inl ⟨batch, count, bytes, rfl, (Option.some.inj h).symm⟩))
      · simp only [hrecv] at h
        obtain ⟨rest, hcons, rfl⟩ := DatagramChannel.tryRecv_eq_some.1 hrecv
        exact .inr (.inl ⟨batch, count, bytes, payload, rest, u.datagrams.held, rfl, hcons,
          (Option.some.inj h).symm⟩)
    · exact .inr (.inr (.inl ⟨batch, count, bytes, rfl, (Option.some.inj h).symm⟩))
  · simp only [hu] at h
    exact .inr (.inr (.inr ⟨batch, rfl, (Option.some.inj h).symm⟩))
  all_goals
    simp only [hu] at h
    exact nomatch h

/-- **What an answer of the stream can do**: nothing, make the upload fail, or take bytes. -/
theorem answer_cases {result : PollWrite} (h : u.answer result = some u') :
    u' = u ∨ (∃ e, ¬(UploadEvent.poll result).Benign ∧ u' = { u with phase := .failed e }) ∨
      ∃ buf batch written, u.phase = .writing buf batch ∧ 0 < written ∧ written ≤ buf.length ∧
        u' = { u with
          phase := .writing (buf.drop written) batch
          transcript := u.transcript.write (buf.take written) } := by
  rw [answer] at h
  split at h
  · next b buf batch hu =>
    rcases result with - | written | e
    · exact .inl (Option.some.inj h).symm
    · simp only at h
      obtain ⟨hle, h⟩ := Option.ite_none_left_eq_some.1 h
      split at h
      · next hzero =>
        have hstuck : ¬(UploadEvent.poll (.ready written)).Benign := by
          rw [hzero]
          exact Nat.lt_irrefl 0
        exact .inr (.inl ⟨_, hstuck, (Option.some.inj h).symm⟩)
      · next hpos =>
        exact .inr (.inr ⟨b :: buf, batch, written, hu, Nat.pos_of_ne_zero hpos,
          Nat.le_of_not_lt hle, (Option.some.inj h).symm⟩)
    · exact .inr (.inl ⟨e, id, (Option.some.inj h).symm⟩)
  · exact nomatch h

theorem trySend_cases {payload : Bytes} (hstep : u.step (.trySend payload) = some u') :
    u' = u ∨ u.disconnected ≠ true ∧
      u' = { u with
        datagrams := { u.datagrams with queued := u.datagrams.queued ++ [payload] }
        transcript := u.transcript.enqueue payload } := by
  obtain ⟨hopen, hsend⟩ := Option.ite_none_left_eq_some.1 hstep
  rcases htry : u.datagrams.trySend payload with e | datagrams
  · rw [htry] at hsend
    exact .inl (Option.some.inj hsend).symm
  · rw [htry] at hsend
    obtain rfl := DatagramChannel.trySend_ok htry
    exact .inr ⟨hopen, (Option.some.inj hsend).symm⟩

end Upload

/-! ### What the stream carries -/

/-- The number of bytes of some datagrams. -/
def payloadBytes (datagrams : List Bytes) : ℕ := (datagrams.map List.length).sum

theorem payloadBytes_append (datagrams datagrams' : List Bytes) :
    payloadBytes (datagrams ++ datagrams') = payloadBytes datagrams + payloadBytes datagrams' := by
  rw [payloadBytes, List.map_append, List.sum_append]
  rfl

/-- **The stream carries the datagrams.** Those of the written batches are `done`, those of the
batch at hand are `inFlight`, and the others are `waiting`. The stream carries the first two, once
the `unwritten` bytes have been written, and the batches are counted by what they hold. -/
structure Transcript.Carried (t : Transcript) (done inFlight waiting : List Bytes)
    (unwritten : Bytes) : Prop where
  queued : t.queued = done ++ inFlight ++ waiting
  carries : Carries (t.written ++ unwritten) (done ++ inFlight)
  datagrams : (t.batches.map CapsuleBatch.datagrams).sum = done.length
  bytes : (t.batches.map CapsuleBatch.payloadBytes).sum = payloadBytes done
  sent : t.sent = ⟨done.length, payloadBytes done⟩

namespace Transcript.Carried

variable {t : Transcript} {done inFlight waiting : List Bytes} {unwritten : Bytes}

theorem new : Carried ⟨[], [], [], ⟨0, 0⟩⟩ [] [] [] [] where
  queued := rfl
  carries := carries_nil
  datagrams := rfl
  bytes := rfl
  sent := rfl

theorem enqueue (h : t.Carried done inFlight waiting unwritten) (payload : Bytes) :
    (t.enqueue payload).Carried done inFlight (waiting ++ [payload]) unwritten where
  queued := by
    show t.queued ++ [payload] = _
    rw [h.queued, List.append_assoc]
  carries := h.carries
  datagrams := h.datagrams
  bytes := h.bytes
  sent := h.sent

theorem encode {payload batch : Bytes} (h : t.Carried done inFlight (payload :: waiting) unwritten)
    (hencode : encodeDatagramInto payload unwritten = .ok batch) :
    t.Carried done (inFlight ++ [payload]) waiting batch := by
  obtain ⟨capsule, rfl, -, hcapsule⟩ := carries_encode hencode
  exact {
    queued := by
      rw [h.queued]
      simp only [List.append_assoc, List.singleton_append]
    carries := by
      have happend := h.carries.append hcapsule
      simp only [List.append_assoc] at happend ⊢
      exact happend
    datagrams := h.datagrams
    bytes := h.bytes
    sent := h.sent }

theorem write (h : t.Carried done inFlight waiting unwritten) (n : ℕ) :
    (t.write (unwritten.take n)).Carried done inFlight waiting (unwritten.drop n) where
  queued := h.queued
  carries := by
    show Carries (t.written ++ unwritten.take n ++ unwritten.drop n) _
    rw [List.append_assoc, List.take_append_drop]
    exact h.carries
  datagrams := h.datagrams
  bytes := h.bytes
  sent := h.sent

theorem record {batch : CapsuleBatch} (h : t.Carried done inFlight waiting [])
    (hdatagrams : batch.datagrams = inFlight.length)
    (hbytes : batch.payloadBytes = payloadBytes inFlight) :
    (t.record batch).Carried (done ++ inFlight) [] waiting [] where
  queued := by
    rw [List.append_nil]
    exact h.queued
  carries := by
    rw [List.append_nil (done ++ inFlight)]
    exact h.carries
  datagrams := by
    show ((t.batches ++ [batch]).map CapsuleBatch.datagrams).sum = _
    rw [List.map_append, List.sum_append, h.datagrams, List.length_append, ← hdatagrams]
    rfl
  bytes := by
    show ((t.batches ++ [batch]).map CapsuleBatch.payloadBytes).sum = _
    rw [List.map_append, List.sum_append, h.bytes, payloadBytes_append, ← hbytes]
    rfl
  sent := by
    show DatagramTotals.mk _ _ = _
    rw [h.sent, hdatagrams, hbytes, List.length_append, payloadBytes_append]

end Transcript.Carried

namespace Upload

/-- What a phase says of the datagrams in flight and of the bytes that are not written. -/
def PhaseOk (inFlight : List Bytes) (unwritten : Bytes) : UploadPhase → Prop
  | .receiving => inFlight = [] ∧ unwritten = []
  | .batching batch datagramCount bytes =>
    unwritten = batch ∧ datagramCount = inFlight.length ∧ bytes = payloadBytes inFlight
  | .writing buf batch =>
    unwritten = buf ∧ batch.datagrams = inFlight.length ∧ batch.payloadBytes = payloadBytes inFlight
  | .finished => inFlight = [] ∧ unwritten = []
  | .failed _ => True

structure Relays (u : Upload) (done inFlight waiting : List Bytes) (unwritten : Bytes) : Prop where
  carried : u.transcript.Carried done inFlight waiting unwritten
  phase : PhaseOk inFlight unwritten u.phase
  inQueue : (∀ e, u.phase ≠ .failed e) → u.datagrams.queued = waiting
  finished : u.phase = .finished → u.disconnected = true ∧ waiting = []

/-- **The invariant** of the upload. -/
def Relaying (u : Upload) : Prop :=
  ∃ done inFlight waiting unwritten, u.Relays done inFlight waiting unwritten

variable {u u' : Upload} {done inFlight waiting : List Bytes} {unwritten : Bytes}

theorem relaying_new (maxDatagrams maxBytes : ℕ) : (new maxDatagrams maxBytes).Relaying :=
  ⟨[], [], [], [], .new, ⟨rfl, rfl⟩, fun _ ↦ rfl, fun h ↦ nomatch h⟩

/-- A failure leaves what the stream has taken. -/
theorem Relays.fail (h : u.Relays done inFlight waiting unwritten) (e : IoError) :
    ({ u with phase := .failed e }).Relaying :=
  ⟨done, inFlight, waiting, unwritten, h.carried, trivial, fun hne ↦ absurd rfl (hne e),
    fun hfinished ↦ nomatch hfinished⟩

/-- A datagram is taken from the queue into the batch, if it can be encoded. -/
theorem relaying_encode {payload batch : Bytes} {count bytes : ℕ}
    (hqueued : u.datagrams.queued = waiting)
    (h : u.transcript.Carried done inFlight (payload :: waiting) batch)
    (hcount : count = inFlight.length) (hbytes : bytes = payloadBytes inFlight) :
    (u.encode payload batch count bytes).Relaying := by
  rw [encode]
  rcases hencode : encodeDatagramInto payload batch with e | batch'
  · exact ⟨done, inFlight, payload :: waiting, batch, h, trivial, fun hne ↦ absurd rfl (hne e),
      fun hfinished ↦ nomatch hfinished⟩
  · refine ⟨done, inFlight ++ [payload], waiting, batch', h.encode hencode, ⟨rfl, ?_, ?_⟩,
      fun _ ↦ hqueued, fun hfinished ↦ nomatch hfinished⟩
    · rw [List.length_append, hcount]
      rfl
    · rw [payloadBytes_append, hbytes]
      rfl

theorem relaying_endBatch {batch : Bytes} (h : u.transcript.Carried done inFlight waiting batch)
    (hqueued : u.datagrams.queued = waiting) :
    (u.endBatch batch inFlight.length (payloadBytes inFlight)).Relaying :=
  ⟨done, inFlight, waiting, batch, h, ⟨rfl, rfl, rfl⟩, fun _ ↦ hqueued,
    fun hfinished ↦ nomatch hfinished⟩

/-- What a phase says of the batch that the next datagram goes into. -/
theorem PhaseOk.batch {phase : UploadPhase} {batch : Bytes} {count bytes : ℕ}
    (h : PhaseOk inFlight unwritten phase) (hbatch : phase.batch = some (batch, count, bytes)) :
    unwritten = batch ∧ count = inFlight.length ∧ bytes = payloadBytes inFlight := by
  cases phase with
  | receiving =>
    obtain ⟨rfl, rfl⟩ := h
    obtain ⟨rfl, rfl, rfl⟩ : [] = batch ∧ 0 = count ∧ 0 = bytes := by
      simpa [UploadPhase.batch] using hbatch
    exact ⟨rfl, rfl, rfl⟩
  | batching batch' count' bytes' =>
    obtain ⟨rfl, rfl, rfl⟩ : batch' = batch ∧ count' = count ∧ bytes' = bytes := by
      simpa [UploadPhase.batch] using hbatch
    exact h
  | writing buf batch' | finished | failed e => exact nomatch hbatch

theorem Relaying.next (h : u.Relaying) (hnext : u.next = some u') : u'.Relaying := by
  obtain ⟨done, inFlight, waiting, unwritten, hcarried, hphase, hqueue, -⟩ := h
  obtain ⟨hu, hempty, hdisconnected, rfl⟩ |
    ⟨batch, count, bytes, payload, rest, held, hbatch, hcons, rfl⟩ |
    ⟨batch, count, bytes, hu, rfl⟩ | ⟨batch, hu, rfl⟩ := next_cases hnext
  · -- the queue is empty for good
    rw [hu] at hphase hqueue
    have hwaiting := hqueue fun _ he ↦ nomatch he
    exact ⟨done, inFlight, waiting, unwritten, hcarried, hphase, fun _ ↦ hwaiting,
      fun _ ↦ ⟨hdisconnected, hwaiting.symm.trans hempty⟩⟩
  · have hwaiting := hqueue fun e he ↦ by
      rw [he] at hbatch
      exact nomatch hbatch
    obtain ⟨rfl, hcount, hbytes⟩ := hphase.batch hbatch
    obtain rfl := hwaiting.symm.trans hcons
    exact relaying_encode rfl hcarried hcount hbytes
  · rw [hu] at hphase hqueue
    obtain ⟨rfl, rfl, rfl⟩ := hphase
    exact relaying_endBatch hcarried (hqueue fun _ he ↦ nomatch he)
  · rw [hu] at hphase hqueue
    obtain ⟨rfl, hdatagrams, hbytes⟩ := hphase
    exact ⟨done ++ inFlight, [], waiting, [], hcarried.record hdatagrams hbytes, ⟨rfl, rfl⟩,
      fun _ ↦ hqueue fun _ he ↦ (nomatch he), fun hfinished ↦ nomatch hfinished⟩

theorem Relaying.answer (h : u.Relaying) {result : PollWrite}
    (hanswer : u.answer result = some u') : u'.Relaying := by
  obtain rfl | ⟨e, -, rfl⟩ | ⟨buf, batch, written, hu, -, -, rfl⟩ := answer_cases hanswer
  · exact h
  all_goals obtain ⟨done, inFlight, waiting, unwritten, hrelays⟩ := h
  · exact hrelays.fail e
  · have hphase := hrelays.phase
    rw [hu] at hphase
    obtain ⟨rfl, hdatagrams, hbytes⟩ := hphase
    refine ⟨done, inFlight, waiting, unwritten.drop written, hrelays.carried.write written,
      ⟨rfl, hdatagrams, hbytes⟩, fun _ ↦ hrelays.inQueue fun e he ↦ ?_,
      fun hfinished ↦ nomatch hfinished⟩
    exact nomatch hu.symm.trans he

theorem Relaying.trySend (h : u.Relaying) {payload : Bytes}
    (hstep : u.step (.trySend payload) = some u') : u'.Relaying := by
  obtain rfl | ⟨hopen, rfl⟩ := trySend_cases hstep
  · exact h
  · obtain ⟨done, inFlight, waiting, unwritten, hrelays⟩ := h
    refine ⟨done, inFlight, waiting ++ [payload], unwritten, hrelays.carried.enqueue payload,
      hrelays.phase, fun hne ↦ ?_, fun hfinished ↦ ?_⟩
    · exact congrArg (· ++ [payload]) (hrelays.inQueue hne)
    · exact absurd (hrelays.finished hfinished).1 hopen

theorem Relaying.step (h : u.Relaying) {event : UploadEvent} (hstep : u.step event = some u') :
    u'.Relaying := by
  cases event with
  | trySend payload => exact h.trySend hstep
  | disconnect =>
    obtain rfl := Option.some.inj hstep
    obtain ⟨done, inFlight, waiting, unwritten, hrelays⟩ := h
    exact ⟨done, inFlight, waiting, unwritten, hrelays.carried, hrelays.phase, hrelays.inQueue,
      fun hfinished ↦ ⟨rfl, (hrelays.finished hfinished).2⟩⟩
  | run => exact h.next hstep
  | poll result => exact h.answer hstep
  | timeout =>
    obtain ⟨done, inFlight, waiting, unwritten, hrelays⟩ := h
    rw [Upload.step] at hstep
    split at hstep
    · exact Option.some.inj hstep ▸ hrelays.fail _
    · exact nomatch hstep

theorem Relaying.run {events : List UploadEvent} (h : u.Relaying)
    (hrun : Transition.run Upload.step u events = some u') : u'.Relaying :=
  run_induction hrun h fun _ _ _ _ h hstep ↦ h.step hstep

/-! ### The upload gets on -/

/-- The upload has not failed, and what it has still to encode fits. -/
structure Going (u : Upload) : Prop where
  fits : ∀ payload ∈ u.datagrams.queued, payload.length ≤ maxDatagramSize
  phase : ∀ e, u.phase ≠ .failed e

/-- A bound on the number of turns and writes the upload still has to make, for its phase. -/
def phaseWork : UploadPhase → ℕ
  | .receiving => 1
  | .batching batch _ _ => batch.length + 3
  | .writing buf _ => buf.length + 2
  | .finished => 0
  | .failed _ => 0

/-- The same, with the datagrams in the queue: a capsule has at most ten bytes more than its
datagram. -/
def work (u : Upload) : ℕ :=
  (u.datagrams.queued.map fun payload ↦ payload.length + 14).sum + phaseWork u.phase

/-- **Caught up**: nothing is in the queue, and no batch is at hand. -/
def CaughtUp (u : Upload) : Prop :=
  (u.phase = .receiving ∨ u.phase = .finished) ∧ u.datagrams.queued = []

/-- A turn or a write brings the upload on. -/
structure Advances (u u' : Upload) : Prop where
  going : u'.Going
  work : u'.work < u.work
  queued : u'.transcript.queued = u.transcript.queued

/-- A datagram that is next in the queue is encoded. -/
theorem advances_encode {payload batch : Bytes} {rest : List Bytes} {datagrams : DatagramChannel}
    (h : u.Going) (hcons : u.datagrams.queued = payload :: rest)
    (hqueued : datagrams.queued = rest) (hwork : batch.length + 1 ≤ phaseWork u.phase)
    (count bytes : ℕ) :
    u.Advances (({ u with datagrams := datagrams }).encode payload batch count bytes) := by
  have hfits := h.fits payload (hcons ▸ List.mem_cons_self)
  obtain ⟨length, hencode, -, -⟩ := encodeDatagramInto_spec hfits batch
  obtain ⟨capsule, hbatch, hlen, -⟩ := carries_encode hencode
  rw [encode, hencode, hbatch]
  exact {
    going := {
      fits := fun p hp ↦ h.fits p (hcons ▸ List.mem_cons_of_mem payload (hqueued ▸ hp))
      phase := fun e he ↦ nomatch he }
    work := by
      show (datagrams.queued.map fun p ↦ p.length + 14).sum + ((batch ++ capsule).length + 3) <
        (u.datagrams.queued.map fun p ↦ p.length + 14).sum + phaseWork u.phase
      rw [hqueued, hcons, List.map_cons, List.sum_cons, List.length_append]
      omega
    queued := rfl }

theorem advances_endBatch {batch : Bytes} (h : u.Going)
    (hwork : batch.length + 3 = phaseWork u.phase) (count bytes : ℕ) :
    u.Advances (u.endBatch batch count bytes) where
  going := ⟨h.fits, fun e he ↦ nomatch he⟩
  work := by
    show (u.datagrams.queued.map fun p ↦ p.length + 14).sum + (batch.length + 2) <
      (u.datagrams.queued.map fun p ↦ p.length + 14).sum + phaseWork u.phase
    omega
  queued := rfl

/-- The phase changes, with the queue as it was. -/
theorem advances_phase {phase : UploadPhase} {transcript : Transcript} (h : u.Going)
    (hphase : ∀ e, phase ≠ .failed e) (hwork : phaseWork phase < phaseWork u.phase)
    (hqueued : transcript.queued = u.transcript.queued) :
    u.Advances { u with phase := phase, transcript := transcript } where
  going := ⟨h.fits, hphase⟩
  work := Nat.add_lt_add_left hwork _
  queued := hqueued

theorem length_batch_lt {phase : UploadPhase} {batch : Bytes} {count bytes : ℕ}
    (h : phase.batch = some (batch, count, bytes)) : batch.length + 1 ≤ phaseWork phase := by
  cases phase with
  | receiving =>
    obtain ⟨rfl, -⟩ := Prod.mk.inj (Option.some.inj h)
    exact le_rfl
  | batching batch' count' bytes' =>
    obtain ⟨rfl, -⟩ := Prod.mk.inj (Option.some.inj h)
    exact Nat.add_le_add_left (by decide) _
  | writing buf batch' => exact nomatch h
  | finished => exact nomatch h
  | failed e => exact nomatch h

theorem Going.next (h : u.Going) (hnext : u.next = some u') : u.Advances u' := by
  obtain ⟨hu, -, -, rfl⟩ | ⟨batch, count, bytes, payload, rest, held, hbatch, hcons, rfl⟩ |
    ⟨batch, count, bytes, hu, rfl⟩ | ⟨batch, hu, rfl⟩ := next_cases hnext
  · exact advances_phase h (fun e he ↦ nomatch he) (by rw [hu]; decide) rfl
  · exact advances_encode h hcons rfl (length_batch_lt hbatch) count bytes
  · exact advances_endBatch h (by rw [hu]; rfl) count bytes
  · exact advances_phase h (fun e he ↦ nomatch he) (by rw [hu]; exact Nat.lt_succ_self 1) rfl

/-- The stream takes some of the bytes it is offered. -/
theorem advances_write (h : u.Going) {buf : Bytes} {batch : CapsuleBatch}
    (hu : u.phase = .writing buf batch) {written : ℕ} (hpos : 0 < written)
    (hle : written ≤ buf.length) :
    u.Advances { u with
      phase := .writing (buf.drop written) batch
      transcript := u.transcript.write (buf.take written) } := by
  refine advances_phase h (fun e he ↦ nomatch he) ?_ rfl
  rw [hu]
  show (buf.drop written).length + 2 < buf.length + 2
  rw [List.length_drop]
  omega

/-- A stream can always take a byte that it is offered. -/
theorem step_ready_one {b : UInt8} {buf : Bytes} {batch : CapsuleBatch}
    (hu : u.phase = .writing (b :: buf) batch) :
    u.step (.poll (.ready 1)) = some { u with
      phase := .writing ((b :: buf).drop 1) batch
      transcript := u.transcript.write ((b :: buf).take 1) } := by
  show u.answer (.ready 1) = _
  simp only [answer, hu]
  rw [if_neg (by simp), if_neg Nat.one_ne_zero]

/-- **The upload only waits for datagrams and for the stream.** -/
theorem Relaying.caughtUp_or (h : u.Relaying) (hgoing : u.Going) :
    u.CaughtUp ∨ (∃ u', u.next = some u') ∨
      ∃ b buf batch, u.phase = .writing (b :: buf) batch := by
  obtain ⟨done, inFlight, waiting, unwritten, hrelays⟩ := h
  have hwaiting := hrelays.inQueue hgoing.phase
  rcases hu : u.phase with - | ⟨batch, count, bytes⟩ | ⟨_ | ⟨b, buf⟩, batch⟩ | - | e
  · rcases hrecv : u.datagrams.tryRecv with - | ⟨first, datagrams⟩
    · exact .inl ⟨.inl hu, DatagramChannel.tryRecv_eq_none.1 hrecv⟩
    · exact .inr (.inl ⟨_, by simp only [Upload.next, hu, hrecv]; rfl⟩)
  · refine .inr (.inl ?_)
    simp only [Upload.next, hu]
    split
    · split <;> exact ⟨_, rfl⟩
    · exact ⟨_, rfl⟩
  · exact .inr (.inl ⟨_, by simp only [Upload.next, hu]; rfl⟩)
  · exact .inr (.inr ⟨b, buf, batch, rfl⟩)
  · exact .inl ⟨.inr hu, hwaiting.trans (hrelays.finished hu).2⟩
  · exact absurd hu (hgoing.phase e)

/-- **The upload catches up**, if the stream goes on taking bytes. -/
theorem Relaying.catchesUp (h : u.Relaying) (hgoing : u.Going) :
    ∃ events u', (∀ event ∈ events, event = UploadEvent.run ∨ event = .poll (.ready 1)) ∧
      Transition.run Upload.step u events = some u' ∧ u'.CaughtUp ∧
      u'.transcript.queued = u.transcript.queued := by
  induction hn : u.work using Nat.strongRecOn generalizing u with
  | ind n ih =>
    have hcontinue : ∀ event u₁, (event = .run ∨ event = .poll (.ready 1)) →
        u.step event = some u₁ → u.Advances u₁ → ∃ events u',
        (∀ event ∈ events, event = UploadEvent.run ∨ event = .poll (.ready 1)) ∧
          Transition.run Upload.step u events = some u' ∧ u'.CaughtUp ∧
          u'.transcript.queued = u.transcript.queued := by
      intro event u₁ hevent hstep hadvances
      obtain ⟨events, u', hevents, hrun, hcaught, hqueued⟩ :=
        ih u₁.work (hn ▸ hadvances.work) (h.step hstep) hadvances.going rfl
      exact ⟨event :: events, u', List.forall_mem_cons.2 ⟨hevent, hevents⟩,
        run_cons_eq_some.2 ⟨u₁, hstep, hrun⟩, hcaught, hqueued.trans hadvances.queued⟩
    obtain hcaught | ⟨u₁, hnext⟩ | ⟨b, buf, batch, hu⟩ := h.caughtUp_or hgoing
    · exact ⟨[], u, fun _ hmem ↦ (nomatch hmem), rfl, hcaught, rfl⟩
    · exact hcontinue .run u₁ (.inl rfl) hnext (hgoing.next hnext)
    · have hle : 1 ≤ (b :: buf).length := Nat.succ_le_succ (Nat.zero_le _)
      exact hcontinue _ _ (.inr rfl) (step_ready_one hu) (advances_write hgoing hu Nat.one_pos hle)

/-- The events the upload is made for do not make it fail. -/
theorem Going.step (h : u.Going) {event : UploadEvent} (hbenign : event.Benign)
    (hstep : u.step event = some u') : u'.Going := by
  cases event with
  | trySend payload =>
    obtain rfl | ⟨-, rfl⟩ := trySend_cases hstep
    · exact h
    · refine ⟨fun p hp ↦ ?_, h.phase⟩
      rcases List.mem_append.1 hp with hp | hp
      · exact h.fits p hp
      · exact List.mem_singleton.1 hp ▸ hbenign
  | disconnect => exact Option.some.inj hstep ▸ ⟨h.fits, h.phase⟩
  | run => exact (h.next hstep).going
  | poll result =>
    obtain rfl | ⟨e, hstuck, rfl⟩ | ⟨buf, batch, written, hu, hpos, hle, rfl⟩ := answer_cases hstep
    · exact h
    · exact absurd hbenign hstuck
    · exact (advances_write h hu hpos hle).going
  | timeout => exact hbenign.elim

theorem going_new (maxDatagrams maxBytes : ℕ) : (new maxDatagrams maxBytes).Going :=
  ⟨fun _ hmem ↦ (nomatch hmem), fun _ he ↦ (nomatch he)⟩

end Upload

/-! ### The peer gets the datagrams -/

/-- **End to end.** Datagrams that fit a capsule are queued and relayed, in whatever order the
upload finds them, forms its batches and gets its bytes taken by the stream. Then it does not fail;
a peer that has read some of the stream, in whatever pieces, has got the first of the queued
datagrams, and nothing was dropped; a peer that has read all of it when the upload has caught up has
got all of them, and the batches are counted by the datagrams and bytes that were queued. And the
upload can always catch up. -/
theorem relay_exact {maxDatagrams maxBytes : ℕ} {events : List UploadEvent} {u : Upload}
    (hrun : run Upload.step (.new maxDatagrams maxBytes) events = some u)
    (hbenign : ∀ event ∈ events, event.Benign) :
    (∀ e, u.phase ≠ .failed e) ∧
      (∀ cs unread, (Call.chunks cs).flatten ++ unread = u.transcript.written →
        (Decoder.default.calls cs).error = none ∧ (Decoder.default.calls cs).dropped = 0 ∧
          (Decoder.default.calls cs).datagrams <+: u.transcript.queued) ∧
      (u.CaughtUp →
        (∀ cs, (Call.chunks cs).flatten = u.transcript.written →
          (Decoder.default.calls cs).error = none ∧ (Decoder.default.calls cs).dropped = 0 ∧
            (Decoder.default.calls cs).datagrams = u.transcript.queued) ∧
        (u.transcript.batches.map CapsuleBatch.datagrams).sum = u.transcript.queued.length ∧
        (u.transcript.batches.map CapsuleBatch.payloadBytes).sum =
          payloadBytes u.transcript.queued ∧
        u.transcript.sent = ⟨u.transcript.queued.length, payloadBytes u.transcript.queued⟩) ∧
      ∃ more u', (∀ event ∈ more, event = UploadEvent.run ∨ event = .poll (.ready 1)) ∧
        run Upload.step u more = some u' ∧ u'.CaughtUp ∧
        u'.transcript.queued = u.transcript.queued := by
  have hrelaying := (Upload.relaying_new maxDatagrams maxBytes).run hrun
  have hgoing : u.Going := run_induction hrun (Upload.going_new maxDatagrams maxBytes)
    fun event hmem _ _ h hstep ↦ h.step (hbenign event hmem) hstep
  refine ⟨hgoing.phase, ?_, ?_, hrelaying.catchesUp hgoing⟩
  all_goals obtain ⟨done, inFlight, waiting, unwritten, hcarried, hphase, hqueue, -⟩ := hrelaying
  · intro cs unread hread
    have hcarries := hcarried.carries
    rw [← hread, List.append_assoc] at hcarries
    obtain ⟨herror, hdropped, hdatagrams, -⟩ :=
      hcarries.calls (rfl : (Call.chunks cs).flatten = (Call.chunks cs).flatten)
    refine ⟨herror, hdropped, hdatagrams.trans ?_⟩
    rw [hcarried.queued]
    exact List.prefix_append _ _
  · rintro ⟨hidle, hempty⟩
    have hnone : inFlight = [] ∧ unwritten = [] := by
      rcases hidle with hu | hu
      all_goals
        rw [hu] at hphase
        exact hphase
    obtain ⟨rfl, rfl⟩ := hnone
    have hqueued := hcarried.queued
    rw [← hqueue hgoing.phase, hempty, List.append_nil, List.append_nil] at hqueued
    rw [hqueued]
    refine ⟨fun cs hread ↦ ?_, hcarried.datagrams, hcarried.bytes, hcarried.sent⟩
    have hcarries : Carries (u.transcript.written ++ []) done :=
      List.append_nil done ▸ hcarried.carries
    obtain ⟨herror, hdropped, -, hdatagrams⟩ := hcarries.calls hread
    exact ⟨herror, hdropped, hdatagrams rfl⟩

/-- An empty datagram and one of a byte come while the upload waits. It makes one batch of them, and
the stream takes it in two parts, with a wait before. -/
def twoDatagrams : List UploadEvent :=
  [.trySend [], .trySend [7], .run, .run, .run, .poll .pending, .poll (.ready 2), .poll (.ready 5),
    .run]

/-- The peer reads the stream in pieces that cut both capsules. -/
theorem relay_exact_twoDatagrams :
    ∃ u, run Upload.step (.new 4 100) twoDatagrams = some u ∧ u.transcript.queued = [[], [7]] ∧
      (Decoder.default.calls [.push [0], .push [1, 0, 0, 2], .push [0, 7]]).datagrams =
        u.transcript.queued ∧
      u.transcript.sent = ⟨2, 1⟩ := by
  have hcheck : ((run Upload.step (.new 4 100) twoDatagrams).any fun u ↦
      decide (u.transcript.queued = [[], [7]]) && decide (u.phase = .receiving) &&
        decide (u.datagrams.queued = []) &&
        decide (u.transcript.written = [0, 1, 0, 0, 2, 0, 7])) = true := by
    decide
  obtain ⟨u, hrun, hcheck⟩ := (Option.any_eq_true _ _).1 hcheck
  obtain ⟨hcheck, hwritten⟩ := Bool.and_eq_true_iff.1 hcheck
  obtain ⟨hcheck, hempty⟩ := Bool.and_eq_true_iff.1 hcheck
  obtain ⟨hqueued, hphase⟩ := Bool.and_eq_true_iff.1 hcheck
  have hqueued := of_decide_eq_true hqueued
  have hbenign : ∀ event ∈ twoDatagrams, event.Benign := by
    simp [twoDatagrams, UploadEvent.Benign, maxDatagramSize]
  obtain ⟨-, -, hexact, -⟩ := relay_exact hrun hbenign
  obtain ⟨hread, -, -, hsent⟩ := hexact ⟨.inl (of_decide_eq_true hphase), of_decide_eq_true hempty⟩
  obtain ⟨-, -, hdatagrams⟩ := hread [.push [0], .push [1, 0, 0, 2], .push [0, 7]]
    (of_decide_eq_true hwritten).symm
  exact ⟨u, hrun, hqueued, hdatagrams, by rw [hsent, hqueued]; rfl⟩

end Ztunnel.Proxy
