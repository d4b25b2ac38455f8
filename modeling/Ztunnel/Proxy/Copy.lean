import Mathlib.Data.List.Infix
import Mathlib.Data.Prod.Lex
import Ztunnel.Lib.Polling
import Ztunnel.Proxy.Capsule

/-!
# Copying a stream (`copy.rs`)

`CopyBuf` copies what a reader gives to a writer. Its `poll` takes turns of a loop, each with a
buffer that the last turn has left or that the reader gives, until a device is pending; what the
writer has not taken stays in `buf` for the next turn or the next poll. On the way it reports the
bytes to the metrics of the connection and has the reader enlarge its buffer at two thresholds.

The reader has a list of chunks, after which it is at the end of the stream for good; an empty chunk
would be an end of the stream that does not last. What the devices answer to each poll is arbitrary
(`Devices`). Everything rests on `Copies`, which says what has come of the chunks with a buffer at
hand; that the copy completes rests on the devices answering at some time (`Devices.Fair`). The
`u64` that counts the bytes is a natural number here: streams of `2 ^ 64` bytes are out of scope.
-/

namespace Ztunnel.Proxy.Copy

open Capsule (Bytes IoError IoErrorKind)
open Polling (Poll Fair delay drive)

def largeBufferSize : ℕ := 16384 - 64

def jumboBufferSize : ℕ := 16 * 16384 - 64

def resizeThresholdLarge : ℕ := 128 * 1024

def resizeThresholdJumbo : ℕ := 10 * 1024 * 1024

/-! ### The devices -/

/-- What the devices answer to their polls, by number. For a write it is the room there is. -/
structure Devices where
  pollBytes : ℕ → Poll (Except IoError Unit)
  pollWriteBuf : ℕ → Poll (Except IoError ℕ)
  pollFlush : ℕ → Poll (Except IoError Unit)

/-- A `ResizeBufRead`: the chunks that are left, the polls so far, and the sizes it was given. -/
structure Reader where
  chunks : List Bytes
  polls : ℕ
  sizes : List ℕ

/-- An `AsyncWriteBuf`: what it has taken, the polls so far, and what it had taken at its last
flush. -/
structure Writer where
  delivered : Bytes
  writes : ℕ
  flushes : ℕ
  flushed : Option Bytes

namespace Reader

def polled (r : Reader) : Reader := { r with polls := r.polls + 1 }

def pollBytes (r : Reader) (d : Devices) : Poll (Except IoError Bytes) × Reader :=
  match d.pollBytes r.polls with
  | .pending => (.pending, r.polled)
  | .ready (.error e) => (.ready (.error e), r.polled)
  | .ready (.ok ()) =>
    match r.chunks with
    | [] => (.ready (.ok []), r.polled)
    | chunk :: chunks => (.ready (.ok chunk), { r.polled with chunks := chunks })

def resize (r : Reader) (newSize : ℕ) : Reader := { r with sizes := r.sizes ++ [newSize] }

end Reader

namespace Writer

def pollWriteBuf (w : Writer) (d : Devices) (buf : Bytes) : Poll (Except IoError ℕ) × Writer :=
  match d.pollWriteBuf w.writes with
  | .pending => (.pending, { w with writes := w.writes + 1 })
  | .ready (.error e) => (.ready (.error e), { w with writes := w.writes + 1 })
  | .ready (.ok room) =>
    (.ready (.ok (min room buf.length)),
      { w with
        delivered := w.delivered ++ buf.take (min room buf.length)
        writes := w.writes + 1 })

def pollFlush (w : Writer) (d : Devices) : Poll (Except IoError Unit) × Writer :=
  match d.pollFlush w.flushes with
  | .pending => (.pending, { w with flushes := w.flushes + 1 })
  | .ready (.error e) => (.ready (.error e), { w with flushes := w.flushes + 1 })
  | .ready (.ok ()) =>
    (.ready (.ok ()), { w with flushes := w.flushes + 1, flushed := some w.delivered })

end Writer

/-- The increments of the two byte counters of a `ConnectionResult`. -/
structure ConnectionResult where
  sent : List ℕ
  recv : List ℕ

namespace ConnectionResult

def incrementSend (m : ConnectionResult) (res : ℕ) : ConnectionResult :=
  { m with sent := m.sent ++ [res] }

def incrementRecv (m : ConnectionResult) (res : ℕ) : ConnectionResult :=
  { m with recv := m.recv ++ [res] }

/-- The increments of one direction. -/
def increments (m : ConnectionResult) (send : Bool) : List ℕ := if send then m.sent else m.recv

end ConnectionResult

/-! ### The copy -/

structure CopyBuf where
  send : Bool
  reader : Reader
  writer : Writer
  buf : Option Bytes
  metrics : ConnectionResult
  amt : ℕ

/-- `copy_buf`, before its first poll. -/
def copyBuf (chunks : List Bytes) (send : Bool) : CopyBuf where
  send := send
  reader := ⟨chunks, 0, []⟩
  writer := ⟨[], 0, 0, none⟩
  buf := none
  metrics := ⟨[], []⟩
  amt := 0

/-- How a turn of a loop ends. -/
inductive Control where
  | continue (c : CopyBuf)
  | return (result : Poll (Except IoError ℕ)) (c : CopyBuf)

namespace CopyBuf

/-- The stored buffer, if there is any, or one from the reader. -/
def fetch (c : CopyBuf) (d : Devices) : Poll (Except IoError Bytes) × Reader :=
  match c.buf with
  | some buffer => (.ready (.ok buffer), c.reader)
  | none => c.reader.pollBytes d

/-- The writer has taken `i` bytes of a buffer. -/
def wrote (c : CopyBuf) (buffer : Bytes) (i : ℕ) : CopyBuf :=
  let buf := if i < buffer.length then some (buffer.drop i) else c.buf
  let metrics := if c.send then c.metrics.incrementSend i else c.metrics.incrementRecv i
  let old := c.amt
  let amt := old + i
  let reader :=
    if old < resizeThresholdLarge ∧ resizeThresholdLarge ≤ amt then
      c.reader.resize largeBufferSize
    else c.reader
  let reader :=
    if old < resizeThresholdJumbo ∧ resizeThresholdJumbo ≤ amt then
      reader.resize jumboBufferSize
    else reader
  { c with reader := reader, buf := buf, metrics := metrics, amt := amt }

/-- A turn with an empty buffer, which is the end of the stream. -/
def flush (c : CopyBuf) (d : Devices) : Control :=
  match c.writer.pollFlush d with
  | (.pending, writer) => .return .pending { c with writer := writer }
  | (.ready (.error e), writer) => .return (.ready (.error e)) { c with writer := writer }
  | (.ready (.ok ()), writer) => .return (.ready (.ok c.amt)) { c with writer := writer }

/-- A turn with a buffer that is not empty. -/
def offer (c : CopyBuf) (d : Devices) (buffer : Bytes) : Control :=
  match c.writer.pollWriteBuf d buffer with
  | (.pending, writer) => .return .pending { c with writer := writer, buf := some buffer }
  | (.ready (.error e), writer) => .return (.ready (.error e)) { c with writer := writer }
  | (.ready (.ok i), writer) =>
    if i = 0 then
      .return (.ready (.error ⟨.writeZero, "write zero"⟩)) { c with writer := writer }
    else .continue (({ c with writer := writer }).wrote buffer i)

/-- One turn of the loop of `poll`. -/
def turn (c : CopyBuf) (d : Devices) : Control :=
  match c.fetch d with
  | (.pending, reader) => .return .pending { c with reader := reader, buf := none }
  | (.ready (.error e), reader) =>
    .return (.ready (.error e)) { c with reader := reader, buf := none }
  | (.ready (.ok buffer), reader) =>
    if buffer.isEmpty then ({ c with reader := reader, buf := none }).flush d
    else ({ c with reader := reader, buf := none }).offer d buffer

/-! ### What a turn can do -/

/-- The outcomes of `fetch`. -/
inductive Fetched (d : Devices) (c : CopyBuf) : Poll (Except IoError Bytes) → Reader → Prop
  | stored (buffer : Bytes) (hbuf : c.buf = some buffer) :
    Fetched d c (.ready (.ok buffer)) c.reader
  | waited (hbuf : c.buf = none) (hread : d.pollBytes c.reader.polls = .pending) :
    Fetched d c .pending c.reader.polled
  | failed (e : IoError) (hread : d.pollBytes c.reader.polls = .ready (.error e)) :
    Fetched d c (.ready (.error e)) c.reader.polled
  | ended (hbuf : c.buf = none) (hchunks : c.reader.chunks = []) :
    Fetched d c (.ready (.ok [])) c.reader.polled
  | read (chunk : Bytes) (chunks : List Bytes) (hbuf : c.buf = none)
    (hchunks : c.reader.chunks = chunk :: chunks) :
    Fetched d c (.ready (.ok chunk)) { c.reader.polled with chunks := chunks }

variable {c c' : CopyBuf} {d : Devices}

theorem fetched_of_fetch {result : Poll (Except IoError Bytes)} {reader : Reader}
    (h : c.fetch d = (result, reader)) : Fetched d c result reader := by
  unfold fetch at h
  split at h
  · next buffer hbuf =>
    cases h
    exact .stored buffer hbuf
  · next hbuf =>
    unfold Reader.pollBytes at h
    split at h
    · next hread =>
      cases h
      exact .waited hbuf hread
    · next e hread =>
      cases h
      exact .failed e hread
    · split at h
      · next hchunks =>
        cases h
        exact .ended hbuf hchunks
      · next chunk chunks hchunks =>
        cases h
        exact .read chunk chunks hbuf hchunks

/-- The outcomes of a turn. -/
inductive Turned (d : Devices) (c : CopyBuf) : Control → Prop
  | readWaited (reader : Reader) (hfetch : Fetched d c .pending reader) :
    Turned d c (.return .pending { c with reader := reader, buf := none })
  | readFailed (e : IoError) (reader : Reader)
    (hread : d.pollBytes c.reader.polls = .ready (.error e)) :
    Turned d c (.return (.ready (.error e)) { c with reader := reader, buf := none })
  | flushWaited (reader : Reader) (hfetch : Fetched d c (.ready (.ok [])) reader)
    (hflush : d.pollFlush c.writer.flushes = .pending) :
    Turned d c (.return .pending
      { c with
        reader := reader
        buf := none
        writer := { c.writer with flushes := c.writer.flushes + 1 } })
  | flushFailed (e : IoError) (c' : CopyBuf)
    (hflush : d.pollFlush c.writer.flushes = .ready (.error e)) :
    Turned d c (.return (.ready (.error e)) c')
  | flushed (reader : Reader) (hfetch : Fetched d c (.ready (.ok [])) reader) :
    Turned d c (.return (.ready (.ok c.amt))
      { c with
        reader := reader
        buf := none
        writer :=
          { c.writer with
            flushes := c.writer.flushes + 1
            flushed := some c.writer.delivered } })
  | writeWaited (buffer : Bytes) (reader : Reader) (hbuffer : buffer ≠ [])
    (hfetch : Fetched d c (.ready (.ok buffer)) reader)
    (hwrite : d.pollWriteBuf c.writer.writes = .pending) :
    Turned d c (.return .pending
      { c with
        reader := reader
        buf := some buffer
        writer := { c.writer with writes := c.writer.writes + 1 } })
  | writeFailed (e : IoError) (c' : CopyBuf)
    (hwrite : d.pollWriteBuf c.writer.writes = .ready (.error e)) :
    Turned d c (.return (.ready (.error e)) c')
  | wroteZero (c' : CopyBuf) (hwrite : d.pollWriteBuf c.writer.writes = .ready (.ok 0)) :
    Turned d c (.return (.ready (.error ⟨.writeZero, "write zero"⟩)) c')
  | wrote (buffer : Bytes) (reader : Reader) (i : ℕ) (hpos : 0 < i) (hle : i ≤ buffer.length)
    (hfetch : Fetched d c (.ready (.ok buffer)) reader) :
    Turned d c (.continue (({ c with
      reader := reader
      buf := none
      writer :=
        { c.writer with
          delivered := c.writer.delivered ++ buffer.take i
          writes := c.writer.writes + 1 } }).wrote buffer i))

theorem turned_of_flush {reader : Reader} (hfetch : Fetched d c (.ready (.ok [])) reader) :
    Turned d c (({ c with reader := reader, buf := none }).flush d) := by
  unfold flush Writer.pollFlush
  cases hflush : d.pollFlush c.writer.flushes with
  | pending => exact .flushWaited reader hfetch hflush
  | ready result =>
    cases result with
    | error e => exact .flushFailed e _ hflush
    | ok => exact .flushed reader hfetch

theorem turned_of_offer {buffer : Bytes} {reader : Reader}
    (hfetch : Fetched d c (.ready (.ok buffer)) reader) (hbuffer : buffer ≠ []) :
    Turned d c (({ c with reader := reader, buf := none }).offer d buffer) := by
  unfold offer Writer.pollWriteBuf
  cases hwrite : d.pollWriteBuf c.writer.writes with
  | pending => exact .writeWaited buffer reader hbuffer hfetch hwrite
  | ready result =>
    cases result with
    | error e => exact .writeFailed e _ hwrite
    | ok room =>
      have hlength : 0 < buffer.length := List.length_pos_of_ne_nil hbuffer
      dsimp only
      split
      · next hzero =>
        have hroom : room = 0 := by omega
        exact .wroteZero _ (hroom ▸ hwrite)
      · next hpos =>
        exact .wrote buffer reader _ (Nat.pos_of_ne_zero hpos) (Nat.min_le_right ..) hfetch

theorem turned (c : CopyBuf) (d : Devices) : Turned d c (c.turn d) := by
  unfold turn
  split
  · next reader h => exact .readWaited reader (fetched_of_fetch h)
  · next e reader h =>
    cases fetched_of_fetch h with
    | failed _ hread => exact .readFailed e _ hread
  · next buffer reader h =>
    have hfetch := fetched_of_fetch h
    split
    · next hempty =>
      rw [List.isEmpty_iff] at hempty
      subst hempty
      exact turned_of_flush hfetch
    · next hempty => exact turned_of_offer hfetch (by simpa using hempty)

/-! ### The loop ends -/

/-- What is left to do: the bytes at hand and to be read, and the reads. -/
def work (c : CopyBuf) : ℕ :=
  (c.buf.getD []).length + c.reader.chunks.flatten.length + c.reader.chunks.length

/-- What the writer has not taken stays at hand. -/
theorem getD_buf_wrote (hbuf : c.buf = none) (buffer : Bytes) (i : ℕ) :
    (c.wrote buffer i).buf.getD [] = buffer.drop i := by
  unfold wrote
  split
  · rfl
  · next hlength => rw [hbuf, List.drop_of_length_le (Nat.le_of_not_lt hlength), Option.getD_none]

@[simp]
theorem chunks_wrote (c : CopyBuf) (buffer : Bytes) (i : ℕ) :
    (c.wrote buffer i).reader.chunks = c.reader.chunks := by
  unfold wrote
  dsimp only
  split <;> split <;> rfl

/-- A buffer is fetched out of what is left to do. -/
theorem Fetched.work_le {buffer : Bytes} {reader : Reader}
    (h : Fetched d c (.ready (.ok buffer)) reader) :
    buffer.length + reader.chunks.flatten.length + reader.chunks.length ≤ c.work := by
  unfold work
  cases h with
  | stored _ hbuf => rw [hbuf, Option.getD_some]
  | ended hbuf hchunks => simp [Reader.polled]
  | read _ chunks hbuf hchunks =>
    rw [hbuf, hchunks, List.flatten_cons, List.length_append, List.length_cons, Option.getD_none]
    simp only [List.length_nil]
    omega

theorem work_lt_of_turn (h : c.turn d = .continue c') : c'.work < c.work := by
  have hturned := h ▸ turned c d
  obtain - | - | - | - | - | - | - | - | ⟨buffer, reader, i, hpos, hle, hfetch⟩ := hturned
  have hwork := hfetch.work_le
  unfold work at hwork ⊢
  rw [getD_buf_wrote rfl, chunks_wrote, List.length_drop]
  dsimp only
  omega

def poll (c : CopyBuf) (d : Devices) : Poll (Except IoError ℕ) × CopyBuf :=
  match _hturn : c.turn d with
  | .continue c' => c'.poll d
  | .return result c' => (result, c')
termination_by c.work
decreasing_by exact work_lt_of_turn _hturn

theorem poll_of_continue (h : c.turn d = .continue c') : c.poll d = c'.poll d := by
  rw [poll, h]

theorem poll_of_return {result : Poll (Except IoError ℕ)} (h : c.turn d = .return result c') :
    c.poll d = (result, c') := by
  rw [poll, h]

/-- What turns preserve, and what a turn that returns makes of it, holds for a poll. -/
theorem poll_induction {I : CopyBuf → Prop} {Q : Poll (Except IoError ℕ) → CopyBuf → Prop}
    (hcontinue : ∀ c c', I c → c.turn d = .continue c' → I c')
    (hreturn : ∀ c result c', I c → c.turn d = .return result c' → Q result c') (hc : I c) :
    Q (c.poll d).1 (c.poll d).2 := by
  induction hwork : c.work using Nat.strong_induction_on generalizing c with
  | h n ih =>
    cases hturn : c.turn d with
    | «continue» c' =>
      rw [poll_of_continue hturn]
      exact ih _ (hwork ▸ work_lt_of_turn hturn) (hcontinue c c' hc hturn) rfl
    | «return» result c' =>
      rw [poll_of_return hturn]
      exact hreturn c result c' hc hturn

end CopyBuf

/-! ### What has come of the chunks -/

/-- The sizes the reader is given while a number of bytes is copied. -/
def resizes (amt : ℕ) : List ℕ :=
  (if resizeThresholdLarge ≤ amt then [largeBufferSize] else []) ++
    if resizeThresholdJumbo ≤ amt then [jumboBufferSize] else []

/-- With a buffer at hand, the chunks are what the writer has, the buffer and what is to be read;
what was written is counted and reported, and the reader was given the sizes for it. -/
structure Copies (chunks : List Bytes) (send : Bool) (buffer : Bytes) (c : CopyBuf) : Prop where
  bytes : c.writer.delivered ++ buffer ++ c.reader.chunks.flatten = chunks.flatten
  unread : ∀ chunk ∈ c.reader.chunks, chunk ≠ []
  amt : c.amt = c.writer.delivered.length
  direction : c.send = send
  reported : (c.metrics.increments send).sum = c.amt
  unreported : c.metrics.increments (!send) = []
  sizes : c.reader.sizes = resizes c.amt

/-- Between two turns, the buffer at hand is the stored one, which is not empty. -/
structure Copying (chunks : List Bytes) (send : Bool) (c : CopyBuf) : Prop where
  copies : Copies chunks send (c.buf.getD []) c
  stored : c.buf ≠ some []

/-- All of the chunks are written, flushed, counted and reported. -/
structure Copied (chunks : List Bytes) (send : Bool) (result : Except IoError ℕ) (c : CopyBuf) :
    Prop where
  result : result = .ok chunks.flatten.length
  delivered : c.writer.delivered = chunks.flatten
  flushed : c.writer.flushed = some chunks.flatten
  reported : (c.metrics.increments send).sum = chunks.flatten.length
  unreported : c.metrics.increments (!send) = []
  sizes : c.reader.sizes = resizes chunks.flatten.length

variable {chunks : List Bytes} {send : Bool} {buffer : Bytes} {c c' : CopyBuf} {d : Devices}
  {reader : Reader}

theorem Copying.copyBuf (hchunks : ∀ chunk ∈ chunks, chunk ≠ []) (send : Bool) :
    Copying chunks send (copyBuf chunks send) where
  copies :=
    { bytes := rfl
      unread := hchunks
      amt := rfl
      direction := rfl
      reported := by cases send <;> rfl
      unreported := by cases send <;> rfl
      sizes := rfl }
  stored := (Option.some_ne_none _).symm

/-- How often the devices were asked and which buffer is stored do not matter. -/
theorem Copies.frame (h : Copies chunks send buffer c)
    (hreader : (c'.reader.chunks, c'.reader.sizes) = (c.reader.chunks, c.reader.sizes))
    (hdelivered : c'.writer.delivered = c.writer.delivered)
    (hcounted : (c'.amt, c'.send, c'.metrics) = (c.amt, c.send, c.metrics)) :
    Copies chunks send buffer c' := by
  obtain ⟨hbytes, hunread, hamt, hdirection, hreported, hunreported, hsizes⟩ := h
  simp only [Prod.mk.injEq] at hreader hcounted
  obtain ⟨hchunks, hsizes'⟩ := hreader
  obtain ⟨hamt', hsend, hmetrics⟩ := hcounted
  rw [← hdelivered, ← hchunks] at hbytes
  rw [← hchunks] at hunread
  rw [← hamt', ← hdelivered] at hamt
  rw [← hmetrics, ← hamt'] at hreported
  rw [← hmetrics] at hunreported
  rw [← hsizes', ← hamt'] at hsizes
  exact ⟨hbytes, hunread, hamt, hsend.trans hdirection, hreported, hunreported, hsizes⟩

/-- Whatever the reader gives is the next part of what is left. -/
theorem Copying.fetch (h : Copying chunks send c)
    (hfetch : CopyBuf.Fetched d c (.ready (.ok buffer)) reader) :
    Copies chunks send buffer { c with reader := reader, buf := none } ∧
      (buffer = [] → reader.chunks = []) := by
  obtain ⟨hcopies, hstored⟩ := h
  cases hfetch with
  | stored _ hbuf =>
    rw [hbuf] at hcopies hstored
    refine ⟨hcopies.frame rfl rfl rfl, ?_⟩
    rintro rfl
    exact absurd rfl hstored
  | ended hbuf hchunks =>
    rw [hbuf] at hcopies
    exact ⟨hcopies.frame rfl rfl rfl, fun _ ↦ hchunks⟩
  | read _ rest hbuf hchunks =>
    obtain ⟨hbytes, hunread, hamt, hdirection, hreported, hunreported, hsizes⟩ := hcopies
    rw [hchunks] at hunread
    rw [hbuf, hchunks, Option.getD_none, List.append_nil, List.flatten_cons,
      ← List.append_assoc] at hbytes
    refine ⟨⟨hbytes, ?_, hamt, hdirection, hreported, hunreported, hsizes⟩, fun hempty ↦ ?_⟩
    · exact fun chunk hchunk ↦ hunread chunk (List.mem_cons_of_mem _ hchunk)
    · exact absurd hempty (hunread buffer List.mem_cons_self)

/-- Each threshold is passed once. -/
theorem resizes_add (old i : ℕ) :
    resizes (old + i) = resizes old ++
      ((if old < resizeThresholdLarge ∧ resizeThresholdLarge ≤ old + i then [largeBufferSize]
        else []) ++
      if old < resizeThresholdJumbo ∧ resizeThresholdJumbo ≤ old + i then [jumboBufferSize]
      else []) := by
  have hthresholds : resizeThresholdLarge ≤ resizeThresholdJumbo := by decide
  unfold resizes
  generalize resizeThresholdLarge = large at hthresholds ⊢
  generalize resizeThresholdJumbo = jumbo at hthresholds ⊢
  split_ifs <;> first | rfl | omega

theorem sizes_wrote (c : CopyBuf) (buffer : Bytes) (i : ℕ) (h : c.reader.sizes = resizes c.amt) :
    (c.wrote buffer i).reader.sizes = resizes (c.amt + i) := by
  rw [resizes_add, ← h]
  unfold CopyBuf.wrote Reader.resize
  dsimp only
  split_ifs <;> simp

theorem increments_wrote (c : CopyBuf) (buffer : Bytes) (i : ℕ) :
    (c.wrote buffer i).metrics.increments c.send = c.metrics.increments c.send ++ [i] ∧
      (c.wrote buffer i).metrics.increments (!c.send) = c.metrics.increments (!c.send) := by
  unfold CopyBuf.wrote
  cases hsend : c.send with
  | true => exact ⟨rfl, rfl⟩
  | false => exact ⟨rfl, rfl⟩

theorem Copies.wrote (h : Copies chunks send buffer c) {i : ℕ} (hle : i ≤ buffer.length) :
    Copies chunks send (buffer.drop i)
      (({ c with
        writer :=
          { c.writer with
            delivered := c.writer.delivered ++ buffer.take i
            writes := c.writer.writes + 1 } }).wrote buffer i) := by
  obtain ⟨hbytes, hunread, hamt, rfl, hreported, hunreported, hsizes⟩ := h
  have hincrements := increments_wrote ({ c with
    writer :=
      { c.writer with
        delivered := c.writer.delivered ++ buffer.take i
        writes := c.writer.writes + 1 } }) buffer i
  refine ⟨?_, ?_, ?_, rfl, ?_, ?_, sizes_wrote _ buffer i hsizes⟩
  · rw [CopyBuf.chunks_wrote, ← hbytes]
    change c.writer.delivered ++ buffer.take i ++ buffer.drop i ++ _ = _
    rw [List.append_assoc c.writer.delivered, List.take_append_drop]
  · rwa [CopyBuf.chunks_wrote]
  · change c.amt + i = (c.writer.delivered ++ buffer.take i).length
    rw [List.length_append, List.length_take, Nat.min_eq_left hle, hamt]
  · refine (congrArg List.sum hincrements.1).trans ?_
    rw [List.sum_append, List.sum_singleton]
    exact congrArg (· + i) hreported
  · exact hincrements.2.trans hunreported

/-! ### What a poll makes of it -/

/-- The devices do not fail, and a writer that is ready has room. -/
structure Devices.Benign (d : Devices) : Prop where
  reads : ∀ k e, d.pollBytes k ≠ .ready (.error e)
  writes : ∀ k e, d.pollWriteBuf k ≠ .ready (.error e)
  room : ∀ k, d.pollWriteBuf k ≠ .ready (.ok 0)
  flushes : ∀ k e, d.pollFlush k ≠ .ready (.error e)

/-- No device is pending for ever. -/
structure Devices.Fair (d : Devices) : Prop where
  reads : Polling.Fair d.pollBytes
  writes : Polling.Fair d.pollWriteBuf
  flushes : Polling.Fair d.pollFlush

theorem Copying.continue (h : Copying chunks send c) (hturn : c.turn d = .continue c') :
    Copying chunks send c' := by
  have hturned := hturn ▸ CopyBuf.turned c d
  obtain - | - | - | - | - | - | - | - | ⟨buffer, reader, i, hpos, hle, hfetch⟩ := hturned
  refine ⟨?_, ?_⟩
  · rw [CopyBuf.getD_buf_wrote rfl]
    exact (h.fetch hfetch).1.wrote hle
  · unfold CopyBuf.wrote
    dsimp only
    split
    · next hlt =>
      intro hdrop
      have hlength := congrArg List.length (Option.some.inj hdrop)
      rw [List.length_drop, List.length_nil] at hlength
      omega
    · exact (Option.some_ne_none _).symm

theorem Copying.pending (h : Copying chunks send c) (hturn : c.turn d = .return .pending c') :
    Copying chunks send c' := by
  have hturned := hturn ▸ CopyBuf.turned c d
  cases hturned with
  | readWaited reader hfetch =>
    cases hfetch with
    | waited hbuf hread =>
      have hcopies := h.copies
      rw [hbuf] at hcopies
      exact ⟨hcopies.frame rfl rfl rfl, (Option.some_ne_none _).symm⟩
  | flushWaited reader hfetch =>
    obtain ⟨hcopies, -⟩ := h.fetch hfetch
    exact ⟨hcopies.frame rfl rfl rfl, (Option.some_ne_none _).symm⟩
  | writeWaited buffer reader hbuffer hfetch =>
    obtain ⟨hcopies, -⟩ := h.fetch hfetch
    exact ⟨hcopies.frame rfl rfl rfl, fun hempty ↦ hbuffer (Option.some.inj hempty)⟩

theorem Copying.ready (h : Copying chunks send c) (hbenign : d.Benign)
    {result : Except IoError ℕ} (hturn : c.turn d = .return (.ready result) c') :
    Copied chunks send result c' := by
  have hturned := hturn ▸ CopyBuf.turned c d
  cases hturned with
  | readFailed e _ hread => exact absurd hread (hbenign.reads _ e)
  | flushFailed e _ hflush => exact absurd hflush (hbenign.flushes _ e)
  | writeFailed e _ hwrite => exact absurd hwrite (hbenign.writes _ e)
  | wroteZero _ hwrite => exact absurd hwrite (hbenign.room _)
  | flushed reader hfetch =>
    obtain ⟨hcopies, hunread⟩ := h.fetch hfetch
    have hdelivered : c.writer.delivered = chunks.flatten := by
      have hbytes := hcopies.bytes
      dsimp only at hbytes
      rwa [hunread rfl, List.flatten_nil, List.append_nil, List.append_nil] at hbytes
    have hamt : c.amt = chunks.flatten.length := hdelivered ▸ hcopies.amt
    exact {
      result := congrArg Except.ok hamt
      delivered := hdelivered
      flushed := congrArg some hdelivered
      reported := hcopies.reported.trans hamt
      unreported := hcopies.unreported
      sizes := hcopies.sizes.trans (congrArg resizes hamt) }

/-! ### The copy completes -/

/-- What is left to do, and for how long the devices are pending. A poll of the flush comes after
another read, so its delay comes first. -/
noncomputable def CopyBuf.measure (hfair : d.Fair) (c : CopyBuf) : ℕ ×ₗ ℕ ×ₗ ℕ :=
  toLex (c.work, toLex (delay hfair.flushes c.writer.flushes,
    delay hfair.reads c.reader.polls + delay hfair.writes c.writer.writes))

theorem measure_lt_of_work_lt (hfair : d.Fair) (h : c'.work < c.work) :
    c'.measure hfair < c.measure hfair :=
  Prod.Lex.toLex_lt_toLex.2 (.inl h)

theorem measure_lt_of_flushes (hfair : d.Fair) (hwork : c'.work ≤ c.work)
    (h : delay hfair.flushes c'.writer.flushes < delay hfair.flushes c.writer.flushes) :
    c'.measure hfair < c.measure hfair := by
  obtain hlt | heq := Nat.lt_or_eq_of_le hwork
  · exact measure_lt_of_work_lt hfair hlt
  · exact Prod.Lex.toLex_lt_toLex.2 (.inr ⟨heq, Prod.Lex.toLex_lt_toLex.2 (.inl h)⟩)

theorem measure_lt_of_delays (hfair : d.Fair) (hwork : c'.work = c.work)
    (hflushes : c'.writer.flushes = c.writer.flushes)
    (h : delay hfair.reads c'.reader.polls + delay hfair.writes c'.writer.writes <
      delay hfair.reads c.reader.polls + delay hfair.writes c.writer.writes) :
    c'.measure hfair < c.measure hfair :=
  Prod.Lex.toLex_lt_toLex.2 (.inr ⟨hwork,
    Prod.Lex.toLex_lt_toLex.2 (.inr ⟨congrArg (delay hfair.flushes) hflushes, h⟩)⟩)

/-- A turn that waits has done some work, or a device is nearer to its next answer. -/
theorem measure_lt_of_turn (hfair : d.Fair) (hturn : c.turn d = .return .pending c') :
    c'.measure hfair < c.measure hfair := by
  have hturned := hturn ▸ CopyBuf.turned c d
  cases hturned with
  | readWaited reader hfetch =>
    cases hfetch with
    | waited hbuf hread =>
      have hwork : CopyBuf.work { c with reader := c.reader.polled, buf := none } = c.work := by
        unfold CopyBuf.work
        rw [hbuf]
        rfl
      refine measure_lt_of_delays hfair hwork rfl ?_
      exact Nat.add_lt_add_right (Polling.delay_succ_lt hfair.reads hread) _
  | flushWaited reader hfetch hflush =>
    -- the read before it may have put the reader's next answer off, so the flush comes first
    exact measure_lt_of_flushes hfair hfetch.work_le (Polling.delay_succ_lt hfair.flushes hflush)
  | writeWaited buffer reader hbuffer hfetch hwrite =>
    cases hfetch with
    | stored _ hbuf =>
      have hwork : CopyBuf.work { c with
          buf := some buffer
          writer := { c.writer with writes := c.writer.writes + 1 } } = c.work := by
        unfold CopyBuf.work
        rw [hbuf]
      refine measure_lt_of_delays hfair hwork rfl ?_
      exact Nat.add_lt_add_left (Polling.delay_succ_lt hfair.writes hwrite) _
    | ended => exact absurd rfl hbuffer
    | read _ rest hbuf hchunks =>
      refine measure_lt_of_work_lt hfair ?_
      unfold CopyBuf.work
      rw [hbuf, hchunks, List.flatten_cons, List.length_append, List.length_cons]
      simp only [Option.getD_some, Option.getD_none, List.length_nil]
      omega

theorem Copying.poll_pending (h : Copying chunks send c) (hpoll : c.poll d = (.pending, c')) :
    Copying chunks send c' ∧ ∀ hfair : d.Fair, c'.measure hfair < c.measure hfair := by
  have hresult := CopyBuf.poll_induction
    (I := fun t ↦ Copying chunks send t ∧ ∀ hfair : d.Fair, t.measure hfair ≤ c.measure hfair)
    (Q := fun result t ↦ result = .pending →
      Copying chunks send t ∧ ∀ hfair : d.Fair, t.measure hfair < c.measure hfair)
    (d := d) ?_ ?_ ⟨h, fun _ ↦ le_rfl⟩
  · rw [hpoll] at hresult
    exact hresult rfl
  · rintro t t' ⟨ht, hle⟩ hturn
    refine ⟨ht.continue hturn, fun hfair ↦ ?_⟩
    exact (measure_lt_of_work_lt hfair (CopyBuf.work_lt_of_turn hturn)).le.trans (hle hfair)
  · rintro t - t' ⟨ht, hle⟩ hturn rfl
    exact ⟨ht.pending hturn, fun hfair ↦ (measure_lt_of_turn hfair hturn).trans_le (hle hfair)⟩

theorem Copying.poll_ready (h : Copying chunks send c) (hbenign : d.Benign)
    {result : Except IoError ℕ} (hpoll : c.poll d = (.ready result, c')) :
    Copied chunks send result c' := by
  have hresult := CopyBuf.poll_induction (I := Copying chunks send)
    (Q := fun p t ↦ ∀ r, p = .ready r → Copied chunks send r t) (d := d)
    (fun _ _ ht hturn ↦ ht.continue hturn) ?_ h
  · rw [hpoll] at hresult
    exact hresult result rfl
  · rintro t - t' ht hturn r rfl
    exact ht.ready hbenign hturn

/-- **Copying a stream**, for any chunks that are not empty and whatever the devices answer, as long
as they do not fail and a writer that is ready takes something: while the copy waits, the writer has
the first bytes of the chunks; once it has a result, the writer has all of them and was flushed, the
result and what was reported are their number, and the reader was given each size once if they reach
its threshold; and it has a result at some time if no device is pending for ever. -/
theorem copy_exact (hchunks : ∀ chunk ∈ chunks, chunk ≠ []) (hbenign : d.Benign) (send : Bool) :
    (∀ n c, drive (CopyBuf.poll · d) n (copyBuf chunks send) = (.pending, c) →
      c.writer.delivered <+: chunks.flatten ∧
      (c.metrics.increments send).sum = c.writer.delivered.length) ∧
    (∀ n result c, drive (CopyBuf.poll · d) n (copyBuf chunks send) = (.ready result, c) →
      Copied chunks send result c) ∧
    (d.Fair → ∃ n result c,
      drive (CopyBuf.poll · d) n (copyBuf chunks send) = (.ready result, c)) := by
  have hstart := Copying.copyBuf hchunks send
  have hpending : ∀ c c', Copying chunks send c → c.poll d = (.pending, c') →
      Copying chunks send c' :=
    fun _ _ h hpoll ↦ (h.poll_pending hpoll).1
  have hready : ∀ c result c', Copying chunks send c → c.poll d = (.ready result, c') →
      Copied chunks send result c' :=
    fun _ _ _ h hpoll ↦ h.poll_ready hbenign hpoll
  have hdrive := fun n ↦ Polling.drive_induction hpending hready n hstart
  refine ⟨fun n c hwaits ↦ ?_, fun n ↦ (hdrive n).2, fun hfair ↦ ?_⟩
  · obtain ⟨hbytes, -, hamt, -, hreported, -, -⟩ := ((hdrive n).1 c hwaits).copies
    refine ⟨⟨c.buf.getD [] ++ c.reader.chunks.flatten, ?_⟩, hreported.trans hamt⟩
    rw [← List.append_assoc, hbytes]
  · exact Polling.exists_drive_ready (I := Copying chunks send) (CopyBuf.measure hfair)
      (fun _ _ h hpoll ↦ (h.poll_pending hpoll).imp_right (· hfair)) hstart

/-- A device that is pending every second time. -/
def everySecond {α : Type*} (answer : α) (k : ℕ) : Poll α :=
  if k % 2 = 0 then .pending else .ready answer

theorem fair_everySecond {α : Type*} (answer : α) : Fair (everySecond answer) := by
  intro n
  refine ⟨(n + 1) % 2, ?_⟩
  have hodd : ¬(n + (n + 1) % 2) % 2 = 0 := by omega
  rw [everySecond, if_neg hodd]
  rintro ⟨⟩

/-- Slow devices with room for two bytes at a time. -/
def slowDevices : Devices where
  pollBytes := everySecond (.ok ())
  pollWriteBuf := everySecond (.ok 2)
  pollFlush := everySecond (.ok ())

theorem everySecond_ne {α : Type} {answer a : α} (h : a ≠ answer) (k : ℕ) :
    everySecond answer k ≠ .ready a := by
  unfold everySecond
  split
  · rintro ⟨⟩
  · exact fun hready ↦ h (Poll.ready.inj hready).symm

theorem benign_slowDevices : slowDevices.Benign where
  reads k e := everySecond_ne (by rintro ⟨⟩) k
  writes k e := everySecond_ne (by rintro ⟨⟩) k
  room k := everySecond_ne (by rintro ⟨⟩) k
  flushes k e := everySecond_ne (by rintro ⟨⟩) k

theorem copy_exact_slowDevices :
    ∃ n c, drive (CopyBuf.poll · slowDevices) n (copyBuf [[1, 2, 3], [4]] true) =
        (.ready (.ok 4), c) ∧
      c.writer.delivered = [1, 2, 3, 4] ∧ c.writer.flushed = some [1, 2, 3, 4] ∧
      (c.metrics.increments true).sum = 4 ∧ c.reader.sizes = [] := by
  have hfair : slowDevices.Fair :=
    ⟨fair_everySecond _, fair_everySecond _, fair_everySecond _⟩
  have hchunks : ∀ chunk ∈ ([[1, 2, 3], [4]] : List Bytes), chunk ≠ [] := by decide
  obtain ⟨-, hready, hcompletes⟩ := copy_exact hchunks benign_slowDevices true
  obtain ⟨n, result, c, hdrive⟩ := hcompletes hfair
  obtain ⟨rfl, hdelivered, hflushed, hreported, -, hsizes⟩ := hready n result c hdrive
  exact ⟨n, c, hdrive, hdelivered, hflushed, hreported, hsizes⟩

end Ztunnel.Proxy.Copy
