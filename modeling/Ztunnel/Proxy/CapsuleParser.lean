import Ztunnel.Proxy.Capsule

/-!
# What a stream of capsules says

`Parser` is what the decoder amounts to: a resumable machine over the bytes it holds and the number
of bytes it still has to skip, whose outputs are the datagrams and the oversized ones it dropped. A
push of the decoder is a push of the parser (`Decoder.push_eq`), and so it makes no difference how
the stream is cut into pieces (`Decoder.chunking_invariant`).
-/

namespace Ztunnel.Proxy.Capsule

open Resumable

/-! ### The parser -/

/-- What a stream of capsules says, as far as the decoder is concerned. -/
inductive Item where
  | datagram (payload : Bytes)
  | oversized
  deriving DecidableEq

/-- The payloads among the items. -/
def payloads (items : List Item) : List Bytes :=
  items.filterMap fun
    | .datagram payload => some payload
    | .oversized => none

/-- The number of oversized datagrams among the items. -/
def oversized (items : List Item) : ℕ := items.count .oversized

@[simp]
theorem payloads_append (items items' : List Item) :
    payloads (items ++ items') = payloads items ++ payloads items' :=
  List.filterMap_append

@[simp]
theorem oversized_append (items items' : List Item) :
    oversized (items ++ items') = oversized items + oversized items' :=
  List.count_append

/-- **The parser**: the bytes of a capsule that is not complete, and how many of the bytes to come
are to be skipped. -/
structure Parser where
  buffer : Bytes
  skip : ℕ

/-- The type of the capsule at the start of the buffer, its length, and the length of the two. -/
def header (buffer : Bytes) : Option (ℕ × ℕ × ℕ) :=
  (decodeVarint buffer).bind fun (capsuleType, typeLen) ↦
    (decodeVarint (buffer.drop typeLen)).map fun (capsuleLen, lengthLen) ↦
      (capsuleType, capsuleLen, typeLen + lengthLen)

namespace Parser

/-- Takes bytes in, after those to be skipped. -/
def feed (p : Parser) (xs : Bytes) : Parser :=
  ⟨p.buffer ++ xs.drop p.skip, p.skip - xs.length⟩

/-- Past a header, a value of the given length is skipped: as much of it as is there, and the rest
when it comes. -/
def pass (p : Parser) (headerLen capsuleLen : ℕ) : Parser :=
  feed ⟨[], capsuleLen⟩ (p.buffer.drop headerLen)

/-- What the value of a DATAGRAM capsule says. -/
def items (value : Bytes) : Except IoError (List Item) :=
  match decodeVarint value with
  | none => .error ⟨.invalidData, "DATAGRAM capsule is missing a context ID"⟩
  | some (contextId, contextLen) =>
    if contextId ≠ defaultContextId then .ok []
    else if value.length - contextLen > maxDatagramSize then .ok [.oversized]
    else .ok [.datagram (value.drop contextLen)]

/-- Ends a turn with what was found, or with an error. -/
def finish (rest : Parser) : Except IoError (List Item) → Turn Parser Item IoError
  | .ok found => .emit found rest
  | .error e => .fail e rest

/-- One capsule. -/
def turn (p : Parser) : Turn Parser Item IoError :=
  if p.skip > 0 then .wait
  else
    match header p.buffer with
    | none => .wait
    | some (capsuleType, capsuleLen, headerLen) =>
      if capsuleType ≠ datagramCapsuleType then .emit [] (p.pass headerLen capsuleLen)
      else if capsuleLen > maxDatagramSize + 8 then
        .emit [.oversized] (p.pass headerLen capsuleLen)
      else if p.buffer.length < headerLen + capsuleLen then .wait
      else
        finish ⟨p.buffer.drop (headerLen + capsuleLen), 0⟩
          (items ((p.buffer.drop headerLen).take capsuleLen))

end Parser

theorem header_of_some {buffer : Bytes} {capsuleType typeLen : ℕ}
    (h : decodeVarint buffer = some (capsuleType, typeLen)) :
    header buffer = (decodeVarint (buffer.drop typeLen)).map fun (capsuleLen, lengthLen) ↦
      (capsuleType, capsuleLen, typeLen + lengthLen) := by
  rw [header, h]
  rfl

theorem header_eq_some {buffer : Bytes} {capsuleType capsuleLen headerLen : ℕ} :
    header buffer = some (capsuleType, capsuleLen, headerLen) ↔
      ∃ typeLen lengthLen, decodeVarint buffer = some (capsuleType, typeLen) ∧
        decodeVarint (buffer.drop typeLen) = some (capsuleLen, lengthLen) ∧
        typeLen + lengthLen = headerLen := by
  constructor
  · intro h
    obtain ⟨⟨t, typeLen⟩, htype, hmap⟩ := Option.bind_eq_some_iff.1 h
    obtain ⟨⟨l, lengthLen⟩, hlength, heq⟩ := Option.map_eq_some_iff.1 hmap
    obtain ⟨rfl, hrest⟩ := Prod.mk.inj heq
    obtain ⟨rfl, rfl⟩ := Prod.mk.inj hrest
    exact ⟨typeLen, lengthLen, htype, hlength, rfl⟩
  · rintro ⟨typeLen, lengthLen, htype, hlength, rfl⟩
    rw [header_of_some htype, hlength]
    rfl

theorem header_len {buffer : Bytes} {capsuleType capsuleLen headerLen : ℕ}
    (h : header buffer = some (capsuleType, capsuleLen, headerLen)) :
    0 < headerLen ∧ headerLen ≤ buffer.length := by
  obtain ⟨typeLen, lengthLen, htype, hlength, rfl⟩ := header_eq_some.1 h
  obtain ⟨hpos, hle⟩ := decodeVarint_len htype
  obtain ⟨-, hle'⟩ := decodeVarint_len hlength
  rw [List.length_drop] at hle'
  omega

theorem header_append {buffer : Bytes} {r : ℕ × ℕ × ℕ} (h : header buffer = some r)
    (more : Bytes) : header (buffer ++ more) = some r := by
  obtain ⟨capsuleType, capsuleLen, headerLen⟩ := r
  obtain ⟨typeLen, lengthLen, htype, hlength, hlen⟩ := header_eq_some.1 h
  refine header_eq_some.2 ⟨typeLen, lengthLen, decodeVarint_append htype more, ?_, hlen⟩
  rw [List.drop_append_of_le_length (decodeVarint_len htype).2]
  exact decodeVarint_append hlength more

namespace Parser

variable {p : Parser}

theorem feed_nil (p : Parser) : p.feed [] = p := by
  rw [feed, List.drop_nil, List.append_nil]
  rfl

theorem feed_append (p : Parser) (xs ys : Bytes) : p.feed (xs ++ ys) = (p.feed xs).feed ys := by
  rw [feed, feed, feed, List.drop_append, List.length_append, List.append_assoc, Nat.sub_sub]

theorem feed_of_skip_eq_zero (h : p.skip = 0) (xs : Bytes) : p.feed xs = ⟨p.buffer ++ xs, 0⟩ := by
  rw [feed, h, List.drop_zero, Nat.zero_sub]

/-- What is skipped of a capsule does not depend on when it comes. -/
theorem pass_feed (h : p.skip = 0) {headerLen : ℕ} (hle : headerLen ≤ p.buffer.length)
    (capsuleLen : ℕ) (xs : Bytes) :
    (p.feed xs).pass headerLen capsuleLen = (p.pass headerLen capsuleLen).feed xs := by
  rw [feed_of_skip_eq_zero h, pass, List.drop_append_of_le_length hle, feed_append]
  rfl

/-- **What a turn can do**, and does as well when more bytes have come: pass over a capsule, or take
one that is all there. -/
theorem turn_cases (p : Parser) :
    p.turn = .wait ∨ p.skip = 0 ∧ ∃ headerLen capsuleLen, 0 < headerLen ∧
      headerLen ≤ p.buffer.length ∧
      ((∃ found, payloads found = [] ∧
          ∀ xs, (p.feed xs).turn = .emit found ((p.pass headerLen capsuleLen).feed xs)) ∨
        headerLen + capsuleLen ≤ p.buffer.length ∧ ∃ result, ∀ xs, (p.feed xs).turn =
          finish ⟨p.buffer.drop (headerLen + capsuleLen) ++ xs, 0⟩ result) := by
  by_cases hskip : p.skip > 0
  · exact .inl (if_pos hskip)
  have hzero : p.skip = 0 := by omega
  rcases hheader : header p.buffer with - | ⟨capsuleType, capsuleLen, headerLen⟩
  · left
    rw [turn, if_neg hskip, hheader]
  obtain ⟨hpos, hle⟩ := header_len hheader
  -- the header is read in the same way when more bytes have come
  have hturn : ∀ xs, (p.feed xs).turn =
      if capsuleType ≠ datagramCapsuleType then .emit [] ((p.pass headerLen capsuleLen).feed xs)
      else if capsuleLen > maxDatagramSize + 8 then
        .emit [.oversized] ((p.pass headerLen capsuleLen).feed xs)
      else if (p.buffer ++ xs).length < headerLen + capsuleLen then .wait
      else finish ⟨(p.buffer ++ xs).drop (headerLen + capsuleLen), 0⟩
        (items (((p.buffer ++ xs).drop headerLen).take capsuleLen)) := by
    intro xs
    have hfeed := feed_of_skip_eq_zero hzero xs
    rw [turn, if_neg (by rw [hfeed]; exact Nat.lt_irrefl 0),
      show (p.feed xs).buffer = _ by rw [hfeed], header_append hheader,
      ← pass_feed hzero hle, hfeed]
  by_cases htype : capsuleType ≠ datagramCapsuleType
  · exact .inr ⟨hzero, headerLen, capsuleLen, hpos, hle,
      .inl ⟨[], rfl, fun xs ↦ (hturn xs).trans (if_pos htype)⟩⟩
  by_cases hlarge : capsuleLen > maxDatagramSize + 8
  · refine .inr ⟨hzero, headerLen, capsuleLen, hpos, hle, .inl ⟨[.oversized], rfl, fun xs ↦ ?_⟩⟩
    rw [hturn, if_neg htype, if_pos hlarge]
  by_cases hshort : p.buffer.length < headerLen + capsuleLen
  · left
    have hnow := hturn []
    rwa [feed_nil, List.append_nil, if_neg htype, if_neg hlarge, if_pos hshort] at hnow
  · have hcomplete : headerLen + capsuleLen ≤ p.buffer.length := by omega
    refine .inr ⟨hzero, headerLen, capsuleLen, hpos, hle, .inr ⟨hcomplete,
      items ((p.buffer.drop headerLen).take capsuleLen), fun xs ↦ ?_⟩⟩
    have hvalue : capsuleLen ≤ (p.buffer.drop headerLen).length := by
      rw [List.length_drop]
      omega
    rw [hturn, if_neg htype, if_neg hlarge, if_neg (by rw [List.length_append]; omega),
      List.drop_append_of_le_length hle, List.take_append_of_le_length hvalue,
      List.drop_append_of_le_length hcomplete]

/-- **The parser does not look ahead**: what it does with the bytes it has, it does when more have
come. -/
theorem turn_feed (p : Parser) (xs : Bytes) (hne : p.turn ≠ .wait) :
    (p.feed xs).turn = p.turn.map fun q ↦ q.feed xs := by
  obtain hwait | ⟨-, headerLen, capsuleLen, -, -, ⟨found, -, hpass⟩ | ⟨-, result, hframe⟩⟩ :=
    p.turn_cases
  · exact absurd hwait hne
  · have hnow := hpass []
    rw [feed_nil, feed_nil] at hnow
    rw [hpass, hnow]
    rfl
  · have hnow := hframe []
    rw [feed_nil, List.append_nil] at hnow
    have hrest : feed ⟨p.buffer.drop (headerLen + capsuleLen), 0⟩ xs =
        ⟨p.buffer.drop (headerLen + capsuleLen) ++ xs, 0⟩ :=
      feed_of_skip_eq_zero rfl xs
    rw [hframe, hnow, ← hrest]
    rcases result with e | found <;> rfl

/-- Where a turn leaves the parser: past the header of a capsule that it passes over, which gives no
datagram, or behind one that it takes. -/
theorem turn_next {q : Parser} (h : p.turn.next = some q) :
    ∃ headerLen capsuleLen, 0 < headerLen ∧ headerLen ≤ p.buffer.length ∧
      ((∃ found, payloads found = [] ∧ p.turn = .emit found q) ∧ q = p.pass headerLen capsuleLen ∨
        q = ⟨p.buffer.drop (headerLen + capsuleLen), 0⟩) := by
  obtain hwait | ⟨-, headerLen, capsuleLen, hpos, hle, hturn⟩ := p.turn_cases
  · rw [hwait] at h
    exact nomatch h
  refine ⟨headerLen, capsuleLen, hpos, hle, ?_⟩
  obtain ⟨found, hnil, hpass⟩ | ⟨-, result, hframe⟩ := hturn
  · have hnow := hpass []
    rw [feed_nil, feed_nil] at hnow
    rw [hnow] at h ⊢
    obtain rfl := Option.some.inj h
    exact .inl ⟨⟨found, hnil, rfl⟩, rfl⟩
  · have hnow := hframe []
    rw [feed_nil, List.append_nil] at hnow
    rw [hnow] at h
    rcases result with e | found <;> exact .inr (Option.some.inj h).symm

/-- A capsule is never empty, so a turn that goes on uses up bytes. -/
theorem length_buffer_lt {found : List Item} {q : Parser} (h : p.turn = .emit found q) :
    q.buffer.length < p.buffer.length := by
  have hnext : p.turn.next = some q := congrArg Turn.next h
  obtain ⟨headerLen, capsuleLen, hpos, hle, ⟨-, rfl⟩ | rfl⟩ := turn_next hnext
  · simp only [pass, feed, List.nil_append, List.length_drop]
    omega
  · rw [List.length_drop]
    omega

/-- While bytes are to be skipped, none are held. -/
def Skips (p : Parser) : Prop := p.skip > 0 → p.buffer = []

theorem Skips.feed (h : p.Skips) (xs : Bytes) : (p.feed xs).Skips := by
  intro hskip
  have hlt : xs.length < p.skip := by
    have : p.skip - xs.length > 0 := hskip
    omega
  show p.buffer ++ xs.drop p.skip = []
  rw [h (by omega), List.drop_eq_nil_of_le (by omega), List.append_nil]

/-- A turn that does something leaves the parser with bytes to skip or with bytes behind. -/
theorem skips_of_turn {q : Parser} (h : p.turn.next = some q) : q.Skips := by
  obtain ⟨headerLen, capsuleLen, -, -, ⟨-, rfl⟩ | rfl⟩ := turn_next h
  · exact Skips.feed (fun _ ↦ rfl) _
  · exact fun hskip ↦ absurd hskip (Nat.lt_irrefl 0)

theorem payloads_of_skip {found : List Item} {q : Parser} (h : p.turn = .emit found q)
    (hskip : q.skip > 0) : payloads found = [] := by
  have hnext : p.turn.next = some q := congrArg Turn.next h
  obtain ⟨headerLen, capsuleLen, -, -, ⟨⟨found', hnil, hemit⟩, -⟩ | rfl⟩ := turn_next hnext
  · rwa [(Turn.emit.inj (h.symm.trans hemit)).1]
  · exact absurd hskip (Nat.lt_irrefl 0)

/-- The parser as a machine. -/
def machine : Machine UInt8 Parser Item IoError where
  turn := turn
  feed := feed
  size p := p.buffer.length
  feed_nil := feed_nil
  feed_append := feed_append
  turn_feed := turn_feed
  size_lt := length_buffer_lt

theorem machine_turn (p : Parser) : machine.turn p = p.turn := rfl

end Parser

/-! ### The decoder is the parser -/

/-- A decoder in the state of a parser. -/
def Parser.decoder (p : Parser) (droppedOversized : ℕ) : Decoder :=
  ⟨p.buffer, p.skip, droppedOversized⟩

namespace Decoder

def parser (d : Decoder) : Parser := ⟨d.buffer, d.skipRemaining⟩

theorem parser_decoder (p : Parser) (dropped : ℕ) : (p.decoder dropped).parser = p := rfl

/-- A turn of the parser as one of the loop. -/
def flow (d : Decoder) : Turn Parser Item IoError → Flow
  | .wait => .break d
  | .emit found p =>
    if p.skip > 0 then .break (p.decoder (d.droppedOversized + oversized found))
    else .continue (payloads found) (p.decoder (d.droppedOversized + oversized found))
  | .fail e p => .return e (p.decoder d.droppedOversized)

theorem skipCapsule_eq (d : Decoder) (headerLen capsuleLen : ℕ) :
    d.skipCapsule headerLen capsuleLen =
      d.flow (.emit [] (d.parser.pass headerLen capsuleLen)) := by
  have hdrop : (d.buffer.drop headerLen).drop (min (d.buffer.drop headerLen).length capsuleLen) =
      (d.buffer.drop headerLen).drop capsuleLen := by
    rcases Nat.le_total (d.buffer.drop headerLen).length capsuleLen with hle | hle
    · rw [Nat.min_eq_left hle, List.drop_length, List.drop_eq_nil_of_le hle]
    · rw [Nat.min_eq_right hle]
  have hskip : capsuleLen - min (d.buffer.drop headerLen).length capsuleLen =
      capsuleLen - (d.buffer.drop headerLen).length := by
    omega
  simp only [skipCapsule, hdrop, hskip]
  rfl

theorem takeFrame_eq (d : Decoder) (hskip : d.skipRemaining = 0) {headerLen capsuleLen : ℕ}
    (hle : headerLen + capsuleLen ≤ d.buffer.length) :
    d.takeFrame headerLen (headerLen + capsuleLen) =
      d.flow (Parser.finish ⟨d.buffer.drop (headerLen + capsuleLen), 0⟩
        (Parser.items ((d.buffer.drop headerLen).take capsuleLen))) := by
  have hvalue : (d.buffer.take (headerLen + capsuleLen)).drop headerLen =
      (d.buffer.drop headerLen).take capsuleLen := by
    rw [List.drop_take, Nat.add_sub_cancel_left]
  have hlen : ∀ contextLen,
      (d.buffer.take (headerLen + capsuleLen)).length - (headerLen + contextLen) =
        ((d.buffer.drop headerLen).take capsuleLen).length - contextLen := by
    intro contextLen
    rw [List.length_take, List.length_take, List.length_drop]
    omega
  rw [takeFrame, Parser.items, hvalue]
  rcases decodeVarint ((d.buffer.drop headerLen).take capsuleLen) with - | ⟨contextId, contextLen⟩
  · simp only [hskip]
    rfl
  · simp only [hskip, hlen, ← List.drop_drop, hvalue]
    by_cases hcontext : contextId = defaultContextId
    · rw [if_pos hcontext, if_neg (not_not.2 hcontext)]
      split <;> rfl
    · rw [if_neg hcontext, if_pos hcontext]
      rfl

/-- **A turn of the loop is a turn of the parser.** The two errors about the size of a length cannot
occur: a length takes at most 62 bits. -/
theorem turn_eq (d : Decoder) (hskip : d.skipRemaining = 0) : d.turn = d.flow d.parser.turn := by
  rw [Parser.turn, if_neg (show ¬d.parser.skip > 0 by rw [parser, hskip]; exact Nat.lt_irrefl 0)]
  rw [turn, show d.parser.buffer = d.buffer from rfl]
  rcases htype : decodeVarint d.buffer with - | ⟨capsuleType, typeLen⟩
  · rw [header, htype]
    rfl
  rw [header_of_some htype]
  rcases hlength : decodeVarint (d.buffer.drop typeLen) with - | ⟨capsuleLen, lengthLen⟩
  · simp only [hlength]
    rfl
  obtain ⟨-, htypeLen⟩ := decodeVarint_small htype
  obtain ⟨hcapsuleLen, hlengthLen⟩ := decodeVarint_small hlength
  have hfits : ¬capsuleLen > usizeMax := by
    rw [usizeMax]
    omega
  have hsum : ¬typeLen + lengthLen + capsuleLen > usizeMax := by
    rw [usizeMax]
    omega
  simp only [hlength, Option.map_some, if_neg hfits, if_neg hsum]
  by_cases hother : capsuleType ≠ datagramCapsuleType
  · rw [if_pos hother, if_pos hother, skipCapsule_eq]
  rw [if_neg hother, if_neg hother]
  by_cases hlarge : capsuleLen > maxDatagramSize + 8
  · rw [if_pos hlarge, if_pos hlarge, skipCapsule_eq]
    rfl
  rw [if_neg hlarge, if_neg hlarge]
  by_cases hshort : d.buffer.length < typeLen + lengthLen + capsuleLen
  · rw [if_pos hshort, if_pos hshort]
    rfl
  · rw [if_neg hshort, if_neg hshort]
    exact d.takeFrame_eq hskip (by omega)

/-- What a push of the parser comes to, for the decoder. -/
def lift (dropped : ℕ) (o : Outcome Parser Item IoError) : Outcome Decoder Bytes IoError :=
  ⟨payloads o.outputs, o.error, o.state.decoder (dropped + oversized o.outputs)⟩

theorem lift_after (dropped : ℕ) (found : List Item) (o : Outcome Parser Item IoError) :
    lift dropped (o.after found) = (lift (dropped + oversized found) o).after (payloads found) := by
  simp only [lift, Outcome.after, payloads_append, oversized_append, Nat.add_assoc]

/-- **The loop drains the parser**, with one turn for each byte and one more. -/
theorem loop_eq {fuel : ℕ} {d : Decoder} (hskip : d.skipRemaining = 0)
    (hfuel : d.buffer.length < fuel) (datagrams : List Bytes) :
    d.loop fuel datagrams =
      (lift d.droppedOversized (Parser.machine.drain d.parser)).after datagrams := by
  induction fuel generalizing d datagrams with
  | zero => omega
  | succ fuel ih =>
    rw [loop, d.turn_eq hskip]
    rcases h : d.parser.turn with - | ⟨found, p⟩ | ⟨e, p⟩
    · rw [Machine.drain_of_wait (m := Parser.machine) h]
      show _ = Outcome.mk (datagrams ++ []) none d
      rw [List.append_nil]
      rfl
    · rw [Machine.drain_of_emit (m := Parser.machine) h, lift_after, flow]
      by_cases hp : p.skip > 0
      · -- the rest of the capsule is to come: the loop breaks, and the parser waits
        rw [if_pos hp, Machine.drain_of_wait (m := Parser.machine) (if_pos hp),
          Parser.payloads_of_skip h hp]
        show _ = Outcome.mk (datagrams ++ []) none _
        rw [List.append_nil]
        rfl
      · have hlt := Parser.length_buffer_lt h
        have hbuffer : d.parser.buffer.length = d.buffer.length := rfl
        rw [if_neg hp]
        show (p.decoder _).loop fuel _ = _
        rw [ih (show p.skip = 0 by omega) (show p.buffer.length < fuel by omega)]
        exact (Outcome.after_after ..).symm
    · rw [Machine.drain_of_fail (m := Parser.machine) h]
      show _ = Outcome.mk (datagrams ++ []) (some e) _
      rw [List.append_nil]
      rfl

/-- **A push of the decoder is a push of the parser.** -/
theorem push_eq (d : Decoder) (chunk : Bytes) :
    d.push chunk = lift d.droppedOversized (Parser.machine.push d.parser chunk) := by
  have hmin : d.skipRemaining - min d.skipRemaining chunk.length =
      d.skipRemaining - chunk.length := by
    omega
  rw [push, hmin]
  by_cases hskip : d.skipRemaining - chunk.length > 0
  · -- all of the chunk is skipped
    have hfeed : d.parser.feed chunk = ⟨d.buffer, d.skipRemaining - chunk.length⟩ := by
      rw [Parser.feed, show d.parser.skip = d.skipRemaining from rfl,
        List.drop_eq_nil_of_le (by omega), List.append_nil]
      rfl
    have hwait : (d.parser.feed chunk).turn = .wait := if_pos hskip
    have hpush : Parser.machine.push d.parser chunk = ⟨[], none, d.parser.feed chunk⟩ :=
      Machine.drain_of_wait (m := Parser.machine) hwait
    rw [hpush, hfeed, if_pos hskip]
    rfl
  · have hmin' : min d.skipRemaining chunk.length = d.skipRemaining := by omega
    have hzero : d.skipRemaining - chunk.length = 0 := by omega
    rw [if_neg hskip, hmin']
    show loop _ _ [] = _
    rw [loop_eq hzero (Nat.lt_succ_self _)]
    rfl

end Decoder

/-! ### The calls of a reader -/

/-- A call of whoever reads the stream. -/
inductive Call where
  | push (chunk : Bytes)
  | takeDroppedOversized

/-- The bytes the calls push. -/
def Call.chunks (calls : List Call) : List Bytes :=
  calls.filterMap fun
    | .push chunk => some chunk
    | .takeDroppedOversized => none

/-- What a reader has got from its calls: the datagrams, and those it has not got because the push
that had decoded them failed; how many oversized ones it was told of; and the error. -/
structure Received where
  datagrams : List Bytes
  lost : List Bytes
  taken : ℕ
  error : Option IoError
  decoder : Decoder

/-- All oversized datagrams, those the reader has not been told of included. -/
def Received.dropped (r : Received) : ℕ := r.taken + r.decoder.droppedOversized

namespace Decoder

/-- The calls one after the other, up to the first error. -/
def calls : Decoder → List Call → Received
  | d, [] => ⟨[], [], 0, none, d⟩
  | d, .push chunk :: rest =>
    let o := d.push chunk
    match o.error with
    | some e => ⟨[], o.outputs, 0, some e, o.state⟩
    | none =>
      let r := o.state.calls rest
      { r with datagrams := o.outputs ++ r.datagrams }
  | d, .takeDroppedOversized :: rest =>
    let (n, d) := d.takeDroppedOversized
    let r := d.calls rest
    { r with taken := n + r.taken }

/-- What a reader gets is what the loop over its chunks gets from the parser. -/
structure Reads (d : Decoder) (r : Report Parser Item IoError) (got : Received) : Prop where
  datagrams : got.datagrams = payloads r.delivered
  lost : got.lost = payloads r.lost
  dropped : got.dropped = d.droppedOversized + oversized (r.delivered ++ r.lost)
  error : got.error = r.error
  parser : got.decoder.parser = r.state

/-- Every reader gets what the loop gets, however it mixes its calls. -/
theorem reads_calls (d : Decoder) (cs : List Call) :
    d.Reads (pushAll Parser.machine.push d.parser (Call.chunks cs)) (d.calls cs) := by
  induction cs generalizing d with
  | nil => exact ⟨rfl, rfl, Nat.zero_add _, rfl, rfl⟩
  | cons call cs ih =>
    rcases call with chunk | -
    · have hchunks : Call.chunks (.push chunk :: cs) = chunk :: Call.chunks cs := rfl
      rw [hchunks, pushAll, calls, push_eq]
      obtain ⟨found, error, p⟩ := Parser.machine.push d.parser chunk
      rcases error with - | e
      · have hrest := ih (p.decoder (d.droppedOversized + oversized found))
        rw [parser_decoder] at hrest
        exact {
          datagrams := by
            refine Eq.trans ?_ (payloads_append found _).symm
            exact congrArg (payloads found ++ ·) hrest.datagrams
          lost := hrest.lost
          dropped := by
            refine hrest.dropped.trans ?_
            show d.droppedOversized + oversized found + _ =
              d.droppedOversized + oversized (found ++ _ ++ _)
            rw [List.append_assoc, oversized_append found, Nat.add_assoc]
          error := hrest.error
          parser := hrest.parser }
      · exact ⟨rfl, rfl, Nat.zero_add _, rfl, rfl⟩
    · have hrest := ih { d with droppedOversized := 0 }
      exact {
        datagrams := hrest.datagrams
        lost := hrest.lost
        dropped := by
          have hdropped := hrest.dropped
          show d.droppedOversized + (calls _ cs).taken + (calls _ cs).decoder.droppedOversized = _
          simp only [Received.dropped, Nat.zero_add] at hdropped
          rw [Nat.add_assoc, hdropped]
          rfl
        error := hrest.error
        parser := hrest.parser }

theorem turn_default : Parser.machine.turn Decoder.default.parser = .wait := rfl

/-- After any calls, bytes to skip mean that no bytes are held. -/
theorem skips_calls (cs : List Call) {d : Decoder} (hd : d.parser.Skips) :
    (d.calls cs).decoder.parser.Skips := by
  rw [(d.reads_calls cs).parser]
  exact pushAll_preserves
    (fun p chunk hp ↦ Machine.drain_preserves (m := Parser.machine)
      (fun _ _ h _ ↦ Parser.skips_of_turn h) _ (hp.feed chunk)) hd

/-- **How the stream is cut makes no difference.** Two readers that push the same bytes, well formed
or not, get the same datagrams, up to those that a failing push had decoded; they see the same
number of oversized ones dropped; and they get the same error or none. And bytes to skip mean that
no bytes are held. -/
theorem chunking_invariant {cs cs' : List Call}
    (h : (Call.chunks cs).flatten = (Call.chunks cs').flatten) :
    let got := Decoder.default.calls cs
    let got' := Decoder.default.calls cs'
    got.datagrams ++ got.lost = got'.datagrams ++ got'.lost ∧
      (got.error = none → got.lost = [] ∧ got'.lost = []) ∧
      got.dropped = got'.dropped ∧ got.error = got'.error ∧
      (got.decoder.skipRemaining > 0 → got.decoder.buffer = []) := by
  intro got got'
  have hreads := Decoder.default.reads_calls cs
  have hreads' := Decoder.default.reads_calls cs'
  obtain ⟨hitems, herror, -⟩ := Machine.pushAll_congr (m := Parser.machine) h turn_default
  refine ⟨?_, fun hnone ↦ ⟨?_, ?_⟩, ?_, ?_, skips_calls cs fun hskip ↦ nomatch hskip⟩
  · rw [hreads.datagrams, hreads.lost, hreads'.datagrams, hreads'.lost, ← payloads_append, hitems,
      payloads_append]
  · rw [hreads.lost, pushAll_lost _ _ _ (hreads.error.symm.trans hnone)]
    rfl
  · rw [hreads'.lost, pushAll_lost _ _ _ (herror.symm.trans (hreads.error.symm.trans hnone))]
    rfl
  · rw [hreads.dropped, hreads'.dropped, hitems]
  · rw [hreads.error, hreads'.error, herror]

/-- A reader gets what one drain of the whole stream gives, if that does not fail. -/
theorem calls_of_drain (cs : List Call) :
    let o := Parser.machine.drain ⟨(Call.chunks cs).flatten, 0⟩
    (Decoder.default.calls cs).error = o.error ∧ (o.error = none →
      (Decoder.default.calls cs).datagrams = payloads o.outputs ∧
        (Decoder.default.calls cs).dropped = oversized o.outputs ∧
        (Decoder.default.calls cs).decoder.parser = o.state) := by
  intro o
  have hreads := Decoder.default.reads_calls cs
  have hlost := pushAll_lost Parser.machine.push Decoder.default.parser (Call.chunks cs)
  obtain ⟨rest, hpush, hrest⟩ := Machine.pushAll_flatten (Call.chunks cs) turn_default
  have hdrain : Parser.machine.push Decoder.default.parser (Call.chunks cs).flatten = o :=
    congrArg Parser.machine.drain (Parser.feed_of_skip_eq_zero rfl _)
  generalize pushAll Parser.machine.push Decoder.default.parser (Call.chunks cs) = r
    at hreads hpush hlost hrest
  rw [← hdrain, hpush]
  refine ⟨hreads.error, fun hnone ↦ ?_⟩
  have hnil := hlost hnone
  refine ⟨?_, ?_, ?_⟩
  · rw [hreads.datagrams, hnil, List.append_nil]
  · rw [hreads.dropped]
    exact Nat.zero_add _
  · rw [hreads.parser, hrest hnone, Parser.machine.feed_nil]

/-- A stream with an unknown capsule, a datagram and a capsule without a context id: pushed whole,
the datagram is lost with the error; cut before the faulty capsule, and inside of others, it is
not. -/
theorem chunking_invariant_faulty :
    let whole := Decoder.default.calls [.push [0x17, 2, 0, 0xff, 0, 2, 0, 0x42, 0, 0]]
    let cut := Decoder.default.calls
      [.push [0x17], .push [2, 0], .takeDroppedOversized, .push [0xff, 0, 2, 0, 0x42], .push [0, 0]]
    whole.datagrams = [] ∧ whole.lost = [[0x42]] ∧ cut.datagrams = [[0x42]] ∧ cut.lost = [] ∧
      whole.datagrams ++ whole.lost = cut.datagrams ++ cut.lost ∧ whole.error = cut.error ∧
      cut.error = some ⟨.invalidData, "DATAGRAM capsule is missing a context ID"⟩ := by
  intro whole cut
  have h := @chunking_invariant [.push [0x17, 2, 0, 0xff, 0, 2, 0, 0x42, 0, 0]]
    [.push [0x17], .push [2, 0], .takeDroppedOversized, .push [0xff, 0, 2, 0, 0x42], .push [0, 0]]
    rfl
  exact ⟨by decide, by decide, by decide, by decide, h.1, h.2.2.2.1, by decide⟩

end Decoder

/-! ### Streams of datagrams -/

/-- **The stream carries the datagrams**: the parser finds them in it, whatever comes behind, and
goes on with that. -/
def Carries (stream : Bytes) (datagrams : List Bytes) : Prop :=
  ∀ more, Parser.machine.drain ⟨stream ++ more, 0⟩ =
    (Parser.machine.drain ⟨more, 0⟩).after (datagrams.map .datagram)

theorem carries_nil : Carries [] [] := fun _ ↦ rfl

theorem Carries.append {stream stream' : Bytes} {datagrams datagrams' : List Bytes}
    (h : Carries stream datagrams) (h' : Carries stream' datagrams') :
    Carries (stream ++ stream') (datagrams ++ datagrams') := by
  intro more
  rw [List.append_assoc, h, h', List.map_append, Outcome.after_after]

/-- A capsule, as `encode_datagram_into` writes it, is a datagram for the parser. -/
theorem turn_capsule {payload length : Bytes} (hle : payload.length ≤ maxDatagramSize)
    (hread : ∀ more, decodeVarint (length ++ more) = some (payload.length + 1, length.length))
    (more : Bytes) :
    Parser.machine.turn ⟨0 :: (length ++ 0 :: payload) ++ more, 0⟩ =
      .emit [.datagram payload] ⟨more, 0⟩ := by
  rw [maxDatagramSize] at hle
  have hbuffer : 0 :: (length ++ 0 :: payload) ++ more =
      0 :: (length ++ (0 :: (payload ++ more))) := by
    rw [List.cons_append, List.append_assoc, List.cons_append]
  have hheader : header (0 :: (length ++ (0 :: (payload ++ more)))) =
      some (0, payload.length + 1, 1 + length.length) :=
    header_eq_some.2 ⟨1, length.length, decodeVarint_zero _, hread _, rfl⟩
  have hdrop : ∀ n, (0 :: (length ++ (0 :: (payload ++ more)))).drop (1 + length.length + n) =
      (0 :: (payload ++ more)).drop n := by
    intro n
    rw [← List.drop_drop, Nat.add_comm 1, List.drop_succ_cons, List.drop_left]
  have hvalue : ((0 :: (payload ++ more)).take (payload.length + 1)) = 0 :: payload := by
    rw [List.take_succ_cons, List.take_left]
  have hitems : Parser.items (0 :: payload) = .ok [.datagram payload] := by
    rw [Parser.items, decodeVarint_zero]
    simp only [List.length_cons, List.drop_one, List.tail_cons, Nat.add_sub_cancel]
    rw [if_neg (by decide), if_neg (by rw [maxDatagramSize]; omega)]
  have hlen : ¬(0 :: (length ++ (0 :: (payload ++ more)))).length <
      1 + length.length + (payload.length + 1) := by
    simp only [List.length_cons, List.length_append]
    omega
  rw [hbuffer, Parser.machine_turn, Parser.turn, if_neg (Nat.lt_irrefl 0), hheader]
  show (if 0 ≠ datagramCapsuleType then _ else if payload.length + 1 > maxDatagramSize + 8 then _
    else if List.length _ < _ then _ else Parser.finish ⟨_, 0⟩ _) = _
  rw [if_neg (by decide), if_neg (by rw [maxDatagramSize]; omega), if_neg hlen, hdrop,
    ← Nat.add_zero (1 + length.length), hdrop, List.drop_zero, hvalue, hitems,
    List.drop_succ_cons, List.drop_left]
  rfl

/-- **What `encode_datagram_into` writes carries the datagram.** -/
theorem carries_encode {payload out out' : Bytes} (h : encodeDatagramInto payload out = .ok out') :
    ∃ capsule, out' = out ++ capsule ∧ capsule.length ≤ payload.length + 10 ∧
      Carries capsule [payload] := by
  have hle := length_le_of_encode h
  obtain ⟨length, heq, hlen, hread⟩ := encodeDatagramInto_spec hle out
  refine ⟨0 :: (length ++ 0 :: payload), (Except.ok.inj (heq.symm.trans h)).symm, ?_, fun more ↦ ?_⟩
  · simp only [List.length_cons, List.length_append]
    omega
  · exact Machine.drain_of_emit (turn_capsule hle hread more)

theorem payloads_map_datagram (datagrams : List Bytes) :
    payloads (datagrams.map .datagram) = datagrams := by
  induction datagrams with
  | nil => rfl
  | cons payload datagrams ih => exact congrArg (payload :: ·) ih

theorem oversized_map_datagram (datagrams : List Bytes) :
    oversized (datagrams.map .datagram) = 0 := by
  refine List.count_eq_zero.2 fun hmem ↦ ?_
  obtain ⟨payload, -, heq⟩ := List.mem_map.1 hmem
  exact nomatch heq

/-- A drain of a part of a stream that carries datagrams: it finds some of them, does not fail, and
leaves the others to what comes. -/
theorem Carries.drain {stream unread : Bytes} {datagrams : List Bytes}
    (h : Carries (stream ++ unread) datagrams) :
    ∃ found later, datagrams = found ++ later ∧ (unread = [] → later = []) ∧
      (Parser.machine.drain ⟨stream, 0⟩).outputs = found.map .datagram ∧
      (Parser.machine.drain ⟨stream, 0⟩).error = none := by
  have hfeed : Parser.machine.feed ⟨stream, 0⟩ unread = ⟨stream ++ unread, 0⟩ :=
    Parser.feed_of_skip_eq_zero rfl unread
  have hwhole : Parser.machine.drain (Parser.machine.feed ⟨stream, 0⟩ unread) =
      ⟨datagrams.map .datagram, none, ⟨[], 0⟩⟩ := by
    have hnow := h []
    rw [List.append_nil, Machine.drain_of_wait (show Parser.machine.turn ⟨[], 0⟩ = .wait from rfl)]
      at hnow
    rw [hfeed, hnow]
    exact congrArg (fun outputs ↦ Outcome.mk outputs _ _) (List.append_nil _)
  rw [Machine.drain_feed] at hwhole
  rcases herror : (Parser.machine.drain ⟨stream, 0⟩).error with - | e
  · rw [herror] at hwhole
    obtain ⟨houtputs, -, -⟩ := (Outcome.mk.injEq ..).mp hwhole
    obtain ⟨found, later, heq, hfound, hlater⟩ := List.map_eq_append_iff.1 houtputs.symm
    refine ⟨found, later, heq, fun hnil ↦ ?_, hfound.symm, rfl⟩
    have hwait := Machine.turn_drain (m := Parser.machine) ⟨stream, 0⟩ herror
    rw [hnil, Machine.push, Parser.machine.feed_nil, Machine.drain_of_wait hwait] at hlater
    exact List.map_eq_nil_iff.1 hlater
  · rw [herror] at hwhole
    cases congrArg Outcome.error hwhole

/-- **A reader of a stream that carries datagrams** gets them, in order, as far as it has read them.
However it cuts the stream, there is no error, and nothing is dropped. -/
theorem Carries.calls {stream unread : Bytes} {datagrams : List Bytes}
    (h : Carries (stream ++ unread) datagrams) {cs : List Call}
    (hcs : (Call.chunks cs).flatten = stream) :
    (Decoder.default.calls cs).error = none ∧ (Decoder.default.calls cs).dropped = 0 ∧
      (Decoder.default.calls cs).datagrams <+: datagrams ∧
      (unread = [] → (Decoder.default.calls cs).datagrams = datagrams) := by
  obtain ⟨found, later, rfl, hlater, hfound, herror⟩ := h.drain
  obtain ⟨herror', hgot⟩ := Decoder.calls_of_drain cs
  rw [hcs] at herror' hgot
  obtain ⟨hdatagrams, hdropped, -⟩ := hgot herror
  rw [hfound, payloads_map_datagram] at hdatagrams
  rw [hfound, oversized_map_datagram] at hdropped
  refine ⟨herror'.trans herror, hdropped, hdatagrams ▸ List.prefix_append .., fun hnil ↦ ?_⟩
  rw [hdatagrams, hlater hnil, List.append_nil]

end Ztunnel.Proxy.Capsule
