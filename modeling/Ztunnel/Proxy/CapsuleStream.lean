import Ztunnel.Proxy.CapsuleParser

/-!
# Streams of capsules

A `Frame` is a well-formed capsule as it stands in a stream: a type and a length, each in some
encoding as a variable-length integer, a value of that length, and if it is a DATAGRAM, a context id
at the start of the value. A stream of frames says what its frames say, one after the other, and so
a decoder gets their datagrams in order and counts the oversized ones (`decode_frames`).

In the other direction, a decoder that has met no error has got frames, and behind them the start of
one more capsule (`frames_of_calls`). It holds that start, or has to skip the rest of the value; so
what it holds is bounded, whatever the stream is (`decoder_memory_bounded`).
-/

namespace Ztunnel.Proxy.Capsule

open Resumable

/-! ### Frames -/

/-- A variable-length integer in one of its encodings, not necessarily the shortest. -/
structure Varint where
  bytes : Bytes
  value : ℕ
  decode : decodeVarint bytes = some (value, bytes.length)

/-- A well-formed capsule. -/
structure Frame where
  type : Varint
  length : Varint
  value : Bytes
  length_eq : length.value = value.length
  context : type.value = datagramCapsuleType → (decodeVarint value).isSome = true

namespace Frame

/-- The bytes of a frame in the stream. -/
def bytes (f : Frame) : Bytes := f.type.bytes ++ f.length.bytes ++ f.value

/-- The payload of a DATAGRAM with the default context id. -/
def payload (f : Frame) : Option Bytes :=
  if f.type.value = datagramCapsuleType then
    (decodeVarint f.value).bind fun (contextId, contextLen) ↦
      if contextId = defaultContextId then some (f.value.drop contextLen) else none
  else none

/-- The payload, if it is not too long for a datagram. -/
def datagram (f : Frame) : Option Bytes := f.payload.filter (·.length ≤ maxDatagramSize)

/-- A DATAGRAM whose value cannot be that of a datagram, whatever its context id is. -/
def isOversized (f : Frame) : Bool :=
  decide (f.type.value = datagramCapsuleType ∧ f.value.length > 65535)

/-- A DATAGRAM with the default context id and a smaller value, whose payload is too long. -/
def isOverlong (f : Frame) : Bool :=
  decide (f.value.length ≤ 65535) && f.payload.any (·.length > maxDatagramSize)

/-- What a frame says. -/
def items (f : Frame) : List Item :=
  if f.isOversized || f.isOverlong then [.oversized] else (f.datagram.map .datagram).toList

/-! ### What the parser makes of a frame -/

theorem header_bytes (f : Frame) (more : Bytes) :
    header (f.bytes ++ more) =
      some (f.type.value, f.value.length, f.type.bytes.length + f.length.bytes.length) := by
  refine header_eq_some.2 ⟨_, _, ?_, ?_, rfl⟩
  · rw [bytes, List.append_assoc, List.append_assoc]
    exact decodeVarint_append f.type.decode _
  · rw [bytes, List.append_assoc, List.append_assoc, List.drop_left, ← f.length_eq]
    exact decodeVarint_append f.length.decode _

theorem drop_header (f : Frame) (more : Bytes) :
    (f.bytes ++ more).drop (f.type.bytes.length + f.length.bytes.length) = f.value ++ more := by
  rw [bytes, ← List.length_append, List.append_assoc, List.drop_left]

/-- A frame that is passed over is passed over to its end. -/
theorem pass_bytes (f : Frame) (more : Bytes) :
    Parser.pass ⟨f.bytes ++ more, 0⟩ (f.type.bytes.length + f.length.bytes.length) f.value.length =
      ⟨more, 0⟩ := by
  rw [Parser.pass, drop_header, Parser.feed, List.drop_left, List.length_append]
  simp

theorem payload_of_ne (f : Frame) (htype : f.type.value ≠ datagramCapsuleType) :
    f.payload = none :=
  if_neg htype

theorem payload_of_context (f : Frame) (htype : f.type.value = datagramCapsuleType)
    {contextId contextLen : ℕ} (hcontext : decodeVarint f.value = some (contextId, contextLen)) :
    f.payload =
      if contextId = defaultContextId then some (f.value.drop contextLen) else none := by
  rw [payload, if_pos htype, hcontext]
  rfl

theorem items_of_payload_eq_none (f : Frame) (hsmall : f.isOversized = false)
    (h : f.payload = none) : f.items = [] := by
  rw [items, isOverlong, datagram, hsmall, h]
  simp

/-- The items of a value that is not too long. -/
theorem items_value (f : Frame) (htype : f.type.value = datagramCapsuleType)
    (hlen : f.value.length ≤ 65535) : Parser.items f.value = .ok f.items := by
  obtain ⟨⟨contextId, contextLen⟩, hcontext⟩ := Option.isSome_iff_exists.1 (f.context htype)
  have hpayload := f.payload_of_context htype hcontext
  have hsmall : f.isOversized = false := decide_eq_false fun h ↦ Nat.not_lt.2 hlen h.2
  rw [Parser.items, hcontext]
  dsimp only
  by_cases hid : contextId = defaultContextId
  · rw [if_neg (not_not.2 hid), ← List.length_drop]
    rw [if_pos hid] at hpayload
    by_cases hlarge : (f.value.drop contextLen).length > maxDatagramSize
    · have hoverlong : f.isOverlong = true := by
        rw [isOverlong, hpayload]
        simpa [hlen] using hlarge
      rw [if_pos hlarge, items, hoverlong, Bool.or_true, if_pos rfl]
    · have hoverlong : f.isOverlong = false := by
        rw [isOverlong, hpayload]
        simpa using fun _ ↦ Nat.le_of_not_lt hlarge
      have hdatagram : f.datagram = some (f.value.drop contextLen) := by
        rw [datagram, hpayload, Option.filter_some, if_pos]
        exact decide_eq_true (Nat.le_of_not_lt hlarge)
      rw [if_neg hlarge, items, hoverlong, hsmall, hdatagram]
      rfl
  · rw [if_neg hid] at hpayload
    rw [if_pos hid, f.items_of_payload_eq_none hsmall hpayload]

/-- **The parser takes a frame**, whatever comes behind it. -/
theorem turn_bytes (f : Frame) (more : Bytes) :
    Parser.machine.turn ⟨f.bytes ++ more, 0⟩ = .emit f.items ⟨more, 0⟩ := by
  rw [Parser.machine_turn, Parser.turn, if_neg (Nat.lt_irrefl 0), f.header_bytes]
  dsimp only
  rw [f.pass_bytes]
  by_cases htype : f.type.value = datagramCapsuleType
  · rw [if_neg (not_not.2 htype)]
    by_cases hlen : f.value.length ≤ 65535
    · have hcomplete : f.type.bytes.length + f.length.bytes.length + f.value.length ≤
          (f.bytes ++ more).length := by
        simp only [bytes, List.length_append]
        omega
      rw [if_neg (by rw [maxDatagramSize]; omega), if_neg (Nat.not_lt.2 hcomplete), drop_header,
        List.take_left, ← List.drop_drop, drop_header, List.drop_left, f.items_value htype hlen]
      rfl
    · have hlarge : f.isOversized = true := decide_eq_true ⟨htype, Nat.lt_of_not_le hlen⟩
      rw [if_pos (by rw [maxDatagramSize]; omega), items, hlarge, Bool.true_or, if_pos rfl]
  · have hsmall : f.isOversized = false := decide_eq_false fun h ↦ htype h.1
    rw [if_pos htype, f.items_of_payload_eq_none hsmall (f.payload_of_ne htype)]

/-! ### What the items of frames come to -/

/-- An oversized value has no payload that fits: a context id takes 8 bytes at most. -/
theorem datagram_of_isOversized (f : Frame) (h : f.isOversized = true) : f.datagram = none := by
  obtain ⟨htype, hlen⟩ := of_decide_eq_true h
  obtain ⟨⟨contextId, contextLen⟩, hcontext⟩ := Option.isSome_iff_exists.1 (f.context htype)
  have hle := (decodeVarint_small hcontext).2
  rw [datagram, f.payload_of_context htype hcontext]
  split_ifs
  · rw [Option.filter_some, if_neg]
    rw [decide_eq_true_eq, List.length_drop, maxDatagramSize]
    omega
  · rfl

theorem datagram_of_isOverlong (f : Frame) (h : f.isOverlong = true) : f.datagram = none := by
  obtain ⟨-, hany⟩ := (Bool.and_eq_true ..).mp h
  obtain ⟨payload, hpayload, hlarge⟩ := (Option.any_eq_true ..).mp hany
  rw [datagram, hpayload, Option.filter_some, if_neg]
  simpa using hlarge

theorem payloads_items (f : Frame) : payloads f.items = f.datagram.toList := by
  rw [items]
  split_ifs with h
  · have hnone : f.datagram = none := by
      rcases (Bool.or_eq_true ..).mp h with h | h
      · exact f.datagram_of_isOversized h
      · exact f.datagram_of_isOverlong h
    rw [hnone]
    rfl
  · rcases f.datagram with - | payload <;> rfl

theorem oversized_items (f : Frame) :
    oversized f.items = f.isOversized.toNat + f.isOverlong.toNat := by
  rw [items]
  by_cases hlarge : f.isOversized = true
  · have hoverlong : f.isOverlong = false := by
      have hlen := (of_decide_eq_true hlarge).2
      rw [isOverlong, decide_eq_false (Nat.not_le.2 hlen), Bool.false_and]
    rw [hlarge, hoverlong]
    rfl
  · rw [Bool.eq_false_of_not_eq_true hlarge]
    by_cases hoverlong : f.isOverlong = true
    · rw [hoverlong]
      rfl
    · rw [Bool.eq_false_of_not_eq_true hoverlong]
      rcases f.datagram with - | payload <;> rfl

/-- A stream of frames. -/
def stream (frames : List Frame) : Bytes := (frames.map bytes).flatten

theorem stream_cons (f : Frame) (frames : List Frame) :
    stream (f :: frames) = f.bytes ++ stream frames :=
  List.flatten_cons

/-- **The parser takes a stream of frames**, whatever comes behind it. -/
theorem drain_stream (frames : List Frame) (more : Bytes) :
    Parser.machine.drain ⟨stream frames ++ more, 0⟩ =
      (Parser.machine.drain ⟨more, 0⟩).after (frames.flatMap items) := by
  induction frames with
  | nil => rfl
  | cons f frames ih =>
    rw [stream_cons, List.append_assoc, Machine.drain_of_emit (f.turn_bytes _), ih,
      Outcome.after_after, List.flatMap_cons]

theorem payloads_flatMap_items (frames : List Frame) :
    payloads (frames.flatMap items) = frames.filterMap datagram := by
  induction frames with
  | nil => rfl
  | cons f frames ih =>
    rw [List.flatMap_cons, payloads_append, ih, payloads_items, List.filterMap_cons]
    rcases f.datagram with - | payload <;> rfl

theorem oversized_flatMap_items (frames : List Frame) :
    oversized (frames.flatMap items) = frames.countP isOversized + frames.countP isOverlong := by
  induction frames with
  | nil => rfl
  | cons f frames ih =>
    rw [List.flatMap_cons, oversized_append, ih, oversized_items, List.countP_cons,
      List.countP_cons]
    have htoNat : ∀ b : Bool, b.toNat = if b = true then 1 else 0 := by decide
    rw [htoNat, htoNat]
    omega

end Frame

/-- **Capsule decoding.** A stream of well-formed capsules, pushed in any chunks, is decoded without
an error: the datagrams are, in order, the payloads of the DATAGRAM capsules with context id 0 and a
payload of at most 65527 bytes, and as many are counted as dropped as there are DATAGRAM capsules
with a value of more than 65535 bytes, and with context id 0, a smaller value and a longer
payload. -/
theorem decode_frames (frames : List Frame) {cs : List Call}
    (hcs : (Call.chunks cs).flatten = Frame.stream frames) :
    let got := Decoder.default.calls cs
    got.error = none ∧ got.datagrams = frames.filterMap Frame.datagram ∧
      got.dropped = frames.countP Frame.isOversized + frames.countP Frame.isOverlong := by
  intro got
  obtain ⟨herror, hgot⟩ := Decoder.calls_of_drain cs
  have hdrain : Parser.machine.drain ⟨(Call.chunks cs).flatten, 0⟩ =
      ⟨frames.flatMap Frame.items, none, ⟨[], 0⟩⟩ := by
    have hnil : Parser.machine.drain ⟨[], 0⟩ = ⟨[], none, ⟨[], 0⟩⟩ :=
      Machine.drain_of_wait rfl
    rw [hcs, ← List.append_nil (Frame.stream frames), Frame.drain_stream, hnil, Outcome.after,
      List.append_nil]
  rw [hdrain] at herror hgot
  obtain ⟨hdatagrams, hdropped, -⟩ := hgot rfl
  rw [Frame.payloads_flatMap_items] at hdatagrams
  rw [Frame.oversized_flatMap_items] at hdropped
  exact ⟨herror, hdatagrams, hdropped⟩

/-- A frame of another type, a DATAGRAM with its length in two bytes, and one of another context. -/
def sampleFrames : List Frame :=
  [⟨⟨[0x17], 0x17, rfl⟩, ⟨[2], 2, rfl⟩, [0, 0xff], rfl, fun h ↦ nomatch h⟩,
    ⟨⟨[0], 0, rfl⟩, ⟨[0x40, 3], 3, rfl⟩, [0, 0x41, 0x42], rfl, fun _ ↦ rfl⟩,
    ⟨⟨[0], 0, rfl⟩, ⟨[2], 2, rfl⟩, [1, 0x43], rfl, fun _ ↦ rfl⟩]

theorem decode_frames_sample :
    let got := Decoder.default.calls
      [.push [0x17, 2, 0], .push [0xff, 0, 0x40], .push [3, 0, 0x41, 0x42, 0, 2, 1], .push [0x43]]
    got.error = none ∧ got.datagrams = [[0x41, 0x42]] ∧ got.dropped = 0 :=
  decode_frames sampleFrames rfl

/-! ### What a decoder has got -/

theorem decodeVarint_take {input : Bytes} {v n : ℕ} (h : decodeVarint input = some (v, n)) :
    decodeVarint (input.take n) = some (v, n) := by
  rcases input with - | ⟨first, rest⟩
  · cases h
  rw [decodeVarint_cons] at h
  obtain ⟨hlen, hr⟩ := Option.ite_none_left_eq_some.1 h
  obtain ⟨hv, rfl⟩ := Prod.mk.inj (Option.some.inj hr)
  have hpos := varintLen_pos first
  have htake : (first :: rest).take (varintLen first) =
      first :: rest.take (varintLen first - 1) := by
    rw [← Nat.sub_add_cancel hpos, List.take_succ_cons, Nat.add_sub_cancel]
  rw [htake, decodeVarint_cons, if_neg (by rw [List.length_take]; omega), List.take_take,
    Nat.min_self, hv]

/-- An integer that is not complete has less than 8 bytes. -/
theorem length_lt_of_decodeVarint {input : Bytes} (h : decodeVarint input = none) :
    input.length < 8 := by
  rcases input with - | ⟨first, rest⟩
  · decide
  rw [decodeVarint_cons] at h
  have hlt : rest.length + 1 < varintLen first := by
    by_contra hge
    rw [if_neg hge] at h
    cases h
  exact Nat.lt_of_lt_of_le hlt (varintLen_le first)

/-- The integer at the start of some bytes, as it is encoded there. -/
def Varint.ofDecode {input : Bytes} {v n : ℕ} (h : decodeVarint input = some (v, n)) : Varint where
  bytes := input.take n
  value := v
  decode := by rw [decodeVarint_take h, List.length_take, Nat.min_eq_left (decodeVarint_len h).2]

variable {buffer : Bytes} {capsuleType capsuleLen headerLen : ℕ}

/-- A header is two integers. -/
theorem exists_varints (h : header buffer = some (capsuleType, capsuleLen, headerLen)) :
    ∃ type length : Varint, type.value = capsuleType ∧ length.value = capsuleLen ∧
      type.bytes.length + length.bytes.length = headerLen ∧
      buffer = type.bytes ++ length.bytes ++ buffer.drop headerLen := by
  obtain ⟨typeLen, lengthLen, htype, hlength, rfl⟩ := header_eq_some.1 h
  refine ⟨.ofDecode htype, .ofDecode hlength, rfl, rfl, ?_, ?_⟩
  · show (buffer.take typeLen).length + ((buffer.drop typeLen).take lengthLen).length = _
    rw [List.length_take, List.length_take, Nat.min_eq_left (decodeVarint_len htype).2,
      Nat.min_eq_left (decodeVarint_len hlength).2]
  · show buffer = buffer.take typeLen ++ (buffer.drop typeLen).take lengthLen ++ _
    rw [← List.drop_drop, List.append_assoc, List.take_append_drop, List.take_append_drop]

/-- A header that is not complete is two integers, one of them not complete. -/
theorem length_lt_of_header (h : header buffer = none) : buffer.length < 16 := by
  rcases htype : decodeVarint buffer with - | ⟨capsuleType, typeLen⟩
  · exact Nat.lt_of_lt_of_le (length_lt_of_decodeVarint htype) (by decide)
  rw [header_of_some htype, Option.map_eq_none_iff] at h
  have hlength := length_lt_of_decodeVarint h
  have htypeLen := (decodeVarint_small htype).2
  rw [List.length_drop] at hlength
  omega

theorem header_small (h : header buffer = some (capsuleType, capsuleLen, headerLen)) :
    headerLen ≤ 16 := by
  obtain ⟨typeLen, lengthLen, htype, hlength, rfl⟩ := header_eq_some.1 h
  exact Nat.add_le_add (decodeVarint_small htype).2 (decodeVarint_small hlength).2

/-- **The parser waits** for the rest of a header or of a capsule it will take, and holds less than
that. -/
theorem Parser.length_lt_of_wait (h : Parser.turn ⟨buffer, 0⟩ = .wait) :
    buffer.length < 16 + 65535 := by
  rw [turn, if_neg (Nat.lt_irrefl 0)] at h
  dsimp only at h
  rcases hheader : header buffer with - | ⟨capsuleType, capsuleLen, headerLen⟩
  · exact Nat.lt_of_lt_of_le (length_lt_of_header hheader) (by decide)
  rw [hheader] at h
  dsimp only at h
  have hheaderLen := header_small hheader
  split_ifs at h with htype hlarge hshort
  · rw [maxDatagramSize] at hlarge
    omega
  · rcases hitems : items ((buffer.drop headerLen).take capsuleLen) with e | found
    all_goals
      rw [hitems] at h
      cases h

/-- The start of a capsule that the parser passes over: `value` is what has come of its value. -/
structure Pending where
  type : Varint
  length : Varint
  value : Bytes
  short : value.length < length.value
  skipped : type.value = datagramCapsuleType → length.value > maxDatagramSize + 8

/-- The bytes that have come. -/
def Pending.bytes (c : Pending) : Bytes := c.type.bytes ++ c.length.bytes ++ c.value

/-- The number of bytes that are to come. -/
def Pending.missing (c : Pending) : ℕ := c.length.value - c.value.length

/-- What a parser has got behind the last frame: the bytes it holds, or those of a capsule it passes
over. -/
def Parser.Rest (p : Parser) (rest : Bytes) : Prop :=
  p.skip = 0 ∧ p.buffer = rest ∨
    p.buffer = [] ∧ ∃ c : Pending, rest = c.bytes ∧ p.skip = c.missing

/-- The value of a capsule that is passed over has come, and the capsule is a frame; or it has not,
and the rest is to be skipped. -/
theorem pass_cases (h : header buffer = some (capsuleType, capsuleLen, headerLen))
    (hskipped : capsuleType = datagramCapsuleType → capsuleLen > maxDatagramSize + 8) :
    let q := Parser.pass ⟨buffer, 0⟩ headerLen capsuleLen
    (q.skip = 0 ∧ ∃ f : Frame, buffer = f.bytes ++ q.buffer) ∨
      (0 < q.skip ∧ q.buffer = [] ∧ ∃ c : Pending, buffer = c.bytes ∧ q.skip = c.missing) := by
  intro q
  obtain ⟨type, length, rfl, rfl, -, hbuffer⟩ := exists_varints h
  set value := buffer.drop headerLen with hvalue
  rcases Nat.lt_or_ge value.length length.value with hshort | hcomplete
  · exact .inr ⟨Nat.sub_pos_of_lt hshort, List.drop_eq_nil_of_le (Nat.le_of_lt hshort),
      ⟨type, length, value, hshort, hskipped⟩, hbuffer, rfl⟩
  · have hlen : length.value = (value.take length.value).length := by
      rw [List.length_take, Nat.min_eq_left hcomplete]
    refine .inl ⟨Nat.sub_eq_zero_of_le hcomplete,
      ⟨type, length, value.take length.value, hlen, fun htype ↦ ?_⟩, ?_⟩
    · -- a value of more than 65535 bytes has a context id at its start
      by_contra hnone
      have hfew := length_lt_of_decodeVarint (Option.not_isSome_iff_eq_none.1 hnone)
      have hmany := hskipped htype
      rw [← hlen] at hfew
      rw [maxDatagramSize] at hmany
      omega
    · show buffer = type.bytes ++ length.bytes ++ value.take length.value ++
        ([] ++ value.drop length.value)
      rw [List.nil_append, List.append_assoc, List.take_append_drop, hbuffer]

/-- **What a turn takes is a frame**, or the start of a capsule whose rest is to be skipped. -/
theorem turn_takes {found : List Item} {q : Parser} (h : Parser.turn ⟨buffer, 0⟩ = .emit found q) :
    (q.skip = 0 ∧ ∃ f : Frame, buffer = f.bytes ++ q.buffer) ∨
      (0 < q.skip ∧ q.buffer = [] ∧ ∃ c : Pending, buffer = c.bytes ∧ q.skip = c.missing) := by
  rw [Parser.turn, if_neg (Nat.lt_irrefl 0)] at h
  dsimp only at h
  rcases hheader : header buffer with - | ⟨capsuleType, capsuleLen, headerLen⟩
  · rw [hheader] at h
    cases h
  rw [hheader] at h
  dsimp only at h
  split_ifs at h with htype hlarge hshort
  · obtain ⟨-, rfl⟩ := Turn.emit.inj h
    exact pass_cases hheader fun hdatagram ↦ absurd hdatagram htype
  · obtain ⟨-, rfl⟩ := Turn.emit.inj h
    exact pass_cases hheader fun _ ↦ hlarge
  · obtain ⟨type, length, rfl, rfl, -, hbuffer⟩ := exists_varints hheader
    set value := buffer.drop headerLen with hvalue
    rcases hitems : Parser.items (value.take length.value) with e | items
    · rw [hitems] at h
      cases h
    rw [hitems] at h
    obtain ⟨-, rfl⟩ := Turn.emit.inj h
    have hcomplete : length.value ≤ value.length := by
      rw [hvalue, List.length_drop]
      omega
    have hlen : length.value = (value.take length.value).length := by
      rw [List.length_take, Nat.min_eq_left hcomplete]
    have hcontext : (decodeVarint (value.take length.value)).isSome = true := by
      rcases hdecode : decodeVarint (value.take length.value) with - | r
      · rw [Parser.items, hdecode] at hitems
        cases hitems
      · rfl
    refine .inl ⟨rfl, ⟨type, length, value.take length.value, hlen, fun _ ↦ hcontext⟩, ?_⟩
    show buffer = type.bytes ++ length.bytes ++ value.take length.value ++
      buffer.drop (headerLen + length.value)
    rw [← List.drop_drop, ← hvalue, List.append_assoc, List.take_append_drop, hbuffer]

/-- **What a drain has taken is frames**, and the rest is what it stopped at. -/
theorem frames_of_drain (p : Parser) (hskip : p.skip = 0)
    (hnone : (Parser.machine.drain p).error = none) :
    ∃ frames rest, p.buffer = Frame.stream frames ++ rest ∧
      (Parser.machine.drain p).state.Rest rest := by
  induction p using Machine.turn_induction (m := Parser.machine) with
  | wait p h =>
    rw [Machine.drain_of_wait h]
    exact ⟨[], p.buffer, rfl, .inl ⟨hskip, rfl⟩⟩
  | emit p found q h ih =>
    obtain ⟨buffer, skip⟩ := p
    obtain rfl : skip = 0 := hskip
    rw [Machine.drain_of_emit h] at hnone ⊢
    obtain ⟨hq, f, hbuffer⟩ | ⟨hq, hnil, c, hbuffer, hmissing⟩ := turn_takes h
    · obtain ⟨frames, rest, hframes, hrest⟩ := ih hq hnone
      refine ⟨f :: frames, rest, ?_, hrest⟩
      rw [Frame.stream_cons, List.append_assoc, ← hframes]
      exact hbuffer
    · -- the rest of the capsule is to come: the parser waits
      have hwait : Parser.machine.turn q = .wait := if_pos hq
      rw [Machine.drain_of_wait hwait]
      exact ⟨[], c.bytes, hbuffer, .inr ⟨hnil, c, rfl, hmissing⟩⟩
  | fail p e q h =>
    rw [Machine.drain_of_fail h] at hnone
    cases hnone

/-- **What a reader has read is frames**, and the rest is what its decoder stopped at. -/
theorem frames_of_calls {cs : List Call} (hnone : (Decoder.default.calls cs).error = none) :
    ∃ frames rest, (Call.chunks cs).flatten = Frame.stream frames ++ rest ∧
      (Decoder.default.calls cs).decoder.parser.Rest rest := by
  obtain ⟨herror, hgot⟩ := Decoder.calls_of_drain cs
  rw [hnone] at herror
  obtain ⟨-, -, hparser⟩ := hgot herror.symm
  rw [hparser]
  exact frames_of_drain _ rfl herror.symm

/-- **The memory of a decoder is bounded.** Whatever bytes it was given, in any pushes that have
returned no error, it holds less than 16 + 65535 of them. If it has bytes to skip, these are the
ones missing from a capsule it passes over, at most as many as that capsule declares. -/
theorem decoder_memory_bounded {cs : List Call}
    (hnone : (Decoder.default.calls cs).error = none) :
    let d := (Decoder.default.calls cs).decoder
    d.buffer.length < 16 + 65535 ∧
      (0 < d.skipRemaining → ∃ (frames : List Frame) (c : Pending),
        (Call.chunks cs).flatten = Frame.stream frames ++ c.bytes ∧
          d.skipRemaining = c.missing ∧ d.skipRemaining ≤ c.length.value) := by
  intro d
  obtain ⟨frames, rest, hstream, ⟨hskip, hrest⟩ | ⟨hnil, c, rfl, hmissing⟩⟩ :=
    frames_of_calls hnone
  · obtain ⟨herror, hgot⟩ := Decoder.calls_of_drain cs
    rw [hnone] at herror
    obtain ⟨-, -, hparser⟩ := hgot herror.symm
    have hwait : Parser.machine.turn d.parser = .wait := by
      rw [hparser]
      exact Machine.turn_drain _ herror.symm
    have hzero : d.parser = ⟨d.buffer, 0⟩ := congrArg (Parser.mk d.buffer) hskip
    rw [hzero] at hwait
    exact ⟨Parser.length_lt_of_wait hwait, fun hpos ↦ absurd hskip (Nat.ne_of_gt hpos)⟩
  · refine ⟨?_, fun _ ↦ ⟨frames, c, hstream, hmissing, ?_⟩⟩
    · rw [show d.buffer = [] from hnil]
      decide
    · rw [show d.skipRemaining = c.missing from hmissing]
      exact Nat.sub_le _ _

/-- A capsule of another type declares 2 ^ 30 - 1 bytes, of which two have come. -/
theorem decoder_memory_bounded_hostile :
    let d := (Decoder.default.calls [.push [0x17, 0xbf, 0xff], .push [0xff, 0xff, 1, 2]]).decoder
    d.skipRemaining = 1073741821 ∧ d.buffer.length < 16 + 65535 :=
  ⟨by decide, (@decoder_memory_bounded [.push [0x17, 0xbf, 0xff], .push [0xff, 0xff, 1, 2]]
    (by decide)).1⟩

end Ztunnel.Proxy.Capsule
