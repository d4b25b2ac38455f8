import Ztunnel.Lib.BigEndian
import Ztunnel.Lib.Resumable

/-!
# Datagram capsules (`proxy/h2/capsule.rs`)

CONNECT-UDP carries datagrams as capsules: a type, a length and a value, the first two as QUIC
variable-length integers. The value of a DATAGRAM capsule is a context id, again such an integer,
and the payload.

`Decoder.push` takes what was read from the stream, in whatever pieces it came. It keeps the bytes
of a capsule that is not complete, except for capsules it does not want, whose bytes it skips as
they come.
-/

namespace Ztunnel.Proxy.Capsule

open Resumable

abbrev Bytes := List UInt8

/-- The kinds of `io::Error` that occur here. -/
inductive IoErrorKind where
  | invalidData
  | invalidInput
  | writeZero
  | timedOut
  deriving DecidableEq

/-- `io::Error`. -/
structure IoError where
  kind : IoErrorKind
  message : String
  deriving DecidableEq

def datagramCapsuleType : ℕ := 0

def defaultContextId : ℕ := 0

def maxDatagramSize : ℕ := 65527

/-- `usize::MAX` on the 64-bit targets. -/
def usizeMax : ℕ := 2 ^ 64 - 1

/-! ### Variable-length integers -/

def encodeVarint (value : ℕ) (out : Bytes) : Except IoError Bytes :=
  if value ≤ 63 then .ok (out ++ BigEndian.bytes 1 value)
  else if value ≤ 16383 then .ok (out ++ BigEndian.bytes 2 (value ||| 0x4000))
  else if value ≤ 1073741823 then .ok (out ++ BigEndian.bytes 4 (value ||| 0x80000000))
  else if value ≤ 4611686018427387903 then
    .ok (out ++ BigEndian.bytes 8 (value ||| 0xc000000000000000))
  else .error ⟨.invalidInput, "value exceeds QUIC variable-length integer range"⟩

/-- The integer at the start of `input` and how many bytes it takes, or `none` if it is not
complete. The two highest bits of the first byte say how long it is. -/
def decodeVarint (input : Bytes) : Option (ℕ × ℕ) :=
  match input with
  | [] => none
  | first :: _ =>
    let len := 1 <<< (first >>> 6).toNat
    if input.length < len then none
    else some (BigEndian.read (first &&& 0x3f).toNat ((input.take len).drop 1), len)

def encodeDatagramInto (payload out : Bytes) : Except IoError Bytes := do
  if payload.length > maxDatagramSize then
    throw ⟨.invalidData, "UDP datagram exceeds the maximum payload size"⟩
  let out ← encodeVarint datagramCapsuleType out
  let out ← encodeVarint (payload.length + 1) out
  let out ← encodeVarint defaultContextId out
  return out ++ payload

/-! ### The decoder -/

structure Decoder where
  buffer : Bytes
  skipRemaining : ℕ
  droppedOversized : ℕ
  deriving DecidableEq

/-- `Decoder::default`. -/
def Decoder.default : Decoder := ⟨[], 0, 0⟩

/-- How one turn of the loop in `push` ends. -/
inductive Flow where
  | break (decoder : Decoder)
  | continue (datagrams : List Bytes) (decoder : Decoder)
  | return (error : IoError) (decoder : Decoder)

namespace Decoder

def takeDroppedOversized (d : Decoder) : ℕ × Decoder :=
  (d.droppedOversized, { d with droppedOversized := 0 })

/-- Passes over a capsule: what is there of it is dropped from the buffer, and the rest is skipped
when it comes. -/
def skipCapsule (d : Decoder) (headerLen capsuleLen : ℕ) : Flow :=
  let buffer := d.buffer.drop headerLen
  let available := min buffer.length capsuleLen
  let d := { d with buffer := buffer.drop available, skipRemaining := capsuleLen - available }
  if d.skipRemaining > 0 then .break d else .continue [] d

/-- A DATAGRAM capsule that is all there. -/
def takeFrame (d : Decoder) (headerLen frameLen : ℕ) : Flow :=
  let frame := d.buffer.take frameLen
  let d := { d with buffer := d.buffer.drop frameLen }
  match decodeVarint (frame.drop headerLen) with
  | none => .return ⟨.invalidData, "DATAGRAM capsule is missing a context ID"⟩ d
  | some (contextId, contextLen) =>
    if contextId = defaultContextId then
      let payloadOffset := headerLen + contextLen
      if frame.length - payloadOffset > maxDatagramSize then
        .continue [] { d with droppedOversized := d.droppedOversized + 1 }
      else .continue [frame.drop payloadOffset] d
    else .continue [] d

/-- One turn of the loop in `push`. -/
def turn (d : Decoder) : Flow :=
  match decodeVarint d.buffer with
  | none => .break d
  | some (capsuleType, typeLen) =>
    match decodeVarint (d.buffer.drop typeLen) with
    | none => .break d
    | some (capsuleLen, lengthLen) =>
      let headerLen := typeLen + lengthLen
      if capsuleType ≠ datagramCapsuleType then d.skipCapsule headerLen capsuleLen
      else if capsuleLen > usizeMax then
        .return ⟨.invalidData, "capsule length does not fit usize"⟩ d
      else if capsuleLen > maxDatagramSize + 8 then
        skipCapsule { d with droppedOversized := d.droppedOversized + 1 } headerLen capsuleLen
      else if headerLen + capsuleLen > usizeMax then
        .return ⟨.invalidData, "capsule length overflow"⟩ d
      else if d.buffer.length < headerLen + capsuleLen then .break d
      else d.takeFrame headerLen (headerLen + capsuleLen)

/-- The loop in `push`. Every turn that goes on uses up bytes of the buffer, so as many turns as
there are bytes, and one more, are enough. -/
def loop : ℕ → Decoder → List Bytes → Outcome Decoder Bytes IoError
  | 0, d, datagrams => ⟨datagrams, none, d⟩
  | fuel + 1, d, datagrams =>
    match d.turn with
    | .break d => ⟨datagrams, none, d⟩
    | .continue more d => loop fuel d (datagrams ++ more)
    | .return e d => ⟨datagrams, some e, d⟩

/-- `Decoder::push`. The `outputs` of a push that fails are the datagrams it had decoded until then;
its caller gets only the error. -/
def push (d : Decoder) (chunk : Bytes) : Outcome Decoder Bytes IoError :=
  let skipped := min d.skipRemaining chunk.length
  let d := { d with skipRemaining := d.skipRemaining - skipped }
  if d.skipRemaining > 0 then ⟨[], none, d⟩
  else
    let d := { d with buffer := d.buffer ++ chunk.drop skipped }
    loop (d.buffer.length + 1) d []

end Decoder

/-! ### Decoding does not look ahead -/

/-- The length of an integer is in the two highest bits of its first byte. -/
def varintLen (first : UInt8) : ℕ := 1 <<< (first >>> 6).toNat

theorem varintLen_eq (first : UInt8) : varintLen first = 2 ^ (first.toNat / 64) := by
  rw [varintLen, UInt8.toNat_shiftRight, Nat.shiftLeft_eq, Nat.one_mul]
  exact congrArg (2 ^ ·) (Nat.shiftRight_eq_div_pow _ 6)

theorem varintLen_le (first : UInt8) : varintLen first ≤ 8 := by
  have hfirst : first.toNat < 256 := first.toNat_lt
  rw [varintLen_eq]
  exact Nat.pow_le_pow_right (by decide) (show first.toNat / 64 ≤ 3 by omega)

theorem varintLen_pos (first : UInt8) : 0 < varintLen first := by
  rw [varintLen_eq]
  exact Nat.two_pow_pos _

theorem decodeVarint_cons (first : UInt8) (rest : Bytes) :
    decodeVarint (first :: rest) =
      if rest.length + 1 < varintLen first then none
      else some (BigEndian.read (first &&& 0x3f).toNat (rest.take (varintLen first - 1)),
        varintLen first) := by
  show (if (first :: rest).length < varintLen first then none else
    some (BigEndian.read _ (((first :: rest).take (varintLen first)).drop 1), varintLen first)) = _
  rw [List.drop_take, List.drop_one, List.tail_cons, List.length_cons]

theorem first_and_lt (first : UInt8) : (first &&& 0x3f).toNat < 64 := by
  rw [UInt8.toNat_and]
  exact Nat.and_lt_two_pow _ (show 63 < 2 ^ 6 by decide)

/-- All the bytes of an integer that is decoded have come. -/
theorem decodeVarint_eq_some {input : Bytes} {r : ℕ × ℕ} (h : decodeVarint input = some r) :
    ∃ first rest, input = first :: rest ∧ varintLen first ≤ rest.length + 1 ∧
      (BigEndian.read (first &&& 0x3f).toNat (rest.take (varintLen first - 1)),
        varintLen first) = r := by
  rcases input with - | ⟨first, rest⟩
  · exact nomatch h
  rw [decodeVarint_cons] at h
  obtain ⟨hlen, hr⟩ := Option.ite_none_left_eq_some.1 h
  exact ⟨first, rest, rfl, Nat.le_of_not_lt hlen, Option.some.inj hr⟩

/-- **What has been decoded** is decoded again when more bytes have come. -/
theorem decodeVarint_append {input : Bytes} {r : ℕ × ℕ} (h : decodeVarint input = some r)
    (more : Bytes) : decodeVarint (input ++ more) = some r := by
  obtain ⟨first, rest, rfl, hlen, rfl⟩ := decodeVarint_eq_some h
  rw [List.cons_append, decodeVarint_cons, if_neg (by rw [List.length_append]; omega),
    List.take_append_of_le_length (by omega)]

/-- **An integer is not decoded** exactly while bytes are missing of those that the first one
announces. -/
theorem decodeVarint_eq_none_iff {input : Bytes} :
    decodeVarint input = none ↔
      ∀ first, input.head? = some first → input.length < varintLen first := by
  rcases input with - | ⟨first, rest⟩
  · exact iff_of_true rfl nofun
  · rw [decodeVarint_cons, ite_eq_left_iff, List.head?_cons, List.length_cons]
    refine ⟨fun h other hother ↦ ?_, fun h hlen ↦ absurd (h first rfl) hlen⟩
    obtain rfl := Option.some.inj hother
    by_contra hlen
    exact nomatch h hlen

/-- **Decoding does not look behind the integer.** -/
theorem decodeVarint_congr {first : UInt8} {rest rest' : Bytes} {r : ℕ × ℕ}
    (h : decodeVarint (first :: rest) = some r)
    (hsame : (first :: rest').take (varintLen first) = (first :: rest).take (varintLen first)) :
    decodeVarint (first :: rest') = some r := by
  obtain ⟨_, _, ⟨⟩, hlen, rfl⟩ := decodeVarint_eq_some h
  have hpos := varintLen_pos first
  have hlength := congrArg List.length hsame
  rw [List.length_take, List.length_take, List.length_cons, List.length_cons] at hlength
  have hrest : rest'.take (varintLen first - 1) = rest.take (varintLen first - 1) := by
    have htail := congrArg List.tail hsame
    rwa [← Nat.sub_add_cancel hpos, List.take_succ_cons, List.take_succ_cons, List.tail_cons,
      List.tail_cons] at htail
  rw [decodeVarint_cons, if_neg (by omega), hrest]

theorem decodeVarint_len {input : Bytes} {v n : ℕ} (h : decodeVarint input = some (v, n)) :
    0 < n ∧ n ≤ input.length := by
  obtain ⟨first, rest, rfl, hlen, hr⟩ := decodeVarint_eq_some h
  obtain ⟨-, rfl⟩ := Prod.mk.inj hr
  exact ⟨varintLen_pos first, hlen⟩

theorem decodeVarint_small {input : Bytes} {v n : ℕ} (h : decodeVarint input = some (v, n)) :
    v < 2 ^ 62 ∧ n ≤ 8 := by
  obtain ⟨first, rest, rfl, -, hr⟩ := decodeVarint_eq_some h
  obtain ⟨rfl, rfl⟩ := Prod.mk.inj hr
  have hfirst := first_and_lt first
  have hle := varintLen_le first
  have hlen : (rest.take (varintLen first - 1)).length ≤ 7 := by
    rw [List.length_take]
    omega
  refine ⟨?_, hle⟩
  calc BigEndian.read (first &&& 0x3f).toNat (rest.take (varintLen first - 1))
      < ((first &&& 0x3f).toNat + 1) * 256 ^ (rest.take (varintLen first - 1)).length :=
        BigEndian.read_lt _ _
    _ ≤ 64 * 256 ^ 7 :=
        Nat.mul_le_mul hfirst (Nat.pow_le_pow_right (by decide) hlen)
    _ = 2 ^ 62 := by decide

/-! ### Encoding and decoding -/

/-- The first byte of an integer: its two highest bits are the tag. -/
theorem toNat_tagged {tag top : ℕ} (htag : tag < 4) (htop : top < 64) :
    (UInt8.ofNat (64 * tag + top)).toNat = 64 * tag + top := by
  rw [UInt8.toNat_ofNat']
  omega

theorem varintLen_tagged {tag top : ℕ} (htag : tag < 4) (htop : top < 64) :
    varintLen (UInt8.ofNat (64 * tag + top)) = 2 ^ tag := by
  rw [varintLen_eq, toNat_tagged htag htop]
  exact congrArg (2 ^ ·) (by omega)

theorem and_tagged {tag top : ℕ} (htag : tag < 4) (htop : top < 64) :
    (UInt8.ofNat (64 * tag + top) &&& 0x3f).toNat = top := by
  rw [UInt8.toNat_and, toNat_tagged htag htop]
  exact (Nat.and_two_pow_sub_one_eq_mod _ 6).trans (by omega)

/-- An integer below `64 * 256 ^ k` in `k + 1` bytes, with its tag on top of the first. -/
theorem decodeVarint_tagged {tag k value : ℕ} (htag : tag < 4) (hk : 2 ^ tag = k + 1)
    (hvalue : value < 64 * 256 ^ k) (more : Bytes) :
    decodeVarint (BigEndian.bytes (k + 1) (64 * 256 ^ k * tag + value) ++ more) =
      some (value, k + 1) := by
  have hpos : 0 < 256 ^ k := Nat.pow_pos (by decide)
  have hsum : 64 * 256 ^ k * tag + value = 256 ^ k * (64 * tag) + value := by
    rw [Nat.mul_right_comm, Nat.mul_comm (64 * tag)]
  have htop : value / 256 ^ k < 64 := Nat.div_lt_of_lt_mul (by rwa [Nat.mul_comm])
  rw [BigEndian.bytes, hsum, Nat.mul_add_div hpos, List.cons_append, decodeVarint_cons,
    varintLen_tagged htag htop, and_tagged htag htop, hk,
    if_neg (by rw [List.length_append, BigEndian.length_bytes]; omega), Nat.add_sub_cancel,
    List.take_left' (BigEndian.length_bytes ..), BigEndian.read_bytes, Nat.mul_add_mod,
    Nat.mul_comm, Nat.div_add_mod]

theorem or_tag {i value : ℕ} (h : value < 2 ^ i) (tag : ℕ) :
    value ||| 2 ^ i * tag = 2 ^ i * tag + value := by
  rw [Nat.or_comm, Nat.two_pow_add_eq_or_of_lt h]

/-- **An integer of at most 62 bits is encoded**, and read back with whatever comes behind it. -/
theorem encodeVarint_spec {value : ℕ} (h : value < 2 ^ 62) (out : Bytes) :
    ∃ encoded, encodeVarint value out = .ok (out ++ encoded) ∧ encoded.length ≤ 8 ∧
      ∀ more, decodeVarint (encoded ++ more) = some (value, encoded.length) := by
  have htagged : ∀ tag k x, tag < 4 → 2 ^ tag = k + 1 → value < 64 * 256 ^ k →
      x = 64 * 256 ^ k * tag + value →
      ∃ encoded, (.ok (out ++ BigEndian.bytes (k + 1) x) : Except IoError Bytes) =
          .ok (out ++ encoded) ∧ encoded.length ≤ 8 ∧
        ∀ more, decodeVarint (encoded ++ more) = some (value, encoded.length) := by
    rintro tag k x htag hk hvalue rfl
    refine ⟨_, rfl, ?_, fun more ↦ ?_⟩
    · rw [BigEndian.length_bytes, ← hk]
      exact Nat.pow_le_pow_right (by decide) (show tag ≤ 3 by omega)
    · rw [decodeVarint_tagged htag hk hvalue, BigEndian.length_bytes]
  rw [encodeVarint]
  by_cases h6 : value ≤ 63
  · rw [if_pos h6]
    exact htagged 0 0 _ (by decide) rfl (by omega) (by omega)
  by_cases h14 : value ≤ 16383
  · rw [if_neg h6, if_pos h14]
    exact htagged 1 1 _ (by decide) rfl (by omega) (or_tag (i := 14) (by omega) 1)
  by_cases h30 : value ≤ 1073741823
  · rw [if_neg h6, if_neg h14, if_pos h30]
    exact htagged 2 3 _ (by decide) rfl (by omega) (or_tag (i := 30) (by omega) 2)
  · rw [if_neg h6, if_neg h14, if_neg h30, if_pos (by omega)]
    exact htagged 3 7 _ (by decide) rfl (by omega) (or_tag (i := 62) (by omega) 3)

theorem encodeVarint_eq_error_iff {value : ℕ} (out : Bytes) :
    (∃ e, encodeVarint value out = .error e) ↔ 2 ^ 62 ≤ value := by
  refine ⟨fun ⟨e, he⟩ ↦ ?_, fun hlarge ↦ ?_⟩
  · by_contra hsmall
    obtain ⟨encoded, hencoded, -⟩ := encodeVarint_spec (Nat.lt_of_not_le hsmall) out
    rw [hencoded] at he
    cases he
  · rw [encodeVarint, if_neg (by omega), if_neg (by omega), if_neg (by omega), if_neg (by omega)]
    exact ⟨_, rfl⟩

/-- **Variable-length integers.** What is encoded is read back, whatever comes behind it, and every
integer of at most 62 bits is encoded, no other one. Decoding waits exactly for the bytes that the
first byte announces, depends on no other byte, and gives integers of at most 62 bits. -/
theorem varint_round_trip :
    (∀ value < 2 ^ 62, ∀ out, ∃ encoded, encodeVarint value out = .ok (out ++ encoded) ∧
      ∀ more, decodeVarint (encoded ++ more) = some (value, encoded.length)) ∧
    (∀ input, decodeVarint input = none ↔
      ∀ first, input.head? = some first → input.length < varintLen first) ∧
    (∀ first rest value len, decodeVarint (first :: rest) = some (value, len) →
      len = varintLen first ∧ value < 2 ^ 62 ∧
      ∀ rest', (first :: rest').take len = (first :: rest).take len →
        decodeVarint (first :: rest') = some (value, len)) ∧
    ∀ value out, (∃ e, encodeVarint value out = .error e) ↔ 2 ^ 62 ≤ value := by
  refine ⟨fun value hvalue out ↦ ?_, fun _ ↦ decodeVarint_eq_none_iff,
    fun first rest value len h ↦ ?_, fun value out ↦ encodeVarint_eq_error_iff out⟩
  · obtain ⟨encoded, hencoded, -, hread⟩ := encodeVarint_spec hvalue out
    exact ⟨encoded, hencoded, hread⟩
  · obtain ⟨_, _, ⟨⟩, -, hr⟩ := decodeVarint_eq_some h
    obtain ⟨-, rfl⟩ := Prod.mk.inj hr
    exact ⟨rfl, (decodeVarint_small h).1, fun rest' hsame ↦ decodeVarint_congr h hsame⟩

theorem decodeVarint_zero (more : Bytes) : decodeVarint (0 :: more) = some (0, 1) := by
  have hlen : varintLen 0 = 1 := rfl
  rw [decodeVarint_cons, hlen, if_neg (by omega)]
  rfl

/-- **A datagram that fits is encoded** as a type, a length, which is read back as such, a context
id and the payload. -/
theorem encodeDatagramInto_spec {payload : Bytes} (h : payload.length ≤ maxDatagramSize)
    (out : Bytes) :
    ∃ length, encodeDatagramInto payload out = .ok (out ++ 0 :: (length ++ 0 :: payload)) ∧
      length.length ≤ 8 ∧
      ∀ more, decodeVarint (length ++ more) = some (payload.length + 1, length.length) := by
  rw [maxDatagramSize] at h
  obtain ⟨length, hlength, hlen, hread⟩ :=
    encodeVarint_spec (show payload.length + 1 < 2 ^ 62 by omega) (out ++ [0])
  refine ⟨length, ?_, hlen, hread⟩
  have htype : encodeVarint datagramCapsuleType out = .ok (out ++ [0]) := rfl
  have hcontext : ∀ out, encodeVarint defaultContextId out = .ok (out ++ [0]) := fun _ ↦ rfl
  rw [encodeDatagramInto, if_neg (by rw [maxDatagramSize]; omega), htype]
  simp only [bind, Except.bind, pure, Except.pure, hlength, hcontext]
  simp only [List.append_assoc, List.cons_append, List.nil_append]

theorem length_le_of_encode {payload out out' : Bytes}
    (h : encodeDatagramInto payload out = .ok out') : payload.length ≤ maxDatagramSize := by
  by_contra hlarge
  rw [encodeDatagramInto, if_pos (by omega)] at h
  exact nomatch h

end Ztunnel.Proxy.Capsule
