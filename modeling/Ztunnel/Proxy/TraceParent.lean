import Mathlib.Data.String.Basic
import Ztunnel.Lib.Radix

/-!
# The traceparent header

`proxy.rs`: a trace context goes along in the header of a tunnel as four hexadecimal numbers with
dashes between them. `TraceParent::try_from` checks the length of the header and then indexes the
segments between its dashes, without a check that there are four of them. A peer chooses the header,
so which strings make the index fail is said exactly (`tryFrom_panics_iff`). What the proxy itself
writes is read back.
-/

namespace Ztunnel.Proxy

open Radix (ReadError)

/-- `TraceParent`. -/
structure TraceParent where
  version : BitVec 8
  traceId : BitVec 128
  parentId : BitVec 64
  flags : BitVec 8
deriving DecidableEq, Repr

namespace TraceParent

/-! ### Numbers -/

/-- `ParseIntError`. -/
inductive ParseIntError where
  | empty
  | invalidDigit
  | posOverflow
deriving DecidableEq, Repr

/-- `char::to_digit(16)`. -/
def toDigit (c : Char) : Option ℕ :=
  if '0' ≤ c ∧ c ≤ '9' then some (c.toNat - '0'.toNat)
  else if 'a' ≤ c ∧ c ≤ 'f' then some (c.toNat - 'a'.toNat + 10)
  else if 'A' ≤ c ∧ c ≤ 'F' then some (c.toNat - 'A'.toNat + 10)
  else none

/-- The errors of the loop over the digits. -/
def ParseIntError.ofRead : ReadError → ParseIntError
  | .invalidDigit => .invalidDigit
  | .overflow => .posOverflow

/-- The loop over the digits: an invalid digit is found before an overflow at the same place. -/
def digits (w : ℕ) (src : List Char) : Except ParseIntError (BitVec w) :=
  ((Radix.read 16 (2 ^ w) toDigit 0 src).map (BitVec.ofNat w)).mapError .ofRead

/-- `from_str_radix` of an unsigned type of `w` bits, at 16. One plus sign may come first. -/
def fromStrRadix (w : ℕ) (src : List Char) : Except ParseIntError (BitVec w) :=
  match src with
  | [] => .error .empty
  | ['+'] => .error .invalidDigit
  | ['-'] => .error .invalidDigit
  | '+' :: rest => digits w rest
  | src => digits w src

/-- `{:0width$x}`. -/
def hex {w : ℕ} (width : ℕ) (n : BitVec w) : List Char :=
  (Radix.padded 16 width n.toNat).map Nat.digitChar

/-! ### The header -/

/-- How `try_from` ends if it does not return a value. -/
inductive Failure where
  | malformedLength (length : ℕ)
  | parseInt (error : ParseIntError)
  /-- An index is out of bounds. -/
  | panicked
deriving DecidableEq, Repr

/-- `segs[i]`. -/
def index (segs : List (List Char)) (i : ℕ) : Except Failure (List Char) :=
  match segs[i]? with
  | some seg => .ok seg
  | none => .error .panicked

/-- `value.split('-')`. -/
def split (value : String) : List (List Char) := value.toList.splitOn '-'

/-- `from_str_radix(segs[i], 16)?`. -/
def field (w : ℕ) (segs : List (List Char)) (i : ℕ) : Except Failure (BitVec w) := do
  let seg ← index segs i
  (fromStrRadix w seg).mapError .parseInt

/-- The fields are taken from the segments in their order, so the first failure counts. -/
def fields (segs : List (List Char)) : Except Failure TraceParent := do
  let version ← field 8 segs 0
  let traceId ← field 128 segs 1
  let parentId ← field 64 segs 2
  let flags ← field 8 segs 3
  pure ⟨version, traceId, parentId, flags⟩

/-- `TraceParent::try_from`; the length is in bytes. -/
def tryFrom (value : String) : Except Failure TraceParent :=
  if value.utf8ByteSize ≠ 55 then .error (.malformedLength value.utf8ByteSize)
  else fields (split value)

/-- `fmt::Debug`. -/
def debug (tp : TraceParent) : String :=
  String.ofList (hex 2 tp.version ++ '-' :: (hex 32 tp.traceId ++ '-' ::
    (hex 16 tp.parentId ++ '-' :: hex 2 tp.flags)))

/-- `Inbound::extract_traceparent`, for the header if it is there and readable, and for a new trace
parent; `none` if the task panics. -/
def extractTraceparent (header : Option String) (new : TraceParent) : Option TraceParent :=
  match header.map tryFrom with
  | some (.ok tp) => some tp
  | some (.error .panicked) => none
  | _ => some new

/-! ### Where the index fails -/

/-- The widths of the fields. -/
def widths : List ℕ := [8, 128, 64, 8]

/-- Segments for fields of some widths are missing, and those that are there are numbers. -/
def Missing (widths : List ℕ) (segs : List (List Char)) : Prop :=
  segs.length < widths.length ∧ ∀ p ∈ segs.zip widths, (fromStrRadix p.2 p.1).isOk = true

instance Missing.decidable (widths : List ℕ) (segs : List (List Char)) :
    Decidable (Missing widths segs) :=
  inferInstanceAs (Decidable (_ ∧ _))

@[simp]
theorem field_cons_zero (w : ℕ) (seg : List Char) (segs : List (List Char)) :
    field w (seg :: segs) 0 = (fromStrRadix w seg).mapError .parseInt := rfl

@[simp]
theorem field_cons_succ (w : ℕ) (seg : List Char) (segs : List (List Char)) (i : ℕ) :
    field w (seg :: segs) (i + 1) = field w segs i := rfl

theorem missing_nil (w : ℕ) (ws : List ℕ) : Missing (w :: ws) [] :=
  ⟨Nat.succ_pos ws.length, fun _ hp ↦ nomatch hp⟩

theorem missing_cons (w : ℕ) (ws : List ℕ) (seg : List Char) (segs : List (List Char)) :
    Missing (w :: ws) (seg :: segs) ↔ (fromStrRadix w seg).isOk = true ∧ Missing ws segs := by
  simp only [Missing, List.length_cons, Nat.add_lt_add_iff_right, List.zip_cons_cons,
    List.forall_mem_cons]
  exact and_left_comm

/-- A field is read: either its segment is missing, or it is a number and the rest fails. -/
theorem bind_field_panics_iff {w i : ℕ} {ws : List ℕ} {segs : List (List Char)} {α : Type}
    {rest : BitVec w → Except Failure α}
    (h : ∀ v, rest v = .error .panicked ↔ Missing ws (segs.drop (i + 1))) :
    (field w segs i >>= rest) = .error .panicked ↔ Missing (w :: ws) (segs.drop i) := by
  rcases hseg : segs[i]? with - | seg
  · have hdrop : segs.drop i = [] := List.drop_eq_nil_of_le (List.getElem?_eq_none_iff.1 hseg)
    have hfield : field w segs i = .error .panicked := by rw [field, index, hseg]; rfl
    rw [hfield, hdrop]
    exact iff_of_true rfl (missing_nil w ws)
  · obtain ⟨hlt, hget⟩ := List.getElem?_eq_some_iff.1 hseg
    have hfield : field w segs i = (fromStrRadix w seg).mapError .parseInt := by
      rw [field, index, hseg]
      rfl
    rw [hfield, List.drop_eq_getElem_cons hlt, hget, missing_cons]
    cases fromStrRadix w seg with
    | error e => exact iff_of_false (fun hpanics ↦ nomatch hpanics) (fun hand ↦ nomatch hand.1)
    | ok v => exact (h v).trans (and_iff_right rfl).symm

theorem fields_panics_iff (segs : List (List Char)) :
    fields segs = .error .panicked ↔ Missing widths segs := by
  -- the fields one after the other; when all four are read nothing is missing
  refine bind_field_panics_iff fun version ↦ bind_field_panics_iff fun traceId ↦
    bind_field_panics_iff fun parentId ↦ bind_field_panics_iff fun flags ↦ ?_
  exact iff_of_false (fun hpanics ↦ nomatch hpanics) fun hmissing ↦ Nat.not_lt_zero _ hmissing.1

/-- **The header makes the index fail** exactly if it has the right length, too few segments, and
numbers for those that it has. -/
theorem tryFrom_panics_iff (value : String) :
    tryFrom value = .error .panicked ↔ value.utf8ByteSize = 55 ∧ Missing widths (split value) := by
  rw [← fields_panics_iff, tryFrom]
  split
  next hlength => simp [hlength]
  next hlength => simp [not_not.1 hlength]

/-! ### What is written is read back -/

theorem toDigit_digitChar : ∀ d < 16, toDigit d.digitChar = some d := by decide

theorem digits_hex {w : ℕ} (width : ℕ) (n : BitVec w) : digits w (hex width n) = .ok n := by
  rw [digits, hex, Radix.read_padded (by decide) toDigit_digitChar width n.isLt]
  simp [Except.map, Except.mapError]

/-- The symbols of a number are digits. -/
theorem exists_digit_of_mem_hex {w width : ℕ} {n : BitVec w} {c : Char} (hc : c ∈ hex width n) :
    ∃ d < 16, c = Nat.digitChar d := by
  obtain ⟨d, hd, rfl⟩ := List.mem_map.1 hc
  exact ⟨d, Radix.lt_of_mem_padded (by decide) hd, rfl⟩

theorem digitChar_plain : ∀ d < 16, Nat.digitChar d ≠ '-' ∧ Nat.digitChar d ≠ '+' ∧
    (Nat.digitChar d).utf8Size = 1 := by
  decide

theorem plain_of_mem_hex {w width : ℕ} {n : BitVec w} {c : Char} (hc : c ∈ hex width n) :
    c ≠ '-' ∧ c ≠ '+' ∧ c.utf8Size = 1 := by
  obtain ⟨d, hd, rfl⟩ := exists_digit_of_mem_hex hc
  exact digitChar_plain d hd

theorem hex_ne_nil {w : ℕ} (width : ℕ) (n : BitVec w) : hex width n ≠ [] := by
  rw [hex, Ne, List.map_eq_nil_iff]
  exact Radix.padded_ne_nil 16 width n.toNat

theorem length_hex {w width : ℕ} (hwidth : 0 < width) (hw : w = 4 * width) (n : BitVec w) :
    (hex width n).length = width := by
  rw [hex, List.length_map]
  refine Radix.length_padded (by decide) hwidth ?_
  calc n.toNat < 2 ^ w := n.isLt
    _ = 16 ^ width := by rw [hw, Nat.pow_mul]

/-- A rendered number begins with a digit, so no sign is taken off. -/
theorem fromStrRadix_hex {w : ℕ} (width : ℕ) (n : BitVec w) :
    fromStrRadix w (hex width n) = .ok n := by
  obtain ⟨c, cs, hcons⟩ := List.exists_cons_of_ne_nil (hex_ne_nil width n)
  obtain ⟨hminus, hplus, -⟩ := plain_of_mem_hex (hcons ▸ List.mem_cons_self : c ∈ hex width n)
  have hdigits := digits_hex width n
  rw [hcons] at hdigits ⊢
  unfold fromStrRadix
  split
  next h => cases h
  next h => exact absurd (List.cons.inj h).1 hplus
  next h => exact absurd (List.cons.inj h).1 hminus
  next h => exact absurd (List.cons.inj h).1 hplus
  next => exact hdigits

theorem utf8Len_eq_length {cs : List Char} (h : ∀ c ∈ cs, c.utf8Size = 1) :
    String.utf8Len cs = cs.length := by
  induction cs with
  | nil => rfl
  | cons c cs ih =>
    rw [List.length_cons, ← ih fun c' hc' ↦ h c' (List.mem_cons_of_mem c hc'),
      ← h c List.mem_cons_self]
    exact String.utf8Len_cons c cs

theorem utf8ByteSize_debug (tp : TraceParent) : tp.debug.utf8ByteSize = 55 := by
  rw [debug, String.utf8ByteSize_ofList, utf8Len_eq_length]
  · simp only [List.length_append, List.length_cons, length_hex (by decide : 0 < 2) rfl,
      length_hex (by decide : 0 < 32) rfl, length_hex (by decide : 0 < 16) rfl]
  · intro c hc
    simp only [List.mem_append, List.mem_cons] at hc
    rcases hc with hc | rfl | hc | rfl | hc | rfl | hc
    · exact (plain_of_mem_hex hc).2.2
    · rfl
    · exact (plain_of_mem_hex hc).2.2
    · rfl
    · exact (plain_of_mem_hex hc).2.2
    · rfl
    · exact (plain_of_mem_hex hc).2.2

theorem split_debug (tp : TraceParent) :
    split tp.debug = [hex 2 tp.version, hex 32 tp.traceId, hex 16 tp.parentId, hex 2 tp.flags] := by
  have hsegs : ∀ seg ∈ [hex 2 tp.version, hex 32 tp.traceId, hex 16 tp.parentId, hex 2 tp.flags],
      '-' ∉ seg := by
    simp only [List.mem_cons, List.not_mem_nil, or_false]
    rintro seg (rfl | rfl | rfl | rfl) hmem <;> exact (plain_of_mem_hex hmem).1 rfl
  rw [split, debug, String.toList_ofList, ← List.splitOn_intercalate '-' hsegs (by simp)]
  simp [List.intercalate, List.intersperse]

/-- **What is written is read back.** -/
theorem tryFrom_debug (tp : TraceParent) : tryFrom tp.debug = .ok tp := by
  rw [tryFrom, if_neg (not_not.2 (utf8ByteSize_debug tp)), split_debug, fields]
  simp only [field_cons_zero, field_cons_succ, fromStrRadix_hex]
  rfl

/-- **A header is read or refused exactly if its segments do not run out**, and what the proxy
writes is read back. -/
theorem traceparent_safe_iff (value : String) (tp : TraceParent) :
    (tryFrom value ≠ .error .panicked ↔
      (value.utf8ByteSize = 55 → ¬Missing widths (split value))) ∧
    tryFrom (debug tp) = .ok tp := by
  refine ⟨?_, tryFrom_debug tp⟩
  rw [Ne, tryFrom_panics_iff, not_and]

/-- A header of 55 zeros is one segment, and a number of eight bits: the second segment is indexed
and is not there. The task that reads the header of a peer panics. -/
theorem tryFrom_zeros_panicked :
    tryFrom (String.ofList (List.replicate 55 '0')) = .error .panicked ∧
      ∀ new, extractTraceparent (some (String.ofList (List.replicate 55 '0'))) new = none := by
  have hpanicked : tryFrom (String.ofList (List.replicate 55 '0')) = .error .panicked :=
    (tryFrom_panics_iff _).2 (by decide)
  refine ⟨hpanicked, fun new ↦ ?_⟩
  rw [extractTraceparent, Option.map_some, hpanicked]

end TraceParent

end Ztunnel.Proxy
