import Mathlib.Data.Int.Notation
import Mathlib.Data.List.Perm.Subperm

/-!
# Hashing in the manner of Rust's standard library

A value is hashed by the calls it makes on a hasher, one after the other (`Hashed`). Which hasher it
is, the value does not know, so two values *hash alike* if every hasher ends with the same result
from the same state. That is so exactly if they make the same calls (`hashAlike_iff`).

A `HashSet` is the order in which its elements come when it is iterated over. Equality of sets does
not look at the order.
-/

namespace StdHash

/-- The calls of a `Hasher`. -/
inductive Call where
  | write (bytes : List UInt8)
  | writeU8 (i : UInt8)
  | writeU16 (i : UInt16)
  | writeU32 (i : UInt32)
  | writeUsize (i : ℕ)
  | writeIsize (i : ℤ)
  deriving DecidableEq

/-- A hasher with states in `σ`. -/
structure Hasher (σ : Type) where
  call : σ → Call → σ
  finish : σ → UInt64

/-- A type whose values can be hashed. -/
class Hashed (α : Type) where
  calls : α → List Call

section

variable {α : Type} [Hashed α]

/-- The result of hashing a value, from a state of the hasher. -/
def Hasher.result {σ : Type} (h : Hasher σ) (s : σ) (a : α) : UInt64 :=
  h.finish ((Hashed.calls a).foldl h.call s)

/-- Two values hash alike, whatever hasher and state. -/
def HashAlike (a b : α) : Prop :=
  ∀ (σ : Type) (h : Hasher σ) (s : σ), h.result s a = h.result s b

/-- A hasher that records its calls and tells one list of them from all others. -/
def recorder (calls : List Call) : Hasher (List Call) where
  call s c := s ++ [c]
  finish s := if s = calls then 1 else 0

theorem recorder_foldl (calls s cs : List Call) :
    cs.foldl (recorder calls).call s = s ++ cs := by
  induction cs generalizing s with
  | nil => exact (List.append_nil s).symm
  | cons c cs ih =>
    rw [List.foldl_cons, ih]
    exact List.append_assoc s [c] cs

/-- **Values hash alike exactly if they make the same calls.** -/
theorem hashAlike_iff {a b : α} : HashAlike a b ↔ Hashed.calls a = Hashed.calls b := by
  constructor
  · intro h
    have hresult := h _ (recorder (Hashed.calls a)) []
    rw [Hasher.result, Hasher.result, recorder_foldl, recorder_foldl] at hresult
    by_contra hne
    have hrecorded : (if Hashed.calls a = Hashed.calls a then 1 else 0 : UInt64) =
        if Hashed.calls b = Hashed.calls a then 1 else 0 := hresult
    rw [if_pos rfl, if_neg (Ne.symm hne)] at hrecorded
    exact absurd hrecorded (by decide)
  · intro h σ hasher s
    rw [Hasher.result, Hasher.result, h]

end

/-! ### Types of the standard library -/

instance hashedString : Hashed String where
  calls s := [.write s.toByteArray.data.toList, .writeU8 0xff]

instance hashedBool : Hashed Bool where
  calls b := [.writeU8 (if b then 1 else 0)]

instance hashedU16 : Hashed UInt16 where
  calls i := [.writeU16 i]

instance hashedU32 : Hashed UInt32 where
  calls i := [.writeU32 i]

instance hashedOption {α : Type} [Hashed α] : Hashed (Option α) where
  calls
    | none => [.writeIsize 0]
    | some a => .writeIsize 1 :: Hashed.calls a

/-- `Vec`: the length, and the elements. -/
instance hashedVec {α : Type} [Hashed α] : Hashed (List α) where
  calls l := .writeUsize l.length :: l.flatMap Hashed.calls

theorem calls_string_injective : Function.Injective fun s : String ↦ Hashed.calls s := by
  intro s t h
  have hbytes : s.toByteArray.data.toList = t.toByteArray.data.toList :=
    Call.write.inj (List.cons.inj h).1
  exact String.toByteArray_inj.1 (ByteArray.ext (Array.toList_inj.1 hbytes))

/-- Blocks of one length can be told apart. -/
theorem flatMap_inj_of_length {α β : Type} {f : α → List β} {n : ℕ} (hlen : ∀ a, (f a).length = n)
    (hinj : Function.Injective f) {l l' : List α} (h : l.length = l'.length) :
    l.flatMap f = l'.flatMap f ↔ l = l' := by
  refine ⟨fun heq ↦ ?_, fun heq ↦ by rw [heq]⟩
  induction l generalizing l' with
  | nil => exact (List.length_eq_zero_iff.1 h.symm).symm
  | cons a l ih =>
    rcases l' with - | ⟨b, l'⟩
    · exact nomatch h
    rw [List.flatMap_cons, List.flatMap_cons] at heq
    obtain ⟨hhead, htail⟩ := List.append_inj heq ((hlen a).trans (hlen b).symm)
    rw [hinj hhead, ih (Nat.succ.inj h) htail]

theorem flatMap_calls_string_inj {l l' : List String} (h : l.length = l'.length) :
    l.flatMap Hashed.calls = l'.flatMap Hashed.calls ↔ l = l' :=
  flatMap_inj_of_length (n := 2) (fun _ ↦ rfl) calls_string_injective h

/-! ### Sets -/

/-- A `HashSet`, with its elements in the order of iteration. -/
structure HashSet (α : Type) where
  elements : List α
  nodup : elements.Nodup

namespace HashSet

variable {α : Type}

/-- `==` of two sets: they have as many elements, and the second has each of the first. -/
def Same (s t : HashSet α) : Prop :=
  s.elements.length = t.elements.length ∧ ∀ a ∈ s.elements, a ∈ t.elements

/-- Sets are equal exactly if one order is a permutation of the other. -/
theorem same_iff_perm {s t : HashSet α} : s.Same t ↔ s.elements.Perm t.elements := by
  constructor
  · rintro ⟨hlen, hsub⟩
    exact (s.nodup.subperm hsub).perm_of_length_le (Nat.le_of_eq hlen.symm)
  · exact fun h ↦ ⟨h.length_eq, fun _ ↦ h.mem_iff.1⟩

end HashSet

end StdHash
