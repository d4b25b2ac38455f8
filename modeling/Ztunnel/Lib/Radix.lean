import Mathlib.Data.Nat.Digits.Lemmas

/-!
# Numbers read digit by digit

`accumulate b acc ds` goes on reading a number that begins with `acc`, in base `b` and with the
highest digit first. `read` does so from symbols, and fails at the first symbol that is no digit or
where the number does not stay below a bound. `padded` writes a number with a least number of
digits. What is written is read back if it is below the bound (`read_padded`): a number that begins
another is not above it, so no step on the way fails.
-/

namespace Radix

variable {α : Type*} {b bound acc n : ℕ} {ds : List ℕ}

/-- Digits, the highest first, behind a number. -/
def accumulate (b acc : ℕ) (ds : List ℕ) : ℕ := ds.foldl (fun acc d ↦ acc * b + d) acc

/-- Why reading fails. -/
inductive ReadError where
  | invalidDigit
  | overflow
deriving DecidableEq, Repr

/-- Reads symbols behind a number. -/
def read (b bound : ℕ) (digit : α → Option ℕ) : ℕ → List α → Except ReadError ℕ
  | acc, [] => .ok acc
  | acc, c :: cs =>
    match digit c with
    | none => .error .invalidDigit
    | some d => if acc * b + d < bound then read b bound digit (acc * b + d) cs
      else .error .overflow

/-- The digits of a number, at least `width` of them and at least one. -/
def padded (b width n : ℕ) : List ℕ :=
  List.replicate (max width 1 - (b.digits n).length) 0 ++ (b.digits n).reverse

theorem le_accumulate (hb : 0 < b) (acc : ℕ) (ds : List ℕ) : acc ≤ accumulate b acc ds := by
  induction ds generalizing acc with
  | nil => exact le_rfl
  | cons d ds ih =>
    calc acc ≤ acc * b := Nat.le_mul_of_pos_right acc hb
      _ ≤ acc * b + d := Nat.le_add_right _ _
      _ ≤ accumulate b acc (d :: ds) := ih _

theorem accumulate_zeros (k : ℕ) (ds : List ℕ) :
    accumulate b 0 (List.replicate k 0 ++ ds) = accumulate b 0 ds := by
  induction k with
  | zero => rfl
  | succ k ih =>
    rw [List.replicate_succ, List.cons_append, ← ih]
    show accumulate b (0 * b + 0) _ = _
    rw [Nat.zero_mul]

theorem accumulate_reverse (ds : List ℕ) : accumulate b 0 ds.reverse = Nat.ofDigits b ds := by
  rw [accumulate, List.foldl_reverse, Nat.ofDigits_eq_foldr]
  simp only [Nat.cast_id, Nat.mul_comm b, Nat.add_comm]

theorem accumulate_padded (width : ℕ) : accumulate b 0 (padded b width n) = n := by
  rw [padded, accumulate_zeros, accumulate_reverse, Nat.ofDigits_digits]

theorem length_padded {width : ℕ} (hb : 1 < b) (hwidth : 0 < width) (hn : n < b ^ width) :
    (padded b width n).length = width := by
  have hle : (b.digits n).length ≤ width := (Nat.digits_length_le_iff hb n).2 hn
  rw [padded, List.length_append, List.length_replicate, List.length_reverse]
  omega

theorem padded_ne_nil (b width n : ℕ) : padded b width n ≠ [] := by
  intro hnil
  have hlength : (padded b width n).length = 0 := by rw [hnil, List.length_nil]
  rw [padded, List.length_append, List.length_replicate, List.length_reverse] at hlength
  omega

theorem lt_of_mem_padded {width d : ℕ} (hb : 1 < b) (hd : d ∈ padded b width n) : d < b := by
  rcases List.mem_append.1 hd with hzero | hdigit
  · rw [List.eq_of_mem_replicate hzero]
    omega
  · exact Nat.digits_lt_base hb (List.mem_reverse.1 hdigit)

/-- Reading back symbols of digits. -/
theorem read_map {digit : α → Option ℕ} {symbol : ℕ → α} (hb : 0 < b)
    (hsymbol : ∀ d ∈ ds, digit (symbol d) = some d) (hbound : accumulate b acc ds < bound) :
    read b bound digit acc (ds.map symbol) = .ok (accumulate b acc ds) := by
  induction ds generalizing acc with
  | nil => rfl
  | cons d ds ih =>
    have hhere : acc * b + d < bound := (le_accumulate hb _ ds).trans_lt hbound
    rw [List.map_cons, read, hsymbol d List.mem_cons_self]
    dsimp only
    rw [if_pos hhere]
    exact ih (fun d' hd' ↦ hsymbol d' (List.mem_cons_of_mem d hd')) hbound

/-- **What is written is read back.** -/
theorem read_padded {digit : α → Option ℕ} {symbol : ℕ → α} (hb : 1 < b)
    (hsymbol : ∀ d < b, digit (symbol d) = some d) (width : ℕ) (hn : n < bound) :
    read b bound digit 0 ((padded b width n).map symbol) = .ok n := by
  have hvalue : accumulate b 0 (padded b width n) = n := accumulate_padded width
  rw [read_map (by omega) (fun d hd ↦ hsymbol d (lt_of_mem_padded hb hd)) (hvalue.symm ▸ hn),
    hvalue]

end Radix
