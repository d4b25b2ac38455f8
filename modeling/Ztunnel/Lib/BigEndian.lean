import Mathlib.Data.Nat.Bitwise

/-!
# Big-endian bytes

`bytes k n` is the number `n` in `k` bytes, the highest first, and `read v bs` goes on reading a
number that begins with `v`. Reading back what was written gives the last `k` bytes of the number
(`read_bytes`).
-/

namespace BigEndian

/-- The last `k` bytes of a number, the highest first. -/
def bytes : ℕ → ℕ → List UInt8
  | 0, _ => []
  | k + 1, n => UInt8.ofNat (n / 256 ^ k) :: bytes k n

/-- Shifts bytes into a number, from the right. -/
def read (v : ℕ) (bs : List UInt8) : ℕ :=
  bs.foldl (fun v b ↦ v <<< 8 ||| b.toNat) v

@[simp]
theorem length_bytes (k n : ℕ) : (bytes k n).length = k := by
  induction k with
  | zero => rfl
  | succ k ih => rw [bytes, List.length_cons, ih]

theorem shiftLeft_or_toNat (v : ℕ) (b : UInt8) : v <<< 8 ||| b.toNat = v * 256 + b.toNat := by
  rw [Nat.shiftLeft_eq, Nat.mul_comm v, ← Nat.two_pow_add_eq_or_of_lt b.toNat_lt]

/-- **What was written is read back**, behind what had been read before. -/
theorem read_bytes (v k n : ℕ) : read v (bytes k n) = v * 256 ^ k + n % 256 ^ k := by
  induction k generalizing v with
  | zero => simp [bytes, read, Nat.mod_one]
  | succ k ih =>
    calc read v (bytes (k + 1) n)
        = read (v * 256 + n / 256 ^ k % 256) (bytes k n) := by
          rw [← UInt8.toNat_ofNat', ← shiftLeft_or_toNat]
          rfl
      _ = (v * 256 + n / 256 ^ k % 256) * 256 ^ k + n % 256 ^ k := ih _
      _ = v * 256 ^ (k + 1) + n % 256 ^ (k + 1) := by
          rw [Nat.pow_succ, Nat.mod_mul, Nat.add_mul, Nat.mul_assoc, Nat.mul_comm 256,
            Nat.mul_comm (256 ^ k) (n / 256 ^ k % 256)]
          omega

theorem read_lt (v : ℕ) (bs : List UInt8) : read v bs < (v + 1) * 256 ^ bs.length := by
  induction bs generalizing v with
  | nil => simp [read]
  | cons b bs ih =>
    have hb : b.toNat < 256 := b.toNat_lt
    calc read v (b :: bs) = read (v * 256 + b.toNat) bs := by
          rw [← shiftLeft_or_toNat]
          rfl
      _ < (v * 256 + b.toNat + 1) * 256 ^ bs.length := ih _
      _ ≤ (v + 1) * 256 * 256 ^ bs.length := Nat.mul_le_mul_right _ (by omega)
      _ = (v + 1) * 256 ^ (b :: bs).length := by
          rw [List.length_cons, Nat.pow_succ, Nat.mul_assoc, Nat.mul_comm 256]

end BigEndian
