import Mathlib.Algebra.Order.BigOperators.Group.List
import Mathlib.Algebra.Order.Ring.Int
import Mathlib.Algebra.Order.Ring.Nat

/-!
# Counting semaphores with weighted permits

A semaphore has a budget of permits, and items hold some of them, each by its cost. `Conserves` says
that the permits that are left and those that are held make up the budget. It does not mind how the
items are ordered or where they are kept, so that moving an item from one owner to another is a
permutation, and the rules are taking and giving back.

The cost of an item of a size is its size, but at least one permit and at most the whole budget
(`share`). So an item that is larger than the budget can be held, alone: the sizes that are held
together stay within the budget unless there is one item only (`sum_size_le_or_alone`).

`flatMap_set_perm` is for owners in a list: when one of them changes, what all of them hold changes
by what that one holds.
-/

namespace Semaphore

variable {α τ : Type*}

/-- The permits for a size, out of a budget. -/
def share (budget size : ℕ) : ℕ := min (max size 1) budget

/-- **Sizes within the budget**, unless one item exceeds it alone. -/
theorem sum_size_le_or_alone {size cost : α → ℕ} {budget : ℕ} (hpos : 0 < budget) {items : List α}
    (hcost : ∀ a ∈ items, cost a = share budget (size a))
    (hsum : (items.map cost).sum ≤ budget) :
    (items.map size).sum ≤ budget ∨ ∃ a, items = [a] ∧ budget < size a := by
  by_cases hfit : ∀ a ∈ items, size a ≤ budget
  · refine .inl (le_trans (List.sum_le_sum fun a ha ↦ ?_) hsum)
    rw [hcost a ha, share]
    have := hfit a ha
    omega
  · obtain ⟨a, ha⟩ := not_forall.1 hfit
    obtain ⟨ha, hlarge⟩ := Classical.not_imp.1 ha
    refine .inr ⟨a, ?_, Nat.lt_of_not_le hlarge⟩
    obtain ⟨before, after, rfl⟩ := List.append_of_mem ha
    have hwhole : cost a = budget := by
      rw [hcost a ha, share]
      omega
    -- nothing is left for another item, and every item takes a permit
    have hzero : ∀ b ∈ before ++ after, False := by
      intro b hb
      have hmem : b ∈ before ++ a :: after := by
        rw [List.mem_append] at hb
        rw [List.mem_append, List.mem_cons]
        tauto
      have htake : 0 < cost b := by
        rw [hcost b hmem, share]
        omega
      have hle : cost b ≤ ((before ++ after).map cost).sum :=
        List.single_le_sum (fun _ _ ↦ Nat.zero_le _) _ (List.mem_map_of_mem hb)
      simp only [List.map_append, List.sum_append, List.map_cons, List.sum_cons] at hsum hle
      omega
    have hnil : before ++ after = [] := List.eq_nil_iff_forall_not_mem.2 hzero
    obtain ⟨rfl, rfl⟩ := List.append_eq_nil_iff.1 hnil
    rfl

/-- The permits that are left and those that are held make up the budget. -/
def Conserves (budget available : ℕ) (cost : α → ℕ) (held : List α) : Prop :=
  available + (held.map cost).sum = budget

namespace Conserves

variable {budget available : ℕ} {cost : α → ℕ} {held held' items : List α} {a : α}

theorem sum_le (h : Conserves budget available cost held) : (held.map cost).sum ≤ budget :=
  Nat.le.intro ((Nat.add_comm _ _).trans h)

/-- Items change hands. -/
theorem perm (h : Conserves budget available cost held) (hperm : held'.Perm held) :
    Conserves budget available cost held' := by
  rw [Conserves, (hperm.map cost).sum_eq]
  exact h

theorem take (h : Conserves budget available cost held) (hle : cost a ≤ available)
    (hperm : held'.Perm (a :: held)) : Conserves budget (available - cost a) cost held' := by
  rw [Conserves, (hperm.map cost).sum_eq, List.map_cons, List.sum_cons]
  rw [Conserves] at h
  omega

theorem give (h : Conserves budget available cost held) (hperm : held.Perm (items ++ held')) :
    Conserves budget (available + (items.map cost).sum) cost held' := by
  rw [Conserves, (hperm.map cost).sum_eq, List.map_append, List.sum_append] at h
  rw [Conserves]
  omega

end Conserves

/-- One owner of a list changes, and the others keep what they hold. -/
theorem flatMap_set_perm {owners : List τ} {i : ℕ} {t : τ} (h : owners[i]? = some t)
    (holds : τ → List α) :
    ∃ rest, (owners.flatMap holds).Perm (holds t ++ rest) ∧
      ∀ u, ((owners.set i u).flatMap holds).Perm (holds u ++ rest) := by
  obtain ⟨hi, rfl⟩ := List.getElem?_eq_some_iff.1 h
  refine ⟨(owners.eraseIdx i).flatMap holds, ?_, fun u ↦ ?_⟩
  · exact ((List.getElem_cons_eraseIdx_perm hi).flatMap_right holds).symm
  · exact (List.set_perm_cons_eraseIdx hi u).flatMap_right holds

/-- What one owner takes in and gives away is what all of them together do. -/
theorem flatMap_set_exchange {owners : List τ} {i : ℕ} {t u : τ} (h : owners[i]? = some t)
    (holds : τ → List α) {taken given : List α}
    (hperm : (holds t ++ taken).Perm (holds u ++ given)) :
    (owners.flatMap holds ++ taken).Perm ((owners.set i u).flatMap holds ++ given) := by
  obtain ⟨rest, hold, hnew⟩ := flatMap_set_perm h holds
  have hswap : ∀ xs ys : List α, (xs ++ rest ++ ys).Perm (xs ++ ys ++ rest) := by
    intro xs ys
    rw [List.append_assoc, List.append_assoc]
    exact List.perm_append_comm.append_left xs
  calc (owners.flatMap holds ++ taken).Perm (holds t ++ rest ++ taken) := hold.append_right taken
    List.Perm _ (holds t ++ taken ++ rest) := hswap (holds t) taken
    List.Perm _ (holds u ++ given ++ rest) := hperm.append_right rest
    List.Perm _ (holds u ++ rest ++ given) := (hswap (holds u) given).symm
    List.Perm _ ((owners.set i u).flatMap holds ++ given) := ((hnew u).append_right given).symm

end Semaphore
