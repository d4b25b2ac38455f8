import Mathlib.Algebra.Order.BigOperators.Group.List
import Mathlib.Algebra.Order.Ring.Int
import Mathlib.Algebra.Order.Ring.Nat

/-!
# Next-fit packing of a list

Items with weights are put into bins of one capacity, in their order: an item goes into the open bin
if it fits there, and else the open bin is closed and the item opens another one. What comes out is
the list itself, cut somewhere (`flatten_nextFit`), so that whatever is asked of all items can be
asked bin by bin. No bin is empty, and if every item fits into a bin of its own then every bin keeps
to the capacity (`load_le_of_mem_nextFit`).
-/

namespace NextFit

variable {α : Type*} (weight : α → ℕ) (capacity : ℕ)

/-- What the items of a bin weigh together. -/
def load (bin : List α) : ℕ := (bin.map weight).sum

/-- The bins for some items, with the bin that is open. -/
def nextFit : List α → List α → List (List α)
  | [], bin => if bin = [] then [] else [bin]
  | a :: items, bin =>
    if bin ≠ [] ∧ capacity < load weight bin + weight a then bin :: nextFit items [a]
    else nextFit items (bin ++ [a])

variable {weight capacity} {items bin : List α}

@[simp]
theorem load_singleton (a : α) : load weight [a] = weight a := List.sum_singleton

theorem load_concat (bin : List α) (a : α) :
    load weight (bin ++ [a]) = load weight bin + weight a := by
  rw [load, List.map_append, List.sum_append]
  exact congrArg (load weight bin + ·) (load_singleton a)

/-- **Nothing is lost, repeated or moved.** -/
theorem flatten_nextFit (items bin : List α) :
    (nextFit weight capacity items bin).flatten = bin ++ items := by
  induction items generalizing bin with
  | nil =>
    rw [nextFit, List.append_nil]
    split_ifs with hbin
    · exact hbin.symm
    · exact List.flatten_singleton
  | cons a items ih =>
    rw [nextFit]
    split_ifs
    · rw [List.flatten_cons, ih, List.singleton_append]
    · rw [ih, List.append_assoc, List.singleton_append]

theorem ne_nil_of_mem_nextFit {b : List α} (hb : b ∈ nextFit weight capacity items bin) :
    b ≠ [] := by
  induction items generalizing bin with
  | nil =>
    rw [nextFit] at hb
    split_ifs at hb with hbin
    · cases hb
    · exact List.mem_singleton.1 hb ▸ hbin
  | cons a items ih =>
    rw [nextFit] at hb
    split_ifs at hb with hfull
    · obtain rfl | hb := List.mem_cons.1 hb
      · exact hfull.1
      · exact ih hb
    · exact ih hb

/-- **No bin is overloaded**, if no item is too heavy. -/
theorem load_le_of_mem_nextFit (hitems : ∀ a ∈ items, weight a ≤ capacity)
    (hbin : load weight bin ≤ capacity) {b : List α}
    (hb : b ∈ nextFit weight capacity items bin) : load weight b ≤ capacity := by
  induction items generalizing bin with
  | nil =>
    rw [nextFit] at hb
    split_ifs at hb
    · cases hb
    · exact List.mem_singleton.1 hb ▸ hbin
  | cons a items ih =>
    have ha : weight a ≤ capacity := hitems a List.mem_cons_self
    have hrest : ∀ a ∈ items, weight a ≤ capacity := fun a ha ↦
      hitems a (List.mem_cons_of_mem _ ha)
    rw [nextFit] at hb
    split_ifs at hb with hfull
    · obtain rfl | hb := List.mem_cons.1 hb
      · exact hbin
      · exact ih hrest ((load_singleton a).trans_le ha) hb
    · refine ih hrest ?_ hb
      -- the item fits, or it is the first one
      by_cases hnil : bin = []
      · rw [hnil, List.nil_append, load_singleton]
        exact ha
      · rw [load_concat]
        exact Nat.le_of_not_lt fun hlt ↦ hfull ⟨hnil, hlt⟩

end NextFit
