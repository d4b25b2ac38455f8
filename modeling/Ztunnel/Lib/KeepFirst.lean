import Mathlib.Data.List.Basic

/-!
# Keeping what is new

A loop that appends an item to its output unless one like it is there already. What it puts out is
`List.eraseDupsBy` of the items (`foldl_push_nil`): the items in their order, the first of each
kind. Here "like" is any relation that is decided by a function into `Bool`; that it is reflexive is
only needed for saying that every item has a like one in the output.
-/

namespace KeepFirst

variable {α : Type*} (r : α → α → Bool)

/-- One turn of the loop. -/
def push (out : List α) (a : α) : List α := if out.any (r a) then out else out ++ [a]

/-- **The loop keeps the first item of each kind**, and nothing like what was there before. -/
theorem foldl_push (items out : List α) :
    items.foldl (push r) out = out ++ (items.filter fun a ↦ !out.any (r a)).eraseDupsBy r := by
  induction items generalizing out with
  | nil => exact (List.append_nil out).symm
  | cons a items ih =>
    rw [List.foldl_cons, ih, push]
    by_cases hseen : out.any (r a) = true
    · rw [if_pos hseen, List.filter_cons_of_neg (by rw [hseen]; decide)]
    · rw [if_neg hseen, List.filter_cons, eq_false_of_ne_true hseen, Bool.not_false,
        if_pos rfl, List.eraseDupsBy_cons, List.filter_filter,
        List.append_assoc, List.singleton_append]
      congr 3
      refine List.filter_congr fun b _ ↦ ?_
      rw [List.any_append, List.any_cons, List.any_nil, Bool.or_false, Bool.not_or, Bool.and_comm]
      cases r b a <;> rfl

theorem foldl_push_nil (items : List α) : items.foldl (push r) [] = items.eraseDupsBy r := by
  rw [foldl_push, List.nil_append]
  exact congrArg (List.eraseDupsBy r) (List.filter_eq_self.2 fun _ _ ↦ rfl)

theorem eraseDupsBy_sublist (items : List α) : (items.eraseDupsBy r).Sublist items := by
  match items with
  | [] => exact .slnil
  | a :: items =>
    rw [List.eraseDupsBy_cons]
    exact ((eraseDupsBy_sublist _).trans List.filter_sublist).cons_cons a
termination_by items.length
decreasing_by exact Nat.lt_succ_of_le (List.length_filter_le _ _)

theorem pairwise_eraseDupsBy (items : List α) :
    (items.eraseDupsBy r).Pairwise fun a b ↦ r b a = false := by
  match items with
  | [] => exact .nil
  | a :: items =>
    rw [List.eraseDupsBy_cons, List.pairwise_cons]
    refine ⟨fun b hb ↦ ?_, pairwise_eraseDupsBy _⟩
    exact of_decide_eq_true (List.mem_filter.1 ((eraseDupsBy_sublist r _).subset hb)).2
termination_by items.length
decreasing_by exact Nat.lt_succ_of_le (List.length_filter_le _ _)

variable {r}

/-- **Every item has a like one** among those that are kept. -/
theorem exists_mem_eraseDupsBy (hrefl : ∀ a, r a a = true) {items : List α} {a : α}
    (ha : a ∈ items) : ∃ b ∈ items.eraseDupsBy r, r a b = true := by
  match items with
  | b :: items =>
    rw [List.eraseDupsBy_cons]
    by_cases hlike : r a b = true
    · exact ⟨b, List.mem_cons_self, hlike⟩
    · have hmem : a ∈ items.filter fun c ↦ r c b = false := by
        obtain rfl | hmem := List.mem_cons.1 ha
        · exact absurd (hrefl a) hlike
        · exact List.mem_filter.2 ⟨hmem, decide_eq_true (eq_false_of_ne_true hlike)⟩
      obtain ⟨c, hc, hlike⟩ := exists_mem_eraseDupsBy hrefl hmem
      exact ⟨c, List.mem_cons_of_mem _ hc, hlike⟩
termination_by items.length
decreasing_by exact Nat.lt_succ_of_le (List.length_filter_le _ _)

end KeepFirst
