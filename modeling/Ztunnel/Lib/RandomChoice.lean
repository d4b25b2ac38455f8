import Mathlib.Algebra.BigOperators.Group.List.Basic
import Mathlib.Algebra.Order.Ring.Int

/-!
# Random choices

What a program may rely on when it chooses an element of a list at random: a `WeightedChoice` finds
an element of positive weight whenever the weights do not sum up to zero, and a `UniformChoice`
finds one in every list that is not empty. A value of these types is one outcome of the random
generator, so what holds for all values holds for every outcome. That the sum of the weights
overflows the numbers of a program is no outcome of it.

`WeightedChoice.ofDraw` is how such a choice is made: a number below the sum of the weights is
drawn, and the element whose share of the sum contains it is taken. Every element of positive weight
is some outcome of it (`WeightedChoice.exists_choose_eq`).
-/

/-- An outcome of a weighted choice. -/
structure WeightedChoice (α : Type*) where
  choose : List α → (α → ℕ) → Option α
  mem : ∀ {l weight a}, choose l weight = some a → a ∈ l
  pos : ∀ {l weight a}, choose l weight = some a → 0 < weight a
  isSome : ∀ {l weight}, 0 < (l.map weight).sum → (choose l weight).isSome = true

/-- An outcome of a uniform choice. -/
structure UniformChoice (α : Type*) where
  choose : List α → Option α
  mem : ∀ {l a}, choose l = some a → a ∈ l
  isSome : ∀ {l}, l ≠ [] → (choose l).isSome = true

namespace WeightedChoice

variable {α : Type*} {l : List α} {weight : α → ℕ} {a : α}

theorem sum_pos_iff : 0 < (l.map weight).sum ↔ ∃ a ∈ l, 0 < weight a := by
  rw [List.sum_pos_iff_exists_pos_nat]
  simp

theorem choose_eq_none_iff (choice : WeightedChoice α) :
    choice.choose l weight = none ↔ ∀ a ∈ l, weight a = 0 := by
  constructor
  · intro hnone a ha
    by_contra hne
    have hsome := choice.isSome (sum_pos_iff.2 ⟨a, ha, Nat.pos_of_ne_zero hne⟩)
    rw [hnone] at hsome
    cases hsome
  · intro hzero
    rcases hchosen : choice.choose l weight with - | a
    · rfl
    · exact absurd (hzero a (choice.mem hchosen)) (choice.pos hchosen).ne'

/-! ### A choice by a drawn number -/

/-- The element whose share of the sum of the weights contains a number. -/
def share (weight : α → ℕ) : List α → ℕ → Option α
  | [], _ => none
  | a :: l, n => if n < weight a then some a else share weight l (n - weight a)

theorem mem_of_share {n : ℕ} (h : share weight l n = some a) : a ∈ l ∧ 0 < weight a := by
  induction l generalizing n with
  | nil => cases h
  | cons b l ih =>
    rw [share] at h
    split_ifs at h with hlt
    · obtain rfl := Option.some.inj h
      exact ⟨List.mem_cons_self, by omega⟩
    · obtain ⟨hmem, hpos⟩ := ih h
      exact ⟨List.mem_cons_of_mem b hmem, hpos⟩

theorem share_isSome {n : ℕ} (h : n < (l.map weight).sum) : (share weight l n).isSome = true := by
  induction l generalizing n with
  | nil => cases h
  | cons b l ih =>
    rw [List.map_cons, List.sum_cons] at h
    rw [share]
    split_ifs with hlt
    · rfl
    · exact ih (by omega)

/-- Every element of positive weight has a share. -/
theorem exists_share_eq (hmem : a ∈ l) (hpos : 0 < weight a) :
    ∃ n < (l.map weight).sum, share weight l n = some a := by
  induction l with
  | nil => cases hmem
  | cons b l ih =>
    rw [List.map_cons, List.sum_cons]
    rcases List.mem_cons.1 hmem with rfl | hmem
    · exact ⟨0, by omega, by rw [share, if_pos hpos]⟩
    · obtain ⟨n, hlt, hn⟩ := ih hmem
      refine ⟨weight b + n, by omega, ?_⟩
      rw [share, if_neg (by omega), Nat.add_sub_cancel_left, hn]

/-- The choice by a number that is drawn below the sum of the weights. -/
def ofDraw (draw : ℕ) : WeightedChoice α where
  choose l weight := share weight l (draw % (l.map weight).sum)
  mem h := (mem_of_share h).1
  pos h := (mem_of_share h).2
  isSome h := share_isSome (Nat.mod_lt draw h)

/-- **Every element of positive weight can be chosen.** -/
theorem exists_choose_eq (hmem : a ∈ l) (hpos : 0 < weight a) :
    ∃ choice : WeightedChoice α, choice.choose l weight = some a := by
  obtain ⟨n, hlt, hn⟩ := exists_share_eq hmem hpos
  refine ⟨ofDraw n, ?_⟩
  show share weight l (n % (l.map weight).sum) = some a
  rw [Nat.mod_eq_of_lt hlt, hn]

end WeightedChoice

namespace UniformChoice

variable {α : Type*} {l : List α} {a : α}

theorem choose_eq_none_iff (choice : UniformChoice α) : choice.choose l = none ↔ l = [] := by
  constructor
  · intro hnone
    by_contra hne
    have hsome := choice.isSome hne
    rw [hnone] at hsome
    cases hsome
  · rintro rfl
    rcases hchosen : choice.choose [] with - | a
    · rfl
    · cases choice.mem hchosen

/-- The choice by a number that is drawn below the length. -/
def ofDraw (draw : ℕ) : UniformChoice α where
  choose l := l[draw % l.length]?
  mem h := List.mem_of_getElem? h
  isSome h := by
    rw [List.getElem?_eq_getElem (Nat.mod_lt draw (List.length_pos_iff.2 h))]
    rfl

/-- **Every element can be chosen.** -/
theorem exists_choose_eq (hmem : a ∈ l) : ∃ choice : UniformChoice α, choice.choose l = some a := by
  obtain ⟨n, hlt, hn⟩ := List.getElem_of_mem hmem
  refine ⟨ofDraw n, ?_⟩
  show l[n % l.length]? = some a
  rw [Nat.mod_eq_of_lt hlt, List.getElem?_eq_getElem hlt, hn]

end UniformChoice
