import Mathlib.Data.List.Sort

/-!
# Decision lists

First-match evaluation of an ordered list of rules: a rule has a condition and an action, the first
rule whose condition holds decides, and a list in which no condition holds decides nothing.

The first match of a concatenation is the first of the parts' (`firstMatch_append`), and a block of
rules with one action decides as their disjunction (`firstMatch_const`).

Compilers from one rule language to another also sort: `sortByKey` is stable, keeping the order of
rules with equal keys, so it commutes with taking out the rules of one kind (`filter_sortByKey`) and
leaves a list that is already in order alone (`sortByKey_eq_self`).
-/

namespace DecisionList

variable {ρ α π : Type*}

/-! ### First match -/

/-- The action of the first rule that holds on `p`, if any does. -/
def firstMatch (holds : ρ → π → Bool) (act : ρ → α) (rs : List ρ) (p : π) : Option α :=
  (rs.find? fun r ↦ holds r p).map act

variable {holds : ρ → π → Bool} {act : ρ → α} {p : π}

@[simp] theorem firstMatch_nil : firstMatch holds act [] p = none := rfl

theorem firstMatch_cons (r : ρ) (rs : List ρ) :
    firstMatch holds act (r :: rs) p =
      if holds r p then some (act r) else firstMatch holds act rs p := by
  simp only [firstMatch, List.find?_cons]
  cases holds r p <;> rfl

theorem firstMatch_eq_none {rs : List ρ} (h : ∀ r ∈ rs, holds r p = false) :
    firstMatch holds act rs p = none := by
  rw [firstMatch, Option.map_eq_none_iff, List.find?_eq_none]
  intro r hr
  simp [h r hr]

/-- Evaluation of a concatenation: the first list decides if it can. -/
theorem firstMatch_append (rs₁ rs₂ : List ρ) :
    firstMatch holds act (rs₁ ++ rs₂) p =
      (firstMatch holds act rs₁ p).or (firstMatch holds act rs₂ p) := by
  induction rs₁ with
  | nil => simp
  | cons r rs₁ ih =>
    rw [List.cons_append, firstMatch_cons, firstMatch_cons, ih]
    split <;> rfl

/-- A list all of whose rules have one action decides that action iff one of them holds. -/
theorem firstMatch_const {rs : List ρ} {a : α} (h : ∀ r ∈ rs, act r = a) :
    firstMatch holds act rs p = if rs.any (holds · p) then some a else none := by
  induction rs with
  | nil => rfl
  | cons r rs ih =>
    rw [firstMatch_cons, List.any_cons, ih fun r hr ↦ h r (List.mem_cons_of_mem _ hr),
      h r List.mem_cons_self]
    cases holds r p <;> rfl

/-! ### Stable sorting by a key -/

variable {κ : Type*} [LinearOrder κ]

/-- The order that a key induces. -/
abbrev KeyLe (key : ρ → κ) (a b : ρ) : Prop := key a ≤ key b

/-- Sort by `key`, smallest first, keeping the order of elements with equal keys. -/
def sortByKey (key : ρ → κ) (rs : List ρ) : List ρ :=
  rs.insertionSort (KeyLe key)

theorem mem_sortByKey {key : ρ → κ} {rs : List ρ} {r : ρ} : r ∈ sortByKey key rs ↔ r ∈ rs :=
  List.mem_insertionSort _

theorem sortByKey_eq_self {key : ρ → κ} {rs : List ρ}
    (h : rs.Pairwise (KeyLe key)) : sortByKey key rs = rs :=
  h.insertionSort_eq

/-- The head of an ordered list has the least key, so whatever does not go before it goes nowhere
before the rest either. -/
theorem filter_orderedInsert (key : ρ → κ) (keep : ρ → Bool) (a : ρ) (rs : List ρ)
    (hrs : rs.Pairwise (KeyLe key)) :
    (rs.orderedInsert (KeyLe key) a).filter keep =
      if keep a then (rs.filter keep).orderedInsert (KeyLe key) a
      else rs.filter keep := by
  induction rs with
  | nil => cases h : keep a <;> simp [h]
  | cons b rs ih =>
    obtain ⟨hb, hrs⟩ := List.pairwise_cons.1 hrs
    by_cases hab : key a ≤ key b
    · -- `a` stands in front of the whole list, hence in front of its filtered part
      have hfront : ∀ c ∈ (b :: rs).filter keep, key a ≤ key c := by
        intro c hc
        rcases List.mem_cons.1 (List.mem_of_mem_filter hc) with rfl | hc
        · exact hab
        · exact hab.trans (hb c hc)
      rw [List.orderedInsert_cons_of_le (KeyLe key) _ hab]
      cases hk : keep a
      · rw [List.filter_cons_of_neg (by simp [hk])]; rfl
      · rw [List.filter_cons_of_pos hk, if_pos rfl]
        cases hl : (b :: rs).filter keep with
        | nil => rfl
        | cons c l =>
          rw [List.orderedInsert_cons_of_le]
          exact hfront c (by simp [hl])
    · rw [List.orderedInsert_of_not_le (KeyLe key) _ hab]
      cases hk : keep b
      · rw [List.filter_cons_of_neg (by simp [hk]), List.filter_cons_of_neg (by simp [hk]), ih hrs]
      · rw [List.filter_cons_of_pos hk, List.filter_cons_of_pos hk, ih hrs]
        cases keep a
        · rfl
        · rw [if_pos rfl, if_pos rfl, List.orderedInsert_of_not_le (KeyLe key) _ hab]

/-- **Stability.** Taking out the elements of one kind commutes with sorting. -/
theorem filter_sortByKey (key : ρ → κ) (keep : ρ → Bool) (rs : List ρ) :
    (sortByKey key rs).filter keep = sortByKey key (rs.filter keep) := by
  induction rs with
  | nil => rfl
  | cons a rs ih =>
    have hsorted : (sortByKey key rs).Pairwise (KeyLe key) :=
      List.pairwise_insertionSort _ rs
    rw [show sortByKey key (a :: rs) =
        (sortByKey key rs).orderedInsert (KeyLe key) a from rfl,
      filter_orderedInsert key keep a _ hsorted, ih]
    cases hk : keep a
    · rw [List.filter_cons_of_neg (by simp [hk])]; rfl
    · rw [List.filter_cons_of_pos hk]; rfl

end DecisionList
