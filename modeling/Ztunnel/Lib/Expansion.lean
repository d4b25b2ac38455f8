import Mathlib.Data.List.Basic

/-!
# Expansion of conjunctions of alternatives

A requirement in conjunctive form is a list of clauses, each a list of alternatives of which one
has to hold. Packet filters have no disjunction inside a line, so such a requirement is expanded:
starting from one combination, every clause replaces each combination by its refinements with each
alternative of the clause. One of the final combinations is satisfied exactly where all clauses
hold (`any_expand`).

Refining a combination need not be a conjunction in general: a refinement may *replace* part of the
combination. It is one as long as the alternative is `Free` in the combination, and the alternatives
of different clauses are independent.
-/

namespace Expansion

theorem any_congr_mem {α : Type*} {l : List α} {p q : α → Bool} (h : ∀ a ∈ l, p a = q a) :
    l.any p = l.any q := by
  rw [Bool.eq_iff_iff, List.any_eq_true, List.any_eq_true]
  exact exists_congr fun a ↦ and_congr_right fun ha ↦ by rw [h a ha]

theorem and_any {α : Type*} (l : List α) (p : α → Bool) (c : Bool) :
    (c && l.any p) = l.any fun a ↦ c && p a := by
  cases c <;> simp

/-- A conjunction of disjunctions, one variable each, is a disjunction over pairs. -/
theorem any_any_and {α β : Type*} (as : List α) (bs : List β) (f : α → Bool) (g : β → Bool)
    (c : Bool) : (as.any fun a ↦ bs.any fun b ↦ f a && (g b && c)) =
      (as.any f && (bs.any g && c)) := by
  rw [Bool.eq_iff_iff]
  simp only [List.any_eq_true, Bool.and_eq_true]
  constructor
  · rintro ⟨a, ha, b, hb, hfa, hgb, hc⟩
    exact ⟨⟨a, ha, hfa⟩, ⟨b, hb, hgb⟩, hc⟩
  · rintro ⟨⟨a, ha, hfa⟩, ⟨b, hb, hgb⟩, hc⟩
    exact ⟨a, ha, b, hb, hfa, hgb, hc⟩

variable {φ μ : Type*} (refine : φ → μ → List φ)

/-- Refine every combination with every alternative of one clause. -/
def expandClause (combos : List φ) (clause : List μ) : List φ :=
  combos.flatMap fun f ↦ clause.flatMap fun m ↦ refine f m

/-- Refine with all clauses, first to last. -/
def expand (init : φ) (clauses : List (List μ)) : List φ :=
  clauses.foldl (expandClause refine) [init]

variable {refine} {sat : φ → Bool} {holds : μ → Bool}

/-- One clause: where every alternative is free in every combination, some refinement is satisfied
iff some combination is and some alternative holds. -/
theorem any_expandClause {Free : φ → μ → Prop}
    (hrefine : ∀ f m, Free f m → (refine f m).any sat = (sat f && holds m))
    {combos : List φ} {clause : List μ} (hfree : ∀ f ∈ combos, ∀ m ∈ clause, Free f m) :
    (expandClause refine combos clause).any sat = (combos.any sat && clause.any holds) := by
  rw [Bool.eq_iff_iff]
  simp only [expandClause, List.any_flatMap, Bool.and_eq_true]
  constructor
  · intro h
    obtain ⟨f, hf, h⟩ := List.any_eq_true.1 h
    obtain ⟨m, hm, h⟩ := List.any_eq_true.1 h
    rw [hrefine f m (hfree f hf m hm), Bool.and_eq_true] at h
    exact ⟨List.any_eq_true.2 ⟨f, hf, h.1⟩, List.any_eq_true.2 ⟨m, hm, h.2⟩⟩
  · rintro ⟨hcombos, hclause⟩
    obtain ⟨f, hf, hs⟩ := List.any_eq_true.1 hcombos
    obtain ⟨m, hm, hh⟩ := List.any_eq_true.1 hclause
    refine List.any_eq_true.2 ⟨f, hf, List.any_eq_true.2 ⟨m, hm, ?_⟩⟩
    rw [hrefine f m (hfree f hf m hm), hs, hh]
    rfl

/-- Freedom is inherited: what is free in a combination and independent of the alternatives of a
clause is free in the refinements with that clause. -/
theorem free_of_mem_expandClause {Free : φ → μ → Prop} {Indep : μ → μ → Prop}
    (hstep : ∀ f m m', Free f m' → Indep m m' → ∀ f' ∈ refine f m, Free f' m')
    {combos : List φ} {clause : List μ} {m' : μ} (hcombos : ∀ f ∈ combos, Free f m')
    (hclause : ∀ m ∈ clause, Indep m m') :
    ∀ f' ∈ expandClause refine combos clause, Free f' m' := by
  intro f' hf'
  obtain ⟨f, hf, hf'⟩ := List.mem_flatMap.1 hf'
  obtain ⟨m, hm, hf'⟩ := List.mem_flatMap.1 hf'
  exact hstep f m m' (hcombos f hf) (hclause m hm) f' hf'

/-- **Expansion is correct on independent clauses.** -/
theorem any_expand (sat : φ → Bool) (holds : μ → Bool) (Free : φ → μ → Prop)
    (Indep : μ → μ → Prop)
    (hrefine : ∀ f m, Free f m → (refine f m).any sat = (sat f && holds m))
    (hstep : ∀ f m m', Free f m' → Indep m m' → ∀ f' ∈ refine f m, Free f' m')
    {init : φ} (hinit : ∀ m, Free init m) {clauses : List (List μ)}
    (hclauses : clauses.Pairwise fun c c' ↦ ∀ m ∈ c, ∀ m' ∈ c', Indep m m') :
    (expand refine init clauses).any sat = (sat init && clauses.all (·.any holds)) := by
  -- the loop invariant: every alternative still to come is free in every combination
  suffices h : ∀ combos : List φ, (∀ c ∈ clauses, ∀ m ∈ c, ∀ f ∈ combos, Free f m) →
      (clauses.foldl (expandClause refine) combos).any sat =
        (combos.any sat && clauses.all (·.any holds)) by
    simpa [expand] using h [init] fun c _ m _ f hf ↦ List.mem_singleton.1 hf ▸ hinit m
  induction clauses with
  | nil => simp
  | cons c clauses ih =>
    obtain ⟨hc, hclauses⟩ := List.pairwise_cons.1 hclauses
    intro combos hfree
    have hnext : ∀ c' ∈ clauses, ∀ m' ∈ c', ∀ f ∈ expandClause refine combos c, Free f m' :=
      fun c' hc' m' hm' ↦ free_of_mem_expandClause hstep
        (hfree c' (List.mem_cons_of_mem _ hc') m' hm') fun m hm ↦ hc c' hc' m hm m' hm'
    rw [List.foldl_cons, ih hclauses _ hnext, List.all_cons, ← Bool.and_assoc,
      any_expandClause hrefine fun f hf m hm ↦ hfree c List.mem_cons_self m hm f hf]

/-- What holds of the first combination and is kept by every refinement holds of all of them. -/
theorem forall_mem_expand {P : φ → Prop} {init : φ} {clauses : List (List μ)} (hinit : P init)
    (hrefine : ∀ f m, P f → ∀ f' ∈ refine f m, P f') :
    ∀ f ∈ expand refine init clauses, P f := by
  suffices h : ∀ combos : List φ, (∀ f ∈ combos, P f) →
      ∀ f ∈ clauses.foldl (expandClause refine) combos, P f from
    h [init] fun f hf ↦ List.mem_singleton.1 hf ▸ hinit
  induction clauses with
  | nil => exact fun combos hcombos ↦ hcombos
  | cons clause clauses ih =>
    intro combos hcombos
    refine ih _ fun f hf ↦ ?_
    obtain ⟨f₀, hf₀, hf⟩ := List.mem_flatMap.1 hf
    obtain ⟨m, -, hf⟩ := List.mem_flatMap.1 hf
    exact hrefine f₀ m (hcombos f₀ hf₀) f hf

end Expansion
