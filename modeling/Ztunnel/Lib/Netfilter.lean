import Ztunnel.Lib.DecisionList

/-!
# Packet filter chains

Chains of rules as netfilter walks them: a rule whose condition holds on the packet either decides
it (accept or reject), returns to the calling chain, or jumps to another chain, and the walk goes on
behind the jump if the called chain does not decide.

The walk of a chain ends in one of three ways (`Outcome`), which is what makes it compose along `++`
(`walk_append`). A chain without jumps is a decision list (`walk_eq_firstMatch`), and that is how a
block of rendered rules is evaluated; `chainVerdict` resolves jumps to a given depth.
-/

namespace Netfilter

open DecisionList

/-- A verdict that ends the evaluation of a packet. -/
inductive Verdict where
  | accept
  | reject
deriving DecidableEq, Repr

/-- What a rule does with a packet it holds on; `χ` names chains. -/
inductive Target (χ : Type*) where
  | accept
  | reject
  | ret
  | jump (chain : χ)
deriving DecidableEq, Repr

/-- How the walk of a chain ends: with a verdict, by a `return`, or behind the last rule. -/
inductive Outcome where
  | verdict (v : Verdict)
  | returned
  | passed
deriving DecidableEq, Repr

namespace Outcome

/-- The verdict, if there is one; both other outcomes resume in the calling chain. -/
def verdict? : Outcome → Option Verdict
  | verdict v => some v
  | returned => none
  | passed => none

/-- Continue with `o'` behind the last rule. -/
def andThen : Outcome → Outcome → Outcome
  | passed, o' => o'
  | o, _ => o

@[simp] theorem passed_andThen (o : Outcome) : passed.andThen o = o := rfl
@[simp] theorem returned_andThen (o : Outcome) : returned.andThen o = returned := rfl
@[simp] theorem verdict_andThen (v : Verdict) (o : Outcome) :
    (verdict v).andThen o = verdict v := rfl

theorem andThen_assoc (o₁ o₂ o₃ : Outcome) :
    (o₁.andThen o₂).andThen o₃ = o₁.andThen (o₂.andThen o₃) := by
  cases o₁ <;> rfl

end Outcome

/-- The outcome of a rule that holds, given the verdicts of the chains it may jump to. -/
def Target.outcome {χ : Type*} (call : χ → Option Verdict) : Target χ → Outcome
  | accept => .verdict .accept
  | reject => .verdict .reject
  | ret => .returned
  | jump c => match call c with
    | some v => .verdict v
    | none => .passed

section Walk

variable {ρ π χ : Type*} (holds : ρ → π → Bool) (target : ρ → Target χ) (call : χ → Option Verdict)

/-- Walk the rules of one chain in order. -/
def walk : List ρ → π → Outcome
  | [], _ => .passed
  | r :: rs, p =>
    if holds r p then ((target r).outcome call).andThen (walk rs p) else walk rs p

variable {holds target call} {p : π}

@[simp] theorem walk_nil : walk holds target call [] p = .passed := rfl

theorem walk_cons_of_holds {r : ρ} {rs : List ρ} (h : holds r p = true) :
    walk holds target call (r :: rs) p =
      ((target r).outcome call).andThen (walk holds target call rs p) := by
  rw [walk, if_pos h]

theorem walk_cons_of_not_holds {r : ρ} {rs : List ρ} (h : holds r p = false) :
    walk holds target call (r :: rs) p = walk holds target call rs p := by
  rw [walk, if_neg (by simp [h])]

/-- **The walk composes.** A concatenation is walked in its first part, and on behind it if that
ends behind its last rule. -/
theorem walk_append (rs₁ rs₂ : List ρ) :
    walk holds target call (rs₁ ++ rs₂) p =
      (walk holds target call rs₁ p).andThen (walk holds target call rs₂ p) := by
  induction rs₁ with
  | nil => rfl
  | cons r rs₁ ih =>
    rw [List.cons_append]
    rcases h : holds r p
    · rw [walk_cons_of_not_holds h, walk_cons_of_not_holds h, ih]
    · rw [walk_cons_of_holds h, walk_cons_of_holds h, ih, Outcome.andThen_assoc]

theorem walk_eq_passed {rs : List ρ} (h : ∀ r ∈ rs, holds r p = false) :
    walk holds target call rs p = .passed := by
  induction rs with
  | nil => rfl
  | cons r rs ih =>
    rw [walk_cons_of_not_holds (h r List.mem_cons_self)]
    exact ih fun r hr ↦ h r (List.mem_cons_of_mem _ hr)

/-- **A block without jumps is a decision list.** -/
theorem walk_eq_firstMatch {rs : List ρ} (h : ∀ r ∈ rs, ∀ c, target r ≠ .jump c) :
    walk holds target call rs p =
      ((firstMatch holds target rs p).map (Target.outcome call)).getD .passed := by
  induction rs with
  | nil => rfl
  | cons r rs ih =>
    have ih := ih fun r hr ↦ h r (List.mem_cons_of_mem _ hr)
    rw [firstMatch_cons]
    rcases hr : holds r p
    · rw [walk_cons_of_not_holds hr, ih]
      rfl
    · rw [walk_cons_of_holds hr, if_pos rfl]
      cases ht : target r with
      | accept => rfl
      | reject => rfl
      | ret => rfl
      | jump c => exact absurd ht (h r List.mem_cons_self c)

/-- The verdict of a chain, with jumps followed to the given depth. -/
def chainVerdict (holds : ρ → π → Bool) (target : ρ → Target χ) (chains : χ → List ρ) :
    ℕ → χ → π → Option Verdict
  | 0, _, _ => none
  | depth + 1, c, p =>
    (walk holds target (fun c' ↦ chainVerdict holds target chains depth c' p) (chains c) p).verdict?

end Walk

end Netfilter
