import Mathlib.Data.List.Nodup
import Mathlib.Data.List.Pairwise

/-!
# Members listed in the order of their binding

Every member is bound to at most one target at a time, and a target keeps the list of the members
bound to it. A member whose binding changes leaves the list of the old target and goes to the end of
the list of the new one; one that is bound again where it already was stays in place.

* `History` remembers, from the assignments alone, what each member is bound to and since when;
* `move` is what an assignment does to the lists;
* `Sound` says that the lists hold exactly the bound members, the longest bound first, and
  `Sound.assign` that an assignment keeps it so.
-/

namespace BindingOrder

variable {α β : Type*}

/-- What each member is bound to, the number of assignments before that binding began, and the
number of assignments so far. -/
structure History (α β : Type*) where
  bound : α → Option β
  since : α → ℕ
  now : ℕ

/-- Nothing has been bound yet. -/
def History.start : History α β := ⟨fun _ ↦ none, fun _ ↦ 0, 0⟩

section Assign

variable [DecidableEq α] [DecidableEq β]

/-- The member `a` gets the binding `target`. The binding begins now only if it is a new one. -/
def History.assign (h : History α β) (a : α) (target : Option β) : History α β where
  bound := Function.update h.bound a target
  since := if h.bound a = target then h.since else Function.update h.since a h.now
  now := h.now + 1

/-- The lists after the binding of `a` goes from `old` to `new`. -/
def move (lists : β → List α) (old new : Option β) (a : α) (b : β) : List α :=
  if old = new then lists b
  else if old = some b then (lists b).filter (· != a)
  else if new = some b then lists b ++ [a]
  else lists b

end Assign

/-- The lists hold the bound members, in the order in which their bindings began. -/
structure Sound (h : History α β) (lists : β → List α) : Prop where
  mem_iff : ∀ {a b}, a ∈ lists b ↔ h.bound a = some b
  ordered : ∀ b, (lists b).Pairwise fun a a' ↦ h.since a < h.since a'
  since_lt : ∀ {a b}, h.bound a = some b → h.since a < h.now

theorem Sound.start : Sound (History.start : History α β) fun _ ↦ [] where
  mem_iff := by simp [History.start]
  ordered _ := List.Pairwise.nil
  since_lt hbound := by simp [History.start] at hbound

namespace Sound

variable {h : History α β} {lists : β → List α}

/-- A list ordered by strictly increasing times has no duplicate. -/
theorem nodup (hsound : Sound h lists) (b : β) : (lists b).Nodup :=
  (hsound.ordered b).imp fun hlt heq ↦ Nat.ne_of_lt hlt (congrArg h.since heq)

variable [DecidableEq α] [DecidableEq β]

/-- A member is in the list of its target once, and in no other. -/
theorem count_eq (hsound : Sound h lists) (a : α) (b : β) :
    (lists b).count a = if h.bound a = some b then 1 else 0 := by
  split
  next hbound => exact List.count_eq_one_of_mem (hsound.nodup b) (hsound.mem_iff.2 hbound)
  next hbound => exact List.count_eq_zero.2 fun hmem ↦ hbound (hsound.mem_iff.1 hmem)

/-- The order of a list of other members does not depend on the time of `a`. -/
theorem ordered_update {l : List α} {since : α → ℕ} {a : α} {n : ℕ} (ha : a ∉ l)
    (hord : l.Pairwise fun x y ↦ since x < since y) :
    l.Pairwise fun x y ↦ Function.update since a n x < Function.update since a n y := by
  refine hord.imp_of_mem fun {x y} hx hy hlt ↦ ?_
  rwa [Function.update_of_ne (ne_of_mem_of_not_mem hx ha),
    Function.update_of_ne (ne_of_mem_of_not_mem hy ha)]

/-- **Assignments keep the lists sound.** -/
theorem assign (hsound : Sound h lists) (a : α) (target : Option β) :
    Sound (h.assign a target) (move lists (h.bound a) target a) := by
  by_cases hsame : h.bound a = target
  · -- the binding stays: neither the lists nor the times change
    have hbound : Function.update h.bound a target = h.bound := by
      rw [← hsame, Function.update_eq_self]
    refine ⟨fun {x b} ↦ ?_, fun b ↦ ?_, fun {x b} hx ↦ ?_⟩
    · simpa [move, History.assign, hsame, hbound] using hsound.mem_iff
    · simpa [move, History.assign, hsame] using hsound.ordered b
    · simp only [History.assign, hbound, if_pos hsame] at hx ⊢
      exact Nat.lt_succ_of_lt (hsound.since_lt hx)
  refine ⟨fun {x b} ↦ ?_, fun b ↦ ?_, fun {x b} hx ↦ ?_⟩
  · show x ∈ move lists (h.bound a) target a b ↔ Function.update h.bound a target x = some b
    rw [move, if_neg hsame]
    rcases eq_or_ne x a with rfl | hx
    · rw [Function.update_self]
      split
      next hold =>
        have hnew : target ≠ some b := fun hnew ↦ hsame (hold.trans hnew.symm)
        simp [hnew]
      next hold =>
        have hout : x ∉ lists b := fun hmem ↦ hold (hsound.mem_iff.1 hmem)
        split <;> simp_all
    · rw [Function.update_of_ne hx]
      split
      · simp [hx, hsound.mem_iff]
      · split <;> simp [hx, hsound.mem_iff]
  · show (move lists (h.bound a) target a b).Pairwise fun x y ↦
      (h.assign a target).since x < (h.assign a target).since y
    simp only [History.assign, if_neg hsame, move]
    split
    next hold => exact ordered_update (by simp) ((hsound.ordered b).filter _)
    next hold =>
      have hout : a ∉ lists b := fun hmem ↦ hold (hsound.mem_iff.1 hmem)
      have hrest := ordered_update (n := h.now) hout (hsound.ordered b)
      split
      next hnew =>
        -- every other member of the list was bound before now
        refine List.pairwise_append.2 ⟨hrest, List.pairwise_singleton _ _, fun x hx y hy ↦ ?_⟩
        obtain rfl := List.mem_singleton.1 hy
        rw [Function.update_self, Function.update_of_ne (ne_of_mem_of_not_mem hx hout)]
        exact hsound.since_lt (hsound.mem_iff.1 hx)
      next hnew => exact hrest
  · simp only [History.assign, if_neg hsame] at hx ⊢
    rcases eq_or_ne x a with rfl | hne
    · rw [Function.update_self]
      exact Nat.lt_succ_self _
    · rw [Function.update_of_ne hne] at hx ⊢
      exact Nat.lt_succ_of_lt (hsound.since_lt hx)

end Sound

end BindingOrder
