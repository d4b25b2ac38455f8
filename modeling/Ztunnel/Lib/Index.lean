import Mathlib.Data.List.AList
import Mathlib.Data.List.Count
import Mathlib.Logic.Function.Iterate

/-!
# Loops over the keys of an index

An index is a function from keys to what is held under them; what an index without a key holds, it
holds under the other keys (`update_none_eq_some`, and for finite maps `lookup_erase_eq_some` and
`lookup_insert_eq_some`). A loop over a list of keys that changes the value under each key by one
function `g` changes the value under a key as often as the key is in the list
(`foldl_update_apply`); if `g` is idempotent, or constant, once is as good as often.

A state that is not a function can be looked at key by key. An operation on one key is *local* if it
changes what is seen under its own key only; a loop of local operations over different keys does to
each key what its own operation does (`foldl_view`).
-/

namespace Index

variable {α β : Type*} [DecidableEq α]

/-- What is held without a key. -/
theorem update_none_eq_some {f : α → Option β} {a x : α} {b : β} :
    Function.update f a none x = some b ↔ x ≠ a ∧ f x = some b := by
  by_cases h : x = a
  · subst h
    simp
  · rw [Function.update_of_ne h, and_iff_right h]

theorem lookup_erase_eq_some {s : AList fun _ : α ↦ β} {a x : α} {b : β} :
    (s.erase a).lookup x = some b ↔ x ≠ a ∧ s.lookup x = some b := by
  by_cases h : x = a
  · subst h
    simp
  · rw [AList.lookup_erase_ne h, and_iff_right h]

theorem lookup_insert_eq_some {s : AList fun _ : α ↦ β} {a x : α} {b c : β} :
    (s.insert a c).lookup x = some b ↔ x = a ∧ c = b ∨ x ≠ a ∧ s.lookup x = some b := by
  by_cases h : x = a
  · subst h
    rw [AList.lookup_insert, Option.some_inj]
    simp
  · rw [AList.lookup_insert_ne h]
    simp [h]

theorem foldl_update_apply (g : β → β) (keys : List α) (f : α → β) (x : α) :
    keys.foldl (fun f a ↦ Function.update f a (g (f a))) f x = g^[keys.count x] (f x) := by
  induction keys generalizing f with
  | nil => rfl
  | cons a keys ih =>
    rw [List.foldl_cons, ih]
    by_cases h : a = x
    · subst h
      rw [Function.update_self, List.count_cons_self, Function.iterate_succ_apply]
    · rw [Function.update_of_ne (Ne.symm h), List.count_cons_of_ne h]

theorem foldl_update_of_idem {g : β → β} (hg : ∀ b, g (g b) = g b) (keys : List α) (f : α → β)
    (x : α) :
    keys.foldl (fun f a ↦ Function.update f a (g (f a))) f x =
      if x ∈ keys then g (f x) else f x := by
  have hiterate : ∀ n b, g^[n + 1] b = g b := by
    intro n
    induction n with
    | zero => exact fun _ ↦ rfl
    | succ n ih => exact fun b ↦ (ih (g b)).trans (hg b)
  rw [foldl_update_apply]
  split
  · next hmem =>
    obtain ⟨n, hn⟩ := Nat.exists_eq_add_of_lt (List.count_pos_iff.2 hmem)
    rw [hn, Nat.zero_add, hiterate]
  · next hmem => rw [List.count_eq_zero_of_not_mem hmem, Function.iterate_zero_apply]

theorem foldl_update_const (b : β) (keys : List α) (f : α → β) (x : α) :
    keys.foldl (fun f a ↦ Function.update f a b) f x = if x ∈ keys then b else f x :=
  foldl_update_of_idem (g := fun _ ↦ b) (fun _ ↦ rfl) keys f x

/-- A loop of local operations over different keys. -/
theorem foldl_view {σ : Type*} {view : σ → α → β} {op : σ → α → σ} {g : α → β → β}
    (hself : ∀ s a, view (op s a) a = g a (view s a))
    (hother : ∀ s a x, x ≠ a → view (op s a) x = view s x) {keys : List α} (hkeys : keys.Nodup)
    (s : σ) (x : α) :
    view (keys.foldl op s) x = if x ∈ keys then g x (view s x) else view s x := by
  induction keys generalizing s with
  | nil => rfl
  | cons a keys ih =>
    obtain ⟨ha, hrest⟩ := List.nodup_cons.1 hkeys
    rw [List.foldl_cons, ih hrest]
    by_cases h : x = a
    · subst h
      rw [if_neg ha, if_pos List.mem_cons_self, hself]
    · rw [hother s a x h]
      simp only [List.mem_cons, h, false_or]

end Index
