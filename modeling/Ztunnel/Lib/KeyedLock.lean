import Mathlib.Data.List.Basic
import Mathlib.Data.List.Nodup

/-!
# Tasks that share keyed locks

A system of tasks is the list of their states, and a step of one task sets its entry. The tasks
share a table with a lock for each key, which is entered the first time it is wanted and stays
there. Locks are fair: the tasks that want a lock stand in line for it, the first one owns it, and
when that one leaves, the lock is handed over to the next one, which may not know of it yet.

`Step` is what a task's step can do to the table, where `holds` reads off a task's state which lock
it knows to be its own, and `wants` which lock it has or stands in line for. `Consistent` says that
the table and the tasks agree. It is kept by every step (`Consistent.step`); and a lock that has an
owner has one after a step, unless the task leaves that stands in line alone (`Step.owned`).
-/

/-- A lock for each key: none yet, or the tasks in line for it, the owner first. -/
abbrev LockMap (K : Type*) := K → Option (List ℕ)

/-- What holds of every task after one of them has moved. -/
theorem List.forall_getElem?_set {T : Type*} {tasks : List T} {P : ℕ → T → Prop} {i : ℕ} {t : T}
    (hother : ∀ j u, tasks[j]? = some u → j ≠ i → P j u) (hself : P i t) :
    ∀ j u, (tasks.set i t)[j]? = some u → P j u := by
  intro j u hj
  by_cases h : j = i
  · subst h
    obtain ⟨hlt, -⟩ := List.getElem?_eq_some_iff.1 hj
    rw [List.length_set] at hlt
    rw [List.getElem?_set_self hlt] at hj
    exact Option.some.inj hj ▸ hself
  · rw [List.getElem?_set_ne (Ne.symm h)] at hj
    exact hother j u hj h

/-- What holds of every task after a new one has come. -/
theorem List.forall_getElem?_concat {T : Type*} {tasks : List T} {P : ℕ → T → Prop} {t : T}
    (hold : ∀ j u, tasks[j]? = some u → P j u) (hnew : P tasks.length t) :
    ∀ j u, (tasks ++ [t])[j]? = some u → P j u := by
  intro j u hj
  rcases Nat.lt_trichotomy j tasks.length with hlt | rfl | hgt
  · rw [List.getElem?_append_left hlt] at hj
    exact hold j u hj
  · rw [List.getElem?_concat_length] at hj
    exact Option.some.inj hj ▸ hnew
  · rw [List.getElem?_eq_none (by simp; omega)] at hj
    cases hj

/-- How many tasks meet a condition after one of them has moved. -/
theorem List.countP_set_add {T : Type*} {tasks : List T} {i : ℕ} {t : T} (h : tasks[i]? = some t)
    (q : T → Bool) (u : T) :
    (tasks.set i u).countP q + (q t).toNat = tasks.countP q + (q u).toNat := by
  obtain ⟨hlt, rfl⟩ := List.getElem?_eq_some_iff.1 h
  have hpos : q tasks[i] = true → 0 < tasks.countP q := fun hq ↦
    List.countP_pos_iff.2 ⟨tasks[i], List.getElem_mem hlt, hq⟩
  rw [List.countP_set hlt]
  cases hq : q tasks[i] with
  | false => cases q u <;> simp
  | true =>
    have := hpos hq
    cases q u <;> simp <;> omega

namespace LockMap

variable {K T : Type*}

/-- The tasks in line for the lock of a key. -/
def line (locks : LockMap K) (k : K) : List ℕ := (locks k).getD []

/-- The task that a lock belongs to. -/
def owner (locks : LockMap K) (k : K) : Option ℕ := (locks.line k).head?

/-! ### Tables that agree with the tasks -/

/-- The table and the tasks agree: who stands in line for a lock wants it, once, and who holds a
lock is its owner. -/
structure Consistent (locks : LockMap K) (tasks : List T) (holds wants : T → Option K) : Prop where
  nodup : ∀ k, (locks.line k).Nodup
  wants : ∀ k, ∀ i ∈ locks.line k, ∃ t, tasks[i]? = some t ∧ wants t = some k
  holds : ∀ (i : ℕ) t, tasks[i]? = some t → ∀ k, holds t = some k → locks.owner k = some i

namespace Consistent

variable {locks locks' : LockMap K} {tasks : List T} {holds wants : T → Option K} {i : ℕ}
  {t u : T} {k : K}

/-- Who stands in line wants no other lock. -/
theorem eq_of_mem_line (h : Consistent locks tasks holds wants) (ht : tasks[i]? = some t)
    (hi : i ∈ locks.line k) : wants t = some k := by
  obtain ⟨t', ht', hwants⟩ := h.wants k i hi
  cases ht.symm.trans ht'
  exact hwants

/-- A step of one task, which keeps the others where they stand in line. -/
theorem moved (h : Consistent locks tasks holds wants) (ht : tasks[i]? = some t)
    (hnodup : ∀ k, (locks'.line k).Nodup)
    (hothers : ∀ k, ∀ j ∈ locks'.line k, j ≠ i → j ∈ locks.line k)
    (hself : ∀ k, i ∈ locks'.line k → wants u = some k)
    (howners : ∀ k j, j ≠ i → locks.owner k = some j → locks'.owner k = some j)
    (hholds : ∀ k, holds u = some k → locks'.owner k = some i) :
    Consistent locks' (tasks.set i u) holds wants where
  nodup := hnodup
  wants k j hj := by
    by_cases hji : j = i
    · subst hji
      exact ⟨u, List.getElem?_set_self (List.getElem?_eq_some_iff.1 ht).1, hself k hj⟩
    · rw [List.getElem?_set_ne (Ne.symm hji)]
      exact h.wants k j (hothers k j hj hji)
  holds := List.forall_getElem?_set
    (fun j v hv hji k hk ↦ howners k j hji (h.holds j v hv k hk)) hholds

theorem append (h : Consistent locks tasks holds wants) (hholds : holds u = none) :
    Consistent locks (tasks ++ [u]) holds wants where
  nodup := h.nodup
  wants k i hi := by
    obtain ⟨t, ht, hwants⟩ := h.wants k i hi
    rw [List.getElem?_append_left (List.getElem?_eq_some_iff.1 ht).1]
    exact ⟨t, ht, hwants⟩
  holds := List.forall_getElem?_concat h.holds fun k hk ↦ by
    cases hholds.symm.trans hk

end Consistent

/-! ### The operations -/

variable [DecidableEq K]

/-- The lock of the key is entered, and is free if there was none. -/
def insert (locks : LockMap K) (k : K) : LockMap K :=
  Function.update locks k (some (locks.line k))

/-- The task goes to the end of the line. -/
def join (locks : LockMap K) (k : K) (i : ℕ) : LockMap K :=
  Function.update locks k (some (locks.line k ++ [i]))

/-- The task leaves the line: it gives the lock back, or no longer waits for it. -/
def leave (locks : LockMap K) (k : K) (i : ℕ) : LockMap K :=
  Function.update locks k ((locks k).map (·.erase i))

theorem line_insert (locks : LockMap K) (k x : K) : (locks.insert k).line x = locks.line x := by
  by_cases h : x = k
  · subst h
    rw [line, insert, Function.update_self, Option.getD_some]
  · rw [line, insert, Function.update_of_ne h, line]

theorem line_join (locks : LockMap K) (k x : K) (i : ℕ) :
    (locks.join k i).line x = if x = k then locks.line k ++ [i] else locks.line x := by
  by_cases h : x = k
  · subst h
    rw [line, join, Function.update_self, Option.getD_some, if_pos rfl]
  · rw [line, join, Function.update_of_ne h, if_neg h, line]

theorem line_leave (locks : LockMap K) (k x : K) (i : ℕ) :
    (locks.leave k i).line x = if x = k then (locks.line k).erase i else locks.line x := by
  by_cases h : x = k
  · subst h
    rw [line, leave, Function.update_self, if_pos rfl, line]
    cases locks x <;> rfl
  · rw [line, leave, Function.update_of_ne h, if_neg h, line]

/-- What a step of the task `i` from `t` to `u` can do to the table. -/
inductive Step (holds wants : T → Option K) (locks : LockMap K) (i : ℕ) (t u : T) :
    LockMap K → Prop
  | keep (hholds : holds u = holds t) (hwants : wants u = wants t ∨ wants t = none) :
    Step holds wants locks i t u locks
  | insert (k : K) (hholds : holds u = holds t) (hwants : wants u = wants t) :
    Step holds wants locks i t u (locks.insert k)
  /-- The task gets in line, and has the lock if it is free. -/
  | join (k : K) (hline : i ∉ locks.line k) (hbefore : ∀ x ∈ wants t, x = k)
    (hwants : wants u = some k) (hholds : ∀ x ∈ holds u, x = k ∧ locks.line k = []) :
    Step holds wants locks i t u (locks.join k i)
  /-- The task finds that the lock has been handed over to it. -/
  | grant (k : K) (howner : locks.owner k = some i) (hwants : wants u = wants t)
    (hholds : holds u = some k) : Step holds wants locks i t u locks
  | leave (k : K) (hbefore : wants t = some k) (hwants : wants u = none) (hholds : holds u = none) :
    Step holds wants locks i t u (locks.leave k i)

namespace Step

variable {holds wants : T → Option K} {locks locks' : LockMap K} {i : ℕ} {t u : T} {x : K}

theorem isSome (h : Step holds wants locks i t u locks') (hx : (locks x).isSome) :
    (locks' x).isSome := by
  cases h with
  | keep | grant => exact hx
  | insert k | join k =>
    by_cases hk : x = k
    · subst hk
      simp [LockMap.insert, LockMap.join]
    · simpa [LockMap.insert, LockMap.join, Function.update_of_ne hk] using hx
  | leave k =>
    by_cases hk : x = k
    · subst hk
      simpa [LockMap.leave] using hx
    · simpa [LockMap.leave, Function.update_of_ne hk] using hx

/-- A lock that has an owner has one afterwards, unless the task that leaves is alone in line. -/
theorem owned (h : Step holds wants locks i t u locks') (hx : locks.line x ≠ []) :
    locks'.line x ≠ [] ∨ locks.line x = [i] ∧ wants t = some x ∧ wants u = none := by
  cases h with
  | keep | grant => exact .inl hx
  | insert k => exact .inl (line_insert locks k x ▸ hx)
  | join k =>
    left
    rw [line_join]
    split_ifs
    · exact List.append_ne_nil_of_right_ne_nil _ (List.cons_ne_nil i [])
    · exact hx
  | leave k hbefore hwants =>
    rw [line_leave]
    split_ifs with hk
    · subst hk
      by_cases halone : locks.line x = [i]
      · exact .inr ⟨halone, hbefore, hwants⟩
      · left
        rw [Ne, List.erase_eq_nil_iff]
        exact not_or.2 ⟨hx, halone⟩
    · exact .inl hx

end Step

namespace Consistent

variable {locks locks' : LockMap K} {tasks : List T} {holds wants : T → Option K} {i : ℕ}
  {t u : T}

theorem step (h : Consistent locks tasks holds wants) (ht : tasks[i]? = some t)
    (hstep : Step holds wants locks i t u locks') :
    Consistent locks' (tasks.set i u) holds wants := by
  have hkept : wants u = wants t ∨ wants t = none → ∀ k, i ∈ locks.line k → wants u = some k := by
    rintro hsame k hi
    have hwants := h.eq_of_mem_line ht hi
    obtain heq | hnone := hsame
    · exact heq.trans hwants
    · cases hnone.symm.trans hwants
  cases hstep with
  | keep hholds hwants =>
    exact h.moved ht h.nodup (fun _ _ hj _ ↦ hj) (hkept hwants) (fun _ _ _ hj ↦ hj)
      fun k hk ↦ h.holds i t ht k (hholds.symm.trans hk)
  | grant k howner hwants hholds =>
    refine h.moved ht h.nodup (fun _ _ hj _ ↦ hj) (hkept (.inl hwants)) (fun _ _ _ hj ↦ hj) ?_
    intro x hx
    cases hholds.symm.trans hx
    exact howner
  | insert k hholds hwants =>
    have howner (x : K) : (locks.insert k).owner x = locks.owner x :=
      congrArg List.head? (line_insert locks k x)
    refine h.moved ht ?_ ?_ ?_ ?_ ?_
    · exact fun x ↦ line_insert locks k x ▸ h.nodup x
    · exact fun x j hj _ ↦ line_insert locks k x ▸ hj
    · exact fun x hi ↦ hkept (.inl hwants) x (line_insert locks k x ▸ hi)
    · exact fun x j _ hj ↦ (howner x).trans hj
    · exact fun x hx ↦ (howner x).trans (h.holds i t ht x (hholds.symm.trans hx))
  | join k hline hbefore hwants hholds =>
    refine h.moved ht ?_ ?_ ?_ ?_ ?_
    · intro x
      rw [line_join]
      split_ifs
      · exact List.nodup_append'.2 ⟨h.nodup k, List.nodup_singleton i,
          List.disjoint_singleton.2 hline⟩
      · exact h.nodup x
    · intro x j hj hji
      rw [line_join] at hj
      split_ifs at hj with hx
      · obtain hj | hj := List.mem_append.1 hj
        · exact hx ▸ hj
        · exact absurd (List.mem_singleton.1 hj) hji
      · exact hj
    · intro x hi
      rw [line_join] at hi
      split_ifs at hi with hx
      · exact hx ▸ hwants
      · exact absurd (hbefore x (h.eq_of_mem_line ht hi)) hx
    · intro x j _ hj
      rw [owner, line_join]
      split_ifs with hx
      · subst hx
        rw [List.head?_append]
        exact Option.or_eq_some_iff.2 (.inl hj)
      · exact hj
    · intro x hx
      obtain ⟨rfl, hempty⟩ := hholds x hx
      rw [owner, line_join, if_pos rfl, hempty]
      rfl
  | leave k hbefore hwants hholds =>
    refine h.moved ht ?_ ?_ ?_ ?_ ?_
    · intro x
      rw [line_leave]
      split_ifs
      · exact (h.nodup k).erase i
      · exact h.nodup x
    · intro x j hj _
      rw [line_leave] at hj
      split_ifs at hj with hx
      · exact hx ▸ List.mem_of_mem_erase hj
      · exact hj
    · intro x hi
      rw [line_leave] at hi
      split_ifs at hi with hx
      · exact absurd rfl ((h.nodup k).mem_erase_iff.1 hi).1
      · cases hbefore.symm.trans (h.eq_of_mem_line ht hi)
        exact absurd rfl hx
    · intro x j hji hj
      rw [owner, line_leave]
      split_ifs with hx
      · subst hx
        obtain ⟨rest, hrest⟩ := List.head?_eq_some_iff.1 hj
        rw [hrest, List.erase_cons_tail (by simpa using hji)]
        rfl
      · exact hj
    · intro x hx
      cases hholds.symm.trans hx

end Consistent

end LockMap
