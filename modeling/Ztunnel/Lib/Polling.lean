import Mathlib.Data.Nat.Find
import Mathlib.Order.WellFounded

/-!
# Polling

A poll of a task or a device has a result or asks to be polled again.

* `drive poll n s` polls a task until it has a result, at most `n` times;
* `drive_induction` is the invariant rule: what a pending poll preserves holds while the task waits,
  and the result meets what a poll that has one gives;
* `Fair answers` is a device that is not pending for ever, and `delay` the number of polls up to its
  next answer, which a pending poll lowers;
* `exists_drive_ready` is the rule for completion: a task has a result at some time if every pending
  poll lowers a measure.

Completion is a statement about the devices of a task: the measure is made of what is left to do and
of their delays.
-/

namespace Polling

/-- The outcome of a poll. -/
inductive Poll (α : Type*) where
  | pending
  | ready (a : α)
  deriving DecidableEq

section Drive

variable {S R : Type*} {poll : S → Poll R × S}

/-- Polls until there is a result, at most a given number of times. -/
def drive (poll : S → Poll R × S) : ℕ → S → Poll R × S
  | 0, s => (.pending, s)
  | n + 1, s =>
    match poll s with
    | (.pending, s') => drive poll n s'
    | (.ready r, s') => (.ready r, s')

theorem drive_succ_of_pending {s s' : S} (h : poll s = (.pending, s')) (n : ℕ) :
    drive poll (n + 1) s = drive poll n s' := by
  rw [drive, h]

theorem drive_succ_of_ready {s s' : S} {r : R} (h : poll s = (.ready r, s')) (n : ℕ) :
    drive poll (n + 1) s = (.ready r, s') := by
  rw [drive, h]

variable {I : S → Prop} {Q : R → S → Prop}

/-- **The invariant rule.** -/
theorem drive_induction (hpending : ∀ s s', I s → poll s = (.pending, s') → I s')
    (hready : ∀ s r s', I s → poll s = (.ready r, s') → Q r s') (n : ℕ) {s : S} (hs : I s) :
    (∀ s', drive poll n s = (.pending, s') → I s') ∧
      ∀ r s', drive poll n s = (.ready r, s') → Q r s' := by
  induction n generalizing s with
  | zero =>
    refine ⟨fun s' h ↦ ?_, fun r s' h ↦ ?_⟩
    · cases h
      exact hs
    · cases h
  | succ n ih =>
    rcases h : poll s with ⟨- | r, s'⟩
    · rw [drive_succ_of_pending h]
      exact ih (hpending s s' hs h)
    · rw [drive_succ_of_ready h]
      refine ⟨fun t ht ↦ ?_, fun r' t ht ↦ ?_⟩
      · cases ht
      · cases ht
        exact hready s _ _ hs h

/-- **The rule for completion.** -/
theorem exists_drive_ready {M : Type*} [LT M] [WellFoundedLT M] (measure : S → M)
    (hpending : ∀ s s', I s → poll s = (.pending, s') → I s' ∧ measure s' < measure s) {s : S}
    (hs : I s) : ∃ n r s', drive poll n s = (.ready r, s') := by
  induction h : measure s using WellFoundedLT.induction generalizing s with
  | ind m ih =>
    rcases hpoll : poll s with ⟨- | r, s'⟩
    · obtain ⟨hs', hlt⟩ := hpending s s' hs hpoll
      obtain ⟨n, r, t, ht⟩ := ih (measure s') (h ▸ hlt) hs' rfl
      exact ⟨n + 1, r, t, by rw [drive_succ_of_pending hpoll, ht]⟩
    · exact ⟨1, r, s', drive_succ_of_ready hpoll 0⟩

end Drive

section Fair

variable {α : Type*} {answers : ℕ → Poll α}

/-- The device is not pending for ever. -/
def Fair (answers : ℕ → Poll α) : Prop := ∀ n, ∃ k, answers (n + k) ≠ .pending

open Classical in
/-- The number of polls up to the next answer. -/
noncomputable def delay (h : Fair answers) (n : ℕ) : ℕ := Nat.find (h n)

theorem delay_succ_lt (h : Fair answers) {n : ℕ} (hn : answers n = .pending) :
    delay h (n + 1) < delay h n := by
  classical
  have hspec : answers (n + delay h n) ≠ .pending := Nat.find_spec (h n)
  obtain hzero | ⟨k, hk⟩ : delay h n = 0 ∨ ∃ k, delay h n = k + 1 :=
    (Nat.eq_zero_or_eq_succ_pred _).imp_right fun h ↦ ⟨_, h⟩
  · rw [hzero] at hspec
    exact absurd hn hspec
  · rw [hk, ← Nat.add_assoc, Nat.add_right_comm] at hspec
    rw [hk]
    exact Nat.lt_succ_of_le (Nat.find_min' (h (n + 1)) hspec)

end Fair

end Polling
