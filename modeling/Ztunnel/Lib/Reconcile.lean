import Mathlib.Data.Set.Insert

/-!
# Change first, then notify; on a note, look again

Clients decide whether an item is wanted, and tell a worker by notes. A client first changes what is
wanted and only then sends a note that says so; notes of different clients may overtake one another.
The worker takes a note, looks up what is wanted now, and acts if the note says the same; else the
note is stale, and a later one is on its way.

The state is that of one item. No order of the notes is assumed: of those that are on their way only
what they say counts. The invariant `Sound` is that the worker disagrees with the clients only while
a note that puts it right is on its way or in the worker's hand; so when no note is left they agree
(`Sound.settled`).
-/

namespace Reconcile

/-- What the worker has in hand for the item: nothing, a note, or a note and what is wanted. -/
inductive Hand where
  | free
  | got (note : Bool)
  | looked (note found : Bool)
deriving DecidableEq, Repr

/-- One item. -/
structure Item where
  wanted : Bool
  /-- The worker works on the item. -/
  active : Bool
  /-- What the notes on their way say. -/
  notes : Set Bool
  hand : Hand

/-- A step of the clients or the worker. -/
inductive Move (s t : Item) : Prop
  | stay (hwanted : t.wanted = s.wanted) (hactive : t.active = s.active) (hhand : t.hand = s.hand)
    (hnotes : s.notes ⊆ t.notes)
  /-- A client changes what is wanted, and has a note to send. -/
  | change (hactive : t.active = s.active) (hhand : t.hand = s.hand) (hnotes : s.notes ⊆ t.notes)
    (hnote : t.wanted ∈ t.notes)
  | take (note : Bool) (hwanted : t.wanted = s.wanted) (hactive : t.active = s.active)
    (hbefore : s.hand = .free) (hafter : t.hand = .got note)
    (hnotes : ∀ b ∈ s.notes, b = note ∨ b ∈ t.notes)
  | look (note : Bool) (hwanted : t.wanted = s.wanted) (hactive : t.active = s.active)
    (hbefore : s.hand = .got note) (hafter : t.hand = .looked note s.wanted)
    (hnotes : s.notes ⊆ t.notes)
  | act (note found : Bool) (hwanted : t.wanted = s.wanted)
    (hactive : t.active = if note = found then found else s.active)
    (hbefore : s.hand = .looked note found) (hafter : t.hand = .free) (hnotes : s.notes ⊆ t.notes)
  /-- The worker finds on its own that the item is not wanted. -/
  | stop (hwanted : t.wanted = s.wanted) (hunwanted : s.wanted = false) (hactive : t.active = false)
    (hhand : t.hand = s.hand) (hnotes : s.notes ⊆ t.notes)

/-- A disagreement is about to be put right, and a note that has become stale has a successor. -/
structure Sound (s : Item) : Prop where
  owed : s.active ≠ s.wanted →
    s.wanted ∈ s.notes ∨ s.hand = .got s.wanted ∨ s.hand = .looked s.wanted s.wanted
  stale : ∀ note found, s.hand = .looked note found → found ≠ s.wanted → s.wanted ∈ s.notes

namespace Sound

variable {s t : Item}

/-- A step that keeps what the worker has in hand. -/
theorem of_hand (h : Sound s) (hwanted : t.wanted = s.wanted) (hhand : t.hand = s.hand)
    (hactive : t.active = s.active ∨ t.active = t.wanted) (hnotes : s.notes ⊆ t.notes) :
    Sound t := by
  refine ⟨fun hne ↦ ?_, fun note found hlooked hfound ↦ ?_⟩
  · obtain hsame | hright := hactive
    · rw [hsame, hwanted] at hne
      rw [hwanted, hhand]
      exact (h.owed hne).imp_left (hnotes ·)
    · exact absurd hright hne
  · rw [hhand] at hlooked
    rw [hwanted] at hfound ⊢
    exact hnotes (h.stale note found hlooked hfound)

theorem move (h : Sound s) (hmove : Move s t) : Sound t := by
  cases hmove with
  | stay hwanted hactive hhand hnotes => exact h.of_hand hwanted hhand (.inl hactive) hnotes
  | change hactive hhand hnotes hnote => exact ⟨fun _ ↦ .inl hnote, fun _ _ _ _ ↦ hnote⟩
  | take note hwanted hactive hbefore hafter hnotes =>
    refine ⟨fun hne ↦ ?_, fun _ _ hlooked ↦ ?_⟩
    · rw [hactive, hwanted] at hne
      rw [hwanted, hafter]
      obtain hnote | hgot | hlooked := h.owed hne
      · obtain rfl | hleft := hnotes _ hnote
        · exact .inr (.inl rfl)
        · exact .inl hleft
      · rw [hbefore] at hgot
        cases hgot
      · rw [hbefore] at hlooked
        cases hlooked
    · rw [hafter] at hlooked
      cases hlooked
  | look note hwanted hactive hbefore hafter hnotes =>
    refine ⟨fun hne ↦ ?_, fun note' found hlooked hfound ↦ ?_⟩
    · rw [hactive, hwanted] at hne
      rw [hwanted, hafter]
      obtain hnote | hgot | hlooked := h.owed hne
      · exact .inl (hnotes hnote)
      · rw [hbefore] at hgot
        cases hgot
        exact .inr (.inr rfl)
      · rw [hbefore] at hlooked
        cases hlooked
    · rw [hafter] at hlooked
      cases hlooked
      exact absurd hwanted.symm hfound
  | act note found hwanted hactive hbefore hafter hnotes =>
    refine ⟨fun hne ↦ ?_, fun _ _ hlooked ↦ ?_⟩
    · rw [hactive, hwanted] at hne
      rw [hwanted]
      left
      by_cases hfound : found = s.wanted
      · -- the note is not what is wanted, so the one that is owed is another
        have hnote : note ≠ found := fun heq ↦ hne (by rw [if_pos heq, hfound])
        rw [if_neg hnote] at hne
        obtain howed | hgot | hlooked := h.owed hne
        · exact hnotes howed
        · rw [hbefore] at hgot
          cases hgot
        · rw [hbefore] at hlooked
          cases hlooked
          exact absurd rfl hnote
      · exact hnotes (h.stale note found hbefore hfound)
    · rw [hafter] at hlooked
      cases hlooked
  | stop hwanted hunwanted hactive hhand hnotes =>
    exact h.of_hand hwanted hhand (.inr (by rw [hactive, hwanted, hunwanted])) hnotes

/-- When no note is left, the worker does what is wanted. -/
theorem settled (h : Sound s) (hhand : s.hand = .free) (hnotes : s.wanted ∉ s.notes) :
    s.active = s.wanted := by
  by_contra hne
  obtain hnote | hgot | hlooked := h.owed hne
  · exact hnotes hnote
  · rw [hhand] at hgot
    cases hgot
  · rw [hhand] at hlooked
    cases hlooked

end Sound

end Reconcile
