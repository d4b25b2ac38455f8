import Ztunnel.Identity.Retention

/-!
# The order of the refresh queue

`Worker::run` sleeps until the time of the item at the top of its queue, and the queue goes by
priority before time. An item of a high priority in the future would keep everything behind it from
being fetched, however long it has been due. That does not happen, and not because of the order but
because of what is pushed: a request is queued for the present, and only a refresh, which has the
lowest priority, for a time to come. So at any moment an item that is not in the background is due
(`Prompt`), and if any item is due then the top is (`due_of_top`).

A queued identity is pushed again when a client asks for it with more urgency, or at the end of a
fetch. `push_increase` keeps the better of the two places, so it goes up or stays (`Keeps`): its
priority does not fall, what it was ahead of it stays ahead of, and it is not due later than it
would have been. A due item that is given a higher priority has the present for its new time, which
is later than its old time but not later than now.
-/

namespace Ztunnel.Manager

open Ztunnel.Rbac SecretManager Transition

variable {E B : Type} {cfg : SecretManagerConfig B} {m m' : SecretManager E B} {e : Event E}

/-! ### The order -/

/-- The place of a priority, from the lowest. -/
def Priority.rank : Priority → ℕ
  | .background => 0
  | .warmup => 1
  | .realTime => 2

theorem Priority.compare_eq (a b : Priority) : compare a b = compare a.rank b.rank := by
  cases a <;> cases b <;> rfl

namespace PendingPriority

variable {a b c : PendingPriority}

theorem cmp_eq_gt : a.cmp b = .gt ↔ b.priority.rank < a.priority.rank ∨
    a.priority.rank = b.priority.rank ∧ a.time < b.time := by
  rw [cmp, Priority.compare_eq]
  obtain hlt | heq | hgt := lt_trichotomy a.priority.rank b.priority.rank
  · rw [compare_lt_iff_lt.2 hlt]
    exact iff_of_false Ordering.noConfusion (by omega)
  · rw [compare_eq_iff_eq.2 heq]
    dsimp only
    rw [compare_gt_iff_gt]
    omega
  · rw [compare_gt_iff_gt.2 hgt]
    exact iff_of_true rfl (.inl hgt)

/-- Of a list of items one is not behind any other. -/
theorem exists_first {items : List PendingPriority} (hne : items ≠ []) :
    ∃ p ∈ items, ∀ q ∈ items, q.cmp p ≠ .gt := by
  induction items with
  | nil => exact absurd rfl hne
  | cons a items ih =>
    have hself : a.cmp a ≠ .gt := by
      rw [Ne, cmp_eq_gt]
      omega
    by_cases hnil : items = []
    · subst hnil
      exact ⟨a, List.mem_cons_self, List.forall_mem_singleton.2 hself⟩
    · obtain ⟨p, hp, hfirst⟩ := ih hnil
      by_cases hap : a.cmp p = .gt
      · refine ⟨a, List.mem_cons_self, List.forall_mem_cons.2 ⟨hself, fun q hq ↦ ?_⟩⟩
        have hqp := hfirst q hq
        rw [cmp_eq_gt] at hap
        rw [Ne, cmp_eq_gt] at hqp ⊢
        omega
      · exact ⟨p, List.mem_cons_of_mem a hp, List.forall_mem_cons.2 ⟨hap, hfirst⟩⟩

/-- The place `p'` is as good as `p` at a time: the priority is no lower, nothing comes in between,
and the item is not due later, unless it is due already. -/
structure Keeps (now : ℤ) (p p' : PendingPriority) : Prop where
  priority : p.priority.rank ≤ p'.priority.rank
  ahead : ∀ q : PendingPriority, p.cmp q = .gt → p'.cmp q = .gt
  notBehind : ∀ q : PendingPriority, q.cmp p ≠ .gt → q.cmp p' ≠ .gt
  due : p'.time ≤ max p.time now

theorem Keeps.refl (now : ℤ) (p : PendingPriority) : p.Keeps now p where
  priority := Nat.le_refl _
  ahead _ h := h
  notBehind _ h := h
  due := le_max_left _ _

/-- A better place, for the present or in the background. -/
theorem Keeps.of_cmp_eq_gt {now : ℤ} {p p' : PendingPriority} (h : p'.cmp p = .gt)
    (htime : p'.time ≤ now ∨ p'.priority = .background) : p.Keeps now p' := by
  rw [cmp_eq_gt] at h
  refine ⟨by omega, fun q hq ↦ ?_, fun q hq ↦ ?_, ?_⟩
  · rw [cmp_eq_gt] at hq ⊢
    omega
  · rw [Ne, cmp_eq_gt] at hq ⊢
    omega
  · obtain htime | hbackground := htime
    · exact le_max_of_le_right htime
    · have hrank : p'.priority.rank = 0 := by rw [hbackground]; rfl
      exact le_max_of_le_left (by omega)

end PendingPriority

/-! ### The queue -/

section Queue

variable {kp : Queue} {key id : Identity} {new p p' : PendingPriority}

theorem top_eq_some : kp.top id = some p ↔
    kp.lookup id = some p ∧ ∀ id' q, kp.lookup id' = some q → q.cmp p ≠ .gt := by
  rw [Queue.top, Option.filter_eq_some_iff, List.all_eq_true]
  refine and_congr_right fun _ ↦ ⟨fun h id' q hq ↦ ?_, fun h entry hentry ↦ ?_⟩
  · exact of_decide_eq_true (h ⟨id', q⟩ (AList.mem_lookup_iff.1 hq))
  · exact decide_eq_true (h entry.1 entry.2 (AList.mem_lookup_iff.2 hentry))

/-- Some item of a queue that is not empty can be at the top. -/
theorem exists_top (hp : kp.lookup id = some p) : ∃ id' q, kp.top id' = some q := by
  have hmem := AList.mem_lookup_iff.1 hp
  obtain ⟨q, hq, hfirst⟩ := PendingPriority.exists_first
    (List.ne_nil_of_mem (List.mem_map_of_mem (f := Sigma.snd) hmem))
  obtain ⟨⟨id', q⟩, hentry, rfl⟩ := List.mem_map.1 hq
  refine ⟨id', q, top_eq_some.2 ⟨AList.mem_lookup_iff.2 hentry, fun j r hr ↦ ?_⟩⟩
  exact hfirst r (List.mem_map_of_mem (AList.mem_lookup_iff.1 hr))

/-- An item of the queue after a push was there before, or is the one that was pushed, ahead of the
place its key had. -/
theorem lookup_pushIncrease (h : (pushIncrease kp key new).lookup id = some p) :
    kp.lookup id = some p ∨
      id = key ∧ p = new ∧ ∀ old, kp.lookup key = some old → new.cmp old = .gt := by
  unfold pushIncrease at h
  split at h
  · next hall =>
    obtain ⟨rfl, rfl⟩ | ⟨-, hold⟩ := Index.lookup_insert_eq_some.1 h
    · refine .inr ⟨rfl, rfl, fun old hold ↦ ?_⟩
      rw [hold] at hall
      exact of_decide_eq_true hall
    · exact .inl hold
  · exact .inl h

end Queue

/-! ### What a step does to the queue -/

/-- An item of the queue after a step was there before, or has been pushed, for the present or in
the background, ahead of the place its identity had. -/
theorem pending_of_stepped (h : Stepped cfg m e m') {id : Identity} {p' : PendingPriority}
    (hp' : m'.pending.lookup id = some p') :
    m.pending.lookup id = some p' ∨
      (∀ p, m.pending.lookup id = some p → p'.cmp p = .gt) ∧
        (p'.time ≤ m.clock ∨ p'.priority = .background) := by
  cases h with
  | queued key pri hphase hnone =>
    obtain hold | ⟨rfl, rfl, hahead⟩ := lookup_pushIncrease hp'
    · exact .inl hold
    · exact .inr ⟨hahead, .inl (le_refl _)⟩
  | requeued key refreshAt hphase =>
    obtain hold | ⟨rfl, rfl, hahead⟩ := lookup_pushIncrease hp'
    · exact .inl hold
    · exact .inr ⟨hahead, .inr rfl⟩
  | unqueued key hphase hnone | started key p hphase htop hroom hdue =>
    exact .inl (Index.lookup_erase_eq_some.1 hp').2
  | _ => exact .inl hp'

/-- An item leaves the queue when its fetch starts or its identity is forgotten. -/
theorem leaves_of_stepped (h : Stepped cfg m e m') {id : Identity} (hid : id ∈ m.pending)
    (hnot : id ∉ m'.pending) : e = .start id ∨ m.phase = .checked (.forget id) false := by
  cases h with
  | queued key pri hphase hnone | requeued key refreshAt hphase =>
    exact absurd (mem_pushIncrease.2 (.inr hid)) hnot
  | unqueued key hphase hnone =>
    obtain rfl : id = key := by
      by_contra hne
      exact hnot (AList.mem_erase.2 ⟨hne, hid⟩)
    exact .inr hphase
  | started key p hphase htop hroom hdue =>
    obtain rfl : id = key := by
      by_contra hne
      exact hnot (AList.mem_erase.2 ⟨hne, hid⟩)
    exact .inl rfl
  | _ => exact absurd hid hnot

/-! ### Nothing urgent is in the future -/

/-- The items that are not in the background are due. -/
def Prompt (m : SecretManager E B) : Prop :=
  ∀ id p, m.pending.lookup id = some p → p.priority ≠ .background → p.time ≤ m.clock

theorem Prompt.step (h : Prompt m) (hstep : Stepped cfg m e m') : Prompt m' := by
  intro id p hp hurgent
  refine le_trans ?_ hstep.clock_le
  obtain hold | ⟨-, hdue | hbackground⟩ := pending_of_stepped hstep hp
  · exact h id p hold hurgent
  · exact hdue
  · exact absurd hbackground hurgent

theorem prompt_of_run {clock : ℤ} {events : List (Event E)}
    (hrun : run (SecretManager.step cfg) (.new clock) events = some m) : Prompt m := by
  refine run_induction (I := Prompt) hrun ?_ fun e _ m m' hm hstep ↦ ?_
  · intro id p hp
    cases hp
  · exact hm.step (stepped_of_step hstep)

/-- **If an item is due, the top is.** -/
theorem Prompt.due_of_top (h : Prompt m) {id id' : Identity} {p q : PendingPriority}
    (hp : m.pending.lookup id = some p) (hdue : p.time ≤ m.clock)
    (htop : m.pending.top id' = some q) : q.time ≤ m.clock := by
  obtain ⟨hq, hfirst⟩ := top_eq_some.1 htop
  by_cases hurgent : q.priority = .background
  · have hpq := hfirst id p hp
    have hrank : q.priority.rank = 0 := by rw [hurgent]; rfl
    rw [Ne, PendingPriority.cmp_eq_gt] at hpq
    omega
  · exact h id' q hq hurgent

/-- **The order of the refresh queue**: whenever an item is due there is a top and every top is due,
and a step keeps the place of a queued identity or improves it, unless the identity leaves the queue
because its fetch starts or it is forgotten. -/
theorem refresh_queue_order {clock : ℤ} {events : List (Event E)}
    (hrun : run (SecretManager.step cfg) (.new clock) events = some m) :
    (∀ id p, m.pending.lookup id = some p → p.time ≤ m.clock →
      (∃ id' q, m.pending.top id' = some q) ∧
        ∀ id' q, m.pending.top id' = some q → q.time ≤ m.clock) ∧
    (∀ e m' id p, m.step cfg e = some m' → m.pending.lookup id = some p →
      (∃ p', m'.pending.lookup id = some p' ∧ p.Keeps m.clock p') ∨
        id ∉ m'.pending ∧ (e = .start id ∨ m.phase = .checked (.forget id) false)) := by
  refine ⟨fun id p hp hdue ↦ ⟨exists_top hp, fun id' q htop ↦ ?_⟩, ?_⟩
  · exact (prompt_of_run hrun).due_of_top hp hdue htop
  · intro e m' id p hstep hp
    have hstepped := stepped_of_step hstep
    cases hp' : m'.pending.lookup id with
    | none =>
      have hnot : id ∉ m'.pending := AList.lookup_eq_none.1 hp'
      have hid : id ∈ m.pending := AList.lookup_isSome.1 (hp ▸ rfl)
      exact .inr ⟨hnot, leaves_of_stepped hstepped hid hnot⟩
    | some p' =>
      refine .inl ⟨p', rfl, ?_⟩
      obtain hold | ⟨hahead, htime⟩ := pending_of_stepped hstepped hp'
      · obtain rfl := Option.some.inj (hp.symm.trans hold)
        exact .refl m.clock p
      · exact .of_cmp_eq_gt (hahead p hp) htime

/-- An identity is queued to be warmed up, and a client that waits for it asks again. -/
def bumpedRun : List (Event Unit) :=
  .startFetch sampleId .warmup :: delivery ++
    [.startFetch sampleId .realTime, .goOn 0, .goOn 0, .recv, .hasId]

theorem refresh_queue_order_bumpedRun :
    ∃ m m', run (step sampleConfig) (new 0) bumpedRun = some m ∧
      m.step sampleConfig .handle = some m' ∧
      m.pending.lookup sampleId = some ⟨.warmup, 0⟩ ∧
      (∃ p', m'.pending.lookup sampleId = some p' ∧ PendingPriority.Keeps 0 ⟨.warmup, 0⟩ p') ∧
      ∃ id q, m.pending.top id = some q ∧ q.time ≤ 0 := by
  have hrun : (run (step sampleConfig) (new 0) bumpedRun).any (fun m ↦
      decide (m.pending.lookup sampleId = some ⟨.warmup, 0⟩ ∧ m.clock = 0) &&
        (m.step sampleConfig .handle).any fun m' ↦ decide (sampleId ∈ m'.pending)) = true := by
    decide
  obtain ⟨m, hm, hfinal⟩ := (Option.any_eq_true _ _).1 hrun
  obtain ⟨hbefore, hafter⟩ := Bool.and_eq_true_iff.1 hfinal
  obtain ⟨hlookup, hclock⟩ := of_decide_eq_true hbefore
  obtain ⟨m', hm', hmem⟩ := (Option.any_eq_true _ _).1 hafter
  obtain ⟨hdue, hkeeps⟩ := refresh_queue_order hm
  obtain ⟨⟨id, q, htop⟩, htops⟩ := hdue _ _ hlookup (le_of_eq hclock.symm)
  refine ⟨m, m', hm, hm', hlookup, ?_, id, q, htop, hclock ▸ htops id q htop⟩
  obtain hkept | ⟨hnot, -⟩ := hkeeps _ _ _ _ hm' hlookup
  · exact hclock ▸ hkept
  · exact absurd (of_decide_eq_true hmem) hnot

end Ztunnel.Manager
