import Mathlib.Data.Option.Basic
import Mathlib.Data.List.Induction

/-!
# Runs of executable transition systems

A transition system is a function `step : S → E → Option S`: in a state an event either happens,
with one resulting state, or is not possible. Nondeterminism is in the choice of events, so a run
is a list of events and a concrete run can be evaluated.

* `run step s es` is the state after the events `es`, if all of them are possible in turn;
* `restrict ok step` allows only the events that meet a condition on the state before them, so a run
  of it is a run every step of which meets the condition;
* `Throughout ok step s es` says the same of a run, with a condition that need not be decided;
* `run_induction` is the invariant rule, and `run_induction_past` the one for what also depends on
  the events so far;
* a system in which every event is possible is a function `S → E → S`, and its runs are left folds:
  `Along ok next s es` has every step of one meet a condition, and `foldl_induction` is its rule.
-/

namespace Transition

variable {S E : Type*} {step : S → E → Option S}

/-- The state after a list of events. -/
def run (step : S → E → Option S) : S → List E → Option S
  | s, [] => some s
  | s, e :: es => (step s e).bind fun s' ↦ run step s' es

/-- The events that meet `ok` in the state before them. -/
def restrict (ok : S → E → Prop) [∀ s e, Decidable (ok s e)] (step : S → E → Option S) (s : S)
    (e : E) : Option S :=
  if ok s e then step s e else none

@[simp]
theorem run_nil (s : S) : run step s [] = some s := rfl

theorem run_cons_eq_some {s t : S} {e : E} {es : List E} :
    run step s (e :: es) = some t ↔ ∃ s', step s e = some s' ∧ run step s' es = some t :=
  Option.bind_eq_some_iff

/-- **The invariant rule.** What the events of a run preserve holds at its end. -/
theorem run_induction {I : S → Prop} {es : List E} {s t : S} (hrun : run step s es = some t)
    (hinit : I s) (hstep : ∀ e ∈ es, ∀ s s', I s → step s e = some s' → I s') : I t := by
  induction es generalizing s with
  | nil =>
    rw [run_nil, Option.some.injEq] at hrun
    exact hrun ▸ hinit
  | cons e es ih =>
    obtain ⟨s', hs', hrest⟩ := run_cons_eq_some.1 hrun
    have hI : I s' := hstep e List.mem_cons_self s s' hinit hs'
    exact ih hrest hI fun e' he' ↦ hstep e' (List.mem_cons_of_mem e he')

/-- **A run that can be evaluated**: where a check of its end state succeeds, so does what follows
from the check. -/
theorem exists_run {P : S → Prop} {s : S} {es : List E} (check : S → Prop) [DecidablePred check]
    (hrun : (run step s es).any (fun t ↦ decide (check t)) = true)
    (h : ∀ t, run step s es = some t → check t → P t) : ∃ t, run step s es = some t ∧ P t := by
  obtain ⟨t, ht, hcheck⟩ := (Option.any_eq_true _ _).1 hrun
  exact ⟨t, ht, h t ht (of_decide_eq_true hcheck)⟩

theorem run_append {s : S} {es es' : List E} :
    run step s (es ++ es') = (run step s es).bind fun s' ↦ run step s' es' := by
  induction es generalizing s with
  | nil => rfl
  | cons e es ih =>
    simp only [List.cons_append, run, Option.bind_assoc, ih]

/-- **The invariant rule with a past.** What holds of the events so far and of the state they lead
to, at the start and after each further event, holds at the end of a run. -/
theorem run_induction_past {I : List E → S → Prop} {es : List E} {s t : S}
    (hrun : run step s es = some t) (hinit : I [] s)
    (hstep : ∀ past e s s', I past s → step s e = some s' → I (past ++ [e]) s') : I es t := by
  induction es using List.reverseRecOn generalizing t with
  | nil =>
    rw [run_nil, Option.some.injEq] at hrun
    exact hrun ▸ hinit
  | append_singleton past e ih =>
    rw [run_append] at hrun
    obtain ⟨s', hs', hlast⟩ := Option.bind_eq_some_iff.1 hrun
    obtain ⟨t', ht', hnil⟩ := run_cons_eq_some.1 hlast
    obtain rfl := Option.some.inj hnil
    exact hstep past e s' t' (ih hs') ht'

section Throughout

variable {ok : S → E → Prop} {s t : S}

/-- Every event of a run meets `ok` in the state before it. -/
def Throughout (ok : S → E → Prop) (step : S → E → Option S) (s : S) (es : List E) : Prop :=
  ∀ past e rest t, es = past ++ e :: rest → run step s past = some t → ok t e

theorem throughout_nil : Throughout ok step s [] := by
  intro past e rest t heq
  exact absurd heq.symm (List.append_ne_nil_of_right_ne_nil past (List.cons_ne_nil e rest))

/-- One more event. -/
theorem throughout_concat {past : List E} {e : E} (hrun : run step s past = some t) :
    Throughout ok step s (past ++ [e]) ↔ Throughout ok step s past ∧ ok t e := by
  constructor
  · intro h
    refine ⟨fun past' e' rest t' heq hrun' ↦ ?_, h past e [] t rfl hrun⟩
    exact h past' e' (rest ++ [e]) t' (by rw [heq, List.append_assoc, List.cons_append]) hrun'
  · rintro ⟨hpast, hlast⟩ past' e' rest t' heq hrun'
    obtain rfl | ⟨rest', e'', rfl⟩ := List.eq_nil_or_concat rest
    · obtain ⟨rfl, hcons⟩ := List.append_inj' heq rfl
      obtain ⟨rfl, -⟩ := List.cons.inj hcons
      rw [hrun] at hrun'
      cases hrun'
      exact hlast
    · rw [List.concat_eq_append, ← List.cons_append, ← List.append_assoc] at heq
      obtain ⟨rfl, -⟩ := List.append_inj' heq rfl
      exact hpast past' e' rest' t' rfl hrun'

end Throughout

section Restrict

variable {ok : S → E → Prop} [∀ s e, Decidable (ok s e)]

theorem restrict_eq_some {s s' : S} {e : E} :
    restrict ok step s e = some s' ↔ ok s e ∧ step s e = some s' := by
  unfold restrict
  split <;> simp_all

end Restrict

section Total

variable {next : S → E → S} {ok : S → E → Prop}

/-- Every event of a run meets `ok` in the state before it. -/
def Along (ok : S → E → Prop) (next : S → E → S) : S → List E → Prop
  | _, [] => True
  | s, e :: es => ok s e ∧ Along ok next (next s e) es

theorem along_true (s : S) (es : List E) : Along (fun _ _ ↦ True) next s es := by
  induction es generalizing s with
  | nil => trivial
  | cons e es ih => exact ⟨trivial, ih (next s e)⟩

/-- **The invariant rule for folds.** -/
theorem foldl_induction {I : S → Prop} {es : List E} {s : S} (hok : Along ok next s es)
    (hinit : I s) (hstep : ∀ s e, I s → ok s e → I (next s e)) : I (es.foldl next s) := by
  induction es generalizing s with
  | nil => exact hinit
  | cons e es ih => exact ih hok.2 (hstep s e hinit hok.1)

/-- The invariant rule for folds with a past. -/
theorem foldl_induction_past {I : List E → S → Prop} {es : List E} {s : S}
    (hok : Along ok next s es) (hinit : I [] s)
    (hstep : ∀ past s e, I past s → ok s e → I (past ++ [e]) (next s e)) :
    I es (es.foldl next s) := by
  suffices h : ∀ past s, Along ok next s es → I past s → I (past ++ es) (es.foldl next s) by
    simpa using h [] s hok hinit
  clear hok hinit
  induction es with
  | nil => simp
  | cons e es ih =>
    intro past s hok hpast
    have hrest := ih (past ++ [e]) (next s e) hok.2 (hstep past s e hpast hok.1)
    rwa [List.append_assoc] at hrest

end Total

end Transition
