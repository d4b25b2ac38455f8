import Mathlib.Data.List.Basic

/-!
# Resumable machines

A machine is fed its input in pieces and works off what it holds in turns. A turn waits for more
input, or emits outputs and goes on, or fails. What a turn does once it does something may not
depend on the input that is still to come (`Machine.turn_feed`), and every turn that goes on uses
up some of what is held (`Machine.size_lt`).

* `Machine.drain` takes turns until the machine waits or fails, and `Machine.push` feeds one piece
  and drains;
* `pushAll` is the caller's loop: one push for each piece, up to the first that fails;
* `Machine.pushAll_flatten` is the rule: the loop over the pieces of an input comes to the same as
  one push of the whole, so that it does not matter how the input was cut.
-/

namespace Resumable

variable {B S O E : Type*}

/-- What a machine does next with the input it holds. -/
inductive Turn (S O E : Type*) where
  | wait
  | emit (outputs : List O) (next : S)
  | fail (error : E) (next : S)

/-- The state a turn leads to, if it does something. -/
def Turn.next : Turn S O E → Option S
  | .wait => none
  | .emit _ t => some t
  | .fail _ t => some t

/-- The same turn, with the state it leads to changed. -/
def Turn.map (f : S → S) : Turn S O E → Turn S O E
  | .wait => .wait
  | .emit os t => .emit os (f t)
  | .fail e t => .fail e (f t)

/-- What a push comes to: its outputs, its error if it failed, and the state it leaves. -/
structure Outcome (S O E : Type*) where
  outputs : List O
  error : Option E
  state : S

/-- A later outcome, with the outputs that came before it. -/
def Outcome.after (outputs : List O) (o : Outcome S O E) : Outcome S O E :=
  { o with outputs := outputs ++ o.outputs }

theorem Outcome.after_after (os os' : List O) (o : Outcome S O E) :
    (o.after os').after os = o.after (os ++ os') :=
  congrArg (fun outputs ↦ Outcome.mk outputs o.error o.state) (List.append_assoc ..).symm

/-- A machine with states `S`, fed with lists over `B`. -/
structure Machine (B S O E : Type*) where
  turn : S → Turn S O E
  feed : S → List B → S
  size : S → ℕ
  feed_nil : ∀ s, feed s [] = s
  feed_append : ∀ s xs ys, feed s (xs ++ ys) = feed (feed s xs) ys
  turn_feed : ∀ s xs, turn s ≠ .wait → turn (feed s xs) = (turn s).map fun t ↦ feed t xs
  size_lt : ∀ {s os t}, turn s = .emit os t → size t < size s

namespace Machine

variable (m : Machine B S O E)

/-- Takes turns until the machine waits or fails. -/
def drain (s : S) : Outcome S O E :=
  match _h : m.turn s with
  | .wait => ⟨[], none, s⟩
  | .emit os t => (drain t).after os
  | .fail e t => ⟨[], some e, t⟩
termination_by m.size s
decreasing_by exact m.size_lt _h

/-- Feeds a piece of input and works it off. -/
def push (s : S) (xs : List B) : Outcome S O E :=
  m.drain (m.feed s xs)

variable {m} {s t : S} {os : List O} {e : E}

theorem drain_of_wait (h : m.turn s = .wait) : m.drain s = ⟨[], none, s⟩ := by
  rw [drain]
  split <;> simp_all

theorem drain_of_emit (h : m.turn s = .emit os t) : m.drain s = (m.drain t).after os := by
  rw [drain]
  split <;> simp_all

theorem drain_of_fail (h : m.turn s = .fail e t) : m.drain s = ⟨[], some e, t⟩ := by
  rw [drain]
  split <;> simp_all

theorem emit_feed (h : m.turn s = .emit os t) (xs : List B) :
    m.turn (m.feed s xs) = .emit os (m.feed t xs) := by
  rw [m.turn_feed s xs (by simp [h]), h]
  rfl

theorem fail_feed (h : m.turn s = .fail e t) (xs : List B) :
    m.turn (m.feed s xs) = .fail e (m.feed t xs) := by
  rw [m.turn_feed s xs (by simp [h]), h]
  rfl

/-- **Induction over the turns of a drain.** -/
theorem turn_induction {P : S → Prop} (wait : ∀ s, m.turn s = .wait → P s)
    (emit : ∀ s os t, m.turn s = .emit os t → P t → P s)
    (fail : ∀ s e t, m.turn s = .fail e t → P s) (s : S) : P s := by
  induction hn : m.size s using Nat.strongRecOn generalizing s with
  | ind n ih =>
    rcases h : m.turn s with - | ⟨os, t⟩ | ⟨e, t⟩
    · exact wait s h
    · exact emit s os t h (ih (m.size t) (hn ▸ m.size_lt h) t rfl)
    · exact fail s e t h

/-- A drain that does not fail ends where the machine waits. -/
theorem turn_drain (s : S) : (m.drain s).error = none → m.turn (m.drain s).state = .wait := by
  induction s using turn_induction (m := m) with
  | wait s h =>
    rw [drain_of_wait h]
    exact fun _ ↦ h
  | emit s os t h ih =>
    rw [drain_of_emit h]
    exact ih
  | fail s e t h =>
    rw [drain_of_fail h]
    exact fun hnone ↦ nomatch hnone

/-- **What the turns preserve** holds at the end of a drain. -/
theorem drain_preserves {P : S → Prop} (next : ∀ s t, (m.turn s).next = some t → P s → P t)
    (s : S) (hs : P s) : P (m.drain s).state := by
  induction s using turn_induction (m := m) with
  | wait s h =>
    rw [drain_of_wait h]
    exact hs
  | emit s os t h ih =>
    rw [drain_of_emit h]
    exact ih (next s t (by rw [h]; rfl) hs)
  | fail s e t h =>
    rw [drain_of_fail h]
    exact next s t (by rw [h]; rfl) hs

/-- **Input that comes while a drain goes on** changes nothing of what the drain does: it is there
when the drain has come to its end. -/
theorem drain_feed (s : S) (xs : List B) :
    m.drain (m.feed s xs) =
      match (m.drain s).error with
      | none => (m.push (m.drain s).state xs).after (m.drain s).outputs
      | some e => ⟨(m.drain s).outputs, some e, m.feed (m.drain s).state xs⟩ := by
  induction s using turn_induction (m := m) with
  | wait s h =>
    rw [drain_of_wait h]
    rfl
  | emit s os t h ih =>
    rw [drain_of_emit h, drain_of_emit (emit_feed h xs), ih]
    show Outcome.after os _ = match (m.drain t).error with | none => _ | some e => _
    split
    · exact Outcome.after_after ..
    · rfl
  | fail s e t h =>
    rw [drain_of_fail h, drain_of_fail (fail_feed h xs)]

end Machine

/-! ### The caller's loop -/

/-- What a loop of pushes comes to. The outputs of a push that fails are `lost`: the caller has got
those of the pushes before it. -/
@[ext]
structure Report (S O E : Type*) where
  delivered : List O
  lost : List O
  error : Option E
  state : S

/-- Pushes one piece after another, up to the first push that fails. -/
def pushAll (push : S → List B → Outcome S O E) : S → List (List B) → Report S O E
  | s, [] => ⟨[], [], none, s⟩
  | s, xs :: chunks =>
    let o := push s xs
    match o.error with
    | some e => ⟨[], o.outputs, some e, o.state⟩
    | none =>
      let r := pushAll push o.state chunks
      { r with delivered := o.outputs ++ r.delivered }

theorem pushAll_lost (push : S → List B → Outcome S O E) (s : S) (chunks : List (List B)) :
    (pushAll push s chunks).error = none → (pushAll push s chunks).lost = [] := by
  induction chunks generalizing s with
  | nil => exact fun _ ↦ rfl
  | cons xs chunks ih =>
    rw [pushAll]
    rcases (push s xs).error with - | e
    · exact ih _
    · exact fun hnone ↦ nomatch hnone

/-- What the pushes preserve holds at the end of the loop. -/
theorem pushAll_preserves {push : S → List B → Outcome S O E} {P : S → Prop}
    (hpush : ∀ s xs, P s → P (push s xs).state) {s : S} (hs : P s) {chunks : List (List B)} :
    P (pushAll push s chunks).state := by
  induction chunks generalizing s with
  | nil => exact hs
  | cons xs chunks ih =>
    rw [pushAll]
    rcases (push s xs).error with - | e
    · exact ih (hpush s xs hs)
    · exact hpush s xs hs

namespace Machine

variable {m : Machine B S O E}

/-- **The loop over the pieces is one push of the whole.** It comes to the same outputs and the same
error; if the loop stopped early, the whole push also holds the `rest`, which was not read. -/
theorem pushAll_flatten (chunks : List (List B)) {s : S} (hs : m.turn s = .wait) :
    ∃ rest, m.push s chunks.flatten =
        ⟨(pushAll m.push s chunks).delivered ++ (pushAll m.push s chunks).lost,
          (pushAll m.push s chunks).error, m.feed (pushAll m.push s chunks).state rest⟩ ∧
      ((pushAll m.push s chunks).error = none → rest = []) := by
  induction chunks generalizing s with
  | nil =>
    refine ⟨[], ?_, fun _ ↦ rfl⟩
    rw [push, List.flatten_nil, m.feed_nil, drain_of_wait hs, pushAll, m.feed_nil]
    rfl
  | cons xs chunks ih =>
    have hwhole : m.push s (xs :: chunks).flatten =
        m.drain (m.feed (m.feed s xs) chunks.flatten) := by
      rw [push, List.flatten_cons, m.feed_append]
    rw [hwhole, drain_feed]
    rcases herror : (m.drain (m.feed s xs)).error with - | e
    · -- the first push went well: the machine waits, and the loop goes on from there
      obtain ⟨rest, heq, hrest⟩ := ih (turn_drain _ herror)
      have hloop : pushAll m.push s (xs :: chunks) =
          { pushAll m.push (m.drain (m.feed s xs)).state chunks with
            delivered := (m.drain (m.feed s xs)).outputs ++
              (pushAll m.push (m.drain (m.feed s xs)).state chunks).delivered } := by
        rw [pushAll]
        simp only [push, herror]
      rw [hloop]
      refine ⟨rest, ?_, hrest⟩
      show Outcome.after _ (m.push _ chunks.flatten) = _
      rw [heq]
      exact congrArg (fun outputs ↦ Outcome.mk outputs _ _) (List.append_assoc ..).symm
    · have hloop : pushAll m.push s (xs :: chunks) =
          ⟨[], (m.drain (m.feed s xs)).outputs, some e, (m.drain (m.feed s xs)).state⟩ := by
        rw [pushAll]
        simp only [push, herror]
      rw [hloop]
      exact ⟨chunks.flatten, rfl, fun hnone ↦ nomatch hnone⟩

/-- **How the input is cut makes no difference** to the outputs, those of the failing push included,
to the error, and, if there is none, to the state. -/
theorem pushAll_congr {chunks chunks' : List (List B)} (h : chunks.flatten = chunks'.flatten)
    {s : S} (hs : m.turn s = .wait) :
    (pushAll m.push s chunks).delivered ++ (pushAll m.push s chunks).lost =
        (pushAll m.push s chunks').delivered ++ (pushAll m.push s chunks').lost ∧
      (pushAll m.push s chunks).error = (pushAll m.push s chunks').error ∧
      ((pushAll m.push s chunks).error = none →
        pushAll m.push s chunks = pushAll m.push s chunks') := by
  obtain ⟨rest, heq, hrest⟩ := pushAll_flatten chunks hs
  obtain ⟨rest', heq', hrest'⟩ := pushAll_flatten chunks' hs
  rw [h, heq', Outcome.mk.injEq] at heq
  obtain ⟨houtputs, herror, hstate⟩ := heq
  refine ⟨houtputs.symm, herror.symm, fun hnone ↦ ?_⟩
  obtain rfl := hrest hnone
  obtain rfl := hrest' (herror.trans hnone)
  have hlost := pushAll_lost m.push s chunks hnone
  have hlost' := pushAll_lost m.push s chunks' (herror.trans hnone)
  rw [m.feed_nil, m.feed_nil] at hstate
  rw [hlost, hlost', List.append_nil, List.append_nil] at houtputs
  exact Report.ext houtputs.symm (hlost.trans hlost'.symm) herror.symm hstate.symm

end Machine

end Resumable
