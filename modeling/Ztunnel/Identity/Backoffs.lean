import Ztunnel.Identity.Bookkeeping

/-!
# The backoffs of failed fetches

The worker keeps an `ExponentialBackoff` for every identity whose last fetch failed, in
`pending_backoffs_by_id`. The map is touched where a result is recorded and nowhere else: a failure
stores the backoff with its next interval, and a success drops it. Giving an identity up takes it
out of `certs` and out of the queue, but not out of this map. So the entry stays for good, and if
the identity is managed again, even before the worker has handled its removal, its first failure is
followed by the interval that was next when it was given up (`forgotten_backoff_stays`).

Neither happens if an identity is given up only when its last result was not a failure, and no
failure is recorded of an identity that is not managed (`backoffs_released`). What is managed, given
up and recorded is written to a log beside the run.
-/

namespace Ztunnel.Manager

open Ztunnel.Rbac SecretManager Transition

/-! ### The log of a run -/

/-- What a log says: an identity becomes managed or is given up, or a result is recorded. -/
inductive Note where
  | managed (id : Identity)
  | forgotten (id : Identity)
  | result (id : Identity) (ok : Bool)
deriving DecidableEq, Repr

/-- The last result of an identity, after a note. -/
def Note.last (id : Identity) (last : Option Bool) : Note → Option Bool
  | .result i ok => if i = id then some ok else last
  | _ => last

/-- No result of an identity is recorded since it became managed, after a note. -/
def Note.untried (id : Identity) (untried : Bool) : Note → Bool
  | .managed i => if i = id then true else untried
  | .result i _ => if i = id then false else untried
  | .forgotten _ => untried

/-- The last recorded result of an identity. -/
def lastResult (log : List Note) (id : Identity) : Option Bool := log.foldl (Note.last id) none

/-- No result of the identity is recorded since it last became managed. -/
def untried (log : List Note) (id : Identity) : Bool := log.foldl (Note.untried id) true

variable {E B : Type} {cfg : SecretManagerConfig B} {m m' : SecretManager E B} {e : Event E}
  {log : List Note}

namespace SecretManager

/-- What an event writes to the log. A failure is recorded when the next attempt is timed; the
result of a fetch that has been given up is not recorded. -/
def noted (m : SecretManager E B) : Event E → Option Note
  | .startFetch id _ => if id ∈ m.certs then none else some (.managed id)
  | .forgetCertificate id => if id ∈ m.certs then some (.forgotten id) else none
  | .retry _ =>
    match m.phase with
    | .retrying id _ _ => some (.result id false)
    | _ => none
  | .complete id (.ok _) =>
    if m.processing.lookup id = some .processing then some (.result id true) else none
  | _ => none

/-- A step of the manager, with its log. -/
def loggedStep (cfg : SecretManagerConfig B) (s : SecretManager E B × List Note) (e : Event E) :
    Option (SecretManager E B × List Note) :=
  (s.1.step cfg e).map fun m' ↦ (m', s.2 ++ (s.1.noted e).toList)

/-- No identity is given up while its last result is a failure, and no failure is recorded of an
identity that is not managed. -/
def releases (s : SecretManager E B × List Note) (e : Event E) : Bool :=
  match s.1.noted e with
  | some (.forgotten id) => lastResult s.2 id ≠ some false
  | some (.result id false) => id ∈ s.1.certs
  | _ => true

end SecretManager

theorem notMem_of_noted {id : Identity} (h : m.noted e = some (.managed id)) : id ∉ m.certs := by
  cases e with
  | startFetch i pri =>
    obtain ⟨hnot, heq⟩ := Option.ite_none_left_eq_some.1 h
    cases heq
    exact hnot
  | forgetCertificate i => cases (Option.ite_none_right_eq_some.1 h).2
  | retry r =>
    rw [noted] at h
    split at h <;> cases h
  | complete i res =>
    cases res with
    | error err => cases h
    | ok cert => cases (Option.ite_none_right_eq_some.1 h).2
  | _ => cases h

/-! ### Released backoffs -/

/-- Backoffs are of managed identities, whose last result since they are managed is a failure. -/
structure Released (m : SecretManager E B) (log : List Note) : Prop where
  failed : ∀ id ∈ m.pendingBackoffsById, lastResult log id = some false
  managed : ∀ id ∈ m.pendingBackoffsById, id ∈ m.certs
  tried : ∀ id ∈ m.pendingBackoffsById, untried log id = false

namespace Released

theorem init (clock : ℤ) : Released (new clock : SecretManager E B) [] where
  failed id h := absurd h (AList.notMem_empty id)
  managed id h := absurd h (AList.notMem_empty id)
  tried id h := absurd h (AList.notMem_empty id)

/-- A result is written to the log. -/
theorem result (h : Released m log) {id : Identity} {ok : Bool} (hcerts : m'.certs = m.certs)
    (hmem : ∀ i ∈ m'.pendingBackoffsById, i ≠ id ∧ i ∈ m.pendingBackoffsById ∨
      i = id ∧ ok = false ∧ id ∈ m.certs) : Released m' (log ++ [.result id ok]) := by
  refine ⟨fun i hi ↦ ?_, fun i hi ↦ ?_, fun i hi ↦ ?_⟩
  · rw [lastResult, List.foldl_append]
    obtain ⟨hne, hold⟩ | ⟨rfl, rfl, -⟩ := hmem i hi
    · exact (if_neg (Ne.symm hne)).trans (h.failed i hold)
    · exact if_pos rfl
  · rw [hcerts]
    obtain ⟨-, hold⟩ | ⟨rfl, -, hmanaged⟩ := hmem i hi
    · exact h.managed i hold
    · exact hmanaged
  · rw [untried, List.foldl_append]
    obtain ⟨hne, hold⟩ | ⟨rfl, -, -⟩ := hmem i hi
    · exact (if_neg (Ne.symm hne)).trans (h.tried i hold)
    · exact if_pos rfl

/-- No result is written to the log. -/
theorem noResult (h : Released m log) (hsame : m'.pendingBackoffsById = m.pendingBackoffsById)
    (hcerts : ∀ id ∈ m.pendingBackoffsById, id ∈ m'.certs)
    (hnoted : ∀ id ok, m.noted e ≠ some (.result id ok)) :
    Released m' (log ++ (m.noted e).toList) := by
  -- an identity that becomes managed was not, so it has no backoff
  have hlog : ∀ id ∈ m.pendingBackoffsById,
      lastResult (log ++ (m.noted e).toList) id = lastResult log id ∧
      untried (log ++ (m.noted e).toList) id = untried log id := by
    intro id hid
    rw [lastResult, untried, List.foldl_append, List.foldl_append]
    cases hnote : m.noted e with
    | none => exact ⟨rfl, rfl⟩
    | some note =>
      cases note with
      | result i ok => exact absurd hnote (hnoted i ok)
      | forgotten i => exact ⟨rfl, rfl⟩
      | managed i =>
        have hne : i ≠ id := by
          rintro rfl
          exact notMem_of_noted hnote (h.managed i hid)
        exact ⟨rfl, if_neg hne⟩
  refine ⟨fun id hid ↦ ?_, fun id hid ↦ hcerts id (hsame ▸ hid), fun id hid ↦ ?_⟩
  · rw [hsame] at hid
    exact (hlog id hid).1.trans (h.failed id hid)
  · rw [hsame] at hid
    exact (hlog id hid).2.trans (h.tried id hid)

theorem stepped (h : Released m log) (hok : releases (m, log) e = true)
    (hstep : Stepped cfg m e m') : Released m' (log ++ (m.noted e).toList) := by
  cases hstep with
  | renewed i cert hphase hfetch hprocessing =>
    have hnoted : m.noted (.complete i (.ok cert)) = some (.result i true) := if_pos hprocessing
    rw [hnoted]
    exact h.result rfl fun id hid ↦ .inl (AList.mem_erase.1 hid)
  | retried i err existing r hphase =>
    have hnoted : m.noted (.retry r) = some (.result i false) := by
      rw [noted, hphase]
    rw [releases, hnoted] at hok
    rw [hnoted]
    refine h.result rfl fun id hid ↦ ?_
    by_cases hid' : id = i
    · exact .inr ⟨hid', rfl, of_decide_eq_true hok⟩
    · exact .inl ⟨hid', (AList.mem_insert _).1 hid |>.resolve_left hid'⟩
  | opened i pri hnot =>
    refine h.noResult rfl (fun id hid ↦ (AList.mem_insert _).2 (.inr (h.managed id hid))) ?_
    intro id ok
    rw [noted]
    split_ifs <;> simp
  | joined i pri rx | unknown i =>
    refine h.noResult rfl h.managed fun id ok ↦ ?_
    rw [noted]
    split_ifs <;> simp
  | forgotten i =>
    refine h.noResult rfl (fun id hid ↦ AList.mem_erase.2 ⟨?_, h.managed id hid⟩) ?_
    · rintro rfl
      rw [releases, noted, if_pos (h.managed id hid)] at hok
      exact of_decide_eq_true hok (h.failed id hid)
    · intro id ok
      rw [noted]
      split_ifs <;> simp
  | panicked i res hphase hfetch hnone =>
    refine h.noResult rfl h.managed fun id ok ↦ ?_
    cases res <;> simp [noted, hnone]
  | abandoned i res hphase hfetch hforgetting =>
    refine h.noResult rfl h.managed fun id ok ↦ ?_
    cases res <;> simp [noted, hforgetting]
  | _ => exact h.noResult rfl h.managed fun _ _ hnoted ↦ nomatch hnoted

end Released

/-- No request is undelivered or in hand, and no fetch is in flight. -/
structure Idle (m : SecretManager E B) : Prop where
  undelivered : m.undelivered = []
  request : m.phase.request = none
  fetches : m.fetches = []

/-- **Released backoffs**, if no identity is given up while its last result is a failure, and no
failure is recorded of an identity that is not managed: when the worker is idle, all backoffs are of
managed identities; and the first failure since an identity is managed is timed as if no backoff
were stored. -/
theorem backoffs_released {clock : ℤ} {events : List (Event E)}
    (hrun : run (restrict (fun s e ↦ releases s e = true) (loggedStep cfg))
      (new clock, []) events = some (m, log)) :
    (Idle m → ∀ id ∈ m.pendingBackoffsById, id ∈ m.certs) ∧
    ∀ id err existing, m.phase = .retrying id err existing → untried log id = true → ∀ r,
      (m.retry cfg id err existing r).phase =
        (retry cfg { m with pendingBackoffsById := ∅ } id err existing r).phase := by
  have hreleased : Released m log := by
    refine run_induction (I := fun s ↦ Released s.1 s.2) hrun (Released.init clock) ?_
    intro e _ s s' hs hstep
    obtain ⟨hok, hstep⟩ := restrict_eq_some.1 hstep
    obtain ⟨m', hm', rfl⟩ := Option.map_eq_some_iff.1 hstep
    exact hs.stepped hok (stepped_of_step hm')
  refine ⟨fun _ ↦ hreleased.managed, fun id err existing _ huntried r ↦ ?_⟩
  have hnone : m.pendingBackoffsById.lookup id = none := by
    refine AList.lookup_eq_none.2 fun hid ↦ ?_
    rw [hreleased.tried id hid] at huntried
    cases huntried
  simp only [retry, hnone, AList.lookup_empty]

/-- Every interval is twice the one before, from 1 on. -/
def doublingConfig : SecretManagerConfig ℕ :=
  ⟨⟨0, 0, fun _ ↦ true, fun _ ↦ true⟩, 1, Nat.one_pos, 1, fun interval _ ↦
    (some interval, 2 * interval)⟩

/-- A fetch fails, up to the timing of the next attempt. -/
def failure : List (Event Unit) := [.start sampleId, .complete sampleId (.error ()), .existing]

/-- An identity is asked for, its fetch fails, the failure is published, and the next attempt is
queued. -/
def failedRun : List (Event Unit) :=
  .startFetch sampleId .realTime :: delivery ++ failure ++ [.retry 0, .update, .requeue]

/-- The next attempt succeeds, the identity is given up and asked for again, and the fetch fails. -/
def renewedRun : List (Event Unit) :=
  failedRun ++ [.advance 1, .start sampleId, .complete sampleId (.ok ⟨0, 100⟩), .update, .requeue,
    .forgetCertificate sampleId] ++ delivery ++ .startFetch sampleId .realTime :: delivery ++
    failure

theorem backoffs_released_renewedRun :
    (∃ m log, run (restrict (fun s e ↦ releases s e = true)
        (loggedStep doublingConfig)) (new 0, []) failedRun = some (m, log) ∧ Idle m ∧
      sampleId ∈ m.pendingBackoffsById ∧ sampleId ∈ m.certs) ∧
    ∃ m log, run (restrict (fun s e ↦ releases s e = true)
        (loggedStep doublingConfig)) (new 0, []) renewedRun = some (m, log) ∧
      m.phase = .retrying sampleId () none ∧
      (m.retry doublingConfig sampleId () none 0).phase =
        (retry doublingConfig { m with pendingBackoffsById := ∅ } sampleId () none 0).phase := by
  have hfailed : (run (restrict (fun s e ↦ releases s e = true)
      (loggedStep doublingConfig)) (new 0, []) failedRun).any (fun s ↦
        decide ((s.1.undelivered = [] ∧ s.1.phase.request = none ∧ s.1.fetches = []) ∧
          sampleId ∈ s.1.pendingBackoffsById)) = true := by
    decide
  have hrenewed : (run (restrict (fun s e ↦ releases s e = true)
      (loggedStep doublingConfig)) (new 0, []) renewedRun).any (fun s ↦
        decide (s.1.phase = .retrying sampleId () none ∧ untried s.2 sampleId = true)) = true := by
    decide
  obtain ⟨⟨m, log⟩, hm, hfinal⟩ := (Option.any_eq_true _ _).1 hfailed
  obtain ⟨⟨hundelivered, hrequest, hfetches⟩, hbackoff⟩ := of_decide_eq_true hfinal
  have hidle : Idle m := ⟨hundelivered, hrequest, hfetches⟩
  obtain ⟨⟨m', log'⟩, hm', hfinal'⟩ := (Option.any_eq_true _ _).1 hrenewed
  obtain ⟨hphase, huntried⟩ := of_decide_eq_true hfinal'
  exact ⟨⟨m, log, hm, hidle, hbackoff, (backoffs_released hm).1 hidle sampleId hbackoff⟩,
    m', log', hm', hphase, (backoffs_released hm').2 _ _ _ hphase huntried 0⟩

/-- Then the identity is given up. -/
def forgottenRun : List (Event Unit) := failedRun ++ .forgetCertificate sampleId :: delivery

/-- The backoff of an identity that has been given up stays. If the identity is asked for again, the
next attempt after a failure is timed by it: at 2, where it was at 1 for the first time. This is so
too if the worker handles the removal after the identity is asked for again. -/
theorem forgotten_backoff_stays :
    (∃ m, run (step doublingConfig) (new 0) forgottenRun = some m ∧
      Idle m ∧ sampleId ∈ m.pendingBackoffsById ∧ sampleId ∉ m.certs) ∧
    (run (step doublingConfig) (new 0)
      (.startFetch sampleId .realTime :: delivery ++ failure ++ [.retry 0])).map
        SecretManager.phase = some (.updating sampleId (.unavailable ()) 1) ∧
    (run (step doublingConfig) (new 0)
      (forgottenRun ++ .startFetch sampleId .realTime :: delivery ++ failure ++ [.retry 0])).map
        SecretManager.phase = some (.updating sampleId (.unavailable ()) 2) ∧
    (run (step doublingConfig) (new 0)
      (failedRun ++ [.forgetCertificate sampleId, .startFetch sampleId .realTime] ++ delivery ++
        delivery ++ failure ++ [.retry 0])).map
        SecretManager.phase = some (.updating sampleId (.unavailable ()) 2) := by
  refine ⟨?_, by decide, by decide, by decide⟩
  refine exists_run (fun m ↦ (m.undelivered = [] ∧ m.phase.request = none ∧
    m.fetches = []) ∧ sampleId ∈ m.pendingBackoffsById ∧ sampleId ∉ m.certs) (by decide) ?_
  rintro m - ⟨⟨hundelivered, hrequest, hfetches⟩, hbackoff⟩
  exact ⟨⟨hundelivered, hrequest, hfetches⟩, hbackoff⟩

end Ztunnel.Manager
