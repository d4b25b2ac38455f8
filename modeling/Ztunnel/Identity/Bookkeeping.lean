import Ztunnel.Identity.Manager
import Ztunnel.Lib.Reconcile

/-!
# The books of the certificate worker

What the worker has in flight, in its queue and in `processing` fit together (`Booked`): every fetch
in flight has its one entry in `processing`, and nothing is both queued and in flight. So the result
of a fetch always finds its entry, and the `unreachable!` is not reached.

Which identities the worker works on follows what the clients want by the pattern of `Reconcile`: a
client changes `certs` and then posts a request, and the worker looks at `certs` again before it
acts on one. For one identity a step of the manager is a `Reconcile.Move` of its `item`, so once all
requests have been handled the worker works on exactly the managed identities
(`worker_bookkeeping`), in whatever order they were delivered.
-/

namespace Ztunnel.Manager

open Ztunnel.Rbac SecretManager Transition

variable {E B : Type} {cfg : SecretManagerConfig B} {m m' : SecretManager E B} {e : Event E}
  {id : Identity}

/-! ### Fetches, queue and `processing` -/

/-- The worker is about to record the result of a fetch for the identity. -/
def Phase.completes : Phase E → Identity → Bool
  | .failed i _, id | .retrying i _ _, id | .updating i _ _, id | .requeueing i _, id => i = id
  | _, _ => false

theorem mem_pushIncrease {kp : Queue} {key : Identity} {p : PendingPriority} :
    id ∈ pushIncrease kp key p ↔ id = key ∨ id ∈ kp := by
  unfold pushIncrease
  split
  · exact AList.mem_insert kp
  · next hall =>
    refine ⟨.inr, ?_⟩
    rintro (rfl | hmem)
    · by_contra hnot
      rw [AList.lookup_eq_none.2 hnot] at hall
      exact hall rfl
    · exact hmem

theorem mem_of_top {kp : Queue} {p : PendingPriority} (h : kp.top id = some p) : id ∈ kp := by
  obtain ⟨hlookup, -⟩ := Option.filter_eq_some_iff.1 h
  exact AList.lookup_isSome.1 (hlookup ▸ rfl)

/-- The books of the worker. -/
structure Booked (cfg : SecretManagerConfig B) (m : SecretManager E B) : Prop where
  nodup : m.fetches.Nodup
  mem_processing : ∀ id, id ∈ m.processing ↔ id ∈ m.fetches
  disjoint : ∀ id ∈ m.pending, id ∉ m.processing
  completing : ∀ id, m.phase.completes id = true → id ∉ m.pending ∧ id ∉ m.processing
  length_le : m.fetches.length ≤ cfg.concurrency
  running : m.phase ≠ .panicked

namespace Booked

theorem init (clock : ℤ) : Booked cfg (SecretManager.new clock : SecretManager E B) where
  nodup := List.nodup_nil
  mem_processing id := ⟨fun h ↦ absurd h (AList.notMem_empty id), fun h ↦ nomatch h⟩
  disjoint id h := absurd h (AList.notMem_empty id)
  completing _ h := nomatch h
  length_le := Nat.zero_le _
  running h := nomatch h

theorem frame (h : Booked cfg m) (hfetches : m'.fetches = m.fetches)
    (hprocessing : m'.processing = m.processing) (hpending : m'.pending = m.pending)
    (hphase : ∀ id, m'.phase.completes id = true → m.phase.completes id = true)
    (hrunning : m'.phase ≠ .panicked) : Booked cfg m' where
  nodup := hfetches ▸ h.nodup
  mem_processing := hfetches ▸ hprocessing ▸ h.mem_processing
  disjoint := hpending ▸ hprocessing ▸ h.disjoint
  completing id hid := hpending ▸ hprocessing ▸ h.completing id (hphase id hid)
  length_le := hfetches ▸ h.length_le
  running := hrunning

theorem finish (h : Booked cfg m) (hfetch : id ∈ m.fetches)
    (hfetches : m'.fetches = m.fetches.erase id)
    (hprocessing : m'.processing = m.processing.erase id) (hpending : m'.pending = m.pending)
    (hphase : ∀ i, m'.phase.completes i = true → i = id) (hrunning : m'.phase ≠ .panicked) :
    Booked cfg m' := by
  have hmem : id ∈ m.processing := (h.mem_processing id).2 hfetch
  refine ⟨hfetches ▸ h.nodup.erase id, fun i ↦ ?_, ?_, ?_, ?_, hrunning⟩
  · rw [hprocessing, hfetches, AList.mem_erase, h.nodup.mem_erase_iff, h.mem_processing]
  · intro i hi
    rw [hpending] at hi
    rw [hprocessing, AList.mem_erase]
    exact fun hboth ↦ h.disjoint i hi hboth.2
  · intro i hi
    obtain rfl := hphase i hi
    rw [hpending, hprocessing, AList.mem_erase]
    exact ⟨fun hi ↦ h.disjoint i hi hmem, fun hboth ↦ hboth.1 rfl⟩
  · rw [hfetches]
    exact (List.length_erase_le ..).trans h.length_le

/-- A mark in `processing` changes, or the queue does, for an identity that may be queued. -/
theorem requeue (h : Booked cfg m) (hfetches : m'.fetches = m.fetches)
    (hprocessing : ∀ i, i ∈ m'.processing ↔ i ∈ m.processing)
    (hpending : ∀ i ∈ m'.pending, i ∈ m.pending ∨ i ∉ m.processing)
    (hphase : m'.phase = .select) : Booked cfg m' := by
  refine ⟨hfetches ▸ h.nodup, fun i ↦ ?_, fun i hi ↦ ?_, fun i hi ↦ ?_, hfetches ▸ h.length_le, ?_⟩
  · rw [hprocessing, hfetches, h.mem_processing]
  · rw [hprocessing]
    exact (hpending i hi).elim (h.disjoint i) fun hnot ↦ hnot
  · rw [hphase] at hi
    cases hi
  · rw [hphase]
    exact fun hpanicked ↦ nomatch hpanicked

theorem completes_retry (existing : Option (WorkloadCertificate × ℤ)) (err : E) (r : ℕ)
    (i : Identity) : (m.retry cfg id err existing r).phase.completes i = decide (id = i) := by
  cases existing <;> rfl

theorem step (h : Booked cfg m) (hstep : Stepped cfg m e m') : Booked cfg m' := by
  cases hstep with
  | opened | joined | forgotten | unknown | bumped | settled | posted | advanced =>
    exact h.frame rfl rfl rfl (fun _ hid ↦ hid) h.running
  | received | looked | ignored | unmanaged =>
    exact h.frame rfl rfl rfl (fun _ hid ↦ nomatch hid) (fun hpanicked ↦ nomatch hpanicked)
  | queued id pri hphase hnone =>
    refine h.requeue rfl (fun _ ↦ Iff.rfl) (fun i hi ↦ ?_) rfl
    obtain rfl | hold := mem_pushIncrease.1 hi
    · exact .inr (AList.lookup_eq_none.1 hnone)
    · exact .inl hold
  | unqueued id hphase hnone =>
    refine h.requeue rfl (fun _ ↦ Iff.rfl) (fun i hi ↦ ?_) rfl
    exact .inl (AList.mem_erase.1 hi).2
  | resumed id pri hphase hlookup | marked id hphase hlookup =>
    have hmem : id ∈ m.processing := AList.lookup_isSome.1 (hlookup ▸ rfl)
    refine h.requeue rfl (fun i ↦ ?_) (fun _ hi ↦ .inl hi) rfl
    rw [AList.mem_insert]
    exact ⟨fun hi ↦ hi.elim (fun heq ↦ heq ▸ hmem) fun hi ↦ hi, .inr⟩
  | panicked id res hphase hfetch hnone =>
    exact absurd ((h.mem_processing id).2 hfetch) (AList.lookup_eq_none.1 hnone)
  | abandoned id res hphase hfetch =>
    refine h.finish hfetch rfl rfl rfl (fun i hi ↦ ?_) h.running
    rw [hphase] at hi
    cases hi
  | failed id err hphase hfetch | renewed id cert hphase hfetch =>
    exact h.finish hfetch rfl rfl rfl (fun i hi ↦ (of_decide_eq_true hi).symm)
      (fun hpanicked ↦ nomatch hpanicked)
  | existing id err hphase | published id state refreshAt tx hphase =>
    refine h.frame rfl rfl rfl (fun i hi ↦ ?_) (fun hpanicked ↦ nomatch hpanicked)
    rw [hphase]
    exact hi
  | retried id err existing r hphase =>
    refine h.frame rfl rfl rfl (fun i hi ↦ ?_) ?_
    · rw [completes_retry] at hi
      rw [hphase]
      exact hi
    · cases existing <;> exact fun hpanicked ↦ nomatch hpanicked
  | requeued id refreshAt hphase =>
    refine h.requeue rfl (fun _ ↦ Iff.rfl) (fun i hi ↦ ?_) rfl
    obtain rfl | hold := mem_pushIncrease.1 hi
    · refine .inr (h.completing i ?_).2
      rw [hphase]
      exact decide_eq_true rfl
    · exact .inl hold
  | started id p hphase htop hroom =>
    have hpending := mem_of_top htop
    have hnot : id ∉ m.fetches := fun hmem ↦ h.disjoint id hpending ((h.mem_processing id).2 hmem)
    refine ⟨?_, fun i ↦ ?_, fun i hi ↦ ?_, fun i hi ↦ ?_, ?_, h.running⟩
    · rw [List.concat_eq_append.symm]
      exact h.nodup.concat hnot
    · rw [AList.mem_insert, List.mem_append, List.mem_singleton, h.mem_processing]
      exact Or.comm
    · obtain ⟨hne, hi⟩ := AList.mem_erase.1 hi
      rw [AList.mem_insert]
      exact fun hor ↦ hor.elim hne (h.disjoint i hi)
    · rw [hphase] at hi
      cases hi
    · rw [List.length_append]
      exact hroom

end Booked

/-! ### One identity -/

/-- The request that a call is about to post. -/
def Call.request : Call → Option Request
  | .posting req => some req
  | .bumping _ _ _ => none

/-- The request that the worker has in hand. -/
def Phase.request : Phase E → Option Request
  | .received req | .checked req _ => some req
  | _ => none

/-- What the worker has in hand for an identity. -/
def Phase.hand : Phase E → Identity → Reconcile.Hand
  | .received req, id => if req.id = id then .got req.wants else .free
  | .checked req has, id => if req.id = id then .looked req.wants has else .free
  | _, _ => .free

theorem Phase.hand_eq_free {phase : Phase E} (h : phase.request = none) (id : Identity) :
    phase.hand id = .free := by
  cases phase with
  | received | checked => cases h
  | _ => rfl

namespace SecretManager

/-- The requests that the worker has not received. -/
def undelivered (m : SecretManager E B) : List Request :=
  m.calls.filterMap Call.request ++ m.requests

/-- The worker works on the identity: it is queued, or a fetch whose result will be used is in
flight, or its result is being recorded. -/
def Active (m : SecretManager E B) (id : Identity) : Prop :=
  id ∈ m.pending ∨ m.processing.lookup id = some .processing ∨ m.phase.completes id = true

instance decidableActive (m : SecretManager E B) (id : Identity) : Decidable (m.Active id) :=
  inferInstanceAs (Decidable (_ ∨ _ ∨ _))

/-- The identity as an item that clients and worker have to agree on. -/
def item (m : SecretManager E B) (id : Identity) : Reconcile.Item where
  wanted := id ∈ m.certs
  active := m.Active id
  notes := {note | ∃ req ∈ m.undelivered, req.id = id ∧ req.wants = note}
  hand := m.phase.hand id

theorem mem_undelivered {req : Request} :
    req ∈ m.undelivered ↔ .posting req ∈ m.calls ∨ req ∈ m.requests := by
  unfold undelivered
  rw [List.mem_append, List.mem_filterMap]
  refine or_congr_left ⟨?_, fun hmem ↦ ⟨_, hmem, rfl⟩⟩
  rintro ⟨call, hmem, hcall⟩
  cases call with
  | bumping => cases hcall
  | posting =>
    cases hcall
    exact hmem

/-- A request is undelivered until the worker receives it, though its call may have posted it. -/
theorem undelivered_of_calls
    (hcalls : ∀ req, .posting req ∈ m.calls → .posting req ∈ m'.calls ∨ req ∈ m'.requests)
    (hrequests : ∀ req ∈ m.requests, req ∈ m'.requests) :
    ∀ req ∈ m.undelivered, req ∈ m'.undelivered := by
  intro req hmem
  rw [mem_undelivered] at hmem ⊢
  rcases hmem with hposting | hposted
  · exact hcalls req hposting
  · exact .inr (hrequests req hposted)

/-- No request about the identity is lost. -/
theorem notes_subset (h : ∀ req ∈ m.undelivered, req.id = id → req ∈ m'.undelivered) :
    (m.item id).notes ⊆ (m'.item id).notes := by
  rintro note ⟨req, hmem, hid, hwants⟩
  exact ⟨req, h req hmem hid, hid, hwants⟩

/-- A step of a call that keeps the other calls. -/
theorem posting_mem_of_ne {k : ℕ} {call : Call} {req : Request} (hcall : m.calls[k]? = some call)
    (hmem : .posting req ∈ m.calls) (hne : call ≠ .posting req) :
    .posting req ∈ m.calls.eraseIdx k ∧ ∀ call', .posting req ∈ m.calls.set k call' := by
  obtain ⟨j, hj⟩ := List.mem_iff_getElem?.1 hmem
  have hjk : j ≠ k := by
    rintro rfl
    rw [hcall] at hj
    exact hne (Option.some.inj hj)
  refine ⟨List.mem_eraseIdx_iff_getElem?.2 ⟨j, hjk, hj⟩, fun call' ↦ ?_⟩
  rw [List.mem_iff_getElem?]
  exact ⟨j, by rwa [List.getElem?_set_ne (Ne.symm hjk)]⟩

theorem item_stay (hcerts : id ∈ m'.certs ↔ id ∈ m.certs) (hactive : m'.Active id ↔ m.Active id)
    (hhand : m'.phase.hand id = m.phase.hand id)
    (hreq : ∀ req ∈ m.undelivered, req.id = id → req ∈ m'.undelivered) :
    Reconcile.Move (m.item id) (m'.item id) :=
  .stay (decide_eq_decide.2 hcerts) (decide_eq_decide.2 hactive) hhand (notes_subset hreq)

/-- A step of a call that leaves the identities as they are. -/
theorem item_calls (hcerts : id ∈ m'.certs ↔ id ∈ m.certs) (hactive : m'.Active id ↔ m.Active id)
    (hhand : m'.phase.hand id = m.phase.hand id)
    (hcalls : ∀ req, .posting req ∈ m.calls → .posting req ∈ m'.calls ∨ req ∈ m'.requests)
    (hrequests : ∀ req ∈ m.requests, req ∈ m'.requests) :
    Reconcile.Move (m.item id) (m'.item id) :=
  item_stay hcerts hactive hhand fun req hmem _ ↦ undelivered_of_calls hcalls hrequests req hmem

/-- A call that changes what is wanted of an identity has a request to post that says so. -/
theorem item_change (req : Request) (hcerts : req.id ∈ m'.certs ↔ req.wants = true)
    (hother : ∀ i, i ≠ req.id → (i ∈ m'.certs ↔ i ∈ m.certs))
    (hactive : m'.Active id ↔ m.Active id) (hphase : m'.phase = m.phase)
    (hcalls : m'.calls = m.calls ++ [.posting req]) (hrequests : m'.requests = m.requests) :
    Reconcile.Move (m.item id) (m'.item id) := by
  have hreq : ∀ req' ∈ m.undelivered, req' ∈ m'.undelivered := by
    refine undelivered_of_calls (fun req' hposting ↦ .inl ?_) (fun _ hmem ↦ hrequests ▸ hmem)
    rw [hcalls]
    exact List.mem_append_left _ hposting
  have hhand : m'.phase.hand id = m.phase.hand id := by rw [hphase]
  by_cases hid : id = req.id
  · subst hid
    refine .change (decide_eq_decide.2 hactive) hhand
      (notes_subset fun req' hmem _ ↦ hreq req' hmem) ⟨req, ?_, rfl, ?_⟩
    · rw [mem_undelivered, hcalls]
      exact .inl (List.mem_append_right _ List.mem_cons_self)
    · show req.wants = decide (req.id ∈ m'.certs)
      exact Bool.eq_iff_iff.2 (hcerts.symm.trans decide_eq_true_iff.symm)
  · exact item_stay (hother id hid) hactive hhand fun req' hmem _ ↦ hreq req' hmem

/-- The handling of a request: the worker does what it says, unless it is stale. -/
theorem item_handle (req : Request) {has : Bool} (hphase : m.phase = .checked req has)
    (hphase' : m'.phase = .select) (hcerts : m'.certs = m.certs) (hcalls : m'.calls = m.calls)
    (hrequests : m'.requests = m.requests)
    (hself : m'.Active req.id ↔ if req.wants = has then has = true else m.Active req.id)
    (hother : ∀ i, i ≠ req.id → (m'.Active i ↔ m.Active i)) :
    Reconcile.Move (m.item id) (m'.item id) := by
  have hundelivered : m'.undelivered = m.undelivered := by
    rw [undelivered, hcalls, hrequests, undelivered]
  have hreq : ∀ req' ∈ m.undelivered, req'.id = id → req' ∈ m'.undelivered :=
    fun req' hmem _ ↦ hundelivered ▸ hmem
  have hafter : m'.phase.hand id = .free := by
    rw [hphase']
    rfl
  by_cases hid : req.id = id
  · subst hid
    refine .act req.wants has (decide_eq_decide.2 (hcerts ▸ Iff.rfl)) ?_ ?_ hafter
      (notes_subset hreq)
    · show decide (m'.Active req.id) = if req.wants = has then has else decide (m.Active req.id)
      by_cases hwants : req.wants = has
      · rw [if_pos hwants] at hself ⊢
        exact Bool.eq_iff_iff.2 (decide_eq_true_iff.trans hself)
      · rw [if_neg hwants] at hself ⊢
        exact decide_eq_decide.2 hself
    · show m.phase.hand req.id = _
      rw [hphase]
      exact if_pos rfl
  · refine item_stay (hcerts ▸ Iff.rfl) (hother id (Ne.symm hid)) ?_ hreq
    rw [hafter, hphase]
    exact (if_neg hid).symm

theorem active_congr (hpending : id ∈ m'.pending ↔ id ∈ m.pending)
    (hprocessing : m'.processing.lookup id = some .processing ↔
      m.processing.lookup id = some .processing)
    (hcompletes : m'.phase.completes id = m.phase.completes id) : m'.Active id ↔ m.Active id := by
  unfold Active
  rw [hpending, hprocessing, hcompletes]

theorem not_active (hpending : id ∉ m.pending)
    (hprocessing : m.processing.lookup id ≠ some .processing)
    (hcompletes : m.phase.completes id = false) : ¬m.Active id := by
  rintro (hmem | hlookup | hid)
  · exact hpending hmem
  · exact hprocessing hlookup
  · rw [hcompletes] at hid
    cases hid

theorem completes_of_ne {phase : Phase E} {i : Identity}
    (hphase : ∀ j, phase.completes j = decide (i = j)) (hne : id ≠ i) :
    phase.completes id = false :=
  (hphase id).trans (decide_eq_false (Ne.symm hne))

/-- A fetch whose result is used stays active while it is recorded. -/
theorem active_finish {i : Identity} (hpending : m'.pending = m.pending)
    (hprocessing : m'.processing = m.processing.erase i) (hphase : m.phase = .select)
    (hphase' : ∀ j, m'.phase.completes j = decide (i = j))
    (hlookup : m.processing.lookup i = some .processing) : m'.Active id ↔ m.Active id := by
  by_cases hid : id = i
  · subst hid
    refine iff_of_true (.inr (.inr ?_)) (.inr (.inl hlookup))
    exact (hphase' id).trans (decide_eq_true rfl)
  · refine active_congr (hpending ▸ Iff.rfl) ?_ ?_
    · rw [hprocessing, AList.lookup_erase_ne hid]
    · rw [completes_of_ne hphase' hid, hphase]
      rfl

end SecretManager

/-! ### Requests and results -/

theorem item_received {req : Request} {rest : List Request} (hphase : m.phase = .select)
    (hrequests : m.requests = req :: rest)
    (hm' : m' = { m with requests := rest, phase := .received req }) :
    Reconcile.Move (m.item id) (m'.item id) := by
  have hmem (req' : Request) (hmem : req' ∈ m.undelivered) :
      req' = req ∨ req' ∈ m'.undelivered := by
    rw [mem_undelivered] at hmem ⊢
    rw [hrequests, List.mem_cons] at hmem
    rw [hm']
    exact or_left_comm.1 hmem
  subst hm'
  have hactive : ({ m with requests := rest, phase := .received req } : SecretManager E B).Active
      id ↔ m.Active id := active_congr Iff.rfl Iff.rfl (by rw [hphase]; rfl)
  by_cases hid : req.id = id
  · refine .take req.wants rfl (decide_eq_decide.2 hactive) ?_ (if_pos hid) ?_
    · show m.phase.hand id = .free
      rw [hphase]
      rfl
    · rintro note ⟨req', hreq', hid', rfl⟩
      obtain rfl | hrest := hmem req' hreq'
      · exact .inl rfl
      · exact .inr ⟨req', hrest, hid', rfl⟩
  · refine item_stay Iff.rfl hactive ?_ fun req' hreq' hid' ↦ ?_
    · rw [hphase]
      exact if_neg hid
    · exact (hmem req' hreq').resolve_left fun heq ↦ hid (heq ▸ hid')

theorem item_looked {req : Request} (hphase : m.phase = .received req) :
    Reconcile.Move (m.item id)
      (({ m with phase := .checked req (req.id ∈ m.certs) } : SecretManager E B).item id) := by
  have hactive : ({ m with phase := .checked req (req.id ∈ m.certs) } : SecretManager E B).Active
      id ↔ m.Active id := active_congr Iff.rfl Iff.rfl (by rw [hphase]; rfl)
  by_cases hid : req.id = id
  · subst hid
    refine .look req.wants rfl (decide_eq_decide.2 hactive) ?_ (if_pos rfl) (fun _ hmem ↦ hmem)
    show m.phase.hand req.id = _
    rw [hphase]
    exact if_pos rfl
  · refine item_stay Iff.rfl hactive ?_ fun _ hmem _ ↦ hmem
    rw [hphase]
    exact (if_neg hid).trans (if_neg hid).symm

namespace Booked

theorem item_ignored (h : Booked cfg m) {req : Request} {has : Bool}
    (hphase : m.phase = .checked req has)
    (hwants : req.wants = has → m.processing.lookup req.id =
      some (if has then .processing else .forgetting)) :
    Reconcile.Move (m.item id) (({ m with phase := .select } : SecretManager E B).item id) := by
  refine item_handle req hphase rfl rfl rfl rfl ?_ fun j _ ↦ ?_
  · split
    · next heq =>
      have hlookup := hwants heq
      cases has with
      | true => exact iff_of_true (.inr (.inl hlookup)) rfl
      | false =>
        have hmem : req.id ∈ m.processing := AList.lookup_isSome.1 (hlookup ▸ rfl)
        refine iff_of_false (not_active (fun hpending ↦ h.disjoint _ hpending hmem) ?_ rfl)
          Bool.false_ne_true
        show m.processing.lookup req.id ≠ _
        rw [hlookup]
        exact fun heq ↦ nomatch heq
    · exact active_congr Iff.rfl Iff.rfl (by rw [hphase]; rfl)
  · exact active_congr Iff.rfl Iff.rfl (by rw [hphase]; rfl)

/-- A result for an identity that is no longer managed is not recorded. -/
theorem item_unmanaged (h : Booked cfg m) {i : Identity} {state : CertState E} {refreshAt : ℤ}
    (hphase : m.phase = .updating i state refreshAt) (hnone : m.certs.lookup i = none) :
    Reconcile.Move (m.item id) (({ m with phase := .select } : SecretManager E B).item id) := by
  have hhand : (Phase.select : Phase E).hand id = m.phase.hand id := by
    rw [hphase]
    rfl
  by_cases hid : id = i
  · subst hid
    obtain ⟨hpending, hprocessing⟩ := h.completing id (by rw [hphase]; exact decide_eq_true rfl)
    refine .stop rfl (decide_eq_false (AList.lookup_eq_none.1 hnone)) (decide_eq_false ?_) hhand
      fun _ hmem ↦ hmem
    refine not_active hpending (fun hlookup ↦ hprocessing ?_) rfl
    exact AList.lookup_isSome.1 (hlookup ▸ rfl)
  · refine item_stay Iff.rfl (active_congr Iff.rfl Iff.rfl ?_) hhand fun _ hmem _ ↦ hmem
    rw [hphase]
    exact (decide_eq_false (Ne.symm hid)).symm

end Booked

/-- For each identity, a step of the manager is a move of its item. -/
theorem Booked.move (h : Booked cfg m) (hstep : Stepped cfg m e m') (id : Identity) :
    Reconcile.Move (m.item id) (m'.item id) := by
  cases hstep with
  | opened i pri hnot =>
    refine item_change (.fetch i pri) ?_ ?_ Iff.rfl rfl rfl rfl
    · exact ⟨fun _ ↦ rfl, fun _ ↦ (AList.mem_insert _).2 (.inl rfl)⟩
    · intro j hj
      rw [AList.mem_insert]
      exact or_iff_right hj
  | forgotten i =>
    refine item_change (.forget i) ?_ ?_ Iff.rfl rfl rfl rfl
    · exact ⟨fun hmem ↦ absurd rfl (AList.mem_erase.1 hmem).1, fun hwants ↦ nomatch hwants⟩
    · intro j hj
      rw [AList.mem_erase]
      exact and_iff_right hj
  | joined i pri rx =>
    refine item_calls Iff.rfl Iff.rfl rfl (fun req hposting ↦ .inl ?_) fun _ hmem ↦ hmem
    exact List.mem_append_left _ hposting
  | unknown | advanced =>
    exact item_stay Iff.rfl Iff.rfl rfl fun _ hmem _ ↦ hmem
  | bumped k i pri rx hcall =>
    refine item_calls Iff.rfl Iff.rfl rfl (fun req hposting ↦ .inl ?_) fun _ hmem ↦ hmem
    exact (posting_mem_of_ne hcall hposting (fun h ↦ nomatch h)).2 _
  | settled k i pri rx hcall =>
    refine item_calls Iff.rfl Iff.rfl rfl (fun req hposting ↦ .inl ?_) fun _ hmem ↦ hmem
    exact (posting_mem_of_ne hcall hposting (fun h ↦ nomatch h)).1
  | posted k req hcall =>
    refine item_calls Iff.rfl Iff.rfl rfl (fun req' hposting ↦ ?_)
      fun _ hmem ↦ List.mem_append_left _ hmem
    by_cases hreq : req = req'
    · exact .inr (List.mem_append_right _ (hreq ▸ List.mem_cons_self))
    · exact .inl (posting_mem_of_ne hcall hposting (fun h ↦ hreq (Call.posting.inj h))).1
  | received req rest hphase hrequests => exact item_received hphase hrequests rfl
  | looked req hphase => exact item_looked hphase
  | ignored req has hphase hwants => exact h.item_ignored hphase hwants
  | queued i pri hphase hnone =>
    refine item_handle (.fetch i pri) hphase rfl rfl rfl rfl ?_ fun j hj ↦ ?_
    · exact ⟨fun _ ↦ rfl, fun _ ↦ .inl (mem_pushIncrease.2 (.inl rfl))⟩
    · refine active_congr ?_ Iff.rfl (by rw [hphase]; rfl)
      rw [mem_pushIncrease]
      exact or_iff_right hj
  | resumed i pri hphase hforgetting =>
    refine item_handle (.fetch i pri) hphase rfl rfl rfl rfl ?_ fun j hj ↦ ?_
    · exact ⟨fun _ ↦ rfl, fun _ ↦ .inr (.inl (AList.lookup_insert _))⟩
    · refine active_congr Iff.rfl ?_ (by rw [hphase]; rfl)
      rw [AList.lookup_insert_ne (show j ≠ i from hj)]
  | unqueued i hphase hnone =>
    refine item_handle (.forget i) hphase rfl rfl rfl rfl ?_ fun j hj ↦ ?_
    · refine iff_of_false (not_active ?_ ?_ rfl) Bool.false_ne_true
      · exact fun hmem ↦ (AList.mem_erase.1 hmem).1 rfl
      · exact fun hlookup ↦ Option.some_ne_none _ (hlookup.symm.trans hnone)
    · refine active_congr ?_ Iff.rfl (by rw [hphase]; rfl)
      rw [AList.mem_erase]
      exact and_iff_right hj
  | marked i hphase hprocessing =>
    refine item_handle (.forget i) hphase rfl rfl rfl rfl ?_ fun j hj ↦ ?_
    · refine iff_of_false (not_active ?_ ?_ rfl) Bool.false_ne_true
      · exact fun hmem ↦ h.disjoint i hmem (AList.lookup_isSome.1 (hprocessing ▸ rfl))
      · show AList.lookup i (m.processing.insert i .forgetting) ≠ _
        rw [AList.lookup_insert]
        exact fun heq ↦ nomatch heq
    · refine active_congr Iff.rfl ?_ (by rw [hphase]; rfl)
      rw [AList.lookup_insert_ne (show j ≠ i from hj)]
  | panicked i res hphase hfetch hnone =>
    exact absurd ((h.mem_processing i).2 hfetch) (AList.lookup_eq_none.1 hnone)
  | abandoned i res hphase hfetch hforgetting =>
    refine item_stay Iff.rfl (active_congr Iff.rfl ?_ rfl) rfl fun _ hmem _ ↦ hmem
    by_cases hid : id = i
    · subst hid
      rw [AList.lookup_erase, hforgetting]
      exact iff_of_false (fun heq ↦ nomatch heq) (fun heq ↦ nomatch heq)
    · rw [AList.lookup_erase_ne hid]
  | failed i err hphase hfetch hprocessing | renewed i cert hphase hfetch hprocessing =>
    refine item_stay Iff.rfl (active_finish rfl rfl hphase (fun _ ↦ rfl) hprocessing) ?_
      fun _ hmem _ ↦ hmem
    rw [hphase]
    rfl
  | existing i err hphase | published i state refreshAt tx hphase htx =>
    refine item_stay Iff.rfl (active_congr Iff.rfl Iff.rfl ?_) ?_ fun _ hmem _ ↦ hmem
    · rw [hphase]
      rfl
    · rw [hphase]
      rfl
  | retried i err existing r hphase =>
    refine item_stay Iff.rfl (active_congr Iff.rfl Iff.rfl ?_) ?_ fun _ hmem _ ↦ hmem
    · rw [completes_retry, hphase]
      rfl
    · rw [hphase]
      cases existing <;> rfl
  | unmanaged i state refreshAt hphase hnone => exact h.item_unmanaged hphase hnone
  | requeued i refreshAt hphase =>
    refine item_stay Iff.rfl ?_ (by rw [hphase]; rfl) fun _ hmem _ ↦ hmem
    by_cases hid : id = i
    · subst hid
      refine ⟨fun _ ↦ .inr (.inr ?_), fun _ ↦ .inl (mem_pushIncrease.2 (.inl rfl))⟩
      rw [hphase]
      exact decide_eq_true rfl
    · refine active_congr ?_ Iff.rfl ?_
      · rw [mem_pushIncrease]
        exact or_iff_right hid
      · rw [hphase]
        exact (decide_eq_false (Ne.symm hid)).symm
  | started i p hphase htop hroom hdue =>
    refine item_stay Iff.rfl ?_ rfl fun _ hmem _ ↦ hmem
    by_cases hid : id = i
    · subst hid
      exact ⟨fun _ ↦ .inl (mem_of_top htop), fun _ ↦ .inr (.inl (AList.lookup_insert _))⟩
    · refine active_congr ?_ ?_ rfl
      · rw [AList.mem_erase]
        exact and_iff_right hid
      · rw [AList.lookup_insert_ne hid]

theorem sound_new (clock : ℤ) (id : Identity) :
    Reconcile.Sound ((new clock : SecretManager E B).item id) := by
  have hidle : ¬(new clock : SecretManager E B).Active id :=
    not_active (AList.notMem_empty id) (fun hlookup ↦ nomatch hlookup) rfl
  have hunmanaged : id ∉ (new clock : SecretManager E B).certs := AList.notMem_empty id
  refine ⟨fun hne ↦ absurd ?_ hne, fun note found hlooked ↦ nomatch hlooked⟩
  exact decide_eq_decide.2 (iff_of_false hidle hunmanaged)

/-- **The books of the worker**, after any interleaving: a fetch in flight has its one entry in
`processing`, and its result finds it; nothing is queued and in flight; the limit is kept; and when
no request is undelivered or in hand, the worker works on exactly the managed identities. -/
theorem worker_bookkeeping {clock : ℤ} {events : List (Event E)}
    (hrun : run (step cfg) (new clock) events = some m) :
    m.fetches.Nodup ∧ (∀ id, id ∈ m.processing ↔ id ∈ m.fetches) ∧ m.phase ≠ .panicked ∧
    (∀ id ∈ m.pending, id ∉ m.processing) ∧ m.fetches.length ≤ cfg.concurrency ∧
    (m.undelivered = [] → m.phase.request = none → ∀ id, id ∈ m.certs ↔
      id ∈ m.pending ∨ m.processing.lookup id = some .processing ∨
        m.phase.completes id = true) := by
  have hinv : Booked cfg m ∧ ∀ id, Reconcile.Sound (m.item id) := by
    refine run_induction (I := fun m ↦ Booked cfg m ∧ ∀ id, Reconcile.Sound (m.item id))
      hrun ⟨Booked.init clock, sound_new clock⟩ fun e _ s s' hs hstep ↦ ?_
    have hstepped := stepped_of_step hstep
    exact ⟨hs.1.step hstepped, fun id ↦ (hs.2 id).move (hs.1.move hstepped id)⟩
  obtain ⟨hbooked, hsound⟩ := hinv
  refine ⟨hbooked.nodup, hbooked.mem_processing, hbooked.running, hbooked.disjoint,
    hbooked.length_le, fun hempty hrequest id ↦ ?_⟩
  have hsettled := (hsound id).settled (Phase.hand_eq_free hrequest id) (by
    rintro ⟨req, hmem, -⟩
    rw [hempty] at hmem
    cases hmem)
  exact (decide_eq_decide.1 hsettled).symm

/-- A manager that fetches one certificate at a time, on clocks that agree. -/
def sampleConfig : SecretManagerConfig Unit :=
  ⟨⟨0, 0, fun _ ↦ true, fun _ ↦ true⟩, 1, Nat.one_pos, (), fun _ r ↦ (some r, ())⟩

/-- An identity of the runs below. -/
def sampleId : Identity := ⟨"cluster.local", "ns", "client"⟩

/-- A call goes on to its post, and the worker handles the request. -/
def delivery : List (Event Unit) := [.goOn 0, .recv, .hasId, .handle]

/-- An identity is asked for, given up while the fetch is in flight, and asked for again. -/
def resumedRun : List (Event Unit) :=
  .startFetch sampleId .realTime :: delivery ++ [.start sampleId, .forgetCertificate sampleId] ++
  delivery ++ .startFetch sampleId .warmup :: delivery

theorem worker_bookkeeping_resumedRun :
    ∃ m, run (step sampleConfig) (new 0) resumedRun = some m ∧
      m.processing.lookup sampleId = some .processing ∧ sampleId ∈ m.certs := by
  refine exists_run (fun m ↦ m.undelivered = [] ∧ m.phase.request = none ∧
    m.processing.lookup sampleId = some .processing) (by decide) ?_
  rintro m hm ⟨hempty, hrequest, hlookup⟩
  have hbooks := (worker_bookkeeping hm).2.2.2.2.2 hempty hrequest sampleId
  exact ⟨hlookup, hbooks.2 (.inr (.inl hlookup))⟩

end Ztunnel.Manager
