import Ztunnel.Identity.Bookkeeping
import Ztunnel.Lib.Index

/-!
# A certificate that cannot be renewed is kept until it expires

When a fetch fails, the worker looks at the state it has published for the identity. A certificate
in it that has not expired is published again, and the next attempt is due when it expires at the
latest; else it publishes that there is none. Clients come in between only by giving the identity up
or asking for it anew, and then there is no certificate to keep. So a certificate is never replaced
by `Unavailable` before its time (`certificate_retention`).

The worker reads the calendar off the monotonic clock, by `Converter`; that the platform can
represent the results is an assumption (`Converter.Total`).
-/

namespace Ztunnel.Manager

open Ztunnel.Rbac SecretManager Transition

variable {E B : Type} {cfg : SecretManagerConfig B} {m m' : SecretManager E B} {e : Event E}
  {id : Identity}

/-! ### The two clocks -/

namespace Converter

variable {conv : Converter}

/-- The platform represents the times that occur. -/
structure Total (conv : Converter) : Prop where
  isInstant : ∀ t, conv.isInstant t = true
  isSystemTime : ∀ t, conv.isSystemTime t = true

/-- The instant of a calendar time. -/
def instantOf (conv : Converter) (t : ℤ) : ℤ := conv.now + (t - conv.sysNow)

/-- The calendar time of an instant. -/
def systemTimeOf (conv : Converter) (t : ℤ) : ℤ := conv.sysNow + (t - conv.now)

theorem Total.systemTimeToInstant (h : conv.Total) (t : ℤ) :
    conv.systemTimeToInstant t = some (conv.instantOf t) := by
  unfold Converter.systemTimeToInstant instantOf
  split
  · rfl
  · rw [Option.filter_some, if_pos (h.isInstant _)]
    congr 1
    omega

theorem Total.instantToSystemTime (h : conv.Total) (t : ℤ) :
    conv.instantToSystemTime t = some (conv.systemTimeOf t) := by
  unfold Converter.instantToSystemTime systemTimeOf
  split
  · rw [Option.filter_some, if_pos (h.isSystemTime _)]
  · rw [Option.filter_some, if_pos (h.isSystemTime _)]
    congr 1
    omega

end Converter

/-- The calendar time. -/
def SecretManager.systemNow (cfg : SecretManagerConfig B) (m : SecretManager E B) : ℤ :=
  cfg.timeConv.systemTimeOf m.clock

theorem systemNow_mono (hclock : m.clock ≤ m'.clock) : m.systemNow cfg ≤ m'.systemNow cfg := by
  unfold systemNow Converter.systemTimeOf
  omega

theorem getExistingCertInfo_eq (hconv : cfg.timeConv.Total) (id : Identity) :
    (∃ cert, m.stateOf id = some (.available cert) ∧ m.systemNow cfg < cert.notAfter ∧
      m.getExistingCertInfo cfg id = some (cert, cfg.timeConv.instantOf cert.notAfter)) ∨
    (∀ cert, m.stateOf id = some (.available cert) → cert.notAfter ≤ m.systemNow cfg) ∧
      m.getExistingCertInfo cfg id = none := by
  unfold getExistingCertInfo
  split
  · next cert hstate =>
    rw [hconv.instantToSystemTime, Option.bind_some]
    by_cases hvalid : m.systemNow cfg < cert.notAfter
    · left
      refine ⟨cert, hstate, hvalid, ?_⟩
      rw [hconv.systemTimeToInstant, Option.map_some]
      exact if_pos hvalid
    · right
      refine ⟨fun cert' hcert' ↦ ?_, if_neg hvalid⟩
      rw [hstate] at hcert'
      cases hcert'
      exact Int.not_lt.1 hvalid
  · next hother => exact .inr ⟨fun cert hcert ↦ absurd hcert (hother cert), rfl⟩

/-! ### The published states -/

/-- Each managed identity has a channel of its own. -/
structure Channeled (m : SecretManager E B) : Prop where
  lt_length : ∀ id n, m.certs.lookup id = some n → n < m.channels.length
  inj : ∀ id id' n, m.certs.lookup id = some n → m.certs.lookup id' = some n → id = id'

/-- What a step does to the state of an identity's certificate. -/
inductive Republished (m m' : SecretManager E B) (id : Identity) : Prop
  | same (h : m'.stateOf id = m.stateOf id)
  /-- The identity is given up, or asked for anew. -/
  | cleared (h : ∀ cert, m'.stateOf id ≠ some (.available cert))
    (herr : ∀ err, m'.stateOf id ≠ some (.unavailable err))
  | published (state : CertState E) (refreshAt : ℤ)
    (hphase : m.phase = .updating id state refreshAt)
    (hphase' : m'.phase = .requeueing id refreshAt) (h : m'.stateOf id = some state)

namespace Channeled

theorem init (clock : ℤ) : Channeled (new clock : SecretManager E B) where
  lt_length _ _ h := nomatch h
  inj _ _ _ h := nomatch h

/-- The channels of a managed identity after a new one has been opened. -/
theorem opened (h : Channeled m) (i : Identity) (pri : Priority) :
    Channeled { m with
      certs := m.certs.insert i m.channels.length
      channels := m.channels ++ [.initializing pri]
      calls := m.calls ++ [.posting (.fetch i pri)] } := by
  refine ⟨fun id n hn ↦ ?_, fun id id' n hn hn' ↦ ?_⟩
  · rw [List.length_append]
    obtain ⟨-, rfl⟩ | ⟨-, hold⟩ := Index.lookup_insert_eq_some.1 hn
    · exact Nat.lt_succ_self _
    · exact Nat.lt_succ_of_lt (h.lt_length id n hold)
  · obtain ⟨rfl, rfl⟩ | ⟨-, hold⟩ := Index.lookup_insert_eq_some.1 hn
    · obtain ⟨rfl, -⟩ | ⟨-, hold'⟩ := Index.lookup_insert_eq_some.1 hn'
      · rfl
      · exact absurd (h.lt_length id' _ hold') (Nat.lt_irrefl _)
    · obtain ⟨rfl, rfl⟩ | ⟨-, hold'⟩ := Index.lookup_insert_eq_some.1 hn'
      · exact absurd (h.lt_length id _ hold) (Nat.lt_irrefl _)
      · exact h.inj id id' n hold hold'

theorem step (h : Channeled m) (hstep : Stepped cfg m e m') : Channeled m' := by
  cases hstep with
  | opened i pri => exact h.opened i pri
  | forgotten i =>
    have hlookup (id : Identity) (n : ℕ) (hn : (m.certs.erase i).lookup id = some n) :
        m.certs.lookup id = some n := (Index.lookup_erase_eq_some.1 hn).2
    exact ⟨fun id n hn ↦ h.lt_length id n (hlookup id n hn),
      fun id id' n hn hn' ↦ h.inj id id' n (hlookup id n hn) (hlookup id' n hn')⟩
  | published i state refreshAt tx hphase htx =>
    refine ⟨fun id n hn ↦ ?_, h.inj⟩
    rw [List.length_set]
    exact h.lt_length id n hn
  | _ => exact ⟨h.lt_length, h.inj⟩

end Channeled

theorem Channeled.stateOf_set (h : Channeled m) {tx : ℕ} (htx : m.certs.lookup id = some tx)
    (state : CertState E) (phase : Phase E) :
    ({ m with
      channels := m.channels.set tx state
      phase := phase } : SecretManager E B).stateOf id = some state := by
  unfold stateOf
  rw [htx, Option.bind_some]
  exact List.getElem?_set_self (h.lt_length id tx htx)

theorem SecretManager.Stepped.republished (hstep : Stepped cfg m e m') (h : Channeled m)
    (id : Identity) : Republished m m' id := by
  cases hstep with
  | opened i pri hnot =>
    by_cases hid : id = i
    · subst hid
      have hstate : ({ m with
          certs := m.certs.insert id m.channels.length
          channels := m.channels ++ [.initializing pri]
          calls := m.calls ++ [.posting (.fetch id pri)] } : SecretManager E B).stateOf id =
          some (.initializing pri) := by
        unfold stateOf
        rw [AList.lookup_insert, Option.bind_some, List.getElem?_concat_length]
      exact .cleared (fun cert hcert ↦ nomatch hstate.symm.trans hcert)
        (fun err herr ↦ nomatch hstate.symm.trans herr)
    · refine .same ?_
      unfold stateOf
      rw [AList.lookup_insert_ne hid]
      cases hn : m.certs.lookup id with
      | none => rfl
      | some n =>
        rw [Option.bind_some, Option.bind_some]
        exact List.getElem?_append_left (h.lt_length id n hn)
  | forgotten i =>
    by_cases hid : id = i
    · subst hid
      have hstate : ({ m with
          certs := m.certs.erase id
          calls := m.calls ++ [.posting (.forget id)] } : SecretManager E B).stateOf id = none := by
        unfold stateOf
        rw [AList.lookup_erase, Option.bind_none]
      exact .cleared (fun cert hcert ↦ nomatch hstate.symm.trans hcert)
        (fun err herr ↦ nomatch hstate.symm.trans herr)
    · refine .same ?_
      unfold stateOf
      rw [AList.lookup_erase_ne hid]
  | published i state refreshAt tx hphase htx =>
    by_cases hid : id = i
    · subst hid
      exact .published state refreshAt hphase rfl (h.stateOf_set htx state _)
    · refine .same ?_
      unfold stateOf
      cases hn : m.certs.lookup id with
      | none => rfl
      | some n =>
        have hne : tx ≠ n := by
          rintro rfl
          exact hid (h.inj id i tx hn htx)
        rw [Option.bind_some, Option.bind_some]
        exact List.getElem?_set_ne hne
  | _ => exact .same rfl

/-! ### No certificate is given up before its time -/

/-- The identity whose certificate the worker is about to give up. -/
def Phase.givesUp : Phase E → Option Identity
  | .retrying id _ none => some id
  | .updating id (.unavailable _) _ => some id
  | _ => none

/-- The certificate of the identity has expired, if it has one. -/
def Expired (cfg : SecretManagerConfig B) (m : SecretManager E B) (id : Identity) : Prop :=
  ∀ cert, m.stateOf id = some (.available cert) → cert.notAfter ≤ m.systemNow cfg

theorem SecretManager.Stepped.clock_le (hstep : Stepped cfg m e m') : m.clock ≤ m'.clock := by
  cases hstep with
  | advanced d => exact Int.le_add_of_nonneg_right (Int.natCast_nonneg d)
  | _ => exact Int.le_refl _

theorem SecretManager.Stepped.givesUp (hstep : Stepped cfg m e m')
    (h : m'.phase.givesUp = some id) :
    m.phase.givesUp = some id ∨
      m' = { m with phase := m'.phase } ∧ m.getExistingCertInfo cfg id = none := by
  cases hstep with
  | opened | joined | forgotten | unknown | bumped | settled | posted | advanced => exact .inl h
  | abandoned i res hphase | started i p hphase =>
    rw [hphase] at h
    cases h
  | existing i err hphase =>
    right
    refine ⟨rfl, ?_⟩
    cases hinfo : m.getExistingCertInfo cfg i with
    | none =>
      rw [hinfo] at h
      cases h
      exact hinfo
    | some info =>
      rw [hinfo] at h
      cases h
  | retried i err existing r hphase =>
    left
    rw [hphase]
    cases existing with
    | none => exact h
    | some info => cases h
  | _ => cases h

/-- A certificate that is about to be given up has expired, and stays so. -/
theorem Expired.step (hconv : cfg.timeConv.Total) (hchanneled : Channeled m)
    (hinv : ∀ id, m.phase.givesUp = some id → Expired cfg m id) (hstep : Stepped cfg m e m') :
    ∀ id, m'.phase.givesUp = some id → Expired cfg m' id := by
  intro id h
  obtain hbefore | ⟨hsame, hnone⟩ := hstep.givesUp h
  · intro cert hcert
    have hnow : m.systemNow cfg ≤ m'.systemNow cfg := systemNow_mono hstep.clock_le
    cases hstep.republished hchanneled id with
    | same hstate => exact (hinv id hbefore cert (hstate ▸ hcert)).trans hnow
    | cleared hcleared => exact absurd hcert (hcleared cert)
    | published state refreshAt hphase hphase' =>
      rw [hphase'] at h
      cases h
  · rw [hsame]
    obtain ⟨cert, -, -, hsome⟩ | ⟨hexpired, -⟩ := getExistingCertInfo_eq (m := m) hconv id
    · rw [hnone] at hsome
      cases hsome
    · exact hexpired

/-! ### A renewal that fails -/

/-- What holds in a phase after a fetch for the identity has failed at a time, and before another
one is complete. -/
def Failing (cfg : SecretManagerConfig B) (since : ℤ) (id : Identity) (m : SecretManager E B) :
    Phase E → Prop
  | .failed i _ => i = id ∧ since ≤ m.systemNow cfg
  | .retrying i _ existing => i = id ∧ ∀ cert expiry, existing = some (cert, expiry) →
    since < cert.notAfter ∧ expiry = cfg.timeConv.instantOf cert.notAfter
  | .updating i state refreshAt => i = id ∧ ∀ cert, state = .available cert →
    since < cert.notAfter ∧ refreshAt ≤ cfg.timeConv.instantOf cert.notAfter
  | .requeueing i refreshAt => i = id ∧ ∀ cert, m.stateOf id = some (.available cert) →
    refreshAt ≤ cfg.timeConv.instantOf cert.notAfter
  | _ => True

namespace Failing

variable {since : ℤ}

/-- A step that leaves the phase as it is, and publishes no certificate. -/
theorem frame {phase : Phase E} (h : Failing cfg since id m phase) (hclock : m.clock ≤ m'.clock)
    (hstate : ∀ cert, m'.stateOf id = some (.available cert) →
      m.stateOf id = some (.available cert)) : Failing cfg since id m' phase := by
  cases phase with
  | failed i err => exact ⟨h.1, h.2.trans (systemNow_mono hclock)⟩
  | requeueing i refreshAt => exact ⟨h.1, fun cert hcert ↦ h.2 cert (hstate cert hcert)⟩
  | retrying | updating => exact h
  | _ => trivial

theorem existing (hconv : cfg.timeConv.Total) {i : Identity} {err : E}
    (h : Failing cfg since id m (.failed i err)) :
    Failing cfg since id m' (.retrying i err (m.getExistingCertInfo cfg i)) := by
  refine ⟨h.1, fun cert expiry hinfo ↦ ?_⟩
  obtain ⟨cert', -, hvalid, hsome⟩ | ⟨-, hnone⟩ := getExistingCertInfo_eq (m := m) hconv i
  · rw [hsome] at hinfo
    cases hinfo
    exact ⟨h.2.trans_lt hvalid, rfl⟩
  · rw [hnone] at hinfo
    cases hinfo

theorem retried {i : Identity} {err : E} {existing : Option (WorkloadCertificate × ℤ)} {r : ℕ}
    (h : Failing cfg since id m (.retrying i err existing)) :
    Failing cfg since id m' (m.retry cfg i err existing r).phase := by
  cases existing with
  | none => exact ⟨h.1, fun cert hcert ↦ nomatch hcert⟩
  | some info =>
    refine ⟨h.1, fun cert hcert ↦ ?_⟩
    obtain ⟨hvalid, hexpiry⟩ := h.2 info.1 info.2 rfl
    cases hcert
    exact ⟨hvalid, (min_le_right ..).trans hexpiry.le⟩

theorem of_complete {err : E} (hstep : Stepped cfg m (.complete id (.error err)) m') :
    Failing cfg (m.systemNow cfg) id m' m'.phase := by
  cases hstep with
  | panicked => trivial
  | abandoned _ _ hphase =>
    show Failing cfg _ id _ m.phase
    rw [hphase]
    trivial
  | failed => exact ⟨rfl, Int.le_refl _⟩

theorem step (hconv : cfg.timeConv.Total) (hchanneled : Channeled m)
    (h : Failing cfg since id m m.phase) (hstep : Stepped cfg m e m')
    (hnot : ∀ i res, e ≠ .complete i res) : Failing cfg since id m' m'.phase := by
  have hframe (hphase : m'.phase = m.phase) : Failing cfg since id m' m'.phase := by
    rw [hphase]
    refine h.frame hstep.clock_le fun cert hcert ↦ ?_
    cases hstep.republished hchanneled id with
    | same hstate => exact hstate ▸ hcert
    | cleared hcleared => exact absurd hcert (hcleared cert)
    | published state refreshAt hupdating hrequeueing =>
      rw [hrequeueing, hupdating] at hphase
      cases hphase
  cases hstep with
  | opened | joined | forgotten | unknown | bumped | settled | posted | advanced | started =>
    exact hframe rfl
  | received | looked | ignored | queued | resumed | unqueued | marked | unmanaged | requeued =>
    trivial
  | panicked i res | abandoned i res => exact absurd rfl (hnot i res)
  | failed i err => exact absurd rfl (hnot i (.error err))
  | renewed i cert => exact absurd rfl (hnot i (.ok cert))
  | existing i err hphase =>
    rw [hphase] at h
    exact h.existing hconv
  | retried i err existing r hphase =>
    rw [hphase] at h
    exact h.retried
  | published i state refreshAt tx hphase htx =>
    rw [hphase] at h
    obtain ⟨rfl, hstate⟩ := h
    refine ⟨rfl, fun cert hcert ↦ (hstate cert ?_).2⟩
    exact Option.some.inj ((hchanneled.stateOf_set htx state _).symm.trans hcert)

end Failing

/-- What holds of the manager in every run. -/
structure Retained (cfg : SecretManagerConfig B) (m : SecretManager E B) : Prop where
  booked : Booked cfg m
  channeled : Channeled m
  expired : ∀ id, m.phase.givesUp = some id → Expired cfg m id

namespace Retained

theorem init (clock : ℤ) : Retained cfg (new clock : SecretManager E B) :=
  ⟨Booked.init clock, Channeled.init clock, fun _ h ↦ nomatch h⟩

theorem step (hconv : cfg.timeConv.Total) (h : Retained cfg m) (hstep : Stepped cfg m e m') :
    Retained cfg m' :=
  ⟨h.booked.step hstep, h.channeled.step hstep, Expired.step hconv h.channeled h.expired hstep⟩

/-- What is replaced by `Unavailable` has expired. -/
theorem notAfter_le (h : Retained cfg m) (hstep : Stepped cfg m e m') {cert : WorkloadCertificate}
    {err : E} (hcert : m.stateOf id = some (.available cert))
    (herr : m'.stateOf id = some (.unavailable err)) : cert.notAfter ≤ m.systemNow cfg := by
  cases hstep.republished h.channeled id with
  | same hstate =>
    rw [hstate, hcert] at herr
    cases herr
  | cleared _ hcleared => exact absurd herr (hcleared err)
  | published state refreshAt hphase _ hstate =>
    rw [hstate] at herr
    cases herr
    exact h.expired id (hphase ▸ rfl) cert hcert

/-- What a failure publishes was valid when it came. -/
theorem lt_notAfter (h : Retained cfg m) {since : ℤ} (hfailing : Failing cfg since id m m.phase)
    (hstep : Stepped cfg m .update m') {cert : WorkloadCertificate}
    (hcert : m'.stateOf id = some (.available cert)) : since < cert.notAfter := by
  cases hstep with
  | published i state refreshAt tx hphase htx =>
    rw [hphase] at hfailing
    obtain ⟨rfl, hstate⟩ := hfailing
    rw [h.channeled.stateOf_set htx] at hcert
    exact (hstate cert (Option.some.inj hcert)).1
  | unmanaged i state refreshAt hphase hnone =>
    rw [hphase] at hfailing
    obtain ⟨rfl, -⟩ := hfailing
    unfold stateOf at hcert
    rw [hnone] at hcert
    cases hcert

/-- The next attempt is queued for the expiry of the certificate or earlier. -/
theorem requeued_le (h : Retained cfg m) {since : ℤ} (hfailing : Failing cfg since id m m.phase)
    (hstep : Stepped cfg m .requeue m') {cert : WorkloadCertificate}
    (hcert : m.stateOf id = some (.available cert)) :
    ∃ refreshAt, m'.pending.lookup id = some ⟨.background, refreshAt⟩ ∧
      refreshAt ≤ cfg.timeConv.instantOf cert.notAfter := by
  cases hstep with
  | requeued i refreshAt hphase =>
    rw [hphase] at hfailing
    obtain ⟨rfl, hle⟩ := hfailing
    have hnot : i ∉ m.pending := by
      refine (h.booked.completing i ?_).1
      rw [hphase]
      exact decide_eq_true rfl
    refine ⟨refreshAt, ?_, hle cert hcert⟩
    unfold pushIncrease
    rw [AList.lookup_eq_none.2 hnot]
    exact AList.lookup_insert _

end Retained

/-- **A certificate is kept until it expires.** It is replaced by `Unavailable` only after its time;
and when a fetch has failed, then until another one is complete, a certificate is published only if
it was valid at the failure, and the next attempt for it is queued for its expiry or earlier. -/
theorem certificate_retention (hconv : cfg.timeConv.Total) {clock : ℤ} {events : List (Event E)}
    (hrun : run (step cfg) (new clock) events = some m) :
    (∀ e m' id cert err, m.step cfg e = some m' → m.stateOf id = some (.available cert) →
      m'.stateOf id = some (.unavailable err) → cert.notAfter ≤ m.systemNow cfg) ∧
    (∀ id err m₁ events' m₂, m.step cfg (.complete id (.error err)) = some m₁ →
      run (step cfg) m₁ events' = some m₂ → (∀ i res, .complete i res ∉ events') →
      (∀ m₃ cert, m₂.step cfg .update = some m₃ → m₃.stateOf id = some (.available cert) →
        m.systemNow cfg < cert.notAfter) ∧
      (∀ m₃ cert, m₂.step cfg .requeue = some m₃ → m₂.stateOf id = some (.available cert) →
        ∃ refreshAt, m₃.pending.lookup id = some ⟨.background, refreshAt⟩ ∧
          refreshAt ≤ cfg.timeConv.instantOf cert.notAfter)) := by
  have hretained : Retained cfg m :=
    run_induction hrun (Retained.init clock) fun _ _ _ _ h hstep ↦
      h.step hconv (stepped_of_step hstep)
  refine ⟨fun e m' id cert err hstep hcert herr ↦ ?_,
    fun id err m₁ events' m₂ hcomplete hrest hnone ↦ ?_⟩
  · exact hretained.notAfter_le (stepped_of_step hstep) hcert herr
  · have hcomplete := stepped_of_step hcomplete
    obtain ⟨hm₂, hfailing⟩ : Retained cfg m₂ ∧ Failing cfg (m.systemNow cfg) id m₂ m₂.phase := by
      refine run_induction
        (I := fun s ↦ Retained cfg s ∧ Failing cfg (m.systemNow cfg) id s s.phase) hrest
        ⟨hretained.step hconv hcomplete, Failing.of_complete hcomplete⟩
        fun e he s s' hs hstep ↦ ?_
      have hstepped := stepped_of_step hstep
      refine ⟨hs.1.step hconv hstepped, hs.2.step hconv hs.1.channeled hstepped ?_⟩
      rintro i res rfl
      exact hnone i res he
    exact ⟨fun m₃ cert hstep ↦ hm₂.lt_notAfter hfailing (stepped_of_step hstep),
      fun m₃ cert hstep ↦ hm₂.requeued_le hfailing (stepped_of_step hstep)⟩

/-- A certificate that is valid until 100 is fetched, and its renewal is started at half time. -/
def renewalRun : List (Event Unit) :=
  .startFetch sampleId .realTime :: delivery ++
  [.start sampleId, .complete sampleId (.ok ⟨0, 100⟩), .update, .requeue, .advance 50,
    .start sampleId]

theorem certificate_retention_renewalRun :
    ∃ m m₁ m₂ m₃, run (step sampleConfig) (new 0) renewalRun = some m ∧
      m.step sampleConfig (.complete sampleId (.error ())) = some m₁ ∧
      run (step sampleConfig) m₁ [.existing, .retry 1000, .update] = some m₂ ∧
      m₂.step sampleConfig .requeue = some m₃ ∧
      m₂.stateOf sampleId = some (.available ⟨0, 100⟩) ∧
      ∃ refreshAt, m₃.pending.lookup sampleId = some ⟨.background, refreshAt⟩ ∧
        refreshAt ≤ sampleConfig.timeConv.instantOf 100 := by
  have hrun : (run (step sampleConfig) (new 0) renewalRun).any (fun m ↦
      (m.step sampleConfig (.complete sampleId (.error ()))).any fun m₁ ↦
      (run (step sampleConfig) m₁ [.existing, .retry 1000, .update]).any fun m₂ ↦
      (m₂.step sampleConfig .requeue).any fun _ ↦
        decide (m₂.stateOf sampleId = some (.available ⟨0, 100⟩))) = true := by
    decide
  obtain ⟨m, hm, hrun⟩ := (Option.any_eq_true _ _).1 hrun
  obtain ⟨m₁, hm₁, hrun⟩ := (Option.any_eq_true _ _).1 hrun
  obtain ⟨m₂, hm₂, hrun⟩ := (Option.any_eq_true _ _).1 hrun
  obtain ⟨m₃, hm₃, hstate⟩ := (Option.any_eq_true _ _).1 hrun
  have hstate := of_decide_eq_true hstate
  have hconv : sampleConfig.timeConv.Total := ⟨fun _ ↦ rfl, fun _ ↦ rfl⟩
  have hretention := (certificate_retention hconv hm).2 sampleId () m₁ _ m₂ hm₁ hm₂ (by simp)
  exact ⟨m, m₁, m₂, m₃, hm, hm₁, hm₂, hm₃, hstate, hretention.2 m₃ _ hm₃ hstate⟩

end Ztunnel.Manager
