import Mathlib.Data.List.AList
import Ztunnel.Lib.Transition
import Ztunnel.Rbac.Policy

/-!
# The certificates of the local workloads

`SecretManager` of `identity/manager.rs`: clients ask for the certificate of an identity or give it
up, and one worker fetches certificates from the CA and renews them. They share the map `certs`, in
which an identity that is managed has a channel with the state of its certificate; whatever else the
worker knows is its own. A client changes `certs` and then posts a request, in two steps, and
waiting requests get into the queue in any order.

`Worker::run` is a loop around a `select`, with a `Phase` for every place where it waits for the
lock of `certs` or reads the clock, so that clients can come in between; what the CA answers and how
long `ExponentialBackoff` waits are up to the event. The dropping of the manager, which ends the
loop, is left out, and so are calls that are dropped between the change and the post: their request
would stay undelivered for good.

Times are nanoseconds, of the monotonic clock (`Instant`) or of the calendar (`SystemTime`).
-/

namespace Ztunnel.Manager

open Ztunnel.Rbac

/-! ### Certificates and times -/

/-- `Priority`, from the lowest. -/
inductive Priority where
  | background
  | warmup
  | realTime
deriving DecidableEq, Repr, Ord

/-- `WorkloadCertificate`, by its `Expiration`. -/
structure WorkloadCertificate where
  notBefore : ℤ
  notAfter : ℤ
deriving DecidableEq, Repr

/-- `refresh_at`: half of the lifetime. -/
def WorkloadCertificate.refreshAt (cert : WorkloadCertificate) : ℤ :=
  if cert.notBefore ≤ cert.notAfter then
    cert.notBefore + (cert.notAfter - cert.notBefore) / 2
  else cert.notAfter

/-- `CertState`, with the errors of the CA client. -/
inductive CertState (E : Type) where
  | initializing (pri : Priority)
  | available (cert : WorkloadCertificate)
  | unavailable (err : E)
deriving DecidableEq, Repr

/-- `init_pri`. -/
def CertState.initPri {E : Type} : CertState E → Option Priority
  | .initializing pri => some pri
  | _ => none

/-- `time::Converter`, with the times that the platform represents. -/
structure Converter where
  now : ℤ
  sysNow : ℤ
  isInstant : ℤ → Bool
  isSystemTime : ℤ → Bool

namespace Converter

variable (conv : Converter)

/-- `system_time_to_instant`. -/
def systemTimeToInstant (t : ℤ) : Option ℤ :=
  if conv.sysNow ≤ t then some (conv.now + (t - conv.sysNow))
  else (some (conv.now - (conv.sysNow - t))).filter conv.isInstant

/-- `instant_to_system_time`. -/
def instantToSystemTime (t : ℤ) : Option ℤ :=
  if conv.now < t then (some (conv.sysNow + (t - conv.now))).filter conv.isSystemTime
  else (some (conv.sysNow - (conv.now - t))).filter conv.isSystemTime

end Converter

/-! ### The queue of the worker -/

/-- `PendingPriority`. -/
structure PendingPriority where
  priority : Priority
  time : ℤ
deriving DecidableEq, Repr

/-- `PendingPriority::cmp`: by priority, and the earlier time first. -/
def PendingPriority.cmp (a b : PendingPriority) : Ordering :=
  match compare a.priority b.priority with
  | .eq => compare b.time a.time
  | ne => ne

/-- `KeyedPriorityQueue`. -/
abbrev Queue := AList fun _ : Identity ↦ PendingPriority

/-- `push_increase`. -/
def pushIncrease (kp : Queue) (key : Identity) (priority : PendingPriority) : Queue :=
  if (kp.lookup key).all fun p ↦ priority.cmp p = .gt then kp.insert key priority else kp

/-- The key may be at the top of the queue, with its priority. -/
def Queue.top (kp : Queue) (key : Identity) : Option PendingPriority :=
  (kp.lookup key).filter fun p ↦ kp.entries.all fun entry ↦ entry.2.cmp p ≠ .gt

/-! ### The state -/

/-- `Request`. -/
inductive Request where
  | fetch (id : Identity) (pri : Priority)
  | forget (id : Identity)
deriving DecidableEq, Repr

namespace Request

/-- The identity of a request. -/
def id : Request → Identity
  | .fetch id _ => id
  | .forget id => id

/-- The request asks for the identity to be managed. -/
def wants : Request → Bool
  | .fetch _ _ => true
  | .forget _ => false

end Request

/-- The local `Fetch` of `Worker::run`. -/
inductive Fetch where
  | processing
  | forgetting
deriving DecidableEq, Repr

/-- A call of a client that is not finished. -/
inductive Call where
  /-- In `start_fetch`, with the receiver of a certificate that another call has asked for. -/
  | bumping (id : Identity) (pri : Priority) (rx : ℕ)
  /-- In `post`. -/
  | posting (req : Request)
deriving DecidableEq, Repr

/-- Where `Worker::run` is. -/
inductive Phase (E : Type) where
  /-- In `select`. -/
  | select
  /-- Before `has_id`. -/
  | received (req : Request)
  /-- After `has_id`. -/
  | checked (req : Request) (has : Bool)
  /-- A fetch has failed; before `get_existing_cert_info`. -/
  | failed (id : Identity) (err : E)
  /-- After `get_existing_cert_info`, before the next attempt is timed. -/
  | retrying (id : Identity) (err : E) (existing : Option (WorkloadCertificate × ℤ))
  /-- Before `update_certs`. -/
  | updating (id : Identity) (state : CertState E) (refreshAt : ℤ)
  /-- `update_certs` has returned true. -/
  | requeueing (id : Identity) (refreshAt : ℤ)
  /-- In `unreachable!`. -/
  | panicked
deriving DecidableEq, Repr

/-- `SecretManagerConfig`, with the backoffs as `ExponentialBackoff` implements them: a new one, and
`next_backoff`, given what it reads of the clock and the random source. -/
structure SecretManagerConfig (B : Type) where
  timeConv : Converter
  concurrency : ℕ
  concurrency_pos : 0 < concurrency
  newBackoff : B
  nextBackoff : B → ℕ → Option ℕ × B

/-- `SecretManager` and its `Worker`, with the locals of `Worker::run`. -/
structure SecretManager (E B : Type) where
  clock : ℤ
  /-- The channels of the managed identities. -/
  certs : AList fun _ : Identity ↦ ℕ
  /-- What has been sent last on each channel. -/
  channels : List (CertState E)
  calls : List Call
  requests : List Request
  phase : Phase E
  fetches : List Identity
  processing : AList fun _ : Identity ↦ Fetch
  pending : Queue
  pendingBackoffsById : AList fun _ : Identity ↦ B

/-- The capacity of the queue of requests. -/
def requestsCapacity : ℕ := 10

/-- `CERT_REFRESH_FAILURE_RETRY_DELAY_MAX_INTERVAL`, 150 seconds. -/
def certRefreshFailureRetryDelayMaxInterval : ℕ := 150000000000

namespace SecretManager

variable {E B : Type}

/-- `SecretManager::new_internal`. -/
def new (clock : ℤ) : SecretManager E B :=
  ⟨clock, ∅, [], [], [], .select, [], ∅, ∅, ∅⟩

/-- The state of the certificate of a managed identity. -/
def stateOf (m : SecretManager E B) (id : Identity) : Option (CertState E) :=
  (m.certs.lookup id).bind (m.channels[·]?)

/-! ### The clients -/

/-- `start_fetch`, as far as the lock is held. -/
def startFetch (m : SecretManager E B) (id : Identity) (pri : Priority) : SecretManager E B :=
  match m.certs.lookup id with
  | some rx => { m with calls := m.calls ++ [.bumping id pri rx] }
  | none =>
    { m with
      certs := m.certs.insert id m.channels.length
      channels := m.channels ++ [.initializing pri]
      calls := m.calls ++ [.posting (.fetch id pri)] }

/-- `forget_certificate`, as far as the lock is held. -/
def forgetCertificate (m : SecretManager E B) (id : Identity) : SecretManager E B :=
  if id ∈ m.certs then
    { m with certs := m.certs.erase id, calls := m.calls ++ [.posting (.forget id)] }
  else m

/-- A call goes on. -/
def goOn (m : SecretManager E B) (k : ℕ) : Option (SecretManager E B) :=
  match m.calls[k]? with
  | none => none
  | some (.bumping id pri rx) =>
    if (m.channels[rx]?.bind CertState.initPri).any fun existing ↦ compare pri existing = .gt then
      some { m with calls := m.calls.set k (.posting (.fetch id pri)) }
    else some { m with calls := m.calls.eraseIdx k }
  | some (.posting req) =>
    if m.requests.length < requestsCapacity then
      some { m with calls := m.calls.eraseIdx k, requests := m.requests ++ [req] }
    else none

/-! ### The worker -/

/-- A request is handled, after `has_id`. -/
def handle (m : SecretManager E B) : Request → Bool → SecretManager E B
  | .fetch _ _, false => m
  | .fetch id pri, true =>
    match m.processing.lookup id with
    | none => { m with pending := pushIncrease m.pending id ⟨pri, m.clock⟩ }
    | some .forgetting => { m with processing := m.processing.insert id .processing }
    | some .processing => m
  | .forget _, true => m
  | .forget id, false =>
    match m.processing.lookup id with
    | none => { m with pending := m.pending.erase id }
    | some .processing => { m with processing := m.processing.insert id .forgetting }
    | some .forgetting => m

/-- A fetch is complete, up to the first wait. -/
def complete (cfg : SecretManagerConfig B) (m : SecretManager E B) (id : Identity)
    (res : Except E WorkloadCertificate) : SecretManager E B :=
  match m.processing.lookup id with
  | none => { m with fetches := m.fetches.erase id, phase := .panicked }
  | some .forgetting =>
    { m with fetches := m.fetches.erase id, processing := m.processing.erase id }
  | some .processing =>
    match res with
    | .error err =>
      { m with
        fetches := m.fetches.erase id
        processing := m.processing.erase id
        phase := .failed id err }
    | .ok cert =>
      { m with
        fetches := m.fetches.erase id
        processing := m.processing.erase id
        pendingBackoffsById := m.pendingBackoffsById.erase id
        phase := .updating id (.available cert)
          ((cfg.timeConv.systemTimeToInstant cert.refreshAt).getD m.clock) }

/-- `get_existing_cert_info`. -/
def getExistingCertInfo (cfg : SecretManagerConfig B) (m : SecretManager E B) (id : Identity) :
    Option (WorkloadCertificate × ℤ) :=
  match m.stateOf id with
  | some (.available cert) =>
    (cfg.timeConv.instantToSystemTime m.clock).bind fun now ↦
      if now < cert.notAfter then
        (cfg.timeConv.systemTimeToInstant cert.notAfter).map fun expiry ↦ (cert, expiry)
      else none
  | _ => none

/-- The next attempt after a failure is timed. -/
def retry (cfg : SecretManagerConfig B) (m : SecretManager E B) (id : Identity) (err : E)
    (existing : Option (WorkloadCertificate × ℤ)) (r : ℕ) : SecretManager E B :=
  let next := cfg.nextBackoff ((m.pendingBackoffsById.lookup id).getD cfg.newBackoff) r
  let refreshAt : ℤ := m.clock + next.1.getD certRefreshFailureRetryDelayMaxInterval
  { m with
    pendingBackoffsById := m.pendingBackoffsById.insert id next.2
    phase := match existing with
      | some (cert, expiry) => .updating id (.available cert) (min refreshAt expiry)
      | none => .updating id (.unavailable err) refreshAt }

/-- `update_certs`. -/
def updateCerts (m : SecretManager E B) (id : Identity) (state : CertState E) (refreshAt : ℤ) :
    SecretManager E B :=
  match m.certs.lookup id with
  | some tx =>
    { m with channels := m.channels.set tx state, phase := .requeueing id refreshAt }
  | none => { m with phase := .select }

/-- What happens to the manager. -/
inductive Event (E : Type) where
  | startFetch (id : Identity) (pri : Priority)
  | forgetCertificate (id : Identity)
  | goOn (k : ℕ)
  | advance (d : ℕ)
  | recv
  | hasId
  | handle
  | complete (id : Identity) (res : Except E WorkloadCertificate)
  | existing
  | retry (r : ℕ)
  | update
  | requeue
  | start (id : Identity)

/-- One step of a client or the worker. -/
def step (cfg : SecretManagerConfig B) (m : SecretManager E B) :
    Event E → Option (SecretManager E B)
  | .startFetch id pri => some (m.startFetch id pri)
  | .forgetCertificate id => some (m.forgetCertificate id)
  | .goOn k => m.goOn k
  | .advance d => some { m with clock := m.clock + d }
  | .recv =>
    match m.phase, m.requests with
    | .select, req :: rest => some { m with requests := rest, phase := .received req }
    | _, _ => none
  | .hasId =>
    match m.phase with
    | .received req => some { m with phase := .checked req (req.id ∈ m.certs) }
    | _ => none
  | .handle =>
    match m.phase with
    | .checked req has => some { m.handle req has with phase := .select }
    | _ => none
  | .complete id res =>
    match m.phase with
    | .select => if id ∈ m.fetches then some (m.complete cfg id res) else none
    | _ => none
  | .existing =>
    match m.phase with
    | .failed id err => some { m with phase := .retrying id err (m.getExistingCertInfo cfg id) }
    | _ => none
  | .retry r =>
    match m.phase with
    | .retrying id err existing => some (m.retry cfg id err existing r)
    | _ => none
  | .update =>
    match m.phase with
    | .updating id state refreshAt => some (m.updateCerts id state refreshAt)
    | _ => none
  | .requeue =>
    match m.phase with
    | .requeueing id refreshAt =>
      some { m with
        pending := pushIncrease m.pending id ⟨.background, refreshAt⟩
        phase := .select }
    | _ => none
  | .start id =>
    match m.phase, m.pending.top id with
    | .select, some p =>
      if m.fetches.length < cfg.concurrency ∧ p.time ≤ m.clock then
        some { m with
          pending := m.pending.erase id
          processing := m.processing.insert id .processing
          fetches := m.fetches ++ [id] }
      else none
    | _, _ => none

/-! ### What a step can do -/

/-- The transitions of the manager, by where the worker is and what it finds. -/
inductive Stepped (cfg : SecretManagerConfig B) (m : SecretManager E B) :
    Event E → SecretManager E B → Prop
  | opened (id : Identity) (pri : Priority) (hnot : m.certs.lookup id = none) :
    Stepped cfg m (.startFetch id pri)
      { m with
        certs := m.certs.insert id m.channels.length
        channels := m.channels ++ [.initializing pri]
        calls := m.calls ++ [.posting (.fetch id pri)] }
  | joined (id : Identity) (pri : Priority) (rx : ℕ) :
    Stepped cfg m (.startFetch id pri) { m with calls := m.calls ++ [.bumping id pri rx] }
  | forgotten (id : Identity) :
    Stepped cfg m (.forgetCertificate id)
      { m with certs := m.certs.erase id, calls := m.calls ++ [.posting (.forget id)] }
  | unknown (id : Identity) : Stepped cfg m (.forgetCertificate id) m
  | bumped (k : ℕ) (id : Identity) (pri : Priority) (rx : ℕ)
    (hcall : m.calls[k]? = some (.bumping id pri rx)) :
    Stepped cfg m (.goOn k) { m with calls := m.calls.set k (.posting (.fetch id pri)) }
  | settled (k : ℕ) (id : Identity) (pri : Priority) (rx : ℕ)
    (hcall : m.calls[k]? = some (.bumping id pri rx)) :
    Stepped cfg m (.goOn k) { m with calls := m.calls.eraseIdx k }
  | posted (k : ℕ) (req : Request) (hcall : m.calls[k]? = some (.posting req)) :
    Stepped cfg m (.goOn k)
      { m with calls := m.calls.eraseIdx k, requests := m.requests ++ [req] }
  | advanced (d : ℕ) : Stepped cfg m (.advance d) { m with clock := m.clock + d }
  | received (req : Request) (rest : List Request) (hphase : m.phase = .select)
    (hrequests : m.requests = req :: rest) :
    Stepped cfg m .recv { m with requests := rest, phase := .received req }
  | looked (req : Request) (hphase : m.phase = .received req) :
    Stepped cfg m .hasId { m with phase := .checked req (req.id ∈ m.certs) }
  /-- The request is stale, or says what the worker does already. -/
  | ignored (req : Request) (has : Bool) (hphase : m.phase = .checked req has)
    (hwants : req.wants = has → m.processing.lookup req.id =
      some (if has then .processing else .forgetting)) :
    Stepped cfg m .handle { m with phase := .select }
  | queued (id : Identity) (pri : Priority) (hphase : m.phase = .checked (.fetch id pri) true)
    (hnone : m.processing.lookup id = none) :
    Stepped cfg m .handle
      { m with pending := pushIncrease m.pending id ⟨pri, m.clock⟩, phase := .select }
  | resumed (id : Identity) (pri : Priority) (hphase : m.phase = .checked (.fetch id pri) true)
    (hforgetting : m.processing.lookup id = some .forgetting) :
    Stepped cfg m .handle
      { m with processing := m.processing.insert id .processing, phase := .select }
  | unqueued (id : Identity) (hphase : m.phase = .checked (.forget id) false)
    (hnone : m.processing.lookup id = none) :
    Stepped cfg m .handle { m with pending := m.pending.erase id, phase := .select }
  | marked (id : Identity) (hphase : m.phase = .checked (.forget id) false)
    (hprocessing : m.processing.lookup id = some .processing) :
    Stepped cfg m .handle
      { m with processing := m.processing.insert id .forgetting, phase := .select }
  | panicked (id : Identity) (res : Except E WorkloadCertificate) (hphase : m.phase = .select)
    (hfetch : id ∈ m.fetches) (hnone : m.processing.lookup id = none) :
    Stepped cfg m (.complete id res) { m with fetches := m.fetches.erase id, phase := .panicked }
  | abandoned (id : Identity) (res : Except E WorkloadCertificate) (hphase : m.phase = .select)
    (hfetch : id ∈ m.fetches) (hforgetting : m.processing.lookup id = some .forgetting) :
    Stepped cfg m (.complete id res)
      { m with fetches := m.fetches.erase id, processing := m.processing.erase id }
  | failed (id : Identity) (err : E) (hphase : m.phase = .select) (hfetch : id ∈ m.fetches)
    (hprocessing : m.processing.lookup id = some .processing) :
    Stepped cfg m (.complete id (.error err))
      { m with
        fetches := m.fetches.erase id
        processing := m.processing.erase id
        phase := .failed id err }
  | renewed (id : Identity) (cert : WorkloadCertificate) (hphase : m.phase = .select)
    (hfetch : id ∈ m.fetches) (hprocessing : m.processing.lookup id = some .processing) :
    Stepped cfg m (.complete id (.ok cert))
      { m with
        fetches := m.fetches.erase id
        processing := m.processing.erase id
        pendingBackoffsById := m.pendingBackoffsById.erase id
        phase := .updating id (.available cert)
          ((cfg.timeConv.systemTimeToInstant cert.refreshAt).getD m.clock) }
  | existing (id : Identity) (err : E) (hphase : m.phase = .failed id err) :
    Stepped cfg m .existing { m with phase := .retrying id err (m.getExistingCertInfo cfg id) }
  | retried (id : Identity) (err : E) (existing : Option (WorkloadCertificate × ℤ)) (r : ℕ)
    (hphase : m.phase = .retrying id err existing) :
    Stepped cfg m (.retry r) (m.retry cfg id err existing r)
  | published (id : Identity) (state : CertState E) (refreshAt : ℤ) (tx : ℕ)
    (hphase : m.phase = .updating id state refreshAt) (htx : m.certs.lookup id = some tx) :
    Stepped cfg m .update
      { m with channels := m.channels.set tx state, phase := .requeueing id refreshAt }
  | unmanaged (id : Identity) (state : CertState E) (refreshAt : ℤ)
    (hphase : m.phase = .updating id state refreshAt) (hnone : m.certs.lookup id = none) :
    Stepped cfg m .update { m with phase := .select }
  | requeued (id : Identity) (refreshAt : ℤ) (hphase : m.phase = .requeueing id refreshAt) :
    Stepped cfg m .requeue
      { m with
        pending := pushIncrease m.pending id ⟨.background, refreshAt⟩
        phase := .select }
  | started (id : Identity) (p : PendingPriority) (hphase : m.phase = .select)
    (htop : m.pending.top id = some p) (hroom : m.fetches.length < cfg.concurrency)
    (hdue : p.time ≤ m.clock) :
    Stepped cfg m (.start id)
      { m with
        pending := m.pending.erase id
        processing := m.processing.insert id .processing
        fetches := m.fetches ++ [id] }

section Inversion

variable {cfg : SecretManagerConfig B} {m m' : SecretManager E B}

theorem stepped_of_goOn {k : ℕ} (h : m.goOn k = some m') : Stepped cfg m (.goOn k) m' := by
  unfold goOn at h
  split at h
  · cases h
  · next id pri rx hcall =>
    split at h <;> cases h
    · exact .bumped k id pri rx hcall
    · exact .settled k id pri rx hcall
  · next req hcall =>
    split at h <;> cases h
    exact .posted k req hcall

theorem stepped_of_handle {req : Request} {has : Bool} (hphase : m.phase = .checked req has) :
    Stepped cfg m .handle { m.handle req has with phase := .select } := by
  have hstale (hne : req.wants ≠ has) : Stepped cfg m .handle { m with phase := .select } :=
    .ignored req has hphase fun heq ↦ absurd heq hne
  unfold handle
  split
  · exact hstale Bool.noConfusion
  · next id pri =>
    split
    · next hnone => exact .queued id pri hphase hnone
    · next hforgetting => exact .resumed id pri hphase hforgetting
    · next hprocessing => exact .ignored _ _ hphase fun _ ↦ hprocessing
  · exact hstale Bool.noConfusion
  · next id =>
    split
    · next hnone => exact .unqueued id hphase hnone
    · next hprocessing => exact .marked id hphase hprocessing
    · next hforgetting => exact .ignored _ _ hphase fun _ ↦ hforgetting

theorem stepped_of_complete {id : Identity} (res : Except E WorkloadCertificate)
    (hphase : m.phase = .select) (hfetch : id ∈ m.fetches) :
    Stepped cfg m (.complete id res) (m.complete cfg id res) := by
  unfold complete
  split
  · next hnone => exact .panicked id res hphase hfetch hnone
  · next hforgetting => exact .abandoned id res hphase hfetch hforgetting
  · next hprocessing =>
    cases res with
    | error err => exact .failed id err hphase hfetch hprocessing
    | ok cert => exact .renewed id cert hphase hfetch hprocessing

theorem stepped_of_step {e : Event E} (h : m.step cfg e = some m') : Stepped cfg m e m' := by
  cases e with
  | startFetch id pri =>
    cases h
    unfold startFetch
    split
    · next rx _ => exact .joined id pri rx
    · next hnone => exact .opened id pri hnone
  | forgetCertificate id =>
    cases h
    unfold forgetCertificate
    split
    · exact .forgotten id
    · exact .unknown id
  | goOn k => exact stepped_of_goOn h
  | advance d =>
    cases h
    exact .advanced d
  | recv =>
    dsimp only [step] at h
    split at h <;> cases h
    next req rest hphase hrequests => exact .received req rest hphase hrequests
  | hasId =>
    dsimp only [step] at h
    split at h <;> cases h
    next req hphase => exact .looked req hphase
  | handle =>
    dsimp only [step] at h
    split at h <;> cases h
    next req has hphase => exact stepped_of_handle hphase
  | complete id res =>
    dsimp only [step] at h
    split at h
    · next hphase =>
      split at h <;> cases h
      next hfetch => exact stepped_of_complete res hphase hfetch
    · cases h
  | existing =>
    dsimp only [step] at h
    split at h <;> cases h
    next id err hphase => exact .existing id err hphase
  | retry r =>
    dsimp only [step] at h
    split at h <;> cases h
    next id err existing hphase => exact .retried id err existing r hphase
  | update =>
    dsimp only [step] at h
    split at h <;> cases h
    next id state refreshAt hphase =>
      unfold updateCerts
      split
      · next tx htx => exact .published id state refreshAt tx hphase htx
      · next hnone => exact .unmanaged id state refreshAt hphase hnone
  | requeue =>
    dsimp only [step] at h
    split at h <;> cases h
    next id refreshAt hphase => exact .requeued id refreshAt hphase
  | start id =>
    dsimp only [step] at h
    split at h
    · next p hphase htop =>
      split at h <;> cases h
      next hguard => exact .started id p hphase htop hguard.1 hguard.2
    · cases h

end Inversion

end SecretManager

end Ztunnel.Manager
