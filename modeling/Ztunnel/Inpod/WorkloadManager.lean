import Ztunnel.Inpod.StateManager

/-!
# The in-pod workload manager

`WorkloadProxyManager` of `workloadmanager.rs`: connects to the node agent, announces itself, reads
messages and answers each with an ack or a nack, and connects again when the connection ends. A
workload whose proxy did not start is tried again when a timer runs out; the timer is taken out of
the processor while a message is awaited and put back when the message comes first.

The reads, the sends, the timer and the end of a connection are events. How long the timer and the
waits between connections last is not modelled: an armed timer may run out at any time. `step` is a
function, so that a run is a list of events; what a connection is answered does not matter beyond
whether the answer could be sent.
-/

namespace Ztunnel.Inpod

open Ztunnel.State Ztunnel.Firewall Transition

/-- Where the manager is. -/
inductive Phase where
  /-- In `networking.connect()`, or in the sleep after a failed announcement. -/
  | connecting
  /-- In `send_hello`. -/
  | announcing
  /-- In `read_message`, next to an armed timer or alone. -/
  | reading (timer : Bool)
  /-- In `send_ack` or `send_nack`, with the result of the message. -/
  | replying (result : Except Error Unit)
  /-- Out of `run_internal`. -/
  | stopped

/-- `WorkloadProxyManager`, with `next_pending_retry` of the processor of the connection. -/
structure WorkloadProxyManager where
  state : WorkloadProxyManagerState
  /-- `block_ready.is_some()`. -/
  blockReady : Bool
  /-- `next_pending_retry.is_some()`. -/
  nextPendingRetry : Bool
  phase : Phase

/-- What happens to the manager. -/
inductive Event where
  | accept
  | announced (ok : Bool)
  /-- The timer runs out, with the order of the pending workloads and the result for each. -/
  | timer (order : List Strng) (start : Strng → Except Strng Unit)
  | message (msg : WorkloadMessage) (env : Env)
  | eof
  | readError
  /-- The ack or nack is sent or fails. -/
  | replied (ok : Bool)
  | drain

namespace WorkloadProxyManager

variable (m : WorkloadProxyManager)

/-- `WorkloadProxyManager::new`. -/
def new (firewall : Bool) : WorkloadProxyManager :=
  ⟨.new firewall, true, false, .connecting⟩

/-- `mark_ready`. -/
def markReady : WorkloadProxyManager := { m with blockReady := false }

/-- `not_ready`. -/
def notReady : WorkloadProxyManager := { m with blockReady := true }

/-- `check_ready`. -/
def checkReady : WorkloadProxyManager := if m.state.ready then m.markReady else m.notReady

/-- `schedule_retry`. -/
def scheduleRetry : WorkloadProxyManager := { m with nextPendingRetry := true }

/-- `retry_proxies`. -/
def retryProxies (order : List Strng) (start : Strng → Except Strng Unit) : WorkloadProxyManager :=
  let m := { m with state := m.state.retryPending order start }
  if m.state.havePending then m.scheduleRetry
  else { m with nextPendingRetry := false }.checkReady

/-- The top of the loop of `read_message_and_retry_proxies`: the timer is taken. -/
def awaitMessage : WorkloadProxyManager :=
  { m with nextPendingRetry := false, phase := .reading m.nextPendingRetry }

/-- The loop body of `process` up to the answer. -/
def process (msg : WorkloadMessage) (env : Env) : WorkloadProxyManager :=
  let processed := m.state.processMsg msg env
  let m := { m with state := processed.1, phase := .replying processed.2 }
  match processed.2 with
  | .ok () => m.checkReady
  | .error (.proxyError _ _) => m.scheduleRetry
  | .error _ => m

/-- The end of a connection that is followed by another one. -/
def disconnect : WorkloadProxyManager := { m.notReady with phase := .connecting }

/-- The rest of the loop body of `process`, and of `run_internal` if `process` returns. -/
def afterReply (result : Except Error Unit) (ok : Bool) : WorkloadProxyManager :=
  if ok then
    match result with
    | .ok () => m.awaitMessage
    | .error (.proxyError _ _) => m.awaitMessage
    | .error (.protocolError _) => { m.notReady with phase := .stopped }
    | .error _ => m.disconnect
  else m.disconnect

/-- One event of the manager. -/
def step (m : WorkloadProxyManager) (event : Event) : Option WorkloadProxyManager :=
  match m.phase, event with
  | .connecting, .accept =>
    some { m with
      state := m.state.resetSnapshot
      nextPendingRetry := false
      phase := .announcing }
  | .connecting, .drain => some { m with phase := .stopped }
  | .announcing, .announced ok => some (if ok then m.awaitMessage else m.disconnect)
  | .reading true, .timer order start =>
    if order.Perm m.state.pendingWorkloads.keys then
      some (m.retryProxies order start).awaitMessage
    else none
  | .reading timer, .message msg env =>
    if env.order.Perm m.state.unnamed then
      some ({ m with nextPendingRetry := timer }.process msg env)
    else none
  | .reading _, .eof => some m.disconnect
  | .reading _, .readError => some m.disconnect
  | .replying result, .replied ok => some (m.afterReply result ok)
  | _, _ => none

variable {m} {m' : WorkloadProxyManager} {event : Event}

theorem step_cases (h : m.step event = some m') :
    (m.phase = .connecting ∧ event = .accept ∧ m' = { m with
      state := m.state.resetSnapshot
      nextPendingRetry := false
      phase := .announcing }) ∨
    (event = .drain ∧ m' = { m with phase := .stopped }) ∨
    (∃ ok, m.phase = .announcing ∧ event = .announced ok ∧
      m' = if ok then m.awaitMessage else m.disconnect) ∨
    (∃ order start, m.phase = .reading true ∧ event = .timer order start ∧
      order.Perm m.state.pendingWorkloads.keys ∧ m' = (m.retryProxies order start).awaitMessage) ∨
    (∃ timer msg env, m.phase = .reading timer ∧ event = .message msg env ∧
      env.order.Perm m.state.unnamed ∧ m' = { m with nextPendingRetry := timer }.process msg env) ∨
    ((event = .eof ∨ event = .readError) ∧ m' = m.disconnect) ∨
    (∃ result ok, m.phase = .replying result ∧ event = .replied ok ∧
      m' = m.afterReply result ok) := by
  unfold step at h
  split at h
  · next hphase => exact .inl ⟨hphase, rfl, (Option.some.inj h).symm⟩
  · exact .inr (.inl ⟨rfl, (Option.some.inj h).symm⟩)
  · next ok hphase => exact .inr (.inr (.inl ⟨ok, hphase, rfl, (Option.some.inj h).symm⟩))
  · next order start hphase =>
    split at h
    · next hperm =>
      exact .inr (.inr (.inr (.inl ⟨order, start, hphase, rfl, hperm, (Option.some.inj h).symm⟩)))
    · cases h
  · next timer msg env hphase =>
    split at h
    · next hperm =>
      exact .inr (.inr (.inr (.inr (.inl
        ⟨timer, msg, env, hphase, rfl, hperm, (Option.some.inj h).symm⟩))))
    · cases h
  · exact .inr (.inr (.inr (.inr (.inr (.inl ⟨.inl rfl, (Option.some.inj h).symm⟩)))))
  · exact .inr (.inr (.inr (.inr (.inr (.inl ⟨.inr rfl, (Option.some.inj h).symm⟩)))))
  · next result ok hphase =>
    have heq := (Option.some.inj h).symm
    exact .inr (.inr (.inr (.inr (.inr (.inr ⟨result, ok, hphase, rfl, heq⟩)))))
  · cases h

/-! ### One workload along a run -/

@[simp]
theorem state_checkReady (m : WorkloadProxyManager) : m.checkReady.state = m.state := by
  unfold checkReady
  split <;> rfl

@[simp]
theorem state_afterReply (m : WorkloadProxyManager) (result : Except Error Unit) (ok : Bool) :
    (m.afterReply result ok).state = m.state := by
  unfold afterReply
  split
  · split <;> rfl
  · rfl

@[simp]
theorem state_process (m : WorkloadProxyManager) (msg : WorkloadMessage) (env : Env) :
    (m.process msg env).state = (m.state.processMsg msg env).1 := by
  dsimp only [process]
  split
  · exact state_checkReady _
  · rfl
  · rfl

@[simp]
theorem state_retryProxies (m : WorkloadProxyManager) (order : List Strng)
    (start : Strng → Except Strng Unit) :
    (m.retryProxies order start).state = m.state.retryPending order start := by
  dsimp only [retryProxies]
  split
  · rfl
  · exact state_checkReady _

end WorkloadProxyManager

/-- An event of the manager, seen by the workload `uid`. -/
def View.next (uid : Strng) (v : View) : Event → View
  | .accept => v.reset
  | .timer _ start => v.retry uid (start uid)
  | .message msg env => v.receive uid env.start msg
  | _ => v

namespace WorkloadProxyManager

variable {m m' : WorkloadProxyManager} {event : Event}

/-- **One workload along a run.** An event does to the view of a workload what `View.next` says. -/
theorem view_step (h : m.step event = some m') (uid : Strng) :
    m'.state.view uid = (m.state.view uid).next uid event := by
  obtain ⟨-, rfl, rfl⟩ | ⟨rfl, rfl⟩ | ⟨ok, -, rfl, rfl⟩ | ⟨order, start, -, rfl, hperm, rfl⟩ |
    ⟨timer, msg, env, -, rfl, hperm, rfl⟩ | ⟨hevent, rfl⟩ | ⟨result, ok, -, rfl, rfl⟩ :=
    step_cases h
  · rfl
  · rfl
  · cases ok <;> rfl
  · show ((m.retryProxies order start).state).view uid = _
    rw [state_retryProxies]
    exact m.state.view_retryPending hperm start uid
  · rw [state_process]
    exact m.state.view_processMsg msg hperm uid
  · obtain rfl | rfl := hevent <;> rfl
  · rw [state_afterReply]
    rfl

/-! ### The retry timer -/

theorem process_cases (m : WorkloadProxyManager) (msg : WorkloadMessage) (env : Env) :
    ((m.state.processMsg msg env).2 = .ok () ∧ m.process msg env = { m with
      state := (m.state.processMsg msg env).1
      phase := .replying (.ok ()) }.checkReady) ∨
    (∃ uid text, (m.state.processMsg msg env).2 = .error (.proxyError uid text) ∧
      m.process msg env = { m with
        state := (m.state.processMsg msg env).1
        nextPendingRetry := true
        phase := .replying (.error (.proxyError uid text)) }) ∨
    (∃ text, (m.state.processMsg msg env).1 = m.state ∧
      m.process msg env = { m with phase := .replying (.error (.protocolError text)) }) := by
  dsimp only [process]
  cases hresult : (m.state.processMsg msg env).2 with
  | ok => exact .inl ⟨rfl, rfl⟩
  | error e =>
    obtain ⟨text, rfl, hstate⟩ | ⟨uid, text, rfl, -⟩ | ⟨uid, text, rfl, -⟩ :=
      m.state.processMsg_error hresult
    · refine .inr (.inr ⟨text, hstate, ?_⟩)
      dsimp only
      rw [hstate]
    · exact .inr (.inl ⟨uid, text, rfl, rfl⟩)
    · exact .inr (.inl ⟨uid, text, rfl, rfl⟩)

/-- The manager has a connection. -/
def connected (m : WorkloadProxyManager) : Bool :=
  match m.phase with
  | .announcing | .reading _ | .replying _ => true
  | .connecting | .stopped => false

/-- A timer runs: next to the awaited message, or in the processor. -/
def armed (m : WorkloadProxyManager) : Bool :=
  match m.phase with
  | .reading timer => timer
  | _ => m.nextPendingRetry

@[simp]
theorem nextPendingRetry_checkReady (m : WorkloadProxyManager) :
    m.checkReady.nextPendingRetry = m.nextPendingRetry := by
  unfold checkReady
  split <;> rfl

@[simp]
theorem phase_checkReady (m : WorkloadProxyManager) : m.checkReady.phase = m.phase := by
  unfold checkReady
  split <;> rfl

/-- Pending workloads on a connection are retried. -/
def Retried (m : WorkloadProxyManager) : Prop :=
  m.connected = true → m.state.havePending = true → m.armed = true

theorem Retried.process {timer : Bool} (hphase : m.phase = .reading timer) (hm : m.Retried)
    {msg : WorkloadMessage} {env : Env} (henv : env.order.Perm m.state.unnamed) :
    ({ m with nextPendingRetry := timer }.process msg env).Retried := by
  have hold : m.state.havePending = true → timer = true := by
    simpa [Retried, connected, armed, hphase] using hm
  obtain ⟨hok, heq⟩ | ⟨uid, text, -, heq⟩ | ⟨text, -, heq⟩ :=
    process_cases { m with nextPendingRetry := timer } msg env
  · rw [heq]
    intro _ hpending
    rw [state_checkReady] at hpending
    have hfails : m.state.startFails msg env = false := by
      by_contra hfails
      obtain ⟨⟨uid, text, herror⟩, -⟩ :=
        m.state.processMsg_of_startFails (Bool.eq_true_of_not_eq_false hfails)
      cases hok.symm.trans herror
    simpa [armed] using hold (m.state.pending_of_processMsg henv hpending hfails)
  · rw [heq]
    exact fun _ _ ↦ rfl
  · rw [heq]
    exact fun _ hpending ↦ hold hpending

theorem Retried.retryProxies (m : WorkloadProxyManager) (order : List Strng)
    (start : Strng → Except Strng Unit) : (m.retryProxies order start).awaitMessage.Retried := by
  intro _ hpending
  change (m.retryProxies order start).state.havePending = true at hpending
  rw [state_retryProxies] at hpending
  show (m.retryProxies order start).nextPendingRetry = true
  dsimp only [WorkloadProxyManager.retryProxies]
  rw [if_pos hpending]
  rfl

theorem Retried.awaitMessage (hm : m.Retried) (hconnected : m.connected = true)
    (hphase : ∀ timer, m.phase ≠ .reading timer) : m.awaitMessage.Retried := by
  intro _ hpending
  have harmed := hm hconnected hpending
  unfold armed at harmed
  split at harmed
  · next timer h => exact absurd h (hphase timer)
  · exact harmed

theorem Retried.disconnect (m : WorkloadProxyManager) : m.disconnect.Retried :=
  fun h ↦ nomatch h

theorem Retried.afterReply {result : Except Error Unit} (hphase : m.phase = .replying result)
    (hm : m.Retried) (ok : Bool) : (m.afterReply result ok).Retried := by
  have hconnected : m.connected = true := by rw [connected, hphase]
  have hawait : m.awaitMessage.Retried := hm.awaitMessage hconnected (by simp [hphase])
  unfold WorkloadProxyManager.afterReply
  split
  · split
    · exact hawait
    · exact hawait
    · exact fun h ↦ nomatch h
    · exact Retried.disconnect m
  · exact Retried.disconnect m

theorem Retried.step (h : m.step event = some m') (hm : m.Retried) : m'.Retried := by
  obtain ⟨-, rfl, rfl⟩ | ⟨rfl, rfl⟩ | ⟨ok, hphase, rfl, rfl⟩ | ⟨order, start, -, rfl, -, rfl⟩ |
    ⟨timer, msg, env, hphase, rfl, hperm, rfl⟩ | ⟨-, rfl⟩ | ⟨result, ok, hphase, rfl, rfl⟩ :=
    step_cases h
  · exact fun _ hpending ↦ nomatch hpending
  · exact fun h ↦ nomatch h
  · have hconnected : m.connected = true := by rw [connected, hphase]
    cases ok with
    | true => exact hm.awaitMessage hconnected (by simp [hphase])
    | false => exact Retried.disconnect m
  · exact Retried.retryProxies m order start
  · exact hm.process hphase hperm
  · exact Retried.disconnect m
  · exact hm.afterReply hphase ok

/-! ### Readiness -/

/-- The block is released exactly when the state is ready, and held between connections. -/
structure Accurate (m : WorkloadProxyManager) : Prop where
  released_iff : m.connected = true → (m.blockReady = false ↔ m.state.ready = true)
  held : m.phase = .connecting → m.blockReady = true

/-- The event is not a message whose proxy fails to start while the block is released. -/
def failsHeld (m : WorkloadProxyManager) : Event → Bool
  | .message msg env => !m.state.startFails msg env || m.blockReady
  | _ => true

theorem Accurate.checkReady {m : WorkloadProxyManager} (hphase : m.phase ≠ .connecting) :
    m.checkReady.Accurate := by
  refine ⟨fun _ ↦ ?_, fun h ↦ absurd (phase_checkReady m ▸ h) hphase⟩
  rw [state_checkReady]
  unfold WorkloadProxyManager.checkReady
  split
  · next hready => exact ⟨fun _ ↦ hready, fun _ ↦ rfl⟩
  · next hready => exact ⟨(fun h ↦ nomatch h), fun h ↦ absurd h hready⟩

theorem Accurate.disconnect (m : WorkloadProxyManager) : m.disconnect.Accurate :=
  ⟨(fun h ↦ nomatch h), fun _ ↦ rfl⟩

theorem Accurate.awaitMessage (hm : m.Accurate) (hconnected : m.connected = true) :
    m.awaitMessage.Accurate :=
  ⟨fun _ ↦ hm.released_iff hconnected, fun h ↦ nomatch h⟩

theorem Accurate.process {timer : Bool} (hphase : m.phase = .reading timer) (hm : m.Accurate)
    {msg : WorkloadMessage} {env : Env} (hok : m.failsHeld (.message msg env) = true) :
    ({ m with nextPendingRetry := timer }.process msg env).Accurate := by
  have hiff : m.blockReady = false ↔ m.state.ready = true :=
    hm.released_iff (by rw [connected, hphase])
  obtain ⟨-, heq⟩ | ⟨uid, text, herror, heq⟩ | ⟨text, -, heq⟩ :=
    process_cases { m with nextPendingRetry := timer } msg env
  · rw [heq]
    exact Accurate.checkReady fun h ↦ nomatch h
  · rw [heq]
    refine ⟨fun _ ↦ ?_, fun h ↦ nomatch h⟩
    obtain ⟨_, hcontra, -⟩ | ⟨u, _, -, hstate⟩ | ⟨_, _, -, hfails⟩ :=
      m.state.processMsg_error herror
    · cases hcontra
    · dsimp only
      rw [hstate, WorkloadProxyManagerState.ready_noteName]
      exact hiff
    · have hpending := (m.state.processMsg_of_startFails hfails).2
      have hheld : m.blockReady = true := by simpa [failsHeld, hfails] using hok
      simp [hheld, WorkloadProxyManagerState.ready_of_havePending _ hpending]
  · rw [heq]
    exact ⟨fun _ ↦ hiff, fun h ↦ nomatch h⟩

theorem Accurate.retryProxies (hphase : m.phase = .reading true) (hm : m.Accurate)
    {order : List Strng} (horder : order.Perm m.state.pendingWorkloads.keys)
    (start : Strng → Except Strng Unit) : (m.retryProxies order start).awaitMessage.Accurate := by
  have hiff : m.blockReady = false ↔ m.state.ready = true :=
    hm.released_iff (by rw [connected, hphase])
  cases hpending : (m.state.retryPending order start).havePending with
  | true =>
    -- the workload was pending before, so the block was held
    have hbefore := m.state.pending_of_retryPending horder hpending
    have hstate : m.retryProxies order start = { m with
        state := m.state.retryPending order start
        nextPendingRetry := true } := if_pos hpending
    rw [hstate]
    refine ⟨fun _ ↦ ?_, fun h ↦ nomatch h⟩
    have hsame : (m.state.retryPending order start).ready = m.state.ready :=
      (WorkloadProxyManagerState.ready_of_havePending _ hpending).trans
        (WorkloadProxyManagerState.ready_of_havePending _ hbefore).symm
    show m.blockReady = false ↔ (m.state.retryPending order start).ready = true
    rw [hsame]
    exact hiff
  | false =>
    have hstate : m.retryProxies order start = { m with
        state := m.state.retryPending order start
        nextPendingRetry := false }.checkReady := if_neg (by simp [hpending])
    rw [hstate]
    refine Accurate.awaitMessage (Accurate.checkReady ?_) ?_
    · simp [hphase]
    · simp [connected, hphase]

theorem Accurate.afterReply {result : Except Error Unit} (hphase : m.phase = .replying result)
    (hm : m.Accurate) (ok : Bool) : (m.afterReply result ok).Accurate := by
  have hawait : m.awaitMessage.Accurate := hm.awaitMessage (by rw [connected, hphase])
  unfold WorkloadProxyManager.afterReply
  split
  · split
    · exact hawait
    · exact hawait
    · exact ⟨(fun h ↦ nomatch h), fun h ↦ nomatch h⟩
    · exact Accurate.disconnect m
  · exact Accurate.disconnect m

theorem Accurate.step (h : m.step event = some m') (hok : m.failsHeld event = true)
    (hm : m.Accurate) : m'.Accurate := by
  obtain ⟨hphase, rfl, rfl⟩ | ⟨rfl, rfl⟩ | ⟨ok, hphase, rfl, rfl⟩ |
    ⟨order, start, hphase, rfl, hperm, rfl⟩ | ⟨timer, msg, env, hphase, rfl, -, rfl⟩ | ⟨-, rfl⟩ |
    ⟨result, ok, hphase, rfl, rfl⟩ := step_cases h
  · refine ⟨fun _ ↦ ?_, fun hconnecting ↦ by cases hconnecting⟩
    simp [hm.held hphase, WorkloadProxyManagerState.ready, WorkloadProxyManagerState.resetSnapshot]
  · exact ⟨(fun hconnected ↦ by cases hconnected), fun hconnecting ↦ by cases hconnecting⟩
  · cases ok with
    | true => exact hm.awaitMessage (by rw [connected, hphase])
    | false => exact Accurate.disconnect m
  · exact hm.retryProxies hphase hperm start
  · exact hm.process hphase hok
  · exact Accurate.disconnect m
  · exact hm.afterReply hphase ok

/-- **Readiness is accurate** while no proxy fails to start after the manager was ready: on a
connection the block is released exactly when a snapshot was received and nothing is pending. -/
theorem released_iff_ready {firewall : Bool} {events : List Event} {m : WorkloadProxyManager}
    (hrun : run (restrict (fun m event ↦ m.failsHeld event = true) step)
      (new firewall) events = some m) (hconnected : m.connected = true) :
    m.blockReady = false ↔ m.state.ready = true := by
  have haccurate : m.Accurate := by
    refine run_induction hrun ⟨(fun h ↦ nomatch h), fun _ ↦ rfl⟩ ?_
    intro event _ m m' hm hstep
    obtain ⟨hok, hstep⟩ := restrict_eq_some.1 hstep
    exact hm.step hstep hok
  exact haccurate.released_iff hconnected

/-- A workload that starts at its second try, after the end of the snapshot. -/
def lateStartRun : List Event :=
  [.accept, .announced true,
    .message (.addWorkload "pod" (some ⟨"sleep", "default", "sleep"⟩) (.ok 1))
      ⟨.error "address in use", []⟩,
    .replied true, .message .workloadSnapshotSent ⟨.ok (), []⟩, .replied true,
    .timer ["pod"] fun _ ↦ .ok ()]

theorem released_iff_ready_lateStartRun :
    ∃ m, run (restrict (fun m event ↦ m.failsHeld event = true) step)
      (new true) lateStartRun = some m ∧ m.state.ready = true ∧ m.blockReady = false := by
  refine exists_run (fun m ↦ m.connected = true ∧ m.state.ready = true) (by decide) ?_
  rintro m hm ⟨hconnected, hready⟩
  exact ⟨hready, (released_iff_ready hm hconnected).2 hready⟩

/-- A workload is added after the end of the snapshot, and its proxy does not start. -/
def failedStartRun : List Event :=
  [.accept, .announced true, .message .workloadSnapshotSent ⟨.ok (), []⟩, .replied true,
    .message (.addWorkload "pod" (some ⟨"sleep", "default", "sleep"⟩) (.ok 1))
      ⟨.error "address in use", []⟩]

/-- A failed start leaves the block released: the nack is on its way, the workload is pending and
the manager counts as ready. -/
theorem failed_start_stays_released :
    ∃ m, run step (new true) failedStartRun = some m ∧ m.connected = true ∧
      m.state.ready = false ∧ m.blockReady = false := by
  exact exists_run (fun m ↦ m.connected = true ∧ m.state.ready = false ∧
    m.blockReady = false) (by decide) fun _ _ hfinal ↦ hfinal

end WorkloadProxyManager

end Ztunnel.Inpod
