import Ztunnel.Inpod.StateManager

/-!
# What the admin handler says about the workloads

The `WorkloadManagerAdminHandler` of `admin.rs` lists the workloads of the in-pod manager, each as
pending or up. `add_workload_inner` tells it when a proxy is to be started and when it has been, and
the task of a proxy tells it when the proxy has exited. It counts the proxies of a workload that are
up, since an old proxy of a workload may exit long after a new one has been started.

A proxy is *running* until its drain is started or its task exits, and *draining* from then on until
its task exits. Tasks exit at any time, also while a start is awaited.

What the handler knows of a workload is determined by the number of its tasks and by how its last
start went (`Tracked.entry`). So `proxy_down` always finds a count above zero, but the list is not
always right (`admin_accurate_iff`).
-/

namespace Ztunnel.Inpod.Admin

open Ztunnel.State Transition

/-! ### The handler -/

/-- `admin::State`. -/
inductive State where
  | pending
  | up
  deriving DecidableEq

/-- `admin::ProxyState`. -/
structure ProxyState where
  state : State
  info : WorkloadInfo
  count : ℕ
  deriving DecidableEq

/-- `WorkloadManagerAdminHandler`. -/
structure WorkloadManagerAdminHandler where
  state : Strng → Option ProxyState
  /-- How often `proxy_down` was called where no proxy was created. -/
  errors : ℕ

namespace WorkloadManagerAdminHandler

variable (handler : WorkloadManagerAdminHandler)

/-- `proxy_pending`. -/
def proxyPending (uid : Strng) (workloadInfo : WorkloadInfo) : WorkloadManagerAdminHandler :=
  { handler with
    state := Function.update handler.state uid (some (match handler.state uid with
      | some key => { key with state := .pending }
      | none => ⟨.pending, workloadInfo, 0⟩)) }

/-- `proxy_up`. -/
def proxyUp (uid : Strng) (workloadInfo : WorkloadInfo) : WorkloadManagerAdminHandler :=
  { handler with
    state := Function.update handler.state uid (some (match handler.state uid with
      | some key => ⟨.up, workloadInfo, key.count + 1⟩
      | none => ⟨.up, workloadInfo, 1⟩)) }

/-- `proxy_down`. -/
def proxyDown (uid : Strng) : WorkloadManagerAdminHandler :=
  match handler.state uid with
  | some key =>
    if key.count > 0 then
      { handler with
        state := Function.update handler.state uid
          (if key.count - 1 = 0 then none else some { key with count := key.count - 1 }) }
    else { handler with errors := handler.errors + 1 }
  | none => { handler with errors := handler.errors + 1 }

/-- How many proxies of a workload are up. -/
def count (uid : Strng) : ℕ := ((handler.state uid).map (·.count)).getD 0

variable {handler} {uid : Strng}

theorem exists_key_of_count_pos (h : 0 < handler.count uid) :
    ∃ key, handler.state uid = some key ∧ key.count = handler.count uid := by
  rw [count] at h ⊢
  rcases hkey : handler.state uid with - | key
  · rw [hkey] at h
    exact absurd h (Nat.lt_irrefl 0)
  · exact ⟨key, rfl, rfl⟩

theorem entry_proxyPending (workloadInfo : WorkloadInfo) :
    ((handler.proxyPending uid workloadInfo).state uid).map (fun key ↦ (key.state, key.count)) =
      some (.pending, handler.count uid) := by
  rw [proxyPending, count]
  dsimp only
  rw [Function.update_self]
  rcases handler.state uid with - | key <;> rfl

theorem entry_proxyUp (workloadInfo : WorkloadInfo) :
    ((handler.proxyUp uid workloadInfo).state uid).map (fun key ↦ (key.state, key.count)) =
      some (.up, handler.count uid + 1) := by
  rw [proxyUp, count]
  dsimp only
  rw [Function.update_self]
  rcases handler.state uid with - | key <;> rfl

end WorkloadManagerAdminHandler

/-! ### The proxies -/

/-- The task of a proxy, spawned and not exited. -/
structure Task where
  draining : Bool
  deriving DecidableEq

/-- How the last start of a workload went. -/
inductive Attempt where
  | never
  | started
  /-- It failed, or is still awaited. Earlier proxies had not exited when it began, or there were
  none. -/
  | failed (beside : Bool)
  deriving DecidableEq

/-- What there is of the workloads besides the state of the manager. -/
structure Proxies where
  handler : WorkloadManagerAdminHandler
  tasks : Strng → List Task
  /-- Kept for the statements. -/
  attempts : Strng → Attempt

namespace Proxies

variable (p : Proxies)

/-- A task of a workload exits: its index is given. -/
def exit (task : Strng × ℕ) : Proxies :=
  if task.2 < (p.tasks task.1).length then
    { p with
      handler := p.handler.proxyDown task.1
      tasks := Function.update p.tasks task.1 ((p.tasks task.1).eraseIdx task.2) }
  else p

/-- `DrainingTasks::shutdown_workload`. The other proxies of the workload are draining already. -/
def shutdownWorkload (uid : Strng) : Proxies :=
  { p with tasks := Function.update p.tasks uid ((p.tasks uid).map fun _ ↦ ⟨true⟩) }

/-- The start begins. -/
def begin (uid : Strng) (workloadInfo : WorkloadInfo) : Proxies :=
  { p with
    handler := p.handler.proxyPending uid workloadInfo
    attempts := Function.update p.attempts uid (.failed (!(p.tasks uid).isEmpty)) }

/-- The proxy has been started: its task is spawned. -/
def spawn (uid : Strng) (workloadInfo : WorkloadInfo) : Proxies where
  handler := p.handler.proxyUp uid workloadInfo
  tasks := Function.update p.tasks uid (p.tasks uid ++ [⟨false⟩])
  attempts := Function.update p.attempts uid .started

/-- The part of `add_workload_inner` that starts a proxy. The tasks in `exits` exit while the start
is awaited. -/
def startProxy (uid : Strng) (workloadInfo : WorkloadInfo) (start : Except Strng Unit)
    (exits : List (Strng × ℕ)) : Proxies :=
  let p := exits.foldl exit (p.begin uid workloadInfo)
  match start with
  | .ok () => p.spawn uid workloadInfo
  | .error _ => p

end Proxies

/-! ### The manager with its proxies -/

/-- The state of the manager, and the proxies. -/
structure System where
  manager : WorkloadProxyManagerState
  proxies : Proxies

namespace System

/-- Before anything has been started. -/
def new (firewall : Bool) : System :=
  ⟨.new firewall, ⟨fun _ ↦ none, 0⟩, fun _ ↦ [], fun _ ↦ .never⟩

variable (s : System)

/-- `del_workload`. -/
def delWorkload (uid : Strng) : System where
  manager := s.manager.delWorkload uid
  proxies := match s.manager.workloadStates.lookup uid with
    | none => s.proxies
    | some _ => s.proxies.shutdownWorkload uid

/-- `add_workload`. -/
def addWorkload (uid : Strng) (info : WorkloadInfo) (netns : ℕ) (start : Except Strng Unit)
    (exits : List (Strng × ℕ)) : System where
  manager := (s.manager.addWorkload uid info netns start).1
  proxies := match s.manager.workloadStates.lookup uid with
    | some existing =>
      if existing ≠ netns then (s.delWorkload uid).proxies.startProxy uid info start exits
      else s.proxies
    | none => s.proxies.startProxy uid info start exits

/-- What `reconcile` does to a workload that it takes out. -/
def takeOut (uid : Strng) : System :=
  ⟨s.manager.takeOut uid, s.proxies.shutdownWorkload uid⟩

/-- `process_msg`, with the tasks that exit while a start is awaited. -/
def processMsg (msg : WorkloadMessage) (env : Env) (exits : List (Strng × ℕ)) : System where
  manager := (s.manager.processMsg msg env).1
  proxies := match msg with
    | .addWorkload uid (some info) (.ok netns) =>
      (s.addWorkload uid info netns env.start exits).proxies
    | .delWorkload uid =>
      if s.manager.snapshotReceived then (s.delWorkload uid).proxies else s.proxies
    | .workloadSnapshotSent =>
      if s.manager.snapshotReceived then s.proxies else (env.order.foldl takeOut s).proxies
    | _ => s.proxies

/-- The body of the loop of `retry_pending`. -/
def retryWorkload (pending : AList fun _ : Strng ↦ WorkloadInfo × ℕ) (uid : Strng)
    (start : Except Strng Unit) (exits : List (Strng × ℕ)) : System :=
  match pending.lookup uid with
  | none => s
  | some (info, netns) => s.addWorkload uid info netns start exits

/-- The loop of `retry_pending`. -/
def retryWorkloads (order : List Strng) (start : Strng → Except Strng Unit)
    (exits : Strng → List (Strng × ℕ)) : System :=
  order.foldl (fun t uid ↦ t.retryWorkload s.manager.pendingWorkloads uid (start uid) (exits uid))
    { s with manager := { s.manager with pendingWorkloads := ∅ } }

/-- `retry_pending`. -/
def retryPending (order : List Strng) (start : Strng → Except Strng Unit)
    (exits : Strng → List (Strng × ℕ)) : System :=
  ⟨s.manager.retryPending order start, (s.retryWorkloads order start exits).proxies⟩

end System

/-- What happens to the manager and to its proxies. -/
inductive Event where
  | resetSnapshot
  | processMsg (msg : WorkloadMessage) (env : Env) (exits : List (Strng × ℕ))
  | retryPending (order : List Strng) (start : Strng → Except Strng Unit)
      (exits : Strng → List (Strng × ℕ))
  | exit (task : Strng × ℕ)

/-- One event. The orders are those of the maps that are looped over. -/
def System.step (s : System) : Event → Option System
  | .resetSnapshot => some { s with manager := s.manager.resetSnapshot }
  | .processMsg msg env exits =>
    if env.order.Perm s.manager.unnamed then some (s.processMsg msg env exits) else none
  | .retryPending order start exits =>
    if order.Perm s.manager.pendingWorkloads.keys then some (s.retryPending order start exits)
    else none
  | .exit task => some { s with proxies := s.proxies.exit task }

/-! ### What the handler knows -/

/-- The entry of a workload with `n` tasks. Only a start that failed with no task left behind keeps
an entry without a task. -/
def expected (attempt : Attempt) (n : ℕ) : Option (State × ℕ) :=
  if n = 0 ∧ attempt ≠ .failed false then none
  else some (if attempt = .started then .up else .pending, n)

theorem expected_eq_none_iff {attempt : Attempt} {n : ℕ} :
    expected attempt n = none ↔ n = 0 ∧ attempt ≠ .failed false := by
  simp [expected]

theorem expected_eq_some_iff {attempt : Attempt} {n : ℕ} {entry : State × ℕ} :
    expected attempt n = some entry ↔ (n ≠ 0 ∨ attempt = .failed false) ∧
      (if attempt = .started then .up else .pending, n) = entry := by
  rw [expected, Option.ite_none_left_eq_some, not_and_or, not_not, Option.some_inj]

/-- **The invariant**, for one workload. -/
structure Tracked (v : View) (p : Proxies) (uid : Strng) : Prop where
  entry : (p.handler.state uid).map (fun key ↦ (key.state, key.count)) =
    expected (p.attempts uid) (p.tasks uid).length
  /-- A proxy that runs is that of the last start, and the manager has it. -/
  running : ∀ t ∈ p.tasks uid, t.draining = false →
    v.running.isSome = true ∧ p.attempts uid = .started
  alone : p.attempts uid = .never ∨ p.attempts uid = .failed false → p.tasks uid = []
  pending : v.pending.isSome = true → ∃ beside, p.attempts uid = .failed beside

/-- The invariant, for all workloads. -/
structure Tracks (views : Strng → View) (p : Proxies) : Prop where
  errors : p.handler.errors = 0
  tracked : ∀ uid, Tracked (views uid) p uid

section Invariant

variable {v : View} {p : Proxies} {uid : Strng} {views views' : Strng → View}

/-- The handler counts the tasks. -/
theorem Tracked.count_eq (h : Tracked v p uid) :
    p.handler.count uid = (p.tasks uid).length := by
  have hentry := h.entry
  rw [WorkloadManagerAdminHandler.count]
  rcases hkey : p.handler.state uid with - | key
  · rw [hkey] at hentry
    exact (expected_eq_none_iff.1 hentry.symm).1.symm
  · rw [hkey] at hentry
    exact (congrArg Prod.snd (expected_eq_some_iff.1 hentry.symm).2).symm

/-- Where a task is, there is an entry. -/
theorem Tracked.exists_key (h : Tracked v p uid) (hpos : 0 < (p.tasks uid).length) :
    ∃ key, p.handler.state uid = some key ∧ key.count = (p.tasks uid).length := by
  rw [← h.count_eq] at hpos ⊢
  exact WorkloadManagerAdminHandler.exists_key_of_count_pos hpos

theorem Tracked.congr {p' : Proxies} (h : Tracked v p uid)
    (hstate : p'.handler.state uid = p.handler.state uid) (htasks : p'.tasks uid = p.tasks uid)
    (hattempt : p'.attempts uid = p.attempts uid) : Tracked v p' uid := by
  refine ⟨?_, ?_, ?_, ?_⟩
  · rw [hstate, htasks, hattempt, h.entry]
  · rw [htasks, hattempt]
    exact h.running
  · rw [htasks, hattempt]
    exact h.alone
  · rw [hattempt]
    exact h.pending

/-- What `proxy_down` does where a task is: it finds a count above zero. -/
theorem Tracked.proxyDown_eq (h : Tracked v p uid) (hpos : 0 < (p.tasks uid).length) :
    ∃ key, p.handler.state uid = some key ∧ p.handler.proxyDown uid = { p.handler with
      state := Function.update p.handler.state uid
        (if (p.tasks uid).length - 1 = 0 then none
          else some { key with count := (p.tasks uid).length - 1 }) } := by
  obtain ⟨key, hkey, hcount⟩ := h.exists_key hpos
  refine ⟨key, hkey, ?_⟩
  rw [← hcount] at hpos ⊢
  rw [WorkloadManagerAdminHandler.proxyDown, hkey]
  exact if_pos hpos

theorem Tracked.exit (h : Tracked v p uid) {i : ℕ} (hi : i < (p.tasks uid).length) :
    Tracked v (p.exit (uid, i)) uid := by
  obtain ⟨key, hkey, hdown⟩ := h.proxyDown_eq (Nat.lt_of_le_of_lt i.zero_le hi)
  have hentry := h.entry
  rw [hkey] at hentry
  have hstate := congrArg Prod.fst (expected_eq_some_iff.1 hentry.symm).2
  have halone : p.attempts uid ≠ .failed false := by
    intro hattempt
    rw [h.alone (.inr hattempt)] at hi
    exact absurd hi (Nat.not_lt_zero i)
  rw [Proxies.exit, if_pos hi, hdown]
  refine ⟨?_, fun t ht ↦ ?_, fun hor ↦ ?_, h.pending⟩
  · dsimp only
    rw [Function.update_self, Function.update_self, List.length_eraseIdx_of_lt hi]
    by_cases hlast : (p.tasks uid).length - 1 = 0
    · rw [if_pos hlast, expected_eq_none_iff.2 ⟨hlast, halone⟩]
      rfl
    · rw [if_neg hlast, expected_eq_some_iff.2 ⟨.inl hlast, rfl⟩]
      exact congrArg (fun state ↦ some (state, (p.tasks uid).length - 1)) hstate.symm
  · dsimp only at ht
    rw [Function.update_self] at ht
    exact h.running t (List.mem_of_mem_eraseIdx ht)
  · dsimp only
    rw [Function.update_self, h.alone hor]
    rfl

theorem Tracks.exit (h : Tracks views p) (task : Strng × ℕ) : Tracks views (p.exit task) := by
  obtain ⟨uid, i⟩ := task
  by_cases hi : i < (p.tasks uid).length
  · obtain ⟨key, -, hdown⟩ := (h.tracked uid).proxyDown_eq (Nat.lt_of_le_of_lt i.zero_le hi)
    refine ⟨?_, fun u ↦ ?_⟩
    · rw [Proxies.exit, if_pos hi, hdown]
      exact h.errors
    · rcases eq_or_ne u uid with rfl | hne
      · exact (h.tracked u).exit hi
      · rw [Proxies.exit, if_pos hi, hdown]
        exact (h.tracked u).congr (Function.update_of_ne hne ..) (Function.update_of_ne hne ..) rfl
  · rw [Proxies.exit, if_neg hi]
    exact h

theorem Tracks.exits (h : Tracks views p) (exits : List (Strng × ℕ)) :
    Tracks views (exits.foldl Proxies.exit p) := by
  induction exits generalizing p with
  | nil => exact h
  | cons task exits ih => exact ih (h.exit task)

theorem Proxies.attempts_exits (p : Proxies) (exits : List (Strng × ℕ)) :
    (exits.foldl Proxies.exit p).attempts = p.attempts := by
  induction exits generalizing p with
  | nil => rfl
  | cons task exits ih =>
    rw [List.foldl_cons, ih, Proxies.exit]
    split_ifs <;> rfl

/-- The manager may forget a pending workload. -/
theorem Tracks.of_views (h : Tracks views p)
    (hrunning : ∀ u, (views' u).running = (views u).running)
    (hpending : ∀ u, (views' u).pending.isSome = true → (views u).pending.isSome = true) :
    Tracks views' p := by
  refine ⟨h.errors, fun u ↦ ?_⟩
  obtain ⟨hentry, htasks, halone, hfailed⟩ := h.tracked u
  refine ⟨hentry, ?_, halone, fun hsome ↦ hfailed (hpending u hsome)⟩
  rw [hrunning u]
  exact htasks

/-- The manager may forget that one workload is pending. -/
theorem Tracks.of_view (h : Tracks views p)
    (hrunning : (views' uid).running = (views uid).running)
    (hpending : (views' uid).pending.isSome = true → (views uid).pending.isSome = true)
    (hother : ∀ u, u ≠ uid → views' u = views u) : Tracks views' p := by
  refine h.of_views (fun u ↦ ?_) (fun u ↦ ?_)
  · rcases eq_or_ne u uid with rfl | hne
    · exact hrunning
    · rw [hother u hne]
  · rcases eq_or_ne u uid with rfl | hne
    · exact hpending
    · rw [hother u hne]
      exact id

/-- **The drain of a proxy is started**, when the manager forgets it. -/
theorem Tracks.shutdownWorkload (h : Tracks views p)
    (hself : (views' uid).pending.isSome = true → (views uid).pending.isSome = true)
    (hother : ∀ u, u ≠ uid → views' u = views u) : Tracks views' (p.shutdownWorkload uid) := by
  refine ⟨h.errors, fun u ↦ ?_⟩
  rcases eq_or_ne u uid with rfl | hne
  · have htasks : (p.shutdownWorkload u).tasks u = (p.tasks u).map fun _ ↦ ⟨true⟩ :=
      Function.update_self ..
    refine ⟨?_, ?_, ?_, fun hpending ↦ (h.tracked u).pending (hself hpending)⟩
    · rw [htasks, List.length_map]
      exact (h.tracked u).entry
    · rw [htasks]
      rintro t ht hrunning
      obtain ⟨-, -, rfl⟩ := List.mem_map.1 ht
      cases hrunning
    · rw [htasks, List.map_eq_nil_iff]
      exact (h.tracked u).alone
  · rw [hother u hne]
    exact (h.tracked u).congr rfl (Function.update_of_ne hne ..) rfl

/-- **A start begins**, with no proxy running. -/
theorem Tracks.begin (h : Tracks views p) (hidle : ∀ t ∈ p.tasks uid, t.draining = true)
    (info : WorkloadInfo) : Tracks views (p.begin uid info) := by
  refine ⟨h.errors, fun u ↦ ?_⟩
  rcases eq_or_ne u uid with rfl | hne
  · have hattempt : (p.begin u info).attempts u = .failed (!(p.tasks u).isEmpty) :=
      Function.update_self ..
    have hexpected : expected (.failed (!(p.tasks u).isEmpty)) (p.tasks u).length =
        some (.pending, (p.tasks u).length) := by
      refine expected_eq_some_iff.2 ⟨?_, rfl⟩
      rcases p.tasks u with - | ⟨t, tasks⟩
      · exact .inr rfl
      · exact .inl (Nat.succ_ne_zero _)
    refine ⟨?_, fun t ht hrunning ↦ ?_, ?_, fun _ ↦ ⟨_, hattempt⟩⟩
    · rw [hattempt, Proxies.begin, WorkloadManagerAdminHandler.entry_proxyPending,
        (h.tracked u).count_eq, hexpected]
    · rw [hidle t ht] at hrunning
      cases hrunning
    · rw [hattempt]
      rintro (hnever | halone)
      · cases hnever
      · show p.tasks u = []
        simpa using Attempt.failed.inj halone
  · exact (h.tracked u).congr (Function.update_of_ne hne ..) rfl (Function.update_of_ne hne ..)

/-- **A proxy has been started**, and the manager has it. -/
theorem Tracks.spawn (h : Tracks views p) (hrunning : (views' uid).running.isSome = true)
    (hpending : (views' uid).pending = none) (hother : ∀ u, u ≠ uid → views' u = views u)
    (info : WorkloadInfo) : Tracks views' (p.spawn uid info) := by
  refine ⟨h.errors, fun u ↦ ?_⟩
  rcases eq_or_ne u uid with rfl | hne
  · have hattempt : (p.spawn u info).attempts u = .started := Function.update_self ..
    have htasks : (p.spawn u info).tasks u = p.tasks u ++ [⟨false⟩] := Function.update_self ..
    have hexpected : expected .started ((p.tasks u).length + 1) =
        some (.up, (p.tasks u).length + 1) :=
      expected_eq_some_iff.2 ⟨.inl (Nat.succ_ne_zero _), rfl⟩
    refine ⟨?_, fun _ _ _ ↦ ⟨hrunning, hattempt⟩, ?_, fun hsome ↦ ?_⟩
    · rw [hattempt, htasks, List.length_append, List.length_singleton, Proxies.spawn,
        WorkloadManagerAdminHandler.entry_proxyUp, (h.tracked u).count_eq, hexpected]
    · rw [hattempt]
      rintro (hnever | halone)
      · cases hnever
      · cases halone
    · rw [hpending] at hsome
      cases hsome
  · rw [hother u hne]
    exact (h.tracked u).congr (Function.update_of_ne hne ..) (Function.update_of_ne hne ..)
      (Function.update_of_ne hne ..)

/-- **A start**, whatever exits while it is awaited. -/
theorem Tracks.startProxy (h : Tracks views p) (hidle : ∀ t ∈ p.tasks uid, t.draining = true)
    (hother : ∀ u, u ≠ uid → views' u = views u) (info : WorkloadInfo) {start : Except Strng Unit}
    (hstarted : start = .ok () →
      (views' uid).running.isSome = true ∧ (views' uid).pending = none)
    (exits : List (Strng × ℕ)) : Tracks views' (p.startProxy uid info start exits) := by
  have hawaited := (h.begin hidle info).exits exits
  rcases start with e | ⟨⟩
  · have hattempt : (exits.foldl Proxies.exit (p.begin uid info)).attempts uid =
        .failed (!(p.tasks uid).isEmpty) := by
      rw [Proxies.attempts_exits]
      exact Function.update_self ..
    refine ⟨hawaited.errors, fun u ↦ ?_⟩
    rcases eq_or_ne u uid with rfl | hne
    · obtain ⟨hentry, hrunning, halone, -⟩ := hawaited.tracked u
      refine ⟨hentry, fun t ht hfalse ↦ ?_, halone, fun _ ↦ ⟨_, hattempt⟩⟩
      -- the last start failed, so none is running
      have hlast := (hrunning t ht hfalse).2
      rw [hattempt] at hlast
      cases hlast
    · rw [hother u hne]
      exact hawaited.tracked u
  · obtain ⟨hrunning, hpending⟩ := hstarted rfl
    exact hawaited.spawn hrunning hpending hother info

end Invariant

/-! ### The invariant along a run -/

/-- A workload that is added where it runs is no longer pending. -/
theorem add_same {v : View} {netns : ℕ} (h : v.running = some netns) (uid : Strng)
    (info : WorkloadInfo) (start : Except Strng Unit) :
    v.add uid info netns start = { v with pending := none } :=
  if_pos h

/-- A workload that is started is running and no longer pending. -/
theorem add_started {v : View} {netns : ℕ} (h : v.running ≠ some netns) (uid : Strng)
    (info : WorkloadInfo) :
    (v.add uid info netns (.ok ())).running.isSome = true ∧
      (v.add uid info netns (.ok ())).pending = none := by
  rw [View.add, if_neg h]
  exact ⟨rfl, rfl⟩

namespace System

variable {s s' : System}

/-- The invariant of the manager with its proxies. -/
def Inv (s : System) : Prop := Tracks s.manager.view s.proxies

theorem Inv.new (firewall : Bool) : (System.new firewall).Inv :=
  ⟨rfl, fun _ ↦ ⟨rfl, (fun _ ht ↦ nomatch ht), fun _ ↦ rfl, (fun h ↦ nomatch h)⟩⟩

/-- A workload of which the manager has no proxy has none that is running. -/
theorem Inv.idle (h : s.Inv) {uid : Strng} (hnone : s.manager.workloadStates.lookup uid = none) :
    ∀ t ∈ s.proxies.tasks uid, t.draining = true := by
  intro t ht
  by_contra hfalse
  have hrunning := ((h.tracked uid).running t ht (Bool.eq_false_of_not_eq_true hfalse)).1
  rw [show (s.manager.view uid).running = none from hnone] at hrunning
  cases hrunning

theorem Inv.delWorkload (h : s.Inv) (uid : Strng) : (s.delWorkload uid).Inv := by
  have hother : ∀ u, u ≠ uid → (s.manager.delWorkload uid).view u = s.manager.view u :=
    fun u hne ↦ s.manager.view_delWorkload_of_ne hne
  have hself := s.manager.view_delWorkload_self uid
  have hpending : ((s.manager.delWorkload uid).view uid).pending.isSome = true →
      (s.manager.view uid).pending.isSome = true := by
    rw [hself, View.pending_del]
    exact fun hsome ↦ nomatch hsome
  show Tracks (s.manager.delWorkload uid).view (s.delWorkload uid).proxies
  rw [System.delWorkload]
  rcases hrunning : s.manager.workloadStates.lookup uid with - | netns
  · refine h.of_view ?_ hpending hother
    rw [hself, View.running_del]
    exact hrunning.symm
  · exact h.shutdownWorkload hpending hother

theorem Inv.addWorkload (h : s.Inv) (uid : Strng) (info : WorkloadInfo) (netns : ℕ)
    (start : Except Strng Unit) (exits : List (Strng × ℕ)) :
    (s.addWorkload uid info netns start exits).Inv := by
  have hother : ∀ u, u ≠ uid →
      (s.manager.addWorkload uid info netns start).1.view u = s.manager.view u :=
    fun u hne ↦ s.manager.view_addWorkload_of_ne hne info netns start
  have hself := s.manager.view_addWorkload_self uid info netns start
  have hstarted : s.manager.workloadStates.lookup uid ≠ some netns → start = .ok () →
      ((s.manager.addWorkload uid info netns start).1.view uid).running.isSome = true ∧
        ((s.manager.addWorkload uid info netns start).1.view uid).pending = none := by
    rintro hne rfl
    rw [hself]
    exact add_started hne uid info
  show Tracks (s.manager.addWorkload uid info netns start).1.view
    (s.addWorkload uid info netns start exits).proxies
  rw [System.addWorkload]
  rcases hrunning : s.manager.workloadStates.lookup uid with - | existing
  · exact h.startProxy (h.idle hrunning) hother info (hstarted (hrunning ▸ nofun)) exits
  · dsimp only
    by_cases hne : existing ≠ netns
    · rw [if_pos hne]
      have hdel := h.delWorkload uid
      have hgone : (s.manager.delWorkload uid).workloadStates.lookup uid = none :=
        (congrArg View.running (s.manager.view_delWorkload_self uid)).trans (View.running_del _ uid)
      refine Tracks.startProxy hdel (hdel.idle hgone) (fun u hu ↦ ?_) info (hstarted ?_) exits
      · rw [hother u hu]
        exact (s.manager.view_delWorkload_of_ne hu).symm
      · rw [hrunning]
        exact fun heq ↦ hne (Option.some.inj heq)
    · rw [if_neg hne]
      have hsame : (s.manager.view uid).running = some netns := by
        rw [← not_ne_iff.1 hne]
        exact hrunning
      refine h.of_view ?_ ?_ hother
      · rw [hself, add_same hsame]
      · rw [hself, add_same hsame]
        exact fun hsome ↦ nomatch hsome

theorem Inv.takeOut (h : s.Inv) (uid : Strng) : (s.takeOut uid).Inv := by
  refine h.shutdownWorkload ?_ fun u hne ↦ s.manager.view_takeOut_of_ne uid u hne
  rw [show (s.takeOut uid).manager.view uid = _ from s.manager.view_takeOut_self uid]
  exact id

theorem Inv.takeOuts (h : s.Inv) (order : List Strng) : (order.foldl System.takeOut s).Inv := by
  induction order generalizing s with
  | nil => exact h
  | cons uid order ih => exact ih (h.takeOut uid)

theorem manager_takeOuts (s : System) (order : List Strng) :
    (order.foldl System.takeOut s).manager =
      order.foldl WorkloadProxyManagerState.takeOut s.manager :=
  (List.foldl_hom System.manager fun _ _ ↦ rfl).symm

/-- An addition first notes the name, which the proxies do not depend on. -/
theorem processMsg_add (s : System) (uid : Strng) (info : WorkloadInfo) (netns : ℕ) (env : Env)
    (exits : List (Strng × ℕ)) :
    s.processMsg (.addWorkload uid (some info) (.ok netns)) env exits =
      { s with manager := s.manager.noteName uid }.addWorkload uid info netns env.start exits := by
  have hstates := s.manager.workloadStates_noteName uid
  refine congrArg (System.mk _) ?_
  show (s.addWorkload uid info netns env.start exits).proxies = _
  simp only [System.addWorkload, System.delWorkload, hstates]

/-- Before the end of the snapshot, a deletion only forgets a name and a pending workload. -/
theorem processMsg_del_early (h : s.manager.snapshotReceived = false) (uid : Strng) (env : Env)
    (exits : List (Strng × ℕ)) :
    s.processMsg (.delWorkload uid) env exits = { s with manager := { s.manager with
      snapshotNames := s.manager.snapshotNames.erase uid
      pendingWorkloads := s.manager.pendingWorkloads.erase uid } } := by
  simp [System.processMsg, WorkloadProxyManagerState.processMsg, h]

theorem processMsg_del (h : s.manager.snapshotReceived = true) (uid : Strng) (env : Env)
    (exits : List (Strng × ℕ)) :
    s.processMsg (.delWorkload uid) env exits = s.delWorkload uid := by
  simp [System.processMsg, WorkloadProxyManagerState.processMsg, h, System.delWorkload]

theorem processMsg_snapshotSent (h : s.manager.snapshotReceived = false) (env : Env)
    (exits : List (Strng × ℕ)) :
    s.processMsg .workloadSnapshotSent env exits =
      ⟨{ s.manager.reconcile env.order with snapshotReceived := true },
        (env.order.foldl System.takeOut s).proxies⟩ := by
  simp [System.processMsg, WorkloadProxyManagerState.processMsg, h]

/-- The end of a snapshot that has been received is ignored. -/
theorem processMsg_snapshotSent_again (h : s.manager.snapshotReceived = true) (env : Env)
    (exits : List (Strng × ℕ)) : s.processMsg .workloadSnapshotSent env exits = s := by
  simp [System.processMsg, WorkloadProxyManagerState.processMsg, h]

theorem Inv.noteName (h : s.Inv) (uid : Strng) :
    Tracks (s.manager.noteName uid).view s.proxies := by
  refine h.of_view ?_ ?_ fun u hne ↦ s.manager.view_noteName_of_ne hne
  · rw [s.manager.view_noteName_self, View.running_noteName]
  · rw [s.manager.view_noteName_self, View.pending_noteName]
    exact id

theorem Inv.processMsg (h : s.Inv) (msg : WorkloadMessage) (env : Env)
    (exits : List (Strng × ℕ)) : (s.processMsg msg env exits).Inv := by
  rcases msg with ⟨uid, - | info, netns⟩ | uid | uid | -
  · exact h
  · rcases netns with e | netns
    · exact h.noteName uid
    · rw [s.processMsg_add]
      exact Inv.addWorkload (s := ⟨s.manager.noteName uid, s.proxies⟩) (h.noteName uid) uid info
        netns env.start exits
  · show Tracks (s.manager.processMsg (.keepWorkload uid) env).1.view s.proxies
    rw [s.manager.processMsg_keep]
    exact h.noteName uid
  · rcases hreceived : s.manager.snapshotReceived with - | -
    · rw [processMsg_del_early hreceived]
      refine Tracks.of_view h rfl ?_ fun u hne ↦ s.manager.view_dropName_of_ne hne
      rw [s.manager.view_dropName_self]
      exact fun hsome ↦ nomatch hsome
    · rw [processMsg_del hreceived]
      exact h.delWorkload uid
  · rcases hreceived : s.manager.snapshotReceived with - | -
    · have houts := h.takeOuts env.order
      rw [Inv, s.manager_takeOuts] at houts
      rw [processMsg_snapshotSent hreceived]
      exact houts.of_views (fun _ ↦ rfl) fun _ ↦ id
    · rw [processMsg_snapshotSent_again hreceived]
      exact h

theorem manager_retryWorkload (s : System) (pending : AList fun _ : Strng ↦ WorkloadInfo × ℕ)
    (uid : Strng) (start : Except Strng Unit) (exits : List (Strng × ℕ)) :
    WorkloadProxyManagerState.retryWorkload pending s.manager uid start =
      (s.retryWorkload pending uid start exits).manager := by
  rw [System.retryWorkload, WorkloadProxyManagerState.retryWorkload]
  rcases pending.lookup uid with - | ⟨info, netns⟩ <;> rfl

theorem Inv.retryWorkload (h : s.Inv) (pending : AList fun _ : Strng ↦ WorkloadInfo × ℕ)
    (uid : Strng) (start : Except Strng Unit) (exits : List (Strng × ℕ)) :
    (s.retryWorkload pending uid start exits).Inv := by
  rw [System.retryWorkload]
  rcases pending.lookup uid with - | ⟨info, netns⟩
  · exact h
  · exact h.addWorkload uid info netns start exits

/-- The loop over the pending workloads keeps the invariant, and is that of the manager. -/
theorem Inv.retryLoop (h : s.Inv) (pending : AList fun _ : Strng ↦ WorkloadInfo × ℕ)
    (order : List Strng) (start : Strng → Except Strng Unit) (exits : Strng → List (Strng × ℕ)) :
    let t := order.foldl (fun t uid ↦ t.retryWorkload pending uid (start uid) (exits uid)) s
    t.Inv ∧ t.manager = order.foldl
      (fun m uid ↦ WorkloadProxyManagerState.retryWorkload pending m uid (start uid))
      s.manager := by
  induction order generalizing s with
  | nil => exact ⟨h, rfl⟩
  | cons uid order ih =>
    rw [List.foldl_cons, List.foldl_cons, s.manager_retryWorkload pending uid _ (exits uid)]
    exact ih (h.retryWorkload pending uid (start uid) (exits uid))

theorem Inv.retryPending (h : s.Inv) (order : List Strng) (start : Strng → Except Strng Unit)
    (exits : Strng → List (Strng × ℕ)) : (s.retryPending order start exits).Inv := by
  have htaken : Inv { s with manager := { s.manager with pendingWorkloads := ∅ } } :=
    h.of_views (fun _ ↦ rfl) fun _ hsome ↦ nomatch hsome
  obtain ⟨hinv, hmanager⟩ := htaken.retryLoop s.manager.pendingWorkloads order start exits
  rw [Inv, hmanager] at hinv
  exact hinv

theorem Inv.step (h : s.Inv) {event : Event} (hstep : s.step event = some s') : s'.Inv := by
  rcases event with - | ⟨msg, env, exits⟩ | ⟨order, start, exits⟩ | task
  · obtain rfl := Option.some.inj hstep
    exact h.of_views (fun _ ↦ rfl) fun _ hsome ↦ nomatch hsome
  · obtain ⟨-, hs'⟩ := Option.ite_none_right_eq_some.1 hstep
    obtain rfl := Option.some.inj hs'
    exact h.processMsg msg env exits
  · obtain ⟨-, hs'⟩ := Option.ite_none_right_eq_some.1 hstep
    obtain rfl := Option.some.inj hs'
    exact h.retryPending order start exits
  · obtain rfl := Option.some.inj hstep
    exact h.exit task

theorem Inv.run {firewall : Bool} {events : List Event}
    (hrun : run System.step (.new firewall) events = some s) : s.Inv :=
  run_induction hrun (Inv.new firewall) fun _ _ _ _ h hstep ↦ h.step hstep

/-! ### What the list says -/

variable (s) (uid : Strng)

/-- The handler lists the workload. -/
def Listed : Prop := (s.proxies.handler.state uid).isSome = true

/-- The handler lists the workload as up. -/
def ListedUp : Prop := ∃ key, s.proxies.handler.state uid = some key ∧ key.state = .up

/-- A proxy of the workload is running. By `Tracked.running`, it is the last that was started. -/
def Running : Prop := ∃ t ∈ s.proxies.tasks uid, t.draining = false

/-- A proxy of the workload is draining. -/
def Draining : Prop := ∃ t ∈ s.proxies.tasks uid, t.draining = true

/-- The workload is to be retried. -/
def Pending : Prop := (s.manager.pendingWorkloads.lookup uid).isSome = true

variable {s} {uid}

theorem tasks_ne_nil_iff : s.proxies.tasks uid ≠ [] ↔ s.Running uid ∨ s.Draining uid := by
  constructor
  · intro hne
    obtain ⟨t, ht⟩ := List.exists_mem_of_ne_nil _ hne
    rcases hdraining : t.draining with - | -
    · exact .inl ⟨t, ht, hdraining⟩
    · exact .inr ⟨t, ht, hdraining⟩
  · rintro (⟨t, ht, -⟩ | ⟨t, ht, -⟩) <;> exact List.ne_nil_of_mem ht

theorem Inv.listed_iff (h : s.Inv) :
    s.Listed uid ↔ (s.Running uid ∨ s.Draining uid) ∨ s.proxies.attempts uid = .failed false := by
  rw [← tasks_ne_nil_iff, Listed, ← Option.isSome_map, (h.tracked uid).entry,
    Option.isSome_iff_ne_none, ne_eq, ne_eq, expected_eq_none_iff, not_and_or, not_not,
    List.length_eq_zero_iff]

theorem Inv.listedUp_iff (h : s.Inv) :
    s.ListedUp uid ↔ (s.Running uid ∨ s.Draining uid) ∧ s.proxies.attempts uid = .started := by
  have hentry := (h.tracked uid).entry
  rw [← tasks_ne_nil_iff]
  constructor
  · rintro ⟨key, hkey, hup⟩
    rw [hkey] at hentry
    obtain ⟨hor, heq⟩ := expected_eq_some_iff.1 hentry.symm
    have hstarted : s.proxies.attempts uid = .started := by
      by_contra hne
      rw [if_neg hne] at heq
      have hpending : State.pending = key.state := congrArg Prod.fst heq
      rw [hup] at hpending
      cases hpending
    refine ⟨fun hnil ↦ ?_, hstarted⟩
    rw [hnil, hstarted] at hor
    rcases hor with hlen | hfailed
    · exact hlen rfl
    · cases hfailed
  · rintro ⟨hne, hstarted⟩
    have hlen : (s.proxies.tasks uid).length ≠ 0 := fun hzero ↦
      hne (List.length_eq_zero_iff.1 hzero)
    rw [hstarted, expected_eq_some_iff.2 ⟨.inl hlen, rfl⟩] at hentry
    obtain ⟨key, hkey, heq⟩ := Option.map_eq_some_iff.1 hentry
    exact ⟨key, hkey, congrArg Prod.fst heq⟩

/-- A workload is listed as it should be: if and only if it is running, pending or draining, and as
up if and only if its last proxy is running. -/
structure Accurate (s : System) (uid : Strng) : Prop where
  listed : s.Listed uid ↔ s.Running uid ∨ s.Pending uid ∨ s.Draining uid
  up : s.ListedUp uid ↔ s.Running uid

/-- **What the invariant says about the list.** -/
theorem Inv.accurate_iff (h : s.Inv) :
    s.Accurate uid ↔
      (s.proxies.attempts uid = .started → s.Draining uid → s.Running uid) ∧
      (s.proxies.attempts uid = .failed false → s.Pending uid) ∧
      (s.proxies.attempts uid = .failed true → s.Pending uid → s.Draining uid) := by
  have hrunning : s.Running uid → s.proxies.attempts uid = .started := by
    rintro ⟨t, ht, hfalse⟩
    exact ((h.tracked uid).running t ht hfalse).2
  have hpending : s.Pending uid → ∃ beside, s.proxies.attempts uid = .failed beside :=
    (h.tracked uid).pending
  have halone : s.proxies.attempts uid = .never ∨ s.proxies.attempts uid = .failed false →
      ¬s.Draining uid := by
    rintro hor ⟨t, ht, -⟩
    rw [(h.tracked uid).alone hor] at ht
    cases ht
  have haccurate : s.Accurate uid ↔
      (s.Listed uid ↔ s.Running uid ∨ s.Pending uid ∨ s.Draining uid) ∧
        (s.ListedUp uid ↔ s.Running uid) :=
    ⟨fun h ↦ ⟨h.listed, h.up⟩, fun h ↦ ⟨h.1, h.2⟩⟩
  rw [haccurate, h.listed_iff, h.listedUp_iff]
  rcases hattempt : s.proxies.attempts uid with - | - | beside
  all_goals
    rw [hattempt] at hrunning hpending halone
  · have hr : ¬s.Running uid := fun hr ↦ nomatch hrunning hr
    have hp : ¬s.Pending uid := fun hp ↦ nomatch hpending hp
    simp [hr, hp, halone (.inl rfl)]
  · have hp : ¬s.Pending uid := fun hp ↦ nomatch hpending hp
    simp [hp]
  · have hr : ¬s.Running uid := fun hr ↦ nomatch hrunning hr
    rcases beside with - | -
    · simp [hr, halone (.inr rfl)]
    · simp [hr]

end System

/-- **Accuracy of the admin view.** Take any run of messages, with starts that succeed or fail, of
retries, new connections and exits, and any workload. That it is listed as it should be, and that
`proxy_down` was never called where no proxy was created, holds exactly if
* in case its last start succeeded, that proxy is running or all proxies have exited;
* in case its last start failed and no earlier proxy was left then, it is still pending;
* in case its last start failed beside an earlier proxy, it is no longer pending or a proxy is still
  draining. -/
theorem admin_accurate_iff {firewall : Bool} {events : List Event} {s : System}
    (hrun : run System.step (.new firewall) events = some s) (uid : Strng) :
    s.Accurate uid ∧ s.proxies.handler.errors = 0 ↔
      (s.proxies.attempts uid = .started → s.Draining uid → s.Running uid) ∧
      (s.proxies.attempts uid = .failed false → s.Pending uid) ∧
      (s.proxies.attempts uid = .failed true → s.Pending uid → s.Draining uid) := by
  have hinv := System.Inv.run hrun
  rw [hinv.accurate_iff, and_iff_left hinv.errors]

/-! ### Runs -/

def sleepInfo : WorkloadInfo := ⟨"sleep", "default", "sleep"⟩

/-- The pod is added in a network namespace, when `unnamed` are running. -/
def addition (netns : ℕ) (start : Except Strng Unit) (unnamed : List Strng) : Event :=
  .processMsg (.addWorkload "pod" (some sleepInfo) (.ok netns)) ⟨start, unnamed⟩ []

def snapshotSent : Event := .processMsg .workloadSnapshotSent ⟨.ok (), []⟩ []

/-- The sandbox of the pod is created again, and the old proxy exits. -/
def recreation : List Event :=
  [snapshotSent, addition 1 (.ok ()) [], addition 2 (.ok ()) ["pod"], .exit ("pod", 0)]

/-- The start of the pod fails, and the pod is deleted. -/
def pendingDeletion : List Event :=
  [snapshotSent, addition 1 (.error "in use") [], .processMsg (.delWorkload "pod") ⟨.ok (), []⟩ []]

theorem admin_accurate_iff_recreation :
    ∃ s, run System.step (.new false) recreation = some s ∧
      s.proxies.tasks "pod" = [⟨false⟩] ∧ s.Accurate "pod" ∧ s.proxies.handler.errors = 0 := by
  refine exists_run (fun s ↦ s.proxies.tasks "pod" = [⟨false⟩] ∧
    s.proxies.attempts "pod" = .started) (by decide) ?_
  rintro s hs ⟨htasks, hattempt⟩
  have hrunning : s.Running "pod" := by
    rw [System.Running, htasks]
    exact ⟨⟨false⟩, List.mem_cons_self, rfl⟩
  refine ⟨htasks, (admin_accurate_iff hs "pod").2 ⟨fun _ _ ↦ hrunning, ?_, ?_⟩⟩
  all_goals
    rw [hattempt]
    exact fun hfailed ↦ nomatch hfailed

/-- The deleted pod stays in the list. -/
theorem deleted_pod_listed :
    ∃ s, run System.step (.new false) pendingDeletion = some s ∧
      s.Listed "pod" ∧ ¬s.Running "pod" ∧ ¬s.Pending "pod" ∧ ¬s.Draining "pod" := by
  refine exists_run (fun s ↦ (s.proxies.handler.state "pod").isSome = true ∧
    s.proxies.tasks "pod" = [] ∧ (s.manager.pendingWorkloads.lookup "pod").isSome = false)
    (by decide) ?_
  rintro s - ⟨hlisted, htasks, hpending⟩
  have hnone : ∀ t, t ∉ s.proxies.tasks "pod" := by
    rw [htasks]
    exact fun _ ↦ List.not_mem_nil
  exact ⟨hlisted, fun ⟨t, ht, _⟩ ↦ hnone t ht, Bool.eq_false_iff.1 hpending,
    fun ⟨t, ht, _⟩ ↦ hnone t ht⟩

end Ztunnel.Inpod.Admin
