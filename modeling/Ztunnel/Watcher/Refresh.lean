import Mathlib.Data.List.MinMax
import Ztunnel.Lib.Transition
import Ztunnel.Watcher.FileStore

/-!
# Serialised refreshes

The shared state of a `FileStore`: the snapshot, `refresh_lock`, and the calls of `get_or_load` and
of `refresh`. Reads take no lock. A call that loads holds the lock from before its scan starts until
it has published the result. The scan runs in a blocking task of its own: when the call is
cancelled, at either of its two awaits, the lock is free again while the scan still runs, and what
it finds is not published.

Calls are told apart by numbers, and the task of a call has the number of the call. The times at
which scans start are kept on the side, for the statements: the clock `now` is advanced by the start
of a scan, and by whoever else needs a time of its own (`Store.advanceClock`).

`Serial` is the invariant: snapshots are published one at a time, each by a call that returned
normally, each from a scan that ran to its end, in the order in which the scans started.
-/

namespace Ztunnel.Watcher

open Transition

/-! ### The shared state -/

/-- How a call ends: with a value that was there, after a load, or with an error. A refresh returns
no value. -/
inductive Outcome (P V : Type) where
  | hit (value : V)
  | loaded (first : Option V)
  | failed (error : ScanError P)

/-- A call of `get_or_load` with its test, or of `refresh`: at `refresh_lock.lock().await`, with the
lock at the await of the scan, or over. -/
inductive Call (P V : Type) where
  | absent
  | waiting (isReady : Option (V → Bool))
  | loading
  | returned (outcome : Outcome P V)
  | cancelled

/-- The blocking task of a call: spawned, running since some time, or finished. `seen` are the disks
that the operations of the scan have met. -/
inductive Task (δ ω P K V : Type) where
  | absent
  | queued
  | running (started : ℕ) (seen : List δ) (scan : Scan ω P K V)
  | finished (started : ℕ) (seen : List δ) (result : Except (ScanError P) (Snapshot K V))

/-- A store to the snapshot: by which call, from a scan started when. -/
structure Publication (K V : Type) where
  call : ℕ
  started : ℕ
  snapshot : Snapshot K V

variable {δ ω P K V : Type}

/-- When the scan of a task started. -/
def Task.started : Task δ ω P K V → Option ℕ
  | absent | queued => none
  | running t _ _ | finished t _ _ => some t

/-- The disks that the scan of a task has met. -/
def Task.seen : Task δ ω P K V → List δ
  | absent | queued => []
  | running _ seen _ | finished _ seen _ => seen

/-- The task of a scan that has met some disks. -/
def Task.ofScan (started : ℕ) (seen : List δ) : Scan ω P K V → Task δ ω P K V
  | .done result => .finished started seen result
  | scan => .running started seen scan

/-- The shared state. -/
structure Store (δ ω P K V : Type) where
  disk : δ
  snapshot : Snapshot K V
  refreshLock : Option ℕ
  calls : ℕ → Call P V
  tasks : ℕ → Task δ ω P K V
  now : ℕ
  lastStarted : Option ℕ
  published : List (Publication K V)

/-- What can happen. A call is one of `refresh` if it has no test. -/
inductive StoreEvent (δ V : Type) where
  | change (disk : δ)
  | call (id : ℕ) (isReady : Option (V → Bool))
  | acquire (id : ℕ)
  | startScan (id : ℕ)
  | advance (id : ℕ)
  | crash (id : ℕ)
  | resume (id : ℕ)
  | cancel (id : ℕ)

namespace Store

/-- `FileStore::new`. -/
def new (disk : δ) : Store δ ω P K V where
  disk := disk
  snapshot := ∅
  refreshLock := none
  calls _ := .absent
  tasks _ := .absent
  now := 0
  lastStarted := none
  published := []

def setCall (s : Store δ ω P K V) (id : ℕ) (call : Call P V) : Store δ ω P K V :=
  { s with calls := Function.update s.calls id call }

def setTask (s : Store δ ω P K V) (id : ℕ) (task : Task δ ω P K V) : Store δ ω P K V :=
  { s with tasks := Function.update s.tasks id task }

theorem calls_setCall_self (s : Store δ ω P K V) (id : ℕ) (call : Call P V) :
    (s.setCall id call).calls id = call :=
  Function.update_self ..

theorem calls_setCall_of_ne (s : Store δ ω P K V) {id id' : ℕ} (h : id' ≠ id) (call : Call P V) :
    (s.setCall id call).calls id' = s.calls id' :=
  Function.update_of_ne h ..

theorem tasks_setTask_self (s : Store δ ω P K V) (id : ℕ) (task : Task δ ω P K V) :
    (s.setTask id task).tasks id = task :=
  Function.update_self ..

theorem tasks_setTask_of_ne (s : Store δ ω P K V) {id id' : ℕ} (h : id' ≠ id)
    (task : Task δ ω P K V) : (s.setTask id task).tasks id' = s.tasks id' :=
  Function.update_of_ne h ..

/-- The start of a scan in an updated task. -/
theorem started_setTask {s : Store δ ω P K V} {id id' t : ℕ} {task : Task δ ω P K V}
    (ht : ((s.setTask id task).tasks id').started = some t) :
    (s.tasks id').started = some t ∨ id' = id ∧ task.started = some t := by
  by_cases heq : id' = id
  · rw [heq, tasks_setTask_self] at ht
    exact .inr ⟨heq, ht⟩
  · rw [tasks_setTask_of_ne s heq] at ht
    exact .inl ht

/-- A moment passes. -/
def advanceClock (s : Store δ ω P K V) : Store δ ω P K V := { s with now := s.now + 1 }

variable [LinearOrder K]

/-- `FileStore::first`: the value of the least key. -/
def first (snapshot : Snapshot K V) : Option V :=
  (snapshot.entries.argmin Sigma.fst).map Sigma.snd

/-- The value with which a call returns at once: `self.first().filter(is_ready)`. -/
def readyValue (s : Store δ ω P K V) (isReady : Option (V → Bool)) : Option V :=
  isReady.bind fun isReady ↦ (first s.snapshot).filter isReady

/-- The transitions. -/
def step (store : FileStore δ ω P K V) (s : Store δ ω P K V) :
    StoreEvent δ V → Option (Store δ ω P K V)
  | .change disk => some { s with disk := disk }
  | .call id isReady =>
    match s.calls id with
    | .absent =>
      match s.readyValue isReady with
      | some value => some (s.setCall id (.returned (.hit value)))
      | none => some (s.setCall id (.waiting isReady))
    | _ => none
  | .acquire id =>
    match s.refreshLock, s.calls id with
    | none, .waiting isReady =>
      match s.readyValue isReady with
      | some value => some (s.setCall id (.returned (.hit value)))
      -- `load` spawns the scan and awaits it with the lock held
      | none => some { (s.setCall id .loading).setTask id .queued with refreshLock := some id }
    | _, _ => none
  | .startScan id =>
    match s.tasks id with
    | .queued => some { (s.setTask id (.running s.now [] (.start store))).advanceClock with
        lastStarted := some s.now }
    | _ => none
  | .advance id =>
    match s.tasks id with
    | .running t seen scan =>
      some (s.setTask id (.ofScan t (seen ++ [s.disk]) (scan.step store s.disk)))
    | _ => none
  | .crash id =>
    match s.tasks id with
    | .running t seen _ => some (s.setTask id (.finished t seen (.error .task)))
    | _ => none
  | .resume id =>
    match s.calls id, s.tasks id with
    | .loading, .finished t _ (.ok snapshot) =>
      -- published before the lock is released
      some { s.setCall id (.returned (.loaded (first snapshot))) with
        snapshot := snapshot
        published := s.published ++ [⟨id, t, snapshot⟩]
        refreshLock := none }
    | .loading, .finished _ _ (.error e) =>
      some { s.setCall id (.returned (.failed e)) with refreshLock := none }
    | _, _ => none
  | .cancel id =>
    match s.calls id with
    | .waiting _ => some (s.setCall id .cancelled)
    | .loading => some { s.setCall id .cancelled with refreshLock := none }
    | _ => none

/-- **What can happen**, case by case. -/
inductive Stepped (store : FileStore δ ω P K V) (s : Store δ ω P K V) :
    StoreEvent δ V → Store δ ω P K V → Prop where
  | change (disk : δ) : Stepped store s (.change disk) { s with disk := disk }
  | callHit {id : ℕ} {isReady : Option (V → Bool)} {value : V} (hcall : s.calls id = .absent) :
    Stepped store s (.call id isReady) (s.setCall id (.returned (.hit value)))
  | callWait {id : ℕ} {isReady : Option (V → Bool)} (hcall : s.calls id = .absent)
      (hready : s.readyValue isReady = none) :
    Stepped store s (.call id isReady) (s.setCall id (.waiting isReady))
  | acquireHit {id : ℕ} {isReady : Option (V → Bool)} {value : V}
      (hcall : s.calls id = .waiting isReady) (hready : s.readyValue isReady = some value) :
    Stepped store s (.acquire id) (s.setCall id (.returned (.hit value)))
  | load {id : ℕ} {isReady : Option (V → Bool)} (hlock : s.refreshLock = none)
      (hcall : s.calls id = .waiting isReady) :
    Stepped store s (.acquire id)
      { (s.setCall id .loading).setTask id .queued with refreshLock := some id }
  | startScan {id : ℕ} (htask : s.tasks id = .queued) :
    Stepped store s (.startScan id)
      { (s.setTask id (.running s.now [] (.start store))).advanceClock with
        lastStarted := some s.now }
  | advance {id t : ℕ} {seen : List δ} {scan : Scan ω P K V}
      (htask : s.tasks id = .running t seen scan) :
    Stepped store s (.advance id)
      (s.setTask id (.ofScan t (seen ++ [s.disk]) (scan.step store s.disk)))
  | crash {id t : ℕ} {seen : List δ} {scan : Scan ω P K V}
      (htask : s.tasks id = .running t seen scan) :
    Stepped store s (.crash id) (s.setTask id (.finished t seen (.error .task)))
  | publish {id t : ℕ} {seen : List δ} {snapshot : Snapshot K V} (hcall : s.calls id = .loading)
      (htask : s.tasks id = .finished t seen (.ok snapshot)) :
    Stepped store s (.resume id)
      { s.setCall id (.returned (.loaded (first snapshot))) with
        snapshot := snapshot
        published := s.published ++ [⟨id, t, snapshot⟩]
        refreshLock := none }
  | fail {id t : ℕ} {seen : List δ} {e : ScanError P} (hcall : s.calls id = .loading)
      (htask : s.tasks id = .finished t seen (.error e)) :
    Stepped store s (.resume id)
      { s.setCall id (.returned (.failed e)) with refreshLock := none }
  | cancelWaiting {id : ℕ} {isReady : Option (V → Bool)} (hcall : s.calls id = .waiting isReady) :
    Stepped store s (.cancel id) (s.setCall id .cancelled)
  | cancelLoading {id : ℕ} (hcall : s.calls id = .loading) :
    Stepped store s (.cancel id) { s.setCall id .cancelled with refreshLock := none }

theorem stepped_of_step {store : FileStore δ ω P K V} {s s' : Store δ ω P K V}
    {e : StoreEvent δ V} (h : s.step store e = some s') : Stepped store s e s' := by
  cases e with
  | change disk => exact Option.some.inj h ▸ .change disk
  | call id isReady =>
    dsimp only [step] at h
    split at h
    · next hcall =>
      split at h
      · exact Option.some.inj h ▸ .callHit hcall
      · next hready => exact Option.some.inj h ▸ .callWait hcall hready
    · cases h
  | acquire id =>
    dsimp only [step] at h
    split at h
    · next hlock hcall =>
      split at h
      · next hready => exact Option.some.inj h ▸ .acquireHit hcall hready
      · exact Option.some.inj h ▸ .load hlock hcall
    · cases h
  | startScan id =>
    dsimp only [step] at h
    split at h
    · next htask => exact Option.some.inj h ▸ .startScan htask
    · cases h
  | advance id =>
    dsimp only [step] at h
    split at h
    · next htask => exact Option.some.inj h ▸ .advance htask
    · cases h
  | crash id =>
    dsimp only [step] at h
    split at h
    · next htask => exact Option.some.inj h ▸ .crash htask
    · cases h
  | resume id =>
    dsimp only [step] at h
    split at h
    · next hcall htask => exact Option.some.inj h ▸ .publish hcall htask
    · next hcall htask => exact Option.some.inj h ▸ .fail hcall htask
    · cases h
  | cancel id =>
    dsimp only [step] at h
    split at h
    · next hcall => exact Option.some.inj h ▸ .cancelWaiting hcall
    · next hcall => exact Option.some.inj h ▸ .cancelLoading hcall
    · cases h

/-! ### The invariant -/

omit [LinearOrder K] in
@[simp]
theorem started_ofScan (t : ℕ) (seen : List δ) (scan : Scan ω P K V) :
    (Task.ofScan t seen scan).started = some t := by
  cases scan <;> rfl

/-- The call has not come to its load. -/
def Pending (call : Call P V) : Prop := call = .absent ∨ ∃ isReady, call = .waiting isReady

/-- The call has returned or was cancelled. -/
def IsOver : Call P V → Prop
  | .returned _ | .cancelled => True
  | .absent | .waiting _ | .loading => False

theorem IsOver.ne_loading {call : Call P V} (h : IsOver call) : call ≠ .loading := by
  rintro rfl
  exact h

theorem IsOver.not_pending {call : Call P V} (h : IsOver call) : ¬ Pending call := by
  rintro (rfl | ⟨isReady, rfl⟩)
  · exact h
  · exact h

/-- **A task is a scan**: the machine is where the disks that it met have brought it, unless the
task has panicked. -/
def Replays (store : FileStore δ ω P K V) : Task δ ω P K V → Prop
  | .absent | .queued => True
  | .running _ seen scan => seen.foldl (Scan.step store) (.start store) = scan
  | .finished _ seen result =>
    result = .error .task ∨ seen.foldl (Scan.step store) (.start store) = .done result

theorem replays_ofScan {store : FileStore δ ω P K V} {seen : List δ}
    {scan : Scan ω P K V} (h : seen.foldl (Scan.step store) (.start store) = scan) {t : ℕ}
    {disk : δ} : Replays store (.ofScan t (seen ++ [disk]) (scan.step store disk)) := by
  have hnext : (seen ++ [disk]).foldl (Scan.step store) (.start store) = scan.step store disk := by
    rw [List.foldl_append, h]
    rfl
  cases hscan : scan.step store disk with
  | walking walk snapshot => exact hnext.trans hscan
  | reading walk snapshot key path => exact hnext.trans hscan
  | done result => exact .inr (hnext.trans hscan)

/-- The snapshot published last, or that of `FileStore::new`. -/
def latest (published : List (Publication K V)) : Snapshot K V :=
  (published.getLast?.map (·.snapshot)).getD ∅

/-- **The invariant.** The call that loads has the lock. What was published is the result of the
scan of a call that returned normally; the snapshot is what was published last; and scans published
later started later, as the scan of the call that loads did. -/
structure Serial (store : FileStore δ ω P K V) (s : Store δ ω P K V) : Prop where
  owner : ∀ id, s.calls id = .loading → s.refreshLock = some id
  unspawned : ∀ id, Pending (s.calls id) → s.tasks id = .absent
  clock : ∀ id t, (s.tasks id).started = some t →
    t < s.now ∧ ∃ last, s.lastStarted = some last ∧ t ≤ last
  last : ∀ last, s.lastStarted = some last → last < s.now
  replays : ∀ id, Replays store (s.tasks id)
  published : ∀ p ∈ s.published, (∃ v, s.calls p.call = .returned (.loaded v)) ∧
    ∃ seen, s.tasks p.call = .finished p.started seen (.ok p.snapshot)
  current : s.snapshot = latest s.published
  order : s.published.Pairwise (·.started < ·.started)
  fresh : ∀ id t, s.calls id = .loading → (s.tasks id).started = some t →
    ∀ p ∈ s.published, p.started < t

variable {store : FileStore δ ω P K V} {s s' : Store δ ω P K V} {e : StoreEvent δ V} {id : ℕ}
  {call : Call P V}

theorem serial_new (disk : δ) : Serial store (new disk) where
  owner _ h := nomatch h
  unspawned _ _ := rfl
  clock _ _ h := nomatch h
  last _ h := nomatch h
  replays _ := trivial
  published _ h := nomatch h
  current := rfl
  order := .nil
  fresh _ _ h := nomatch h

theorem Serial.started_lt_now (h : Serial store s) {p : Publication K V} (hp : p ∈ s.published) :
    p.started < s.now := by
  obtain ⟨-, seen, htask⟩ := h.published p hp
  exact (h.clock p.call p.started (by rw [htask]; rfl)).1

/-- A call before its load has published nothing. -/
theorem Serial.ne_of_pending (h : Serial store s) (hold : Pending (s.calls id))
    {p : Publication K V} (hp : p ∈ s.published) : p.call ≠ id := by
  rintro rfl
  obtain ⟨⟨v, hv⟩, -⟩ := h.published p hp
  rw [hv] at hold
  rcases hold with hold | ⟨isReady, hold⟩ <;> cases hold

/-- A task that is not finished has nothing published. -/
theorem Serial.ne_of_unfinished (h : Serial store s)
    (hold : ∀ t seen result, s.tasks id ≠ .finished t seen result) {p : Publication K V}
    (hp : p ∈ s.published) : p.call ≠ id := by
  rintro rfl
  obtain ⟨-, seen, htask⟩ := h.published p hp
  exact hold _ _ _ htask

/-- A task that is a scan is put in the place of another. -/
theorem Serial.replays_setTask (h : Serial store s) {task : Task δ ω P K V}
    (hnew : Replays store task) (id' : ℕ) : Replays store ((s.setTask id task).tasks id') := by
  by_cases heq : id' = id
  · rw [heq, tasks_setTask_self]
    exact hnew
  · rw [tasks_setTask_of_ne s heq]
    exact h.replays id'

/-- A task that was spawned is not that of a call before its load. -/
theorem Serial.unspawned_setTask (h : Serial store s) {task : Task δ ω P K V}
    (hold : s.tasks id ≠ .absent) {id' : ℕ} (hid' : Pending (s.calls id')) :
    (s.setTask id task).tasks id' = .absent := by
  have habsent := h.unspawned id' hid'
  have hne : id' ≠ id := by
    rintro rfl
    exact hold habsent
  rw [tasks_setTask_of_ne s hne, habsent]

theorem Serial.advanceClock (h : Serial store s) : Serial store s.advanceClock :=
  { h with
    clock := fun id t ht ↦ ⟨Nat.lt_succ_of_lt (h.clock id t ht).1, (h.clock id t ht).2⟩
    last := fun last hlast ↦ Nat.lt_succ_of_lt (h.last last hlast) }

/-- A call before its load goes on waiting, or is over. -/
theorem Serial.settle (h : Serial store s) (hold : Pending (s.calls id)) (hnew : call ≠ .loading) :
    Serial store (s.setCall id call) := by
  have hother : ∀ p ∈ s.published, p.call ≠ id := fun p hp ↦ h.ne_of_pending hold hp
  have hloading : ∀ id', (s.setCall id call).calls id' = .loading → s.calls id' = .loading := by
    intro id' hid'
    by_cases heq : id' = id
    · rw [heq, calls_setCall_self] at hid'
      exact absurd hid' hnew
    · rwa [calls_setCall_of_ne s heq] at hid'
  refine ⟨fun id' hid' ↦ h.owner id' (hloading id' hid'), fun id' hid' ↦ ?_, h.clock, h.last,
    h.replays, fun p hp ↦ ?_, h.current, h.order,
    fun id' t hid' ↦ h.fresh id' t (hloading id' hid')⟩
  · by_cases heq : id' = id
    · exact h.unspawned id' (heq ▸ hold)
    · rw [calls_setCall_of_ne s heq] at hid'
      exact h.unspawned id' hid'
  · rw [calls_setCall_of_ne s (hother p hp)]
    exact h.published p hp

theorem Serial.setTask (h : Serial store s) {id t : ℕ} {seen : List δ} {scan : Scan ω P K V}
    {task : Task δ ω P K V} (hold : s.tasks id = .running t seen scan)
    (hstarted : task.started = some t) (hreplays : Replays store task) :
    Serial store (s.setTask id task) := by
  have hsame : ∀ id', ((s.setTask id task).tasks id').started = (s.tasks id').started := by
    intro id'
    by_cases heq : id' = id
    · rw [heq, tasks_setTask_self, hold]
      exact hstarted
    · rw [tasks_setTask_of_ne s heq]
  have hspawned : s.tasks id ≠ .absent := by
    rw [hold]
    exact fun h ↦ nomatch h
  have hunfinished : ∀ t seen result, s.tasks id ≠ .finished t seen result := by
    rw [hold]
    exact fun _ _ _ h ↦ nomatch h
  refine ⟨h.owner, fun id' hid' ↦ h.unspawned_setTask hspawned hid',
    fun id' t' ht' ↦ h.clock id' t' (hsame id' ▸ ht'), h.last, h.replays_setTask hreplays,
    fun p hp ↦ ?_, h.current, h.order,
    fun id' t' hid' ht' ↦ h.fresh id' t' hid' (hsame id' ▸ ht')⟩
  rw [tasks_setTask_of_ne s (h.ne_of_unfinished hunfinished hp)]
  exact h.published p hp

theorem Serial.load (h : Serial store s) (hlock : s.refreshLock = none)
    (hold : Pending (s.calls id)) :
    Serial store { (s.setCall id .loading).setTask id .queued with refreshLock := some id } := by
  -- the lock was free, so this is the only call that loads
  have hfree : ∀ id', s.calls id' ≠ .loading := fun id' hid' ↦ by
    cases hlock.symm.trans (h.owner id' hid')
  have honly : ∀ id', (s.setCall id .loading).calls id' = .loading → id' = id := by
    intro id' hid'
    by_contra hne
    rw [calls_setCall_of_ne s hne] at hid'
    exact hfree id' hid'
  have hstarted : ∀ id' t, ((s.setTask id .queued).tasks id').started = some t →
      id' ≠ id ∧ (s.tasks id').started = some t := by
    intro id' t ht
    by_cases heq : id' = id
    · rw [heq, tasks_setTask_self] at ht
      cases ht
    · rw [tasks_setTask_of_ne s heq] at ht
      exact ⟨heq, ht⟩
  refine ⟨fun id' hid' ↦ congrArg some (honly id' hid').symm, fun id' hid' ↦ ?_,
    fun id' t ht ↦ h.clock id' t (hstarted id' t ht).2, h.last, h.replays_setTask trivial,
    fun p hp ↦ ?_, h.current, h.order,
    fun id' t hid' ht ↦ absurd (honly id' hid') (hstarted id' t ht).1⟩
  · have hid' : Pending ((s.setCall id .loading).calls id') := hid'
    have hne : id' ≠ id := by
      rintro rfl
      rw [calls_setCall_self] at hid'
      rcases hid' with hid' | ⟨isReady, hid'⟩ <;> cases hid'
    rw [calls_setCall_of_ne s hne] at hid'
    exact (tasks_setTask_of_ne s hne _).trans (h.unspawned id' hid')
  · have hne := h.ne_of_pending hold hp
    obtain ⟨⟨v, hv⟩, seen, htask⟩ := h.published p hp
    exact ⟨⟨v, (calls_setCall_of_ne s hne _).trans hv⟩, seen,
      (tasks_setTask_of_ne s hne _).trans htask⟩

theorem Serial.startScan (h : Serial store s) (hold : s.tasks id = .queued) :
    Serial store { (s.setTask id (.running s.now [] (.start store))).advanceClock with
      lastStarted := some s.now } := by
  have hstarted : ∀ id' t, ((s.setTask id (.running s.now [] (.start store))).tasks id').started =
      some t → t = s.now ∨ (s.tasks id').started = some t := by
    intro id' t ht
    rcases started_setTask ht with ht | ⟨-, hnow⟩
    · exact .inr ht
    · exact .inl (Option.some.inj hnow).symm
  have hspawned : s.tasks id ≠ .absent := by
    rw [hold]
    exact fun h ↦ nomatch h
  have hunfinished : ∀ t seen result, s.tasks id ≠ .finished t seen result := by
    rw [hold]
    exact fun _ _ _ h ↦ nomatch h
  refine ⟨h.owner, fun id' hid' ↦ h.unspawned_setTask hspawned hid', fun id' t ht ↦ ?_,
    fun last hlast ↦ ?_, h.replays_setTask rfl, fun p hp ↦ ?_, h.current, h.order,
    fun id' t hid' ht p hp ↦ ?_⟩
  · rcases hstarted id' t ht with rfl | ht
    · exact ⟨Nat.lt_succ_self _, s.now, rfl, le_rfl⟩
    · have hlt := (h.clock id' t ht).1
      exact ⟨Nat.lt_succ_of_lt hlt, s.now, rfl, hlt.le⟩
  · exact Option.some.inj hlast ▸ Nat.lt_succ_self _
  · obtain ⟨hcall, seen, htask⟩ := h.published p hp
    have hne := h.ne_of_unfinished hunfinished hp
    exact ⟨hcall, seen, (tasks_setTask_of_ne s hne _).trans htask⟩
  · rcases hstarted id' t ht with rfl | ht
    · exact h.started_lt_now hp
    · exact h.fresh id' t hid' ht p hp

/-- When the call that loads is over, none loads. -/
theorem Serial.ne_loading (h : Serial store s) (hold : s.calls id = .loading) (hover : IsOver call)
    (id' : ℕ) : (s.setCall id call).calls id' ≠ .loading := by
  intro hid'
  by_cases heq : id' = id
  · rw [heq, calls_setCall_self] at hid'
    exact hover.ne_loading hid'
  · rw [calls_setCall_of_ne s heq] at hid'
    have hlock := (h.owner id' hid').symm.trans (h.owner id hold)
    exact heq (Option.some.inj hlock)

theorem Serial.release (h : Serial store s) (hold : s.calls id = .loading) (hover : IsOver call) :
    Serial store { s.setCall id call with refreshLock := none } := by
  have hother : ∀ p ∈ s.published, p.call ≠ id := by
    rintro p hp rfl
    obtain ⟨⟨v, hv⟩, -⟩ := h.published p hp
    cases hold.symm.trans hv
  have hfree := h.ne_loading hold hover
  refine ⟨fun id' hid' ↦ absurd hid' (hfree id'), fun id' hid' ↦ ?_, h.clock, h.last, h.replays,
    fun p hp ↦ ?_, h.current, h.order, fun id' _ hid' ↦ absurd hid' (hfree id')⟩
  · have hid' : Pending ((s.setCall id call).calls id') := hid'
    by_cases heq : id' = id
    · rw [heq, calls_setCall_self] at hid'
      exact absurd hid' hover.not_pending
    · rw [calls_setCall_of_ne s heq] at hid'
      exact h.unspawned id' hid'
  · obtain ⟨⟨v, hv⟩, htask⟩ := h.published p hp
    exact ⟨⟨v, (calls_setCall_of_ne s (hother p hp) _).trans hv⟩, htask⟩

/-- **A snapshot is published** by the call that has the lock: its scan started after those of all
publications before it. -/
theorem Serial.publish (h : Serial store s) {id t : ℕ} {seen : List δ} {snapshot : Snapshot K V}
    (hcall : s.calls id = .loading) (htask : s.tasks id = .finished t seen (.ok snapshot)) :
    Serial store { s.setCall id (.returned (.loaded (first snapshot))) with
      snapshot := snapshot
      published := s.published ++ [⟨id, t, snapshot⟩]
      refreshLock := none } := by
  have hover : IsOver (.returned (.loaded (first snapshot)) : Call P V) := trivial
  have hreleased := h.release hcall hover
  refine ⟨hreleased.owner, hreleased.unspawned, h.clock, h.last, h.replays, fun p hp ↦ ?_, ?_, ?_,
    fun id' _ hid' ↦ absurd hid' (h.ne_loading hcall hover id')⟩
  · rcases List.mem_append.1 hp with hp | hp
    · exact hreleased.published p hp
    · obtain rfl := List.mem_singleton.1 hp
      exact ⟨⟨_, calls_setCall_self s id _⟩, seen, htask⟩
  · simp [latest]
  · refine List.pairwise_append.2 ⟨h.order, List.pairwise_singleton .., fun p hp q hq ↦ ?_⟩
    obtain rfl := List.mem_singleton.1 hq
    exact h.fresh id t hcall (by rw [htask]; rfl) p hp

theorem Serial.step (h : Serial store s) (hstep : s.step store e = some s') : Serial store s' := by
  cases stepped_of_step hstep with
  | change disk =>
    exact ⟨h.owner, h.unspawned, h.clock, h.last, h.replays, h.published, h.current, h.order,
      h.fresh⟩
  | callHit hcall | callWait hcall => exact h.settle (.inl hcall) fun h ↦ nomatch h
  | acquireHit hcall | cancelWaiting hcall => exact h.settle (.inr ⟨_, hcall⟩) fun h ↦ nomatch h
  | load hlock hcall => exact h.load hlock (.inr ⟨_, hcall⟩)
  | startScan htask => exact h.startScan htask
  | @advance id t seen scan htask =>
    have hreplays := h.replays id
    rw [htask] at hreplays
    exact h.setTask htask (started_ofScan ..) (replays_ofScan hreplays)
  | crash htask => exact h.setTask htask rfl (.inl rfl)
  | publish hcall htask => exact h.publish hcall htask
  | fail hcall htask => exact h.release hcall trivial
  | cancelLoading hcall => exact h.release hcall trivial

/-! ### What a transition leaves -/

theorem now_le_of_step (hstep : s.step store e = some s') : s.now ≤ s'.now := by
  cases stepped_of_step hstep with
  | startScan => exact Nat.le_succ _
  | _ => exact le_rfl

/-- The last start of a scan is not before the one known. -/
theorem Serial.lastStarted_of_step (h : Serial store s) (hstep : s.step store e = some s')
    {last : ℕ} (hlast : s.lastStarted = some last) :
    ∃ last', s'.lastStarted = some last' ∧ last ≤ last' := by
  cases stepped_of_step hstep with
  | startScan => exact ⟨s.now, rfl, (h.last last hlast).le⟩
  | _ => exact ⟨last, hlast, le_rfl⟩

/-- A scan that has started did so before, or starts now. -/
theorem started_of_step (hstep : s.step store e = some s') {id t : ℕ}
    (ht : (s'.tasks id).started = some t) : (s.tasks id).started = some t ∨ t = s.now := by
  cases stepped_of_step hstep with
  | load hlock hcall =>
    rcases started_setTask (s := s) ht with hold | ⟨-, hnone⟩
    · exact .inl hold
    · cases hnone
  | startScan htask =>
    rcases started_setTask (s := s) ht with hold | ⟨-, hnow⟩
    · exact .inl hold
    · exact .inr (Option.some.inj hnow).symm
  | advance htask =>
    rcases started_setTask ht with hold | ⟨rfl, hsame⟩
    · exact .inl hold
    · rw [started_ofScan] at hsame
      rw [htask]
      exact .inl hsame
  | crash htask =>
    rcases started_setTask ht with hold | ⟨rfl, hsame⟩
    · exact .inl hold
    · rw [htask]
      exact .inl hsame
  | _ => exact .inl ht

/-- A refresh waits and loads until it is resumed or cancelled. -/
theorem refresh_of_step (hstep : s.step store e = some s')
    (hcall : s.calls id = .waiting none ∨ s.calls id = .loading) (hresume : e ≠ .resume id)
    (hcancel : e ≠ .cancel id) : s'.calls id = .waiting none ∨ s'.calls id = .loading := by
  have hkeep : ∀ {id' : ℕ} {call : Call P V}, id ≠ id' →
      (s.setCall id' call).calls id = .waiting none ∨
        (s.setCall id' call).calls id = .loading := by
    intro id' call hne
    rw [calls_setCall_of_ne s hne]
    exact hcall
  cases stepped_of_step hstep with
  | callHit habsent | callWait habsent =>
    refine hkeep ?_
    rintro rfl
    rw [habsent] at hcall
    rcases hcall with hcall | hcall <;> cases hcall
  | acquireHit hwaiting hready =>
    refine hkeep ?_
    rintro rfl
    rw [hwaiting] at hcall
    rcases hcall with hcall | hcall
    · obtain rfl := Call.waiting.inj hcall
      cases hready
    · cases hcall
  | @load id' isReady hlock hwaiting =>
    by_cases heq : id = id'
    · exact .inr (heq ▸ calls_setCall_self s id' _)
    · exact hkeep heq
  | publish | fail => exact hkeep fun heq ↦ hresume (heq ▸ rfl)
  | cancelWaiting | cancelLoading => exact hkeep fun heq ↦ hcancel (heq ▸ rfl)
  | change | startScan | advance | crash => exact hcall

theorem started_of_resume (hstep : s.step store (.resume id) = some s') :
    ∃ t, (s.tasks id).started = some t := by
  cases stepped_of_step hstep with
  | publish hcall htask | fail hcall htask =>
    rw [htask]
    exact ⟨_, rfl⟩

/-- A refresh is called: it waits for the lock, whatever the snapshot. -/
theorem refresh_of_call (hstep : s.step store (.call id none) = some s') :
    s.calls id = .absent ∧ s' = s.setCall id (.waiting none) := by
  dsimp only [step] at hstep
  split at hstep
  · next hcall => exact ⟨hcall, (Option.some.inj hstep).symm⟩
  · cases hstep

/-- **Only a refresh that succeeds changes the snapshot.** -/
theorem snapshot_of_step (hstep : s.step store e = some s') (hne : s'.snapshot ≠ s.snapshot) :
    ∃ id v, e = .resume id ∧ s.calls id = .loading ∧ s'.calls id = .returned (.loaded v) := by
  cases stepped_of_step hstep with
  | publish hcall htask => exact ⟨_, _, rfl, hcall, calls_setCall_self ..⟩
  | _ => exact absurd rfl hne

end Store

end Ztunnel.Watcher
