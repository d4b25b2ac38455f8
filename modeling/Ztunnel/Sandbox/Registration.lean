import Ztunnel.Lib.AtomicFile
import Ztunnel.Lib.KeyedLock
import Ztunnel.Lib.Transition
import Ztunnel.Sandbox.Discovery

/-!
# The registration of a Sandbox

`SandboxManager` of `sandbox.rs`, as far as it decides which Sandbox a workload's proxy stands for:
`prepare` registers an id in a file, and publishes it; a process that starts in the same directory
publishes what it finds there. Calls of `prepare` run concurrently, with a step for each check, each
operation on the file system, which may fail, and the publication; the process may end between any
two of them, and so may the machine, with what that does to a file (`AtomicFile`).

What a process has published never changes. That it outlives the process is not ensured: `register`
syncs the directory after the rename, but `with_registration` trusts a rename that has not been
synced, and `register` then returns at once. If power is lost afterwards, the id is gone although
`prepare` has returned, and another one is registered (`registration_lost`). If `prepare` does not
return for an id that was read from such a rename, or power is never lost, then it returns for one
id, and every later process has it (`registration_unique`).
-/

namespace Ztunnel.Sandbox.Registration

open Ztunnel.State (Strng)
open Transition

/-! ### The state -/

/-- `sandbox::Error`; the errors of the libraries by their kind. -/
inductive Error where
  | invalidIdentity (err : SandboxError)
  | io
  | json
  | alreadyRegistered
  | workloadMismatch
  | notReady
  | tokenNotReady
  | tokenLoad
  | unknownWorkload
  | updateChannelClosed
  | registrationTask
deriving DecidableEq, Repr

/-- Where a call of `prepare` is. -/
inductive Phase where
  /-- Before `check_registration`. -/
  | checking
  /-- In `wait_for_sandbox` or `require_ready`. -/
  | preparing
  /-- In `register`, before the lock. -/
  | locking
  /-- Before the temporary file is created. -/
  | creating
  | writing
  /-- Before `sync_all` of the temporary file. -/
  | syncing
  /-- Before `rename`. -/
  | replacing
  /-- Before `sync_all` of the directory. -/
  | syncingDirectory
  /-- Before `send_replace`. -/
  | publishing
  /-- The call has returned `Ok` or an error. -/
  | done (err : Option Error)
deriving DecidableEq, Repr

/-- The phases under `registration_lock`. -/
def Phase.locked : Phase → Bool
  | .creating | .writing | .syncing | .replacing | .syncingDirectory | .publishing => true
  | _ => false

/-- A call of `prepare`. -/
structure Prepare where
  id : Strng
  phase : Phase
deriving DecidableEq, Repr

/-- The lock that the call holds, if any. -/
def Prepare.holds (call : Prepare) : Option Unit := if call.phase.locked then some () else none

/-- `SandboxManager`. -/
structure SandboxManager where
  id : Option Strng
  registrationLock : LockMap Unit
  calls : List Prepare

/-- The directory: `sandbox.json` and `sandbox.json.tmp`. -/
structure Directory where
  file : AtomicFile Strng
  temporary : Option (Document Strng)

/-- The machine: the directory, the process, and the ids for which `prepare` has returned `Ok`. -/
structure System where
  directory : Directory
  process : Option SandboxManager
  registered : List Strng

/-- A machine with an empty directory, before the first process. -/
def new : System := ⟨⟨⟨none, []⟩, none⟩, none, []⟩

/-! ### The calls -/

/-- `check_registration`. -/
def SandboxManager.checkRegistration (manager : SandboxManager) (id : Strng) :
    Except Error Unit := do
  (validateId id).mapError .invalidIdentity
  match manager.id with
  | some current => if current ≠ id then throw .alreadyRegistered
  | none => pure ()

/-- `with_registration`: what is in the directory. -/
def Directory.withRegistration (directory : Directory) : Except Error (Option Strng) :=
  match directory.file.visible with
  | none => .ok none
  | some ⟨none, _⟩ => .error .json
  | some ⟨some id, _⟩ => ((validateId id).mapError .invalidIdentity).map fun _ ↦ some id

/-- The next operation of `register` on the file system succeeds. -/
def Directory.advance (directory : Directory) (id : Strng) : Phase → Option (Directory × Phase)
  | .creating => some ({ directory with temporary := some ⟨none, false⟩ }, .writing)
  | .writing => some ({ directory with temporary := some ⟨some id, false⟩ }, .syncing)
  | .syncing =>
    some ({ directory with
      temporary := directory.temporary.map fun doc ↦ { doc with synced := true } }, .replacing)
  | .replacing =>
    directory.temporary.map fun doc ↦ (⟨directory.file.rename doc, none⟩, .syncingDirectory)
  | .syncingDirectory => some ({ directory with file := directory.file.sync }, .publishing)
  | _ => none

/-- What a call does next. -/
inductive CallEvent where
  | check
  /-- The Sandbox and the token are ready, or there is an error. -/
  | ready (err : Option Error)
  | lock
  /-- An operation on the file system succeeds or fails. -/
  | io (err : Option Error)
  | publish
deriving DecidableEq, Repr

/-- One step of the call number `k`. -/
def callStep (directory : Directory) (manager : SandboxManager) (k : ℕ) (call : Prepare)
    (event : CallEvent) : Option (Directory × SandboxManager × Phase) :=
  match call.phase, event with
  | .checking, .check =>
    match manager.checkRegistration call.id with
    | .ok () => some (directory, manager, .preparing)
    | .error err => some (directory, manager, .done (some err))
  | .preparing, .ready none => some (directory, manager, .locking)
  | .preparing, .ready (some err) => some (directory, manager, .done (some err))
  | .locking, .lock =>
    -- whichever of the waiting calls it is
    if manager.registrationLock () = some [] then
      match manager.checkRegistration call.id with
      | .error err => some (directory, manager, .done (some err))
      | .ok () =>
        if manager.id.isSome then some (directory, manager, .done none)
        else
          some (directory,
            { manager with registrationLock := manager.registrationLock.join () k }, .creating)
    else none
  | phase, .io none =>
    (directory.advance call.id phase).map fun (directory, phase) ↦ (directory, manager, phase)
  | phase, .io (some err) =>
    if phase.locked ∧ phase ≠ .publishing then
      some (directory,
        { manager with registrationLock := manager.registrationLock.leave () k }, .done (some err))
    else none
  | .publishing, .publish =>
    some (directory,
      { manager with
        id := some call.id
        registrationLock := manager.registrationLock.leave () k }, .done none)
  | _, _ => none

/-! ### The machine -/

/-- What happens to the machine. -/
inductive Event where
  | prepare (id : Strng)
  | call (k : ℕ) (event : CallEvent)
  /-- The process ends. -/
  | crash
  /-- The machine loses power: the first `n` renames survive, and contents that are not synced may
  be torn. -/
  | powerLoss (n : ℕ) (torn : Bool)
  | restart
deriving DecidableEq, Repr

/-- One step of the machine. -/
def step (sys : System) : Event → Option System
  | .prepare id =>
    sys.process.map fun manager ↦
      { sys with process := some { manager with calls := manager.calls ++ [⟨id, .checking⟩] } }
  | .call k event =>
    sys.process.bind fun manager ↦ manager.calls[k]?.bind fun call ↦
      (callStep sys.directory manager k call event).map fun (directory, manager, phase) ↦
        { directory := directory
          process := some { manager with calls := manager.calls.set k ⟨call.id, phase⟩ }
          registered := if phase = .done none then sys.registered ++ [call.id] else sys.registered }
  | .crash => sys.process.map fun _ ↦ { sys with process := none }
  | .powerLoss n torn =>
    some { sys with
      directory := { sys.directory with file := sys.directory.file.powerLoss n torn }
      process := none }
  | .restart =>
    match sys.process, sys.directory.withRegistration with
    | none, .ok id => some { sys with process := some ⟨id, fun _ ↦ some [], []⟩ }
    | _, _ => none

/-! ### What a step can do -/

/-- The transitions of a call, by what they do to the directory, the lock and the published id. -/
inductive Called (directory : Directory) (manager : SandboxManager) (k : ℕ) (call : Prepare) :
    CallEvent → Directory → SandboxManager → Phase → Prop
  /-- The call goes on without the lock, or returns an error. -/
  | waits (event : CallEvent) (phase : Phase) (hbefore : call.phase.locked = false)
    (hafter : phase.locked = false) (hphase : phase ≠ .done none) :
    Called directory manager k call event directory manager phase
  /-- The id is registered already. -/
  | joined (hbefore : call.phase.locked = false) (hid : manager.id = some call.id) :
    Called directory manager k call .lock directory manager (.done none)
  | entered (hbefore : call.phase.locked = false) (hfree : manager.registrationLock () = some [])
    (hid : manager.id = none) (hvalid : validateId call.id = .ok ()) :
    Called directory manager k call .lock directory
      { manager with registrationLock := manager.registrationLock.join () k } .creating
  | advanced (directory' : Directory) (phase : Phase)
    (hadvance : directory.advance call.id call.phase = some (directory', phase)) :
    Called directory manager k call (.io none) directory' manager phase
  | failed (err : Error) (hbefore : call.phase.locked = true) :
    Called directory manager k call (.io (some err)) directory
      { manager with registrationLock := manager.registrationLock.leave () k } (.done (some err))
  | published (hphase : call.phase = .publishing) :
    Called directory manager k call .publish directory
      { manager with
        id := some call.id
        registrationLock := manager.registrationLock.leave () k } (.done none)

section Inversion

variable {directory directory' : Directory} {manager manager' : SandboxManager} {k : ℕ}
  {call : Prepare} {phase : Phase} {event : CallEvent} {sys sys' : System}

/-- What a check that succeeds says. -/
theorem checkRegistration_eq_ok {id : Strng} (h : manager.checkRegistration id = .ok ()) :
    validateId id = .ok () ∧ ∀ current, manager.id = some current → current = id := by
  unfold SandboxManager.checkRegistration at h
  cases hvalid : validateId id with
  | error err =>
    rw [hvalid] at h
    cases h
  | ok =>
    refine ⟨rfl, fun current hid ↦ ?_⟩
    rw [hvalid, hid] at h
    by_contra hne
    change (if current ≠ id then throw Error.alreadyRegistered else pure ()) = _ at h
    rw [if_pos hne] at h
    cases h

theorem called_of_callStep
    (h : callStep directory manager k call event = some (directory', manager', phase)) :
    Called directory manager k call event directory' manager' phase := by
  unfold callStep at h
  split at h
  · next hphase =>
    have hbefore : call.phase.locked = false := hphase ▸ rfl
    split at h <;> cases h
    · exact .waits _ _ hbefore rfl (fun heq ↦ nomatch heq)
    · exact .waits _ _ hbefore rfl (fun heq ↦ nomatch heq)
  · next hphase =>
    cases h
    exact .waits _ _ (hphase ▸ rfl) rfl (fun heq ↦ nomatch heq)
  · next hphase =>
    cases h
    exact .waits _ _ (hphase ▸ rfl) rfl (fun heq ↦ nomatch heq)
  · next hphase =>
    have hbefore : call.phase.locked = false := hphase ▸ rfl
    split at h
    · next hfree =>
      split at h
      · cases h
        exact .waits _ _ hbefore rfl (fun heq ↦ nomatch heq)
      · next hcheck =>
        obtain ⟨hvalid, hsame⟩ := checkRegistration_eq_ok hcheck
        split at h
        · next hsome =>
          cases h
          obtain ⟨current, hid⟩ := Option.isSome_iff_exists.1 hsome
          exact .joined hbefore (hid.trans (congrArg some (hsame current hid)))
        · next hnone =>
          cases h
          exact .entered hbefore hfree (Option.not_isSome_iff_eq_none.1 hnone) hvalid
    · cases h
  · obtain ⟨⟨directory'', phase'⟩, hadvance, heq⟩ := Option.map_eq_some_iff.1 h
    cases heq
    exact .advanced _ _ hadvance
  · next err =>
    split at h <;> cases h
    next hlocked => exact .failed err hlocked.1
  · next hphase =>
    cases h
    exact .published hphase
  · cases h

theorem step_cases {event : Event} (h : step sys event = some sys') :
    (∃ id manager, event = .prepare id ∧ sys.process = some manager ∧ sys' = { sys with
      process := some { manager with calls := manager.calls ++ [⟨id, .checking⟩] } }) ∨
    (∃ k e manager call directory' manager' phase, event = .call k e ∧
      sys.process = some manager ∧ manager.calls[k]? = some call ∧
      Called sys.directory manager k call e directory' manager' phase ∧
      sys' = ⟨directory', some { manager' with calls := manager'.calls.set k ⟨call.id, phase⟩ },
        if phase = .done none then sys.registered ++ [call.id] else sys.registered⟩) ∨
    (event = .crash ∧ sys' = { sys with process := none }) ∨
    (∃ n torn, event = .powerLoss n torn ∧ sys' = { sys with
      directory := { sys.directory with file := sys.directory.file.powerLoss n torn }
      process := none }) ∨
    (∃ id, event = .restart ∧ sys.process = none ∧ sys.directory.withRegistration = .ok id ∧
      sys' = { sys with process := some ⟨id, fun _ ↦ some [], []⟩ }) := by
  cases event with
  | prepare id =>
    obtain ⟨manager, hprocess, rfl⟩ := Option.map_eq_some_iff.1 h
    exact .inl ⟨id, manager, rfl, hprocess, rfl⟩
  | call k event =>
    obtain ⟨manager, hprocess, h⟩ := Option.bind_eq_some_iff.1 h
    obtain ⟨call, hcall, h⟩ := Option.bind_eq_some_iff.1 h
    obtain ⟨⟨directory', manager', phase⟩, hstep, rfl⟩ := Option.map_eq_some_iff.1 h
    exact .inr (.inl ⟨k, event, manager, call, directory', manager', phase, rfl, hprocess, hcall,
      called_of_callStep hstep, rfl⟩)
  | crash =>
    obtain ⟨manager, hprocess, rfl⟩ := Option.map_eq_some_iff.1 h
    exact .inr (.inr (.inl ⟨rfl, rfl⟩))
  | powerLoss n torn =>
    cases h
    exact .inr (.inr (.inr (.inl ⟨n, torn, rfl, rfl⟩)))
  | restart =>
    dsimp only [step] at h
    split at h <;> cases h
    next id hprocess hload => exact .inr (.inr (.inr (.inr ⟨id, rfl, hprocess, hload, rfl⟩)))

end Inversion

/-! ### One call at a time writes -/

/-- How far the call that has the lock has got. -/
def Progress (directory : Directory) (id : Strng) : Phase → Prop
  | .syncing => directory.temporary = some ⟨some id, false⟩
  | .replacing => directory.temporary = some ⟨some id, true⟩
  | .syncingDirectory => directory.file.visible = some ⟨some id, true⟩
  | .publishing => ∀ lossy, directory.file.Keeps id lossy
  | _ => True

/-- A call that has the lock has a valid id, no id is published, and it has done its work so far. -/
structure Orderly (directory : Directory) (manager : SandboxManager) : Prop where
  locks : LockMap.Consistent manager.registrationLock manager.calls Prepare.holds Prepare.holds
  writer : ∀ (k : ℕ) call, manager.calls[k]? = some call → call.phase.locked = true →
    manager.id = none ∧ validateId call.id = .ok () ∧ Progress directory call.id call.phase

namespace Orderly

variable {directory directory' : Directory} {manager manager' : SandboxManager} {k : ℕ}
  {call : Prepare} {phase : Phase}

theorem started (directory : Directory) (id : Option Strng) :
    Orderly directory ⟨id, fun _ ↦ some [], []⟩ where
  locks := ⟨fun _ ↦ List.nodup_nil, (fun _ _ h ↦ nomatch h), fun _ _ h ↦ nomatch h⟩
  writer _ _ h := nomatch h

theorem prepare (h : Orderly directory manager) (id : Strng) :
    Orderly directory { manager with calls := manager.calls ++ [⟨id, .checking⟩] } where
  locks := h.locks.append rfl
  writer := List.forall_getElem?_concat h.writer fun hlocked ↦ nomatch hlocked

theorem eq_of_locked (h : Orderly directory manager) {j : ℕ} {other : Prepare}
    (hcall : manager.calls[k]? = some call) (hother : manager.calls[j]? = some other)
    (hk : call.phase.locked = true) (hj : other.phase.locked = true) : j = k := by
  have howner := h.locks.holds j other hother () (if_pos hj)
  exact Option.some.inj (howner.symm.trans (h.locks.holds k call hcall () (if_pos hk)))

theorem locked_of_advance {id : Strng} {before : Phase}
    (h : directory.advance id before = some (directory', phase)) :
    before.locked = true ∧ phase.locked = true := by
  cases before with
  | creating | writing | syncing | syncingDirectory =>
    cases h
    exact ⟨rfl, rfl⟩
  | replacing =>
    obtain ⟨doc, -, heq⟩ := Option.map_eq_some_iff.1 h
    cases heq
    exact ⟨rfl, rfl⟩
  | _ => cases h

theorem progress_advance {id : Strng} {before : Phase}
    (h : directory.advance id before = some (directory', phase))
    (hp : Progress directory id before) : Progress directory' id phase := by
  cases before with
  | creating =>
    cases h
    trivial
  | writing =>
    cases h
    exact rfl
  | syncing =>
    cases h
    show directory.temporary.map _ = _
    rw [show directory.temporary = some ⟨some id, false⟩ from hp]
    rfl
  | replacing =>
    obtain ⟨doc, hdoc, heq⟩ := Option.map_eq_some_iff.1 h
    cases heq
    cases hdoc.symm.trans hp
    exact AtomicFile.visible_rename _ _
  | syncingDirectory =>
    cases h
    exact fun _ ↦ AtomicFile.Keeps.sync hp
  | _ => cases h

theorem synced_advance {id : Strng} {before : Phase}
    (h : directory.advance id before = some (directory', phase)) (hp : Progress directory id before)
    (hsynced : directory.file.Synced) : directory'.file.Synced := by
  cases before with
  | creating | writing | syncing =>
    cases h
    exact hsynced
  | replacing =>
    obtain ⟨doc, hdoc, heq⟩ := Option.map_eq_some_iff.1 h
    cases heq
    cases hdoc.symm.trans hp
    exact hsynced.rename rfl
  | syncingDirectory =>
    cases h
    exact hsynced.sync
  | _ => cases h

/-- A move of a call: only the one that has the lock has changed the directory. -/
theorem called (h : Orderly directory manager) (hcall : manager.calls[k]? = some call)
    {event : CallEvent}
    (hcalled : Called directory manager k call event directory' manager' phase) :
    Orderly directory'
      { manager' with calls := manager'.calls.set k ⟨call.id, phase⟩ } := by
  have hheld (c : Prepare) (hc : c.phase.locked = true) : c.holds = some () := if_pos hc
  have hfree (c : Prepare) (hc : c.phase.locked = false) : c.holds = none := by
    rw [Prepare.holds, hc]
    rfl
  cases hcalled with
  | waits _ _ hbefore hafter =>
    have hholds : Prepare.holds ⟨call.id, phase⟩ = call.holds :=
      (hfree _ hafter).trans (hfree _ hbefore).symm
    refine ⟨h.locks.step hcall (.keep hholds (.inl hholds)), ?_⟩
    refine List.forall_getElem?_set (fun j c hc _ ↦ h.writer j c hc) fun hlocked ↦ ?_
    rw [show phase.locked = true from hlocked] at hafter
    cases hafter
  | joined hbefore =>
    have hholds : Prepare.holds ⟨call.id, .done none⟩ = call.holds := (hfree _ hbefore).symm
    refine ⟨h.locks.step hcall (.keep hholds (.inl hholds)), ?_⟩
    exact List.forall_getElem?_set (fun j c hc _ ↦ h.writer j c hc) fun hlocked ↦ nomatch hlocked
  | entered hbefore hlock hid hvalid =>
    have hline : manager.registrationLock.line () = [] := congrArg (·.getD []) hlock
    refine ⟨h.locks.step hcall (.join () (hline ▸ List.not_mem_nil) (fun _ _ ↦ rfl) rfl
      fun _ _ ↦ ⟨rfl, hline⟩), ?_⟩
    exact List.forall_getElem?_set (fun j c hc _ ↦ h.writer j c hc) fun _ ↦ ⟨hid, hvalid, trivial⟩
  | advanced _ _ hadvance =>
    obtain ⟨hbefore, hafter⟩ := locked_of_advance hadvance
    obtain ⟨hid, hvalid, hprogress⟩ := h.writer k call hcall hbefore
    have hholds : Prepare.holds ⟨call.id, phase⟩ = call.holds :=
      (hheld _ hafter).trans (hheld _ hbefore).symm
    refine ⟨h.locks.step hcall (.keep hholds (.inl hholds)), ?_⟩
    refine List.forall_getElem?_set (fun j c hc hj hlocked ↦ ?_) fun _ ↦ ?_
    · exact absurd (h.eq_of_locked hcall hc hbefore hlocked) hj
    · exact ⟨hid, hvalid, progress_advance hadvance hprogress⟩
  | failed err hbefore =>
    refine ⟨h.locks.step hcall (.leave () (hheld _ hbefore) rfl rfl), ?_⟩
    exact List.forall_getElem?_set (fun j c hc _ ↦ h.writer j c hc) fun hlocked ↦ nomatch hlocked
  | published hphase =>
    have hbefore : call.phase.locked = true := hphase ▸ rfl
    refine ⟨h.locks.step hcall (.leave () (hheld _ hbefore) rfl rfl), ?_⟩
    refine List.forall_getElem?_set (fun j c hc hj hlocked ↦ ?_) fun hlocked ↦ nomatch hlocked
    exact absurd (h.eq_of_locked hcall hc hbefore hlocked) hj

end Orderly

/-- The calls are in order, and no document that may be read is unsynced. -/
structure Sound (sys : System) : Prop where
  synced : sys.directory.file.Synced
  orderly : ∀ manager, sys.process = some manager → Orderly sys.directory manager

namespace Sound

variable {sys sys' : System} {event : Event}

theorem init : Sound new where
  synced doc h := by
    rcases h with h | h <;> cases h
  orderly manager h := nomatch h

theorem step (h : Sound sys) (hstep : step sys event = some sys') : Sound sys' := by
  obtain ⟨id, manager, rfl, hprocess, rfl⟩ |
    ⟨k, e, manager, call, directory', manager', phase, rfl, hprocess, hcall, hcalled, rfl⟩ |
    ⟨rfl, rfl⟩ | ⟨n, torn, rfl, rfl⟩ | ⟨id, rfl, hprocess, hload, rfl⟩ := step_cases hstep
  · refine ⟨h.synced, ?_⟩
    rintro _ ⟨⟩
    exact (h.orderly manager hprocess).prepare id
  · have horderly := h.orderly manager hprocess
    refine ⟨?_, ?_⟩
    · cases hcalled with
      | advanced _ _ hadvance =>
        have hbefore := (Orderly.locked_of_advance hadvance).1
        have hprogress := (horderly.writer k call hcall hbefore).2.2
        exact Orderly.synced_advance hadvance hprogress h.synced
      | _ => exact h.synced
    · rintro _ ⟨⟩
      exact horderly.called hcall hcalled
  · exact ⟨h.synced, fun _ hnone ↦ nomatch hnone⟩
  · exact ⟨AtomicFile.Synced.powerLoss _ _ _, fun _ hnone ↦ nomatch hnone⟩
  · refine ⟨h.synced, ?_⟩
    rintro _ ⟨⟩
    exact Orderly.started _ id

/-- The published id of a process does not change. -/
theorem id_stable (h : Sound sys) (hstep : Registration.step sys event = some sys')
    {manager manager' : SandboxManager} {x : Strng} (hprocess : sys.process = some manager)
    (hprocess' : sys'.process = some manager') (hx : manager.id = some x) :
    manager'.id = some x := by
  obtain ⟨id, _, rfl, hold, rfl⟩ | ⟨k, _, _, call, _, _, _, rfl, hold, hcall, hcalled, rfl⟩ |
    ⟨rfl, rfl⟩ | ⟨n, torn, rfl, rfl⟩ | ⟨id, rfl, hold, -, rfl⟩ := step_cases hstep
  · cases hprocess'
    cases hold.symm.trans hprocess
    exact hx
  · cases hprocess'
    cases hold.symm.trans hprocess
    cases hcalled with
    | published hphase =>
      have hnone := ((h.orderly _ hprocess).writer k call hcall (hphase ▸ rfl)).1
      rw [hnone] at hx
      cases hx
    | _ => exact hx
  · cases hprocess'
  · cases hprocess'
  · rw [hold] at hprocess
    cases hprocess

end Sound

/-! ### One id for good -/

/-- Power is not lost, or no call returns `Ok` for an id that is published already while a rename is
left to be synced. -/
def keepsRegistration (lossy : Bool) (sys : System) : Event → Bool
  | .powerLoss _ _ => lossy
  | .call k .lock => !lossy || sys.directory.file.renames.isEmpty ||
    sys.process.all fun manager ↦ manager.calls[k]?.all fun call ↦ manager.id ≠ some call.id
  | _ => true

/-- What is published is read from the file; and what has been registered is kept there, and every
process has it. -/
structure Kept (lossy : Bool) (sys : System) : Prop where
  sound : Sound sys
  published : ∀ manager x, sys.process = some manager → manager.id = some x →
    sys.directory.file.visible = some ⟨some x, true⟩ ∧ validateId x = .ok ()
  registered : ∀ x ∈ sys.registered, sys.directory.file.Keeps x lossy ∧ validateId x = .ok () ∧
    ∀ manager, sys.process = some manager → manager.id = some x

/-- A process that starts publishes what it reads. -/
theorem withRegistration_eq_ok {directory : Directory} {id : Option Strng}
    (h : directory.withRegistration = .ok id) :
    directory.file.visible = none ∧ id = none ∨
    ∃ x synced, directory.file.visible = some ⟨some x, synced⟩ ∧ validateId x = .ok () ∧
      id = some x := by
  unfold Directory.withRegistration at h
  split at h
  · next hvisible =>
    cases h
    exact .inl ⟨hvisible, rfl⟩
  · cases h
  · next x synced hvisible =>
    cases hvalid : validateId x with
    | error err =>
      rw [hvalid] at h
      cases h
    | ok =>
      rw [hvalid] at h
      cases h
      exact .inr ⟨x, synced, hvisible, hvalid, rfl⟩

theorem withRegistration_of_keeps {directory : Directory} {x : Strng} {lossy : Bool}
    (h : directory.file.Keeps x lossy) (hvalid : validateId x = .ok ()) :
    directory.withRegistration = .ok (some x) := by
  rw [Directory.withRegistration, h.visible]
  simp only [hvalid]
  rfl

namespace Kept

variable {lossy : Bool} {sys sys' : System} {event : Event}

theorem init : Kept lossy new where
  sound := Sound.init
  published _ _ h := nomatch h
  registered _ h := nomatch h

/-- While no id is published, none has been registered. -/
theorem registered_eq_nil (h : Kept lossy sys) {manager : SandboxManager}
    (hprocess : sys.process = some manager) (hid : manager.id = none) : sys.registered = [] := by
  refine List.eq_nil_iff_forall_not_mem.2 fun x hx ↦ ?_
  have hsome := (h.registered x hx).2.2 manager hprocess
  rw [hid] at hsome
  cases hsome

/-- While a process runs, what is registered is what it has published. -/
theorem of_process {manager : SandboxManager} (hsound : Sound sys)
    (hprocess : sys.process = some manager)
    (hid : ∀ x, manager.id = some x →
      sys.directory.file.visible = some ⟨some x, true⟩ ∧ validateId x = .ok ())
    (hregistered : ∀ x ∈ sys.registered, manager.id = some x ∧
      (lossy = true → sys.directory.file.renames = [])) : Kept lossy sys := by
  refine ⟨hsound, fun manager' x hprocess' hx ↦ ?_, fun x hx ↦ ?_⟩
  · cases hprocess.symm.trans hprocess'
    exact hid x hx
  · obtain ⟨hx, hrenames⟩ := hregistered x hx
    obtain ⟨hvisible, hvalid⟩ := hid x hx
    refine ⟨⟨hvisible, hrenames⟩, hvalid, fun manager' hprocess' ↦ ?_⟩
    cases hprocess.symm.trans hprocess'
    exact hx

theorem called (h : Kept lossy sys) {manager manager' : SandboxManager} {k : ℕ} {e : CallEvent}
    {call : Prepare} {directory' : Directory} {phase : Phase}
    (hprocess : sys.process = some manager) (hcall : manager.calls[k]? = some call)
    (hok : keepsRegistration lossy sys (.call k e) = true)
    (hcalled : Called sys.directory manager k call e directory' manager' phase)
    (hsound : Sound ⟨directory', some { manager' with
      calls := manager'.calls.set k ⟨call.id, phase⟩ },
      if phase = .done none then sys.registered ++ [call.id] else sys.registered⟩) :
    Kept lossy ⟨directory', some { manager' with
      calls := manager'.calls.set k ⟨call.id, phase⟩ },
      if phase = .done none then sys.registered ++ [call.id] else sys.registered⟩ := by
  have hid := fun x ↦ h.published manager x hprocess
  have hwriter := (h.sound.orderly manager hprocess).writer k call hcall
  have hregistered : ∀ x ∈ sys.registered, manager.id = some x ∧
      (lossy = true → sys.directory.file.renames = []) := fun x hx ↦
    ⟨(h.registered x hx).2.2 manager hprocess, (h.registered x hx).1.renames⟩
  refine of_process hsound rfl ?_ ?_
  · -- only the publication changes the id, and only a call before it changes the file
    cases hcalled with
    | waits | joined | entered | failed => exact hid
    | advanced _ _ hadvance =>
      intro x hx
      have hnone := (hwriter (Orderly.locked_of_advance hadvance).1).1
      cases hnone.symm.trans hx
    | published hphase =>
      obtain ⟨-, hvalid, hprogress⟩ := hwriter (hphase ▸ rfl)
      rintro _ ⟨⟩
      rw [hphase] at hprogress
      exact ⟨(hprogress lossy).visible, hvalid⟩
  · cases hcalled with
    | waits _ _ _ _ hphase =>
      rw [if_neg hphase]
      exact hregistered
    | entered | failed => exact hregistered
    | advanced _ _ hadvance =>
      obtain ⟨hbefore, hafter⟩ := Orderly.locked_of_advance hadvance
      have hphase : phase ≠ .done none := by
        rintro rfl
        cases hafter
      rw [if_neg hphase, h.registered_eq_nil hprocess (hwriter hbefore).1]
      exact fun _ hx ↦ nomatch hx
    | joined hbefore hid =>
      intro x hx
      obtain hx | hx := List.mem_append.1 hx
      · exact hregistered x hx
      · obtain rfl := List.mem_singleton.1 hx
        refine ⟨hid, ?_⟩
        rintro rfl
        simpa [keepsRegistration, hprocess, hcall, hid] using hok
    | published hphase =>
      obtain ⟨hnone, -, hprogress⟩ := hwriter (hphase ▸ rfl)
      rw [hphase] at hprogress
      intro x hx
      rw [if_pos rfl, h.registered_eq_nil hprocess hnone] at hx
      rw [List.mem_singleton.1 hx]
      exact ⟨rfl, (hprogress lossy).renames⟩

theorem restart (h : Kept lossy sys) {id : Option Strng}
    (hload : sys.directory.withRegistration = .ok id)
    (hsound : Sound { sys with process := some ⟨id, fun _ ↦ some [], []⟩ }) :
    Kept lossy { sys with process := some ⟨id, fun _ ↦ some [], []⟩ } := by
  refine of_process hsound rfl ?_ fun x hx ↦ ?_
  · rintro x rfl
    obtain ⟨-, hnone⟩ | ⟨y, synced, hvisible, hvalid, heq⟩ := withRegistration_eq_ok hload
    · cases hnone
    · cases heq
      cases h.sound.synced.of_visible hvisible
      exact ⟨hvisible, hvalid⟩
  · obtain ⟨hkept, hvalid, -⟩ := h.registered x hx
    rw [withRegistration_of_keeps hkept hvalid] at hload
    cases hload
    exact ⟨rfl, hkept.renames⟩

theorem step (h : Kept lossy sys) (hok : keepsRegistration lossy sys event = true)
    (hstep : Registration.step sys event = some sys') : Kept lossy sys' := by
  have hsound := h.sound.step hstep
  obtain ⟨id, manager, rfl, hprocess, rfl⟩ |
    ⟨k, e, manager, call, directory', manager', phase, rfl, hprocess, hcall, hcalled, rfl⟩ |
    ⟨rfl, rfl⟩ | ⟨n, torn, rfl, rfl⟩ | ⟨id, rfl, -, hload, rfl⟩ := step_cases hstep
  · exact of_process hsound rfl (fun x ↦ h.published manager x hprocess) fun x hx ↦
      ⟨(h.registered x hx).2.2 manager hprocess, (h.registered x hx).1.renames⟩
  · exact h.called hprocess hcall hok hcalled hsound
  · refine ⟨hsound, (fun _ _ hnone ↦ nomatch hnone), fun x hx ↦ ?_⟩
    obtain ⟨hkeeps, hvalid, -⟩ := h.registered x hx
    exact ⟨hkeeps, hvalid, fun _ hnone ↦ nomatch hnone⟩
  · cases (show lossy = true from hok)
    refine ⟨hsound, (fun _ _ hnone ↦ nomatch hnone), fun x hx ↦ ?_⟩
    obtain ⟨hkeeps, hvalid, -⟩ := h.registered x hx
    exact ⟨hkeeps.powerLoss n torn, hvalid, fun _ hnone ↦ nomatch hnone⟩
  · exact h.restart hload hsound

end Kept

/-- **One Sandbox**, if no `prepare` returns `Ok` on the strength of a rename that is left to be
synced, or power is never lost: `prepare` returns `Ok` for one id only, the published id of a
process never changes, and a process that starts after an `Ok` does start, with that id. -/
theorem registration_unique {lossy : Bool} {events : List Event} {sys : System}
    (hrun : run (restrict
      (fun sys event ↦ keepsRegistration lossy sys event = true) step) new events = some sys) :
    (∀ x ∈ sys.registered, ∀ y ∈ sys.registered, x = y) ∧
    (∀ event sys' manager manager' x, step sys event = some sys' → sys.process = some manager →
      sys'.process = some manager' → manager.id = some x → manager'.id = some x) ∧
    (∀ x ∈ sys.registered, sys.process = none →
      ∃ sys' manager, step sys .restart = some sys' ∧ sys'.process = some manager ∧
        manager.id = some x) := by
  have hkept : Kept lossy sys := by
    refine run_induction hrun Kept.init fun _ _ _ _ hs hstep ↦ ?_
    obtain ⟨hok, hstep⟩ := restrict_eq_some.1 hstep
    exact hs.step hok hstep
  refine ⟨fun x hx y hy ↦ (hkept.registered x hx).1.unique (hkept.registered y hy).1,
    fun _ _ _ _ _ hstep hprocess hprocess' hx ↦ hkept.sound.id_stable hstep hprocess hprocess' hx,
    fun x hx hprocess ↦ ?_⟩
  obtain ⟨hkeeps, hvalid, -⟩ := hkept.registered x hx
  refine ⟨{ sys with process := some ⟨some x, fun _ ↦ some [], []⟩ }, _, ?_, rfl, rfl⟩
  rw [step, hprocess, withRegistration_of_keeps hkeeps hvalid]

/-- A call of `prepare` that finds everything ready, up to the lock. -/
def preparation (k : ℕ) (id : Strng) : List Event :=
  [.prepare id, .call k .check, .call k (.ready none), .call k .lock]

/-- The operations of `register` on the file system, up to the rename. -/
def replacement (k : ℕ) : List Event := List.replicate 4 (.call k (.io none))

/-- The rest of `register`. -/
def commitment (k : ℕ) : List Event := [.call k (.io none), .call k .publish]

/-- Two calls pass their first check; one registers its id, and power is lost after it. -/
def racingRun : List Event :=
  .restart :: .prepare "b" :: .call 0 .check :: preparation 1 "a" ++ replacement 1 ++
  commitment 1 ++ [.call 0 (.ready none), .call 0 .lock, .powerLoss 0 true, .restart]

theorem registration_unique_racingRun :
    ∃ sys, run (restrict
        (fun sys event ↦ keepsRegistration true sys event = true) step) new racingRun = some sys ∧
      sys.registered = ["a"] ∧ ∀ x ∈ sys.registered, ∀ y ∈ sys.registered, x = y := by
  exact exists_run (fun sys ↦ sys.registered = ["a"]) (by decide)
    fun _ hsys hregistered ↦ ⟨hregistered, (registration_unique hsys).1⟩

/-- A process ends after the rename, the next one trusts it, and then power is lost. -/
def lostRun : List Event :=
  .restart :: preparation 0 "a" ++ replacement 0 ++ .crash :: .restart :: preparation 0 "a" ++
  .powerLoss 0 false :: .restart :: preparation 0 "b" ++ replacement 0 ++ commitment 0

/-- `prepare` returns `Ok` for two ids. -/
theorem registration_lost :
    ∃ sys, run step new lostRun = some sys ∧ sys.registered = ["a", "b"] := by
  exact exists_run (fun sys ↦ sys.registered = ["a", "b"]) (by decide) fun _ _ h ↦ h

end Ztunnel.Sandbox.Registration
