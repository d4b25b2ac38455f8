import Ztunnel.Firewall.Controller

/-!
# The workloads of the in-pod manager

`WorkloadProxyManagerState` of `statemanager.rs`: the proxies that run in the pods of a node, the
workloads whose proxy could not be started and is to be retried, and what a new connection has named
so far in its snapshot. Whether a proxy starts is up to `ProxyFactory`, so the result of
`new_proxies_from_factory` is an argument, as is the order in which a hash map gives its entries.

A message is about one workload, except the end of the snapshot, which is about each in the same
way. So the state is looked at through a `View` for each UID, with the same operations: the lemmas
`view_…` say that an operation on the state is that operation on the view of its UID and leaves the
views of other UIDs alone. What holds of a workload is then proved of its view.
-/

namespace Ztunnel.Inpod

open Ztunnel.State Ztunnel.Firewall

/-! ### Messages and errors -/

/-- `WorkloadMessage`. The descriptor of the network namespace is given as what `InpodNetns::new`
makes of it. -/
inductive WorkloadMessage where
  | addWorkload (uid : Strng) (info : Option WorkloadInfo) (netns : Except Strng ℕ)
  | keepWorkload (uid : Strng)
  | delWorkload (uid : Strng)
  | workloadSnapshotSent

/-- `inpod::Error`. -/
inductive Error where
  | proxyError (uid : Strng) (e : Strng)
  | receiveMessageError (e : Strng)
  | sendAckError (e : Strng)
  | sendNackError (e : Strng)
  | protocolError (e : Strng)
  | announceError (e : Strng)

/-- What is decided outside of the manager while a message is processed. -/
structure Env where
  /-- The result of `new_proxies_from_factory`. -/
  start : Except Strng Unit
  /-- The running workloads that are not named, in the order in which `extract_if` meets them. -/
  order : List Strng

/-! ### The state -/

/-- `WorkloadProxyManagerState`. -/
structure WorkloadProxyManagerState where
  /-- The running proxies, with their `netns_id`. -/
  workloadStates : AList fun _ : Strng ↦ ℕ
  pendingWorkloads : AList fun _ : Strng ↦ WorkloadInfo × ℕ
  snapshotReceived : Bool
  snapshotNames : Finset Strng
  /-- What was sent to the firewall, if there is a channel. -/
  fwTx : Option (List FirewallEvent)

namespace WorkloadProxyManagerState

/-- `WorkloadProxyManagerState::new`, with a channel to the firewall or without. -/
def new (firewall : Bool) : WorkloadProxyManagerState :=
  ⟨∅, ∅, false, ∅, if firewall then some [] else none⟩

/-- `reset_snapshot`, called for a new connection. -/
def resetSnapshot (s : WorkloadProxyManagerState) : WorkloadProxyManagerState :=
  { s with snapshotNames := ∅, pendingWorkloads := ∅, snapshotReceived := false }

/-- `send_fw_event`. -/
def sendFwEvent (s : WorkloadProxyManagerState) (event : FirewallEvent) :
    WorkloadProxyManagerState :=
  { s with fwTx := s.fwTx.map (· ++ [event]) }

/-- `del_workload`. -/
def delWorkload (s : WorkloadProxyManagerState) (uid : Strng) : WorkloadProxyManagerState :=
  match s.workloadStates.lookup uid with
  | none => { s with pendingWorkloads := s.pendingWorkloads.erase uid }
  | some _ =>
    { s with
      pendingWorkloads := s.pendingWorkloads.erase uid
      workloadStates := s.workloadStates.erase uid }.sendFwEvent (.removePod uid)

/-- The part of `add_workload_inner` that starts a proxy. -/
def startProxy (s : WorkloadProxyManagerState) (uid : Strng) (info : WorkloadInfo) (netns : ℕ)
    (start : Except Strng Unit) : WorkloadProxyManagerState × Except Strng Unit :=
  match start with
  | .error e => (s, .error e)
  | .ok () =>
    ({ s with workloadStates := s.workloadStates.insert uid netns }.sendFwEvent
      (.addPod uid info netns), .ok ())

/-- `add_workload_inner`. A running proxy in another namespace is replaced. -/
def addWorkloadInner (s : WorkloadProxyManagerState) (uid : Strng) (info : WorkloadInfo)
    (netns : ℕ) (start : Except Strng Unit) : WorkloadProxyManagerState × Except Strng Unit :=
  match s.workloadStates.lookup uid with
  | some existing =>
    if existing ≠ netns then (s.delWorkload uid).startProxy uid info netns start else (s, .ok ())
  | none => s.startProxy uid info netns start

/-- `add_workload`. The firewall hears of the pod even if its proxy does not start. -/
def addWorkload (s : WorkloadProxyManagerState) (uid : Strng) (info : WorkloadInfo) (netns : ℕ)
    (start : Except Strng Unit) : WorkloadProxyManagerState × Except Strng Unit :=
  match s.addWorkloadInner uid info netns start with
  | (s, .ok ()) => ({ s with pendingWorkloads := s.pendingWorkloads.erase uid }, .ok ())
  | (s, .error e) =>
    let s := s.sendFwEvent (.addPod uid info netns)
    ({ s with pendingWorkloads := s.pendingWorkloads.insert uid (info, netns) }, .error e)

/-- The running workloads that the snapshot does not name. -/
def unnamed (s : WorkloadProxyManagerState) : List Strng :=
  s.workloadStates.keys.filter (· ∉ s.snapshotNames)

/-- What `reconcile` does to a workload that it takes out. -/
def takeOut (s : WorkloadProxyManagerState) (uid : Strng) : WorkloadProxyManagerState :=
  { s with workloadStates := s.workloadStates.erase uid }.sendFwEvent (.removePod uid)

/-- `reconcile`: the workloads in `order` are taken out. -/
def reconcile (s : WorkloadProxyManagerState) (order : List Strng) : WorkloadProxyManagerState :=
  { order.foldl takeOut s with snapshotNames := ∅ }

/-- A workload that is added before the end of the snapshot is one of its names. -/
def noteName (s : WorkloadProxyManagerState) (uid : Strng) : WorkloadProxyManagerState :=
  if s.snapshotReceived then s else { s with snapshotNames := insert uid s.snapshotNames }

/-- `process_msg`. -/
def processMsg (s : WorkloadProxyManagerState) (msg : WorkloadMessage) (env : Env) :
    WorkloadProxyManagerState × Except Error Unit :=
  match msg with
  | .addWorkload _ none _ =>
    (s, .error (.protocolError "workload_info is required but not present"))
  | .addWorkload uid (some info) netns =>
    match netns with
    | .error e => (s.noteName uid, .error (.proxyError uid e))
    | .ok netns =>
      let (s, result) := (s.noteName uid).addWorkload uid info netns env.start
      (s, result.mapError (.proxyError uid))
  | .keepWorkload uid =>
    if s.snapshotReceived then (s, .error (.protocolError "pod keep received after snapshot"))
    else ({ s with snapshotNames := insert uid s.snapshotNames }, .ok ())
  | .delWorkload uid =>
    if s.snapshotReceived then (s.delWorkload uid, .ok ())
    else
      -- a running proxy is left to `reconcile`, which does not look at pending workloads
      ({ s with
        snapshotNames := s.snapshotNames.erase uid
        pendingWorkloads := s.pendingWorkloads.erase uid }, .ok ())
  | .workloadSnapshotSent =>
    if s.snapshotReceived then (s, .error (.protocolError "pod snapshot received already"))
    else ({ s.reconcile env.order with snapshotReceived := true }, .ok ())

/-- The message leads to a proxy that is started and fails. -/
def startFails (s : WorkloadProxyManagerState) : WorkloadMessage → Env → Bool
  | .addWorkload uid (some _) (.ok netns), ⟨.error _, _⟩ =>
    s.workloadStates.lookup uid ≠ some netns
  | _, _ => false

/-- `have_pending`. -/
def havePending (s : WorkloadProxyManagerState) : Bool := !s.pendingWorkloads.keys.isEmpty

/-- `ready`. -/
def ready (s : WorkloadProxyManagerState) : Bool := s.snapshotReceived && !s.havePending

/-- The body of the loop of `retry_pending`, for one entry of the pending workloads. -/
def retryWorkload (pending : AList fun _ : Strng ↦ WorkloadInfo × ℕ)
    (s : WorkloadProxyManagerState) (uid : Strng) (start : Except Strng Unit) :
    WorkloadProxyManagerState :=
  match pending.lookup uid with
  | none => s
  | some (info, netns) => (s.addWorkload uid info netns start).1

/-- `retry_pending`: the workloads in `order` are added again, with the result for each. -/
def retryPending (s : WorkloadProxyManagerState) (order : List Strng)
    (start : Strng → Except Strng Unit) : WorkloadProxyManagerState :=
  order.foldl (fun t uid ↦ retryWorkload s.pendingWorkloads t uid (start uid))
    { s with pendingWorkloads := ∅ }

end WorkloadProxyManagerState

/-! ### One workload -/

/-- What the state says about one workload. -/
structure View where
  running : Option ℕ
  pending : Option (WorkloadInfo × ℕ)
  named : Bool
  snapshotReceived : Bool
  /-- The last event the firewall was sent about the workload, if there is a channel. -/
  lastEvent : Option (Option FirewallEvent)

/-- The workload an event is about. -/
def podUid : FirewallEvent → Strng
  | .addPod uid _ _ => uid
  | .removePod uid => uid

/-- The last event about a workload. -/
def lastAbout (events : List FirewallEvent) (uid : Strng) : Option FirewallEvent :=
  (events.filter (podUid · = uid)).getLast?

theorem lastAbout_append_self (events : List FirewallEvent) (event : FirewallEvent) :
    lastAbout (events ++ [event]) (podUid event) = some event := by
  simp [lastAbout]

theorem lastAbout_append_of_ne (events : List FirewallEvent) {event : FirewallEvent} {uid : Strng}
    (h : podUid event ≠ uid) : lastAbout (events ++ [event]) uid = lastAbout events uid := by
  simp [lastAbout, h]

namespace View

def send (v : View) (event : FirewallEvent) : View :=
  { v with lastEvent := v.lastEvent.map fun _ ↦ some event }

def reset (v : View) : View :=
  { v with pending := none, named := false, snapshotReceived := false }

def del (v : View) (uid : Strng) : View :=
  match v.running with
  | none => { v with pending := none }
  | some _ => { v with pending := none, running := none }.send (.removePod uid)

def add (v : View) (uid : Strng) (info : WorkloadInfo) (netns : ℕ) (start : Except Strng Unit) :
    View :=
  if v.running = some netns then { v with pending := none }
  else
    match start with
    | .ok () =>
      { v with running := some netns, pending := none }.send (.addPod uid info netns)
    | .error _ =>
      { v with running := none, pending := some (info, netns) }.send (.addPod uid info netns)

def takeOut (v : View) (uid : Strng) : View := { v with running := none }.send (.removePod uid)

def reconcile (v : View) (uid : Strng) : View :=
  { (if v.running.isSome ∧ v.named = false then v.takeOut uid else v) with named := false }

theorem running_del (v : View) (uid : Strng) : (v.del uid).running = none := by
  unfold del
  split
  · assumption
  · rfl

theorem snapshotReceived_del (v : View) (uid : Strng) :
    (v.del uid).snapshotReceived = v.snapshotReceived := by
  unfold del
  split <;> rfl

/-- What a deletion says to the firewall is overruled by the next event. -/
theorem send_del (v : View) (uid : Strng) (running : Option ℕ)
    (pending : Option (WorkloadInfo × ℕ)) (event : FirewallEvent) :
    { v.del uid with running := running, pending := pending }.send event =
      { v with running := running, pending := pending }.send event := by
  unfold del
  split <;> simp [send, Function.comp_def]

def noteName (v : View) : View := if v.snapshotReceived then v else { v with named := true }

/-- A message, seen by the workload `uid`. -/
def receive (v : View) (uid : Strng) (start : Except Strng Unit) : WorkloadMessage → View
  | .addWorkload _ none _ => v
  | .addWorkload u (some info) netns =>
    if u = uid then
      match netns with
      | .error _ => v.noteName
      | .ok netns => v.noteName.add uid info netns start
    else v
  | .keepWorkload u => if u = uid then v.noteName else v
  | .delWorkload u =>
    if u = uid then
      if v.snapshotReceived then v.del uid else { v with named := false, pending := none }
    else v
  | .workloadSnapshotSent =>
    if v.snapshotReceived then v else { v.reconcile uid with snapshotReceived := true }

theorem pending_noteName (v : View) : v.noteName.pending = v.pending := by
  unfold noteName
  split <;> rfl

theorem running_noteName (v : View) : v.noteName.running = v.running := by
  unfold noteName
  split <;> rfl

theorem pending_del (v : View) (uid : Strng) : (v.del uid).pending = none := by
  unfold del
  split <;> rfl

theorem pending_reconcile (v : View) (uid : Strng) : (v.reconcile uid).pending = v.pending := by
  unfold reconcile
  split <;> rfl

/-- A workload becomes pending only when its proxy is started and fails. -/
theorem pending_of_receive {v : View} {uid : Strng} {start : Except Strng Unit}
    {msg : WorkloadMessage} (h : (v.receive uid start msg).pending.isSome) :
    v.pending.isSome ∨ ∃ info netns e, msg = .addWorkload uid (some info) (.ok netns) ∧
      start = .error e ∧ v.running ≠ some netns := by
  cases msg with
  | addWorkload u info netns =>
    cases info with
    | none => exact .inl h
    | some info =>
      cases netns with
      | error text =>
        dsimp only [receive] at h
        split at h
        · exact .inl (pending_noteName v ▸ h)
        · exact .inl h
      | ok netns =>
        dsimp only [receive] at h
        split at h
        · next hu =>
          dsimp only [add] at h
          rw [running_noteName] at h
          split at h
          · cases h
          · next hne =>
            cases start with
            | ok => cases h
            | error e => exact .inr ⟨info, netns, e, hu ▸ rfl, rfl, hne⟩
        · exact .inl h
  | keepWorkload u =>
    dsimp only [receive] at h
    split at h
    · exact .inl (pending_noteName v ▸ h)
    · exact .inl h
  | delWorkload u =>
    dsimp only [receive] at h
    split at h
    · split at h
      · rw [pending_del] at h
        cases h
      · cases h
    · exact .inl h
  | workloadSnapshotSent =>
    dsimp only [receive] at h
    split at h
    · exact .inl h
    · exact .inl (pending_reconcile v uid ▸ h)

def retry (v : View) (uid : Strng) (start : Except Strng Unit) : View :=
  match v.pending with
  | none => v
  | some (info, netns) => { v with pending := none }.add uid info netns start

end View

namespace WorkloadProxyManagerState

variable (s : WorkloadProxyManagerState) {uid u : Strng} {env : Env} {msg : WorkloadMessage}

/-- What the state says about a workload. -/
def view (uid : Strng) : View where
  running := s.workloadStates.lookup uid
  pending := s.pendingWorkloads.lookup uid
  named := decide (uid ∈ s.snapshotNames)
  snapshotReceived := s.snapshotReceived
  lastEvent := s.fwTx.map (lastAbout · uid)

theorem view_sendFwEvent_self (uid : Strng) (event : FirewallEvent) (h : podUid event = uid) :
    (s.sendFwEvent event).view uid = (s.view uid).send event := by
  subst h
  refine congrArg (View.mk _ _ _ _) ?_
  simp [sendFwEvent, view, lastAbout_append_self, Function.comp_def]

theorem view_sendFwEvent_of_ne (event : FirewallEvent) (h : podUid event ≠ uid) :
    (s.sendFwEvent event).view uid = s.view uid := by
  refine congrArg (View.mk _ _ _ _) ?_
  simp [sendFwEvent, lastAbout_append_of_ne _ h, Function.comp_def]

theorem view_delWorkload_self (uid : Strng) :
    (s.delWorkload uid).view uid = (s.view uid).del uid := by
  unfold delWorkload View.del
  cases hrunning : s.workloadStates.lookup uid with
  | none =>
    show { s.view uid with pending := (s.pendingWorkloads.erase uid).lookup uid } = _
    rw [AList.lookup_erase]
    simp only [view, hrunning]
  | some netns =>
    refine (view_sendFwEvent_self _ uid _ rfl).trans ?_
    show View.send { s.view uid with
      running := (s.workloadStates.erase uid).lookup uid
      pending := (s.pendingWorkloads.erase uid).lookup uid } _ = _
    rw [AList.lookup_erase, AList.lookup_erase]
    simp only [view, hrunning]

theorem view_delWorkload_of_ne (h : uid ≠ u) : (s.delWorkload u).view uid = s.view uid := by
  unfold delWorkload
  split
  · simp only [view, AList.lookup_erase_ne h]
  · rw [view_sendFwEvent_of_ne _ _ (Ne.symm h)]
    simp only [view, AList.lookup_erase_ne h]

theorem view_startProxy_ok (info : WorkloadInfo) (netns : ℕ) :
    (s.startProxy uid info netns (.ok ())).1.view uid =
      { s.view uid with running := some netns }.send (.addPod uid info netns) := by
  refine (view_sendFwEvent_self _ uid _ rfl).trans ?_
  show View.send { s.view uid with running := (s.workloadStates.insert uid netns).lookup uid } _ = _
  rw [AList.lookup_insert]

theorem view_startProxy_of_ne (h : uid ≠ u) (info : WorkloadInfo) (netns : ℕ)
    (start : Except Strng Unit) : (s.startProxy u info netns start).1.view uid = s.view uid := by
  unfold startProxy
  split
  · rfl
  · rw [view_sendFwEvent_of_ne _ _ (Ne.symm h)]
    simp only [view, AList.lookup_insert_ne h]

theorem view_erasePending (uid : Strng) :
    { s with pendingWorkloads := s.pendingWorkloads.erase uid }.view uid =
      { s.view uid with pending := none } :=
  congrArg (fun p ↦ { s.view uid with pending := p }) (AList.lookup_erase uid s.pendingWorkloads)

theorem view_insertPending (uid : Strng) (entry : WorkloadInfo × ℕ) :
    { s with pendingWorkloads := s.pendingWorkloads.insert uid entry }.view uid =
      { s.view uid with pending := some entry } :=
  congrArg (fun p ↦ { s.view uid with pending := p }) (AList.lookup_insert s.pendingWorkloads)

/-- A workload that does not run in the namespace it is added with is started, without its old
proxy if it has one. -/
theorem addWorkloadInner_of_ne {netns : ℕ} (h : s.workloadStates.lookup uid ≠ some netns)
    (info : WorkloadInfo) (start : Except Strng Unit) :
    ∃ t : WorkloadProxyManagerState,
      s.addWorkloadInner uid info netns start = t.startProxy uid info netns start ∧
      (t.view uid).running = none ∧ ∀ running pending event,
        { t.view uid with running := running, pending := pending }.send event =
          { s.view uid with running := running, pending := pending }.send event := by
  unfold addWorkloadInner
  cases hrunning : s.workloadStates.lookup uid with
  | none => exact ⟨s, rfl, hrunning, fun _ _ _ ↦ rfl⟩
  | some existing =>
    have hne : existing ≠ netns := fun heq ↦ h (hrunning.trans (congrArg some heq))
    refine ⟨s.delWorkload uid, if_pos hne, ?_, ?_⟩
    · rw [view_delWorkload_self]
      exact View.running_del _ uid
    · rw [view_delWorkload_self]
      exact View.send_del _ uid

theorem view_addWorkload_self (uid : Strng) (info : WorkloadInfo) (netns : ℕ)
    (start : Except Strng Unit) :
    (s.addWorkload uid info netns start).1.view uid = (s.view uid).add uid info netns start := by
  unfold addWorkload View.add
  by_cases hsame : (s.view uid).running = some netns
  · rw [if_pos hsame]
    have hinner : s.addWorkloadInner uid info netns start = (s, .ok ()) := by
      simp only [view] at hsame
      simp [addWorkloadInner, hsame]
    rw [hinner]
    exact view_erasePending s uid
  · rw [if_neg hsame]
    obtain ⟨t, hinner, hrunning, hsend⟩ := addWorkloadInner_of_ne s hsame info start
    rw [hinner]
    cases start with
    | ok =>
      calc
        _ = { (t.startProxy uid info netns (.ok ())).1.view uid with pending := none } :=
          view_erasePending _ uid
        _ = { t.view uid with running := some netns, pending := none }.send
            (.addPod uid info netns) := by
          rw [view_startProxy_ok]
          rfl
        _ = _ := hsend (some netns) none _
    | error e =>
      calc
        _ = { (t.sendFwEvent (.addPod uid info netns)).view uid with
              pending := some (info, netns) } := view_insertPending _ uid _
        _ = { t.view uid with running := none, pending := some (info, netns) }.send
            (.addPod uid info netns) := by
          rw [view_sendFwEvent_self t uid (.addPod uid info netns) rfl, ← hrunning]
          rfl
        _ = _ := hsend none (some (info, netns)) _

theorem view_addWorkload_of_ne (h : uid ≠ u) (info : WorkloadInfo) (netns : ℕ)
    (start : Except Strng Unit) : (s.addWorkload u info netns start).1.view uid = s.view uid := by
  have hinner : (s.addWorkloadInner u info netns start).1.view uid = s.view uid := by
    unfold addWorkloadInner
    split
    · split
      · rw [view_startProxy_of_ne _ h, view_delWorkload_of_ne _ h]
      · rfl
    · rw [view_startProxy_of_ne _ h]
  unfold addWorkload
  split
  · next t heq =>
    rw [heq] at hinner
    simpa only [view, AList.lookup_erase_ne h] using hinner
  · next t e heq =>
    rw [heq] at hinner
    rw [← hinner, ← view_sendFwEvent_of_ne t (.addPod u info netns) (Ne.symm h)]
    simp only [view, AList.lookup_insert_ne h]

theorem view_takeOut_self (uid : Strng) :
    (s.takeOut uid).view uid = (s.view uid).takeOut uid := by
  refine (view_sendFwEvent_self _ uid _ rfl).trans ?_
  show View.send { s.view uid with running := (s.workloadStates.erase uid).lookup uid } _ = _
  rw [AList.lookup_erase]
  rfl

theorem view_takeOut_of_ne (u uid : Strng) (h : uid ≠ u) :
    (s.takeOut u).view uid = s.view uid := by
  refine (view_sendFwEvent_of_ne _ _ (Ne.symm h)).trans ?_
  simp only [view, AList.lookup_erase_ne h]

theorem mem_unnamed :
    uid ∈ s.unnamed ↔ (s.view uid).running.isSome ∧ (s.view uid).named = false := by
  simp [unnamed, view, ← AList.mem_keys, AList.lookup_isSome]

/-- The loop of `reconcile` deals with each workload on its own. -/
theorem view_reconcile {order : List Strng} (horder : order.Perm s.unnamed) (uid : Strng) :
    (s.reconcile order).view uid = (s.view uid).reconcile uid := by
  have hnodup : order.Nodup := horder.nodup_iff.2 (s.workloadStates.keys_nodup.filter _)
  have hfold := Index.foldl_view (g := fun u v ↦ v.takeOut u) view_takeOut_self
    view_takeOut_of_ne hnodup s uid
  show { (order.foldl takeOut s).view uid with named := false } = _
  rw [hfold]
  simp only [horder.mem_iff, mem_unnamed, View.reconcile]

theorem view_retryWorkload_self (pending : AList fun _ : Strng ↦ WorkloadInfo × ℕ) (uid : Strng)
    (start : Except Strng Unit) :
    (retryWorkload pending s uid start).view uid =
      (pending.lookup uid).elim (s.view uid) fun entry ↦
        (s.view uid).add uid entry.1 entry.2 start := by
  unfold retryWorkload
  cases pending.lookup uid with
  | none => rfl
  | some entry => exact view_addWorkload_self s uid entry.1 entry.2 start

theorem view_retryWorkload_of_ne (pending : AList fun _ : Strng ↦ WorkloadInfo × ℕ)
    (start : Except Strng Unit) (u uid : Strng) (h : uid ≠ u) :
    (retryWorkload pending s u start).view uid = s.view uid := by
  unfold retryWorkload
  split
  · rfl
  · exact view_addWorkload_of_ne s h _ _ start

/-- The loop of `retry_pending` deals with each workload on its own. -/
theorem view_retryPending {order : List Strng} (horder : order.Perm s.pendingWorkloads.keys)
    (start : Strng → Except Strng Unit) (uid : Strng) :
    (s.retryPending order start).view uid = (s.view uid).retry uid (start uid) := by
  have hnodup : order.Nodup := horder.nodup_iff.2 s.pendingWorkloads.keys_nodup
  have hfold := Index.foldl_view (g := fun u v ↦ (s.pendingWorkloads.lookup u).elim v fun entry ↦
      v.add u entry.1 entry.2 (start u))
    (fun t u ↦ view_retryWorkload_self t s.pendingWorkloads u (start u))
    (fun t u ↦ view_retryWorkload_of_ne t s.pendingWorkloads (start u) u) hnodup
    { s with pendingWorkloads := ∅ } uid
  refine hfold.trans ?_
  cases hpending : s.pendingWorkloads.lookup uid with
  | none =>
    -- `take` does not change what is not pending
    have hempty : (∅ : AList fun _ : Strng ↦ WorkloadInfo × ℕ).lookup uid = none := rfl
    simp only [Option.elim_none, ite_self, View.retry, view, hpending, hempty]
  | some entry =>
    have hmem : uid ∈ order :=
      horder.mem_iff.2 (AList.mem_keys.1 (AList.lookup_isSome.1 (hpending ▸ rfl)))
    rw [if_pos hmem, Option.elim_some]
    simp only [View.retry, view, hpending]
    rfl

theorem view_insertName_self (uid : Strng) :
    { s with snapshotNames := insert uid s.snapshotNames }.view uid =
      { s.view uid with named := true } := by
  simp [view]

theorem view_insertName_of_ne (h : uid ≠ u) :
    { s with snapshotNames := insert u s.snapshotNames }.view uid = s.view uid := by
  simp [view, h]

theorem view_noteName_self (uid : Strng) :
    (s.noteName uid).view uid = (s.view uid).noteName := by
  unfold noteName View.noteName
  show _ = if s.snapshotReceived then _ else _
  split
  · rfl
  · exact view_insertName_self s uid

theorem view_noteName_of_ne (h : uid ≠ u) : (s.noteName u).view uid = s.view uid := by
  unfold noteName
  split
  · rfl
  · exact view_insertName_of_ne s h

/-- A deletion before the end of the snapshot. -/
theorem view_dropName_self (uid : Strng) :
    { s with
      snapshotNames := s.snapshotNames.erase uid
      pendingWorkloads := s.pendingWorkloads.erase uid }.view uid =
      { s.view uid with named := false, pending := none } := by
  simp [view]

theorem view_dropName_of_ne (h : uid ≠ u) :
    { s with
      snapshotNames := s.snapshotNames.erase u
      pendingWorkloads := s.pendingWorkloads.erase u }.view uid = s.view uid := by
  simp [view, h, AList.lookup_erase_ne h]

theorem processMsg_keep (uid : Strng) (env : Env) :
    (s.processMsg (.keepWorkload uid) env).1 = s.noteName uid := by
  simp only [processMsg, noteName]
  split <;> rfl

/-- **Locality.** A message does to the view of a workload what `View.receive` says. -/
theorem view_processMsg (msg : WorkloadMessage) (henv : env.order.Perm s.unnamed) (uid : Strng) :
    (s.processMsg msg env).1.view uid = (s.view uid).receive uid env.start msg := by
  have hreceived : (s.view uid).snapshotReceived = s.snapshotReceived := rfl
  cases msg with
  | addWorkload u info netns =>
    cases info with
    | none => rfl
    | some info =>
      by_cases h : u = uid
      · subst h
        simp only [View.receive, if_true, ← view_noteName_self]
        cases netns with
        | error e => rfl
        | ok netns => exact view_addWorkload_self _ u info netns env.start
      · simp only [View.receive, if_neg h]
        rw [← view_noteName_of_ne s (Ne.symm h)]
        cases netns with
        | error e => rfl
        | ok netns => exact view_addWorkload_of_ne _ (Ne.symm h) info netns env.start
  | keepWorkload u =>
    rw [processMsg_keep]
    by_cases h : u = uid
    · subst h
      simp only [View.receive, if_true, view_noteName_self]
    · simp only [View.receive, if_neg h, view_noteName_of_ne s (Ne.symm h)]
  | delWorkload u =>
    simp only [processMsg, View.receive, hreceived]
    by_cases h : u = uid
    · subst h
      rw [if_pos rfl]
      split
      · exact view_delWorkload_self s u
      · exact view_dropName_self s u
    · rw [if_neg h]
      split
      · exact view_delWorkload_of_ne s (Ne.symm h)
      · exact view_dropName_of_ne s (Ne.symm h)
  | workloadSnapshotSent =>
    simp only [processMsg, View.receive, hreceived]
    split
    · rfl
    · rw [← view_reconcile s henv]
      rfl

/-! ### The results of messages -/

theorem havePending_iff : s.havePending = true ↔ ∃ uid, (s.view uid).pending.isSome := by
  have hmem : ∀ uid, (s.view uid).pending.isSome ↔ uid ∈ s.pendingWorkloads.keys := fun uid ↦
    AList.lookup_isSome.trans AList.mem_keys
  simp only [hmem, havePending, Bool.not_eq_true', List.isEmpty_eq_false_iff_exists_mem]

theorem addWorkload_result (uid : Strng) (info : WorkloadInfo) (netns : ℕ)
    (start : Except Strng Unit) :
    (s.addWorkload uid info netns start).2 =
      if s.workloadStates.lookup uid = some netns then .ok () else start := by
  unfold addWorkload
  by_cases hsame : s.workloadStates.lookup uid = some netns
  · have hinner : s.addWorkloadInner uid info netns start = (s, .ok ()) := by
      simp [addWorkloadInner, hsame]
    rw [if_pos hsame, hinner]
  · obtain ⟨t, hinner, -⟩ := addWorkloadInner_of_ne s hsame info start
    rw [if_neg hsame, hinner]
    cases start <;> rfl

theorem workloadStates_noteName (uid : Strng) :
    (s.noteName uid).workloadStates = s.workloadStates := by
  unfold noteName
  split <;> rfl

/-- What a message that is not acknowledged has done. -/
theorem processMsg_error {e : Error} (h : (s.processMsg msg env).2 = .error e) :
    (∃ text, e = .protocolError text ∧ (s.processMsg msg env).1 = s) ∨
    (∃ uid text, e = .proxyError uid text ∧ (s.processMsg msg env).1 = s.noteName uid) ∨
    (∃ uid text, e = .proxyError uid text ∧ s.startFails msg env = true) := by
  cases msg with
  | addWorkload uid info netns =>
    cases info with
    | none => exact .inl ⟨_, (Except.error.inj h).symm, rfl⟩
    | some info =>
      cases netns with
      | error text => exact .inr (.inl ⟨uid, text, (Except.error.inj h).symm, rfl⟩)
      | ok netns =>
        obtain ⟨start, order⟩ := env
        have hresult : (s.processMsg (.addWorkload uid (some info) (.ok netns)) ⟨start, order⟩).2 =
            Except.mapError (.proxyError uid)
              (if s.workloadStates.lookup uid = some netns then .ok () else start) := by
          rw [← workloadStates_noteName s uid, ← addWorkload_result (s.noteName uid) uid info]
          rfl
        rw [h] at hresult
        split at hresult
        · cases hresult
        · next hne =>
          cases start with
          | ok => cases hresult
          | error text =>
            exact .inr (.inr ⟨uid, text, Except.error.inj hresult, decide_eq_true hne⟩)
  | keepWorkload uid | workloadSnapshotSent =>
    simp only [processMsg] at h ⊢
    split at h
    · next hreceived =>
      rw [if_pos hreceived]
      exact .inl ⟨_, (Except.error.inj h).symm, rfl⟩
    · cases h
  | delWorkload uid =>
    simp only [processMsg] at h
    split at h <;> cases h

/-- A message whose proxy does not start is reported as such, and the workload is pending. -/
theorem processMsg_of_startFails (h : s.startFails msg env = true) :
    (∃ uid text, (s.processMsg msg env).2 = .error (.proxyError uid text)) ∧
      (s.processMsg msg env).1.havePending = true := by
  unfold startFails at h
  split at h
  · next uid info netns text order =>
    have hne : (s.noteName uid).workloadStates.lookup uid ≠ some netns := by
      rw [workloadStates_noteName]
      exact of_decide_eq_true h
    have hresult := addWorkload_result (s.noteName uid) uid info netns (.error text)
    rw [if_neg hne] at hresult
    have hview := view_addWorkload_self (s.noteName uid) uid info netns (.error text)
    refine ⟨⟨uid, text, congrArg (Except.mapError (Error.proxyError uid)) hresult⟩, ?_⟩
    refine (havePending_iff _).2 ⟨uid, ?_⟩
    exact congrArg (fun v : View ↦ v.pending.isSome) (hview.trans (if_neg hne))
  · cases h

/-- A workload that is pending after a message was pending before, or its proxy did not start. -/
theorem pending_of_processMsg (henv : env.order.Perm s.unnamed)
    (h : (s.processMsg msg env).1.havePending = true) (hfails : s.startFails msg env = false) :
    s.havePending = true := by
  obtain ⟨uid, hpending⟩ := (havePending_iff _).1 h
  rw [view_processMsg s msg henv] at hpending
  obtain hbefore | ⟨info, netns, e, rfl, hstart, hne⟩ := View.pending_of_receive hpending
  · exact (havePending_iff s).2 ⟨uid, hbefore⟩
  · obtain ⟨start, order⟩ := env
    obtain rfl : start = .error e := hstart
    exact absurd (of_decide_eq_false hfails) (not_not_intro hne)

/-- A retry makes no workload pending that was not. -/
theorem pending_of_retryPending {order : List Strng}
    (horder : order.Perm s.pendingWorkloads.keys) {start : Strng → Except Strng Unit}
    (h : (s.retryPending order start).havePending = true) : s.havePending = true := by
  obtain ⟨uid, hpending⟩ := (havePending_iff _).1 h
  refine (havePending_iff s).2 ⟨uid, ?_⟩
  rw [view_retryPending s horder, View.retry] at hpending
  split at hpending
  · exact hpending
  · next entry heq => rw [heq, Option.isSome_some]

theorem ready_noteName (uid : Strng) : (s.noteName uid).ready = s.ready := by
  unfold noteName
  split <;> rfl

theorem ready_of_havePending (h : s.havePending = true) : s.ready = false := by
  rw [ready, h, Bool.not_true, Bool.and_false]

end WorkloadProxyManagerState

end Ztunnel.Inpod
