import Ztunnel.Inpod.WorkloadManager

/-!
# The in-pod manager and what it was told

The node agent tells the manager which workloads there are. A `Ledger` is what its messages so far
say about one workload: whether it was named on this connection and not deleted since, the network
namespace of its last `Add`, and whether it was ever received with an `Add` and still is. It is a
function of the events alone.

`Tracks` compares the view of a workload with its ledger. It holds along every run, and from it
follow the results about one workload:

* `manager_tracks_ledger`: running and pending workloads are disjoint, after a snapshot they are
  named, they are in the namespace of their last `Add`, and a pending one is retried;
* `received_not_forgotten`: what was received is running or pending, if a workload that is pending
  when a connection is accepted is added again (`keep_after_reset_forgets` is a run where it is only
  kept);
* `firewall_events_paired`: the last event the firewall was sent about a workload is an `AddPod`
  exactly if it is running or pending, if pending workloads are neither deleted nor reset
  (`pending_deletion_unannounced` is a run where one is deleted).
-/

namespace Ztunnel.Inpod

open Ztunnel.State Ztunnel.Firewall Transition

/-! ### The ledger -/

/-- What the messages so far say about one workload. -/
structure Ledger where
  /-- This connection has sent the end of its snapshot. -/
  snapshotSent : Bool
  /-- The workload was added or kept on this connection, and not deleted since. -/
  named : Bool
  /-- The network namespace of the last `Add`. -/
  netns : Option ℕ
  /-- The workload was received with an `Add`, and since then neither deleted nor left out of a
  snapshot. -/
  received : Bool

namespace Ledger

/-- Before the first connection. -/
def empty : Ledger := ⟨false, false, none, false⟩

/-- A message in the ledger of the workload `uid`. A message that the protocol does not allow is not
counted, and neither is the namespace of an `Add` whose `InpodNetns::new` failed. -/
def message (uid : Strng) (l : Ledger) : WorkloadMessage → Ledger
  | .addWorkload _ none _ => l
  | .addWorkload u (some _) (.error _) => if u = uid then { l with named := true } else l
  | .addWorkload u (some _) (.ok netns) =>
    if u = uid then { l with named := true, netns := some netns, received := true } else l
  | .keepWorkload u => if u = uid ∧ l.snapshotSent = false then { l with named := true } else l
  | .delWorkload u => if u = uid then { l with named := false, received := false } else l
  | .workloadSnapshotSent =>
    if l.snapshotSent then l
    else { l with snapshotSent := true, received := l.received && l.named }

/-- An event in the ledger of the workload `uid`. -/
def next (uid : Strng) (l : Ledger) : Event → Ledger
  | .accept => { l with snapshotSent := false, named := false }
  | .message msg _ => l.message uid msg
  | _ => l

end Ledger

/-- The ledger of a workload after the events of a run. -/
def ledger (uid : Strng) (events : List Event) : Ledger := events.foldl (Ledger.next uid) .empty

theorem ledger_append (uid : Strng) (events : List Event) (event : Event) :
    ledger uid (events ++ [event]) = (ledger uid events).next uid event := by
  rw [ledger, List.foldl_append]
  rfl

/-- What a message does to the view of a workload and to its ledger. -/
inductive Received (uid : Strng) (v : View) (l : Ledger) (start : Except Strng Unit) :
    WorkloadMessage → View → Ledger → Prop
  | ignored (msg : WorkloadMessage) : Received uid v l start msg v l
  | noted (msg : WorkloadMessage) : Received uid v l start msg v.noteName { l with named := true }
  | added (info : WorkloadInfo) (netns : ℕ) :
    Received uid v l start (.addWorkload uid (some info) (.ok netns))
      (v.noteName.add uid info netns start)
      { l with named := true, netns := some netns, received := true }
  | deleted (hreceived : v.snapshotReceived = true) :
    Received uid v l start (.delWorkload uid) (v.del uid)
      { l with named := false, received := false }
  /-- A deletion before the end of the snapshot leaves a running proxy to `reconcile`. -/
  | dropped (hreceived : v.snapshotReceived = false) :
    Received uid v l start (.delWorkload uid) { v with named := false, pending := none }
      { l with named := false, received := false }
  | reconciled (hreceived : v.snapshotReceived = false) :
    Received uid v l start .workloadSnapshotSent
      { v.reconcile uid with snapshotReceived := true }
      { l with snapshotSent := true, received := l.received && l.named }

theorem received_of_receive {v : View} {l : Ledger} (uid : Strng)
    (hsnapshot : v.snapshotReceived = l.snapshotSent) (start : Except Strng Unit)
    (msg : WorkloadMessage) :
    Received uid v l start msg (v.receive uid start msg) (l.message uid msg) := by
  cases msg with
  | addWorkload u info netns =>
    cases info with
    | none => exact .ignored _
    | some info =>
      by_cases hu : u = uid
      · subst hu
        cases netns with
        | error e =>
          rw [View.receive, Ledger.message, if_pos rfl, if_pos rfl]
          exact .noted _
        | ok netns =>
          rw [View.receive, Ledger.message, if_pos rfl, if_pos rfl]
          exact .added info netns
      · cases netns with
        | error e | ok netns =>
          rw [View.receive, Ledger.message, if_neg hu, if_neg hu]
          exact .ignored _
  | keepWorkload u =>
    rw [View.receive, Ledger.message]
    by_cases hu : u = uid
    · rw [if_pos hu]
      cases hsent : l.snapshotSent with
      | false =>
        rw [if_pos ⟨hu, rfl⟩, ← hsent]
        exact .noted _
      | true =>
        have hlate : v.noteName = v := if_pos (hsnapshot.trans hsent)
        rw [if_neg (fun hkeep ↦ Bool.noConfusion hkeep.2), hlate]
        exact .ignored _
    · rw [if_neg hu, if_neg (fun hkeep ↦ hu hkeep.1)]
      exact .ignored _
  | delWorkload u =>
    rw [View.receive, Ledger.message]
    by_cases hu : u = uid
    · subst hu
      rw [if_pos rfl, if_pos rfl]
      split
      · next hreceived => exact .deleted hreceived
      · next hreceived => exact .dropped (Bool.eq_false_of_not_eq_true hreceived)
    · rw [if_neg hu, if_neg hu]
      exact .ignored _
  | workloadSnapshotSent =>
    rw [View.receive, Ledger.message, ← hsnapshot]
    split
    · exact .ignored _
    · next hreceived => exact .reconciled (Bool.eq_false_of_not_eq_true hreceived)

/-! ### A workload and its ledger -/

/-- What the manager holds about a workload agrees with its ledger. -/
structure Tracks (v : View) (l : Ledger) : Prop where
  snapshot : v.snapshotReceived = l.snapshotSent
  disjoint : v.running.isSome → v.pending = none
  named : v.snapshotReceived = false → v.named = l.named
  pending_named : v.pending.isSome → l.named = true
  running_named : v.snapshotReceived = true → v.running.isSome → l.named = true
  running_netns : ∀ netns, v.running = some netns → l.netns = some netns
  pending_netns : ∀ info netns, v.pending = some (info, netns) → l.netns = some netns

namespace Tracks

variable {v : View} {l : Ledger} {uid : Strng}

theorem noteName (h : Tracks v l) : Tracks v.noteName { l with named := true } := by
  unfold View.noteName
  split
  · next hreceived =>
    exact { h with
      named := fun hnot ↦ absurd (hreceived.symm.trans hnot) Bool.noConfusion
      pending_named := fun _ ↦ rfl
      running_named := fun _ _ ↦ rfl }
  · exact { h with
      named := fun _ ↦ rfl
      pending_named := fun _ ↦ rfl
      running_named := fun _ _ ↦ rfl }

theorem add (h : Tracks v l) (hnamed : l.named = true) (info : WorkloadInfo) (netns : ℕ)
    (start : Except Strng Unit) :
    Tracks (v.add uid info netns start) { l with netns := some netns } := by
  unfold View.add
  split
  · next hrunning =>
    exact { h with
      disjoint := fun _ ↦ rfl
      pending_named := fun h ↦ nomatch h
      running_netns := fun n hn ↦ hrunning.symm.trans hn
      pending_netns := fun _ _ h ↦ nomatch h }
  · split
    · exact { h with
        disjoint := fun _ ↦ rfl
        pending_named := fun h ↦ nomatch h
        running_named := fun _ _ ↦ hnamed
        running_netns := fun _ hn ↦ hn
        pending_netns := fun _ _ h ↦ nomatch h }
    · exact { h with
        disjoint := fun h ↦ nomatch h
        pending_named := fun _ ↦ hnamed
        running_named := fun _ h ↦ nomatch h
        running_netns := fun _ h ↦ nomatch h
        pending_netns := fun _ _ hn ↦ congrArg (fun e ↦ some e.2) (Option.some.inj hn) }

theorem retry (h : Tracks v l) (start : Except Strng Unit) : Tracks (v.retry uid start) l := by
  unfold View.retry
  split
  · exact h
  · next info netns hpending =>
    have hnamed : l.named = true := h.pending_named (by rw [hpending, Option.isSome_some])
    have hnetns : { l with netns := some netns } = l := by
      rw [← h.pending_netns info netns hpending]
    have htaken : Tracks { v with pending := none } l :=
      { h with
        disjoint := fun _ ↦ rfl
        pending_named := fun h ↦ nomatch h
        pending_netns := fun _ _ h ↦ nomatch h }
    exact hnetns ▸ htaken.add hnamed info netns start

/-- A workload that is neither running nor pending. -/
theorem of_gone (hsnapshot : v.snapshotReceived = l.snapshotSent)
    (hnamed : v.snapshotReceived = false → v.named = l.named) (hrunning : v.running = none)
    (hpending : v.pending = none) : Tracks v l where
  snapshot := hsnapshot
  disjoint _ := hpending
  named := hnamed
  pending_named h := by simp [hpending] at h
  running_named _ h := by simp [hrunning] at h
  running_netns _ h := by simp [hrunning] at h
  pending_netns _ _ h := by simp [hpending] at h

theorem del (h : Tracks v l) (hreceived : v.snapshotReceived = true) :
    Tracks (v.del uid) { l with named := false, received := false } := by
  refine of_gone ((v.snapshotReceived_del uid).trans h.snapshot) ?_ (v.running_del uid)
    (v.pending_del uid)
  intro hnot
  rw [v.snapshotReceived_del, hreceived] at hnot
  cases hnot

/-- A deletion before the end of the snapshot leaves a running proxy to `reconcile`. -/
theorem dropName (h : Tracks v l) (hreceived : v.snapshotReceived = false) :
    Tracks { v with named := false, pending := none }
      { l with named := false, received := false } where
  snapshot := h.snapshot
  disjoint _ := rfl
  named _ := rfl
  pending_named h := nomatch h
  running_named hsent := absurd (hreceived.symm.trans hsent) Bool.noConfusion
  running_netns := h.running_netns
  pending_netns _ _ h := nomatch h

theorem reconcile (h : Tracks v l) (hreceived : v.snapshotReceived = false) (received : Bool) :
    Tracks { v.reconcile uid with snapshotReceived := true }
      { l with snapshotSent := true, received := received } := by
  have hlisted := h.named hreceived
  unfold View.reconcile
  split
  · next hout =>
    have hpending := h.disjoint hout.1
    exact of_gone rfl (fun h ↦ nomatch h) rfl hpending
  · next hkept =>
    refine { h with snapshot := rfl, named := (fun h ↦ nomatch h), running_named := ?_ }
    intro _ hrunning
    rw [← hlisted]
    by_contra hnamed
    exact hkept ⟨hrunning, Bool.eq_false_of_not_eq_true hnamed⟩

theorem reset (h : Tracks v l) :
    Tracks v.reset { l with snapshotSent := false, named := false } where
  snapshot := rfl
  disjoint _ := rfl
  named _ := rfl
  pending_named h := nomatch h
  running_named h := nomatch h
  running_netns := h.running_netns
  pending_netns _ _ h := nomatch h

theorem receive (h : Tracks v l) (start : Except Strng Unit) (msg : WorkloadMessage) :
    Tracks (v.receive uid start msg) (l.message uid msg) := by
  have hmsg := received_of_receive uid h.snapshot start msg
  generalize v.receive uid start msg = v', l.message uid msg = l' at hmsg ⊢
  cases hmsg with
  | ignored => exact h
  | noted => exact h.noteName
  | added info netns =>
    have hadded : Tracks (v.noteName.add uid info netns start)
        { l with named := true, netns := some netns } := h.noteName.add rfl info netns start
    exact { hadded with }
  | deleted hreceived => exact h.del hreceived
  | dropped hreceived => exact h.dropName hreceived
  | reconciled hreceived => exact h.reconcile hreceived _

theorem next (h : Tracks v l) (event : Event) : Tracks (v.next uid event) (l.next uid event) := by
  cases event with
  | accept => exact h.reset
  | timer order start => exact h.retry (start uid)
  | message msg env => exact h.receive env.start msg
  | announced | eof | readError | replied | drain => exact h

end Tracks

/-- **The view of a workload agrees with its ledger** after every run. -/
theorem tracks_of_run {firewall : Bool} {events : List Event} {m : WorkloadProxyManager}
    (hrun : run WorkloadProxyManager.step (.new firewall) events = some m)
    (uid : Strng) : Tracks (m.state.view uid) (ledger uid events) := by
  refine run_induction_past
    (I := fun past m ↦ Tracks (m.state.view uid) (ledger uid past))
    hrun (Tracks.of_gone rfl (fun _ ↦ rfl) rfl rfl) ?_
  intro past event m m' hm hstep
  rw [ledger_append, WorkloadProxyManager.view_step hstep]
  exact hm.next event

/-- **The manager and its ledger.** Running and pending workloads are disjoint; after the end of the
snapshot each of them was named on this connection and not deleted since; it is in the network
namespace of its last `Add`; and while a message is awaited with workloads pending, a timer runs. -/
theorem manager_tracks_ledger {firewall : Bool} {events : List Event} {m : WorkloadProxyManager}
    (hrun : run WorkloadProxyManager.step (.new firewall) events = some m) :
    (∀ uid, ¬(uid ∈ m.state.workloadStates ∧ uid ∈ m.state.pendingWorkloads)) ∧
    (m.state.snapshotReceived = true → ∀ uid,
      uid ∈ m.state.workloadStates ∨ uid ∈ m.state.pendingWorkloads →
        (ledger uid events).named = true) ∧
    (∀ uid netns, m.state.workloadStates.lookup uid = some netns →
      (ledger uid events).netns = some netns) ∧
    (∀ uid info netns, m.state.pendingWorkloads.lookup uid = some (info, netns) →
      (ledger uid events).netns = some netns) ∧
    (∀ timer, m.phase = .reading timer → m.state.havePending = true → timer = true) := by
  have htracks := tracks_of_run hrun
  have hretried : m.Retried :=
    run_induction hrun (fun h ↦ nomatch h) fun _ _ _ _ hm hstep ↦ hm.step hstep
  refine ⟨?_, ?_, fun uid ↦ (htracks uid).running_netns, fun uid ↦ (htracks uid).pending_netns, ?_⟩
  · rintro uid ⟨hrunning, hpending⟩
    have hnone := (htracks uid).disjoint (AList.lookup_isSome.2 hrunning)
    exact AList.lookup_eq_none.1 hnone hpending
  · rintro hreceived uid (hrunning | hpending)
    · exact (htracks uid).running_named hreceived (AList.lookup_isSome.2 hrunning)
    · exact (htracks uid).pending_named (AList.lookup_isSome.2 hpending)
  · intro timer hphase hpending
    have hconnected : m.connected = true := by rw [WorkloadProxyManager.connected, hphase]
    have harmed := hretried hconnected hpending
    rwa [WorkloadProxyManager.armed, hphase] at harmed

/-- A pod gets a new network namespace while the manager is disconnected, and its proxy does not
start there. -/
def movedRun : List Event :=
  [.accept, .announced true,
    .message (.addWorkload "pod" (some ⟨"sleep", "default", "sleep"⟩) (.ok 1)) ⟨.ok (), []⟩,
    .replied true, .message .workloadSnapshotSent ⟨.ok (), []⟩, .replied true, .eof, .accept,
    .announced true,
    .message (.addWorkload "pod" (some ⟨"sleep", "default", "sleep"⟩) (.ok 2))
      ⟨.error "address in use", ["pod"]⟩,
    .replied true]

theorem manager_tracks_ledger_movedRun :
    ∃ m, run WorkloadProxyManager.step (.new true) movedRun = some m ∧
      "pod" ∈ m.state.pendingWorkloads ∧ "pod" ∉ m.state.workloadStates ∧
      (ledger "pod" movedRun).netns = some 2 := by
  refine exists_run (fun m ↦ m.state.pendingWorkloads.lookup "pod" =
    some (⟨"sleep", "default", "sleep"⟩, 2)) (by decide) fun m hm hpending ↦ ?_
  have hmem : "pod" ∈ m.state.pendingWorkloads := AList.lookup_isSome.1 (hpending ▸ rfl)
  obtain ⟨hdisjoint, -, -, hnetns, -⟩ := manager_tracks_ledger hm
  exact ⟨hmem, fun hrunning ↦ hdisjoint "pod" ⟨hrunning, hmem⟩, hnetns _ _ _ hpending⟩

/-! ### Received workloads -/

/-- The event is an `Add` of the workload, which the manager takes. -/
def Event.adds (uid : Strng) : Event → Bool
  | .message (.addWorkload u (some _) (.ok _)) _ => u = uid
  | _ => false

/-- If the workload is pending when a connection is accepted, then it is added again later. -/
def keepsPending (uid : Strng) : WorkloadProxyManager → List Event → Bool
  | _, [] => true
  | m, .accept :: events =>
    (uid ∉ m.state.pendingWorkloads || events.any (Event.adds uid)) &&
      (m.step .accept).all (keepsPending uid · events)
  | m, event :: events => (m.step event).all (keepsPending uid · events)

/-- A workload that was received is running or pending. -/
def Present (v : View) (l : Ledger) : Prop :=
  l.received = true → v.running.isSome ∨ v.pending.isSome

namespace Present

variable {v : View} {l : Ledger} {uid : Strng}

theorem add (info : WorkloadInfo) (netns : ℕ) (start : Except Strng Unit) :
    Present (v.add uid info netns start) l := by
  intro _
  unfold View.add
  split
  · next hrunning => exact .inl (by rw [hrunning, Option.isSome_some])
  · split
    · exact .inl rfl
    · exact .inr rfl

theorem noteName (h : Present v l) : Present v.noteName l := by
  intro hreceived
  rw [v.running_noteName, v.pending_noteName]
  exact h hreceived

theorem retry (h : Present v l) (start : Except Strng Unit) : Present (v.retry uid start) l := by
  unfold View.retry
  split
  · exact h
  · exact add _ _ start

theorem reconcile (h : Present v l) (htracks : Tracks v l)
    (hreceived : v.snapshotReceived = false) :
    Present { v.reconcile uid with snapshotReceived := true }
      { l with snapshotSent := true, received := l.received && l.named } := by
  intro hkept
  obtain ⟨hreceived', hnamed⟩ := Bool.and_eq_true_iff.1 hkept
  have hlisted : v.named = true := (htracks.named hreceived).trans hnamed
  rw [View.reconcile, if_neg (fun hout ↦ by simp [hlisted] at hout)]
  exact h hreceived'

theorem receive (h : Present v l) (htracks : Tracks v l) (start : Except Strng Unit)
    (msg : WorkloadMessage) : Present (v.receive uid start msg) (l.message uid msg) := by
  have hmsg := received_of_receive uid htracks.snapshot start msg
  generalize v.receive uid start msg = v', l.message uid msg = l' at hmsg ⊢
  cases hmsg with
  | ignored => exact h
  | noted => exact h.noteName
  | added info netns => exact add info netns start
  | deleted | dropped => exact fun hreceived ↦ nomatch hreceived
  | reconciled hreceived => exact h.reconcile htracks hreceived

theorem next (h : Present v l) (htracks : Tracks v l) {event : Event}
    (hkeeps : event = .accept → v.pending = none) :
    Present (v.next uid event) (l.next uid event) := by
  cases event with
  | accept =>
    intro hreceived
    have hpresent := h hreceived
    rw [hkeeps rfl] at hpresent
    exact hpresent
  | timer order start => exact h.retry (start uid)
  | message msg env => exact h.receive htracks env.start msg
  | announced | eof | readError | replied | drain => exact h

end Present

theorem present_of_adds {v : View} {l : Ledger} {uid : Strng} {event : Event}
    (h : event.adds uid = true) : Present (v.next uid event) (l.next uid event) := by
  unfold Event.adds at h
  split at h
  · next u info netns env =>
    obtain rfl : u = uid := of_decide_eq_true h
    show Present (v.receive u env.start _) _
    rw [View.receive, if_pos rfl]
    exact Present.add info netns env.start
  · cases h

/-- From a state in which the workload is present, or is going to be added. -/
theorem present_of_run {uid : Strng} {events : List Event} {l : Ledger}
    {m m' : WorkloadProxyManager}
    (hrun : run WorkloadProxyManager.step m events = some m')
    (hkeeps : keepsPending uid m events = true) (htracks : Tracks (m.state.view uid) l)
    (hpresent : Present (m.state.view uid) l ∨ events.any (Event.adds uid) = true) :
    Present (m'.state.view uid) (events.foldl (Ledger.next uid) l) := by
  induction events generalizing m l with
  | nil =>
    obtain rfl := Option.some.inj hrun
    exact hpresent.resolve_right (fun h ↦ nomatch h)
  | cons event events ih =>
    obtain ⟨m₁, hstep, hrest⟩ := run_cons_eq_some.1 hrun
    have hview := WorkloadProxyManager.view_step hstep uid
    have htracks₁ : Tracks (m₁.state.view uid) (l.next uid event) := hview ▸ htracks.next event
    have hkeeps₁ : keepsPending uid m₁ events = true ∧ (event = .accept →
        (m.state.view uid).pending = none ∨ events.any (Event.adds uid) = true) := by
      unfold keepsPending at hkeeps
      split at hkeeps
      · next heq => cases heq
      · next heq =>
        cases heq
        rw [hstep, Option.all_some, Bool.and_eq_true, Bool.or_eq_true] at hkeeps
        exact ⟨hkeeps.2, fun _ ↦ hkeeps.1.imp_left fun h ↦
          AList.lookup_eq_none.2 (of_decide_eq_true h)⟩
      · next hnot heq =>
        cases heq
        rw [hstep, Option.all_some] at hkeeps
        exact ⟨hkeeps, fun haccept ↦ absurd haccept hnot⟩
    refine ih hrest hkeeps₁.1 htracks₁ ?_
    rw [hview]
    by_cases hadds : event.adds uid = true
    · exact .inl (present_of_adds hadds)
    by_cases hlater : events.any (Event.adds uid) = true
    · exact .inr hlater
    · rw [List.any_cons, Bool.or_eq_true, or_iff_right hadds] at hpresent
      refine .inl ((hpresent.resolve_right hlater).next htracks fun haccept ↦ ?_)
      exact (hkeeps₁.2 haccept).resolve_right hlater

/-- **No workload is forgotten**, if one that is pending when a connection is accepted is added
again: right after the end of a snapshot, a workload that it named, that was received with an `Add`
and that was not deleted since is running or pending. -/
theorem received_not_forgotten {firewall : Bool} {uid : Strng} {past : List Event} {env : Env}
    {m : WorkloadProxyManager}
    (hrun : run WorkloadProxyManager.step (.new firewall)
      (past ++ [.message .workloadSnapshotSent env]) = some m)
    (hkeeps : keepsPending uid (.new firewall) past = true)
    (hnamed : (ledger uid past).named = true) (hreceived : (ledger uid past).received = true) :
    uid ∈ m.state.workloadStates ∨ uid ∈ m.state.pendingWorkloads := by
  rw [run_append] at hrun
  obtain ⟨m₁, hpast, hlast⟩ := Option.bind_eq_some_iff.1 hrun
  obtain ⟨_, hstep, ⟨⟩⟩ := run_cons_eq_some.1 hlast
  have htracks := tracks_of_run hpast uid
  have hpresent : Present (m₁.state.view uid) (ledger uid past) :=
    present_of_run hpast hkeeps (Tracks.of_gone rfl (fun _ ↦ rfl) rfl rfl)
      (.inl fun h ↦ nomatch h)
  have hafter : ((ledger uid past).message uid .workloadSnapshotSent).received = true := by
    dsimp only [Ledger.message]
    split
    · exact hreceived
    · rw [hreceived, hnamed, Bool.and_self]
  have hview : m.state.view uid = (m₁.state.view uid).receive uid env.start .workloadSnapshotSent :=
    WorkloadProxyManager.view_step hstep uid
  have hfinal := hpresent.receive htracks env.start .workloadSnapshotSent hafter
  rw [← hview] at hfinal
  exact hfinal.imp AList.lookup_isSome.1 AList.lookup_isSome.1

/-- A pod whose proxy did not start before a reconnect, and that is added again after it. -/
def readdedRun : List Event :=
  movedRun ++ [.eof, .accept, .announced true,
    .message (.addWorkload "pod" (some ⟨"sleep", "default", "sleep"⟩) (.ok 2)) ⟨.ok (), []⟩,
    .replied true]

theorem received_not_forgotten_readdedRun :
    ∃ m, run WorkloadProxyManager.step (.new true)
      (readdedRun ++ [.message .workloadSnapshotSent ⟨.ok (), []⟩]) = some m ∧
      ("pod" ∈ m.state.workloadStates ∨ "pod" ∈ m.state.pendingWorkloads) := by
  have hrun : (run WorkloadProxyManager.step (.new true)
      (readdedRun ++ [.message .workloadSnapshotSent ⟨.ok (), []⟩])).isSome = true := by decide
  obtain ⟨m, hm⟩ := Option.isSome_iff_exists.1 hrun
  exact ⟨m, hm, received_not_forgotten hm (by decide) (by decide) (by decide)⟩

/-- A pod that ran, was moved to a network namespace where its proxy did not start, and is kept by
the snapshot after the next reconnect. -/
def keptPendingRun : List Event :=
  movedRun ++ [.eof, .accept, .announced true, .message (.keepWorkload "pod") ⟨.ok (), []⟩,
    .replied true]

/-- `reset_snapshot` clears the pending workloads, and `Keep` does not bring one back: after the
snapshot that keeps it, the pod has no proxy and no retry. -/
theorem keep_after_reset_forgets :
    ∃ m, run WorkloadProxyManager.step (.new true)
      (keptPendingRun ++ [.message .workloadSnapshotSent ⟨.ok (), []⟩]) = some m ∧
      (ledger "pod" keptPendingRun).named = true ∧ (ledger "pod" keptPendingRun).received = true ∧
      "pod" ∉ m.state.workloadStates ∧ "pod" ∉ m.state.pendingWorkloads := by
  exact exists_run (fun m ↦ "pod" ∉ m.state.workloadStates ∧
    "pod" ∉ m.state.pendingWorkloads) (by decide) fun _ _ hgone ↦ ⟨by decide, by decide, hgone⟩

/-! ### Firewall events -/

/-- The event drops the workload while it is pending neither by a deletion nor by a new
connection. -/
def dropsNoPending (uid : Strng) (m : WorkloadProxyManager) : Event → Bool
  | .accept => uid ∉ m.state.pendingWorkloads
  | .message (.delWorkload u) _ => u = uid → uid ∉ m.state.pendingWorkloads
  | _ => true

/-- The network namespace in which the workload is running or is to be started. -/
def View.netns (v : View) : Option ℕ := v.running.or (v.pending.map Prod.snd)

/-- The network namespace that an `AddPod` tells the firewall. -/
def addedNetns : Option FirewallEvent → Option ℕ
  | some (.addPod _ _ netns) => some netns
  | _ => none

/-- The last event that the firewall was sent about a workload says where it is. -/
def Announced (v : View) : Prop := ∃ last, v.lastEvent = some last ∧ addedNetns last = v.netns

namespace Announced

variable {v : View} {l : Ledger} {uid : Strng}

theorem attached (h : Announced v) : v.lastEvent.isSome := by
  obtain ⟨last, hlast, -⟩ := h
  rw [hlast, Option.isSome_some]

theorem send (hattached : v.lastEvent.isSome) {event : FirewallEvent}
    (hnetns : addedNetns (some event) = v.netns) : Announced (v.send event) := by
  obtain ⟨last, hlast⟩ := Option.isSome_iff_exists.1 hattached
  exact ⟨some event, by rw [View.send, hlast, Option.map_some], hnetns⟩

theorem noteName (h : Announced v) : Announced v.noteName := by
  unfold View.noteName
  split
  · exact h
  · exact h

theorem add (hattached : v.lastEvent.isSome) (info : WorkloadInfo) {netns : ℕ}
    (hsame : v.running = some netns → Announced v) (start : Except Strng Unit) :
    Announced (v.add uid info netns start) := by
  unfold View.add
  split
  · next hrunning =>
    obtain ⟨last, hlast, hnetns⟩ := hsame hrunning
    refine ⟨last, hlast, ?_⟩
    rw [hnetns, View.netns, View.netns, hrunning]
    rfl
  · split
    · exact send (v := { v with running := some netns, pending := none }) hattached rfl
    · exact send (v := { v with running := none, pending := some (info, netns) }) hattached rfl

theorem retry (h : Announced v) (htracks : Tracks v l) (start : Except Strng Unit) :
    Announced (v.retry uid start) := by
  unfold View.retry
  split
  · exact h
  · next info netns hpending =>
    refine add (v := { v with pending := none }) h.attached info (fun hrunning ↦ ?_) start
    -- a workload that is to be started again is not running
    have hnone := htracks.disjoint (Option.isSome_iff_exists.2 ⟨netns, hrunning⟩)
    rw [hpending] at hnone
    cases hnone

theorem dropPending (h : Announced v) (hpending : v.pending = none) :
    Announced { v with pending := none } := by
  rw [← hpending]
  exact h

theorem del (h : Announced v) (hpending : v.pending = none) : Announced (v.del uid) := by
  unfold View.del
  split
  · exact h.dropPending hpending
  · exact send (v := { v with pending := none, running := none }) h.attached rfl

theorem reconcile (h : Announced v) (htracks : Tracks v l) : Announced (v.reconcile uid) := by
  unfold View.reconcile
  split
  · next hout =>
    refine send (v := { v with running := none }) h.attached ?_
    rw [View.netns, htracks.disjoint hout.1]
    rfl
  · exact h

theorem receive (h : Announced v) (htracks : Tracks v l) (start : Except Strng Unit)
    {msg : WorkloadMessage} (hdrops : msg = .delWorkload uid → v.pending = none) :
    Announced (v.receive uid start msg) := by
  have hmsg := received_of_receive uid htracks.snapshot start msg
  generalize v.receive uid start msg = v', l.message uid msg = l' at hmsg ⊢
  cases hmsg with
  | ignored => exact h
  | noted => exact h.noteName
  | added info netns => exact add h.noteName.attached info (fun _ ↦ h.noteName) start
  | deleted => exact h.del (hdrops rfl)
  | dropped => exact h.dropPending (hdrops rfl)
  | reconciled => exact h.reconcile htracks

theorem next (h : Announced v) (htracks : Tracks v l) {event : Event}
    (haccept : event = .accept → v.pending = none)
    (hdel : ∀ env, event = .message (.delWorkload uid) env → v.pending = none) :
    Announced (v.next uid event) := by
  cases event with
  | accept => exact h.dropPending (haccept rfl)
  | timer order start => exact h.retry htracks (start uid)
  | message msg env => exact h.receive htracks env.start fun hmsg ↦ hdel env (hmsg ▸ rfl)
  | announced | eof | readError | replied | drain => exact h

end Announced

theorem announced_of_run {uid : Strng} {events : List Event} {m : WorkloadProxyManager}
    (hrun : run (restrict (fun m event ↦ dropsNoPending uid m event = true)
      WorkloadProxyManager.step) (.new true) events = some m) :
    Tracks (m.state.view uid) (ledger uid events) ∧ Announced (m.state.view uid) := by
  refine run_induction_past (I := fun past m ↦
    Tracks (m.state.view uid) (ledger uid past) ∧ Announced (m.state.view uid)) hrun
    ⟨Tracks.of_gone rfl (fun _ ↦ rfl) rfl rfl, none, rfl, rfl⟩ ?_
  intro past event m m' hm hstep
  obtain ⟨hdrops, hstep⟩ := restrict_eq_some.1 hstep
  rw [ledger_append, WorkloadProxyManager.view_step hstep]
  refine ⟨hm.1.next event, hm.2.next hm.1 ?_ ?_⟩
  · rintro rfl
    exact AList.lookup_eq_none.2 (of_decide_eq_true hdrops)
  · rintro env rfl
    exact AList.lookup_eq_none.2 (of_decide_eq_true hdrops rfl)

theorem podUid_of_lastAbout {events : List FirewallEvent} {uid : Strng} {event : FirewallEvent}
    (h : lastAbout events uid = some event) : podUid event = uid := by
  have hmem := List.mem_of_getLast? h
  simpa using (List.mem_filter.1 hmem).2

theorem addedNetns_lastAbout {events : List FirewallEvent} {uid : Strng} {netns : ℕ} :
    addedNetns (lastAbout events uid) = some netns ↔
      ∃ info, lastAbout events uid = some (.addPod uid info netns) := by
  constructor
  · intro h
    unfold addedNetns at h
    split at h
    · next u info n hlast =>
      obtain rfl : u = uid := podUid_of_lastAbout hlast
      obtain rfl := Option.some.inj h
      exact ⟨info, hlast⟩
    · cases h
  · rintro ⟨info, hlast⟩
    rw [hlast]
    rfl

theorem View.netns_eq_some {v : View} (hdisjoint : v.running.isSome → v.pending = none)
    {netns : ℕ} :
    v.netns = some netns ↔
      v.running = some netns ∨ ∃ info, v.pending = some (info, netns) := by
  cases hrunning : v.running with
  | none => simp [View.netns, hrunning]
  | some n => simp [View.netns, hrunning, hdisjoint (by rw [hrunning, Option.isSome_some])]

/-- **Firewall events are paired**, if the workload is neither deleted nor reset while it is
pending: the last event about it is an `AddPod` for a network namespace exactly if it is running or
pending in that namespace. -/
theorem firewall_events_paired {uid : Strng} {events : List Event} {m : WorkloadProxyManager}
    (hrun : run (restrict (fun m event ↦ dropsNoPending uid m event = true)
      WorkloadProxyManager.step) (.new true) events = some m) :
    ∃ sent, m.state.fwTx = some sent ∧ ∀ netns,
      (∃ info, lastAbout sent uid = some (.addPod uid info netns)) ↔
        m.state.workloadStates.lookup uid = some netns ∨
          ∃ info, m.state.pendingWorkloads.lookup uid = some (info, netns) := by
  obtain ⟨htracks, last, hlast, hnetns⟩ := announced_of_run hrun
  obtain ⟨sent, hsent, rfl⟩ := Option.map_eq_some_iff.1 hlast
  refine ⟨sent, hsent, fun netns ↦ ?_⟩
  rw [← addedNetns_lastAbout, hnetns]
  exact View.netns_eq_some htracks.disjoint

theorem firewall_events_paired_movedRun :
    ∃ m sent, run (restrict
      (fun m event ↦ dropsNoPending "pod" m event = true) WorkloadProxyManager.step) (.new true)
      movedRun = some m ∧ m.state.fwTx = some sent ∧
      ∃ info, lastAbout sent "pod" = some (.addPod "pod" info 2) := by
  have hrun : (run (restrict
      (fun m event ↦ dropsNoPending "pod" m event = true) WorkloadProxyManager.step) (.new true)
      movedRun).any (fun m ↦ decide (m.state.pendingWorkloads.lookup "pod" =
        some (⟨"sleep", "default", "sleep"⟩, 2))) = true := by decide
  obtain ⟨m, hm, hfinal⟩ := (Option.any_eq_true _ _).1 hrun
  obtain ⟨sent, hsent, hpaired⟩ := firewall_events_paired hm
  exact ⟨m, sent, hm, hsent, (hpaired 2).2 (.inr ⟨_, of_decide_eq_true hfinal⟩)⟩

/-- A pod whose proxy does not start is deleted. -/
def deletedPendingRun : List Event :=
  [.accept, .announced true, .message .workloadSnapshotSent ⟨.ok (), []⟩, .replied true,
    .message (.addWorkload "pod" (some ⟨"sleep", "default", "sleep"⟩) (.ok 1))
      ⟨.error "address in use", []⟩,
    .replied true, .message (.delWorkload "pod") ⟨.ok (), []⟩]

/-- `del_workload` sends a `RemovePod` for running workloads only: a deleted pod whose proxy never
started stays in the firewall. -/
theorem pending_deletion_unannounced :
    ∃ m sent, run WorkloadProxyManager.step (.new true) deletedPendingRun = some m ∧
      m.state.fwTx = some sent ∧
      lastAbout sent "pod" = some (.addPod "pod" ⟨"sleep", "default", "sleep"⟩ 1) ∧
      "pod" ∉ m.state.workloadStates ∧ "pod" ∉ m.state.pendingWorkloads := by
  have hrun : (run WorkloadProxyManager.step (.new true) deletedPendingRun).any
      (fun m ↦ m.state.fwTx.any fun sent ↦
        decide (lastAbout sent "pod" = some (.addPod "pod" ⟨"sleep", "default", "sleep"⟩ 1) ∧
          "pod" ∉ m.state.workloadStates ∧ "pod" ∉ m.state.pendingWorkloads)) = true := by decide
  obtain ⟨m, hm, hchannel⟩ := (Option.any_eq_true _ _).1 hrun
  obtain ⟨sent, hsent, hfinal⟩ := (Option.any_eq_true _ _).1 hchannel
  exact ⟨m, sent, hm, hsent, of_decide_eq_true hfinal⟩

end Ztunnel.Inpod
