import Ztunnel.Firewall.Convert
import Ztunnel.Sandbox.Bindings
import Ztunnel.Sandbox.Registration
import Ztunnel.Xds.Stores

/-!
# The inline gate of a workload

The inline policy of a sandbox gates the traffic of a workload twice: TCP connections in
`assert_rbac`, with the sandbox that was selected for the connection, and everything else in the
firewall of the pod. The selections are not the same code. The firewall and inbound connections take
the first sandbox bound to the workload. An outbound connection takes what the sandbox manager of
the pod has registered, if there is a manager, and no sandbox at all before that.

`sameGate_iff` says where the two gates agree, in every reachable state.
-/

namespace Ztunnel.Proxy

open Ztunnel.State Ztunnel.Rbac Ztunnel.Sandbox Ztunnel.Xds Ztunnel.Firewall
open Ztunnel.Sandbox.Registration (SandboxManager)

section Selection

variable (order : Finset Strng → List Strng) (state : ProxyState) (info : WorkloadInfo)

/-- `DemandProxyState::fetch_sandbox`: the first one bound to the workload. -/
def fetchSandbox (workload : Workload) : Option Sandbox :=
  (state.sandboxes.getByWorkload workload.uid).head?

/-- `SandboxManager::get_sandbox`. -/
def getSandbox (id : Strng) : Except Registration.Error Sandbox :=
  match state.workloads.findByInfo order info with
  | none => .error .notReady
  | some workload =>
    match state.sandboxes.getForWorkload id workload.uid with
    | .error () => .error .workloadMismatch
    | .ok none => .error .notReady
    | .ok (some sandbox) => .ok sandbox

/-- `SandboxManager::ready_sandbox`. -/
def readySandbox (manager : SandboxManager) : Except Registration.Error Sandbox :=
  match manager.id with
  | none => .error .notReady
  | some id => getSandbox order state info id

/-- `ProxyInputs::sandbox_for_connection`, up to the metadata. -/
def sandboxForConnection (manager : Option SandboxManager) :
    Except Registration.Error (Option Sandbox) :=
  match manager with
  | some manager =>
    match readySandbox order state info manager with
    | .ok sandbox => .ok (some sandbox)
    | .error .notReady => .ok none
    | .error e => .error e
  | none => .ok ((state.workloads.findByInfo order info).bind (fetchSandbox state))

/-- The context of a new connection of the local workload: `serve_connect` and `handle_inbound`
fetch a sandbox, `proxy_to` of the outbound side selects one. There is none if the workload is
missing or the selection fails. -/
def newContext (manager : Option SandboxManager) (conn : Connection) : Option ProxyRbacContext :=
  (state.workloads.findByInfo order info).bind fun workload ↦
    match conn.direction with
    | .inbound => some ⟨conn, workload, fetchSandbox state workload⟩
    | .outbound => (sandboxForConnection order state info manager).toOption.map fun sandbox ↦
        ⟨conn, workload, sandbox⟩

/-- The inline policy of the firewall of the pod, if its workload is there. -/
def firewallGate : Option (Option TrafficPolicy) :=
  (firewallInput order state info).map fun input ↦ input.sandbox.bind (·.2)

end Selection

/-- The inline policy by which `assert_rbac` decides a context; none if the context is denied before
there is one. -/
def tcpGate (state : ProxyState) (ctx : ProxyRbacContext) : Option (Option TrafficPolicy) :=
  (state.workloads.findUid ctx.workload.uid).bind fun workload ↦
    (selectSandbox state ctx workload).toOption.map fun sandbox ↦ sandbox.bind (·.trafficPolicy)

/-- **What the gate does**: the inline policy decides, and then the policies of the workload. -/
theorem assertRbac_of_tcpGate {state : ProxyState} {ctx : ProxyRbacContext}
    {inline : Option TrafficPolicy} (h : tcpGate state ctx = some inline) :
    ∃ workload, state.workloads.findUid ctx.workload.uid = some workload ∧
      assertRbac state ctx = (do
        match inline with
        | some inline => assertPolicies [("inline", some inline)] ctx.conn
        | none => pure ()
        assertPolicies (workload.trafficPolicies state.policies) ctx.conn) := by
  obtain ⟨workload, hw, hgate⟩ := Option.bind_eq_some_iff.1 h
  refine ⟨workload, hw, ?_⟩
  rcases hselect : selectSandbox state ctx workload with e | sandbox
  · rw [hselect] at hgate
    cases hgate
  · rw [hselect] at hgate
    obtain rfl := Option.some.inj hgate
    rw [assertRbac, hw]
    simp only [hselect]
    rcases hinline : sandbox.bind (·.trafficPolicy) with - | inline
    · simp [assertInline, hinline, bind, Except.bind]
    · simp [assertInline, hinline, bind, Except.bind]

/-! ### The first bound sandbox -/

variable {decoders : Decoders} {localNode : Option Strng} {state : ProxyState}

/-- The store of a reachable state has come about by inserts and removals. -/
theorem exists_kept (hreach : Reachable decoders localNode state) :
    ∃ h, SandboxStore.Kept h state.sandboxes := by
  have hempty : ∃ h, SandboxStore.Kept h .empty := ⟨_, SandboxStore.kept_foldl []⟩
  have hinsert : ∀ (store : SandboxStore) (sandbox : Sandbox), sandbox.validate = .ok () →
      (∃ h, SandboxStore.Kept h store) → ∃ h, SandboxStore.Kept h (store.insert sandbox).2 :=
    fun _ sandbox _ ⟨_, hkept⟩ ↦ ⟨_, hkept.apply (.insert sandbox)⟩
  induction hreach with
  | new => exact hempty
  | handle batch _ ih =>
    exact sandboxes_handle_rule (P := fun store ↦ ∃ h, SandboxStore.Kept h store) batch hinsert
      (fun _ name ⟨_, hkept⟩ ↦ ⟨_, hkept.apply (.remove name)⟩) ih
  | loadConfig r _ hload _ =>
    simp only [Xds.loadConfig, bind_eq_ok] at hload
    obtain ⟨_, -, sandboxes, hsandboxes, _, -, hstate⟩ := hload
    obtain rfl := Except.ok.inj hstate
    exact loadSandboxes_rule (P := fun store ↦ ∃ h, SandboxStore.Kept h store) hsandboxes hinsert
      hempty

theorem getForWorkload_of_fetchSandbox (hreach : Reachable decoders localNode state)
    {workload : Workload} {sandbox : Sandbox} (h : fetchSandbox state workload = some sandbox) :
    state.sandboxes.getForWorkload sandbox.uid workload.uid = .ok (some sandbox) := by
  obtain ⟨hist, hkept⟩ := exists_kept hreach
  obtain ⟨id, hid, hsandbox⟩ := List.mem_filterMap.1 (List.mem_of_head? h)
  obtain rfl : sandbox.uid = id := hreach.keysMatch.sandbox id sandbox hsandbox
  refine ((SandboxStore.getForWorkload_eq state.sandboxes sandbox.uid workload.uid).1 sandbox).2
    ⟨hsandbox, ?_⟩
  have hbound : state.sandboxes.binding sandbox.uid = some workload.uid := by
    rw [hkept.binding]
    exact hkept.sound.mem_iff.1 hid
  simpa [SandboxStore.binding, hsandbox] using hbound

theorem findUid_of_findByInfo (hreach : Reachable decoders localNode state)
    {order : Finset Strng → List Strng} {info : WorkloadInfo} {workload : Workload}
    (h : state.workloads.findByInfo order info = some workload) :
    state.workloads.findUid workload.uid = some workload := by
  obtain ⟨set, -, hfind⟩ := Option.bind_eq_some_iff.1 h
  obtain ⟨uid, -, hsome⟩ := List.exists_of_findSome?_eq_some hfind
  obtain ⟨hw, -⟩ := Option.filter_eq_some_iff.1 hsome
  rw [WorkloadStore.findUid, hreach.keysMatch.workload uid workload hw]
  exact hw

theorem firewallGate_of_findByInfo {order : Finset Strng → List Strng} {info : WorkloadInfo}
    {workload : Workload} (h : state.workloads.findByInfo order info = some workload) :
    firewallGate order state info =
      some ((fetchSandbox state workload).bind (·.trafficPolicy)) := by
  rw [firewallGate, firewallInput, h]
  simp only [Option.map_some, Option.some.injEq, fetchSandbox]
  cases (state.sandboxes.getByWorkload workload.uid).head? <;> rfl

/-! ### The gate of a new connection -/

section Gate

variable {workload : Workload} {conn : Connection}

/-- With a selected sandbox that is bound to the workload, its policy is the gate. -/
theorem tcpGate_of_selected (hw : state.workloads.findUid workload.uid = some workload)
    {sandbox : Sandbox}
    (hbound : state.sandboxes.getForWorkload sandbox.uid workload.uid = .ok (some sandbox)) :
    tcpGate state ⟨conn, workload, some sandbox⟩ = some sandbox.trafficPolicy := by
  simp only [tcpGate, hw, Option.bind_some, selectSandbox, hbound]
  rfl

/-- Without one, an outbound connection is not gated. -/
theorem tcpGate_of_unselected (hw : state.workloads.findUid workload.uid = some workload)
    (hdirection : conn.direction = .outbound) :
    tcpGate state ⟨conn, workload, none⟩ = some none := by
  simp only [tcpGate, hw, Option.bind_some, selectSandbox, hdirection, if_true]
  rfl

/-- With the first sandbox selected, or none because there is none, its policy is the gate. -/
theorem tcpGate_of_fetched (hreach : Reachable decoders localNode state)
    (hw : state.workloads.findUid workload.uid = some workload) :
    tcpGate state ⟨conn, workload, fetchSandbox state workload⟩ =
      some ((fetchSandbox state workload).bind (·.trafficPolicy)) := by
  rcases hfetch : fetchSandbox state workload with - | sandbox
  · rcases hdirection : conn.direction
    · -- the lookup of `assert_rbac` finds none either
      have hhead : (state.sandboxes.getByWorkload workload.uid).head? = none := hfetch
      simp only [tcpGate, hw, Option.bind_some, selectSandbox, hdirection, reduceCtorEq, if_false,
        hhead]
      rfl
    · exact tcpGate_of_unselected hw hdirection
  · exact tcpGate_of_selected hw (getForWorkload_of_fetchSandbox hreach hfetch)

/-- What an outbound connection is gated by if the pod has a sandbox manager: the registered
sandbox, if there is one in the store and bound to the workload; nothing, if it is missing or not
bound; and one that is bound elsewhere lets no connection open. -/
theorem gate_of_manager (hreach : Reachable decoders localNode state)
    {order : Finset Strng → List Strng} {info : WorkloadInfo}
    (hinfo : state.workloads.findByInfo order info = some workload)
    (hdirection : conn.direction = .outbound) (manager : SandboxManager) :
    (newContext order state info (some manager) conn).map (tcpGate state) =
      match manager.id.bind state.sandboxes.resources with
      | none => some (some none)
      | some registered =>
        match registered.workloadUid with
        | none => some (some none)
        | some uid =>
          if uid = workload.uid then some (some registered.trafficPolicy) else none := by
  have hw := findUid_of_findByInfo hreach hinfo
  have hunselected : tcpGate state ⟨conn, workload, none⟩ = some none :=
    tcpGate_of_unselected hw hdirection
  simp only [newContext, hinfo, Option.bind_some, hdirection, sandboxForConnection, readySandbox,
    getSandbox]
  rcases hid : manager.id with - | id
  · simp [Except.toOption, hunselected]
  · rcases hregistered : state.sandboxes.resources id with - | registered
    · simp [SandboxStore.getForWorkload, hregistered, Except.toOption, hunselected]
    · rcases hbound : registered.workloadUid with - | uid
      · simp [SandboxStore.getForWorkload, hregistered, hbound, Except.toOption, hunselected]
      · by_cases huid : uid = workload.uid
        · subst huid
          obtain rfl : registered.uid = id := hreach.keysMatch.sandbox id registered hregistered
          have hget : state.sandboxes.getForWorkload registered.uid workload.uid =
              .ok (some registered) := by
            simp [SandboxStore.getForWorkload, hregistered, hbound]
          simp [hget, hregistered, hbound, Except.toOption, tcpGate_of_selected hw hget]
        · simp [SandboxStore.getForWorkload, hregistered, hbound, huid, Except.toOption]

end Gate

/-- The inline policy of the first sandbox bound to a workload. -/
def firstInline (state : ProxyState) (workload : Workload) : Option TrafficPolicy :=
  (fetchSandbox state workload).bind (·.trafficPolicy)

/-- The sandbox that a manager has registered, if there is a manager and the connection is outbound,
has the inline policy of the first bound one if it is bound to the workload too; and the first bound
one has none if the registered one is missing or not bound. -/
def GateAgrees (state : ProxyState) (manager : Option SandboxManager)
    (direction : Rbac.Direction) (workload : Workload) : Prop :=
  direction = .outbound → ∀ m ∈ manager,
    match m.id.bind state.sandboxes.resources with
    | none => firstInline state workload = none
    | some registered =>
      match registered.workloadUid with
      | none => firstInline state workload = none
      | some uid => uid = workload.uid → registered.trafficPolicy = firstInline state workload

/-- **Where TCP and the firewall have the same inline gate.** In every reachable state, and whatever
the manager of the pod has registered, a new connection of the local workload is gated by the inline
policy of its firewall exactly if `GateAgrees`. Inbound connections always are, and so are outbound
ones without a manager. -/
theorem sameGate_iff {decoders : Decoders} {localNode : Option Strng} {state : ProxyState}
    (hreach : Reachable decoders localNode state) (order : Finset Strng → List Strng)
    (info : WorkloadInfo) (manager : Option SandboxManager) (conn : Connection) :
    (∀ ctx ∈ newContext order state info manager conn,
      tcpGate state ctx = firewallGate order state info) ↔
    ∀ workload ∈ state.workloads.findByInfo order info,
      GateAgrees state manager conn.direction workload := by
  rcases hinfo : state.workloads.findByInfo order info with - | workload
  · simp [newContext, hinfo]
  have hw := findUid_of_findByInfo hreach hinfo
  have hfirewall : firewallGate order state info = some (firstInline state workload) :=
    firewallGate_of_findByInfo hinfo
  have hfetched : tcpGate state ⟨conn, workload, fetchSandbox state workload⟩ =
      some (firstInline state workload) := tcpGate_of_fetched hreach hw
  simp only [Option.mem_some_iff, forall_eq', hfirewall]
  rcases hdirection : conn.direction
  · have hcontext : newContext order state info manager conn =
        some ⟨conn, workload, fetchSandbox state workload⟩ := by
      simp only [newContext, hinfo, Option.bind_some, hdirection]
    simp [hcontext, hfetched, GateAgrees]
  · rcases manager with - | manager
    · have hcontext : newContext order state info none conn =
          some ⟨conn, workload, fetchSandbox state workload⟩ := by
        simp only [newContext, hinfo, Option.bind_some, hdirection, sandboxForConnection]
        rfl
      simp [hcontext, hfetched, GateAgrees]
    · -- compare the gates as they are after the selection
      have hgate := gate_of_manager hreach hinfo hdirection manager
      have hall : (∀ ctx ∈ newContext order state info (some manager) conn,
          tcpGate state ctx = some (firstInline state workload)) ↔
          ∀ gate ∈ (newContext order state info (some manager) conn).map (tcpGate state),
            gate = some (firstInline state workload) := by
        simp
      rw [hall, hgate]
      simp only [GateAgrees, Option.mem_some_iff, forall_eq', true_imp_iff]
      rcases manager.id.bind state.sandboxes.resources with - | registered
      · simp [eq_comm]
      · rcases hbound : registered.workloadUid with - | uid
        · simp [hbound, eq_comm]
        · by_cases huid : uid = workload.uid
          · simp [hbound, huid]
          · simp [hbound, huid]

/-- A workload with two sandboxes, of which the first lets nothing out. -/
def twoSandboxes : ProxyState :=
  (Batch.handle noDecoders
    (Batch.handle noDecoders (.new none) (.workloads [.update ⟨"pod", unboundWorkload⟩])).2
    (.sandboxes [.update ⟨"first", ⟨"first", some "pod", some ⟨none, some []⟩⟩⟩,
      .update ⟨"second", ⟨"second", some "pod", none⟩⟩])).2

theorem reachable_twoSandboxes : Reachable noDecoders none twoSandboxes :=
  .handle _ (.handle _ .new)

/-- An iteration order for sets of one element. -/
def podOrder (set : Finset Strng) : List Strng := if "pod" ∈ set then ["pod"] else []

/-- A manager with a registration. -/
def registeredManager (id : Strng) : SandboxManager := ⟨some id, fun _ ↦ none, []⟩

/-- A connection out of the pod. -/
def outboundConn : Connection :=
  { podContext.conn with direction := .outbound }

/-- With the first sandbox registered the gates agree. -/
theorem sameGate_iff_first :
    (twoSandboxes.workloads.findByInfo podOrder ⟨"pod", "ns", "default"⟩).isSome = true ∧
      ∀ workload ∈ twoSandboxes.workloads.findByInfo podOrder ⟨"pod", "ns", "default"⟩,
        GateAgrees twoSandboxes (some (registeredManager "first")) .outbound workload :=
  ⟨by decide, (sameGate_iff reachable_twoSandboxes podOrder ⟨"pod", "ns", "default"⟩
    (some (registeredManager "first")) outboundConn).1 (by decide)⟩

/-- With the second sandbox registered, a TCP connection out of the pod is not gated, and the
firewall has the gate of the first. -/
theorem registered_gate_differs :
    Reachable noDecoders none twoSandboxes ∧
      (newContext podOrder twoSandboxes ⟨"pod", "ns", "default"⟩ (some (registeredManager "second"))
        outboundConn).map (tcpGate twoSandboxes) = some (some none) ∧
      firewallGate podOrder twoSandboxes ⟨"pod", "ns", "default"⟩ =
        some (some ⟨none, some ⟨[]⟩⟩) :=
  ⟨reachable_twoSandboxes, by decide, by decide⟩

end Ztunnel.Proxy
