import Ztunnel.Sandbox.Discovery
import Ztunnel.State.Service

/-!
# The proxy state and its authorization decision

`ProxyState` puts the four stores together, and `assertRbac` (`DemandProxyState::assert_rbac`)
decides a connection from three of them: the *current* workload of the context, the sandbox it is
bound to, and the shared policies.

`RbacView` is the part of the state that a decision reads. Two states with the same view decide
every context alike, with the same error.
-/

namespace Ztunnel.State

open Ztunnel.Rbac Ztunnel.Sandbox

/-- `ProxyState`. -/
structure ProxyState where
  workloads : WorkloadStore
  services : ServiceStore
  policies : TrafficPolicyStore
  sandboxes : SandboxStore

namespace ProxyState

/-- `ProxyState::new`. -/
def new (localNode : Option Strng) : ProxyState where
  workloads := .new localNode
  services := .empty
  policies := .empty
  sandboxes := .empty

/-- `state.policies.send()`. -/
def notify (state : ProxyState) : ProxyState := { state with policies := state.policies.send }

end ProxyState

/-- `Workload::traffic_policies`: an absent binding stands as a missing policy. -/
def Workload.trafficPolicies (w : Workload) (store : TrafficPolicyStore) : Policies :=
  (if w.trafficPolicyRefs.isNone then [("workload-binding", none)] else []) ++
    (w.trafficPolicyRefs.getD []).map fun name ↦ (name, store.get name)

/-- `ProxyRbacContext`. -/
structure ProxyRbacContext where
  conn : Connection
  workload : Workload
  sandbox : Option Sandbox
deriving DecidableEq, Repr

/-- The error for a workload or sandbox that is gone or bound elsewhere. -/
def bindingUnavailable (name : Strng) : AuthorizationRejectionError :=
  .explicitlyDenied name "binding-unavailable"

/-- The sandbox whose inline policy applies: the selected one as it is bound now, or for an inbound
connection the first one bound to the workload. -/
def selectSandbox (state : ProxyState) (ctx : ProxyRbacContext) (workload : Workload) :
    Except AuthorizationRejectionError (Option Sandbox) :=
  match ctx.sandbox with
  | some selected =>
    (state.sandboxes.getForWorkload selected.uid workload.uid).mapError fun _ ↦
      bindingUnavailable selected.uid
  | none =>
    if ctx.conn.direction = .outbound then .ok none
    else .ok (state.sandboxes.getByWorkload workload.uid).head?

/-- The sandbox stage: the inline policy, if there is one. -/
def assertInline (sandbox : Option Sandbox) (conn : Connection) :
    Except AuthorizationRejectionError Unit :=
  match sandbox.bind (·.trafficPolicy) with
  | some inline => assertPolicies [("inline", some inline)] conn
  | none => .ok ()

/-- `DemandProxyState::assert_rbac`. An inline allow passes only the sandbox stage. -/
def assertRbac (state : ProxyState) (ctx : ProxyRbacContext) :
    Except AuthorizationRejectionError Unit :=
  match state.workloads.findUid ctx.workload.uid with
  | none => .error (bindingUnavailable ctx.workload.uid)
  | some workload => do
    let sandbox ← selectSandbox state ctx workload
    assertInline sandbox ctx.conn
    assertPolicies (workload.trafficPolicies state.policies) ctx.conn

/-- The connection is allowed now. -/
def allows (state : ProxyState) (ctx : ProxyRbacContext) : Bool :=
  (assertRbac state ctx).toBool

/-! ### What a decision reads -/

/-- What a decision reads of the state. -/
structure RbacView where
  /-- The identity and the policy references of the workload of a UID. -/
  binding : Strng → Option (Strng × Option (List Strng))
  sandboxes : SandboxStore
  policies : Strng → Option TrafficPolicy

def ProxyState.view (state : ProxyState) : RbacView where
  binding uid := (state.workloads.byUid uid).map fun w ↦ (w.uid, w.trafficPolicyRefs)
  sandboxes := state.sandboxes
  policies := state.policies.resources

theorem assertRbac_eq_of_view {s s' : ProxyState} (h : s.view = s'.view) (ctx : ProxyRbacContext) :
    assertRbac s ctx = assertRbac s' ctx := by
  obtain ⟨hbinding, hsandboxes, hpolicies⟩ := RbacView.mk.inj h
  have hb := congrFun hbinding ctx.workload.uid
  -- the same references are looked up in the same store
  have hstage : ∀ w w' : Workload, w.trafficPolicyRefs = w'.trafficPolicyRefs →
      w.trafficPolicies s.policies = w'.trafficPolicies s'.policies := by
    intro w w' hrefs
    simp only [Workload.trafficPolicies, TrafficPolicyStore.get, hrefs, hpolicies]
  have hselect : ∀ w w' : Workload, w.uid = w'.uid →
      selectSandbox s ctx w = selectSandbox s' ctx w' := by
    intro w w' huid
    simp only [selectSandbox, hsandboxes, huid]
  unfold assertRbac WorkloadStore.findUid
  rcases hw : s.workloads.byUid ctx.workload.uid with - | w <;>
    rcases hw' : s'.workloads.byUid ctx.workload.uid with - | w' <;>
    simp only [hw, hw', Option.map_none, Option.map_some, reduceCtorEq, Option.some.injEq,
      Prod.mk.injEq] at hb
  · rfl
  · simp only [hselect w w' hb.1, hstage w w' hb.2]

/-- A decision reads the UIDs of the context's workload and sandbox, not their contents. -/
theorem assertRbac_congr (state : ProxyState) {ctx ctx' : ProxyRbacContext}
    (hconn : ctx.conn = ctx'.conn) (huid : ctx.workload.uid = ctx'.workload.uid)
    (hsandbox : ctx.sandbox.map (·.uid) = ctx'.sandbox.map (·.uid)) :
    assertRbac state ctx = assertRbac state ctx' := by
  have hselect : ∀ w, selectSandbox state ctx w = selectSandbox state ctx' w := by
    intro w
    unfold selectSandbox
    rcases hs : ctx.sandbox with - | selected <;> rcases hs' : ctx'.sandbox with - | selected' <;>
      simp only [hs, hs', Option.map_none, Option.map_some, reduceCtorEq,
        Option.some.injEq] at hsandbox
    · simp only [hconn]
    · simp only [hsandbox]
  simp only [assertRbac, huid, hconn, hselect]

end Ztunnel.State
