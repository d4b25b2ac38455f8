import Ztunnel.Lib.BindingOrder
import Ztunnel.Lib.Transition
import Ztunnel.Sandbox.Discovery

/-!
# The lists of bound sandboxes

`SandboxStore` keeps the same fact twice: a sandbox names the workload it is bound to, and the
workload has a list of the sandboxes bound to it. `Sandbox::insert` and `SandboxStore::remove` move
an identifier between lists only when its binding changes.

`Kept.apply` says that an event does to the lists what an assignment of a binding does, so the
history of the assignments alone determines what is listed and in which order
(`BindingOrder.Sound`). That no list is ever left empty is the part that `BindingOrder` does not
see, since it reads a missing list as an empty one.
-/

namespace Ztunnel.Sandbox.SandboxStore

open Ztunnel.State (Strng)

/-- A change of the store: `SandboxStore::insert` of an accepted or configured sandbox, or
`SandboxStore::remove`. -/
inductive Event where
  | insert (sandbox : Sandbox)
  | remove (name : Strng)
deriving DecidableEq, Repr

/-- The store after an event. -/
def apply (store : SandboxStore) : Event → SandboxStore
  | .insert sandbox => (store.insert sandbox).2
  | .remove name => (store.remove name).2

/-- What an event says about bindings, whatever is stored: a removed sandbox is bound to nothing. -/
def assigned (h : BindingOrder.History Strng Strng) : Event → BindingOrder.History Strng Strng
  | .insert sandbox => h.assign sandbox.uid sandbox.workloadUid
  | .remove name => h.assign name none

/-- The bindings that a sequence of events makes, and since when each of them holds. -/
def history (events : List Event) : BindingOrder.History Strng Strng :=
  events.foldl assigned .start

/-- What the stored sandbox of this identifier is bound to. -/
def binding (store : SandboxStore) (id : Strng) : Option Strng :=
  (store.resources id).bind (·.workloadUid)

/-- The list of a workload; one without a list has none bound to it. -/
def bindings (store : SandboxStore) (workloadUid : Strng) : List Strng :=
  (store.byWorkload workloadUid).getD []

/-! ### One event -/

theorem bindings_removeWorkloadBinding (store : SandboxStore) (workloadUid sandboxId w : Strng) :
    (store.removeWorkloadBinding workloadUid sandboxId).bindings w =
      if workloadUid = w then (store.bindings w).filter (· != sandboxId) else store.bindings w := by
  rcases hlist : store.byWorkload workloadUid with - | sandboxes
  · -- an absent list stays absent
    have hsame : store.removeWorkloadBinding workloadUid sandboxId = store := by
      simp only [removeWorkloadBinding, hlist]
    rw [hsame]
    split
    next heq => simp [bindings, ← heq, hlist]
    next => rfl
  · rcases eq_or_ne workloadUid w with rfl | hne
    · rw [if_pos rfl]
      simp only [bindings, removeWorkloadBinding, hlist, Function.update_self, Option.getD_some]
      split
      next hempty => exact (List.isEmpty_iff.1 hempty).symm
      next => rfl
    · simp only [bindings, removeWorkloadBinding, hlist, Function.update_of_ne hne.symm, if_neg hne]

theorem bindings_pushWorkloadBinding (store : SandboxStore) (workloadUid sandboxId w : Strng) :
    (store.pushWorkloadBinding workloadUid sandboxId).bindings w =
      if workloadUid = w then store.bindings w ++ [sandboxId] else store.bindings w := by
  rcases eq_or_ne workloadUid w with rfl | hne
  · simp [bindings, pushWorkloadBinding]
  · simp [bindings, pushWorkloadBinding, Function.update_of_ne hne.symm, hne]

/-- `rebind` is the move of one member. -/
theorem bindings_rebind (store : SandboxStore) (previous workload : Option Strng)
    (sandboxId : Strng) :
    (store.rebind previous workload sandboxId).bindings =
      BindingOrder.move store.bindings previous workload sandboxId := by
  funext w
  rcases eq_or_ne previous workload with rfl | hmoved
  · simp [rebind, BindingOrder.move]
  · rcases previous with - | old <;> rcases workload with - | new
    · exact absurd rfl hmoved
    · simp [rebind, BindingOrder.move, bindings_pushWorkloadBinding]
    · simp [rebind, BindingOrder.move, bindings_removeWorkloadBinding]
    · -- the two lists differ, so the identifier is removed from one and pushed to the other
      have hne : ¬old = new := fun heq ↦ hmoved (congrArg some heq)
      simp only [rebind, BindingOrder.move, Option.some.injEq, if_neg hne,
        bindings_pushWorkloadBinding, bindings_removeWorkloadBinding]
      split
      next hnew => rw [if_neg (hnew ▸ hne), if_neg (hnew ▸ hne)]
      next => rfl

theorem bindings_insert (store : SandboxStore) (sandbox : Sandbox) :
    (store.insert sandbox).2.bindings =
      BindingOrder.move store.bindings (store.binding sandbox.uid) sandbox.workloadUid
        sandbox.uid :=
  bindings_rebind _ _ _ _

theorem bindings_remove (store : SandboxStore) (name : Strng) :
    (store.remove name).2.bindings =
      BindingOrder.move store.bindings (store.binding name) none name := by
  rcases hold : store.resources name with - | previous
  · funext w
    simp [remove, hold, binding, BindingOrder.move]
  · rcases hbound : previous.workloadUid with - | workloadUid
    · funext w
      simp [remove, hold, hbound, binding, BindingOrder.move, bindings]
    · funext w
      simp only [remove, hold, hbound, binding, Option.bind_some, BindingOrder.move, reduceCtorEq,
        if_false, bindings_removeWorkloadBinding, Option.some.injEq]
      rfl

theorem binding_insert (store : SandboxStore) (sandbox : Sandbox) :
    (store.insert sandbox).2.binding =
      Function.update store.binding sandbox.uid sandbox.workloadUid := by
  funext id
  rcases eq_or_ne id sandbox.uid with rfl | hne
  · simp [binding]
  · simp [binding, Function.update_of_ne hne]

theorem binding_remove (store : SandboxStore) (name : Strng) :
    (store.remove name).2.binding = Function.update store.binding name none := by
  funext id
  rcases eq_or_ne id name with rfl | hne
  · simp [binding]
  · simp [binding, Function.update_of_ne hne]

/-! ### Sequences of events -/

/-- No list is empty: a list that loses its last identifier goes. -/
def NoEmptyList (store : SandboxStore) : Prop :=
  ∀ workloadUid, store.byWorkload workloadUid ≠ some []

variable {store : SandboxStore}

theorem NoEmptyList.withResources (h : store.NoEmptyList) (resources : Strng → Option Sandbox) :
    NoEmptyList { store with resources := resources } :=
  h

theorem NoEmptyList.removeWorkloadBinding (h : store.NoEmptyList) (workloadUid sandboxId : Strng) :
    (store.removeWorkloadBinding workloadUid sandboxId).NoEmptyList := by
  intro w
  rcases hlist : store.byWorkload workloadUid with - | sandboxes
  · simpa only [SandboxStore.removeWorkloadBinding, hlist] using h w
  · simp only [SandboxStore.removeWorkloadBinding, hlist]
    rcases eq_or_ne w workloadUid with rfl | hne
    · rw [Function.update_self]
      split
      · simp
      next hrest => simpa using hrest
    · rw [Function.update_of_ne hne]
      exact h w

theorem NoEmptyList.pushWorkloadBinding (h : store.NoEmptyList) (workloadUid sandboxId : Strng) :
    (store.pushWorkloadBinding workloadUid sandboxId).NoEmptyList := by
  intro w
  rcases eq_or_ne w workloadUid with rfl | hne
  · simp [SandboxStore.pushWorkloadBinding]
  · simpa [SandboxStore.pushWorkloadBinding, Function.update_of_ne hne] using h w

theorem NoEmptyList.rebind (h : store.NoEmptyList) (previous workload : Option Strng)
    (sandboxId : Strng) : (store.rebind previous workload sandboxId).NoEmptyList := by
  rcases eq_or_ne previous workload with rfl | hmoved
  · simpa [SandboxStore.rebind] using h
  · rcases previous with - | old <;> rcases workload with - | new
    · exact absurd rfl hmoved
    · simpa [SandboxStore.rebind] using h.pushWorkloadBinding new sandboxId
    · simpa [SandboxStore.rebind] using h.removeWorkloadBinding old sandboxId
    · have hboth := (h.removeWorkloadBinding old sandboxId).pushWorkloadBinding new sandboxId
      simpa only [SandboxStore.rebind, if_neg hmoved] using hboth

theorem NoEmptyList.apply (h : store.NoEmptyList) (event : Event) :
    (store.apply event).NoEmptyList := by
  cases event with
  | insert sandbox => exact (h.withResources _).rebind _ _ _
  | remove name =>
    show ((store.remove name).2).NoEmptyList
    rcases hold : store.resources name with - | previous
    · simpa only [remove, hold] using h
    · rcases hbound : previous.workloadUid with - | workloadUid
      · simpa only [remove, hold, hbound] using h.withResources _
      · simpa only [remove, hold, hbound] using (h.withResources _).removeWorkloadBinding _ name

/-- What a sequence of events leaves: the stored bindings are those of its history, the lists are
those of the bindings, and no list is empty. -/
structure Kept (h : BindingOrder.History Strng Strng) (store : SandboxStore) : Prop where
  binding : store.binding = h.bound
  sound : BindingOrder.Sound h store.bindings
  noEmpty : store.NoEmptyList

/-- An event does to the lists what the assignment of a binding does. -/
theorem Kept.apply {h : BindingOrder.History Strng Strng} (hkept : Kept h store) (event : Event) :
    Kept (assigned h event) (store.apply event) := by
  refine ⟨?_, ?_, hkept.noEmpty.apply event⟩
  · cases event with
    | insert sandbox => exact (binding_insert store sandbox).trans (by rw [hkept.binding]; rfl)
    | remove name => exact (binding_remove store name).trans (by rw [hkept.binding]; rfl)
  · cases event with
    | insert sandbox =>
      show BindingOrder.Sound _ ((store.insert sandbox).2).bindings
      rw [bindings_insert, hkept.binding]
      exact hkept.sound.assign sandbox.uid sandbox.workloadUid
    | remove name =>
      show BindingOrder.Sound _ ((store.remove name).2).bindings
      rw [bindings_remove, hkept.binding]
      exact hkept.sound.assign name none

theorem kept_foldl (events : List Event) : Kept (history events) (events.foldl apply empty) :=
  Transition.foldl_induction_past (I := fun past store ↦ Kept (history past) store)
    (Transition.along_true empty events)
    ⟨rfl, BindingOrder.Sound.start, by simp [NoEmptyList, empty]⟩
    fun past store event hkept _ ↦ by
      rw [history, List.foldl_append]
      exact hkept.apply event

/-! ### Lookups -/

/-- `get_for_workload` finds the sandboxes bound to the workload, reports those bound elsewhere and
has nothing for the others. -/
theorem getForWorkload_eq (store : SandboxStore) (id workloadUid : Strng) :
    (∀ sandbox, store.getForWorkload id workloadUid = .ok (some sandbox) ↔
      store.resources id = some sandbox ∧ sandbox.workloadUid = some workloadUid) ∧
    (store.getForWorkload id workloadUid = .error () ↔
      ∃ other, store.binding id = some other ∧ other ≠ workloadUid) ∧
    (store.getForWorkload id workloadUid = .ok none ↔ store.binding id = none) := by
  unfold getForWorkload
  rcases hold : store.resources id with - | previous
  · simp [binding, hold]
  · rcases hbound : previous.workloadUid with - | uid
    · simp +contextual [binding, hold, hbound]
    · rcases eq_or_ne uid workloadUid with rfl | hne
      · simp +contextual [binding, hold, hbound]
      · simp +contextual [binding, hold, hbound, hne]

/-- An update of the content alone leaves every list as it is. -/
theorem byWorkload_insert_of_binding_eq (store : SandboxStore) {sandbox : Sandbox}
    (hsame : store.binding sandbox.uid = sandbox.workloadUid) :
    (store.insert sandbox).2.byWorkload = store.byWorkload := by
  have hold : (store.resources sandbox.uid).bind (·.workloadUid) = sandbox.workloadUid := hsame
  simp only [insert, rebind, if_pos hold]

/-- **The store of sandboxes stays consistent.** Whatever is inserted, bound elsewhere, unbound and
removed, a workload's list has exactly the stored sandboxes bound to it, each of them once, the
longest bound first; no list is empty; an update of the content alone moves nothing; and a lookup
for a workload tells the three cases apart. -/
theorem sandboxStore_consistent (events : List Event) :
    let store := events.foldl apply empty
    (∀ workloadUid id, (store.bindings workloadUid).count id =
      if store.binding id = some workloadUid then 1 else 0) ∧
    (∀ workloadUid, store.byWorkload workloadUid ≠ some []) ∧
    store.binding = (history events).bound ∧
    (∀ workloadUid, (store.bindings workloadUid).Pairwise fun id id' ↦
      (history events).since id < (history events).since id') ∧
    (∀ sandbox, store.binding sandbox.uid = sandbox.workloadUid →
      (store.insert sandbox).2.byWorkload = store.byWorkload) ∧
    ∀ id workloadUid,
      (∀ sandbox, store.getForWorkload id workloadUid = .ok (some sandbox) ↔
        store.resources id = some sandbox ∧ sandbox.workloadUid = some workloadUid) ∧
      (store.getForWorkload id workloadUid = .error () ↔
        ∃ other, store.binding id = some other ∧ other ≠ workloadUid) ∧
      (store.getForWorkload id workloadUid = .ok none ↔ store.binding id = none) := by
  intro store
  have hkept : Kept (history events) store := kept_foldl events
  refine ⟨fun workloadUid id ↦ ?_, hkept.noEmpty, hkept.binding, hkept.sound.ordered,
    fun _ hsame ↦ byWorkload_insert_of_binding_eq store hsame, getForWorkload_eq store⟩
  rw [hkept.sound.count_eq, hkept.binding]

-- The first sandbox is updated in place; it loses its place when it is bound elsewhere and back.
example :
    let a : Sandbox := ⟨"a", some "w", none⟩
    let b : Sandbox := ⟨"b", some "w", none⟩
    let changed : Sandbox := ⟨"a", some "w", some ⟨none, none⟩⟩
    let elsewhere : Sandbox := ⟨"a", some "v", none⟩
    (([.insert a, .insert b, .insert changed].foldl apply empty).bindings "w" = ["a", "b"]) ∧
      ([.insert a, .insert b, .insert elsewhere, .insert a].foldl apply empty).byWorkload "w" =
        some ["b", "a"] := by
  decide

end Ztunnel.Sandbox.SandboxStore
