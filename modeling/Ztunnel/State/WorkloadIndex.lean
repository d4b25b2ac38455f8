import Ztunnel.Lib.Index
import Ztunnel.Lib.Transition
import Ztunnel.State.Workload

/-!
# The indexes of the workload store

A workload is stored by its UID. Two indexes are kept beside it: `byAddr` holds the workloads at an
address, and `nodeLocalByIdentity` the UIDs of the local workloads of an identity. `Indexed` says
that both are exactly what the workloads in the store make them, whatever was inserted over what.

A bucket of `byAddr` is a list in which a workload may stand more than once (an address listed twice
is inserted twice), so it is described by its members.
-/

namespace Ztunnel.State

open Transition

/-! ### The best of a list -/

section MaxByKey

variable {α : Type} {key : α → ℕ}

theorem foldl_best (l : List α) (a : α) :
    let best := l.foldl (fun best x ↦ if key best ≤ key x then x else best) a
    best ∈ a :: l ∧ ∀ x ∈ a :: l, key x ≤ key best := by
  induction l generalizing a with
  | nil => simp
  | cons b l ih =>
    rw [List.foldl_cons]
    split
    · next hle =>
      obtain ⟨hmem, hbest⟩ := ih b
      refine ⟨List.mem_cons_of_mem a hmem, fun x hx ↦ ?_⟩
      rcases List.mem_cons.1 hx with rfl | hx
      · exact hle.trans (hbest b List.mem_cons_self)
      · exact hbest x hx
    · next hlt =>
      obtain ⟨hmem, hbest⟩ := ih a
      refine ⟨?_, fun x hx ↦ ?_⟩
      · exact List.mem_cons.2 ((List.mem_cons.1 hmem).imp id (List.mem_cons_of_mem b))
      · rcases List.mem_cons.1 hx with rfl | hx
        · exact hbest x List.mem_cons_self
        · rcases List.mem_cons.1 hx with rfl | hx
          · exact (Nat.le_of_not_le hlt).trans (hbest a List.mem_cons_self)
          · exact hbest x (List.mem_cons_of_mem a hx)

theorem exists_maxByKey {l : List α} (h : l ≠ []) :
    ∃ a, maxByKey key l = some a ∧ a ∈ l ∧ ∀ x ∈ l, key x ≤ key a := by
  cases l with
  | nil => exact absurd rfl h
  | cons a l => exact ⟨_, rfl, foldl_best l a⟩

end MaxByKey

/-! ### Buckets -/

/-- The workloads of a bucket. -/
def WorkloadByAddr.toList : WorkloadByAddr → List Workload
  | .single workload => [workload]
  | .many workloads => workloads

/-- The workloads under an address, none if there is no bucket. -/
def bucket (o : Option WorkloadByAddr) : List Workload := (o.map WorkloadByAddr.toList).getD []

/-- One turn of the loop of `insert`. -/
def bucketInsert (w : Workload) (o : Option WorkloadByAddr) : Option WorkloadByAddr :=
  some (match o with
    | some ws => ws.insert w
    | none => .single w)

/-- One turn of the loop of `remove`. -/
def bucketRemove (uid : Strng) (o : Option WorkloadByAddr) : Option WorkloadByAddr :=
  o.bind (·.removeUid uid)

@[simp] theorem bucket_bucketInsert (w : Workload) (o : Option WorkloadByAddr) :
    bucket (bucketInsert w o) = bucket o ++ [w] := by
  rcases o with - | (_ | _) <;> rfl

@[simp] theorem bucket_bucketRemove (uid : Strng) (o : Option WorkloadByAddr) :
    bucket (bucketRemove uid o) = (bucket o).filter (·.uid != uid) := by
  rcases o with - | (w | ws)
  · rfl
  · by_cases h : w.uid = uid
    · simp [bucketRemove, WorkloadByAddr.removeUid, bucket, WorkloadByAddr.toList, h]
    · simp [bucketRemove, WorkloadByAddr.removeUid, bucket, WorkloadByAddr.toList, h]
  · show bucket (WorkloadByAddr.removeUid (.many ws) uid) = ws.filter (·.uid != uid)
    rw [WorkloadByAddr.removeUid]
    split
    · next h => rw [h]; rfl
    · next h => rw [h]; rfl
    · rfl

/-- No bucket is empty. -/
def BucketOk (o : Option WorkloadByAddr) : Prop := ∀ ws, o = some ws → ws.toList ≠ []

theorem bucketOk_bucketInsert (w : Workload) (o : Option WorkloadByAddr) :
    BucketOk (bucketInsert w o) := by
  rintro ws hws
  have h := bucket_bucketInsert w o
  rw [hws] at h
  show bucket (some ws) ≠ []
  simp [h]

theorem BucketOk.bucketRemove {o : Option WorkloadByAddr} (h : BucketOk o) (uid : Strng) :
    BucketOk (bucketRemove uid o) := by
  rcases o with - | (w | workloads)
  · exact fun _ hws ↦ nomatch hws
  · rintro ws hws
    obtain ⟨-, hsome⟩ := Option.ite_none_left_eq_some.1 hws
    exact Option.some.inj hsome ▸ List.cons_ne_nil _ _
  · rintro ws hws
    have hws : WorkloadByAddr.removeUid (.many workloads) uid = some ws := hws
    rw [WorkloadByAddr.removeUid] at hws
    split at hws
    · cases hws
    · exact Option.some.inj hws ▸ List.cons_ne_nil _ _
    · next hnil _ => exact Option.some.inj hws ▸ hnil

/-! ### The invariant -/

namespace WorkloadStore

/-- A workload is stored, under its own UID. -/
def Stored (store : WorkloadStore) (w : Workload) : Prop := store.byUid w.uid = some w

/-- A node is the one whose workloads are tracked; without a node of its own the store tracks
all. -/
def IsLocal (store : WorkloadStore) (node : Strng) : Prop :=
  store.localNode.isNone ∨ store.localNode = some node

instance (store : WorkloadStore) (node : Strng) : Decidable (store.IsLocal node) :=
  inferInstanceAs (Decidable (_ ∨ _))

/-- The UIDs under an identity. -/
def localUids (store : WorkloadStore) (identity : WorkloadIdentity) : Finset Strng :=
  (store.nodeLocalByIdentity identity).getD ∅

theorem mem_addresses {w : Workload} {addr : NetworkAddress} :
    addr ∈ addresses w ↔ w.networkMode ≠ .hostNetwork ∧ w.network = addr.network ∧
      addr.address ∈ w.workloadIps := by
  unfold addresses
  split
  · next h => simp [h]
  · next h =>
    obtain ⟨network, address⟩ := addr
    simp [h, and_comm]

/-- What the index of identities holds. -/
structure LocallyIndexed (store : WorkloadStore) : Prop where
  uid : ∀ uid w, store.byUid uid = some w → w.uid = uid
  mem_localUids : ∀ identity uid, uid ∈ store.localUids identity ↔
    ∃ w, store.byUid uid = some w ∧ w.nodeIdentity = identity ∧ store.IsLocal w.node
  localUids_ne : ∀ identity set, store.nodeLocalByIdentity identity = some set → set ≠ ∅

/-- **The invariant.** -/
structure Indexed (store : WorkloadStore) : Prop extends LocallyIndexed store where
  mem_bucket : ∀ addr w, w ∈ bucket (store.byAddr addr) ↔ store.Stored w ∧ addr ∈ addresses w
  bucketOk : ∀ addr, BucketOk (store.byAddr addr)

variable {store : WorkloadStore} {uid : Strng} {w prev : Workload}

theorem LocallyIndexed.stored (h : store.LocallyIndexed) (hw : store.byUid uid = some w) :
    store.Stored w := by
  rw [Stored, h.uid uid w hw]
  exact hw

theorem indexed_new (localNode : Option Strng) : (new localNode).Indexed where
  uid _ _ h := nomatch h
  mem_bucket addr w := by simp [bucket, new, Stored]
  bucketOk _ _ h := nomatch h
  mem_localUids identity uid := by simp [localUids, new]
  localUids_ne _ _ h := nomatch h

/-! ### Removal -/

/-- The set of an identity without a UID; no empty set is kept. -/
def eraseUid (uid : Strng) (o : Option (Finset Strng)) : Option (Finset Strng) :=
  o.bind fun set ↦ if set.erase uid = ∅ then none else some (set.erase uid)

theorem getD_eraseUid (uid : Strng) (o : Option (Finset Strng)) :
    (eraseUid uid o).getD ∅ = (o.getD ∅).erase uid := by
  rcases o with - | set
  · rfl
  · by_cases h : set.erase uid = ∅ <;> simp [eraseUid, h]

theorem eraseUid_ne {o : Option (Finset Strng)} {set : Finset Strng}
    (h : eraseUid uid o = some set) : set ≠ ∅ := by
  obtain ⟨old, -, hif⟩ := Option.bind_eq_some_iff.1 h
  obtain ⟨hne, hsome⟩ := Option.ite_none_left_eq_some.1 hif
  exact Option.some.inj hsome ▸ hne

theorem remove_of_none (h : store.byUid uid = none) : store.remove uid = (none, store) := by
  simp only [remove, h]

theorem remove_of_some (h : store.byUid uid = some prev) :
    store.remove uid = (some prev, { store with
      byAddr := (addresses prev).foldl (fun byAddr addr ↦
        Function.update byAddr addr (bucketRemove prev.uid (byAddr addr))) store.byAddr
      byUid := Function.update store.byUid uid none
      nodeLocalByIdentity := Function.update store.nodeLocalByIdentity prev.nodeIdentity
        (eraseUid prev.uid (store.nodeLocalByIdentity prev.nodeIdentity)) }) := by
  simp only [remove, h]
  rfl

@[simp] theorem remove_localNode (store : WorkloadStore) (uid : Strng) :
    (store.remove uid).2.localNode = store.localNode := by
  unfold remove
  split <;> rfl

theorem isLocal_remove (uid node : Strng) :
    (store.remove uid).2.IsLocal node ↔ store.IsLocal node := by
  rw [IsLocal, IsLocal, remove_localNode]

theorem stored_remove (uid : Strng) (w : Workload) :
    (store.remove uid).2.Stored w ↔ store.Stored w ∧ w.uid ≠ uid := by
  rw [Stored, remove_byUid]
  by_cases heq : w.uid = uid
  · simp [heq]
  · rw [Function.update_of_ne heq, Stored, and_iff_left heq]

theorem bucket_iterate_remove (uid : Strng) (o : Option WorkloadByAddr) (n : ℕ) (w : Workload) :
    w ∈ bucket ((bucketRemove uid)^[n] o) ↔ w ∈ bucket o ∧ (n ≠ 0 → w.uid ≠ uid) := by
  induction n with
  | zero => simp
  | succ n ih =>
    rw [Function.iterate_succ_apply', bucket_bucketRemove, List.mem_filter, ih]
    simp only [bne_iff_ne, ne_eq, Nat.succ_ne_zero, not_false_eq_true, true_imp_iff]
    tauto

theorem localUids_remove (h : store.byUid uid = some prev) (identity : WorkloadIdentity) :
    (store.remove uid).2.localUids identity =
      if identity = prev.nodeIdentity then (store.localUids identity).erase prev.uid
      else store.localUids identity := by
  rw [localUids, remove_of_some h]
  simp only
  split
  · next hid => rw [hid, Function.update_self, getD_eraseUid, localUids]
  · next hid => rw [Function.update_of_ne hid, localUids]

/-- A removal leaves no empty set. -/
theorem remove_localUids_ne
    (h : ∀ identity set, store.nodeLocalByIdentity identity = some set → set ≠ ∅) (uid : Strng)
    (identity : WorkloadIdentity) (set : Finset Strng)
    (hset : (store.remove uid).2.nodeLocalByIdentity identity = some set) : set ≠ ∅ := by
  rcases hprev : store.byUid uid with - | prev
  · rw [remove_of_none hprev] at hset
    exact h identity set hset
  rw [remove_of_some hprev] at hset
  simp only at hset
  by_cases hid : identity = prev.nodeIdentity
  · rw [hid, Function.update_self] at hset
    exact eraseUid_ne hset
  · rw [Function.update_of_ne hid] at hset
    exact h identity set hset

/-- A workload is removed from the index of identities. -/
theorem LocallyIndexed.remove (h : store.LocallyIndexed) (uid : Strng) :
    (store.remove uid).2.LocallyIndexed := by
  rcases hprev : store.byUid uid with - | prev
  · rw [remove_of_none hprev]
    exact h
  refine ⟨fun uid' w hw ↦ ?_, fun identity uid' ↦ ?_, remove_localUids_ne h.localUids_ne uid⟩
  · rw [remove_byUid, Index.update_none_eq_some] at hw
    exact h.uid uid' w hw.2
  · have hold := h.mem_localUids identity uid'
    simp only [isLocal_remove, remove_byUid]
    rw [localUids_remove hprev, h.uid uid prev hprev]
    by_cases heq : uid' = uid
    · -- the removed UID stood under the identity of its workload only
      have hgone : uid' ∈ store.localUids identity → identity = prev.nodeIdentity := by
        rintro hmem
        obtain ⟨w, hw, hid, -⟩ := hold.1 hmem
        rw [heq, hprev] at hw
        rw [← hid, Option.some.inj hw]
      subst heq
      split
      · simp
      · next hid => simpa using fun hmem ↦ hid (hgone hmem)
    · rw [Function.update_of_ne heq, ← hold]
      split
      · rw [Finset.mem_erase, and_iff_right heq]
      · rfl

theorem Indexed.remove (h : store.Indexed) (uid : Strng) : (store.remove uid).2.Indexed := by
  rcases hprev : store.byUid uid with - | prev
  · rw [remove_of_none hprev]
    exact h
  have huid := h.uid uid prev hprev
  have hremove := remove_of_some hprev
  refine ⟨h.toLocallyIndexed.remove uid, fun addr w ↦ ?_, fun addr ↦ ?_⟩
  · rw [stored_remove, hremove]
    simp only
    rw [Index.foldl_update_apply (bucketRemove prev.uid), bucket_iterate_remove, h.mem_bucket, huid]
    -- a stored workload with the UID is the removed one, and is in the loop's addresses
    refine ⟨fun ⟨⟨hstored, haddr⟩, hne⟩ ↦ ⟨⟨hstored, fun heq ↦ ?_⟩, haddr⟩,
      fun ⟨⟨hstored, hne⟩, haddr⟩ ↦ ⟨⟨hstored, haddr⟩, fun _ ↦ hne⟩⟩
    have hsame : w = prev := by
      rw [Stored, heq, hprev] at hstored
      exact (Option.some.inj hstored).symm
    exact hne (List.count_pos_iff.2 (hsame ▸ haddr)).ne' heq
  · rw [hremove]
    simp only
    rw [Index.foldl_update_apply (bucketRemove prev.uid)]
    induction (addresses prev).count addr with
    | zero => exact h.bucketOk addr
    | succ n ih =>
      rw [Function.iterate_succ_apply']
      exact ih.bucketRemove prev.uid

/-! ### Insertion -/

/-- The rest of `insert`, after the removal. -/
def put (store : WorkloadStore) (w : Workload) : WorkloadStore :=
  { store with
    byAddr := (addresses w).foldl (fun byAddr addr ↦
      Function.update byAddr addr (bucketInsert w (byAddr addr))) store.byAddr
    byUid := Function.update store.byUid w.uid (some w)
    nodeLocalByIdentity :=
      if store.IsLocal w.node then
        Function.update store.nodeLocalByIdentity w.nodeIdentity
          (some (Insert.insert w.uid (store.localUids w.nodeIdentity)))
      else store.nodeLocalByIdentity
    insertNotifier := store.insertNotifier + 1 }

theorem insert_eq (store : WorkloadStore) (w : Workload) :
    store.insert w = (store.remove w.uid).2.put w := rfl

theorem localUids_put (store : WorkloadStore) (w : Workload) (identity : WorkloadIdentity) :
    (store.put w).localUids identity =
      if store.IsLocal w.node ∧ identity = w.nodeIdentity then
        Insert.insert w.uid (store.localUids identity)
      else store.localUids identity := by
  rw [localUids, put]
  simp only
  by_cases hlocal : store.IsLocal w.node
  · by_cases hid : identity = w.nodeIdentity
    · rw [if_pos hlocal, if_pos ⟨hlocal, hid⟩, hid, Function.update_self]
      rfl
    · rw [if_pos hlocal, if_neg fun hand ↦ hid hand.2, Function.update_of_ne hid, localUids]
  · rw [if_neg hlocal, if_neg fun hand ↦ hlocal hand.1, localUids]

theorem bucket_iterate_insert (w : Workload) (o : Option WorkloadByAddr) (n : ℕ) :
    bucket ((bucketInsert w)^[n] o) = bucket o ++ List.replicate n w := by
  induction n with
  | zero => simp
  | succ n ih =>
    rw [Function.iterate_succ_apply', bucket_bucketInsert, ih, List.append_assoc,
      List.replicate_succ']

/-- A workload that is put leaves no empty set. -/
theorem put_localUids_ne
    (h : ∀ identity set, store.nodeLocalByIdentity identity = some set → set ≠ ∅) (w : Workload)
    (identity : WorkloadIdentity) (set : Finset Strng)
    (hset : (store.put w).nodeLocalByIdentity identity = some set) : set ≠ ∅ := by
  by_cases hand : store.IsLocal w.node ∧ identity = w.nodeIdentity
  · have hmem : w.uid ∈ (store.put w).localUids identity := by
      rw [localUids_put, if_pos hand]
      exact Finset.mem_insert_self ..
    rw [localUids, hset] at hmem
    exact Finset.ne_empty_of_mem hmem
  · have hsame : (store.put w).nodeLocalByIdentity identity =
        store.nodeLocalByIdentity identity := by
      simp only [put]
      split
      · next hlocal => exact Function.update_of_ne (fun hid ↦ hand ⟨hlocal, hid⟩) ..
      · rfl
    exact h identity set (hsame ▸ hset)

/-- What is stored after a workload is put under a free UID. -/
theorem byUid_put_eq_some (hnew : store.byUid w.uid = none) {v : Workload} :
    (store.put w).byUid uid = some v ↔ store.byUid uid = some v ∨ uid = w.uid ∧ v = w := by
  show Function.update store.byUid w.uid (some w) uid = some v ↔ _
  by_cases heq : uid = w.uid
  · rw [heq, Function.update_self, hnew]
    simp [eq_comm]
  · rw [Function.update_of_ne heq]
    simp [heq]

/-- A workload is put in the index of identities under a UID that is free. -/
theorem LocallyIndexed.put (h : store.LocallyIndexed) (hnew : store.byUid w.uid = none) :
    (store.put w).LocallyIndexed := by
  refine ⟨fun uid v hv ↦ ?_, fun identity uid ↦ ?_, put_localUids_ne h.localUids_ne w⟩
  · obtain hold | ⟨rfl, rfl⟩ := (byUid_put_eq_some hnew).1 hv
    · exact h.uid uid v hold
    · rfl
  · have hold := h.mem_localUids identity uid
    simp only [byUid_put_eq_some hnew, or_and_right, exists_or, and_assoc, exists_and_left,
      exists_eq_left]
    show _ ↔ (∃ v : Workload, _ ∧ _ ∧ store.IsLocal v.node) ∨ _ ∧ _ ∧ store.IsLocal w.node
    rw [localUids_put, ← hold]
    split
    · next hand => rw [Finset.mem_insert, or_comm, and_iff_left ⟨hand.2.symm, hand.1⟩]
    · next hand =>
      refine (or_iff_left ?_).symm
      rintro ⟨-, hid, hlocal⟩
      exact hand ⟨hlocal, hid.symm⟩

theorem Indexed.put (h : store.Indexed) (hnew : store.byUid w.uid = none) :
    (store.put w).Indexed := by
  have hstored : ∀ v, (store.put w).Stored v ↔ store.Stored v ∨ v = w := by
    intro v
    rw [Stored, byUid_put_eq_some hnew, Stored]
    exact or_congr_right (and_iff_right_of_imp (congrArg Workload.uid))
  refine ⟨h.toLocallyIndexed.put hnew, fun addr v ↦ ?_, fun addr ↦ ?_⟩
  · rw [hstored]
    show v ∈ bucket ((addresses w).foldl _ store.byAddr addr) ↔ _
    rw [Index.foldl_update_apply (bucketInsert w), bucket_iterate_insert, List.mem_append,
      h.mem_bucket, List.mem_replicate, or_and_right, ← Nat.pos_iff_ne_zero, List.count_pos_iff]
    refine or_congr_right ⟨fun ⟨haddr, hv⟩ ↦ ⟨hv, hv ▸ haddr⟩, fun ⟨hv, haddr⟩ ↦ ⟨hv ▸ haddr, hv⟩⟩
  · show BucketOk ((addresses w).foldl _ store.byAddr addr)
    rw [Index.foldl_update_apply (bucketInsert w)]
    rcases (addresses w).count addr with - | n
    · exact h.bucketOk addr
    · rw [Function.iterate_succ_apply']
      exact bucketOk_bucketInsert _ _

theorem Indexed.insert (h : store.Indexed) (w : Workload) : (store.insert w).Indexed := by
  rw [insert_eq]
  exact (h.remove w.uid).put (by simp)

/-! ### Lookups -/

/-- What `find_address` finds: nothing where no workload is, otherwise one of the best. It does not
panic. -/
theorem Indexed.findAddress (h : store.Indexed) (addr : NetworkAddress) :
    (store.findAddress addr = some none ∧ ∀ w, store.Stored w → addr ∉ addresses w) ∨
      ∃ w, store.findAddress addr = some (some w) ∧ (store.Stored w ∧ addr ∈ addresses w) ∧
        ∀ v, store.Stored v → addr ∈ addresses v → v.addressRank ≤ w.addressRank := by
  have hmem := h.mem_bucket addr
  rw [WorkloadStore.findAddress]
  rcases hws : store.byAddr addr with - | ws
  · left
    refine ⟨rfl, fun w hstored haddr ↦ ?_⟩
    have hbucket := (hmem w).2 ⟨hstored, haddr⟩
    rw [hws] at hbucket
    cases hbucket
  · right
    rw [hws] at hmem
    have hget : ∃ w, ws.get = some w ∧ w ∈ ws.toList ∧
        ∀ v ∈ ws.toList, v.addressRank ≤ w.addressRank := by
      cases ws with
      | single w =>
        exact ⟨w, rfl, List.mem_singleton_self w, fun v hv ↦ by rw [List.mem_singleton.1 hv]⟩
      | many workloads => exact exists_maxByKey (h.bucketOk addr _ hws)
    obtain ⟨w, hw, hwmem, hbest⟩ := hget
    refine ⟨w, ?_, (hmem w).1 hwmem, fun v hstored haddr ↦ hbest v ((hmem v).2 ⟨hstored, haddr⟩)⟩
    simp only [hw, Option.map_some]

/-- An order in which a set is gone through. -/
def IterationOrder : Type :=
  { order : Finset Strng → List Strng // ∀ set uid, uid ∈ order set ↔ uid ∈ set }

/-- What `find_by_info` finds is local and matches. -/
theorem LocallyIndexed.of_findByInfo (h : store.LocallyIndexed) {order : IterationOrder}
    {info : WorkloadInfo} (hfound : store.findByInfo order.1 info = some w) :
    store.Stored w ∧ store.IsLocal w.node ∧ info.matches w = true := by
  obtain ⟨set, hset, hfind⟩ := Option.bind_eq_some_iff.1 hfound
  obtain ⟨uid, huid, hfilter⟩ := List.exists_of_findSome?_eq_some hfind
  obtain ⟨hbyUid, hmatches⟩ := Option.filter_eq_some_iff.1 hfilter
  have hlocal : uid ∈ store.localUids ⟨info.namespace, info.serviceAccount⟩ := by
    rw [localUids, hset]
    exact (order.2 set uid).1 huid
  obtain ⟨v, hv, -, hnode⟩ := (h.mem_localUids _ uid).1 hlocal
  obtain rfl := Option.some.inj (hbyUid.symm.trans hv)
  exact ⟨h.stored hbyUid, hnode, hmatches⟩

/-- `find_by_info` finds a workload iff a local one matches. -/
theorem LocallyIndexed.findByInfo_isSome (h : store.LocallyIndexed) (order : IterationOrder)
    (info : WorkloadInfo) :
    (store.findByInfo order.1 info).isSome = true ↔
      ∃ w, store.Stored w ∧ store.IsLocal w.node ∧ info.matches w = true := by
  refine ⟨fun hfound ↦ (Option.isSome_iff_exists.1 hfound).imp fun w hw ↦ h.of_findByInfo hw, ?_⟩
  rintro ⟨w, hstored, hnode, hmatches⟩
  have hid : w.nodeIdentity = ⟨info.namespace, info.serviceAccount⟩ := by
    simp only [WorkloadInfo.matches, Bool.and_eq_true, beq_iff_eq] at hmatches
    rw [Workload.nodeIdentity, hmatches.1.2, hmatches.2]
  have hlocal := (h.mem_localUids _ w.uid).2 ⟨w, hstored, hid, hnode⟩
  rcases hset : store.nodeLocalByIdentity ⟨info.namespace, info.serviceAccount⟩ with - | set
  · rw [localUids, hset] at hlocal
    cases hlocal
  · rw [localUids, hset] at hlocal
    rw [WorkloadStore.findByInfo, hset, Option.bind_some, List.findSome?_isSome_iff]
    refine ⟨w.uid, (order.2 set w.uid).2 hlocal, ?_⟩
    exact Option.isSome_iff_exists.2 ⟨w, Option.filter_eq_some_iff.2 ⟨hstored, hmatches⟩⟩

/-- `was_last_identity_on_node` tells whether a local workload of the identity is left. -/
theorem Indexed.wasLastIdentityOnNode_iff (h : store.Indexed) (node : Strng)
    (identity : WorkloadIdentity) :
    store.wasLastIdentityOnNode node identity = true ↔
      store.IsLocal node ∧
        ∀ w, store.Stored w → store.IsLocal w.node → w.nodeIdentity ≠ identity := by
  have hnone : (store.nodeLocalByIdentity identity).isNone = true ↔
      ∀ w, store.Stored w → store.IsLocal w.node → w.nodeIdentity ≠ identity := by
    constructor
    · intro hnone w hstored hnode hid
      have hlocal := (h.mem_localUids identity w.uid).2 ⟨w, hstored, hid, hnode⟩
      rw [localUids, Option.isNone_iff_eq_none.1 hnone] at hlocal
      cases hlocal
    · intro hempty
      rcases hset : store.nodeLocalByIdentity identity with - | set
      · rfl
      · obtain ⟨uid, huid⟩ := Finset.nonempty_of_ne_empty (h.localUids_ne identity set hset)
        have hlocal : uid ∈ store.localUids identity := by
          rw [localUids, hset]
          exact huid
        obtain ⟨w, hw, hid, hnode⟩ := (h.mem_localUids identity uid).1 hlocal
        exact absurd hid (hempty w (h.stored hw) hnode)
  show (if store.IsLocal node then _ else _) = true ↔ _
  by_cases hlocal : store.IsLocal node
  · rw [if_pos hlocal, hnone, and_iff_right hlocal]
  · rw [if_neg hlocal]
    simp [hlocal]

/-! ### Runs -/

/-- The operations of a store. -/
inductive Op where
  | insert (w : Workload)
  | remove (uid : Strng)

def apply (store : WorkloadStore) : Op → WorkloadStore
  | .insert w => store.insert w
  | .remove uid => (store.remove uid).2

theorem indexed_foldl (localNode : Option Strng) (ops : List Op) :
    (ops.foldl apply (new localNode)).Indexed := by
  refine foldl_induction (along_true ..) (indexed_new localNode) fun store op h _ ↦ ?_
  cases op with
  | insert w => exact h.insert w
  | remove uid => exact h.remove uid

/-- **The indexes are exact.** After any sequence of inserts and removals: the bucket of an address
has exactly the stored workloads with that address, none is empty, and `find_address` does not panic
and finds one of the best; an identity has exactly the UIDs of the stored local workloads of it, and
no empty set; `find_by_info` finds a workload iff a stored local one matches; and after one more
removal `was_last_identity_on_node` tells whether the removed workload was local and no stored local
workload has its identity. -/
theorem indexes_exact (localNode : Option Strng) (ops : List Op) :
    let store := ops.foldl apply (new localNode)
    (∀ addr, (∀ w, w ∈ bucket (store.byAddr addr) ↔ store.Stored w ∧
        w.networkMode ≠ .hostNetwork ∧ w.network = addr.network ∧ addr.address ∈ w.workloadIps) ∧
      (∀ ws, store.byAddr addr = some ws → ws.toList ≠ []) ∧
      ((store.findAddress addr = some none ∧ bucket (store.byAddr addr) = []) ∨
        ∃ w ∈ bucket (store.byAddr addr), store.findAddress addr = some (some w) ∧
          ∀ v ∈ bucket (store.byAddr addr), v.addressRank ≤ w.addressRank)) ∧
    (∀ identity, (∀ uid, uid ∈ (store.nodeLocalByIdentity identity).getD ∅ ↔
        ∃ w, store.findUid uid = some w ∧ w.uid = uid ∧ w.nodeIdentity = identity ∧
          store.IsLocal w.node) ∧
      ∀ set, store.nodeLocalByIdentity identity = some set → set ≠ ∅) ∧
    (∀ (order : IterationOrder) info, (store.findByInfo order.1 info).isSome = true ↔
      ∃ w, store.Stored w ∧ store.IsLocal w.node ∧ info.matches w = true) ∧
    ∀ uid prev, (store.remove uid).1 = some prev →
      ((store.remove uid).2.wasLastIdentityOnNode prev.node prev.nodeIdentity = true ↔
        store.IsLocal prev.node ∧ ∀ w, (store.remove uid).2.Stored w → store.IsLocal w.node →
          ¬ (w.namespace = prev.namespace ∧ w.serviceAccount = prev.serviceAccount)) := by
  intro store
  have h : store.Indexed := indexed_foldl localNode ops
  refine ⟨fun addr ↦ ⟨fun w ↦ ?_, h.bucketOk addr, ?_⟩,
    fun identity ↦ ⟨fun uid ↦ ?_, h.localUids_ne identity⟩, h.findByInfo_isSome,
    fun uid prev hprev ↦ ?_⟩
  · rw [h.mem_bucket, mem_addresses]
  · rcases h.findAddress addr with ⟨hnone, hempty⟩ | ⟨w, hw, hmem, hbest⟩
    · refine .inl ⟨hnone, List.eq_nil_iff_forall_not_mem.2 fun w hmem ↦ ?_⟩
      obtain ⟨hstored, haddr⟩ := (h.mem_bucket addr w).1 hmem
      exact hempty w hstored haddr
    · refine .inr ⟨w, (h.mem_bucket addr w).2 hmem, hw, fun v hv ↦ ?_⟩
      obtain ⟨hstored, haddr⟩ := (h.mem_bucket addr v).1 hv
      exact hbest v hstored haddr
  · rw [← localUids, h.mem_localUids]
    exact exists_congr fun w ↦ ⟨fun ⟨hw, hrest⟩ ↦ ⟨hw, h.uid uid w hw, hrest⟩,
      fun ⟨hw, _, hrest⟩ ↦ ⟨hw, hrest⟩⟩
  · rw [(h.remove uid).wasLastIdentityOnNode_iff, isLocal_remove]
    refine and_congr_right fun _ ↦ forall_congr' fun w ↦ ?_
    rw [isLocal_remove, Workload.nodeIdentity, Workload.nodeIdentity, ne_eq,
      WorkloadIdentity.mk.injEq]

end WorkloadStore

end Ztunnel.State
