import Ztunnel.Lib.Index
import Ztunnel.Xds.Client

/-!
# Waiting for demanded resources

`Demanded::recv` should return only after a response that lists the key, received after the demand,
has been through its handler. For a sender that is fired this holds: senders are fired after the
handler, and a sender pending while a message is gone through was put there before the message was
received. The invariant `Sound` says so for every sender in the map and every channel sent on.

But `recv` also returns when its sender is dropped, and the map has one sender for a key: a second
demand for the key drops the sender of the first (`replaced_waiter_completes`). With no waiting
sender replaced, waits are sound in every run (`recv_sound_of_sole_waiters`).
-/

namespace Ztunnel.Xds

open Ztunnel.State Ztunnel.Rbac Ztunnel.Sandbox Transition

variable {σ : Type}

/-- A message is applied by the handler of its type, if there is one. -/
def Config.apply (config : Config σ) (s : σ) (res : DeltaDiscoveryResponse) : σ :=
  match config.handlers res.typeUrl with
  | some h => (h s res).2
  | none => s

/-- No message is being gone through. -/
def ClientPhase.isBetween : ClientPhase → Bool
  | .handling _ | .notifying _ _ _ _ => false
  | _ => true

namespace AdsClient

/-- **A demand is answered**: a message received after it lists its key and has been handled. -/
def Answered (config : Config σ) (received : List DeltaDiscoveryResponse) (handled : ℕ)
    (d : Demanded) : Prop :=
  ∃ i res, d.after ≤ i ∧ i < handled ∧ received[i]? = some res ∧ res.Lists d.key ∧
    (config.handlers res.typeUrl).isSome = true

/-- The messages received before the demands that the current message may answer. -/
def answerable (c : AdsClient σ) : ℕ :=
  if c.phase.isBetween then c.received.length else c.received.length - 1

/-- What holds while a message is gone through. -/
def PhaseOk (config : Config σ) (c : AdsClient σ) : Prop :=
  match c.phase with
  | .handling res => c.received.getLast? = some res ∧ c.handled + 1 = c.received.length
  | .notifying removes resources res _ =>
    c.received.getLast? = some res ∧ c.handled = c.received.length ∧
      (config.handlers res.typeUrl).isSome = true ∧ removes ⊆ res.removedResources ∧
      resources ⊆ res.resources.map (·.name)
  | _ => c.handled = c.received.length

/-- A channel that was sent on, and a `recv` that returned, have their answer; only a waiter that is
not waiting has lost its sender. -/
structure WaiterOk (config : Config σ) (received : List DeltaDiscoveryResponse) (handled : ℕ)
    (d : Demanded) : Prop where
  sent : d.channel = .sent → Answered config received handled d
  closed : d.channel = .closed → d.waiter ≠ .waiting
  completed : d.waiter = .completed → Answered config received handled d

/-- **The invariant.** -/
structure Sound (config : Config σ) (proxy : σ) (c : AdsClient σ) : Prop where
  /-- The state is what the handlers made of the handled messages. -/
  proxy_eq : c.proxy = (c.received.take c.handled).foldl config.apply proxy
  phase : c.PhaseOk config
  queue : ∀ channel key, (channel, key) ∈ c.demand →
    ∃ d, c.demands[channel]? = some d ∧ d.key = key ∧ d.after ≤ c.received.length
  pending : ∀ key channel, c.pending.lookup key = some channel →
    ∃ d, c.demands[channel]? = some d ∧ d.key = key ∧ d.after ≤ c.answerable
  waiters : ∀ (channel : ℕ) d, c.demands[channel]? = some d →
    WaiterOk config c.received c.handled d

/-- **No waiting sender is replaced**: a demand is taken from the queue only if the waiter of the
sender pending for its key, if any, is no longer waiting. -/
def SoleWaiter (c : AdsClient σ) : ClientEvent → Prop
  | .demandEvent => ∀ entry ∈ c.demand.head?, ∀ channel ∈ c.pending.lookup entry.2,
      ∀ d ∈ c.demands[channel]?, d.waiter ≠ .waiting
  | _ => True

instance (c : AdsClient σ) : (e : ClientEvent) → Decidable (c.SoleWaiter e)
  | .demandEvent => inferInstanceAs (Decidable (∀ _ ∈ _, _))
  | .demand _ | .recv _ | .cancel _ | .start | .connect _ | .message _ | .streamEnd | .handle
  | .notify | .sent _ => .isTrue trivial

/-! ### Channels and waiters -/

section Log

variable {config : Config σ} {received received' : List DeltaDiscoveryResponse}
  {handled handled' : ℕ} {d : Demanded}

theorem Answered.mono (h : Answered config received handled d) (hreceived : received <+: received')
    (hhandled : handled ≤ handled') : Answered config received' handled' d := by
  obtain ⟨i, res, hi, hlt, hres, hlists, hhandler⟩ := h
  obtain ⟨rest, rfl⟩ := hreceived
  refine ⟨i, res, hi, hlt.trans_le hhandled, ?_, hlists, hhandler⟩
  rw [List.getElem?_append_left (List.getElem?_eq_some_iff.1 hres).1]
  exact hres

theorem WaiterOk.mono (h : WaiterOk config received handled d) (hreceived : received <+: received')
    (hhandled : handled ≤ handled') : WaiterOk config received' handled' d where
  sent hsent := (h.sent hsent).mono hreceived hhandled
  closed := h.closed
  completed hcompleted := (h.completed hcompleted).mono hreceived hhandled

end Log

section Phase

variable {config : Config σ} {c : AdsClient σ}

theorem answerable_of_isBetween (h : c.phase.isBetween = true) :
    c.answerable = c.received.length :=
  if_pos h

theorem answerable_of_not_isBetween (h : c.phase.isBetween = false) :
    c.answerable = c.received.length - 1 :=
  if_neg (Bool.eq_false_iff.1 h)

theorem phaseOk_iff (h : c.phase.isBetween = true) :
    c.PhaseOk config ↔ c.handled = c.received.length := by
  unfold PhaseOk
  split
  · next hphase =>
    rw [hphase] at h
    cases h
  · next hphase =>
    rw [hphase] at h
    cases h
  · rfl

end Phase

namespace Sound

variable {config : Config σ} {proxy : σ} {c c' : AdsClient σ} {res : DeltaDiscoveryResponse}
  {rejects : List RejectedConfig}

/-- The task moves on: nothing changes but the phase and what no wait depends on. -/
theorem move (h : Sound config proxy c) (hproxy : c'.proxy = c.proxy)
    (hdemand : c'.demand = c.demand) (hpending : c'.pending = c.pending)
    (hdemands : c'.demands = c.demands) (hreceived : c'.received = c.received)
    (hhandled : c'.handled = c.handled) (hphase : c'.PhaseOk config)
    (hanswerable : c.answerable ≤ c'.answerable) : Sound config proxy c' := by
  refine ⟨?_, hphase, ?_, ?_, ?_⟩
  · rw [hproxy, hreceived, hhandled]
    exact h.proxy_eq
  · rw [hdemand, hdemands, hreceived]
    exact h.queue
  · rw [hpending, hdemands]
    intro key channel hlookup
    obtain ⟨d, hd, hkey, hafter⟩ := h.pending key channel hlookup
    exact ⟨d, hd, hkey, hafter.trans hanswerable⟩
  · rw [hdemands, hreceived, hhandled]
    exact h.waiters

/-- One demand changes, but for its key and its place among the messages. -/
theorem modify (h : Sound config proxy c) {channel : ℕ} {g : Demanded → Demanded}
    (hkey : ∀ d, (g d).key = d.key) (hafter : ∀ d, (g d).after = d.after)
    (hok : ∀ d, c.demands[channel]? = some d → WaiterOk config c.received c.handled (g d)) :
    Sound config proxy { c with demands := c.demands.modify channel g } := by
  have hkept : ∀ (i : ℕ) d, c.demands[i]? = some d →
      ∃ d', (c.demands.modify channel g)[i]? = some d' ∧ d'.key = d.key ∧ d'.after = d.after := by
    intro i d hd
    rw [List.getElem?_modify, hd]
    refine ⟨_, rfl, ?_⟩
    split
    · exact ⟨hkey d, hafter d⟩
    · exact ⟨rfl, rfl⟩
  refine ⟨h.proxy_eq, h.phase, fun i key hmem ↦ ?_, fun key i hlookup ↦ ?_, fun i d' hd' ↦ ?_⟩
  · obtain ⟨d, hd, hdkey, hdafter⟩ := h.queue i key hmem
    obtain ⟨d', hd', hkey', hafter'⟩ := hkept i d hd
    exact ⟨d', hd', hkey'.trans hdkey, hafter'.trans_le hdafter⟩
  · obtain ⟨d, hd, hdkey, hdafter⟩ := h.pending key i hlookup
    obtain ⟨d', hd', hkey', hafter'⟩ := hkept i d hd
    exact ⟨d', hd', hkey'.trans hdkey, hafter'.trans_le hdafter⟩
  · rw [List.getElem?_modify] at hd'
    obtain ⟨d, hd, rfl⟩ := Option.map_eq_some_iff.1 hd'
    split
    · next heq => exact hok d (heq ▸ hd)
    · exact h.waiters i d hd

theorem complete (h : Sound config proxy c) {channel : ℕ} {d : Demanded}
    (hd : c.demands[channel]? = some d) (hwaiting : d.waiter = .waiting)
    (hchannel : d.channel ≠ .live) : Sound config proxy (c.setWaiter channel .completed) := by
  have hok := h.waiters channel d hd
  -- a waiting waiter has its sender, so the channel was sent on
  have hsent : d.channel = .sent := by
    cases hc : d.channel with
    | live => exact absurd hc hchannel
    | sent => rfl
    | closed => exact absurd hwaiting (hok.closed hc)
  refine h.modify (fun _ ↦ rfl) (fun _ ↦ rfl) fun d' hd' ↦ ?_
  obtain rfl := Option.some.inj (hd.symm.trans hd')
  exact ⟨hok.sent, (fun _ hw ↦ nomatch hw), fun _ ↦ hok.sent hsent⟩

theorem cancel (h : Sound config proxy c) (channel : ℕ) :
    Sound config proxy (c.setWaiter channel .cancelled) := by
  refine h.modify (fun _ ↦ rfl) (fun _ ↦ rfl) fun d' hd' ↦ ?_
  have hok := h.waiters channel d' hd'
  exact ⟨hok.sent, (fun _ hw ↦ nomatch hw), fun hw ↦ nomatch hw⟩

theorem demand (h : Sound config proxy c) (key : ResourceKey) :
    Sound config proxy
      { c with
        demand := c.demand ++ [(c.demands.length, key)]
        demands := c.demands ++ [⟨key, .live, .waiting, c.received.length⟩] } := by
  have hold : ∀ (i : ℕ) d, c.demands[i]? = some d → ∀ l, (c.demands ++ l)[i]? = some d := by
    intro i d hd l
    rw [List.getElem?_append_left (List.getElem?_eq_some_iff.1 hd).1]
    exact hd
  refine ⟨h.proxy_eq, h.phase, fun i key' hmem ↦ ?_, fun key' i hlookup ↦ ?_, fun i d hd ↦ ?_⟩
  · obtain hmem | hmem := List.mem_append.1 hmem
    · obtain ⟨d, hd, hkept⟩ := h.queue i key' hmem
      exact ⟨d, hold i d hd _, hkept⟩
    · obtain ⟨rfl, rfl⟩ := Prod.mk.inj (List.mem_singleton.1 hmem)
      exact ⟨⟨_, .live, .waiting, c.received.length⟩, List.getElem?_concat_length .., rfl, le_rfl⟩
  · obtain ⟨d, hd, hkept⟩ := h.pending key' i hlookup
    exact ⟨d, hold i d hd _, hkept⟩
  · obtain hlt | heq := Nat.lt_or_eq_of_le (Nat.le_of_lt_succ
      ((List.getElem?_eq_some_iff.1 hd).1.trans_eq (List.length_append ..)))
    · rw [List.getElem?_append_left hlt] at hd
      exact h.waiters i d hd
    · subst heq
      rw [List.getElem?_concat_length] at hd
      obtain rfl := Option.some.inj hd
      exact ⟨(fun hc ↦ nomatch hc), (fun hc ↦ nomatch hc), fun hc ↦ nomatch hc⟩

/-- The sender pending for a key is fired, for a handled message that lists the key. -/
theorem notifyOnDemand (h : Sound config proxy c) {key : ResourceKey}
    (hanswered : ∀ d : Demanded, d.key = key → d.after ≤ c.answerable →
      Answered config c.received c.handled d) :
    Sound config proxy (c.notifyOnDemand key) := by
  have herased : Sound config proxy { c with pending := c.pending.erase key } := by
    refine ⟨h.proxy_eq, h.phase, h.queue, fun key' i hlookup ↦ ?_, h.waiters⟩
    exact h.pending key' i (Index.lookup_erase_eq_some.1 hlookup).2
  unfold AdsClient.notifyOnDemand
  split
  · next channel hlookup =>
    obtain ⟨d, hd, hkey, hafter⟩ := h.pending key channel hlookup
    refine herased.modify (fun _ ↦ rfl) (fun _ ↦ rfl) fun d' hd' ↦ ?_
    obtain rfl := Option.some.inj (hd.symm.trans hd')
    have hok := h.waiters channel d hd
    exact ⟨fun _ ↦ hanswered d hkey hafter, (fun hc ↦ nomatch hc), hok.completed⟩
  · exact herased

/-- The sender pending for a key is dropped, when its waiter does not wait. -/
theorem insertPending (h : Sound config proxy c) {key : ResourceKey}
    (hdone : ∀ old, c.pending.lookup key = some old → ∀ d, c.demands[old]? = some d →
      d.waiter ≠ .waiting) (channel : ℕ) :
    Sound config proxy { c with demands := (c.insertPending key channel).demands } := by
  unfold AdsClient.insertPending
  dsimp only
  split
  · next old hold =>
    refine h.modify (fun _ ↦ rfl) (fun _ ↦ rfl) fun d hd ↦ ?_
    have hok := h.waiters old d hd
    exact ⟨(fun hc ↦ nomatch hc), fun _ ↦ hdone old hold d hd, hok.completed⟩
  · exact h

/-- The demand at the head of the queue is pending, and replaces no waiting sender. -/
theorem dequeue (h : Sound config proxy c) (hidle : c.phase = .idle)
    (hsole : c.SoleWaiter .demandEvent) {channel : ℕ} {key : ResourceKey}
    {demand : List (ℕ × ResourceKey)} (hdemand : c.demand = (channel, key) :: demand)
    (subscriptions : Strng → Finset Strng) (request : DeltaDiscoveryRequest) :
    Sound config proxy
      { { c with demand := demand }.insertPending key channel with
        subscriptions := subscriptions
        phase := .subscribing request } := by
  have hbetween : c.phase.isBetween = true := hidle ▸ rfl
  have hhandled := (phaseOk_iff hbetween).1 h.phase
  have hanswerable := answerable_of_isBetween hbetween
  have hhead : c.demand.head? = some (channel, key) := by rw [hdemand, List.head?_cons]
  have hreplaced := h.insertPending (hsole (channel, key) hhead) channel
  refine ⟨h.proxy_eq, hhandled, fun i key' hmem ↦ ?_, fun key' i hlookup ↦ ?_, hreplaced.waiters⟩
  · exact hreplaced.queue i key' (hdemand ▸ List.mem_cons_of_mem _ hmem)
  · simp only [AdsClient.insertPending] at hlookup
    obtain ⟨rfl, rfl⟩ | ⟨-, hold⟩ := Index.lookup_insert_eq_some.1 hlookup
    · exact hreplaced.queue channel key' (hdemand ▸ List.mem_cons_self)
    · obtain ⟨d, hd, hkey, hafter⟩ := hreplaced.pending key' i hold
      exact ⟨d, hd, hkey, hafter.trans_eq hanswerable⟩

theorem message (h : Sound config proxy c) (hidle : c.phase = .idle)
    (res : DeltaDiscoveryResponse) :
    Sound config proxy { c with received := c.received ++ [res], phase := .handling res } := by
  have hbetween : c.phase.isBetween = true := hidle ▸ rfl
  have hphase := (phaseOk_iff hbetween).1 h.phase
  have hanswerable := answerable_of_isBetween hbetween
  refine ⟨?_, ⟨List.getLast?_concat, ?_⟩, fun i key hmem ↦ ?_, fun key i hlookup ↦ ?_,
    fun i d hd ↦ ?_⟩
  · show c.proxy = ((c.received ++ [res]).take c.handled).foldl config.apply proxy
    rw [List.take_append_of_le_length hphase.le]
    exact h.proxy_eq
  · show c.handled + 1 = (c.received ++ [res]).length
    rw [List.length_append, hphase]
    rfl
  · obtain ⟨d, hd, hkey, hafter⟩ := h.queue i key hmem
    refine ⟨d, hd, hkey, hafter.trans ?_⟩
    show c.received.length ≤ (c.received ++ [res]).length
    rw [List.length_append]
    exact Nat.le_add_right _ _
  · obtain ⟨d, hd, hkey, hafter⟩ := h.pending key i hlookup
    refine ⟨d, hd, hkey, hafter.trans (hanswerable.trans_le ?_)⟩
    show c.received.length ≤ (c.received ++ [res]).length - 1
    rw [List.length_append]
    exact Nat.le_refl _
  · exact (h.waiters i d hd).mono (List.prefix_append _ _) le_rfl

theorem handle (h : Sound config proxy c) (hhandling : c.phase = .handling res) :
    Sound config proxy (c.handle config res) := by
  have hphase := h.phase
  rw [PhaseOk, hhandling] at hphase
  obtain ⟨hlast, hlength⟩ := hphase
  have hanswerable := c.answerable_of_not_isBetween (hhandling ▸ rfl)
  have happlied : config.apply c.proxy res =
      (c.received.take (c.handled + 1)).foldl config.apply proxy := by
    rw [List.getLast?_eq_getElem?, ← hlength, Nat.add_sub_cancel] at hlast
    rw [List.take_add_one, hlast, List.foldl_append, ← h.proxy_eq]
    rfl
  have hwaiters : ∀ (i : ℕ) d, c.demands[i]? = some d →
      WaiterOk config c.received (c.handled + 1) d :=
    fun i d hd ↦ (h.waiters i d hd).mono List.prefix_rfl (Nat.le_succ _)
  unfold AdsClient.handle
  unfold Config.apply at happlied
  split
  · next handler hhandler =>
    rw [hhandler] at happlied
    refine ⟨happlied, ⟨hlast, hlength, ?_, List.Subset.refl _, List.Subset.refl _⟩, h.queue,
      fun key i hlookup ↦ ?_, hwaiters⟩
    · rw [hhandler]
      rfl
    · obtain ⟨d, hd, hkey, hafter⟩ := h.pending key i hlookup
      exact ⟨d, hd, hkey, hafter.trans_eq hanswerable⟩
  · next hhandler =>
    rw [hhandler] at happlied
    refine ⟨happlied, hlength, h.queue, fun key i hlookup ↦ ?_, hwaiters⟩
    obtain ⟨d, hd, hkey, hafter⟩ := h.pending key i hlookup
    exact ⟨d, hd, hkey, (hafter.trans_eq hanswerable).trans (Nat.sub_le _ _)⟩

/-- While a message is gone through, it answers the demands for the names it lists. -/
theorem answered_of_notifying (h : Sound config proxy c) {removes resources : List Strng}
    (hphase : c.phase = .notifying removes resources res rejects) {name : Strng}
    (hname : name ∈ removes ∨ name ∈ resources) (d : Demanded) (hkey : d.key = ⟨name, res.typeUrl⟩)
    (hafter : d.after ≤ c.answerable) : Answered config c.received c.handled d := by
  have hok := h.phase
  rw [PhaseOk, hphase] at hok
  obtain ⟨hlast, hhandled, hhandler, hremoves, hresources⟩ := hok
  rw [answerable_of_not_isBetween (hphase ▸ rfl)] at hafter
  rw [List.getLast?_eq_getElem?] at hlast
  have hlt : c.received.length - 1 < c.received.length := (List.getElem?_eq_some_iff.1 hlast).1
  refine ⟨_, res, hafter, hhandled ▸ hlt, hlast, ?_, hhandler⟩
  rw [hkey]
  exact ⟨rfl, hname.imp (fun hmem ↦ hremoves hmem) fun hmem ↦ hresources hmem⟩

theorem remove (h : Sound config proxy c) {name : Strng} {removes resources : List Strng}
    (hphase : c.phase = .notifying (name :: removes) resources res rejects) :
    Sound config proxy
      { (c.removeResource res.typeUrl name).notifyOnDemand ⟨name, res.typeUrl⟩ with
        phase := .notifying removes resources res rejects } := by
  have hok := h.phase
  rw [PhaseOk, hphase] at hok
  obtain ⟨hlast, hhandled, hhandler, hremoves, hresources⟩ := hok
  have hanswerable := c.answerable_of_not_isBetween (hphase ▸ rfl)
  have hremoved : Sound config proxy (c.removeResource res.typeUrl name) :=
    ⟨h.proxy_eq, h.phase, h.queue, h.pending, h.waiters⟩
  have hnotified := hremoved.notifyOnDemand
    (hremoved.answered_of_notifying hphase (.inl List.mem_cons_self))
  exact hnotified.move rfl rfl rfl rfl rfl rfl
    ⟨hlast, hhandled, hhandler, List.subset_of_cons_subset hremoves, hresources⟩ hanswerable.le

theorem add (h : Sound config proxy c) {name : Strng} {resources : List Strng}
    (hphase : c.phase = .notifying [] (name :: resources) res rejects) :
    Sound config proxy
      { (c.notifyOnDemand ⟨name, res.typeUrl⟩).addResource res.typeUrl name with
        phase := .notifying [] resources res rejects } := by
  have hok := h.phase
  rw [PhaseOk, hphase] at hok
  obtain ⟨hlast, hhandled, hhandler, hremoves, hresources⟩ := hok
  have hanswerable := c.answerable_of_not_isBetween (hphase ▸ rfl)
  have hnotified := h.notifyOnDemand (h.answered_of_notifying hphase (.inr List.mem_cons_self))
  exact hnotified.move rfl rfl rfl rfl rfl rfl
    ⟨hlast, hhandled, hhandler, hremoves, List.subset_of_cons_subset hresources⟩ hanswerable.le

theorem acknowledge (h : Sound config proxy c) (hphase : c.phase = .notifying [] [] res rejects)
    (request : DeltaDiscoveryRequest) : Sound config proxy { c with phase := .acking request } := by
  have hok := h.phase
  rw [PhaseOk, hphase] at hok
  have hanswerable := c.answerable_of_not_isBetween (hphase ▸ rfl)
  exact h.move rfl rfl rfl rfl rfl rfl hok.2.1 (hanswerable.trans_le (Nat.sub_le _ _))

/-- Outside of a message the task moves on. -/
theorem moveBetween (h : Sound config proxy c) (hbetween : c.phase.isBetween = true)
    (hbetween' : c'.phase.isBetween = true) (hproxy : c'.proxy = c.proxy)
    (hdemand : c'.demand = c.demand) (hpending : c'.pending = c.pending)
    (hdemands : c'.demands = c.demands) (hreceived : c'.received = c.received)
    (hhandled : c'.handled = c.handled) : Sound config proxy c' := by
  refine h.move hproxy hdemand hpending hdemands hreceived hhandled ?_ ?_
  · rw [phaseOk_iff hbetween', hhandled, hreceived]
    exact (phaseOk_iff hbetween).1 h.phase
  · rw [answerable_of_isBetween hbetween, answerable_of_isBetween hbetween', hreceived]

theorem step (h : Sound config proxy c) {e : ClientEvent} (hsole : c.SoleWaiter e)
    (hstep : c.step config e = some c') : Sound config proxy c' := by
  cases stepped_of_step hstep with
  | demanded key => exact h.demand key
  | completed channel d hd hwaiting hchannel => exact h.complete hd hwaiting hchannel
  | cancelled channel => exact h.cancel channel
  | dequeued channel key demand hphase hdemand => exact h.dequeue hphase hsole hdemand _ _
  | received res hphase => exact h.message hphase res
  | handled res hphase => exact h.handle hphase
  | removed name removes resources res rejects hphase => exact h.remove hphase
  | added name resources res rejects hphase => exact h.add hphase
  | notified res rejects hphase => exact h.acknowledge hphase _
  | acked request hphase =>
    unfold acked
    split <;> exact h.moveBetween (hphase ▸ rfl) rfl rfl rfl rfl rfl rfl rfl
  | started hphase | established initialRequests hphase | refused initialRequests hphase
  | ended hphase | subscribed request hphase =>
    exact h.moveBetween (hphase ▸ rfl) rfl rfl rfl rfl rfl rfl rfl
  | unsent request hphase =>
    have hbetween : c.phase.isBetween = true := by
      rcases hphase with hphase | hphase <;> exact hphase ▸ rfl
    exact h.moveBetween hbetween rfl rfl rfl rfl rfl rfl rfl

end Sound

end AdsClient

/-! ### Runs -/

/-- **Waits are sound.** In every run in which no waiting sender is replaced, a `recv` that returned
has its answer: a message received after the demand lists the key, and the state is the one in which
its handler has applied it. -/
theorem recv_sound_of_sole_waiters (config : Config σ) (proxy : σ) {events : List ClientEvent}
    {final : AdsClient σ}
    (hrun : run (restrict AdsClient.SoleWaiter (AdsClient.step config)) (.new config proxy) events =
      some final) :
    final.proxy = (final.received.take final.handled).foldl config.apply proxy ∧
      ∀ d ∈ final.demands, d.waiter = .completed →
        AdsClient.Answered config final.received final.handled d := by
  have hfinal : final.Sound config proxy := by
    refine run_induction (I := AdsClient.Sound config proxy) hrun ?_ ?_
    · exact ⟨rfl, rfl, (fun _ _ h ↦ nomatch h), (fun _ _ h ↦ nomatch h), fun _ _ h ↦ nomatch h⟩
    · rintro e - c c' hc hstep
      obtain ⟨hsole, hstep⟩ := restrict_eq_some.1 hstep
      exact hc.step hsole hstep
  refine ⟨hfinal.proxy_eq, fun d hd hcompleted ↦ ?_⟩
  obtain ⟨i, hi⟩ := List.mem_iff_getElem?.1 hd
  exact (hfinal.waiters i d hi).completed hcompleted

/-- A proxy with the sandbox manager, whose payloads do not decode. -/
def sandboxConfig : Config ProxyState :=
  proxyStateConfig ⟨fun _ ↦ .ok ⟨trafficPolicyType, []⟩, fun _ ↦ .ok ()⟩
    ⟨fun _ ↦ none, fun _ ↦ none, fun _ ↦ none⟩ false true false

/-- A sandbox is demanded twice. -/
def replacedRun : List ClientEvent :=
  [.start, .connect true, .demand ⟨"box", sandboxType⟩, .demandEvent, .sent true,
    .demand ⟨"box", sandboxType⟩, .demandEvent, .recv 0]

/-- **A second demand completes the first.** No message was received at all. -/
theorem replaced_waiter_completes :
    ∃ final, run (AdsClient.step sandboxConfig) (.new sandboxConfig (.new none)) replacedRun =
        some final ∧
      ∃ d ∈ final.demands, d.waiter = .completed ∧
        ¬ AdsClient.Answered sandboxConfig final.received final.handled d := by
  refine exists_run (fun final ↦ final.handled = 0 ∧ ∃ d ∈ final.demands, d.waiter = .completed)
    (by decide) ?_
  rintro final - ⟨hhandled, d, hd, hcompleted⟩
  refine ⟨d, hd, hcompleted, ?_⟩
  rintro ⟨i, -, -, hi, -⟩
  rw [hhandled] at hi
  exact absurd hi (Nat.not_lt_zero i)

/-- A sandbox is demanded and found removed. -/
def answeredRun : List ClientEvent :=
  [.start, .connect true, .demand ⟨"box", sandboxType⟩, .demandEvent, .sent true,
    .message ⟨sandboxType, [], ["box"], "1"⟩, .handle, .notify, .recv 0, .notify, .sent true]

/-- There the wait ends with its answer. -/
theorem recv_sound_answeredRun :
    ∃ final, run (restrict AdsClient.SoleWaiter (AdsClient.step sandboxConfig))
        (.new sandboxConfig (.new none)) answeredRun = some final ∧
      ∃ d ∈ final.demands, d.waiter = .completed ∧
        AdsClient.Answered sandboxConfig final.received final.handled d := by
  refine exists_run (fun final ↦ ∃ d ∈ final.demands, d.waiter = .completed) (by decide) ?_
  rintro final hfinal ⟨d, hd, hcompleted⟩
  exact ⟨d, hd, hcompleted,
    (recv_sound_of_sole_waiters sandboxConfig (.new none) hfinal).2 d hd hcompleted⟩

end Ztunnel.Xds
