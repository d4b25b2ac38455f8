import Ztunnel.Lib.Index
import Ztunnel.Lib.Transition
import Ztunnel.Proxy.ConnectionManager
import Ztunnel.Xds.Notification

/-!
# Late revocation

Between an update that denies a connection and the signal that ends it there are a notification, a
watcher pass over a snapshot of the keys, and a close per denied key, while connections come and go
under the same keys. The invariant `Watched` says what keeps a denied guard from being lost:

* `attached`: the channel of a connection is the one of the entry of its key, or has fired, or was
  just taken out of the map by `close`, which is about to signal it;
* `covered`: a guard is current (allowed, and evaluated since the last notification), or its channel
  fired, or the watcher still *owes* it a visit: a notification is pending, the pass has not listed
  the connections yet, or has not got to its key.

When the watcher waits and nothing is pending it owes nothing, which leaves the first two.
-/

namespace Ztunnel.Proxy

open Ztunnel.State Ztunnel.Rbac Ztunnel.Xds Transition

/-! ### What a watcher still has to do -/

/-- The connections of the pass that are not dealt with. -/
def WatcherPhase.remaining : WatcherPhase → List ConnectionContext
  | .checking remaining => remaining
  | .closing ctx remaining => ctx :: remaining
  | .signalling _ remaining => remaining
  | .draining _ remaining => remaining
  | _ => []

/-- The channel that was taken out of the map and not yet signalled. -/
def WatcherPhase.taken : WatcherPhase → Option ℕ
  | .signalling channel _ => some channel
  | _ => none

/-- The watcher has yet to visit the connection, or will never again. -/
def PolicyWatcher.Owes (state : ProxyState) (w : PolicyWatcher) (h : Holder) : Prop :=
  w.seen ≠ state.policies.notifier ∨ w.phase = .woken ∨ w.phase = .stopped ∨
    (∃ ctx ∈ w.phase.remaining, ctx.key = h.ctx.key) ∨ w.phase.taken = some h.channel

/-- A watcher exists and has subscribed. -/
def AdmissionPath.Subscribed (p : AdmissionPath) : Prop :=
  ∃ w, p.watcher = some w ∧ w.phase ≠ .unsubscribed

/-- The channel of a connection is the one of its key, or is beyond use. -/
def AdmissionPath.Attached (p : AdmissionPath) (h : Holder) : Prop :=
  h.channel ∈ p.manager.fired ∨ p.manager.channelAt h.ctx.key = some h.channel ∨
    ∃ w, p.watcher = some w ∧ w.phase.taken = some h.channel

/-- Every entry is stored under the key of its context, which is one of the known ones. -/
def ConnectionManager.Stored (known : ConnectionContext → Prop) (cm : ConnectionManager) : Prop :=
  ∀ key ctx drain, cm.drains.lookup key = some (ctx, drain) → ctx.key = key ∧ known ctx

/-- **The invariant of a path**, where every context is one of the known ones. -/
structure Watched (known : ConnectionContext → Prop) (state : ProxyState) (p : AdmissionPath) :
    Prop where
  known_holders : ∀ h ∈ p.holders, known h.ctx
  stored : p.manager.Stored known
  known_remaining : ∀ w, p.watcher = some w → ∀ ctx ∈ w.phase.remaining, known ctx
  seen_le : ∀ w, p.watcher = some w → w.seen ≤ state.policies.notifier
  subscribed : ∀ h ∈ p.holders, h.phase.isGuard = true → p.Subscribed
  attached : ∀ h ∈ p.holders, p.Attached h
  covered : ∀ h ∈ p.holders, h.phase.isGuard = true →
    h.channel ∈ p.manager.fired ∨ h.Current state ∨
      ∃ w, p.watcher = some w ∧ w.Owes state h

/-! ### The manager's operations -/

namespace ConnectionManager

variable {known : ConnectionContext → Prop} {cm : ConnectionManager} {ctx : ConnectionContext}

/-- Channels stay where they are or fire. -/
def Evolves (cm cm' : ConnectionManager) : Prop :=
  cm.fired ⊆ cm'.fired ∧
    ∀ key channel, cm.channelAt key = some channel →
      cm'.channelAt key = some channel ∨ channel ∈ cm'.fired

theorem Evolves.refl (cm : ConnectionManager) : cm.Evolves cm :=
  ⟨Finset.Subset.refl _, fun _ _ h ↦ .inl h⟩

theorem channelAt_eq_some {key : ContextKey} {channel : ℕ} :
    cm.channelAt key = some channel ↔
      ∃ stored drain, cm.drains.lookup key = some (stored, drain) ∧ drain.channel = channel := by
  simp only [channelAt, Option.map_eq_some_iff, Prod.exists]

theorem register_of_some {stored : ConnectionContext} {drain : ConnectionDrain}
    (h : cm.drains.lookup ctx.key = some (stored, drain)) :
    cm.register ctx =
      (drain.channel,
        { cm with
          drains :=
            cm.drains.insert ctx.key (stored, { drain with count := drain.count + 1 }) }) := by
  simp only [register, h]

theorem register_of_none (h : cm.drains.lookup ctx.key = none) :
    cm.register ctx =
      (cm.nextChannel,
        { cm with
          drains := cm.drains.insert ctx.key (ctx, ⟨cm.nextChannel, 1⟩)
          nextChannel := cm.nextChannel + 1 }) := by
  simp only [register, h]

theorem release_cases (cm : ConnectionManager) (ctx : ConnectionContext) :
    (cm.drains.lookup ctx.key = none ∧ cm.release ctx = cm) ∨
    (∃ stored drain, cm.drains.lookup ctx.key = some (stored, drain) ∧ 1 < drain.count ∧
      cm.release ctx =
        { cm with
          drains := cm.drains.insert ctx.key (stored, { drain with count := drain.count - 1 }) }) ∨
    (∃ stored drain, cm.drains.lookup ctx.key = some (stored, drain) ∧ drain.count ≤ 1 ∧
      cm.release ctx =
        { cm with
          drains := cm.drains.erase ctx.key
          fired := insert drain.channel cm.fired }) := by
  rcases hl : cm.drains.lookup ctx.key with - | ⟨stored, drain⟩
  · refine .inl ⟨rfl, ?_⟩
    simp only [release, hl]
  · by_cases hcount : 1 < drain.count
    · refine .inr (.inl ⟨stored, drain, rfl, hcount, ?_⟩)
      simp only [release, hl, if_pos hcount]
    · refine .inr (.inr ⟨stored, drain, rfl, by omega, ?_⟩)
      simp only [release, hl, if_neg hcount]

theorem channelAt_insert (cm : ConnectionManager) (key key' : ContextKey)
    (entry : ConnectionContext × ConnectionDrain) (next : ℕ) :
    channelAt { cm with drains := cm.drains.insert key entry, nextChannel := next } key' =
      if key' = key then some entry.2.channel else cm.channelAt key' := by
  by_cases hkey : key' = key
  · subst hkey
    simp only [channelAt, AList.lookup_insert, Option.map_some, if_true]
  · simp only [channelAt, AList.lookup_insert_ne hkey, if_neg hkey]

/-- An entry that is written again with its channel. -/
theorem evolves_insert {key : ContextKey} {entry : ConnectionContext × ConnectionDrain}
    (next : ℕ) (h : ∀ channel, cm.channelAt key = some channel → entry.2.channel = channel) :
    cm.Evolves { cm with drains := cm.drains.insert key entry, nextChannel := next } := by
  refine ⟨Finset.Subset.refl _, fun key' channel hchannel ↦ .inl ?_⟩
  rw [channelAt_insert]
  split
  · next hkey => rw [h channel (hkey ▸ hchannel)]
  · exact hchannel

theorem evolves_register (cm : ConnectionManager) (ctx : ConnectionContext) :
    cm.Evolves (cm.register ctx).2 := by
  rcases hl : cm.drains.lookup ctx.key with - | ⟨stored, drain⟩
  · rw [register_of_none hl]
    refine evolves_insert _ fun channel hchannel ↦ ?_
    simp only [channelAt, hl, Option.map_none, reduceCtorEq] at hchannel
  · rw [register_of_some hl]
    refine evolves_insert _ fun channel hchannel ↦ ?_
    simpa only [channelAt, hl, Option.map_some, Option.some.injEq] using hchannel

theorem evolves_release (cm : ConnectionManager) (ctx : ConnectionContext) :
    cm.Evolves (cm.release ctx) := by
  obtain ⟨-, hrel⟩ | ⟨stored, drain, hl, -, hrel⟩ | ⟨stored, drain, hl, -, hrel⟩ :=
    cm.release_cases ctx
  · rw [hrel]
    exact .refl cm
  · rw [hrel]
    refine evolves_insert _ fun channel hchannel ↦ ?_
    simpa only [channelAt, hl, Option.map_some, Option.some.injEq] using hchannel
  · rw [hrel]
    refine ⟨Finset.subset_insert _ _, fun key channel hchannel ↦ ?_⟩
    by_cases hkey : key = ctx.key
    · -- the dropped entry: its channel fires
      rw [hkey] at hchannel
      simp only [channelAt, hl, Option.map_some, Option.some.injEq] at hchannel
      exact .inr (hchannel ▸ Finset.mem_insert_self _ _)
    · left
      simpa only [channelAt, AList.lookup_erase_ne hkey] using hchannel

/-- A registered connection has the channel of its key. -/
theorem channelAt_register (cm : ConnectionManager) (ctx : ConnectionContext) :
    (cm.register ctx).2.channelAt ctx.key = some (cm.register ctx).1 := by
  rcases hl : cm.drains.lookup ctx.key with - | ⟨stored, drain⟩
  · rw [register_of_none hl, channelAt_insert, if_pos rfl]
  · rw [register_of_some hl, channelAt_insert, if_pos rfl]

theorem Stored.insert (hstored : cm.Stored known) {key : ContextKey} {stored : ConnectionContext}
    {drain : ConnectionDrain} (next : ℕ) (hkey : stored.key = key) (hknown : known stored) :
    Stored known
      { cm with drains := cm.drains.insert key (stored, drain), nextChannel := next } := by
  intro key' ctx' drain' hlookup
  obtain ⟨rfl, heq⟩ | ⟨-, hold⟩ := Index.lookup_insert_eq_some.1 hlookup
  · obtain ⟨rfl, -⟩ := Prod.mk.inj heq
    exact ⟨hkey, hknown⟩
  · exact hstored key' ctx' drain' hold

theorem Stored.erase (hstored : cm.Stored known) (key : ContextKey) (fired : Finset ℕ) :
    Stored known { cm with drains := cm.drains.erase key, fired := fired } := by
  intro key' ctx' drain' hlookup
  exact hstored key' ctx' drain' (Index.lookup_erase_eq_some.1 hlookup).2

theorem Stored.register (hstored : cm.Stored known) (hknown : known ctx) :
    Stored known (cm.register ctx).2 := by
  rcases hl : cm.drains.lookup ctx.key with - | ⟨stored, drain⟩
  · rw [register_of_none hl]
    exact hstored.insert _ rfl hknown
  · rw [register_of_some hl]
    obtain ⟨hkey, hstoredKnown⟩ := hstored _ _ _ hl
    exact hstored.insert _ hkey hstoredKnown

theorem Stored.release (hstored : cm.Stored known) (ctx : ConnectionContext) :
    Stored known (cm.release ctx) := by
  obtain ⟨-, hrel⟩ | ⟨stored, drain, hl, -, hrel⟩ | ⟨stored, drain, hl, -, hrel⟩ :=
    cm.release_cases ctx
  · rw [hrel]
    exact hstored
  · rw [hrel]
    obtain ⟨hkey, hstoredKnown⟩ := hstored _ _ _ hl
    exact hstored.insert _ hkey hstoredKnown
  · rw [hrel]
    exact hstored.erase _ _

theorem Stored.known_of_mem (hstored : cm.Stored known) {order : List ContextKey}
    (hctx : ctx ∈ cm.connections order) : known ctx := by
  obtain ⟨key, -, hentry⟩ := List.mem_filterMap.1 hctx
  obtain ⟨⟨stored, drain⟩, hl, rfl⟩ := Option.map_eq_some_iff.1 hentry
  exact (hstored key _ _ hl).2

/-- Every key of the map is among the listed connections. -/
theorem Stored.exists_mem_connections (hstored : cm.Stored known) {order : List ContextKey}
    (horder : order.Perm cm.drains.keys) {key : ContextKey} {channel : ℕ}
    (hchannel : cm.channelAt key = some channel) :
    ∃ ctx ∈ cm.connections order, ctx.key = key := by
  obtain ⟨stored, drain, hl, -⟩ := channelAt_eq_some.1 hchannel
  have hkey : key ∈ cm.drains := AList.lookup_isSome.1 (by rw [hl, Option.isSome_some])
  have hmem : key ∈ order := horder.mem_iff.2 (AList.mem_keys.1 hkey)
  refine ⟨stored, List.mem_filterMap.2 ⟨key, hmem, ?_⟩, (hstored key _ _ hl).1⟩
  rw [hl, Option.map_some]

end ConnectionManager

/-! ### Connections come and go -/

namespace Watched

variable {known : ConnectionContext → Prop} {state : ProxyState} {p : AdmissionPath}
  {w w' : PolicyWatcher} {ctx : ConnectionContext} {remaining : List ConnectionContext}
  {channel : ℕ}

/-- What is attached stays attached while the manager evolves under the same watcher. -/
theorem attached_of_evolves {p' : AdmissionPath} {h : Holder} (hattached : p.Attached h)
    (hman : p.manager.Evolves p'.manager) (hwatcher : p'.watcher = p.watcher) : p'.Attached h := by
  obtain hfired | hchannel | htaken := hattached
  · exact .inl (hman.1 hfired)
  · exact (hman.2 _ _ hchannel).elim (fun h' ↦ .inr (.inl h')) .inl
  · exact .inr (.inr (hwatcher ▸ htaken))

theorem register (hp : Watched known state p) {ctx : ConnectionContext} (hctx : known ctx) :
    Watched known state (p.register state ctx) where
  known_holders h hh := by
    obtain rfl | hh := List.mem_cons.1 hh
    · exact hctx
    · exact hp.known_holders h hh
  stored := hp.stored.register hctx
  known_remaining := hp.known_remaining
  seen_le := hp.seen_le
  subscribed h hh hguard := by
    obtain rfl | hh := List.mem_cons.1 hh
    · cases hguard
    · exact hp.subscribed h hh hguard
  attached h hh := by
    obtain rfl | hh := List.mem_cons.1 hh
    · exact .inr (.inl (p.manager.channelAt_register ctx))
    · exact attached_of_evolves (hp.attached h hh) (p.manager.evolves_register ctx) rfl
  covered h hh hguard := by
    obtain rfl | hh := List.mem_cons.1 hh
    · cases hguard
    · obtain hfired | hrest := hp.covered h hh hguard
      · exact .inl ((p.manager.evolves_register ctx).1 hfired)
      · exact .inr hrest

theorem forget (hp : Watched known state p) (h : Holder) : Watched known state (p.forget h) where
  known_holders h' hh' := hp.known_holders h' (List.mem_of_mem_erase hh')
  stored := hp.stored
  known_remaining := hp.known_remaining
  seen_le := hp.seen_le
  subscribed h' hh' := hp.subscribed h' (List.mem_of_mem_erase hh')
  attached h' hh' := hp.attached h' (List.mem_of_mem_erase hh')
  covered h' hh' := hp.covered h' (List.mem_of_mem_erase hh')

/-- A key is released, by whichever connection. -/
theorem releaseKey (hp : Watched known state p) (h : Holder) :
    Watched known state (p.releaseKey h) where
  known_holders := hp.known_holders
  stored := hp.stored.release h.ctx
  known_remaining := hp.known_remaining
  seen_le := hp.seen_le
  subscribed := hp.subscribed
  attached h' hh' :=
    attached_of_evolves (hp.attached h' hh') (p.manager.evolves_release h.ctx) rfl
  covered h' hh' hguard :=
    (hp.covered h' hh' hguard).imp_left fun hfired ↦ (p.manager.evolves_release h.ctx).1 hfired

/-- A connection goes on: a new guard is current and under a subscribed watcher. -/
theorem replace (hp : Watched known state p) {h h' : Holder} (hmem : h ∈ p.holders)
    (hctx : h'.ctx = h.ctx) (hchannel : h'.channel = h.channel)
    (hguard : h'.phase.isGuard = true →
      (h.phase.isGuard = true ∧ h'.evaluated = h.evaluated) ∨
        (h'.Current state ∧ p.Subscribed)) :
    Watched known state (p.replace h h') := by
  have hrest : ∀ g ∈ (p.replace h h').holders, g = h' ∨ g ∈ p.holders := fun g hg ↦
    (List.mem_cons.1 hg).imp_right List.mem_of_mem_erase
  refine ⟨fun g hg ↦ ?_, hp.stored, hp.known_remaining, hp.seen_le, fun g hg hgg ↦ ?_,
    fun g hg ↦ ?_, fun g hg hgg ↦ ?_⟩
  · obtain rfl | hg := hrest g hg
    · exact hctx ▸ hp.known_holders h hmem
    · exact hp.known_holders g hg
  · obtain rfl | hg := hrest g hg
    · exact (hguard hgg).elim (fun hold ↦ hp.subscribed h hmem hold.1) And.right
    · exact hp.subscribed g hg hgg
  · obtain rfl | hg := hrest g hg
    · have hold := hp.attached h hmem
      rw [AdmissionPath.Attached, ← hctx, ← hchannel] at hold
      exact hold
    · exact hp.attached g hg
  · obtain rfl | hg := hrest g hg
    · obtain ⟨hold, hevaluated⟩ | ⟨hcurrent, -⟩ := hguard hgg
      · have hcovered := hp.covered h hmem hold
        simp only [Holder.Current, PolicyWatcher.Owes, ← hctx, ← hchannel, ← hevaluated]
          at hcovered
        exact hcovered
      · exact .inr (.inl hcurrent)
    · exact hp.covered g hg hgg

/-! ### The watcher works -/

/-- The watcher goes on: it may forget a taken channel that fired, and what it owed to a guard only
if the guard is current. -/
theorem setWatcher (hp : Watched known state p) (hw : p.watcher = some w)
    (hsubscribed : w'.phase ≠ .unsubscribed) (hseen : w'.seen ≤ state.policies.notifier)
    (hknown : ∀ ctx ∈ w'.phase.remaining, known ctx)
    (htaken : ∀ channel, w.phase.taken = some channel →
      channel ∈ p.manager.fired ∨ w'.phase.taken = some channel)
    (howes : ∀ h ∈ p.holders, h.phase.isGuard = true → h.channel ∉ p.manager.fired →
      w.Owes state h → h.Current state ∨ w'.Owes state h) :
    Watched known state { p with watcher := some w' } where
  known_holders := hp.known_holders
  stored := hp.stored
  known_remaining v hv := Option.some.inj hv ▸ hknown
  seen_le v hv := Option.some.inj hv ▸ hseen
  subscribed h hh hguard := ⟨w', rfl, hsubscribed⟩
  attached h hh := by
    obtain hfired | hchannel | ⟨v, hv, hvtaken⟩ := hp.attached h hh
    · exact .inl hfired
    · exact .inr (.inl hchannel)
    · obtain rfl : w = v := Option.some.inj (hw ▸ hv)
      exact (htaken _ hvtaken).imp id fun h' ↦ .inr ⟨w', rfl, h'⟩
  covered h hh hguard := by
    by_cases hfired : h.channel ∈ p.manager.fired
    · exact .inl hfired
    obtain hfired' | hcurrent | ⟨v, hv, hvowes⟩ := hp.covered h hh hguard
    · exact absurd hfired' hfired
    · exact .inr (.inl hcurrent)
    · obtain rfl : w = v := Option.some.inj (hw ▸ hv)
      exact .inr ((howes h hh hguard hfired hvowes).imp id fun h' ↦ ⟨w', rfl, h'⟩)

/-- While the watcher holds no channel, a connection is attached through the map. -/
theorem fired_or_channelAt (hp : Watched known state p) (hw : p.watcher = some w)
    (htaken : w.phase.taken = none) {h : Holder} (hh : h ∈ p.holders) :
    h.channel ∈ p.manager.fired ∨ p.manager.channelAt h.ctx.key = some h.channel := by
  refine (hp.attached h hh).imp id fun hattached ↦ hattached.resolve_right ?_
  rintro ⟨v, hv, hvtaken⟩
  obtain rfl : w = v := Option.some.inj (hw ▸ hv)
  cases htaken.symm.trans hvtaken

/-- In the middle of a pass, what is owed comes of an update, of a key that is left or of the
channel that is held. -/
theorem owes_cases {h : Holder} (howes : w.Owes state h) (hwoken : w.phase ≠ .woken)
    (hstopped : w.phase ≠ .stopped) : w.seen ≠ state.policies.notifier ∨
      (∃ c ∈ w.phase.remaining, c.key = h.ctx.key) ∨ w.phase.taken = some h.channel :=
  howes.imp id fun hrest ↦ (hrest.resolve_left hwoken).resolve_left hstopped

/-- What is owed under another key than the one at hand is still owed when that one is left. -/
theorem owes_rest {h : Holder} (howes : w.Owes state h)
    (hphase : w.phase = .checking (ctx :: remaining) ∨ w.phase = .closing ctx remaining)
    (hkey : ctx.key ≠ h.ctx.key) :
    w.seen ≠ state.policies.notifier ∨ ∃ c ∈ remaining, c.key = h.ctx.key := by
  have hall : w.phase.remaining = ctx :: remaining := by
    obtain hphase | hphase := hphase <;> rw [hphase] <;> rfl
  obtain hseen | ⟨c, hc, hckey⟩ | htaken :=
    owes_cases howes (by rintro h; simp [h] at hphase) (by rintro h; simp [h] at hphase)
  · exact .inl hseen
  · rw [hall] at hc
    exact .inr ⟨c, (List.mem_cons.1 hc).resolve_left fun heq ↦ hkey (heq ▸ hckey), hckey⟩
  · obtain hphase | hphase := hphase <;> rw [hphase] at htaken <;> cases htaken

/-- `connections` lists every key that a guard without a fired channel can have. -/
theorem snapshot (hp : Watched known state p) (hw : p.watcher = some w) (hphase : w.phase = .woken)
    {order : List ContextKey} (horder : order.Perm p.manager.drains.keys) :
    Watched known state (p.moveTo w (.checking (p.manager.connections order))) := by
  have htaken : w.phase.taken = none := by rw [hphase]; rfl
  refine hp.setWatcher hw (by simp) (hp.seen_le w hw)
    (fun ctx hctx ↦ hp.stored.known_of_mem hctx) (fun channel h ↦ ?_) fun h hh _ hfired _ ↦ ?_
  · rw [htaken] at h
    cases h
  · have hchannel := (hp.fired_or_channelAt hw htaken hh).resolve_left hfired
    have hlisted := hp.stored.exists_mem_connections horder hchannel
    exact .inr (.inr (.inr (.inr (.inl hlisted))))

/-- An evaluation is noted with the connections of its key. -/
theorem noteEvaluation (hp : Watched known state p) (ctx : ConnectionContext) :
    Watched known state { p with holders := p.holders.map (Holder.noteEvaluation state ctx) } := by
  have hfields : ∀ h : Holder, (h.noteEvaluation state ctx).ctx = h.ctx ∧
      (h.noteEvaluation state ctx).channel = h.channel ∧
      (h.noteEvaluation state ctx).phase = h.phase ∧
      (h.Current state → (h.noteEvaluation state ctx).Current state) := by
    intro h
    unfold Holder.noteEvaluation
    split
    · exact ⟨rfl, rfl, rfl, fun hcurrent ↦ ⟨hcurrent.1, rfl⟩⟩
    · exact ⟨rfl, rfl, rfl, id⟩
  have hold : ∀ g ∈ p.holders.map (Holder.noteEvaluation state ctx), ∃ h ∈ p.holders,
      g.ctx = h.ctx ∧ g.channel = h.channel ∧ g.phase = h.phase ∧
      (h.Current state → g.Current state) := by
    intro g hg
    obtain ⟨h, hh, rfl⟩ := List.mem_map.1 hg
    exact ⟨h, hh, hfields h⟩
  refine ⟨fun g hg ↦ ?_, hp.stored, hp.known_remaining, hp.seen_le, fun g hg hguard ↦ ?_,
    fun g hg ↦ ?_, fun g hg hguard ↦ ?_⟩ <;>
    obtain ⟨h, hh, hctx, hchannel, hphase, hcurrent⟩ := hold g hg
  · exact hctx ▸ hp.known_holders h hh
  · exact hp.subscribed h hh (hphase ▸ hguard)
  · have hattached := hp.attached h hh
    simp only [AdmissionPath.Attached, ← hctx, ← hchannel] at hattached
    exact hattached
  · have hcovered := hp.covered h hh (hphase ▸ hguard)
    simp only [PolicyWatcher.Owes, ← hctx, ← hchannel] at hcovered
    exact hcovered.imp id (Or.imp hcurrent id)

/-- The check of the next connection decides for all connections of its key. -/
theorem evaluate (hp : Watched known state p) (hw : p.watcher = some w)
    (huid : ∀ c₁ c₂, known c₁ → known c₂ → c₁.key = c₂.key →
      c₁.rbacCtx.workload.uid = c₂.rbacCtx.workload.uid)
    {ctx : ConnectionContext} {remaining : List ConnectionContext}
    (hphase : w.phase = .checking (ctx :: remaining)) :
    Watched known state
      { p with
        holders := p.holders.map (Holder.noteEvaluation state ctx)
        watcher := some
          { w with
            phase := if ctx.allowed state then .checking remaining
              else .closing ctx remaining } } := by
  have hremaining := hp.known_remaining w hw
  rw [hphase] at hremaining
  have hctx : known ctx := hremaining ctx List.mem_cons_self
  refine (hp.noteEvaluation ctx).setWatcher hw ?_ (hp.seen_le w hw) (fun c hc ↦ ?_)
    (fun channel h ↦ ?_) fun g hg _ _ howes ↦ ?_
  · split <;> simp
  · split at hc
    · exact hremaining c (List.mem_cons_of_mem _ hc)
    · exact hremaining c hc
  · rw [hphase] at h
    cases h
  · by_cases hallowed : ctx.allowed state = true
    · simp only [if_pos hallowed]
      by_cases hkey : ctx.key = g.ctx.key
      · -- the connections of the evaluated key are allowed with it
        obtain ⟨h, hh, rfl⟩ := List.mem_map.1 hg
        left
        unfold Holder.noteEvaluation at hkey ⊢
        split at hkey
        · next heq =>
          rw [if_pos heq]
          have hsame : h.ctx.allowed state = ctx.allowed state :=
            ConnectionContext.allowed_eq heq (huid _ _ (hp.known_holders h hh) hctx heq) state
          exact ⟨hsame.trans hallowed, rfl⟩
        · next hne => exact absurd hkey.symm hne
      · exact .inr ((owes_rest howes (.inl hphase) hkey).imp id fun h ↦ .inr (.inr (.inl h)))
    · simp only [if_neg hallowed, PolicyWatcher.Owes, hphase] at howes ⊢
      refine .inr (howes.imp id (Or.imp ?_ (Or.imp ?_ (Or.imp id ?_)))) <;> intro h <;> cases h

/-- `close` of a key without an entry: its guards have fired channels. -/
theorem closeMissing (hp : Watched known state p) (hw : p.watcher = some w)
    (hphase : w.phase = .closing ctx remaining) (hnone : p.manager.channelAt ctx.key = none) :
    Watched known state (p.moveTo w (.checking remaining)) := by
  have hremaining := hp.known_remaining w hw
  rw [hphase] at hremaining
  refine hp.setWatcher hw (by simp) (hp.seen_le w hw)
    (fun c hc ↦ hremaining c (List.mem_cons_of_mem _ hc)) (fun channel h ↦ ?_)
    fun h hh _ hfired howes ↦ .inr ?_
  · rw [hphase] at h
    cases h
  refine (owes_rest howes (.inr hphase) fun hkey ↦ ?_).imp id fun h ↦ .inr (.inr (.inl h))
  have hchannel := (hp.fired_or_channelAt hw (by rw [hphase]; rfl) hh).resolve_left hfired
  rw [← hkey, hnone] at hchannel
  cases hchannel

/-- `close` takes the entry: the watcher now owes the signal to its connections. -/
theorem take (hp : Watched known state p) (hw : p.watcher = some w)
    (hphase : w.phase = .closing ctx remaining)
    (hchannel : p.manager.channelAt ctx.key = some channel) :
    Watched known state
      ({ p with manager := p.manager.take ctx }.moveTo w (.signalling channel remaining)) := by
  have hremaining := hp.known_remaining w hw
  rw [hphase] at hremaining
  -- a connection that was attached through the map is attached through the map or the watcher
  have hattached : ∀ h ∈ p.holders, h.channel ∈ p.manager.fired ∨
      ((p.manager.take ctx).channelAt h.ctx.key = some h.channel ∧ ctx.key ≠ h.ctx.key) ∨
        channel = h.channel := by
    intro h hh
    refine (hp.fired_or_channelAt hw (by rw [hphase]; rfl) hh).imp id fun hmap ↦ ?_
    by_cases hkey : ctx.key = h.ctx.key
    · rw [← hkey, hchannel] at hmap
      exact .inr (Option.some.inj hmap)
    · refine .inl ⟨?_, hkey⟩
      rw [ConnectionManager.channelAt, ConnectionManager.take,
        AList.lookup_erase_ne (Ne.symm hkey)]
      exact hmap
  refine ⟨hp.known_holders, hp.stored.erase _ _, fun v hv ↦ ?_, fun v hv ↦ ?_,
    fun h hh hguard ↦ ⟨_, rfl, by simp⟩, fun h hh ↦ ?_, fun h hh hguard ↦ ?_⟩
  · obtain rfl := Option.some.inj hv
    exact fun c hc ↦ hremaining c (List.mem_cons_of_mem _ hc)
  · obtain rfl := Option.some.inj hv
    exact hp.seen_le w hw
  · obtain hfired | ⟨hmap, -⟩ | hsame := hattached h hh
    · exact .inl hfired
    · exact .inr (.inl hmap)
    · exact .inr (.inr ⟨_, rfl, congrArg some hsame⟩)
  · obtain hfired | hcurrent | ⟨v, hv, howes⟩ := hp.covered h hh hguard
    · exact .inl hfired
    · exact .inr (.inl hcurrent)
    · obtain rfl : w = v := Option.some.inj (hw ▸ hv)
      obtain hfired | ⟨-, hkey⟩ | hsame := hattached h hh
      · exact .inl hfired
      · have hrest := owes_rest howes (.inr hphase) hkey
        exact .inr (.inr ⟨_, rfl, hrest.imp id fun h ↦ .inr (.inr (.inl h))⟩)
      · exact .inr (.inr ⟨_, rfl, .inr (.inr (.inr (.inr (congrArg some hsame))))⟩)

theorem signal (hp : Watched known state p) (hw : p.watcher = some w)
    (hphase : w.phase = .signalling channel remaining) :
    Watched known state
      ({ p with manager := p.manager.signal channel }.moveTo w (.draining channel remaining)) := by
  have hevolves : p.manager.Evolves (p.manager.signal channel) :=
    ⟨Finset.subset_insert _ _, fun _ _ h ↦ .inl h⟩
  have hfire : Watched known state { p with manager := p.manager.signal channel } :=
    { hp with
      stored := hp.stored
      attached := fun h hh ↦ attached_of_evolves (hp.attached h hh) hevolves rfl
      covered := fun h hh hguard ↦ (hp.covered h hh hguard).imp_left fun hf ↦ hevolves.1 hf }
  have hremaining := hp.known_remaining w hw
  rw [hphase] at hremaining
  have hnow : channel ∈ (p.manager.signal channel).fired := Finset.mem_insert_self _ _
  refine hfire.setWatcher hw (by simp) (hp.seen_le w hw) hremaining (fun c hc ↦ .inl ?_)
    fun h hh _ hfired howes ↦ .inr ?_
  · rw [hphase] at hc
    exact Option.some.inj hc ▸ hnow
  · have hcases := owes_cases howes (by simp [hphase]) (by simp [hphase])
    rw [hphase] at hcases
    obtain hseen | hrest | htaken := hcases
    · exact .inl hseen
    · exact .inr (.inr (.inr (.inl hrest)))
    · exact absurd (Option.some.inj htaken ▸ hnow) hfired

/-- A pass that has nothing left, or is done waiting for a channel. -/
theorem proceed (hp : Watched known state p) (hw : p.watcher = some w) {phase : WatcherPhase}
    (hsubscribed : phase ≠ .unsubscribed) (hremaining : phase.remaining = w.phase.remaining)
    (htaken : w.phase.taken = none) (hwoken : w.phase ≠ .woken) (hstopped : w.phase ≠ .stopped) :
    Watched known state (p.moveTo w phase) := by
  refine hp.setWatcher hw hsubscribed (hp.seen_le w hw) (hremaining ▸ hp.known_remaining w hw)
    (fun channel h ↦ ?_) fun h hh _ _ howes ↦ .inr ?_
  · rw [htaken] at h
    cases h
  · obtain hseen | hrest | h := owes_cases howes hwoken hstopped
    · exact .inl hseen
    · exact .inr (.inr (.inr (.inl (by rwa [hremaining]))))
    · rw [htaken] at h
      cases h

end Watched

/-! ### Every step keeps the invariant -/

/-- The check returns a guard exactly when the state allows the context. -/
theorem Holder.isGuard_check (state : ProxyState) (h : Holder) :
    (h.check state).phase.isGuard = h.ctx.allowed state := by
  show HolderPhase.isGuard (if h.ctx.allowed state = true then .guarded else .denied) = _
  cases h.ctx.allowed state <;> rfl

namespace Watched

variable {known : ConnectionContext → Prop} {state : ProxyState} {p p' : AdmissionPath}
  {w : PolicyWatcher}

theorem advance (hp : Watched known state p) (hw : p.watcher = some w)
    (huid : ∀ c₁ c₂, known c₁ → known c₂ → c₁.key = c₂.key →
      c₁.rbacCtx.workload.uid = c₂.rbacCtx.workload.uid)
    (h : p.advance state w = some p') : Watched known state p' := by
  unfold AdmissionPath.advance at h
  split at h
  · next hphase =>
    obtain rfl := Option.some.inj h
    exact hp.proceed hw (by simp) (by rw [hphase]; rfl) (by rw [hphase]; rfl) (by simp [hphase])
      (by simp [hphase])
  · next hphase =>
    obtain rfl := Option.some.inj h
    exact hp.evaluate hw huid hphase
  · next hphase =>
    split at h
    · next hchannel =>
      obtain rfl := Option.some.inj h
      exact hp.take hw hphase hchannel
    · next hnone =>
      obtain rfl := Option.some.inj h
      exact hp.closeMissing hw hphase hnone
  · next hphase =>
    obtain rfl := Option.some.inj h
    exact hp.signal hw hphase
  · next hphase =>
    obtain ⟨-, rfl⟩ := Option.ite_some_none_eq_some.1 h
    exact hp.proceed hw (by simp) (by rw [hphase]; rfl) (by rw [hphase]; rfl) (by simp [hphase])
      (by simp [hphase])
  · cases h

theorem watcherStep (hp : Watched known state p) (hw : p.watcher = some w)
    (huid : ∀ c₁ c₂, known c₁ → known c₂ → c₁.key = c₂.key →
      c₁.rbacCtx.workload.uid = c₂.rbacCtx.workload.uid)
    {e : PathEvent} (h : p.watcherStep state w e = some p') : Watched known state p' := by
  cases e <;> try cases h
  case subscribe =>
    obtain ⟨hphase, rfl⟩ := Option.ite_some_none_eq_some.1 h
    -- nobody was admitted before the subscription
    refine hp.setWatcher hw (by simp) le_rfl (by simp [WatcherPhase.remaining])
      (fun channel htaken ↦ ?_) fun g hg hguard _ _ ↦ ?_
    · rw [hphase] at htaken
      cases htaken
    · obtain ⟨v, hv, hsubscribed⟩ := hp.subscribed g hg hguard
      obtain rfl : w = v := Option.some.inj (hw ▸ hv)
      exact absurd hphase hsubscribed
  case stop =>
    obtain ⟨hphase, rfl⟩ := Option.ite_some_none_eq_some.1 h
    refine hp.setWatcher hw (by simp) (hp.seen_le w hw) (by simp [WatcherPhase.remaining])
      (fun channel htaken ↦ ?_) fun g _ _ _ _ ↦ .inr (.inr (.inr (.inl rfl)))
    rw [hphase] at htaken
    cases htaken
  case wake =>
    obtain ⟨⟨hphase, -⟩, rfl⟩ := Option.ite_some_none_eq_some.1 h
    refine hp.setWatcher hw (by simp) le_rfl (by simp [WatcherPhase.remaining])
      (fun channel htaken ↦ ?_) fun g _ _ _ _ ↦ .inr (.inr (.inl rfl))
    rw [hphase] at htaken
    cases htaken
  case snapshot order =>
    obtain ⟨⟨hphase, horder⟩, rfl⟩ := Option.ite_some_none_eq_some.1 h
    exact hp.snapshot hw hphase horder
  case advance => exact hp.advance hw huid h

/-- **A step of the path keeps the invariant**, if contexts that register are known and checks are
made under a subscribed watcher. -/
theorem step (hp : Watched known state p)
    (huid : ∀ c₁ c₂, known c₁ → known c₂ → c₁.key = c₂.key →
      c₁.rbacCtx.workload.uid = c₂.rbacCtx.workload.uid)
    {e : PathEvent} (hregister : ∀ ctx, e = .register ctx → known ctx)
    (hcheck : ∀ h, e = .check h → p.Subscribed) (h : p.step state e = some p') :
    Watched known state p' := by
  -- the events of the watcher
  have hwatcher : (p.watcher.bind fun w ↦ p.watcherStep state w e) = some p' →
      Watched known state p' := by
    intro hstep
    obtain ⟨w, hw, hstep⟩ := Option.bind_eq_some_iff.1 hstep
    exact hp.watcherStep hw huid hstep
  cases e with
  | register ctx =>
    obtain rfl := Option.some.inj h
    exact hp.register (hregister ctx rfl)
  | check g =>
    obtain ⟨⟨hmem, hphase⟩, rfl⟩ := Option.ite_some_none_eq_some.1 h
    refine hp.replace hmem rfl rfl fun hguard ↦ .inr ⟨⟨?_, rfl⟩, hcheck g rfl⟩
    rwa [Holder.isGuard_check] at hguard
  | reject g =>
    obtain ⟨⟨hmem, hphase⟩, rfl⟩ := Option.ite_some_none_eq_some.1 h
    exact (hp.forget g).releaseKey g
  | watcher g | complete g =>
    obtain ⟨⟨hmem, hphase⟩, rfl⟩ := Option.ite_some_none_eq_some.1 h
    exact hp.replace hmem rfl rfl fun _ ↦ .inl ⟨by rw [hphase]; rfl, rfl⟩
  | release g =>
    obtain ⟨hmem, h⟩ := Option.ite_none_right_eq_some.1 h
    unfold AdmissionPath.release at h
    split at h
    · next hphase =>
      obtain rfl := Option.some.inj h
      have hreleasing : Watched known state (p.replace g { g with phase := .releasing }) :=
        hp.replace hmem rfl rfl fun _ ↦ .inl ⟨by rw [hphase]; rfl, rfl⟩
      exact hreleasing.releaseKey g
    · obtain rfl := Option.some.inj h
      exact (hp.forget g).releaseKey g
    · cases h
  | drop g =>
    obtain ⟨hmem, h⟩ := Option.ite_none_right_eq_some.1 h
    unfold AdmissionPath.drop at h
    split at h
    · obtain rfl := Option.some.inj h
      exact (hp.forget g).releaseKey g
    · obtain rfl := Option.some.inj h
      exact (hp.forget g).releaseKey g
    · obtain rfl := Option.some.inj h
      exact hp.forget g
    · cases h
  | subscribe | stop | wake | snapshot | advance => exact hwatcher h

theorem update (hp : Watched known state p) {state' : ProxyState}
    (hle : state.policies.notifier ≤ state'.policies.notifier)
    (hannounced : ∀ ctx, allows state' ctx ≠ allows state ctx →
      state.policies.notifier < state'.policies.notifier) :
    Watched known state' (p.noteUpdate state') := by
  refine ⟨fun g hg ↦ ?_, hp.stored, hp.known_remaining, fun w hw ↦ (hp.seen_le w hw).trans hle,
    fun g hg hguard ↦ ?_, fun g hg ↦ ?_, fun g hg hguard ↦ ?_⟩ <;>
    obtain ⟨h, hh, rfl⟩ := List.mem_map.1 hg
  · exact hp.known_holders h hh
  · exact hp.subscribed h hh hguard
  · exact hp.attached h hh
  · obtain ⟨v, hv, -⟩ := hp.subscribed h hh hguard
    -- after a notification the watcher owes a visit to everyone
    obtain hlt | heq := Nat.lt_or_eq_of_le hle
    · exact .inr (.inr ⟨v, hv, .inl (Nat.ne_of_lt ((hp.seen_le v hv).trans_lt hlt))⟩)
    · refine (hp.covered h hh hguard).imp id (Or.imp (fun hcurrent ↦ ?_) fun ⟨w, hw, howes⟩ ↦ ?_)
      · refine ⟨?_, hcurrent.2.trans heq⟩
        have hsame : allows state' h.ctx.rbacCtx = allows state h.ctx.rbacCtx := by
          by_contra hne
          exact absurd (hannounced _ hne) (by omega)
        exact hsame.trans hcurrent.1
      · refine ⟨w, hw, ?_⟩
        rw [PolicyWatcher.Owes, ← heq]
        exact howes

theorem new (known : ConnectionContext → Prop) {watcher : Option PolicyWatcher}
    (hseen : ∀ v, watcher = some v → v.seen ≤ state.policies.notifier)
    (hremaining : ∀ v, watcher = some v → v.phase.remaining = []) :
    Watched known state (.new watcher) where
  known_holders _ hh := absurd hh List.not_mem_nil
  stored _ _ _ hlookup := by cases hlookup
  known_remaining v hv ctx hctx := by
    rw [hremaining v hv] at hctx
    exact absurd hctx List.not_mem_nil
  seen_le := hseen
  subscribed _ hh := absurd hh List.not_mem_nil
  attached _ hh := absurd hh List.not_mem_nil
  covered _ hh := absurd hh List.not_mem_nil

/-- When the watcher waits and nothing is pending, a guard is current or its channel fired. -/
theorem current_of_waiting (hp : Watched known state p)
    (hwatcher : p.watcher = some ⟨.waiting, state.policies.notifier⟩) {h : Holder}
    (hh : h ∈ p.holders) (hguard : h.phase.isGuard = true) :
    h.channel ∈ p.manager.fired ∨ h.Current state := by
  obtain hfired | hcurrent | ⟨w, hw, howes⟩ := hp.covered h hh hguard
  · exact .inl hfired
  · exact .inr hcurrent
  · obtain rfl : ⟨.waiting, state.policies.notifier⟩ = w := Option.some.inj (hwatcher ▸ hw)
    -- it owes nothing
    obtain hseen | hwoken | hstopped | ⟨c, hc, -⟩ | htaken := howes
    · exact absurd rfl hseen
    · cases hwoken
    · cases hstopped
    · exact absurd hc List.not_mem_nil
    · cases htaken

end Watched

/-- What a step does to the watcher: it never unsubscribes, and stops only by `stop`. -/
theorem AdmissionPath.watcher_of_step {state : ProxyState} {p p' : AdmissionPath} {e : PathEvent}
    (h : p.step state e = some p') :
    p'.watcher = p.watcher ∨ ∃ w w', p.watcher = some w ∧ p'.watcher = some w' ∧
      w'.phase ≠ .unsubscribed ∧ (w'.phase = .stopped → e = .stop) := by
  cases e with
  | register ctx =>
    obtain rfl := Option.some.inj h
    exact .inl rfl
  | check g | reject g | watcher g | complete g =>
    obtain ⟨-, rfl⟩ := Option.ite_some_none_eq_some.1 h
    exact .inl rfl
  | release g =>
    obtain ⟨-, h⟩ := Option.ite_none_right_eq_some.1 h
    unfold AdmissionPath.release at h
    split at h <;> cases h <;> exact .inl rfl
  | drop g =>
    obtain ⟨-, h⟩ := Option.ite_none_right_eq_some.1 h
    unfold AdmissionPath.drop at h
    split at h <;> cases h <;> exact .inl rfl
  | subscribe | wake | snapshot | stop =>
    obtain ⟨w, hw, h⟩ := Option.bind_eq_some_iff.1 h
    obtain ⟨-, rfl⟩ := Option.ite_some_none_eq_some.1 h
    exact .inr ⟨w, _, hw, rfl, by simp, by simp⟩
  | advance =>
    obtain ⟨w, hw, h⟩ := Option.bind_eq_some_iff.1 h
    change p.advance state w = some p' at h
    unfold AdmissionPath.advance at h
    refine .inr ⟨w, ?_⟩
    split at h
    · obtain rfl := Option.some.inj h
      exact ⟨_, hw, rfl, by simp, by simp⟩
    · obtain rfl := Option.some.inj h
      exact ⟨_, hw, rfl, by dsimp only; split <;> simp, by dsimp only; split <;> simp⟩
    · split at h <;> obtain rfl := Option.some.inj h <;> exact ⟨_, hw, rfl, by simp, by simp⟩
    · obtain rfl := Option.some.inj h
      exact ⟨_, hw, rfl, by simp, by simp⟩
    · obtain ⟨-, rfl⟩ := Option.ite_some_none_eq_some.1 h
      exact ⟨_, hw, rfl, by simp, by simp⟩
    · cases h

theorem AdmissionPath.Subscribed.step {state : ProxyState} {p p' : AdmissionPath} {e : PathEvent}
    (hp : p.Subscribed) (h : p.step state e = some p') : p'.Subscribed := by
  obtain hsame | ⟨_, w', -, hw', hsub, -⟩ := AdmissionPath.watcher_of_step h
  · rw [AdmissionPath.Subscribed, hsame]
    exact hp
  · exact ⟨w', hw', hsub⟩

/-! ### Runs -/

variable {σ U : Type*}

namespace PolicyFeed

/-- The start of a path: nothing admitted, and the watcher has just subscribed. -/
def subscribed (feed : PolicyFeed σ U) (source : σ) : PathSystem σ where
  source := source
  path := .new (some ⟨.waiting, (feed.state source).policies.notifier⟩)

/-- The start of a path as it is assembled: its watcher task has not run yet. -/
def assembled (source : σ) : PathSystem σ where
  source := source
  path := .new (some ⟨.unsubscribed, 0⟩)

/-- Any state update, followed by its notification. -/
def publish : PolicyFeed ProxyState ProxyState where
  state := id
  apply s s' := { s' with policies := ⟨s'.policies.resources, s.policies.notifier + 1⟩ }
  notifier_le s _ := Nat.le_succ s.policies.notifier
  announced s _ _ _ := Nat.lt_succ_self s.policies.notifier

/-- **The handlers of xDS batches**: what they change is announced. -/
def xds (decoders : Decoders) (localNode : Option Strng) :
    PolicyFeed { s : ProxyState // Reachable decoders localNode s } Batch where
  state := Subtype.val
  apply s batch := ⟨(batch.handle decoders s.1).2, .handle batch s.2⟩
  notifier_le s batch := (announced_handle decoders s.2.keysMatch batch).1.mono
  announced s batch _ hne :=
    (announced_handle decoders s.2.keysMatch batch).1.fired_of_ne fun heq ↦
      hne (congrArg Except.toBool heq)

end PolicyFeed

/-- **Late revocation.** Whenever the watcher waits for a change and no notification is pending,
every live guard has a context that the state allows or has had its drain signal fired. -/
theorem late_revocation (feed : PolicyFeed σ U) (source : σ) {events : List (SystemEvent U)}
    {final : PathSystem σ}
    (huid : ∀ c₁ c₂, .path (.register c₁) ∈ events → .path (.register c₂) ∈ events →
      c₁.key = c₂.key → c₁.rbacCtx.workload.uid = c₂.rbacCtx.workload.uid)
    (hrun : run feed.step (feed.subscribed source) events = some final)
    (hwaiting : final.path.watcher =
      some ⟨.waiting, (feed.state final.source).policies.notifier⟩) :
    ∀ h ∈ final.path.holders, h.phase.isGuard = true →
      h.ctx.allowed (feed.state final.source) = true ∨ h.channel ∈ final.path.manager.fired := by
  let known : ConnectionContext → Prop := fun ctx ↦ .path (.register ctx) ∈ events
  have hinv : Watched known (feed.state final.source) final.path ∧ final.path.Subscribed := by
    refine run_induction (I := fun s ↦ Watched known (feed.state s.source) s.path ∧
      s.path.Subscribed) hrun ⟨.new known ?_ ?_, ⟨_, rfl, by simp⟩⟩ ?_
    · rintro v ⟨rfl⟩
      exact le_rfl
    · rintro v ⟨rfl⟩
      rfl
    rintro (e | u) he s s' ⟨hs, hsub⟩ hstep
    · obtain ⟨p, hp, rfl⟩ := Option.map_eq_some_iff.1 hstep
      refine ⟨hs.step huid ?_ (fun _ _ ↦ hsub) hp, hsub.step hp⟩
      rintro ctx rfl
      exact he
    · obtain rfl := Option.some.inj hstep
      exact ⟨hs.update (feed.notifier_le _ _) (feed.announced _ _), hsub⟩
  intro h hh hguard
  exact (hinv.1.current_of_waiting hwaiting hh hguard).symm.imp And.left id

/-! ### A run that revokes -/

/-- The workload of the sample connection, bound to no policy. -/
def openPod : Workload := { podContext.workload with trafficPolicyRefs := some [] }

/-- A state that allows the sample connection. -/
def openState : ProxyState :=
  { ProxyState.new none with workloads := (WorkloadStore.new none).insert openPod }

/-- A connection to the sample workload. -/
def podConnection : ConnectionContext where
  rbacCtx := podContext
  attributes := .inbound none

/-- The sample connection on channel `0` in a phase. -/
def podHolder (phase : HolderPhase) (evaluated : ℕ) (steady : Bool) : Holder where
  ctx := podConnection
  channel := 0
  phase := phase
  steady := steady
  evaluated := evaluated

/-- The connection is admitted, an update denies it, and the pass closes it while it completes. -/
def revokedRun : List (SystemEvent ProxyState) :=
  [.path (.register podConnection), .path (.check (podHolder .registered 0 true)),
    .path (.watcher (podHolder .guarded 0 true)), .update (.new none), .path .wake,
    .path (.snapshot [podConnection.key]), .path .advance, .path .advance, .path .advance,
    .path (.complete (podHolder .running 1 false)), .path .advance, .path .advance]

/-- There the guard that is still live is denied, so its signal has fired. -/
theorem late_revocation_revokedRun :
    ∃ final, run PolicyFeed.publish.step (PolicyFeed.publish.subscribed openState) revokedRun =
        some final ∧
      podHolder .finished 1 false ∈ final.path.holders ∧ 0 ∈ final.path.manager.fired := by
  refine exists_run (fun final ↦
    final.path.watcher = some ⟨.waiting, final.source.policies.notifier⟩ ∧
      podHolder .finished 1 false ∈ final.path.holders ∧
      podConnection.allowed final.source = false) (by decide) ?_
  rintro final hfinal ⟨hwaiting, hmem, hdenied⟩
  refine ⟨hmem, ?_⟩
  have huid : ∀ c₁ c₂, SystemEvent.path (.register c₁) ∈ revokedRun →
      SystemEvent.path (.register c₂) ∈ revokedRun → c₁.key = c₂.key →
      c₁.rbacCtx.workload.uid = c₂.rbacCtx.workload.uid := by
    intro c₁ c₂ h₁ h₂ _
    simp only [revokedRun, List.mem_cons, SystemEvent.path.injEq, PathEvent.register.injEq,
      reduceCtorEq, List.not_mem_nil, or_false] at h₁ h₂
    rw [h₁, h₂]
  have hrevoked := late_revocation PolicyFeed.publish openState huid hfinal hwaiting _ hmem rfl
  exact hrevoked.resolve_left fun hallowed ↦ by
    rw [show (podHolder .finished 1 false).ctx = podConnection from rfl] at hallowed
    exact absurd (hdenied.symm.trans hallowed) Bool.false_ne_true

end Ztunnel.Proxy
