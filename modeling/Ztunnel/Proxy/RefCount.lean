import Ztunnel.Proxy.LateRevocation

/-!
# Reference counts of drain entries

An entry of the connection manager is shared by the connections of its key, and counts them: the
last one to release drops the entry, and dropping it fires the channel. Two things should follow:
the count of an entry is the number of live connections on its channel (`CountsExact`), and a
connection that was allowed all along never sees its channel fire (`SteadyUnfired`).

Neither holds of every run. `release` goes by key, so a connection of a closed entry releases the
entry that was created under its key since then; a guard that is dropped after its watcher was taken
releases nothing; a guard released before its watcher was taken releases twice; and `close` acts on
a check that may be out of date. `ExactStep` is the condition on a step that rules these four out,
and under it both hold in every state.
-/

namespace Ztunnel.Proxy

open Ztunnel.State Ztunnel.Rbac Transition

/-- The number of live connections on a channel. -/
def AdmissionPath.holding (p : AdmissionPath) (channel : ℕ) : ℕ :=
  p.holders.countP fun h ↦ h.channel = channel

/-- The count of each entry is the number of live connections on its channel. -/
def AdmissionPath.CountsExact (p : AdmissionPath) : Prop :=
  ∀ key stored drain, p.manager.drains.lookup key = some (stored, drain) →
    drain.count = p.holding drain.channel

/-- No guard whose context was allowed since it registered has a fired channel. -/
def AdmissionPath.SteadyUnfired (p : AdmissionPath) : Prop :=
  ∀ h ∈ p.holders, h.phase.isGuard = true → h.steady = true → h.channel ∉ p.manager.fired

/-- The entry of the connection's key is gone or is the one it joined. -/
def AdmissionPath.OwnsEntry (p : AdmissionPath) (h : Holder) : Prop :=
  p.manager.channelAt h.ctx.key = none ∨ p.manager.channelAt h.ctx.key = some h.channel

instance (p : AdmissionPath) (h : Holder) : Decidable (p.OwnsEntry h) :=
  inferInstanceAs (Decidable (_ ∨ _))

/-- The watcher is about to close the entry of a key. -/
def AdmissionPath.closingKey (p : AdmissionPath) : Option ContextKey :=
  p.watcher.bind fun w ↦
    match w.phase with
    | .closing ctx _ => some ctx.key
    | _ => none

/-- **When a step keeps the counts exact.** A release finds the entry that the connection joined, or
none; a guard whose watcher was taken is dropped only after its channel fired, and is the only kind
of guard on which `ConnectionGuard::release` is called; an entry is closed only when the state
denies every connection on it. -/
def AdmissionPath.ExactStep (state : ProxyState) (p : AdmissionPath) : PathEvent → Prop
  | .reject h => p.OwnsEntry h
  | .release h => h.phase = .finished ∧ p.OwnsEntry h
  | .drop h => if h.phase = .running then h.channel ∈ p.manager.fired else p.OwnsEntry h
  | .advance => ∀ key ∈ p.closingKey, ∀ h ∈ p.holders,
      p.manager.channelAt key = some h.channel → h.ctx.allowed state = false
  | _ => True

instance (state : ProxyState) (p : AdmissionPath) :
    (e : PathEvent) → Decidable (p.ExactStep state e)
  | .reject h => inferInstanceAs (Decidable (p.OwnsEntry h))
  | .release h => inferInstanceAs (Decidable (h.phase = .finished ∧ p.OwnsEntry h))
  | .drop h => inferInstanceAs (Decidable (if h.phase = .running then _ else _))
  | .advance => inferInstanceAs (Decidable (∀ key ∈ p.closingKey, ∀ h ∈ p.holders, _ → _))
  | .register _ | .check _ | .watcher _ | .complete _ | .subscribe | .stop | .wake | .snapshot _ =>
    .isTrue trivial

/-- The condition on a step of the system. -/
def PolicyFeed.ExactStep {σ U : Type*} (feed : PolicyFeed σ U) (s : PathSystem σ) :
    SystemEvent U → Prop
  | .path e => s.path.ExactStep (feed.state s.source) e
  | .update _ => True

instance {σ U : Type*} (feed : PolicyFeed σ U) (s : PathSystem σ) :
    (e : SystemEvent U) → Decidable (feed.ExactStep s e)
  | .path e => inferInstanceAs (Decidable (s.path.ExactStep (feed.state s.source) e))
  | .update _ => .isTrue trivial

/-! ### The invariant -/

/-- The channel that the watcher took out of the map and has not yet signalled. -/
def AdmissionPath.taken (p : AdmissionPath) : Option ℕ := p.watcher.bind (·.phase.taken)

/-- A channel that can still be waited for: not fired, and not about to be. -/
def AdmissionPath.Open (p : AdmissionPath) (channel : ℕ) : Prop :=
  channel ∉ p.manager.fired ∧ p.taken ≠ some channel

/-- **The invariant of the counts.** A channel belongs to one key, entries have open channels, and
so do the connections that were allowed all along. -/
structure Exact (state : ProxyState) (p : AdmissionPath) : Prop where
  counts : p.CountsExact
  entry_open : ∀ key channel, p.manager.channelAt key = some channel → p.Open channel
  entry_key : ∀ key key' channel, p.manager.channelAt key = some channel →
    p.manager.channelAt key' = some channel → key = key'
  holder_key : ∀ h ∈ p.holders, ∀ key, p.manager.channelAt key = some h.channel → key = h.ctx.key
  holder_lt : ∀ h ∈ p.holders, h.channel < p.manager.nextChannel
  entry_lt : ∀ key channel, p.manager.channelAt key = some channel →
    channel < p.manager.nextChannel
  closed_lt : ∀ channel, ¬ p.Open channel → channel < p.manager.nextChannel
  steady_allowed : ∀ h ∈ p.holders, h.steady = true → h.ctx.allowed state = true
  steady_open : ∀ h ∈ p.holders, h.steady = true → p.Open h.channel

/-! ### Counting connections -/

namespace AdmissionPath

variable {p : AdmissionPath} {h h' : Holder}

theorem holding_register (p : AdmissionPath) (state : ProxyState) (ctx : ConnectionContext) :
    ∀ channel, (p.register state ctx).holding channel =
      p.holding channel + if (p.manager.register ctx).1 = channel then 1 else 0 := by
  intro channel
  rw [holding, register, List.countP_cons]
  simp only [decide_eq_true_eq, holding]

theorem holding_forget (hmem : h ∈ p.holders) (channel : ℕ) :
    p.holding channel = (p.forget h).holding channel + if h.channel = channel then 1 else 0 := by
  have hperm := (List.perm_cons_erase hmem).countP_eq fun g ↦ decide (g.channel = channel)
  rw [List.countP_cons] at hperm
  simpa only [holding, forget, decide_eq_true_eq] using hperm

/-- A connection that goes on is counted as before. -/
theorem holding_replace (hmem : h ∈ p.holders) (hchannel : h'.channel = h.channel) (channel : ℕ) :
    (p.replace h h').holding channel = p.holding channel := by
  rw [holding_forget hmem, ← hchannel, holding, replace, List.countP_cons]
  simp only [holding, forget, decide_eq_true_eq]

/-- Nobody holds a channel that counts none. -/
theorem channel_ne_of_holding_eq_zero {channel : ℕ} (hzero : p.holding channel = 0)
    (hmem : h ∈ p.holders) : h.channel ≠ channel := by
  have hnot := List.countP_eq_zero.1 hzero h hmem
  simpa only [decide_eq_true_eq] using hnot

end AdmissionPath

/-! ### Connections -/

namespace Exact

variable {state : ProxyState} {p p' : AdmissionPath} {h h' : Holder} {w w' : PolicyWatcher}
  {ctx : ConnectionContext} {channel : ℕ} {key : ContextKey}

theorem replace (hp : Exact state p) (hmem : h ∈ p.holders) (hctx : h'.ctx = h.ctx)
    (hchannel : h'.channel = h.channel) (hsteady : h'.steady = h.steady) :
    Exact state (p.replace h h') := by
  have hrest : ∀ g ∈ (p.replace h h').holders, ∃ f ∈ p.holders,
      g.ctx = f.ctx ∧ g.channel = f.channel ∧ g.steady = f.steady := by
    intro g hg
    obtain rfl | hg := List.mem_cons.1 hg
    · exact ⟨h, hmem, hctx, hchannel, hsteady⟩
    · exact ⟨g, List.mem_of_mem_erase hg, rfl, rfl, rfl⟩
  refine ⟨fun key stored drain hl ↦ ?_, hp.entry_open, hp.entry_key, fun g hg key hkey ↦ ?_,
    fun g hg ↦ ?_, hp.entry_lt, hp.closed_lt, fun g hg hs ↦ ?_, fun g hg hs ↦ ?_⟩
  · rw [AdmissionPath.holding_replace hmem hchannel]
    exact hp.counts key stored drain hl
  all_goals obtain ⟨f, hf, hfctx, hfchannel, hfsteady⟩ := hrest g hg
  · rw [hfctx]
    exact hp.holder_key f hf key (hfchannel ▸ hkey)
  · rw [hfchannel]
    exact hp.holder_lt f hf
  · rw [hfctx]
    exact hp.steady_allowed f hf (hfsteady ▸ hs)
  · rw [hfchannel]
    exact hp.steady_open f hf (hfsteady ▸ hs)

/-- A connection leaves whose channel is not in the map. -/
theorem forget (hp : Exact state p) (hmem : h ∈ p.holders)
    (hgone : ∀ key, p.manager.channelAt key ≠ some h.channel) : Exact state (p.forget h) := by
  refine ⟨fun key stored drain hl ↦ ?_, hp.entry_open, hp.entry_key,
    fun g hg ↦ hp.holder_key g (List.mem_of_mem_erase hg),
    fun g hg ↦ hp.holder_lt g (List.mem_of_mem_erase hg), hp.entry_lt, hp.closed_lt,
    fun g hg ↦ hp.steady_allowed g (List.mem_of_mem_erase hg),
    fun g hg ↦ hp.steady_open g (List.mem_of_mem_erase hg)⟩
  have hne : h.channel ≠ drain.channel := fun heq ↦
    hgone key (ConnectionManager.channelAt_eq_some.2 ⟨stored, drain, hl, heq.symm⟩)
  have hcount := AdmissionPath.holding_forget hmem drain.channel
  rw [if_neg hne] at hcount
  rw [hp.counts key stored drain hl, hcount, Nat.add_zero]

theorem open_congr (hfired : p'.manager.fired = p.manager.fired) (htaken : p'.taken = p.taken) :
    p'.Open channel ↔ p.Open channel := by
  rw [AdmissionPath.Open, AdmissionPath.Open, hfired, htaken]

/-- The channels stay where they are; connections leave, or join the entry of their key. -/
theorem recount (hp : Exact state p)
    (hchannels : ∀ key, p'.manager.channelAt key = p.manager.channelAt key)
    (hfired : p'.manager.fired = p.manager.fired)
    (hnext : p'.manager.nextChannel = p.manager.nextChannel) (htaken : p'.taken = p.taken)
    (hholders : ∀ g ∈ p'.holders, g ∈ p.holders ∨
      p.manager.channelAt g.ctx.key = some g.channel ∧
        (g.steady = true → g.ctx.allowed state = true))
    (hcounts : p'.CountsExact) : Exact state p' := by
  refine ⟨hcounts, fun key channel hkey ↦ ?_, fun key key' channel hkey hkey' ↦ ?_,
    fun g hg key hkey ↦ ?_, fun g hg ↦ ?_, fun key channel hkey ↦ ?_, fun channel hclosed ↦ ?_,
    fun g hg hs ↦ ?_, fun g hg hs ↦ ?_⟩
  · rw [open_congr hfired htaken]
    exact hp.entry_open key channel (hchannels key ▸ hkey)
  · exact hp.entry_key key key' channel (hchannels key ▸ hkey) (hchannels key' ▸ hkey')
  · rw [hchannels] at hkey
    obtain hold | ⟨hjoined, -⟩ := hholders g hg
    · exact hp.holder_key g hold key hkey
    · exact hp.entry_key key g.ctx.key g.channel hkey hjoined
  · rw [hnext]
    obtain hold | ⟨hjoined, -⟩ := hholders g hg
    · exact hp.holder_lt g hold
    · exact hp.entry_lt _ _ hjoined
  · rw [hnext]
    exact hp.entry_lt key channel (hchannels key ▸ hkey)
  · rw [hnext]
    exact hp.closed_lt channel fun hopen ↦ hclosed ((open_congr hfired htaken).2 hopen)
  · obtain hold | ⟨-, hallowed⟩ := hholders g hg
    · exact hp.steady_allowed g hold hs
    · exact hallowed hs
  · rw [open_congr hfired htaken]
    obtain hold | ⟨hjoined, -⟩ := hholders g hg
    · exact hp.steady_open g hold hs
    · exact hp.entry_open _ _ hjoined

/-- Writing an entry again with its channel moves no channel. -/
theorem channelAt_recount {cm : ConnectionManager} {stored : ConnectionContext}
    {drain : ConnectionDrain} (hl : cm.drains.lookup key = some (stored, drain)) (count : ℕ)
    (key' : ContextKey) :
    ConnectionManager.channelAt
        { cm with drains := cm.drains.insert key (stored, { drain with count := count }) } key' =
      cm.channelAt key' := by
  rw [ConnectionManager.channelAt_insert]
  split
  · next hkey => rw [hkey, ConnectionManager.channelAt, hl, Option.map_some]
  · rfl

/-- The counts after the entry of one key was written: on the other channels nobody came or went. -/
theorem counts_recount (hp : Exact state p) {stored : ConnectionContext} {drain : ConnectionDrain}
    (hl : p.manager.drains.lookup key = some (stored, drain)) {count : ℕ} (hmanager : p'.manager =
      { p.manager with
        drains := p.manager.drains.insert key (stored, { drain with count := count }) })
    (hcount : count = p'.holding drain.channel)
    (hothers : ∀ channel, channel ≠ drain.channel → p'.holding channel = p.holding channel) :
    p'.CountsExact := by
  intro key' stored' drain' hl'
  rw [hmanager] at hl'
  obtain ⟨rfl, heq⟩ | ⟨hkey, hold⟩ := Index.lookup_insert_eq_some.1 hl'
  · obtain ⟨-, rfl⟩ := Prod.mk.inj heq
    exact hcount
  · have hne : drain'.channel ≠ drain.channel := fun heq ↦ hkey <|
      hp.entry_key key' key drain.channel
        (ConnectionManager.channelAt_eq_some.2 ⟨stored', drain', hold, heq⟩)
        (ConnectionManager.channelAt_eq_some.2 ⟨stored, drain, hl, rfl⟩)
    rw [hp.counts key' stored' drain' hold, hothers _ hne]

/-- An entry leaves the map and its channel closes, with no connection on it that was allowed all
along. -/
theorem closeEntry (hp : Exact state p) (hkey : p.manager.channelAt key = some channel)
    (hdrains : p'.manager.drains = p.manager.drains.erase key)
    (hnext : p'.manager.nextChannel = p.manager.nextChannel)
    (hopen : ∀ c, p'.Open c ↔ p.Open c ∧ c ≠ channel) (hholders : ∀ g ∈ p'.holders, g ∈ p.holders)
    (hothers : ∀ c, c ≠ channel → p'.holding c = p.holding c)
    (hsteady : ∀ g ∈ p'.holders, g.steady = true → g.channel ≠ channel) : Exact state p' := by
  -- what is left in the map was there, under another key and so on another channel
  have hrest : ∀ key' c, p'.manager.channelAt key' = some c →
      p.manager.channelAt key' = some c ∧ c ≠ channel := by
    intro key' c hc
    obtain ⟨stored, drain, hl, hchannel⟩ := ConnectionManager.channelAt_eq_some.1 hc
    rw [hdrains] at hl
    obtain ⟨hne, hold⟩ := Index.lookup_erase_eq_some.1 hl
    have hc := ConnectionManager.channelAt_eq_some.2 ⟨stored, drain, hold, hchannel⟩
    exact ⟨hc, fun heq ↦ hne (hp.entry_key key' key channel (heq ▸ hc) hkey)⟩
  refine ⟨fun key' stored drain hl ↦ ?_, fun key' c hc ↦ ?_, fun key₁ key₂ c h₁ h₂ ↦ ?_,
    fun g hg key' hkey' ↦ ?_, fun g hg ↦ ?_, fun key' c hc ↦ ?_, fun c hclosed ↦ ?_,
    fun g hg ↦ hp.steady_allowed g (hholders g hg), fun g hg hs ↦ ?_⟩
  · obtain ⟨-, hne⟩ := hrest key' drain.channel
      (ConnectionManager.channelAt_eq_some.2 ⟨stored, drain, hl, rfl⟩)
    rw [hdrains] at hl
    rw [hp.counts key' stored drain (Index.lookup_erase_eq_some.1 hl).2, hothers _ hne]
  · obtain ⟨hold, hne⟩ := hrest key' c hc
    exact (hopen c).2 ⟨hp.entry_open key' c hold, hne⟩
  · exact hp.entry_key key₁ key₂ c (hrest key₁ c h₁).1 (hrest key₂ c h₂).1
  · exact hp.holder_key g (hholders g hg) key' (hrest key' _ hkey').1
  · exact hnext ▸ hp.holder_lt g (hholders g hg)
  · exact hnext ▸ hp.entry_lt key' c (hrest key' c hc).1
  · rw [hnext]
    by_cases hc : c = channel
    · exact hc ▸ hp.entry_lt key channel hkey
    · exact hp.closed_lt c fun hopen' ↦ hclosed ((hopen c).2 ⟨hopen', hc⟩)
  · exact (hopen _).2 ⟨hp.steady_open g (hholders g hg) hs, hsteady g hg hs⟩

theorem leave (hp : Exact state p) (hmem : h ∈ p.holders) (howns : p.OwnsEntry h) :
    Exact state ((p.forget h).releaseKey h) := by
  have hforget : ∀ channel, p.holding channel =
      (p.forget h).holding channel + if h.channel = channel then 1 else 0 :=
    AdmissionPath.holding_forget hmem
  obtain ⟨hl, hrel⟩ | ⟨stored, drain, hl, hcount, hrel⟩ | ⟨stored, drain, hl, hcount, hrel⟩ :=
    p.manager.release_cases h.ctx
  · -- the entry is gone, and no other key has its channel
    have hgone : ∀ key, p.manager.channelAt key ≠ some h.channel := by
      intro key hkey
      have hnone : p.manager.channelAt h.ctx.key = none := by
        rw [ConnectionManager.channelAt, hl, Option.map_none]
      rw [hp.holder_key h hmem key hkey, hnone] at hkey
      cases hkey
    have heq : (p.forget h).releaseKey h = p.forget h := by
      rw [AdmissionPath.releaseKey]
      exact congrArg (fun cm ↦ { p.forget h with manager := cm }) hrel
    rw [heq]
    exact hp.forget hmem hgone
  all_goals
    have hentry : p.manager.channelAt h.ctx.key = some drain.channel := by
      rw [ConnectionManager.channelAt, hl, Option.map_some]
    have hchannel : drain.channel = h.channel := by
      obtain hnone | hsome := howns
      · rw [hnone] at hentry
        cases hentry
      · exact Option.some.inj (hentry.symm.trans hsome)
    have hexact := hp.counts _ _ _ hl
    have hleft := hforget drain.channel
    rw [if_pos hchannel.symm] at hleft
    have hothers : ∀ channel, channel ≠ drain.channel →
        (p.forget h).holding channel = p.holding channel := by
      intro channel hne
      rw [hforget channel, if_neg (hchannel ▸ hne.symm), Nat.add_zero]
    have hmanager : ((p.forget h).releaseKey h).manager = p.manager.release h.ctx := rfl
    rw [hrel] at hmanager
  · refine hp.recount (fun key ↦ ?_) (by rw [hmanager]) (by rw [hmanager]) rfl
      (fun g hg ↦ .inl (List.mem_of_mem_erase hg)) (hp.counts_recount hl hmanager ?_ hothers)
    · rw [hmanager]
      exact channelAt_recount hl _ key
    · show drain.count - 1 = (p.forget h).holding drain.channel
      omega
  · -- it was the last one on the channel, which fires
    have hzero : (p.forget h).holding drain.channel = 0 := by omega
    refine hp.closeEntry hentry (by rw [hmanager]) (by rw [hmanager]) (fun c ↦ ?_)
      (fun g hg ↦ List.mem_of_mem_erase hg) hothers
      fun g hg _ ↦ AdmissionPath.channel_ne_of_holding_eq_zero hzero hg
    rw [AdmissionPath.Open, hmanager, show ((p.forget h).releaseKey h).taken = p.taken from rfl,
      Finset.mem_insert, AdmissionPath.Open]
    tauto

/-- Under a key without entry, a context gets the next channel. -/
theorem mem_holders_registerVacant (hl : p.manager.drains.lookup ctx.key = none) {g : Holder}
    (hg : g ∈ (p.register state ctx).holders) :
    (g.ctx = ctx ∧ g.channel = p.manager.nextChannel ∧ g.steady = ctx.allowed state) ∨
      g ∈ p.holders := by
  have hreg := ConnectionManager.register_of_none hl
  have hnew : (p.manager.register ctx).1 = p.manager.nextChannel := congrArg Prod.fst hreg
  obtain rfl | hg := List.mem_cons.1 hg
  · exact .inl ⟨rfl, hnew, rfl⟩
  · exact .inr hg

theorem channelAt_registerVacant (hl : p.manager.drains.lookup ctx.key = none)
    (hkey : (p.register state ctx).manager.channelAt key = some channel) :
    (key = ctx.key ∧ channel = p.manager.nextChannel) ∨
      (key ≠ ctx.key ∧ p.manager.channelAt key = some channel) := by
  have hreg := ConnectionManager.register_of_none hl
  have hmanager : (p.register state ctx).manager = _ := congrArg Prod.snd hreg
  rw [hmanager, ConnectionManager.channelAt_insert] at hkey
  split at hkey
  · next heq => exact .inl ⟨heq, (Option.some.inj hkey).symm⟩
  · next hne => exact .inr ⟨hne, hkey⟩

theorem holding_nextChannel (hp : Exact state p) : p.holding p.manager.nextChannel = 0 := by
  refine List.countP_eq_zero.2 fun g hg ↦ ?_
  have hlt := hp.holder_lt g hg
  simp only [decide_eq_true_eq]
  omega

/-- A context registers under a key without entry: its channel is a new one. -/
theorem registerVacant (hp : Exact state p) (hl : p.manager.drains.lookup ctx.key = none) :
    Exact state (p.register state ctx) := by
  have hreg := ConnectionManager.register_of_none hl
  have hmanager : (p.register state ctx).manager = _ := congrArg Prod.snd hreg
  have hnew : (p.manager.register ctx).1 = p.manager.nextChannel := congrArg Prod.fst hreg
  have hopen : ∀ channel, (p.register state ctx).Open channel ↔ p.Open channel := fun channel ↦
    open_congr (by rw [hmanager]) rfl
  have hnewOpen : p.Open p.manager.nextChannel := by
    by_contra hclosed
    exact lt_irrefl _ (hp.closed_lt _ hclosed)
  have hcount := p.holding_register state ctx
  rw [hnew] at hcount
  have hnext : (p.register state ctx).manager.nextChannel = p.manager.nextChannel + 1 := by
    rw [hmanager]
  refine ⟨fun key stored drain hlookup ↦ ?_, fun key channel hkey ↦ ?_,
    fun key key' channel hkey hkey' ↦ ?_, fun g hg key hkey ↦ ?_, fun g hg ↦ ?_,
    fun key channel hkey ↦ ?_, fun channel hclosed ↦ ?_, fun g hg hs ↦ ?_, fun g hg hs ↦ ?_⟩
  · rw [hmanager] at hlookup
    obtain ⟨rfl, heq⟩ | ⟨-, hold⟩ := Index.lookup_insert_eq_some.1 hlookup
    · obtain ⟨-, rfl⟩ := Prod.mk.inj heq
      rw [hcount, if_pos rfl, hp.holding_nextChannel]
    · have hlt := hp.entry_lt key drain.channel
        (ConnectionManager.channelAt_eq_some.2 ⟨stored, drain, hold, rfl⟩)
      rw [hcount, if_neg (by omega), hp.counts key stored drain hold, Nat.add_zero]
  · rw [hopen]
    obtain ⟨-, rfl⟩ | ⟨-, hold⟩ := channelAt_registerVacant hl hkey
    · exact hnewOpen
    · exact hp.entry_open key channel hold
  · obtain ⟨h₁, rfl⟩ | ⟨-, h₁⟩ := channelAt_registerVacant hl hkey
    · obtain ⟨h₂, -⟩ | ⟨-, h₂⟩ := channelAt_registerVacant hl hkey'
      · rw [h₁, h₂]
      · exact absurd (hp.entry_lt _ _ h₂) (lt_irrefl _)
    · obtain ⟨-, rfl⟩ | ⟨-, h₂⟩ := channelAt_registerVacant hl hkey'
      · exact absurd (hp.entry_lt _ _ h₁) (lt_irrefl _)
      · exact hp.entry_key key key' channel h₁ h₂
  · obtain ⟨hctx, hgch, -⟩ | hold := mem_holders_registerVacant hl hg
    · obtain ⟨h₁, -⟩ | ⟨-, h₁⟩ := channelAt_registerVacant hl hkey
      · rw [h₁, hctx]
      · rw [hgch] at h₁
        exact absurd (hp.entry_lt _ _ h₁) (lt_irrefl _)
    · obtain ⟨-, h₁⟩ | ⟨-, h₁⟩ := channelAt_registerVacant hl hkey
      · exact absurd (h₁ ▸ hp.holder_lt g hold) (lt_irrefl _)
      · exact hp.holder_key g hold key h₁
  · rw [hnext]
    obtain ⟨-, hgch, -⟩ | hold := mem_holders_registerVacant hl hg
    · omega
    · exact (hp.holder_lt g hold).trans (Nat.lt_succ_self _)
  · rw [hnext]
    obtain ⟨-, h₁⟩ | ⟨-, h₁⟩ := channelAt_registerVacant hl hkey
    · omega
    · exact (hp.entry_lt key channel h₁).trans (Nat.lt_succ_self _)
  · rw [hnext]
    exact (hp.closed_lt channel fun h ↦ hclosed ((hopen channel).2 h)).trans (Nat.lt_succ_self _)
  · obtain ⟨hctx, -, hsteady⟩ | hold := mem_holders_registerVacant hl hg
    · rw [hctx, ← hsteady]
      exact hs
    · exact hp.steady_allowed g hold hs
  · rw [hopen]
    obtain ⟨-, hgch, -⟩ | hold := mem_holders_registerVacant hl hg
    · exact hgch ▸ hnewOpen
    · exact hp.steady_open g hold hs

theorem register (hp : Exact state p) (ctx : ConnectionContext) :
    Exact state (p.register state ctx) := by
  rcases hl : p.manager.drains.lookup ctx.key with - | ⟨stored, drain⟩
  · exact hp.registerVacant hl
  have hreg := ConnectionManager.register_of_some hl
  have hmanager : (p.register state ctx).manager = _ := congrArg Prod.snd hreg
  have hjoined : (p.manager.register ctx).1 = drain.channel := congrArg Prod.fst hreg
  have hentry : p.manager.channelAt ctx.key = some drain.channel := by
    rw [ConnectionManager.channelAt, hl, Option.map_some]
  have hcount := p.holding_register state ctx
  rw [hjoined] at hcount
  refine hp.recount (fun key ↦ ?_) (by rw [hmanager]) (by rw [hmanager]) rfl (fun g hg ↦ ?_)
    (hp.counts_recount hl hmanager ?_ fun channel hne ↦ ?_)
  · rw [hmanager]
    exact channelAt_recount hl _ key
  · obtain rfl | hg := List.mem_cons.1 hg
    · exact .inr ⟨hentry.trans (congrArg some hjoined.symm), id⟩
    · exact .inl hg
  · rw [hcount, if_pos rfl, hp.counts _ _ _ hl]
  · rw [hcount, if_neg hne.symm, Nat.add_zero]

/-! ### The watcher -/

theorem setWatcher (hp : Exact state p) (hw : p.watcher = some w)
    (htaken : w'.phase.taken = w.phase.taken) : Exact state { p with watcher := some w' } := by
  have heq : AdmissionPath.taken { p with watcher := some w' } = p.taken := by
    rw [AdmissionPath.taken, AdmissionPath.taken, hw]
    exact htaken
  exact hp.recount (fun _ ↦ rfl) rfl rfl heq (fun g hg ↦ .inl hg) hp.counts

/-- Notes in the history that keep contexts and channels. -/
theorem mapHolders (hp : Exact state p) (state' : ProxyState) (f : Holder → Holder)
    (hctx : ∀ h, (f h).ctx = h.ctx) (hchannel : ∀ h, (f h).channel = h.channel)
    (hsteady : ∀ h ∈ p.holders, (f h).steady = true →
      h.steady = true ∧ h.ctx.allowed state' = true) :
    Exact state' { p with holders := p.holders.map f } := by
  have hcount : ∀ channel,
      AdmissionPath.holding { p with holders := p.holders.map f } channel = p.holding channel := by
    intro channel
    rw [AdmissionPath.holding, List.countP_map]
    exact congrArg (fun q ↦ p.holders.countP q) (funext fun h ↦ by rw [Function.comp, hchannel])
  refine ⟨fun key stored drain hl ↦ ?_, hp.entry_open, hp.entry_key, fun g hg ↦ ?_, fun g hg ↦ ?_,
    hp.entry_lt, hp.closed_lt, fun g hg hs ↦ ?_, fun g hg hs ↦ ?_⟩
  · rw [hcount]
    exact hp.counts key stored drain hl
  all_goals obtain ⟨h, hh, rfl⟩ := List.mem_map.1 hg
  · rw [hctx, hchannel]
    exact hp.holder_key h hh
  · rw [hchannel]
    exact hp.holder_lt h hh
  · rw [hctx]
    exact (hsteady h hh hs).2
  · rw [hchannel]
    exact hp.steady_open h hh (hsteady h hh hs).1

/-- `close` takes an entry when the state denies the connections on it. -/
theorem take (hp : Exact state p) (hw : p.watcher = some w) {remaining : List ConnectionContext}
    (hphase : w.phase = .closing ctx remaining)
    (hchannel : p.manager.channelAt ctx.key = some channel)
    (hdenied : ∀ h ∈ p.holders, h.channel = channel → h.ctx.allowed state = false) :
    Exact state
      ({ p with manager := p.manager.take ctx }.moveTo w (.signalling channel remaining)) := by
  have htaken : p.taken = none := by
    rw [AdmissionPath.taken, hw]
    show w.phase.taken = none
    rw [hphase]
    rfl
  refine hp.closeEntry hchannel rfl rfl (fun c ↦ ?_) (fun g hg ↦ hg) (fun _ _ ↦ rfl)
    fun g hg hs heq ↦ ?_
  · show c ∉ p.manager.fired ∧ some channel ≠ some c ↔ _
    rw [AdmissionPath.Open, htaken]
    simp only [ne_eq, Option.some.injEq, reduceCtorEq, not_false_eq_true, and_true, eq_comm]
  · have hallowed := hp.steady_allowed g hg hs
    rw [hdenied g hg heq] at hallowed
    cases hallowed

theorem signal (hp : Exact state p) (hw : p.watcher = some w) {remaining : List ConnectionContext}
    (hphase : w.phase = .signalling channel remaining) :
    Exact state
      ({ p with manager := p.manager.signal channel }.moveTo w (.draining channel remaining)) := by
  have htaken : p.taken = some channel := by
    rw [AdmissionPath.taken, hw]
    show w.phase.taken = some channel
    rw [hphase]
    rfl
  -- the taken channel was closed already: the same channels are open
  have hopen : ∀ c, AdmissionPath.Open
      ({ p with manager := p.manager.signal channel }.moveTo w (.draining channel remaining)) c ↔
        p.Open c := by
    intro c
    show c ∉ insert channel p.manager.fired ∧ none ≠ some c ↔ _
    rw [AdmissionPath.Open, htaken, Finset.mem_insert]
    simp only [not_or, ne_eq, reduceCtorEq, not_false_eq_true, and_true, Option.some.injEq]
    rw [and_comm, eq_comm]
  refine ⟨hp.counts, fun key c hc ↦ (hopen c).2 (hp.entry_open key c hc), hp.entry_key,
    hp.holder_key, hp.holder_lt, hp.entry_lt, fun c hc ↦ hp.closed_lt c fun h ↦ hc ((hopen c).2 h),
    hp.steady_allowed, fun g hg hs ↦ (hopen _).2 (hp.steady_open g hg hs)⟩

theorem advance (hp : Exact state p) (hw : p.watcher = some w)
    (hok : p.ExactStep state .advance) (h : p.advance state w = some p') : Exact state p' := by
  unfold AdmissionPath.advance at h
  split at h
  · next hphase =>
    obtain rfl := Option.some.inj h
    exact hp.setWatcher hw (by rw [hphase]; rfl)
  · next ctx remaining hphase =>
    obtain rfl := Option.some.inj h
    have hnoted := hp.mapHolders state (Holder.noteEvaluation state ctx)
      (fun g ↦ by unfold Holder.noteEvaluation; split <;> rfl)
      (fun g ↦ by unfold Holder.noteEvaluation; split <;> rfl) fun g hg hs ↦ ?_
    · refine hnoted.setWatcher hw ?_
      rw [hphase]
      dsimp only
      split <;> rfl
    · have hsteady : g.steady = true := by
        unfold Holder.noteEvaluation at hs
        split at hs <;> exact hs
      exact ⟨hsteady, hp.steady_allowed g hg hsteady⟩
  · next ctx remaining hphase =>
    have hclosing : p.closingKey = some ctx.key := by
      rw [AdmissionPath.closingKey, hw, Option.bind_some, hphase]
    split at h
    · next channel hchannel =>
      obtain rfl := Option.some.inj h
      refine hp.take hw hphase hchannel fun g hg heq ↦ hok ctx.key hclosing g hg ?_
      rw [heq]
      exact hchannel
    · obtain rfl := Option.some.inj h
      exact hp.setWatcher hw (by rw [hphase]; rfl)
  · next hphase =>
    obtain rfl := Option.some.inj h
    exact hp.signal hw hphase
  · next hphase =>
    obtain ⟨-, rfl⟩ := Option.ite_some_none_eq_some.1 h
    exact hp.setWatcher hw (by rw [hphase]; rfl)
  · cases h

/-! ### Every exact step keeps the counts -/

/-- **A step that meets the condition keeps the counts exact.** -/
theorem step (hp : Exact state p) {e : PathEvent} (hok : p.ExactStep state e)
    (h : p.step state e = some p') : Exact state p' := by
  cases e with
  | register ctx =>
    obtain rfl := Option.some.inj h
    exact hp.register ctx
  | check g | watcher g | complete g =>
    obtain ⟨⟨hmem, -⟩, rfl⟩ := Option.ite_some_none_eq_some.1 h
    exact hp.replace hmem rfl rfl rfl
  | reject g =>
    obtain ⟨⟨hmem, -⟩, rfl⟩ := Option.ite_some_none_eq_some.1 h
    exact hp.leave hmem hok
  | release g =>
    obtain ⟨hmem, h⟩ := Option.ite_none_right_eq_some.1 h
    rw [AdmissionPath.release, hok.1] at h
    obtain rfl := Option.some.inj h
    exact hp.leave hmem hok.2
  | drop g =>
    obtain ⟨hmem, h⟩ := Option.ite_none_right_eq_some.1 h
    change if g.phase = .running then g.channel ∈ p.manager.fired else p.OwnsEntry g at hok
    unfold AdmissionPath.drop at h
    split at h
    · next hphase =>
      obtain rfl := Option.some.inj h
      exact hp.leave hmem (by rwa [if_neg (by simp [hphase])] at hok)
    · next hphase =>
      obtain rfl := Option.some.inj h
      exact hp.leave hmem (by rwa [if_neg (by simp [hphase])] at hok)
    · next hphase =>
      obtain rfl := Option.some.inj h
      rw [if_pos hphase] at hok
      -- its channel fired, so no entry has it
      exact hp.forget hmem fun key hkey ↦ (hp.entry_open key _ hkey).1 hok
    · cases h
  | subscribe | stop | wake | snapshot =>
    obtain ⟨w, hw, h⟩ := Option.bind_eq_some_iff.1 h
    obtain ⟨hphase, rfl⟩ := Option.ite_some_none_eq_some.1 h
    refine hp.setWatcher hw ?_
    first
      | rw [hphase]; rfl
      | rw [hphase.1]; rfl
  | advance =>
    obtain ⟨w, hw, h⟩ := Option.bind_eq_some_iff.1 h
    exact hp.advance hw hok h

theorem update (hp : Exact state p) (state' : ProxyState) : Exact state' (p.noteUpdate state') :=
  hp.mapHolders state' (Holder.noteUpdate state') (fun _ ↦ rfl) (fun _ ↦ rfl) fun _ _ hs ↦
    Bool.and_eq_true_iff.1 hs

theorem new (state : ProxyState) {watcher : Option PolicyWatcher}
    (htaken : watcher.bind (·.phase.taken) = none) : Exact state (.new watcher) where
  counts _ _ _ hl := by cases hl
  entry_open _ _ hc := by cases hc
  entry_key _ _ _ hc := by cases hc
  holder_key _ hh := absurd hh List.not_mem_nil
  holder_lt _ hh := absurd hh List.not_mem_nil
  entry_lt _ _ hc := by cases hc
  closed_lt channel hclosed := by
    refine absurd ⟨Finset.notMem_empty channel, ?_⟩ hclosed
    rw [AdmissionPath.taken, AdmissionPath.new, htaken]
    exact Option.some_ne_none channel |>.symm
  steady_allowed _ hh := absurd hh List.not_mem_nil
  steady_open _ hh := absurd hh List.not_mem_nil

end Exact

variable {σ U : Type*}

/-- **Reference counts are exact in a run of exact steps**, and no guard that was allowed all along
has a fired channel. -/
theorem counts_exact_of_exact_steps (feed : PolicyFeed σ U) (source : σ)
    {events : List (SystemEvent U)} {final : PathSystem σ}
    (hrun : run (restrict feed.ExactStep feed.step) (PolicyFeed.assembled source) events =
      some final) :
    final.path.CountsExact ∧ final.path.SteadyUnfired := by
  have hexact : Exact (feed.state final.source) final.path := by
    refine run_induction (I := fun s ↦ Exact (feed.state s.source) s.path) hrun (.new _ rfl) ?_
    rintro e - s s' hs hstep
    obtain ⟨hok, hstep⟩ := restrict_eq_some.1 hstep
    rcases e with e | u
    · obtain ⟨p, hp, rfl⟩ := Option.map_eq_some_iff.1 hstep
      exact hs.step hok hp
    · obtain rfl := Option.some.inj hstep
      exact hs.update _
  exact ⟨hexact.counts, fun h hh _ hs ↦ (hexact.steady_open h hh hs).1⟩

/-! ### Runs that break the counts -/

/-- A connection that is cancelled inside `handle_connection!`, after its watcher was taken. -/
def cancelledRun : List (SystemEvent ProxyState) :=
  [.path (.register podConnection), .path (.check (podHolder .registered 0 true)),
    .path (.watcher (podHolder .guarded 0 true)), .path (.drop (podHolder .running 0 true))]

/-- A guard is closed by an update and outlives the next one, which allows its context again;
another connection of the same key is admitted, and then the first guard is dropped. -/
def staleRun : List (SystemEvent ProxyState) :=
  [.path .subscribe, .path (.register podConnection),
    .path (.check (podHolder .registered 0 true)), .update (.new none), .path .wake,
    .path (.snapshot [podConnection.key]), .path .advance, .path .advance, .path .advance,
    .update openState, .path (.register podConnection),
    .path (.check { podHolder .registered 0 true with channel := 1 }),
    .path (.drop (podHolder .guarded 1 false))]

/-- **The counts are not exact in every run.** The cancelled connection leaves an entry that counts
it for ever, and the stale release fires the channel of a guard that was allowed all along. -/
theorem counts_inexact :
    (∃ final, run PolicyFeed.publish.step (PolicyFeed.assembled openState) cancelledRun =
        some final ∧ ¬ final.path.CountsExact) ∧
      ∃ final, run PolicyFeed.publish.step (PolicyFeed.assembled openState) staleRun =
        some final ∧ ¬ final.path.SteadyUnfired := by
  constructor
  · refine exists_run (fun final ↦ final.path.manager.drains.lookup podConnection.key =
      some (podConnection, ⟨0, 1⟩) ∧ final.path.holding 0 = 0) (by decide) ?_
    rintro final - ⟨hentry, hnone⟩ hexact
    have hcount : 1 = final.path.holding 0 := hexact _ _ _ hentry
    omega
  · refine exists_run (fun final ↦ { podHolder .guarded 2 true with channel := 1 } ∈
      final.path.holders ∧ 1 ∈ final.path.manager.fired) (by decide) ?_
    rintro final - ⟨hmem, hfired⟩ hsteady
    exact hsteady _ hmem rfl rfl hfired

/-- A run of exact steps: the connection is admitted, completes and releases its entry. -/
def exactRun : List (SystemEvent ProxyState) :=
  [.path (.register podConnection), .path (.check (podHolder .registered 0 true)),
    .path (.register podConnection), .path (.watcher (podHolder .guarded 0 true)),
    .path (.complete (podHolder .running 0 true)), .path (.release (podHolder .finished 0 true))]

/-- There the entry is left with the one connection that is still registering. -/
theorem counts_exact_exactRun :
    ∃ final, run (restrict PolicyFeed.publish.ExactStep PolicyFeed.publish.step)
        (PolicyFeed.assembled openState) exactRun = some final ∧
      final.path.holding 0 = 1 ∧ final.path.CountsExact ∧ final.path.SteadyUnfired := by
  exact exists_run (fun final ↦ final.path.holding 0 = 1) (by decide) fun _ hfinal hone ↦
    ⟨hone, counts_exact_of_exact_steps PolicyFeed.publish openState hfinal⟩

end Ztunnel.Proxy
