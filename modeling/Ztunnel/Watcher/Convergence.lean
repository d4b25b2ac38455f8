import Ztunnel.Watcher.Refresh

/-!
# Directory snapshots converge

`AsyncFileWatcher` of `watcher/watcher.rs`. Events of the watch are never applied to the snapshot:
they ask for a scan, through a channel of capacity one. A full channel is a request that is still to
come, so an event that finds it full is not lost. The loop waits for a request or for the tick of
the rescan; after a request it sleeps, and takes one more request out of the channel, before it
scans.

So a request is out of the channel only when a scan is still to start, or has started after the
event. `Covered` says this for each place the loop can be at; with `Serial` it gives
`snapshots_converge`.
-/

namespace Ztunnel.Watcher

open Transition Store

/-! ### The watcher -/

/-- What the callback of the watch is called with. -/
inductive WatchResult where
  | event (access needRescan : Bool)
  | error
deriving DecidableEq, Repr

/-- The callback returns without a request: for accesses that ask for no rescan. -/
def WatchResult.ignored : WatchResult → Bool
  | event access needRescan => !needRescan && access
  | error => false

/-- Where the watcher is: not started, in a refresh (the one of `start` or of the loop), at the
`select!` of the loop, asleep, or dropped. -/
inductive Phase where
  | absent
  | refreshing (id : ℕ)
  | idle
  | debouncing
  | stopped
deriving DecidableEq, Repr

namespace Phase

/-- The watch is installed. -/
def watching : Phase → Bool
  | absent | stopped => false
  | refreshing _ | idle | debouncing => true

variable {V δ : Type} {phase : Phase} {e : StoreEvent δ V}

/-- The loop goes on when its refresh returns, whether or not it failed, and is dropped with it. -/
def after (phase : Phase) : StoreEvent δ V → Phase
  | .resume id => if phase = refreshing id then idle else phase
  | .cancel id => if phase = refreshing id then stopped else phase
  | _ => phase

theorem after_eq_refreshing {id : ℕ} (h : phase.after e = refreshing id) :
    phase = refreshing id ∧ e ≠ .resume id ∧ e ≠ .cancel id := by
  cases e with
  | resume id' =>
    rw [after] at h
    split at h
    · cases h
    · next hne =>
      refine ⟨h, fun heq ↦ ?_, fun heq ↦ nomatch heq⟩
      exact hne (StoreEvent.resume.inj heq ▸ h)
  | cancel id' =>
    rw [after] at h
    split at h
    · cases h
    · next hne =>
      refine ⟨h, (fun heq ↦ nomatch heq), fun heq ↦ ?_⟩
      exact hne (StoreEvent.cancel.inj heq ▸ h)
  | _ => exact ⟨h, (fun heq ↦ nomatch heq), fun heq ↦ nomatch heq⟩

theorem after_eq_idle (h : phase.after e = idle) :
    phase = idle ∨ ∃ id, phase = refreshing id ∧ e = .resume id := by
  cases e with
  | resume id =>
    rw [after] at h
    split at h
    · next heq => exact .inr ⟨id, heq, rfl⟩
    · exact .inl h
  | cancel id =>
    rw [after] at h
    split at h
    · cases h
    · exact .inl h
  | _ => exact .inl h

theorem after_eq_absent (h : phase.after e = absent) : phase = absent := by
  cases e with
  | resume id | cancel id =>
    rw [after] at h
    split at h
    · cases h
    · exact h
  | _ => exact h

end Phase

/-- A store with its watcher. `delivered` are the times of the events that asked for a scan. -/
structure Watched (δ ω P K V : Type) where
  store : Store δ ω P K V
  phase : Phase
  channel : Bool
  delivered : List ℕ

/-- What can happen: something to the store, the start of the watcher, a call of its callback, and
the steps of its loop. -/
inductive Event (δ V : Type) where
  | store (e : StoreEvent δ V)
  | start (id : ℕ)
  | deliver (result : WatchResult)
  | recv
  | elapse (id : ℕ)
  | tick (id : ℕ)
  | abort

variable {δ ω P K V : Type}

namespace Watched

/-- A new store, not watched yet. -/
def new (disk : δ) : Watched δ ω P K V := ⟨.new disk, .absent, false, []⟩

variable [LinearOrder K]

/-- The watcher calls `refresh`. -/
def refresh (store : FileStore δ ω P K V) (s : Watched δ ω P K V) (id : ℕ) (channel : Bool) :
    Option (Watched δ ω P K V) :=
  (s.store.step store (.call id none)).map fun after ↦
    { s with store := after, phase := .refreshing id, channel := channel }

/-- The transitions. -/
def step (store : FileStore δ ω P K V) (s : Watched δ ω P K V) :
    Event δ V → Option (Watched δ ω P K V)
  | .store e => (s.store.step store e).map fun after ↦
    { s with store := after, phase := s.phase.after e }
  -- `start` installs the watch before the first scan
  | .start id => if s.phase = .absent then s.refresh store id s.channel else none
  | .deliver result =>
    if s.phase.watching then
      if result.ignored then some s
      -- `try_send`: the channel is full afterwards, whether or not it was
      else some { s with
        store := s.store.advanceClock
        channel := true
        delivered := s.delivered ++ [s.store.now] }
    else none
  | .recv =>
    if s.phase = .idle ∧ s.channel = true then
      some { s with phase := .debouncing, channel := false }
    else none
  -- `try_recv` after the sleep
  | .elapse id => if s.phase = .debouncing then s.refresh store id false else none
  | .tick id => if s.phase = .idle then s.refresh store id s.channel else none
  | .abort =>
    if s.phase = .idle ∨ s.phase = .debouncing then some { s with phase := .stopped } else none

/-! ### Requests are covered -/

/-- **Every event is covered.** With an empty channel, either the loop has still to scan, or the
scan of its refresh has started after every event, or the last scan has. -/
structure Covered (s : Watched δ ω P K V) : Prop where
  clock : ∀ t ∈ s.delivered, t < s.store.now
  refreshing : ∀ id, s.phase = .refreshing id →
    s.store.calls id = .waiting none ∨ s.store.calls id = .loading
  absent : s.phase = .absent → s.delivered = []
  scanning : ∀ id started, s.phase = .refreshing id → s.channel = false →
    (s.store.tasks id).started = some started → ∀ t ∈ s.delivered, t < started
  idle : s.phase = .idle → s.channel = false →
    ∀ t ∈ s.delivered, ∃ last, s.store.lastStarted = some last ∧ t < last

variable {store : FileStore δ ω P K V} {s s' : Watched δ ω P K V}

omit [LinearOrder K] in
theorem covered_new (disk : δ) : Covered (new disk : Watched δ ω P K V) where
  clock _ h := nomatch h
  refreshing _ h := nomatch h
  absent _ := rfl
  scanning _ _ h := nomatch h
  idle h := nomatch h

theorem Covered.storeStep (h : Covered s) (hserial : Serial store s.store) {e : StoreEvent δ V}
    {after : Store δ ω P K V} (hstep : s.store.step store e = some after) :
    Covered { s with store := after, phase := s.phase.after e } := by
  refine ⟨fun t ht ↦ (h.clock t ht).trans_le (now_le_of_step hstep), fun id hid ↦ ?_,
    fun habsent ↦ h.absent (Phase.after_eq_absent habsent),
    fun id started hid hchannel hstarted t ht ↦ ?_, fun hidle hchannel t ht ↦ ?_⟩
  · obtain ⟨hphase, hresume, hcancel⟩ := Phase.after_eq_refreshing hid
    exact refresh_of_step hstep (h.refreshing id hphase) hresume hcancel
  · obtain ⟨hphase, -, -⟩ := Phase.after_eq_refreshing hid
    rcases started_of_step hstep hstarted with hold | rfl
    · exact h.scanning id started hphase hchannel hold t ht
    · exact h.clock t ht
  · -- the last scan has started after the event, if it is not the one of the refresh that returns
    have hlast : ∃ last, s.store.lastStarted = some last ∧ t < last := by
      rcases Phase.after_eq_idle hidle with hphase | ⟨id, hphase, rfl⟩
      · exact h.idle hphase hchannel t ht
      · obtain ⟨started, hstarted⟩ := started_of_resume hstep
        obtain ⟨-, last, hlast, hle⟩ := hserial.clock id started hstarted
        exact ⟨last, hlast, (h.scanning id started hphase hchannel hstarted t ht).trans_le hle⟩
    obtain ⟨last, hlast, hlt⟩ := hlast
    obtain ⟨last', hlast', hle⟩ := hserial.lastStarted_of_step hstep hlast
    exact ⟨last', hlast', hlt.trans_le hle⟩

/-- The watcher calls `refresh`: its scan is still to start. -/
theorem Covered.refresh (h : Covered s) (hserial : Serial store s.store) {id : ℕ} {channel : Bool}
    (hrefresh : s.refresh store id channel = some s') : Covered s' := by
  obtain ⟨after, hstep, rfl⟩ := Option.map_eq_some_iff.1 hrefresh
  obtain ⟨habsent, rfl⟩ := refresh_of_call hstep
  have hstarted : (s.store.tasks id).started = none := by
    rw [hserial.unspawned id (.inl habsent)]
    rfl
  refine ⟨h.clock, fun id' hid' ↦ ?_, (fun habsent ↦ nomatch habsent),
    fun id' started hid' _ hsome ↦ ?_, fun hidle ↦ nomatch hidle⟩
  · obtain rfl := Phase.refreshing.inj hid'
    exact .inl (calls_setCall_self ..)
  · obtain rfl := Phase.refreshing.inj hid'
    cases hstarted.symm.trans hsome

omit [LinearOrder K] in
/-- The loop sleeps before its scan, or is dropped: nothing has to be covered. -/
theorem Covered.away (h : Covered s) {phase : Phase} {channel : Bool}
    (hphase : phase = .debouncing ∨ phase = .stopped) :
    Covered { s with phase := phase, channel := channel } := by
  refine ⟨h.clock, fun id hid ↦ ?_, fun habsent ↦ ?_, fun id _ hid ↦ ?_, fun hidle ↦ ?_⟩
  · rcases hphase with hphase | hphase <;> cases hphase.symm.trans hid
  · rcases hphase with hphase | hphase <;> cases hphase.symm.trans habsent
  · rcases hphase with hphase | hphase <;> cases hphase.symm.trans hid
  · rcases hphase with hphase | hphase <;> cases hphase.symm.trans hidle

/-- **Every transition keeps the events covered**, and the refreshes serial. -/
theorem Covered.step (h : Covered s) (hserial : Serial store s.store) {e : Event δ V}
    (hstep : s.step store e = some s') : Covered s' ∧ Serial store s'.store := by
  have hrefresh : ∀ {id channel}, s.refresh store id channel = some s' →
      Covered s' ∧ Serial store s'.store := by
    intro id channel hrefresh
    refine ⟨h.refresh hserial hrefresh, ?_⟩
    obtain ⟨after, hcall, rfl⟩ := Option.map_eq_some_iff.1 hrefresh
    exact hserial.step hcall
  cases e with
  | store e =>
    obtain ⟨after, hafter, rfl⟩ := Option.map_eq_some_iff.1 hstep
    exact ⟨h.storeStep hserial hafter, hserial.step hafter⟩
  | start id | elapse id | tick id => exact hrefresh (Option.ite_none_right_eq_some.1 hstep).2
  | deliver result =>
    obtain ⟨hwatching, hstep⟩ := Option.ite_none_right_eq_some.1 hstep
    split at hstep
    · exact Option.some.inj hstep ▸ ⟨h, hserial⟩
    · obtain rfl := Option.some.inj hstep
      refine ⟨⟨fun t ht ↦ ?_, h.refreshing, fun habsent ↦ ?_, ?_, ?_⟩, hserial.advanceClock⟩
      · rcases List.mem_append.1 ht with ht | ht
        · exact Nat.lt_succ_of_lt (h.clock t ht)
        · rw [List.mem_singleton.1 ht]
          exact Nat.lt_succ_self _
      · rw [show s.phase = .absent from habsent] at hwatching
        cases hwatching
      · exact fun _ _ _ hchannel ↦ nomatch hchannel
      · exact fun _ hchannel ↦ nomatch hchannel
  | recv =>
    obtain rfl := Option.some.inj (Option.ite_none_right_eq_some.1 hstep).2
    exact ⟨h.away (.inl rfl), hserial⟩
  | abort =>
    obtain rfl := Option.some.inj (Option.ite_none_right_eq_some.1 hstep).2
    exact ⟨h.away (.inr rfl), hserial⟩

/-! ### Runs -/

/-- The state after any events. -/
theorem serial_covered_of_run {disk : δ} {events : List (Event δ V)}
    (hrun : run (step store) (new disk) events = some s) : Covered s ∧ Serial store s.store :=
  run_induction (I := fun s ↦ Covered s ∧ Serial store s.store) hrun
    ⟨covered_new disk, serial_new disk⟩ fun _ _ _ _ h hstep ↦ h.1.step h.2 hstep

/-- Only a refresh that succeeds changes the snapshot. -/
theorem snapshot_of_step {e : Event δ V} (hstep : s.step store e = some s')
    (hne : s'.store.snapshot ≠ s.store.snapshot) :
    ∃ id v, e = .store (.resume id) ∧ s.store.calls id = .loading ∧
      s'.store.calls id = .returned (.loaded v) := by
  have hrefresh : ∀ {id channel}, s.refresh store id channel ≠ some s' := by
    intro id channel hrefresh
    obtain ⟨after, hcall, rfl⟩ := Option.map_eq_some_iff.1 hrefresh
    obtain ⟨-, rfl⟩ := refresh_of_call hcall
    exact hne rfl
  cases e with
  | store e =>
    obtain ⟨after, hafter, rfl⟩ := Option.map_eq_some_iff.1 hstep
    obtain ⟨id, v, rfl, hcall, hreturned⟩ := Store.snapshot_of_step hafter hne
    exact ⟨id, v, rfl, hcall, hreturned⟩
  | start id | elapse id | tick id =>
    exact absurd (Option.ite_none_right_eq_some.1 hstep).2 hrefresh
  | deliver result =>
    obtain ⟨-, hstep⟩ := Option.ite_none_right_eq_some.1 hstep
    split at hstep
    · exact absurd (Option.some.inj hstep ▸ rfl) hne
    · obtain rfl := Option.some.inj hstep
      exact absurd rfl hne
  | recv | abort =>
    obtain rfl := Option.some.inj (Option.ite_none_right_eq_some.1 hstep).2
    exact absurd rfl hne

/-- **Directory snapshots converge.** After any interleaving of file changes, events of the watch,
rescans, calls of `get_or_load`, scans that fail and refreshes that are cancelled:

* every snapshot that was published is the result of a scan that ran to its end;
* the snapshot is the one published last, nothing was published by a call that failed or was
  cancelled, and whatever happens next changes the snapshot only as the success of a refresh;
* the snapshots were published in the order in which their scans started;
* if the loop is idle and the channel is empty, the last scan started after every event. -/
theorem snapshots_converge (store : FileStore δ ω P K V) {disk : δ} {events : List (Event δ V)}
    {s : Watched δ ω P K V} (hrun : run (step store) (new disk) events = some s) :
    (∀ p ∈ s.store.published, ∃ seen,
      s.store.tasks p.call = .finished p.started seen (.ok p.snapshot) ∧
        seen.foldl (Scan.step store) (.start store) = .done (.ok p.snapshot)) ∧
    (s.store.snapshot = latest s.store.published ∧
      (∀ id, s.store.calls id = .cancelled ∨ (∃ e, s.store.calls id = .returned (.failed e)) →
        ∀ p ∈ s.store.published, p.call ≠ id) ∧
      ∀ e s', s.step store e = some s' → s'.store.snapshot ≠ s.store.snapshot →
        ∃ id v, e = .store (.resume id) ∧ s'.store.calls id = .returned (.loaded v)) ∧
    s.store.published.Pairwise (·.started < ·.started) ∧
    (s.phase = .idle → s.channel = false →
      ∀ t ∈ s.delivered, ∃ last, s.store.lastStarted = some last ∧ t < last) := by
  obtain ⟨hcovered, hserial⟩ := serial_covered_of_run hrun
  refine ⟨fun p hp ↦ ?_, ⟨hserial.current, ?_, fun e s' hstep hne ↦ ?_⟩, hserial.order,
    hcovered.idle⟩
  · obtain ⟨-, seen, htask⟩ := hserial.published p hp
    have hreplays := hserial.replays p.call
    rw [htask] at hreplays
    exact ⟨seen, htask, hreplays.resolve_left fun h ↦ nomatch h⟩
  · rintro id hfailed p hp rfl
    obtain ⟨⟨v, hv⟩, -⟩ := hserial.published p hp
    rw [hv] at hfailed
    rcases hfailed with hfailed | ⟨e, hfailed⟩ <;> cases hfailed
  · obtain ⟨id, v, hevent, -, hreturned⟩ := snapshot_of_step hstep hne
    exact ⟨id, v, hevent, hreturned⟩

/-- A directory with at most one file. -/
def tokenDirectory : Directory (Option String) Bool Unit where
  root := true
  next disk fresh := if fresh && disk.isSome then some (.file (), false) else none
  read disk _ :=
    match disk with
    | some text => .content text
    | none => .notFound

def tokenStore : FileStore (Option String) Bool Unit ℕ String where
  path := tokenDirectory
  transform := some
  keyFunc _ := some 0

/-- The first scan finds nothing. The file is written, with an event; the scan of the loop finds it.
Another refresh is cancelled after its scan has started. -/
def tokenRun : List (Event (Option String) String) :=
  [.start 0, .store (.acquire 0), .store (.startScan 0), .store (.advance 0), .store (.resume 0),
    .store (.change (some "token")), .deliver (.event false false), .recv, .elapse 1,
    .store (.acquire 1), .store (.startScan 1), .store (.advance 1), .store (.advance 1),
    .store (.advance 1), .store (.resume 1), .store (.change none),
    .store (.call 2 (some fun _ ↦ false)), .store (.acquire 2), .store (.startScan 2),
    .store (.cancel 2), .store (.advance 2)]

theorem snapshots_converge_tokenRun :
    ∃ s, run (step tokenStore) (new none) tokenRun = some s ∧
      Store.first s.store.snapshot = some "token" ∧ s.store.published.length = 2 ∧
      s.store.published.Pairwise (·.started < ·.started) ∧
      s.delivered ≠ [] ∧ ∀ t ∈ s.delivered, ∃ last, s.store.lastStarted = some last ∧ t < last := by
  refine exists_run (fun s ↦ Store.first s.store.snapshot = some "token" ∧
    s.store.published.length = 2 ∧ s.delivered ≠ [] ∧ s.phase = .idle ∧ s.channel = false)
    (by decide) ?_
  rintro s hs ⟨hfirst, hlength, hdelivered, hidle, hchannel⟩
  obtain ⟨-, -, horder, hcovered⟩ := snapshots_converge tokenStore hs
  exact ⟨hfirst, hlength, horder, hdelivered, hcovered hidle hchannel⟩

/-- **A steady directory is published as it is**: if the scan of a publication saw one disk only,
it published the first file of each key there. -/
theorem published_of_steady {disk₀ : δ} {events : List (Event δ V)}
    (hrun : run (step store) (new disk₀) events = some s) {p : Publication K V}
    (hp : p ∈ s.store.published) :
    ∃ seen, s.store.tasks p.call = .finished p.started seen (.ok p.snapshot) ∧
      ∀ disk entries, (∀ d ∈ seen, d = disk) →
        Scan.Walks store.path disk store.path.root entries →
        ∀ key, p.snapshot.lookup key = entries.findSome? (store.valueAt disk key) := by
  have hserial := (serial_covered_of_run hrun).2
  obtain ⟨-, seen, htask⟩ := hserial.published p hp
  refine ⟨seen, htask, fun disk entries hseen hwalks key ↦ ?_⟩
  have hreplays := hserial.replays p.call
  rw [htask] at hreplays
  have hdone := hreplays.resolve_left fun h ↦ nomatch h
  have hresult := Scan.result_of_steady hwalks hseen hdone
  rw [FileStore.lookup_scan hresult.symm, AList.lookup_empty, Option.none_or]

/-- The second scan saw the directory with its file only, and published the file. -/
theorem published_of_steady_tokenRun :
    ∃ s, run (step tokenStore) (new none) tokenRun = some s ∧ ∃ p ∈ s.store.published,
      (s.store.tasks p.call).seen = [some "token", some "token", some "token"] ∧
        Scan.Walks tokenStore.path (some "token") tokenStore.path.root [.file ()] ∧
        p.snapshot.lookup 0 = some "token" := by
  refine exists_run (fun s ↦ ∃ p ∈ s.store.published,
    (s.store.tasks p.call).seen = [some "token", some "token", some "token"]) (by decide) ?_
  rintro s hs ⟨p, hp, hseen⟩
  have hwalks : Scan.Walks tokenStore.path (some "token") tokenStore.path.root [.file ()] :=
    .cons rfl (.nil rfl)
  obtain ⟨seen, htask, hsteady⟩ := published_of_steady hs hp
  refine ⟨p, hp, hseen, hwalks, hsteady _ _ (fun d hd ↦ ?_) hwalks 0⟩
  rw [htask] at hseen
  obtain rfl : seen = _ := hseen
  simpa using hd

end Watched

end Ztunnel.Watcher
