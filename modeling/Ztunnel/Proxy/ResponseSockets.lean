import Mathlib.Data.List.Perm.Basic
import Ztunnel.Lib.Index
import Ztunnel.Lib.Transition
import Ztunnel.Net

/-!
# The response sockets of UDP sessions

`ResponseSocketPool` of `proxy/outbound_udp.rs`: the sessions to one destination answer from one
socket, bound when the first of them needs it and closed with the last. The map counts the users of
each socket by hand, under a lock that is held for the whole of `acquire`, creation included, and
for the whole of the drop of a lease; so both are single steps.

A drop looks up its destination with `unwrap` and subtracts from a `usize`. Both would panic on a
map that has lost the entry or counts too few users, so that they do not is part of the invariant
(`Balanced`) and not of the code: there is an entry with a positive count as long as a lease is
live, because the count is the number of live leases.
-/

namespace Ztunnel.Proxy

/-! ### The pool -/

/-- `ResponseSocketEntry`. -/
structure ResponseSocketEntry (S : Type) where
  socket : S
  users : ℕ
deriving DecidableEq, Repr

/-- `ResponseSocketPool`. -/
structure ResponseSocketPool (S : Type) where
  entries : AList fun _ : SocketAddr ↦ ResponseSocketEntry S

/-- `ResponseSocketLease`, until it is dropped. -/
structure ResponseSocketLease (S : Type) where
  destination : SocketAddr
  socket : S
deriving DecidableEq, Repr

/-- How the drop of a lease can panic. -/
inductive LeasePanic where
  | unwrapNone
  | subtractOverflow
deriving DecidableEq, Repr

namespace ResponseSocketPool

variable {S E : Type}

/-- `ResponseSocketPool::default`. -/
def empty : ResponseSocketPool S := ⟨∅⟩

/-- `ResponseSocketPool::acquire`, with what `create` returns if it is called. -/
def acquire (pool : ResponseSocketPool S) (destination : SocketAddr) (create : Except E S) :
    Except E (ResponseSocketLease S) × ResponseSocketPool S :=
  match pool.entries.lookup destination with
  | some entry =>
    (.ok ⟨destination, entry.socket⟩,
      ⟨pool.entries.insert destination { entry with users := entry.users + 1 }⟩)
  | none =>
    match create with
    | .error e => (.error e, pool)
    | .ok socket => (.ok ⟨destination, socket⟩, ⟨pool.entries.insert destination ⟨socket, 0 + 1⟩⟩)

/-- `ResponseSocketLease::drop`. -/
def dropLease (pool : ResponseSocketPool S) (lease : ResponseSocketLease S) :
    Except LeasePanic (ResponseSocketPool S) :=
  match pool.entries.lookup lease.destination with
  | none => .error .unwrapNone
  | some ⟨_, 0⟩ => .error .subtractOverflow
  | some ⟨socket, users + 1⟩ =>
    if users = 0 then .ok ⟨pool.entries.erase lease.destination⟩
    else .ok ⟨pool.entries.insert lease.destination ⟨socket, users⟩⟩

/-- What an acquisition can do: share the socket of the destination, bind one, or fail. -/
theorem acquire_cases (pool : ResponseSocketPool S) (destination : SocketAddr)
    (create : Except E S) :
    (∃ entry, pool.entries.lookup destination = some entry ∧
      pool.acquire destination create = (.ok ⟨destination, entry.socket⟩,
        ⟨pool.entries.insert destination { entry with users := entry.users + 1 }⟩)) ∨
    (∃ socket, pool.entries.lookup destination = none ∧ create = .ok socket ∧
      pool.acquire destination create = (.ok ⟨destination, socket⟩,
        ⟨pool.entries.insert destination ⟨socket, 1⟩⟩)) ∨
    (∃ e, pool.entries.lookup destination = none ∧ create = .error e ∧
      pool.acquire destination create = (.error e, pool)) := by
  unfold acquire
  cases hlookup : pool.entries.lookup destination with
  | some entry => exact .inl ⟨entry, rfl, rfl⟩
  | none =>
    cases create with
    | ok socket => exact .inr (.inl ⟨socket, rfl, rfl, rfl⟩)
    | error e => exact .inr (.inr ⟨e, rfl, rfl, rfl⟩)

/-- **A failed creation leaves the map as it is.** -/
theorem acquire_eq_self {pool : ResponseSocketPool S} {destination : SocketAddr}
    {create : Except E S} {e : E} (h : (pool.acquire destination create).1 = .error e) :
    (pool.acquire destination create).2 = pool := by
  obtain ⟨entry, -, heq⟩ | ⟨socket, -, -, heq⟩ | ⟨e', -, -, heq⟩ :=
    pool.acquire_cases destination create
  · rw [heq] at h
    cases h
  · rw [heq] at h
    cases h
  · rw [heq]

/-- The drop of a lease whose entry counts a user. -/
theorem dropLease_of_lookup {pool : ResponseSocketPool S} {lease : ResponseSocketLease S}
    {socket : S} {users : ℕ}
    (h : pool.entries.lookup lease.destination = some ⟨socket, users + 1⟩) :
    pool.dropLease lease =
      if users = 0 then .ok ⟨pool.entries.erase lease.destination⟩
      else .ok ⟨pool.entries.insert lease.destination ⟨socket, users⟩⟩ := by
  rw [dropLease, h]

end ResponseSocketPool

/-! ### Runs -/

variable {S E : Type}

/-- A pool and the leases that are live. -/
structure ResponseSockets (S : Type) where
  pool : ResponseSocketPool S
  leases : List (ResponseSocketLease S)

namespace ResponseSockets

/-- What happens to the pool: a session acquires a socket, or its lease is dropped. -/
inductive Event (S E : Type) where
  | acquire (destination : SocketAddr) (create : Except E S)
  | drop (k : ℕ)

def init : ResponseSockets S := ⟨.empty, []⟩

/-- One acquisition or drop. -/
def step (s : ResponseSockets S) : Event S E → Option (ResponseSockets S)
  | .acquire destination create =>
    match s.pool.acquire destination create with
    | (.ok lease, pool) => some ⟨pool, s.leases ++ [lease]⟩
    | (.error _, pool) => some { s with pool := pool }
  | .drop k =>
    s.leases[k]?.bind fun lease ↦
      (s.pool.dropLease lease).toOption.map fun pool ↦ ⟨pool, s.leases.eraseIdx k⟩

/-- The live leases of a destination. -/
def users (s : ResponseSockets S) (destination : SocketAddr) : ℕ :=
  s.leases.countP (·.destination = destination)

/-- **The invariant**: an entry counts the live leases of its destination, of which there are some,
and they hold its socket; a destination without an entry has none. -/
structure Balanced (s : ResponseSockets S) : Prop where
  vacant : ∀ destination, s.pool.entries.lookup destination = none → s.users destination = 0
  occupied : ∀ destination entry, s.pool.entries.lookup destination = some entry →
    entry.users = s.users destination ∧ 0 < entry.users
  shared : ∀ destination entry, s.pool.entries.lookup destination = some entry →
    ∀ lease ∈ s.leases, lease.destination = destination → lease.socket = entry.socket

namespace Balanced

variable {s s' : ResponseSockets S}

theorem init : Balanced (init : ResponseSockets S) where
  vacant _ _ := rfl
  occupied _ _ h := by cases h
  shared _ _ h := by cases h

/-- The entry of a live lease. -/
theorem lookup_of_mem (h : s.Balanced) {lease : ResponseSocketLease S} (hlease : lease ∈ s.leases) :
    ∃ users, s.pool.entries.lookup lease.destination = some ⟨lease.socket, users + 1⟩ ∧
      users + 1 = s.users lease.destination := by
  have hpos : 0 < s.users lease.destination :=
    List.countP_pos_iff.2 ⟨lease, hlease, decide_eq_true rfl⟩
  cases hlookup : s.pool.entries.lookup lease.destination with
  | none =>
    have := h.vacant _ hlookup
    omega
  | some entry =>
    obtain ⟨socket, users⟩ := entry
    obtain ⟨hcount, husers⟩ := h.occupied _ _ hlookup
    obtain rfl := h.shared _ _ hlookup lease hlease rfl
    obtain ⟨users, rfl⟩ := Nat.exists_eq_succ_of_ne_zero (Nat.ne_of_gt husers)
    exact ⟨users, rfl, hcount⟩

theorem acquired (h : s.Balanced) {destination : SocketAddr} {socket : S} {users : ℕ}
    (husers : users = s.users destination)
    (hsocket : ∀ lease ∈ s.leases, lease.destination = destination → lease.socket = socket) :
    Balanced ⟨⟨s.pool.entries.insert destination ⟨socket, users + 1⟩⟩,
      s.leases ++ [⟨destination, socket⟩]⟩ := by
  have hcount : ∀ d, List.countP (fun lease ↦ decide (lease.destination = d))
      (s.leases ++ [⟨destination, socket⟩]) = s.users d + if destination = d then 1 else 0 := by
    intro d
    rw [List.countP_append, List.countP_singleton]
    simp only [decide_eq_true_eq]
    rfl
  refine ⟨fun d hd ↦ ?_, fun d entry hd ↦ ?_, fun d entry hd lease hlease hdest ↦ ?_⟩
  · have hne : d ≠ destination := by
      rintro rfl
      rw [AList.lookup_insert] at hd
      cases hd
    rw [AList.lookup_insert_ne hne] at hd
    rw [ResponseSockets.users, hcount, h.vacant d hd, if_neg hne.symm]
  · rw [ResponseSockets.users, hcount]
    obtain ⟨rfl, rfl⟩ | ⟨hne, hd⟩ := Index.lookup_insert_eq_some.1 hd
    · rw [if_pos rfl, ← husers]
      exact ⟨rfl, Nat.succ_pos users⟩
    · rw [if_neg hne.symm]
      exact h.occupied d entry hd
  · obtain hold | hnew := List.mem_append.1 hlease
    · obtain ⟨rfl, rfl⟩ | ⟨-, hd⟩ := Index.lookup_insert_eq_some.1 hd
      · exact hsocket lease hold hdest
      · exact h.shared d entry hd lease hold hdest
    · obtain rfl := List.mem_singleton.1 hnew
      obtain rfl : destination = d := hdest
      rw [AList.lookup_insert] at hd
      cases hd
      rfl

/-- A lease is dropped, and the count of its destination goes down; at zero the entry goes. -/
theorem dropped (h : s.Balanced) {k : ℕ} {lease : ResponseSocketLease S}
    (hlease : s.leases[k]? = some lease) {pool : ResponseSocketPool S}
    (hdrop : s.pool.dropLease lease = .ok pool) : Balanced ⟨pool, s.leases.eraseIdx k⟩ := by
  obtain ⟨hk, rfl⟩ := List.getElem?_eq_some_iff.1 hlease
  have hcount : ∀ d, s.users d = (s.leases.eraseIdx k).countP (·.destination = d) +
      if s.leases[k].destination = d then 1 else 0 := by
    intro d
    have hperm := (List.getElem_cons_eraseIdx_perm hk).countP_eq (·.destination = d)
    rw [List.countP_cons] at hperm
    simp only [decide_eq_true_eq] at hperm
    exact hperm.symm
  obtain ⟨users, hlookup, husers⟩ := h.lookup_of_mem (List.getElem_mem hk)
  rw [ResponseSocketPool.dropLease_of_lookup hlookup] at hdrop
  have hrest : ∀ d, s.leases[k].destination ≠ d →
      (s.leases.eraseIdx k).countP (·.destination = d) = s.users d := by
    intro d hne
    rw [hcount d, if_neg hne, Nat.add_zero]
  have hself : (s.leases.eraseIdx k).countP (·.destination = s.leases[k].destination) = users := by
    have := hcount s.leases[k].destination
    rw [if_pos rfl] at this
    omega
  split at hdrop <;> cases hdrop
  · next hzero =>
    refine ⟨fun d hd ↦ ?_, fun d entry hd ↦ ?_, fun d entry hd l hl hdest ↦ ?_⟩
    · by_cases hne : s.leases[k].destination = d
      · subst hne
        exact hself.trans hzero
      · rw [AList.lookup_erase_ne (Ne.symm hne)] at hd
        exact (hrest d hne).trans (h.vacant d hd)
    · obtain ⟨hne, hd⟩ := Index.lookup_erase_eq_some.1 hd
      rw [ResponseSockets.users, hrest d (Ne.symm hne)]
      exact h.occupied d entry hd
    · exact h.shared d entry (Index.lookup_erase_eq_some.1 hd).2 l (List.mem_of_mem_eraseIdx hl)
        hdest
  · next hpos =>
    refine ⟨fun d hd ↦ ?_, fun d entry hd ↦ ?_, fun d entry hd l hl hdest ↦ ?_⟩
    · have hne : d ≠ s.leases[k].destination := by
        rintro rfl
        rw [AList.lookup_insert] at hd
        cases hd
      rw [AList.lookup_insert_ne hne] at hd
      exact (hrest d hne.symm).trans (h.vacant d hd)
    · obtain ⟨rfl, rfl⟩ | ⟨hne, hd⟩ := Index.lookup_insert_eq_some.1 hd
      · exact ⟨hself.symm, Nat.pos_of_ne_zero hpos⟩
      · rw [ResponseSockets.users, hrest d hne.symm]
        exact h.occupied d entry hd
    · have hl' := List.mem_of_mem_eraseIdx hl
      obtain ⟨rfl, rfl⟩ | ⟨-, hd⟩ := Index.lookup_insert_eq_some.1 hd
      · exact h.shared _ _ hlookup l hl' hdest
      · exact h.shared d entry hd l hl' hdest

/-- **The drop of a live lease does not panic.** -/
theorem dropLease_ok (h : s.Balanced) {lease : ResponseSocketLease S} (hlease : lease ∈ s.leases) :
    ∃ pool, s.pool.dropLease lease = .ok pool := by
  obtain ⟨users, hlookup, -⟩ := h.lookup_of_mem hlease
  rw [ResponseSocketPool.dropLease_of_lookup hlookup]
  split
  · exact ⟨_, rfl⟩
  · exact ⟨_, rfl⟩

theorem step (h : s.Balanced) {event : Event S E} (hstep : s.step event = some s') :
    s'.Balanced := by
  cases event with
  | acquire destination create =>
    obtain ⟨entry, hlookup, heq⟩ | ⟨socket, hlookup, -, heq⟩ | ⟨e, -, -, heq⟩ :=
      s.pool.acquire_cases destination create
    · simp only [ResponseSockets.step, heq, Option.some.injEq] at hstep
      subst hstep
      exact h.acquired (h.occupied _ _ hlookup).1 (h.shared _ _ hlookup)
    · simp only [ResponseSockets.step, heq, Option.some.injEq] at hstep
      subst hstep
      have hnone := h.vacant _ hlookup
      refine h.acquired hnone.symm fun lease hlease hdest ↦ ?_
      exact absurd (List.countP_pos_iff.2 ⟨lease, hlease, decide_eq_true hdest⟩)
        (Nat.not_lt.2 (Nat.le_of_eq hnone))
    · simp only [ResponseSockets.step, heq, Option.some.injEq] at hstep
      subst hstep
      exact h
  | drop k =>
    obtain ⟨lease, hlease, hmap⟩ := Option.bind_eq_some_iff.1 hstep
    obtain ⟨pool, hpool, rfl⟩ := Option.map_eq_some_iff.1 hmap
    refine h.dropped hlease ?_
    cases hdrop : s.pool.dropLease lease with
    | error panic =>
      rw [hdrop] at hpool
      cases hpool
    | ok pool' =>
      rw [hdrop] at hpool
      exact congrArg Except.ok (Option.some.inj hpool)

end Balanced

/-- **Response sockets are shared**: in every run of acquisitions and drops there is an entry for a
destination iff a lease for it is live, its count is the number of live leases, which all hold the
same socket; a failed creation leaves the map as it is, and no drop of a live lease panics. -/
theorem response_sockets_shared {s : ResponseSockets S} {events : List (Event S E)}
    (hrun : Transition.run step init events = some s) :
    (∀ destination, destination ∈ s.pool.entries ↔
      ∃ lease ∈ s.leases, lease.destination = destination) ∧
    (∀ destination entry, s.pool.entries.lookup destination = some entry →
      entry.users = s.users destination) ∧
    (∀ lease ∈ s.leases, ∀ lease' ∈ s.leases, lease.destination = lease'.destination →
      lease.socket = lease'.socket) ∧
    (∀ destination (create : Except E S) (e : E),
      (s.pool.acquire destination create).1 = .error e →
        (s.pool.acquire destination create).2 = s.pool) ∧
    (∀ lease ∈ s.leases, ∃ pool, s.pool.dropLease lease = .ok pool) := by
  have hs : s.Balanced :=
    Transition.run_induction hrun Balanced.init fun _ _ _ _ hs hstep ↦ hs.step hstep
  refine ⟨fun destination ↦ ⟨fun hmem ↦ ?_, ?_⟩, ?_, ?_, ?_, ?_⟩
  · obtain ⟨entry, hentry⟩ := Option.isSome_iff_exists.1 (AList.lookup_isSome.2 hmem)
    obtain ⟨husers, hpos⟩ := hs.occupied destination entry hentry
    obtain ⟨lease, hlease, hdest⟩ := List.countP_pos_iff.1 (husers ▸ hpos)
    exact ⟨lease, hlease, of_decide_eq_true hdest⟩
  · rintro ⟨lease, hlease, rfl⟩
    obtain ⟨users, hlookup, -⟩ := hs.lookup_of_mem hlease
    exact AList.lookup_isSome.1 (hlookup ▸ rfl)
  · exact fun destination entry hentry ↦ (hs.occupied destination entry hentry).1
  · intro lease hlease lease' hlease' hdest
    obtain ⟨users, hlookup, -⟩ := hs.lookup_of_mem hlease'
    exact hs.shared _ _ hlookup lease hlease hdest
  · exact fun destination create e herror ↦ ResponseSocketPool.acquire_eq_self herror
  · exact fun lease hlease ↦ hs.dropLease_ok hlease

/-- A destination of the run below. -/
def sampleDestination : SocketAddr := ⟨.v4 0x08080808, 53⟩

/-- Two sessions to one destination, and a third whose socket cannot be bound; then the first
ends. -/
def sharingRun : List (Event ℕ Unit) :=
  [.acquire sampleDestination (.ok 1), .acquire sampleDestination (.ok 2),
    .acquire ⟨.v4 0x08080808, 54⟩ (.error ()), .drop 0]

theorem response_sockets_shared_sharingRun :
    ∃ s : ResponseSockets ℕ, Transition.run (step (E := Unit)) init sharingRun = some s ∧
      s.leases = [⟨sampleDestination, 1⟩] ∧ sampleDestination ∈ s.pool.entries ∧
      ∃ pool, s.pool.dropLease ⟨sampleDestination, 1⟩ = .ok pool := by
  refine Transition.exists_run (fun s ↦ s.leases = [⟨sampleDestination, 1⟩]) (by decide)
    fun s hs hleases ↦ ?_
  have hlease : (⟨sampleDestination, 1⟩ : ResponseSocketLease ℕ) ∈ s.leases := by
    rw [hleases]
    exact List.mem_singleton_self _
  obtain ⟨hentry, -, -, -, hdrop⟩ := response_sockets_shared hs
  exact ⟨hleases, (hentry _).2 ⟨_, hlease, rfl⟩, hdrop _ hlease⟩

end ResponseSockets

end Ztunnel.Proxy
