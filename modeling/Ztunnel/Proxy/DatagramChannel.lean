import Ztunnel.Proxy.Capsule

/-!
# The queue of a UDP session (`proxy/outbound_udp.rs`)

A session gets its datagrams through a bounded queue. Besides the number of datagrams, their bytes
are bounded: a datagram keeps its share of the byte capacity until it is dropped, which may be some
time after it was received.
-/

namespace Ztunnel.Proxy

open Capsule (Bytes)

/-- The two ends of a session's queue, `DatagramSender` and `DatagramReceiver`: the datagrams in it,
those the receiver has taken and still holds, and whether the receiver is gone. -/
structure DatagramChannel where
  maxDatagrams : ℕ
  maxBytes : ℕ
  queued : List Bytes
  held : List Bytes
  closed : Bool
  deriving DecidableEq

inductive DatagramTrySendError where
  | full
  | closed (payload : Bytes)
  deriving DecidableEq

/-- `u32::MAX`. -/
def u32Max : ℕ := 2 ^ 32 - 1

def datagramChannelWithLimits (maxDatagrams maxBytes : ℕ) : DatagramChannel where
  maxDatagrams := max maxDatagrams 1
  maxBytes := min (max maxBytes 1) u32Max
  queued := []
  held := []
  closed := false

namespace DatagramChannel

/-- The share of the byte capacity that a datagram takes: an empty one takes a byte, and one that
exceeds the capacity takes all of it. -/
def permits (c : DatagramChannel) (payload : Bytes) : ℕ :=
  min (max payload.length 1) c.maxBytes

/-- The permits that are left in the semaphore. -/
def byteCapacity (c : DatagramChannel) : ℕ :=
  c.maxBytes - ((c.queued ++ c.held).map c.permits).sum

/-- `DatagramSender::try_send`: first the bytes, then the queue itself, which is closed if the
receiver is gone and full if there is no slot. -/
def trySend (c : DatagramChannel) (payload : Bytes) : Except DatagramTrySendError DatagramChannel :=
  if c.byteCapacity < c.permits payload then .error .full
  else if c.closed then .error (.closed payload)
  else if c.queued.length ≥ c.maxDatagrams then .error .full
  else .ok { c with queued := c.queued ++ [payload] }

/-- `DatagramReceiver::try_recv`, and `recv` where it does not have to wait. -/
def tryRecv (c : DatagramChannel) : Option (Bytes × DatagramChannel) :=
  match c.queued with
  | [] => none
  | payload :: queued => some (payload, { c with queued := queued, held := c.held ++ [payload] })

/-- The receiver drops the datagrams it holds. -/
def release (c : DatagramChannel) : DatagramChannel := { c with held := [] }

/-- The receiver is dropped, and with it all datagrams. -/
def close (c : DatagramChannel) : DatagramChannel :=
  { c with queued := [], held := [], closed := true }

theorem trySend_ok {c c' : DatagramChannel} {payload : Bytes} (h : c.trySend payload = .ok c') :
    c' = { c with queued := c.queued ++ [payload] } := by
  unfold trySend at h
  split at h
  · exact nomatch h
  split at h
  · exact nomatch h
  split at h
  · exact nomatch h
  · exact (Except.ok.inj h).symm

theorem tryRecv_eq_some {c c' : DatagramChannel} {payload : Bytes} :
    c.tryRecv = some (payload, c') ↔ ∃ queued, c.queued = payload :: queued ∧
      c' = { c with queued := queued, held := c.held ++ [payload] } := by
  unfold tryRecv
  rcases c.queued with - | ⟨first, queued⟩
  · exact ⟨fun h ↦ (nomatch h), fun ⟨_, h, _⟩ ↦ (nomatch h)⟩
  · constructor
    · intro h
      obtain ⟨rfl, rfl⟩ := Prod.mk.inj (Option.some.inj h)
      exact ⟨queued, rfl, rfl⟩
    · rintro ⟨queued', heq, rfl⟩
      obtain ⟨rfl, rfl⟩ := List.cons.inj heq
      rfl

theorem tryRecv_eq_none {c : DatagramChannel} : c.tryRecv = none ↔ c.queued = [] := by
  unfold tryRecv
  rcases c.queued with - | ⟨first, queued⟩
  · exact ⟨fun _ ↦ rfl, fun _ ↦ rfl⟩
  · exact ⟨fun h ↦ (nomatch h), fun h ↦ (nomatch h)⟩

/-- **A new queue takes its first datagram**, whatever its size and the limits. -/
theorem trySend_new (maxDatagrams maxBytes : ℕ) (payload : Bytes) :
    (datagramChannelWithLimits maxDatagrams maxBytes).trySend payload =
      .ok { datagramChannelWithLimits maxDatagrams maxBytes with queued := [payload] } := by
  have hbytes : ¬(datagramChannelWithLimits maxDatagrams maxBytes).byteCapacity <
      (datagramChannelWithLimits maxDatagrams maxBytes).permits payload := by
    rw [permits]
    show ¬(datagramChannelWithLimits maxDatagrams maxBytes).maxBytes - 0 < _
    omega
  have hopen : ¬(datagramChannelWithLimits maxDatagrams maxBytes).closed = true :=
    Bool.false_ne_true
  have hslot : ¬0 ≥ max maxDatagrams 1 := by omega
  rw [trySend, if_neg hbytes, if_neg hopen]
  exact if_neg hslot

end DatagramChannel

end Ztunnel.Proxy
