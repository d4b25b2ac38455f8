import Mathlib.Algebra.Order.Ring.Int
import Mathlib.Data.List.Basic

/-!
# Addresses, networks and packets

The vocabulary the policy engine and the firewall share: IP addresses of either family, CIDR
networks (`ipnet::IpNet`), socket addresses, port ranges (`RangeInclusive<u16>`), and the packets
that both decide about.

A network keeps the address it was written with, host bits included, and a prefix length that fits
its family; whether it contains an address depends on the leading bits only. A packet has source
and destination of one family, which is a field of `Packet`, so that an IPv4 packet with an IPv6
address cannot be written down.
-/

namespace Ztunnel

/-- `std::net::IpAddr`. -/
inductive IpAddr where
  | v4 (bits : BitVec 32)
  | v6 (bits : BitVec 128)
deriving DecidableEq, Repr

namespace IpAddr

/-- `IpAddr::is_ipv4`. -/
def isIpv4 : IpAddr → Bool
  | v4 _ => true
  | v6 _ => false

/-- `IpAddr::to_canonical`: an IPv4-mapped address, in `::ffff:0:0/96`, is the IPv4 address. -/
def toCanonical : IpAddr → IpAddr
  | v4 bits => v4 bits
  | v6 bits => if bits >>> 32 = 0xffff then v4 (bits.setWidth 32) else v6 bits

/-- `IpAddr::is_loopback`. -/
def isLoopback : IpAddr → Bool
  | v4 bits => bits >>> 24 == 127
  | v6 bits => bits == 1

end IpAddr

/-- `ipnet::IpNet`: an address with a prefix length that fits its family. -/
inductive IpNet where
  | v4 (addr : BitVec 32) (len : Fin 33)
  | v6 (addr : BitVec 128) (len : Fin 129)
deriving DecidableEq, Repr

/-- A prefix length of an IPv4 network can be written as a numeral. -/
instance IpNet.neZero_prefixLen : NeZero 33 := ⟨Nat.succ_ne_zero 32⟩

namespace IpNet

/-- The family of `network()`. -/
def isIpv4 : IpNet → Bool
  | v4 .. => true
  | v6 .. => false

/-- `IpNet::contains`: the address is of the network's family and has its leading bits. -/
def contains : IpNet → IpAddr → Bool
  | v4 addr len, .v4 ip => ip >>> (32 - len.val) == addr >>> (32 - len.val)
  | v6 addr len, .v6 ip => ip >>> (128 - len.val) == addr >>> (128 - len.val)
  | _, _ => false

theorem isIpv4_eq_of_contains {n : IpNet} {ip : IpAddr} (h : n.contains ip = true) :
    n.isIpv4 = ip.isIpv4 := by
  cases n <;> cases ip <;> simp_all [contains, isIpv4, IpAddr.isIpv4]

end IpNet

/-- The test that every address list of a rule makes: an empty list matches every address. -/
def matchesIps (ips : List IpNet) (ip : IpAddr) : Bool :=
  ips.isEmpty || ips.any (·.contains ip)

/-- `std::net::SocketAddr`. -/
structure SocketAddr where
  ip : IpAddr
  port : UInt16
deriving DecidableEq, Repr

/-- `socket::to_canonical`. -/
def SocketAddr.toCanonical (addr : SocketAddr) : SocketAddr :=
  ⟨addr.ip.toCanonical, addr.port⟩

/-- `RangeInclusive<u16>`. A range whose start is above its end contains nothing. -/
structure PortRange where
  start : UInt16
  stop : UInt16
deriving DecidableEq, Repr

/-- `RangeInclusive::contains`. -/
def PortRange.contains (r : PortRange) (port : UInt16) : Bool :=
  decide (r.start ≤ port) && decide (port ≤ r.stop)

/-! ### IP protocol numbers -/

/-- An IP protocol number, as the `protocol` field of IPv4 and the last `next header` of IPv6. -/
abbrev L4Proto := UInt8

namespace L4Proto

def icmp : L4Proto := 1
def tcp : L4Proto := 6
def udp : L4Proto := 17
def ipv6Icmp : L4Proto := 58
def sctp : L4Proto := 132

end L4Proto

/-- A packet as the policies see it. The destination port is read only for protocols that carry
one. -/
structure Packet where
  src : IpAddr
  dst : IpAddr
  /-- One packet has addresses of one family. -/
  sameFamily : src.isIpv4 = dst.isIpv4
  l4proto : L4Proto
  dport : UInt16

namespace Packet

variable (pkt : Packet)

def isIpv4 : Bool := pkt.src.isIpv4

def isTcp : Bool := pkt.l4proto == L4Proto.tcp

/-- The protocol number of ICMP in the packet's own family. -/
def familyIcmp : L4Proto := if pkt.isIpv4 then L4Proto.icmp else L4Proto.ipv6Icmp

/-- The packet is an ICMP packet of its own family. -/
def isIcmp : Bool := pkt.l4proto == pkt.familyIcmp

/-- The packet carries the ICMP protocol number of the other family: ICMPv6 in IPv4, or ICMP in
IPv6. -/
def isForeignIcmp : Bool :=
  pkt.l4proto == if pkt.isIpv4 then L4Proto.ipv6Icmp else L4Proto.icmp

/-- The protocols the policies know to carry a destination port. -/
def hasPort : Bool :=
  pkt.l4proto == L4Proto.tcp || pkt.l4proto == L4Proto.udp || pkt.l4proto == L4Proto.sctp

end Packet

end Ztunnel
