import Mathlib.Data.BitVec

namespace Shroud

/-!
# Addresses, networks and output packets

Addresses are kept as bit vectors in network order.  A packet carries the
fields that the kill switch rules can look at, together with its source
address, which no rule looks at.
-/

abbrev Ipv4Addr := BitVec 32

abbrev Ipv6Addr := BitVec 128

/-- An address of either family. -/
inductive IpAddr where
  | v4 (addr : Ipv4Addr)
  | v6 (addr : Ipv6Addr)
  deriving Repr, DecidableEq

namespace Ipv4Addr

/-- The address `first.second.third.fourth`. -/
def ofOctets (first second third fourth : UInt8) : Ipv4Addr :=
  first.toBitVec ++ second.toBitVec ++ third.toBitVec ++ fourth.toBitVec

def firstOctet (addr : Ipv4Addr) : Nat :=
  (addr >>> 24).toNat

def secondOctet (addr : Ipv4Addr) : Nat :=
  (addr >>> 16).toNat % 256

/-- The three private ranges 10/8, 172.16/12 and 192.168/16. -/
def isPrivate (addr : Ipv4Addr) : Bool :=
  firstOctet addr == 10 ||
    (firstOctet addr == 172 &&
      (decide (16 ≤ secondOctet addr) && decide (secondOctet addr ≤ 31))) ||
    (firstOctet addr == 192 && secondOctet addr == 168)

/-- The link-local range 169.254/16. -/
def isLinkLocal (addr : Ipv4Addr) : Bool :=
  firstOctet addr == 169 && secondOctet addr == 254

end Ipv4Addr

namespace Ipv6Addr

/-- The address whose first segment is `first` and whose last is `last`. -/
def ofEnds (first last : UInt16) : Ipv6Addr :=
  first.toBitVec ++ (0 : BitVec 96) ++ last.toBitVec

def firstOctet (addr : Ipv6Addr) : Nat :=
  (addr >>> 120).toNat

def secondOctet (addr : Ipv6Addr) : Nat :=
  (addr >>> 112).toNat % 256

end Ipv6Addr

/-- A network in `address/length` notation. -/
structure Cidr (width : Nat) where
  addr : BitVec width
  prefixLen : Nat
  deriving Repr, DecidableEq

abbrev Cidr4 := Cidr 32

abbrev Cidr6 := Cidr 128

namespace Cidr

variable {width : Nat}

/-- An address lies in a network when the leading `prefixLen` bits agree. -/
def contains (net : Cidr width) (addr : BitVec width) : Bool :=
  net.addr >>> (width - net.prefixLen) == addr >>> (width - net.prefixLen)

/-- The network that holds one address only. -/
def host (addr : BitVec width) : Cidr width where
  addr := addr
  prefixLen := width

end Cidr

/-- A network of either family. -/
inductive IpNet where
  | v4 (net : Cidr4)
  | v6 (net : Cidr6)
  deriving Repr, DecidableEq

/-- Connection-tracking state of a packet. -/
inductive CtState where
  | new
  | established
  | related
  | invalid
  | untracked
  deriving Repr, DecidableEq

/-- The states matched by `ESTABLISHED,RELATED`. -/
def CtState.isTracked : CtState → Bool
  | .established => true
  | .related => true
  | _ => false

/-- Source and destination address, of one family. -/
inductive Addresses where
  | v4 (source destination : Ipv4Addr)
  | v6 (source destination : Ipv6Addr)
  deriving Repr, DecidableEq

/-- Transport header; only TCP and UDP carry ports. -/
inductive Transport where
  | tcp (sourcePort destinationPort : UInt16)
  | udp (sourcePort destinationPort : UInt16)
  | other (protocol : UInt8)
  deriving Repr, DecidableEq

/-- A packet at the output hook. -/
structure Packet where
  addresses : Addresses
  transport : Transport
  outInterface : String
  ctState : CtState
  deriving Repr, DecidableEq

/-- What a filter finally does with a packet. -/
inductive Verdict where
  | accept
  | drop
  deriving Repr, DecidableEq

/-- Interface patterns: a fixed name, or every name that starts with a stem. -/
inductive IfacePattern where
  | exact (name : String)
  | startingWith (stem : String)
  deriving Repr, DecidableEq

/-- Whether an interface name matches a pattern. -/
def IfacePattern.accepts : IfacePattern → String → Bool
  | .exact name, iface => name == iface
  | .startingWith stem, iface => stem.toList.isPrefixOf iface.toList

namespace Packet

def isIpv4 (packet : Packet) : Bool :=
  match packet.addresses with
  | .v4 _ _ => true
  | .v6 _ _ => false

def isIpv6 (packet : Packet) : Bool :=
  match packet.addresses with
  | .v4 _ _ => false
  | .v6 _ _ => true

/-- The destination lies in an IPv4 network. -/
def goesTo4 (packet : Packet) (net : Cidr4) : Bool :=
  match packet.addresses with
  | .v4 _ destination => net.contains destination
  | .v6 _ _ => false

/-- The destination lies in an IPv6 network. -/
def goesTo6 (packet : Packet) (net : Cidr6) : Bool :=
  match packet.addresses with
  | .v4 _ _ => false
  | .v6 _ destination => net.contains destination

def isUdpTo (packet : Packet) (port : UInt16) : Bool :=
  match packet.transport with
  | .udp _ destinationPort => destinationPort == port
  | _ => false

def isUdpFrom (packet : Packet) (port : UInt16) : Bool :=
  match packet.transport with
  | .udp sourcePort _ => sourcePort == port
  | _ => false

def isTcpTo (packet : Packet) (port : UInt16) : Bool :=
  match packet.transport with
  | .tcp _ destinationPort => destinationPort == port
  | _ => false

/-- The packet belongs or relates to a tracked connection. -/
def isTracked (packet : Packet) : Bool :=
  packet.ctState.isTracked

/-- The packet leaves through an interface that matches a pattern. -/
def leavesThrough (packet : Packet) (pattern : IfacePattern) : Bool :=
  pattern.accepts packet.outInterface

theorem isIpv6_eq_not_isIpv4 (packet : Packet) :
    packet.isIpv6 = !packet.isIpv4 := by
  unfold isIpv6 isIpv4
  cases packet.addresses <;> rfl

variable {packet : Packet}

theorem goesTo4_of_isIpv6
    (ipv6 : packet.isIpv6 = true)
    (net : Cidr4) :
    packet.goesTo4 net = false := by
  unfold isIpv6 at ipv6
  unfold goesTo4
  cases shape : packet.addresses with
  | v4 source destination => simp [shape] at ipv6
  | v6 source destination => rfl

theorem goesTo6_of_isIpv4
    (ipv4 : packet.isIpv4 = true)
    (net : Cidr6) :
    packet.goesTo6 net = false := by
  unfold isIpv4 at ipv4
  unfold goesTo6
  cases shape : packet.addresses with
  | v4 source destination => rfl
  | v6 source destination => simp [shape] at ipv4

theorem isUdpTo_unique
    {port other : UInt16}
    (udp : packet.isUdpTo port = true)
    (different : port ≠ other) :
    packet.isUdpTo other = false := by
  unfold isUdpTo at udp ⊢
  cases shape : packet.transport <;> simp_all

theorem isTcpTo_unique
    {port other : UInt16}
    (tcp : packet.isTcpTo port = true)
    (different : port ≠ other) :
    packet.isTcpTo other = false := by
  unfold isTcpTo at tcp ⊢
  cases shape : packet.transport <;> simp_all

theorem not_udp_of_isTcpTo
    {port : UInt16}
    (tcp : packet.isTcpTo port = true)
    (other : UInt16) :
    packet.isUdpTo other = false ∧ packet.isUdpFrom other = false := by
  unfold isTcpTo at tcp
  unfold isUdpTo isUdpFrom
  cases shape : packet.transport <;> simp_all

end Packet

end Shroud
