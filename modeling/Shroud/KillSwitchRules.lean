import Shroud.AddressText
import Shroud.Netfilter

namespace Shroud

/-!
# Kill switch settings and rule data

Enumerations of the configuration file, the constants that end up in firewall
rules, the validation of interpolated addresses, and the configuration part of
the kill switch from which both rule builders work.
-/

/-- DNS leak protection mode. -/
inductive DnsMode where
  | tunnel
  | strict
  | localhost
  | any
  deriving Repr, DecidableEq

/-- IPv6 leak protection mode. -/
inductive Ipv6Mode where
  | block
  | tunnel
  | off
  deriving Repr, DecidableEq

/-- The modes under which DNS may only leave through the tunnel. -/
def DnsMode.isTunnelOrStrict : DnsMode → Bool
  | .tunnel => true
  | .strict => true
  | .localhost => false
  | .any => false

namespace KillSwitchRules

open AddressText

/-- `is_valid_ipv4`. -/
def isValidIpv4 (text : String) : Bool :=
  (parseIpv4? text).isSome

@[simp] theorem isValidIpv4_ipv4Text (addr : Ipv4Addr) :
    isValidIpv4 (ipv4Text addr) = true := by
  simp [isValidIpv4, parseIpv4?_ipv4Text]

/--
`is_valid_private_cidr`, on the two fields of the printed `addr/prefix`.

Detected subnets are always printed from such a pair.
-/
def isValidPrivateCidr (net : Cidr4) : Bool :=
  if ¬(8 ≤ net.prefixLen ∧ net.prefixLen ≤ 32) then false
  else Ipv4Addr.isPrivate net.addr || Ipv4Addr.isLinkLocal net.addr

/-- `is_valid_private_cidr_v6`, on the two fields of `addr/prefix`. -/
def isValidPrivateCidrV6 (net : Cidr6) : Bool :=
  if ¬(7 ≤ net.prefixLen ∧ net.prefixLen ≤ 128) then false
  else
    let first := Ipv6Addr.firstOctet net.addr
    let second := Ipv6Addr.secondOctet net.addr
    let isUla := (first &&& 0xfe) == 0xfc
    let isLinkLocal := first == 0xfe && (second &&& 0xc0) == 0x80
    isUla || isLinkLocal

/-- The IPv6 link-local network `fe80::/10`. -/
def linkLocal6 : Cidr6 where
  addr := Ipv6Addr.ofEnds 0xfe80 0
  prefixLen := 10

/-- `LAN_SUBNETS_V6`. -/
def lanSubnetsV6 : List Cidr6 :=
  [ { addr := Ipv6Addr.ofEnds 0xfc00 0, prefixLen := 7 }, linkLocal6 ]

/-- An address of an interface, as `ip -o -6 addr show` prints it. -/
structure InterfaceAddress6 where
  iface : String
  addr : Ipv6Addr
  prefixLen : Nat
  deriving Repr, DecidableEq

/-- The interfaces that subnet detection skips. -/
def virtualInterfaces : List IfacePattern :=
  [ .startingWith "tun",
    .startingWith "tap",
    .startingWith "wg",
    .exact "lo",
    .startingWith "docker",
    .startingWith "veth",
    .startingWith "virbr",
    .startingWith "br-",
    .startingWith "cni",
    .startingWith "flannel",
    .startingWith "podman" ]

/-- `mask_ipv6`. -/
def maskIpv6 (addr : Ipv6Addr) (prefixLen : Nat) : Ipv6Addr :=
  if 128 ≤ prefixLen then addr
  else if prefixLen = 0 then 0
  else addr &&& (BitVec.allOnes 128 <<< (128 - prefixLen))

/-- The subnet of one interface address, unless it is skipped. -/
def interfaceSubnet6? (address : InterfaceAddress6) : Option Cidr6 :=
  if virtualInterfaces.any (·.accepts address.iface) then none
  else
    let net : Cidr6 :=
      { addr := maskIpv6 address.addr address.prefixLen
        prefixLen := address.prefixLen }
    if isValidPrivateCidrV6 net then some net else none

/-- Append a subnet that is not yet listed. -/
def pushSubnet (subnets : List Cidr6) (net : Cidr6) : List Cidr6 :=
  if net ∈ subnets then subnets else subnets ++ [net]

/-- `detect_local_subnets_v6`; no addresses stand for a failed `ip`. -/
def detectLocalSubnetsV6 :
    Option (List InterfaceAddress6) → List Cidr6
  | none => lanSubnetsV6
  | some addresses =>
    pushSubnet ((addresses.filterMap interfaceSubnet6?).foldl pushSubnet []) linkLocal6

section Duplicates

variable {α : Type} [DecidableEq α]

theorem eraseDups_concat
    (list : List α)
    (item : α) :
    (list ++ [item]).eraseDups =
      if item ∈ list.eraseDups then list.eraseDups else list.eraseDups ++ [item] := by
  by_cases listed : item ∈ list
  · simp [List.eraseDups_append, List.removeAll, listed]
  · simp [List.eraseDups_append, List.removeAll, listed, List.eraseDups_cons]

theorem nodup_eraseDups (list : List α) :
    list.eraseDups.Nodup := by
  induction list using List.reverseRecOn with
  | nil => exact List.nodup_nil
  | append_singleton earlier last ih =>
    rw [eraseDups_concat]
    split
    · exact ih
    · next fresh =>
      rw [← List.concat_eq_append]
      exact ih.concat fresh

end Duplicates

theorem foldl_pushSubnet (nets : List Cidr6) :
    nets.foldl pushSubnet [] = nets.eraseDups := by
  induction nets using List.reverseRecOn with
  | nil => rfl
  | append_singleton earlier last ih =>
    rw [List.foldl_append, ih, eraseDups_concat]
    rfl

theorem detectLocalSubnetsV6_eq (addresses : List InterfaceAddress6) :
    detectLocalSubnetsV6 (some addresses) =
      (addresses.filterMap interfaceSubnet6? ++ [linkLocal6]).eraseDups := by
  rw [detectLocalSubnetsV6, foldl_pushSubnet, eraseDups_concat]
  rfl

theorem mem_detectLocalSubnetsV6
    {addresses : List InterfaceAddress6}
    {net : Cidr6} :
    net ∈ detectLocalSubnetsV6 (some addresses) ↔
      net ∈ addresses.filterMap interfaceSubnet6? ∨ net = linkLocal6 := by
  rw [detectLocalSubnetsV6_eq, List.mem_eraseDups, List.mem_append, List.mem_singleton]

theorem detectLocalSubnetsV6_nodup
    (addresses : Option (List InterfaceAddress6)) :
    (detectLocalSubnetsV6 addresses).Nodup := by
  cases addresses with
  | none =>
    change lanSubnetsV6.Nodup
    decide
  | some addresses =>
    rw [detectLocalSubnetsV6_eq]
    exact nodup_eraseDups _

/-- Every detected subnet passes the check of the script builder. -/
theorem detectLocalSubnetsV6_valid
    {addresses : Option (List InterfaceAddress6)}
    {net : Cidr6}
    (detected : net ∈ detectLocalSubnetsV6 addresses) :
    isValidPrivateCidrV6 net = true := by
  cases addresses with
  | none =>
    revert net
    change ∀ net ∈ lanSubnetsV6, _
    decide
  | some addresses =>
    rcases mem_detectLocalSubnetsV6.mp detected with listed | rfl
    · obtain ⟨address, -, subnet⟩ := List.mem_filterMap.mp listed
      rw [interfaceSubnet6?] at subnet
      obtain ⟨-, valid⟩ := Option.ite_none_left_eq_some.mp subnet
      obtain ⟨passes, same⟩ := Option.ite_none_right_eq_some.mp valid
      rw [← Option.some.inj same]
      exact passes
    · decide

theorem linkLocal6_detected (addresses : Option (List InterfaceAddress6)) :
    linkLocal6 ∈ detectLocalSubnetsV6 addresses := by
  cases addresses with
  | none =>
    change linkLocal6 ∈ lanSubnetsV6
    decide
  | some addresses => exact mem_detectLocalSubnetsV6.mpr (.inr rfl)

/-- The IPv6 loopback address `::1`. -/
def loopback6 : Ipv6Addr :=
  Ipv6Addr.ofEnds 0 1

/-- Well-known DoH provider IPs to block. -/
def dohProviders : List String :=
  [ "1.1.1.1",
    "1.0.0.1",
    "8.8.8.8",
    "8.8.4.4",
    "9.9.9.9",
    "149.112.112.112",
    "208.67.222.222",
    "208.67.220.220",
    "94.140.14.14",
    "94.140.15.15",
    "185.228.168.168",
    "185.228.169.168",
    "8.26.56.26",
    "8.20.247.20" ]

/-- The loopback interface. -/
def lo : IfacePattern := .exact "lo"

/-- OpenVPN routed interfaces. -/
def tun : IfacePattern := .startingWith "tun"

/-- OpenVPN bridged interfaces. -/
def tap : IfacePattern := .startingWith "tap"

/-- WireGuard interfaces. -/
def wg : IfacePattern := .startingWith "wg"

end KillSwitchRules

/--
The settings of a `KillSwitch` that its rule builders read.
-/
structure KillSwitchSettings where
  vpnServerIp : Option IpAddr
  dnsMode : DnsMode
  blockDoh : Bool
  customDohBlocklist : List String
  ipv6Mode : Ipv6Mode
  deriving Repr, DecidableEq

namespace KillSwitchSettings

open AddressText KillSwitchRules

/-- The settings of `KillSwitch::new`. -/
def new : KillSwitchSettings where
  vpnServerIp := none
  dnsMode := .tunnel
  blockDoh := true
  customDohBlocklist := []
  ipv6Mode := .block

/--
The addresses behind the DoH blocklist: the built-in providers followed by the
custom entries.  Entries that do not parse as IPv4 are skipped.
-/
def dohAddresses (settings : KillSwitchSettings) : List Ipv4Addr :=
  (dohProviders ++ settings.customDohBlocklist).filterMap parseIpv4?

/-- DoH rules are only emitted in the tunnel and strict modes. -/
def blocksDoh (settings : KillSwitchSettings) : Bool :=
  settings.blockDoh && settings.dnsMode.isTunnelOrStrict

end KillSwitchSettings

namespace Packet

open KillSwitchRules

def leavesThroughTunnel (packet : Packet) : Bool :=
  packet.leavesThrough tun || packet.leavesThrough tap || packet.leavesThrough wg

def isDns (packet : Packet) : Bool :=
  packet.isUdpTo 53 || packet.isTcpTo 53

def isDot (packet : Packet) : Bool :=
  packet.isTcpTo 853

def isDhcp (packet : Packet) : Bool :=
  packet.isUdpTo 67 || packet.isUdpFrom 68

def isDohTo (packet : Packet) (addresses : List Ipv4Addr) : Bool :=
  addresses.any fun addr =>
    packet.goesTo4 (Cidr.host addr) && packet.isTcpTo 443

def goesToServer (packet : Packet) (servers : List IpAddr) : Bool :=
  servers.any fun server =>
    match server with
    | .v4 addr => packet.goesTo4 (Cidr.host addr)
    | .v6 addr => packet.goesTo6 (Cidr.host addr)

/-- The packet goes to a listed IPv4 network that passes validation. -/
def goesToLan (packet : Packet) (subnets : List Cidr4) : Bool :=
  subnets.any fun net => isValidPrivateCidr net && packet.goesTo4 net

/-- The packet goes to a listed IPv6 network that passes validation. -/
def goesToLanV6 (packet : Packet) (subnets : List Cidr6) : Bool :=
  subnets.any fun net => isValidPrivateCidrV6 net && packet.goesTo6 net

end Packet

end Shroud
