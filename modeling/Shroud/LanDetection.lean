import Shroud.KillSwitchRules
import Shroud.Networks
import Shroud.Text

namespace Shroud.KillSwitchRules

open AddressText

/-!
# Detection of local networks

`detect_local_subnets` and its IPv6 counterpart read the output of `ip`, mask
every address with its prefix length and keep what the validators accept.  The
validators look at the address of a network and at a lower bound of its
length; the bound is that of the largest private range, not that of the range
the address is in.
-/

/-- `addr/prefix` with a decimal prefix length. -/
def parseCidr?
    {width : Nat}
    (parseAddr : String → Option (BitVec width))
    (text : List Char) :
    Option (Cidr width) := do
  let (addrText, prefixText) ← Text.splitOnce? '/' text
  let addr ← parseAddr (String.ofList addrText)
  let prefixLen ← parseU32? prefixText
  pure { addr := addr, prefixLen := prefixLen }

/-- `is_valid_private_cidr`, on its text. -/
def isValidPrivateCidrText (text : String) : Bool :=
  (parseCidr? parseIpv4? text.toList).any isValidPrivateCidr

/-- `is_valid_private_cidr_v6`, on its text. -/
def isValidPrivateCidrV6Text (text : String) : Bool :=
  (parseCidr? parseIpv6? text.toList).any isValidPrivateCidrV6

/-- The word behind the first one that is a given word. -/
def wordAfter? (word : String) (words : List (List Char)) :
    Option (List Char) :=
  (words.dropWhile (· ≠ word.toList))[1]?

/-- A line is about a tunnel or a virtual interface. -/
def isVirtualLine (words : List (List Char)) : Bool :=
  words[1]?.any fun iface =>
    virtualInterfaces.any (·.accepts (String.ofList iface))

/--
Mask the host bits.  The shift distance is computed modulo `2 ^ 32` and taken
modulo 32, which matters for prefix lengths above 32 only.
-/
def maskIpv4 (addr : Ipv4Addr) (prefixLen : Nat) : Ipv4Addr :=
  if prefixLen = 0 then 0
  else
    addr &&& (BitVec.allOnes 32 <<< ((2 ^ 32 + 32 - prefixLen) % 2 ^ 32 % 32))

/-- The network in one line of `ip -o -4 addr show`. -/
def interfaceNet? (line : List Char) : Option Cidr4 :=
  let words := Text.splitWhitespace line
  if isVirtualLine words then none
  else do
    let addrPrefix ← wordAfter? "inet" words
    let net ← parseCidr? parseIpv4? addrPrefix
    pure { net with addr := maskIpv4 net.addr net.prefixLen }

def interfaceNets (output : List Char) : List Cidr4 :=
  (Text.lines output).filterMap interfaceNet?

/-- `169.254.0.0/16`. -/
def linkLocal : Cidr4 where
  addr := Ipv4Addr.ofOctets 169 254 0 0
  prefixLen := 16

/-- `LAN_SUBNETS`. -/
def lanSubnets : List Cidr4 :=
  [ { addr := Ipv4Addr.ofOctets 10 0 0 0, prefixLen := 8 },
    { addr := Ipv4Addr.ofOctets 172 16 0 0, prefixLen := 12 },
    { addr := Ipv4Addr.ofOctets 192 168 0 0, prefixLen := 16 },
    linkLocal ]

/-- Link-local is always included, once. -/
def withLinkLocal (subnets : List Cidr4) : List Cidr4 :=
  if linkLocal ∈ subnets then subnets else subnets ++ [linkLocal]

/-- `detect_local_subnets`; no output stands for a failed `ip`. -/
def detectLocalSubnets : Option (List Char) → List Cidr4
  | none => lanSubnets
  | some output =>
    let subnets :=
      withLinkLocal ((interfaceNets output).filter isValidPrivateCidr)
    -- Only link-local was found.
    if subnets.length ≤ 1 then lanSubnets else subnets

/-- The address in one line of `ip -o -6 addr show`. -/
def interfaceAddress6? (line : List Char) : Option InterfaceAddress6 := do
  let words := Text.splitWhitespace line
  let addrPrefix ← wordAfter? "inet6" words
  let net ← parseCidr? parseIpv6? addrPrefix
  let iface ← words[1]?
  pure {
    iface := String.ofList iface
    addr := net.addr
    prefixLen := net.prefixLen }

/-- The addresses that `ip` prints. -/
def interfaceAddresses6 (output : List Char) : List InterfaceAddress6 :=
  (Text.lines output).filterMap interfaceAddress6?

/-- `detect_local_subnets_v6`, on the output of `ip`. -/
def detectLocalSubnetsV6Text (output : Option (List Char)) : List Cidr6 :=
  detectLocalSubnetsV6 (output.map interfaceAddresses6)

theorem lanSubnets_separated :
    Cidr.Separated 8 lanSubnets := by
  unfold Cidr.Separated
  decide

theorem lanSubnetsV6_separated :
    Cidr.Separated 7 lanSubnetsV6 := by
  unfold Cidr.Separated
  decide

theorem isPrivate_or_isLinkLocal_iff {addr : Ipv4Addr} :
    (Ipv4Addr.isPrivate addr || Ipv4Addr.isLinkLocal addr) = true ↔
      ∃ range ∈ lanSubnets, range.contains addr = true := by
  have bound := addr.isLt
  simp only [lanSubnets, linkLocal, List.mem_cons, List.not_mem_nil,
    or_false, exists_eq_or_imp, exists_eq_left, Cidr.contains_iff,
    BitVec.toNat_eq, BitVec.toNat_ushiftRight, Nat.shiftRight_eq_div_pow,
    Ipv4Addr.isPrivate, Ipv4Addr.isLinkLocal, Ipv4Addr.firstOctet,
    Ipv4Addr.secondOctet, Bool.or_eq_true, Bool.and_eq_true, beq_iff_eq,
    decide_eq_true_eq]
  have ten : (Ipv4Addr.ofOctets 10 0 0 0).toNat = 167772160 := by decide
  have large : (Ipv4Addr.ofOctets 172 16 0 0).toNat = 2886729728 := by decide
  have home : (Ipv4Addr.ofOctets 192 168 0 0).toNat = 3232235520 := by decide
  have link : (Ipv4Addr.ofOctets 169 254 0 0).toNat = 2851995648 := by decide
  rw [ten, large, home, link]
  omega

/-- The validator bounds the length, and the address is in a private range. -/
theorem isValidPrivateCidr_iff {net : Cidr4} :
    isValidPrivateCidr net = true ↔
      (8 ≤ net.prefixLen ∧ net.prefixLen ≤ 32) ∧
        ∃ range ∈ lanSubnets, range.contains net.addr = true := by
  rw [← isPrivate_or_isLinkLocal_iff, isValidPrivateCidr, Bool.if_false_left]
  simp only [decide_not, Bool.not_not, Bool.and_eq_true, decide_eq_true_eq]

theorem octet_masks :
    ∀ octet < 256,
      ((octet &&& 0xfe) = 0xfc ↔ octet / 2 = 0x7e) ∧
        ((octet &&& 0xc0) = 0x80 ↔ octet / 64 = 2) := by
  decide +kernel

theorem isUla_or_isLinkLocal_iff {addr : Ipv6Addr} :
    ((Ipv6Addr.firstOctet addr &&& 0xfe) == 0xfc ||
        Ipv6Addr.firstOctet addr == 0xfe && (Ipv6Addr.secondOctet addr &&& 0xc0) == 0x80) = true ↔
      ∃ range ∈ lanSubnetsV6, range.contains addr = true := by
  have bound := addr.isLt
  have first : Ipv6Addr.firstOctet addr = addr.toNat / 2 ^ 120 := by
    rw [Ipv6Addr.firstOctet, BitVec.toNat_ushiftRight, Nat.shiftRight_eq_div_pow]
  have second : Ipv6Addr.secondOctet addr = addr.toNat / 2 ^ 112 % 256 := by
    rw [Ipv6Addr.secondOctet, BitVec.toNat_ushiftRight, Nat.shiftRight_eq_div_pow]
  have ula : (Ipv6Addr.ofEnds 0xfc00 0).toNat = 0xfc00 * 2 ^ 112 := by decide
  have link : (Ipv6Addr.ofEnds 0xfe80 0).toNat = 0xfe80 * 2 ^ 112 := by decide
  simp only [lanSubnetsV6, linkLocal6, List.mem_cons, List.not_mem_nil,
    or_false, exists_eq_or_imp, exists_eq_left, Cidr.contains_iff,
    BitVec.toNat_eq, BitVec.toNat_ushiftRight, Nat.shiftRight_eq_div_pow,
    Bool.or_eq_true, Bool.and_eq_true, beq_iff_eq]
  rw [ula, link, first, second, (octet_masks _ (by omega)).1, (octet_masks _ (by omega)).2]
  omega

theorem isValidPrivateCidrV6_iff {net : Cidr6} :
    isValidPrivateCidrV6 net = true ↔
      (7 ≤ net.prefixLen ∧ net.prefixLen ≤ 128) ∧
        ∃ range ∈ lanSubnetsV6, range.contains net.addr = true := by
  rw [← isUla_or_isLinkLocal_iff, isValidPrivateCidrV6, Bool.if_false_left]
  simp only [decide_not, Bool.not_not, Bool.and_eq_true, decide_eq_true_eq]

/-- Every address that shares the network prefix of a text is in a range. -/
def TextStaysWithin
    {width : Nat}
    (parseAddr : String → Option (BitVec width))
    (ranges : List (Cidr width))
    (text : String) :
    Prop :=
  ∀ net, parseCidr? parseAddr text.toList = some net → net.StaysWithin ranges

/-- The prefix of a text is at least as long as that of a range around it. -/
def TextFitsInto
    {width : Nat}
    (parseAddr : String → Option (BitVec width))
    (ranges : List (Cidr width))
    (text : String) :
    Prop :=
  ∀ net, parseCidr? parseAddr text.toList = some net → net.FitsInto ranges

theorem validText_iff
    {text : String}
    (valid : isValidPrivateCidrText text = true) :
    TextStaysWithin parseIpv4? lanSubnets text ↔ TextFitsInto parseIpv4? lanSubnets text := by
  refine forall₂_congr fun net parsed => ?_
  rw [isValidPrivateCidrText, parsed] at valid
  obtain ⟨bounded, listed⟩ := isValidPrivateCidr_iff.mp valid
  exact Cidr.staysWithin_iff lanSubnets_separated bounded.1 listed

theorem validTextV6_iff
    {text : String}
    (valid : isValidPrivateCidrV6Text text = true) :
    TextStaysWithin parseIpv6? lanSubnetsV6 text ↔ TextFitsInto parseIpv6? lanSubnetsV6 text := by
  refine forall₂_congr fun net parsed => ?_
  rw [isValidPrivateCidrV6Text, parsed] at valid
  obtain ⟨bounded, listed⟩ := isValidPrivateCidrV6_iff.mp valid
  exact Cidr.staysWithin_iff lanSubnetsV6_separated bounded.1 listed

/-- The networks of `ip` that pass the validator and leave their range. -/
def wideNets : List Cidr4 :=
  [ { addr := Ipv4Addr.ofOctets 192 168 0 0, prefixLen := 13 },
    { addr := Ipv4Addr.ofOctets 192 168 0 0, prefixLen := 14 },
    { addr := Ipv4Addr.ofOctets 192 168 0 0, prefixLen := 15 },
    { addr := Ipv4Addr.ofOctets 169 254 0 0, prefixLen := 15 } ]

def wideNetsV6 : List Cidr6 :=
  [ { addr := Ipv6Addr.ofEnds 0xfe80 0, prefixLen := 9 } ]

theorem wideNets_wide :
    Cidr.WideNets 8 lanSubnets wideNets where
  separated := lanSubnets_separated
  masked := by decide
  complete := by decide
  leaves := by decide

theorem wideNetsV6_wide :
    Cidr.WideNets 7 lanSubnetsV6 wideNetsV6 where
  separated := lanSubnetsV6_separated
  masked := by decide
  complete := by decide
  leaves := by decide

theorem maskIpv4_isMasked
    (addr : Ipv4Addr)
    {prefixLen : Nat}
    (bounded : prefixLen ≤ 32) :
    Cidr.IsMasked { addr := maskIpv4 addr prefixLen, prefixLen } := by
  rw [maskIpv4]
  by_cases zero : prefixLen = 0
  · rw [if_pos zero]
    exact Cidr.isMasked_zero prefixLen
  · have distance :
        (2 ^ 32 + 32 - prefixLen) % 2 ^ 32 % 32 = 32 - prefixLen := by
      omega
    rw [if_neg zero, distance]
    exact Cidr.isMasked_and addr prefixLen

theorem maskIpv6_isMasked
    (addr : Ipv6Addr)
    (prefixLen : Nat) :
    Cidr.IsMasked { addr := maskIpv6 addr prefixLen, prefixLen } := by
  rw [maskIpv6]
  by_cases full : 128 ≤ prefixLen
  · rw [if_pos full, Cidr.IsMasked, Nat.sub_eq_zero_of_le full]
    simp
  · rw [if_neg full]
    by_cases zero : prefixLen = 0
    · rw [if_pos zero]
      exact Cidr.isMasked_zero prefixLen
    · rw [if_neg zero]
      exact Cidr.isMasked_and addr prefixLen

variable {output : List Char} {net : Cidr4}

/-- The addresses that are masked, with their lengths. -/
def interfaceCidrs (output : List Char) : List Cidr4 :=
  (Text.lines output).filterMap fun line =>
    let words := Text.splitWhitespace line
    if isVirtualLine words then none
    else (wordAfter? "inet" words).bind (parseCidr? parseIpv4?)

theorem mem_interfaceNets (listed : net ∈ interfaceNets output) :
    ∃ own ∈ interfaceCidrs output, net = { own with addr := maskIpv4 own.addr own.prefixLen } := by
  obtain ⟨line, inOutput, built⟩ := List.mem_filterMap.mp listed
  rw [interfaceNet?] at built
  obtain ⟨shown, parsed⟩ := Option.ite_none_left_eq_some.mp built
  obtain ⟨word, isWord, rest⟩ := Option.bind_eq_some_iff.mp parsed
  obtain ⟨own, read, masks⟩ := Option.bind_eq_some_iff.mp rest
  refine ⟨own, List.mem_filterMap.mpr ⟨line, inOutput, ?_⟩, (Option.some.inj masks).symm⟩
  rw [if_neg shown, isWord]
  exact read

theorem interfaceNets_masked
    (listed : net ∈ interfaceNets output)
    (bounded : net.prefixLen ≤ 32) :
    net.IsMasked := by
  obtain ⟨own, -, rfl⟩ := mem_interfaceNets listed
  exact maskIpv4_isMasked own.addr bounded

theorem mem_withLinkLocal
    {subnets : List Cidr4}
    {net : Cidr4} :
    net ∈ withLinkLocal subnets ↔ net ∈ subnets ∨ net = linkLocal := by
  rw [withLinkLocal]
  split
  · next listed =>
      exact ⟨.inl, fun either => either.elim id fun same => same ▸ listed⟩
  · rw [List.mem_append, List.mem_singleton]

theorem linkLocal_mem_withLinkLocal (subnets : List Cidr4) :
    linkLocal ∈ withLinkLocal subnets :=
  mem_withLinkLocal.mpr (.inr rfl)

theorem mem_detectLocalSubnets
    (detected : net ∈ detectLocalSubnets (some output)) :
    net ∈ lanSubnets ∨ net ∈ interfaceNets output ∧ isValidPrivateCidr net = true := by
  have fixed : linkLocal ∈ lanSubnets := by decide
  rw [detectLocalSubnets] at detected
  split at detected
  · exact .inl detected
  · rcases mem_withLinkLocal.mp detected with found | rfl
    · exact .inr (List.mem_filter.mp found)
    · exact .inl fixed

theorem interfaceNet_detected
    (listed : net ∈ interfaceNets output)
    (valid : isValidPrivateCidr net = true)
    (other : net ≠ linkLocal) :
    net ∈ detectLocalSubnets (some output) := by
  have found : net ∈ withLinkLocal ((interfaceNets output).filter isValidPrivateCidr) :=
    mem_withLinkLocal.mpr (.inl (List.mem_filter.mpr ⟨listed, valid⟩))
  rw [detectLocalSubnets]
  split
  · next few =>
      -- Link-local is a second member, so there is no fallback.
      obtain ⟨single, same⟩ :=
        List.length_eq_one_iff.mp (few.antisymm (List.length_pos_of_mem found))
      have link := linkLocal_mem_withLinkLocal ((interfaceNets output).filter isValidPrivateCidr)
      rw [same, List.mem_singleton] at found link
      exact absurd (found.trans link.symm) other
  · exact found

theorem detected_private_iff (output : Option (List Char)) :
    (∀ net ∈ detectLocalSubnets output, net.StaysWithin lanSubnets) ↔
      ∀ text ∈ output, ∀ net ∈ interfaceNets text, net ∉ wideNets := by
  have fixed {net : Cidr4} (member : net ∈ lanSubnets) :
      net.StaysWithin lanSubnets :=
    Cidr.FitsInto.staysWithin ⟨net, member, Cidr.contains_iff.mpr rfl, Nat.le_refl _⟩
  have wideValid : ∀ net ∈ wideNets, isValidPrivateCidr net = true := by decide
  have wideOther : linkLocal ∉ wideNets := by decide
  have stays_iff {text : List Char} {net : Cidr4}
      (listed : net ∈ interfaceNets text)
      (valid : isValidPrivateCidr net = true) :
      net.StaysWithin lanSubnets ↔ net ∉ wideNets := by
    obtain ⟨bounded, inRange⟩ := isValidPrivateCidr_iff.mp valid
    exact wideNets_wide.staysWithin_iff bounded.1 inRange (interfaceNets_masked listed bounded.2)
  constructor
  · rintro stays text rfl net listed wide
    have valid := wideValid net wide
    have other : net ≠ linkLocal := fun same => wideOther (same ▸ wide)
    exact (stays_iff listed valid).mp (stays net (interfaceNet_detected listed valid other)) wide
  · intro narrow net detected
    cases output with
    | none => exact fixed detected
    | some text =>
      rcases mem_detectLocalSubnets detected with known | ⟨listed, valid⟩
      · exact fixed known
      · exact (stays_iff listed valid).mpr (narrow text rfl net listed)

/-- The masked networks of the interfaces that are not skipped. -/
def interfaceNetsV6 (output : List Char) : List Cidr6 :=
  ((interfaceAddresses6 output).filter fun address =>
      !virtualInterfaces.any (·.accepts address.iface)).map fun address =>
    { addr := maskIpv6 address.addr address.prefixLen
      prefixLen := address.prefixLen }

theorem mem_interfaceSubnets6 {net : Cidr6} :
    net ∈ (interfaceAddresses6 output).filterMap interfaceSubnet6? ↔
      net ∈ interfaceNetsV6 output ∧ isValidPrivateCidrV6 net = true := by
  simp only [List.mem_filterMap, interfaceSubnet6?, interfaceNetsV6,
    List.mem_map, List.mem_filter, Option.ite_none_left_eq_some,
    Option.ite_none_right_eq_some, Option.some.injEq, Bool.not_eq_true']
  constructor
  · rintro ⟨address, listed, shown, valid, rfl⟩
    exact ⟨⟨address, ⟨listed, Bool.eq_false_iff.mpr shown⟩, rfl⟩, valid⟩
  · rintro ⟨⟨address, ⟨listed, shown⟩, rfl⟩, valid⟩
    exact ⟨address, listed, Bool.eq_false_iff.mp shown, valid, rfl⟩

theorem detectedV6_private_iff (output : Option (List Char)) :
    (∀ net ∈ detectLocalSubnetsV6Text output, net.StaysWithin lanSubnetsV6) ↔
      ∀ text ∈ output, ∀ net ∈ interfaceNetsV6 text, net ∉ wideNetsV6 := by
  have fixed {net : Cidr6} (member : net ∈ lanSubnetsV6) :
      net.StaysWithin lanSubnetsV6 :=
    Cidr.FitsInto.staysWithin ⟨net, member, Cidr.contains_iff.mpr rfl, Nat.le_refl _⟩
  have wideValid : ∀ net ∈ wideNetsV6, isValidPrivateCidrV6 net = true := by
    decide
  have stays_iff {text : List Char} {net : Cidr6}
      (listed : net ∈ interfaceNetsV6 text)
      (valid : isValidPrivateCidrV6 net = true) :
      net.StaysWithin lanSubnetsV6 ↔ net ∉ wideNetsV6 := by
    obtain ⟨bounded, inRange⟩ := isValidPrivateCidrV6_iff.mp valid
    obtain ⟨address, -, rfl⟩ := List.mem_map.mp listed
    exact wideNetsV6_wide.staysWithin_iff bounded.1 inRange (maskIpv6_isMasked _ _)
  constructor
  · rintro stays text rfl net listed wide
    have valid := wideValid net wide
    have detected : net ∈ detectLocalSubnetsV6Text (some text) :=
      mem_detectLocalSubnetsV6.mpr (.inl (mem_interfaceSubnets6.mpr ⟨listed, valid⟩))
    exact (stays_iff listed valid).mp (stays net detected) wide
  · intro narrow net detected
    cases output with
    | none => exact fixed detected
    | some text =>
      rcases mem_detectLocalSubnetsV6.mp detected with found | rfl
      · obtain ⟨listed, valid⟩ := mem_interfaceSubnets6.mp found
        exact (stays_iff listed valid).mpr (narrow text rfl net listed)
      · exact fixed (by decide)

/--
The LAN exceptions stay private exactly when no interface has one of the wide
networks, and an accepted text exactly when its prefix is at least as long as
that of the range its address is in.
-/
theorem lan_exceptions_private_iff
    (output outputV6 : Option (List Char))
    (text textV6 : String) :
    ((∀ net ∈ detectLocalSubnets output, net.StaysWithin lanSubnets) ↔
        ∀ text ∈ output, ∀ net ∈ interfaceNets text, net ∉ wideNets) ∧
      ((∀ net ∈ detectLocalSubnetsV6Text outputV6,
          net.StaysWithin lanSubnetsV6) ↔
        ∀ text ∈ outputV6, ∀ net ∈ interfaceNetsV6 text, net ∉ wideNetsV6) ∧
      ((isValidPrivateCidrText text = true →
          TextStaysWithin parseIpv4? lanSubnets text) ↔
        (isValidPrivateCidrText text = true → TextFitsInto parseIpv4? lanSubnets text)) ∧
      ((isValidPrivateCidrV6Text textV6 = true →
          TextStaysWithin parseIpv6? lanSubnetsV6 textV6) ↔
        (isValidPrivateCidrV6Text textV6 = true → TextFitsInto parseIpv6? lanSubnetsV6 textV6)) :=
  ⟨detected_private_iff output, detectedV6_private_iff outputV6,
    imp_congr_right validText_iff, imp_congr_right validTextV6_iff⟩

/-- What `ip` prints for an interface with a short prefix. -/
def widePrefixOutput : List Char :=
  "2: eth0    inet 192.168.1.5/13 brd 192.175.255.255 scope global eth0\n".toList

/-- Such a network is detected, and it holds a public address. -/
theorem wide_prefix_detected :
    { addr := Ipv4Addr.ofOctets 192 168 0 0, prefixLen := 13 } ∈
        detectLocalSubnets (some widePrefixOutput) ∧
      Cidr.contains
          { addr := Ipv4Addr.ofOctets 192 168 0 0, prefixLen := 13 }
          (Ipv4Addr.ofOctets 192 170 0 1) = true ∧
      lanSubnets.any (·.contains (Ipv4Addr.ofOctets 192 170 0 1)) = false ∧
      isValidPrivateCidrText "172.16.0.0/8" = true ∧
      isValidPrivateCidrV6Text "fe80::/7" = true := by
  decide +kernel

/-- `!0 << (width - prefix)`, unless the subtraction or the shift overflows. -/
def checkedMask? (width prefixLen : Nat) : Option (BitVec width) :=
  if prefixLen ≤ width ∧ width - prefixLen < width then
    some (BitVec.allOnes width <<< (width - prefixLen))
  else
    none

/-- The masked IPv4 address, unless its computation overflows. -/
def maskIpv4? (net : Cidr4) : Option Ipv4Addr :=
  if net.prefixLen = 0 then some 0
  else (checkedMask? 32 net.prefixLen).map (net.addr &&& ·)

/-- `mask_ipv6`, unless its computation overflows. -/
def maskIpv6? (net : Cidr6) : Option Ipv6Addr :=
  if 128 ≤ net.prefixLen then some net.addr
  else if net.prefixLen = 0 then some 0
  else (checkedMask? 128 net.prefixLen).map (net.addr &&& ·)

def interfaceCidrsV6 (output : List Char) : List Cidr6 :=
  ((interfaceAddresses6 output).filter fun address =>
      !virtualInterfaces.any (·.accepts address.iface)).map fun address =>
    { addr := address.addr, prefixLen := address.prefixLen }

/--
The networks are masked, with a length of the family, and each is a fixed one
or contains the address that it was derived from.
-/
def DerivedFrom {width : Nat} (fixed addresses nets : List (Cidr width)) : Prop :=
  ∀ net ∈ nets,
    net.prefixLen ≤ width ∧ net.IsMasked ∧
      (net ∈ fixed ∨
        ∃ own ∈ addresses, own.prefixLen = net.prefixLen ∧ net.contains own.addr = true)

theorem maskDistance
    {prefixLen : Nat}
    (positive : prefixLen ≠ 0)
    (bounded : prefixLen ≤ 32) :
    (2 ^ 32 + 32 - prefixLen) % 2 ^ 32 % 32 = 32 - prefixLen := by
  omega

/-- Without an overflow the masks are those of the detection. -/
theorem maskIpv4?_eq (net : Cidr4) :
    maskIpv4? net =
      if net.prefixLen ≤ 32 then some (maskIpv4 net.addr net.prefixLen) else none := by
  rw [maskIpv4?, checkedMask?, maskIpv4]
  by_cases zero : net.prefixLen = 0
  · simp [zero]
  · by_cases short : net.prefixLen ≤ 32
    · have distance : 32 - net.prefixLen < 32 := by omega
      rw [maskDistance zero short]
      simp [zero, short, distance]
    · simp [zero, short]

theorem maskIpv6?_eq (net : Cidr6) :
    maskIpv6? net = some (maskIpv6 net.addr net.prefixLen) := by
  rw [maskIpv6?, checkedMask?, maskIpv6]
  by_cases full : 128 ≤ net.prefixLen
  · simp [full]
  · by_cases zero : net.prefixLen = 0
    · simp [zero]
    · have fits : net.prefixLen ≤ 128 ∧ 128 - net.prefixLen < 128 := by omega
      simp [full, zero, fits]

theorem maskIpv4_contains
    (addr : Ipv4Addr)
    {prefixLen : Nat}
    (positive : prefixLen ≠ 0)
    (bounded : prefixLen ≤ 32) :
    Cidr.contains { addr := maskIpv4 addr prefixLen, prefixLen } addr = true := by
  rw [maskIpv4, if_neg positive, maskDistance positive bounded]
  exact Cidr.contains_and addr prefixLen

theorem maskIpv6_contains
    (addr : Ipv6Addr)
    {prefixLen : Nat}
    (positive : prefixLen ≠ 0) :
    Cidr.contains { addr := maskIpv6 addr prefixLen, prefixLen } addr = true := by
  rw [maskIpv6, if_neg positive]
  split
  · exact Cidr.contains_iff.mpr rfl
  · exact Cidr.contains_and addr prefixLen

theorem detectLocalSubnets_derived (output : List Char) :
    DerivedFrom lanSubnets (interfaceCidrs output) (detectLocalSubnets (some output)) := by
  intro net detected
  rcases mem_detectLocalSubnets detected with fixed | ⟨listed, valid⟩
  · have masked : ∀ net ∈ lanSubnets, net.prefixLen ≤ 32 ∧ net.IsMasked := by decide
    exact ⟨(masked net fixed).1, (masked net fixed).2, .inl fixed⟩
  · obtain ⟨⟨positive, bounded⟩, -⟩ := isValidPrivateCidr_iff.mp valid
    obtain ⟨own, inOutput, rfl⟩ := mem_interfaceNets listed
    refine ⟨bounded, maskIpv4_isMasked _ bounded, .inr ⟨own, inOutput, rfl, ?_⟩⟩
    exact maskIpv4_contains own.addr
      (Nat.ne_of_gt (Nat.lt_of_lt_of_le (by decide) positive)) bounded

theorem detectLocalSubnetsV6_derived (output : List Char) :
    DerivedFrom [linkLocal6] (interfaceCidrsV6 output)
      (detectLocalSubnetsV6Text (some output)) := by
  intro net detected
  rcases mem_detectLocalSubnetsV6.mp detected with found | rfl
  · obtain ⟨listed, valid⟩ := mem_interfaceSubnets6.mp found
    obtain ⟨⟨positive, bounded⟩, -⟩ := isValidPrivateCidrV6_iff.mp valid
    obtain ⟨address, shown, rfl⟩ := List.mem_map.mp listed
    refine ⟨bounded, maskIpv6_isMasked _ _, .inr ⟨_, List.mem_map_of_mem shown, rfl, ?_⟩⟩
    exact maskIpv6_contains _ (Nat.ne_of_gt (Nat.lt_of_lt_of_le (by decide) positive))
  · exact ⟨by decide, by decide, .inl (List.mem_singleton_self _)⟩

/--
No mask overflows, and every detected network is derived from an address that
it contains, exactly when no prefix of an IPv4 address is longer than 32.
-/
theorem masking_exact_iff (output outputV6 : List Char) :
    ((∀ own ∈ interfaceCidrs output, (maskIpv4? own).isSome = true) ∧
        (∀ own ∈ interfaceCidrsV6 outputV6, (maskIpv6? own).isSome = true) ∧
        DerivedFrom lanSubnets (interfaceCidrs output) (detectLocalSubnets (some output)) ∧
        DerivedFrom [linkLocal6] (interfaceCidrsV6 outputV6)
          (detectLocalSubnetsV6Text (some outputV6))) ↔
      ∀ own ∈ interfaceCidrs output, own.prefixLen ≤ 32 := by
  have masked (own : Cidr6) (_ : own ∈ interfaceCidrsV6 outputV6) :
      (maskIpv6? own).isSome = true := by
    rw [maskIpv6?_eq, Option.isSome_some]
  have others :=
    And.intro masked
      (And.intro (detectLocalSubnets_derived output) (detectLocalSubnetsV6_derived outputV6))
  rw [and_iff_left others]
  refine forall₂_congr fun own _ => ?_
  rw [maskIpv4?_eq]
  split <;> simp_all

/-- The mask of a prefix of 33 subtracts it from 32. -/
theorem long_prefix_overflows :
    { addr := Ipv4Addr.ofOctets 10 0 0 1, prefixLen := 33 } ∈
        interfaceCidrs "2: eth0    inet 10.0.0.1/33 scope global eth0\n".toList ∧
      maskIpv4? { addr := Ipv4Addr.ofOctets 10 0 0 1, prefixLen := 33 } = none := by
  decide +kernel

end Shroud.KillSwitchRules
