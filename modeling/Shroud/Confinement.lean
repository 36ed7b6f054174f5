import Shroud.RuleVerdicts

namespace Shroud

open Netfilter KillSwitchRules FirstMatch AddressText

/-!
# Confinement of outgoing packets

What the installed rules keep in, over all packets, settings and detected
lists: IPv4 traffic that no exemption covers, DNS and DNS over HTTPS outside
the tunnel for the iptables chain, and DNS for the nft chain.
-/

theorem dnsRuling_confining
    {packet : Packet}
    {allowed : Bool}
    (accepted :
      (if packet.isDns then
        some (if allowed then Verdict.accept else .drop)
      else
        guarded packet.isDot .drop) = some .accept) :
    packet.isDns = true ∧ allowed = true := by
  cases dns : packet.isDns with
  | false => cases dot : packet.isDot <;> simp [dns, dot] at accepted
  | true =>
    cases allowed with
    | false => simp [dns] at accepted
    | true => exact ⟨rfl, rfl⟩

/-- Where a mode allows DNS to go. -/
def dnsAllowed
    (dnsMode : DnsMode)
    (withIpv6 : Bool)
    (packet : Packet) :
    Bool :=
  match dnsMode with
  | .tunnel | .strict => packet.leavesThroughTunnel
  | .localhost => packet.goesToServer (localResolvers withIpv6)
  | .any => true

theorem dnsRuling_accept
    {dnsMode : DnsMode}
    {withIpv6 : Bool}
    {packet : Packet}
    (accepted : dnsRuling dnsMode withIpv6 packet = some .accept) :
    packet.isDns = true ∧ dnsAllowed dnsMode withIpv6 packet = true := by
  cases dnsMode with
  | any => exact ⟨(guarded_eq_some.mp accepted).1, rfl⟩
  | _ => exact dnsRuling_confining accepted

/-- An IPv4 packet that none of the documented exemptions covers. -/
structure Unexempted
    (settings : KillSwitchSettings)
    (servers : List IpAddr)
    (lanSubnets : List Cidr4)
    (packet : Packet) : Prop where
  ipv4 : packet.isIpv4 = true
  untracked : packet.isTracked = false
  notLoopback : packet.leavesThrough lo = false
  notTunnel : packet.leavesThroughTunnel = false
  notServer : packet.goesToServer servers = false
  notLan : packet.goesToLan lanSubnets = false
  notDhcp : packet.isDhcp = false
  notAnyDns : settings.dnsMode = .any → packet.isDns = false
  notLocalDns :
    settings.dnsMode = .localhost →
      packet.isDns = true →
      packet.goesToServer (localResolvers false) = false

namespace Unexempted

variable
  {settings : KillSwitchSettings}
  {servers : List IpAddr}
  {lanSubnets : List Cidr4}
  {packet : Packet}

theorem dnsRuling_ne_accept
    (unexempted : Unexempted settings servers lanSubnets packet)
    (withIpv6 : Bool) :
    dnsRuling settings.dnsMode withIpv6 packet ≠ some .accept := by
  intro accepted
  obtain ⟨dns, allowed⟩ := dnsRuling_accept accepted
  have resolvers :
      packet.goesToServer (localResolvers withIpv6) =
        packet.goesToServer (localResolvers false) := by
    have noIpv6 := Packet.goesTo6_of_isIpv4 unexempted.ipv4
    cases withIpv6 <;>
      simp [localResolvers, Packet.goesToServer, noIpv6]
  cases mode : settings.dnsMode with
  | localhost =>
    simp [mode, dnsAllowed, resolvers, unexempted.notLocalDns mode dns] at allowed
  | any => simp [unexempted.notAnyDns mode] at dns
  | _ => simp [mode, dnsAllowed, unexempted.notTunnel] at allowed

theorem getD_drop
    {ruling : Option Verdict}
    (notAccept : ruling ≠ some .accept) :
    ruling.getD .drop = .drop := by
  cases ruling with
  | none => rfl
  | some verdict =>
    cases verdict with
    | accept => exact (notAccept rfl).elim
    | drop => rfl

theorem chainVerdict_eq_drop
    (unexempted : Unexempted settings servers lanSubnets packet) :
    IptablesScript.chainVerdict settings servers lanSubnets packet = .drop := by
  have notServer : packet.goesToServer4 servers = false := by
    rw [Packet.goesToServer4_eq unexempted.ipv4]
    exact unexempted.notServer
  have notAccept := unexempted.dnsRuling_ne_accept true
  simp only [IptablesScript.chainVerdict, unexempted.notLoopback,
    unexempted.untracked, unexempted.notTunnel, notServer,
    unexempted.notLan, unexempted.notDhcp, Bool.or_self,
    Bool.false_eq_true, ↓reduceIte, ite_self]
  exact getD_drop notAccept

theorem outputVerdict_eq_drop
    (unexempted : Unexempted settings servers lanSubnets packet)
    (notExplicit : packet.goesToServer settings.vpnServerIp.toList = false) :
    NftRuleset.outputVerdict settings servers lanSubnets packet = .drop := by
  have notServer : packet.goesToServer (servers ++ settings.vpnServerIp.toList) = false := by
    have detected := unexempted.notServer
    unfold Packet.goesToServer at detected notExplicit ⊢
    rw [List.any_append, detected, notExplicit, Bool.or_self]
  have notIpv6 : packet.isIpv6 = false := by
    rw [Packet.isIpv6_eq_not_isIpv4, unexempted.ipv4, Bool.not_true]
  have notAccept := unexempted.dnsRuling_ne_accept (decide (settings.ipv6Mode ≠ .block))
  simp only [NftRuleset.outputVerdict, unexempted.notLoopback,
    unexempted.untracked, unexempted.notTunnel, notServer, notIpv6,
    Packet.goesTo6_of_isIpv4 unexempted.ipv4, unexempted.notLan,
    unexempted.notDhcp, Bool.or_self, Bool.false_eq_true, and_false,
    or_self, ↓reduceIte, ite_self]
  exact getD_drop notAccept

end Unexempted

open IptablesScript NftRuleset in
/--
A packet that no exemption covers is dropped by whatever tables the complete
script leaves, and by the nft ruleset.  Only the nft ruleset reads the
explicitly set server.
-/
theorem ipv4_confined
    {settings : KillSwitchSettings}
    {servers : List IpAddr}
    {lanSubnets : List Cidr4}
    {packet : Packet}
    (unexempted : Unexempted settings servers lanSubnets packet)
    (lanSubnets6 : List Cidr6)
    (around : Surroundings) :
    (settings.dnsMode ≠ .localhost →
      ∀ tables : Tables,
        (tables .iptables).user .killSwitch = none →
        ∃ result,
          install
              (buildCompleteScript settings servers lanSubnets lanSubnets6)
              tables = some result ∧
            (result .iptables).verdict around packet = .drop) ∧
      (packet.goesToServer settings.vpnServerIp.toList = false →
        (buildNftRuleset settings servers lanSubnets).output.verdict
          around packet = .drop) := by
  constructor
  · intro notLocalhost tables noChain
    refine ⟨_, install_buildCompleteScript notLocalhost servers lanSubnets lanSubnets6 noChain, ?_⟩
    rw [verdict_installed_iptables]
    exact unexempted.chainVerdict_eq_drop
  · intro notExplicit
    rw [verdict_buildNftRuleset]
    exact unexempted.outputVerdict_eq_drop notExplicit

def webPacket : Packet where
  addresses := .v4 (.ofOctets 192 168 1 20) (.ofOctets 93 184 216 34)
  transport := .tcp 40000 443
  outInterface := "wlan0"
  ctState := .new

def exampleServers : List IpAddr :=
  [.v4 (.ofOctets 198 51 100 7)]

def exampleLan : List Cidr4 :=
  [⟨Ipv4Addr.ofOctets 192 168 1 0, 24⟩]

open IptablesScript NftRuleset in
theorem ipv4_confined_webPacket :
    (∃ result,
      install (buildCompleteScript .new exampleServers exampleLan []) emptyTables = some result ∧
        (result .iptables).verdict .quiet webPacket = .drop) ∧
      (buildNftRuleset .new exampleServers exampleLan).output.verdict .quiet webPacket = .drop := by
  have unexempted : Unexempted .new exampleServers exampleLan webPacket :=
    { ipv4 := rfl
      untracked := rfl
      notLoopback := by decide
      notTunnel := by decide
      notServer := by decide
      notLan := by decide
      notDhcp := by decide
      notAnyDns := by simp [KillSwitchSettings.new]
      notLocalDns := by simp [KillSwitchSettings.new] }
  have confined := ipv4_confined unexempted [] .quiet
  exact ⟨confined.1 (by decide) emptyTables rfl, confined.2 rfl⟩

/-- The modes that let DNS leave through a tunnel only. -/
def KillSwitchSettings.confinesDns (settings : KillSwitchSettings) : Prop :=
  settings.dnsMode = .tunnel ∨ settings.dnsMode = .strict

theorem dnsRuling_of_confinesDns
    {settings : KillSwitchSettings}
    (confines : settings.confinesDns)
    {packet : Packet}
    (notTunnel : packet.leavesThroughTunnel = false)
    (withIpv6 : Bool) :
    dnsRuling settings.dnsMode withIpv6 packet = guarded (packet.isDns || packet.isDot) .drop := by
  rcases confines with mode | mode <;>
  · rw [mode]
    simp only [dnsRuling, notTunnel]
    cases packet.isDns <;> rfl

/-- A packet to the HTTPS port of an address on the DoH blocklist. -/
def GoesToDoh
    (settings : KillSwitchSettings)
    (packet : Packet) : Prop :=
  packet.isTcpTo 443 = true ∧
    ∃ entry ∈ dohProviders ++ settings.customDohBlocklist,
      ∃ addr, parseIpv4? entry = some addr ∧ packet.goesTo4 (Cidr.host addr) = true

theorem GoesToDoh.isDohTo
    {settings : KillSwitchSettings}
    {packet : Packet}
    (goes : GoesToDoh settings packet) :
    packet.isDohTo settings.dohAddresses = true := by
  obtain ⟨https, entry, listed, addr, parsed, reaches⟩ := goes
  refine List.any_eq_true.mpr ⟨addr, ?_, ?_⟩
  · exact List.mem_filterMap.mpr ⟨entry, listed, parsed⟩
  · rw [reaches, https, Bool.and_self]

open IptablesScript in
/--
Outside the tunnel the chain drops DNS, DNS over TLS and, where it is asked
to, DNS over HTTPS, whatever allowlist the packet also matches.
-/
theorem chain_confines_dns_and_doh
    {settings : KillSwitchSettings}
    (confines : settings.confinesDns)
    {packet : Packet}
    (untracked : packet.isTracked = false)
    (notLoopback : packet.leavesThrough lo = false)
    (notTunnel : packet.leavesThroughTunnel = false)
    (query :
      packet.isDns = true ∨ packet.isDot = true ∨
        (settings.blockDoh = true ∧ GoesToDoh settings packet))
    (vpnIps : List IpAddr)
    (lanSubnets : List Cidr4)
    (lanSubnets6 : List Cidr6)
    (around : Surroundings)
    {tables : Tables}
    (noChain : (tables .iptables).user .killSwitch = none) :
    ∃ result,
      install
          (buildCompleteScript settings vpnIps lanSubnets lanSubnets6)
          tables = some result ∧
        (result .iptables).verdict around packet = .drop := by
  have notLocalhost : settings.dnsMode ≠ .localhost := by
    rcases confines with mode | mode <;> simp [mode]
  refine ⟨_, install_buildCompleteScript notLocalhost vpnIps lanSubnets lanSubnets6 noChain, ?_⟩
  rw [verdict_installed_iptables]
  simp only [chainVerdict, untracked, notLoopback, notTunnel,
    dnsRuling_of_confinesDns confines notTunnel, Bool.or_self,
    Bool.false_eq_true, ↓reduceIte]
  rcases query with dns | dot | ⟨blockDoh, goesToDoh⟩
  · rw [dns, Bool.true_or, guarded_true, Option.getD_some]
  · rw [dot, Bool.or_true, guarded_true, Option.getD_some]
  · have blocksDoh : settings.blocksDoh = true := by
      rcases confines with mode | mode <;>
        simp [KillSwitchSettings.blocksDoh, blockDoh, mode, DnsMode.isTunnelOrStrict]
    simp only [blocksDoh, goesToDoh.isDohTo, Bool.and_self, ↓reduceIte]
    cases packet.isDns || packet.isDot <;> rfl

/-- A query to a resolver in the local network, sent from the DHCP port. -/
def dhcpPortQuery : Packet where
  addresses := .v4 (.ofOctets 192 168 1 20) (.ofOctets 192 168 1 1)
  transport := .udp 68 53
  outInterface := "wlan0"
  ctState := .new

open IptablesScript in
theorem chain_confines_dhcpPortQuery :
    ∃ result,
      install
          (buildCompleteScript .new [.v4 (.ofOctets 192 168 1 1)]
            [⟨Ipv4Addr.ofOctets 192 168 1 0, 24⟩] [])
          emptyTables = some result ∧
        (result .iptables).verdict .quiet dhcpPortQuery = .drop :=
  chain_confines_dns_and_doh (.inl rfl) rfl (by decide) (by decide) (.inl (by decide)) _ _ _ _ rfl

theorem isUdpTo_dhcp_of_query
    {packet : Packet}
    (query : packet.isDns = true ∨ packet.isDot = true) :
    packet.isUdpTo 67 = false := by
  rcases query with dns | dot
  · rcases Bool.or_eq_true_iff.mp dns with udp | tcp
    · exact Packet.isUdpTo_unique udp (by decide)
    · exact (Packet.not_udp_of_isTcpTo tcp 67).1
  · exact (Packet.not_udp_of_isTcpTo dot 67).1

open NftRuleset in
/--
Outside the tunnel the nft chain drops DNS and DNS over TLS unless the packet
comes from the DHCP client port or goes to a link-local IPv6 address: both
are accepted ahead of the DNS section.
-/
theorem nft_drops_dns_iff
    {settings : KillSwitchSettings}
    (confines : settings.confinesDns)
    {packet : Packet}
    (untracked : packet.isTracked = false)
    (notLoopback : packet.leavesThrough lo = false)
    (notTunnel : packet.leavesThroughTunnel = false)
    (query : packet.isDns = true ∨ packet.isDot = true)
    (vpnServerIps : List IpAddr)
    (lanSubnets : List Cidr4)
    (around : Surroundings) :
    (buildNftRuleset settings vpnServerIps lanSubnets).output.verdict
        around packet = .drop ↔
      ¬(packet.isUdpFrom 68 = true ∧ (packet.isIpv4 = true ∨ settings.ipv6Mode ≠ .block)) ∧
      ¬(packet.goesTo6 linkLocal6 = true ∧ settings.ipv6Mode ≠ .block) := by
  have dropped :
      dnsRuling settings.dnsMode (decide (settings.ipv6Mode ≠ .block)) packet = some .drop := by
    rw [dnsRuling_of_confinesDns confines notTunnel]
    rcases query with dns | dot
    · rw [dns, Bool.true_or, guarded_true]
    · rw [dot, Bool.or_true, guarded_true]
  rw [verdict_buildNftRuleset]
  simp only [outputVerdict, untracked, notLoopback, dropped,
    Option.getD_some, Packet.isDhcp, isUdpTo_dhcp_of_query query,
    Packet.isIpv6_eq_not_isIpv4, Bool.or_self, Bool.false_or,
    Bool.false_eq_true, ↓reduceIte]
  cases family : packet.isIpv4 with
  | true =>
    have noLinkLocal := Packet.goesTo6_of_isIpv4 family linkLocal6
    cases packet.isUdpFrom 68 <;> simp [noLinkLocal]
  | false =>
    by_cases blocked : settings.ipv6Mode = .block
    · simp [blocked]
    · cases packet.goesTo6 linkLocal6 <;>
        cases packet.isUdpFrom 68 <;> simp [blocked]

open NftRuleset in
theorem nft_drops_dns_iff_ordinaryPort :
    (buildNftRuleset .new [] []).output.verdict .quiet
        { dhcpPortQuery with transport := .udp 40000 53 } = .drop :=
  (nft_drops_dns_iff (.inl rfl) rfl (by decide) (by decide)
    (.inl (by decide)) [] [] .quiet).mpr ⟨by decide, by decide⟩

open NftRuleset in
/-- A DNS query from the DHCP client port leaves outside the tunnel. -/
theorem nft_accepts_dhcpPortQuery :
    KillSwitchSettings.new.confinesDns ∧
      dhcpPortQuery.isTracked = false ∧
      dhcpPortQuery.leavesThrough lo = false ∧
      dhcpPortQuery.leavesThroughTunnel = false ∧
      dhcpPortQuery.isDns = true ∧
      (buildNftRuleset .new [] []).output.verdict .quiet dhcpPortQuery = .accept := by
  refine ⟨.inl rfl, rfl, by decide, by decide, by decide, ?_⟩
  rw [verdict_buildNftRuleset]
  decide

end Shroud
