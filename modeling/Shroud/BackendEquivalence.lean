import Shroud.Confinement

namespace Shroud

open Netfilter KillSwitchRules FirstMatch IptablesScript NftRuleset

/-!
# The two backends compared

One configuration is compiled to xtables commands and to an nft ruleset.
Starting from empty tables, the verdicts of the two agree except on the kinds
of packets listed in `BackendsDiverge`.  Most kinds are about IPv6: the
xtables backend handles that family by a few rules in `OUTPUT` of `ip6tables`
and has no allowlist of IPv6 servers.
-/

/-- The verdict of the xtables backend; each family has its own tool. -/
def xtablesVerdict
    (tables : Tables)
    (around : Surroundings)
    (packet : Packet) :
    Verdict :=
  if packet.isIpv4 then
    (tables .iptables).verdict around packet
  else
    (tables .ip6tables).verdict around packet

section Divergence

variable
  (settings : KillSwitchSettings)
  (servers : List IpAddr)
  (lanSubnets : List Cidr4)
  (lanSubnets6 : List Cidr6)
  (packet : Packet)

/-- A packet that neither leaves through loopback nor is tracked. -/
def Packet.isFresh : Bool :=
  !(packet.leavesThrough lo || packet.isTracked)

/-- The packet is on one of the IPv6 allowlists of the nft ruleset. -/
def NftListsIpv6 : Prop :=
  packet.goesTo6 linkLocal6 = true ∨
    packet.isDhcp = true ∨
    dnsRuling settings.dnsMode true packet = some .accept ∨
    (dnsRuling settings.dnsMode true packet = none ∧
      (packet.leavesThroughTunnel = true ∨
        packet.goesToServer (servers ++ settings.vpnServerIp.toList) = true))

/-- The packet is on one of the IPv6 allowlists of `ip6tables`. -/
def XtablesListsIpv6 : Prop :=
  packet.leavesThrough tun = true ∨ packet.goesToLanV6 lanSubnets6 = true

/-- The packets on which the backends do not agree. -/
inductive BackendsDiverge : Prop
  /-- nft accepts DHCP ahead of its DNS section. -/
  | dhcpPortDns
      (ipv4 : packet.isIpv4 = true)
      (fresh : packet.isFresh = true)
      (confines : settings.confinesDns)
      (fromDhcp : packet.isUdpFrom 68 = true)
      (dns : packet.isDns = true)
      (outside : packet.leavesThroughTunnel = false)
  /-- nft drops DoH ahead of its tunnel section. -/
  | tunnelledDoh
      (ipv4 : packet.isIpv4 = true)
      (fresh : packet.isFresh = true)
      (blocksDoh : settings.blocksDoh = true)
      (doh : packet.isDohTo settings.dohAddresses = true)
      (inside : packet.leavesThroughTunnel = true)
  /-- Only nft allows the explicitly set server. -/
  | explicitServer
      (ipv4 : packet.isIpv4 = true)
      (fresh : packet.isFresh = true)
      (notDns : dnsRuling settings.dnsMode true packet = none)
      (outside : packet.leavesThroughTunnel = false)
      (notDoh : (settings.blocksDoh && packet.isDohTo settings.dohAddresses) = false)
      (notLan : packet.goesToLan lanSubnets = false)
      (notDhcp : packet.isDhcp = false)
      (unlisted : packet.goesToServer servers = false)
      (explicit : packet.goesToServer settings.vpnServerIp.toList = true)
  /-- nft accepts tracked flows ahead of its IPv6 section. -/
  | trackedIpv6
      (ipv6 : packet.isIpv6 = true)
      (mode : settings.ipv6Mode = .block)
      (tracked : packet.isTracked = true)
      (notLoopback : packet.leavesThrough lo = false)
  /-- Allowlists that `ip6tables` does not have. -/
  | onlyNftLists
      (ipv6 : packet.isIpv6 = true)
      (mode : settings.ipv6Mode = .tunnel)
      (fresh : packet.isFresh = true)
      (listed : NftListsIpv6 settings servers packet)
      (unlisted : ¬XtablesListsIpv6 lanSubnets6 packet)
  /-- Allowlists of `ip6tables` that go further than those of nft. -/
  | onlyXtablesLists
      (ipv6 : packet.isIpv6 = true)
      (mode : settings.ipv6Mode = .tunnel)
      (fresh : packet.isFresh = true)
      (unlisted : ¬NftListsIpv6 settings servers packet)
      (listed : XtablesListsIpv6 lanSubnets6 packet)
  /-- With IPv6 handling off, nft still drops what it does not list. -/
  | ipv6Off
      (ipv6 : packet.isIpv6 = true)
      (mode : settings.ipv6Mode = .off)
      (fresh : packet.isFresh = true)
      (unlisted : ¬NftListsIpv6 settings servers packet)

end Divergence

theorem dnsRuling_withIpv6
    {dnsMode : DnsMode}
    (notLocalhost : dnsMode ≠ .localhost)
    (withIpv6 : Bool)
    (packet : Packet) :
    dnsRuling dnsMode withIpv6 packet = dnsRuling dnsMode true packet := by
  cases dnsMode with
  | localhost => exact (notLocalhost rfl).elim
  | _ => rfl

theorem dnsRuling_drop
    {settings : KillSwitchSettings}
    (notLocalhost : settings.dnsMode ≠ .localhost)
    {packet : Packet}
    (dropped : dnsRuling settings.dnsMode true packet = some .drop) :
    settings.confinesDns ∧
      (packet.isDot = true ∨ (packet.isDns = true ∧ packet.leavesThroughTunnel = false)) := by
  have confined (dropped :
        (if packet.isDns then
          some (if packet.leavesThroughTunnel then Verdict.accept
            else .drop)
        else
          guarded packet.isDot .drop) = some .drop) :
      packet.isDot = true ∨ (packet.isDns = true ∧ packet.leavesThroughTunnel = false) := by
    cases dns : packet.isDns with
    | false =>
      rw [dns] at dropped
      exact .inl (guarded_eq_some.mp dropped).1
    | true =>
      cases inside : packet.leavesThroughTunnel with
      | false => exact .inr ⟨rfl, rfl⟩
      | true => simp [dns, inside] at dropped
  cases mode : settings.dnsMode with
  | tunnel =>
    rw [mode] at dropped
    exact ⟨.inl mode, confined dropped⟩
  | strict =>
    rw [mode] at dropped
    exact ⟨.inr mode, confined dropped⟩
  | localhost => exact (notLocalhost mode).elim
  | any =>
    rw [mode] at dropped
    simp [dnsRuling, guarded_eq_some] at dropped

section Agreement

variable
  {settings : KillSwitchSettings}
  {servers : List IpAddr}
  {lanSubnets : List Cidr4}
  {lanSubnets6 : List Cidr6}
  {packet : Packet}

theorem isDhcp_of_isDohTo
    {addresses : List Ipv4Addr}
    (doh : packet.isDohTo addresses = true) :
    packet.isDhcp = false := by
  obtain ⟨addr, -, reaches⟩ := List.any_eq_true.mp doh
  have https := (Bool.and_eq_true_iff.mp reaches).2
  obtain ⟨notTo, -⟩ := Packet.not_udp_of_isTcpTo https 67
  obtain ⟨-, notFrom⟩ := Packet.not_udp_of_isTcpTo https 68
  rw [Packet.isDhcp, notTo, notFrom, Bool.or_self]

theorem isUdpFrom_of_query
    (query : packet.isDns = true ∨ packet.isDot = true)
    (dhcp : packet.isDhcp = true) :
    packet.isUdpFrom 68 = true := by
  rw [Packet.isDhcp, isUdpTo_dhcp_of_query query, Bool.false_or] at dhcp
  exact dhcp

theorem goesToServer_append (first second : List IpAddr) :
    packet.goesToServer (first ++ second) =
      (packet.goesToServer first || packet.goesToServer second) :=
  List.any_append

theorem notEarly (fresh : packet.isFresh = true) :
    (packet.leavesThrough lo || packet.isTracked) = false :=
  Bool.not_eq_eq_eq_not.mp fresh

theorem outputVerdict_ipv4
    (notLocalhost : settings.dnsMode ≠ .localhost)
    (ipv4 : packet.isIpv4 = true)
    (fresh : packet.isFresh = true) :
    outputVerdict settings servers lanSubnets packet =
      if packet.isDhcp then .accept
      else
        (dnsRuling settings.dnsMode true packet).getD
          (if settings.blocksDoh &&
              packet.isDohTo settings.dohAddresses then .drop
          else if packet.goesToLan lanSubnets ||
              packet.leavesThroughTunnel ||
              packet.goesToServer (servers ++ settings.vpnServerIp.toList) then .accept
          else .drop) := by
  have notIpv6 : packet.isIpv6 = false := by
    rw [Packet.isIpv6_eq_not_isIpv4, ipv4, Bool.not_true]
  simp only [outputVerdict, notEarly fresh, notIpv6,
    Packet.goesTo6_of_isIpv4 ipv4, dnsRuling_withIpv6 notLocalhost,
    Bool.false_eq_true, and_false, false_or, ↓reduceIte]

theorem chainVerdict_ipv4
    (ipv4 : packet.isIpv4 = true)
    (fresh : packet.isFresh = true) :
    chainVerdict settings servers lanSubnets packet =
      (dnsRuling settings.dnsMode true packet).getD
        (if packet.leavesThroughTunnel then .accept
        else if settings.blocksDoh &&
            packet.isDohTo settings.dohAddresses then .drop
        else if packet.goesToServer servers ||
            packet.goesToLan lanSubnets || packet.isDhcp then .accept
        else .drop) := by
  simp only [chainVerdict, notEarly fresh, Packet.goesToServer4_eq ipv4, Bool.false_eq_true,
    ↓reduceIte]

theorem verdicts_not_fresh (notFresh : packet.isFresh = false) :
    chainVerdict settings servers lanSubnets packet = .accept ∧
      outputVerdict settings servers lanSubnets packet = .accept := by
  have early : (packet.leavesThrough lo || packet.isTracked) = true :=
    Bool.not_eq_eq_eq_not.mp notFresh
  simp only [chainVerdict, outputVerdict, early, ↓reduceIte, and_self]

theorem verdicts_agree_ipv4
    (notLocalhost : settings.dnsMode ≠ .localhost)
    (ipv4 : packet.isIpv4 = true)
    (agree : ¬BackendsDiverge settings servers lanSubnets lanSubnets6 packet) :
    chainVerdict settings servers lanSubnets packet =
      outputVerdict settings servers lanSubnets packet := by
  cases fresh : packet.isFresh with
  | false => rw [(verdicts_not_fresh fresh).1, (verdicts_not_fresh fresh).2]
  | true =>
    rw [chainVerdict_ipv4 ipv4 fresh,
      outputVerdict_ipv4 notLocalhost ipv4 fresh, goesToServer_append]
    cases ruling : dnsRuling settings.dnsMode true packet with
    | some verdict =>
      rw [Option.getD_some, Option.getD_some]
      cases dhcp : packet.isDhcp with
      | false => rfl
      | true =>
        cases verdict with
        | accept => rfl
        | drop =>
          obtain ⟨confines, query⟩ := dnsRuling_drop notLocalhost ruling
          rcases query with dot | ⟨dns, outside⟩
          · have from68 := isUdpFrom_of_query (.inr dot) dhcp
            have notUdp := Packet.not_udp_of_isTcpTo dot 68
            rw [notUdp.2] at from68
            exact absurd from68 Bool.false_ne_true
          · exact absurd
              (.dhcpPortDns ipv4 fresh confines (isUdpFrom_of_query (.inl dns) dhcp) dns outside)
              agree
    | none =>
      rw [Option.getD_none, Option.getD_none]
      cases inside : packet.leavesThroughTunnel with
      | true =>
        -- Inside the tunnel only a blocked DoH address can matter.
        cases doh : settings.blocksDoh && packet.isDohTo settings.dohAddresses with
        | false => simp
        | true =>
          obtain ⟨blocksDoh, goesToDoh⟩ := Bool.and_eq_true_iff.mp doh
          exact absurd (.tunnelledDoh ipv4 fresh blocksDoh goesToDoh inside) agree
      | false =>
        cases doh : settings.blocksDoh && packet.isDohTo settings.dohAddresses with
        | true =>
          have goesToDoh := (Bool.and_eq_true_iff.mp doh).2
          simp [isDhcp_of_isDohTo goesToDoh]
        | false =>
          cases dhcp : packet.isDhcp with
          | true => simp
          | false =>
            cases lan : packet.goesToLan lanSubnets with
            | true => simp
            | false =>
              cases listed : packet.goesToServer servers with
              | true => simp
              | false =>
                cases explicit : packet.goesToServer settings.vpnServerIp.toList with
                | false => rfl
                | true =>
                  exact absurd
                    (.explicitServer ipv4 fresh ruling inside doh lan dhcp listed explicit)
                    agree

theorem ipv4Lists_of_isIpv6
    (ipv6 : packet.isIpv6 = true)
    (addresses : List Ipv4Addr)
    (subnets : List Cidr4) :
    packet.isDohTo addresses = false ∧ packet.goesToLan subnets = false := by
  have none := Packet.goesTo4_of_isIpv6 ipv6
  constructor
  · refine List.any_eq_false.mpr ?_
    intro addr _
    simp [none]
  · refine List.any_eq_false.mpr ?_
    intro net _
    simp [none]

theorem outputVerdict_ipv6
    (notLocalhost : settings.dnsMode ≠ .localhost)
    (ipv6 : packet.isIpv6 = true)
    (fresh : packet.isFresh = true)
    (mode : settings.ipv6Mode ≠ .block) :
    outputVerdict settings servers lanSubnets packet = .accept ↔
      NftListsIpv6 settings servers packet := by
  have none := ipv4Lists_of_isIpv6 ipv6 settings.dohAddresses lanSubnets
  simp only [outputVerdict, notEarly fresh, mode, none,
    dnsRuling_withIpv6 notLocalhost, NftListsIpv6, Bool.false_eq_true,
    Bool.and_false, Bool.false_or, false_and, ne_eq, not_false_eq_true,
    true_and, ↓reduceIte]
  cases packet.goesTo6 linkLocal6 with
  | true => simp
  | false =>
    cases packet.isDhcp with
    | true => simp
    | false =>
      cases ruling : dnsRuling settings.dnsMode true packet with
      | none => cases packet.leavesThroughTunnel <;> simp
      | some verdict => simp

theorem verdict_eq_of_accept_iff
    {first second : Verdict}
    (same : first = .accept ↔ second = .accept) :
    first = second := by
  cases first with
  | accept => exact (same.mp rfl).symm
  | drop =>
    cases second with
    | accept => exact same.mpr rfl
    | drop => rfl

theorem frontRuling6_tunnel (fresh : packet.isFresh = true) :
    (frontRuling6 .tunnel lanSubnets6 packet).getD .accept = .accept ↔
      XtablesListsIpv6 lanSubnets6 packet := by
  simp only [frontRuling6, notEarly fresh, Bool.false_or, Option.getD_some, XtablesListsIpv6]
  cases packet.leavesThrough tun <;>
    cases packet.goesToLanV6 lanSubnets6 <;> simp

theorem verdicts_agree_ipv6
    (notLocalhost : settings.dnsMode ≠ .localhost)
    (ipv6 : packet.isIpv6 = true)
    (agree : ¬BackendsDiverge settings servers lanSubnets lanSubnets6 packet) :
    (frontRuling6 settings.ipv6Mode lanSubnets6 packet).getD .accept =
      outputVerdict settings servers lanSubnets packet := by
  cases mode : settings.ipv6Mode with
  | block =>
    cases loopback : packet.leavesThrough lo with
    | true => simp [frontRuling6, outputVerdict, loopback]
    | false =>
      cases tracked : packet.isTracked with
      | true => exact absurd (.trackedIpv6 ipv6 mode tracked loopback) agree
      | false =>
        simp [frontRuling6, outputVerdict, loopback, tracked, mode, ipv6]
  | tunnel =>
    cases fresh : packet.isFresh with
    | false =>
      have early : (packet.leavesThrough lo || packet.isTracked) = true :=
        Bool.not_eq_eq_eq_not.mp fresh
      simp [frontRuling6, outputVerdict, early]
    | true =>
      have notBlock : settings.ipv6Mode ≠ .block := by simp [mode]
      refine verdict_eq_of_accept_iff ?_
      rw [frontRuling6_tunnel fresh, outputVerdict_ipv6 notLocalhost ipv6 fresh notBlock]
      constructor
      · intro listed
        by_contra unlisted
        exact agree (.onlyXtablesLists ipv6 mode fresh unlisted listed)
      · intro listed
        by_contra unlisted
        exact agree (.onlyNftLists ipv6 mode fresh listed unlisted)
  | off =>
    rw [frontRuling6, Option.getD_none]
    cases fresh : packet.isFresh with
    | false => exact (verdicts_not_fresh fresh).2.symm
    | true =>
      have notBlock : settings.ipv6Mode ≠ .block := by simp [mode]
      refine Eq.symm ((outputVerdict_ipv6 notLocalhost ipv6 fresh notBlock).mpr ?_)
      by_contra unlisted
      exact agree (.ipv6Off ipv6 mode fresh unlisted)

/--
Where the xtables backend installs over empty tables, its verdict is that of
the nft ruleset on every packet outside the listed kinds.
-/
theorem backends_agree
    {tables : Tables}
    (installs :
      install
          (buildCompleteScript settings servers lanSubnets lanSubnets6)
          emptyTables = some tables)
    (around : Surroundings)
    (agree : ¬BackendsDiverge settings servers lanSubnets lanSubnets6 packet) :
    xtablesVerdict tables around packet =
      (buildNftRuleset settings servers lanSubnets).output.verdict around packet := by
  have notLocalhost : settings.dnsMode ≠ .localhost := by
    intro localhost
    rw [buildCompleteScript, install_append,
      install_localhost localhost _ _ rfl, Option.bind_none] at installs
    exact absurd installs (by simp)
  rw [install_buildCompleteScript notLocalhost _ _ _ rfl, Option.some.injEq] at installs
  subst tables
  rw [xtablesVerdict, verdict_installed_iptables,
    verdict_installed_ip6tables, verdict_buildNftRuleset]
  cases ipv4 : packet.isIpv4 with
  | true =>
    rw [if_pos rfl]
    exact verdicts_agree_ipv4 notLocalhost ipv4 agree
  | false =>
    have ipv6 : packet.isIpv6 = true := by
      rw [Packet.isIpv6_eq_not_isIpv4, ipv4, Bool.not_false]
    rw [if_neg Bool.false_ne_true]
    exact verdicts_agree_ipv6 notLocalhost ipv6 agree

theorem verdicts_differ
    (notLocalhost : settings.dnsMode ≠ .localhost)
    (tables : Tables)
    (noRules : (tables .ip6tables).output = [])
    (around : Surroundings)
    (diverges : BackendsDiverge settings servers lanSubnets lanSubnets6 packet) :
    xtablesVerdict
        (installed settings servers lanSubnets lanSubnets6 tables)
        around packet ≠
      (buildNftRuleset settings servers lanSubnets).output.verdict around packet := by
  have accepts : (tables .ip6tables).verdict around packet = .accept := by
    rw [Table.verdict, noRules]
    rfl
  have notIpv4 (ipv6 : packet.isIpv6 = true) : packet.isIpv4 = false := by
    rw [Packet.isIpv6_eq_not_isIpv4] at ipv6
    exact Bool.not_eq_eq_eq_not.mp ipv6
  rw [xtablesVerdict, verdict_installed_iptables,
    verdict_installed_ip6tables, verdict_buildNftRuleset, accepts]
  cases diverges with
  | dhcpPortDns ipv4 fresh confines fromDhcp dns outside =>
    have ruling := dnsRuling_of_confinesDns confines outside true
    have dhcp : packet.isDhcp = true := by
      rw [Packet.isDhcp, fromDhcp, Bool.or_true]
    rw [if_pos ipv4, chainVerdict_ipv4 ipv4 fresh,
      outputVerdict_ipv4 notLocalhost ipv4 fresh, ruling]
    simp [dns, dhcp]
  | tunnelledDoh ipv4 fresh blocksDoh doh inside =>
    obtain ⟨addr, -, reaches⟩ := List.any_eq_true.mp doh
    have https := (Bool.and_eq_true_iff.mp reaches).2
    have notDns : packet.isDns = false := by
      rw [Packet.isDns, (Packet.not_udp_of_isTcpTo https 53).1,
        Packet.isTcpTo_unique https (by decide), Bool.or_self]
    have notDot : packet.isDot = false := Packet.isTcpTo_unique https (by decide)
    have notDecided : dnsRuling settings.dnsMode true packet = none := by
      cases mode : settings.dnsMode with
      | localhost => exact (notLocalhost mode).elim
      | any => simp [dnsRuling, notDns]
      | _ => simp [dnsRuling, notDns, notDot]
    rw [if_pos ipv4, chainVerdict_ipv4 ipv4 fresh,
      outputVerdict_ipv4 notLocalhost ipv4 fresh, notDecided]
    simp [inside, isDhcp_of_isDohTo doh, blocksDoh, doh]
  | explicitServer ipv4 fresh notDns outside notDoh notLan notDhcp
      unlisted explicit =>
      rw [if_pos ipv4, chainVerdict_ipv4 ipv4 fresh,
        outputVerdict_ipv4 notLocalhost ipv4 fresh, goesToServer_append,
        notDns]
      simp [outside, notDoh, notLan, notDhcp, unlisted, explicit]
  | trackedIpv6 ipv6 mode tracked notLoopback =>
    simp [notIpv4 ipv6, mode, frontRuling6, outputVerdict, tracked, notLoopback]
  | onlyNftLists ipv6 mode fresh listed unlisted =>
    have notBlock : settings.ipv6Mode ≠ .block := by simp [mode]
    rw [if_neg (by simp [notIpv4 ipv6]), mode,
      (outputVerdict_ipv6 notLocalhost ipv6 fresh notBlock).mpr listed]
    exact fun accepted =>
      unlisted ((frontRuling6_tunnel fresh).mp accepted)
  | onlyXtablesLists ipv6 mode fresh unlisted listed =>
    have notBlock : settings.ipv6Mode ≠ .block := by simp [mode]
    rw [if_neg (by simp [notIpv4 ipv6]), mode, (frontRuling6_tunnel fresh).mpr listed]
    exact fun accepted =>
      unlisted ((outputVerdict_ipv6 notLocalhost ipv6 fresh notBlock).mp accepted.symm)
  | ipv6Off ipv6 mode fresh unlisted =>
    have notBlock : settings.ipv6Mode ≠ .block := by simp [mode]
    rw [if_neg (by simp [notIpv4 ipv6]), mode, frontRuling6, Option.getD_none]
    exact fun accepted =>
      unlisted ((outputVerdict_ipv6 notLocalhost ipv6 fresh notBlock).mp accepted.symm)

end Agreement

/-- A server or a subnet more never closes anything, on either backend. -/
theorem exceptions_only_open
    (settings : KillSwitchSettings)
    {servers servers' : List IpAddr}
    (moreServers : servers ⊆ servers')
    {lanSubnets lanSubnets' : List Cidr4}
    (moreSubnets : lanSubnets ⊆ lanSubnets')
    {lanSubnets6 lanSubnets6' : List Cidr6}
    (moreSubnets6 : lanSubnets6 ⊆ lanSubnets6')
    (tables : Tables)
    (around : Surroundings)
    (packet : Packet) :
    (xtablesVerdict (installed settings servers lanSubnets lanSubnets6 tables) around
          packet = .accept →
        xtablesVerdict (installed settings servers' lanSubnets' lanSubnets6' tables) around
          packet = .accept) ∧
      ((buildNftRuleset settings servers lanSubnets).output.verdict around packet =
          .accept →
        (buildNftRuleset settings servers' lanSubnets').output.verdict around packet =
          .accept) := by
  have toServer4 : packet.goesToServer4 servers → packet.goesToServer4 servers' := by
    grind [Packet.goesToServer4]
  have toServer : packet.goesToServer (servers ++ settings.vpnServerIp.toList) →
      packet.goesToServer (servers' ++ settings.vpnServerIp.toList) := by
    grind [Packet.goesToServer]
  have toLan : packet.goesToLan lanSubnets → packet.goesToLan lanSubnets' := by
    grind [Packet.goesToLan]
  have toLan6 : packet.goesToLanV6 lanSubnets6 → packet.goesToLanV6 lanSubnets6' := by
    grind [Packet.goesToLanV6]
  simp only [xtablesVerdict, verdict_installed_iptables, verdict_installed_ip6tables,
    verdict_buildNftRuleset, chainVerdict, outputVerdict]
  constructor
  · split
    · cases dnsRuling settings.dnsMode true packet <;> grind
    · cases settings.ipv6Mode <;> simp only [frontRuling6] <;> grind
  · cases dnsRuling settings.dnsMode (settings.ipv6Mode ≠ .block) packet <;> grind

def webServer : IpAddr :=
  .v4 (.ofOctets 93 184 216 34)

def privateNet : Cidr4 :=
  ⟨Ipv4Addr.ofOctets 10 0 0 0, 8⟩

def privateNet6 : Cidr6 :=
  ⟨Ipv6Addr.ofEnds 0xfd00 0, 8⟩

theorem listed_server_stays_open :
    xtablesVerdict
          (installed .new (webServer :: exampleServers) (privateNet :: exampleLan)
            [privateNet6, linkLocal6] emptyTables) .quiet webPacket =
        .accept ∧
      (buildNftRuleset .new (webServer :: exampleServers) (privateNet :: exampleLan)).output.verdict
          .quiet webPacket =
        .accept := by
  have accepted :
      xtablesVerdict (installed .new [webServer] exampleLan [linkLocal6] emptyTables) .quiet
            webPacket =
          .accept ∧
        (buildNftRuleset .new [webServer] exampleLan).output.verdict .quiet webPacket =
          .accept := by
    decide +kernel
  have opens :=
    exceptions_only_open .new (List.cons_subset_cons webServer (List.nil_subset exampleServers))
      (List.subset_cons_self privateNet exampleLan) (List.subset_cons_self privateNet6 [linkLocal6])
      emptyTables .quiet webPacket
  exact ⟨opens.1 accepted.1, opens.2 accepted.2⟩

theorem backends_agree_webPacket :
    ∃ tables,
      install (buildCompleteScript .new exampleServers exampleLan []) emptyTables = some tables ∧
        xtablesVerdict tables .quiet webPacket =
          (buildNftRuleset .new exampleServers exampleLan).output.verdict .quiet webPacket := by
  have installs :=
    install_buildCompleteScript
      (show KillSwitchSettings.new.dnsMode ≠ .localhost by decide)
      exampleServers exampleLan [] (show (emptyTables .iptables).user .killSwitch = none from rfl)
  refine ⟨_, installs, backends_agree installs .quiet ?_⟩
  intro diverges
  cases diverges with
  | dhcpPortDns _ _ _ fromDhcp _ _ => exact absurd fromDhcp (by decide)
  | tunnelledDoh _ _ _ _ inside => exact absurd inside (by decide)
  | explicitServer _ _ _ _ _ _ _ _ explicit => exact absurd explicit (by decide)
  | trackedIpv6 ipv6 _ _ _
  | onlyNftLists ipv6 _ _ _ _
  | onlyXtablesLists ipv6 _ _ _ _
  | ipv6Off ipv6 _ _ _ => exact absurd ipv6 (by decide)

def handshake6 : Packet where
  addresses := .v6 (.ofEnds 0xfd00 2) (.ofEnds 0x2001 1)
  transport := .udp 40000 51820
  outInterface := "wlan0"
  ctState := .new

theorem verdicts_differ_tracked6 :
    xtablesVerdict (installed .new [] [] [] emptyTables) .quiet
        { handshake6 with ctState := .established } ≠
      (buildNftRuleset .new [] []).output.verdict .quiet
        { handshake6 with ctState := .established } :=
  verdicts_differ (by decide) emptyTables rfl .quiet (.trackedIpv6 rfl rfl rfl rfl)

/-- Only nft lets the handshake with an IPv6 server through. -/
theorem backends_disagree_on_ipv6Server :
    ∃ tables,
      install
          (buildCompleteScript
            { KillSwitchSettings.new with ipv6Mode := .tunnel }
            [.v6 (.ofEnds 0x2001 1)] [] [])
          emptyTables = some tables ∧
        xtablesVerdict tables .quiet handshake6 = .drop ∧
        (buildNftRuleset
          { KillSwitchSettings.new with ipv6Mode := .tunnel }
          [.v6 (.ofEnds 0x2001 1)] []).output.verdict .quiet handshake6 =
          .accept := by
  have installs :=
    install_buildCompleteScript (show ({ KillSwitchSettings.new with ipv6Mode := .tunnel } :
        KillSwitchSettings).dnsMode ≠ .localhost by decide)
      [.v6 (.ofEnds 0x2001 1)] [] []
      (show (emptyTables .iptables).user .killSwitch = none from rfl)
  refine ⟨_, installs, ?_, ?_⟩
  · rw [xtablesVerdict, verdict_installed_ip6tables]
    decide
  · rw [verdict_buildNftRuleset]
    decide +kernel

end Shroud
