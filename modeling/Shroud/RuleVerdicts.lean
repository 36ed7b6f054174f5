import Shroud.InstalledRules
import Shroud.NftRuleset

namespace Shroud

open Netfilter KillSwitchRules FirstMatch

/-!
# Closed forms of the rule lists

Each builder emits long rule lists in sections.  This module gives the ruling
of every section, and from these the verdict of the whole chain as one nested
conditional.  Statements about packets are proved from the closed forms and
never look at a rule again.
-/

/-- The resolvers that the localhost mode allows. -/
def localResolvers (withIpv6 : Bool) : List IpAddr :=
  [ .v4 (.ofOctets 127 0 0 1), .v4 (.ofOctets 127 0 0 53) ] ++
  if withIpv6 then [.v6 loopback6] else []

def dnsRuling
    (dnsMode : DnsMode)
    (withIpv6 : Bool)
    (packet : Packet) :
    Option Verdict :=
  match dnsMode with
  | .tunnel | .strict =>
    if packet.isDns then
      some (if packet.leavesThroughTunnel then .accept else .drop)
    else
      guarded packet.isDot .drop
  | .localhost =>
    if packet.isDns then
      some (if packet.goesToServer (localResolvers withIpv6) then .accept
        else .drop)
    else
      guarded packet.isDot .drop
  | .any => guarded packet.isDns .accept

theorem limitedDns_guards
    {first second third accepted : Bool}
    (isAccepted : (first || (second || (third || false))) = accepted)
    (udp tcp dot : Bool) :
    (guarded (first && udp) Verdict.accept).or
      ((guarded (first && tcp) .accept).or
        ((guarded (second && udp) .accept).or
          ((guarded (second && tcp) .accept).or
            ((guarded (third && udp) .accept).or
              ((guarded (third && tcp) .accept).or
                ((guarded udp .drop).or
                  ((guarded tcp .drop).or ((guarded dot .drop).or none)))))))) =
      if udp || tcp then some (if accepted then .accept else .drop) else guarded dot .drop := by
  subst isAccepted
  cases udp <;> cases tcp <;> cases dot <;> cases first <;>
    cases second <;> cases third <;> rfl

theorem orTunnel (packet : Packet) :
    (packet.leavesThrough tun || (packet.leavesThrough wg || (packet.leavesThrough tap || false))) =
      packet.leavesThroughTunnel := by
  rw [Bool.or_false, ← Bool.or_assoc, Bool.or_right_comm]
  rfl

theorem anyDns_guards (udp tcp : Bool) :
    (guarded udp Verdict.accept).or ((guarded tcp .accept).or none) =
      guarded (udp || tcp) .accept := by
  cases udp <;> cases tcp <;> rfl

/-- Only the IPv4 entries of a server list. -/
def Packet.goesToServer4 (packet : Packet) (servers : List IpAddr) : Bool :=
  servers.any fun server =>
    match server with
    | .v4 addr => packet.goesTo4 (Cidr.host addr)
    | .v6 _ => false

theorem Packet.goesToServer4_eq
    {packet : Packet}
    (ipv4 : packet.isIpv4 = true)
    (servers : List IpAddr) :
    packet.goesToServer4 servers = packet.goesToServer servers := by
  unfold goesToServer4 goesToServer
  congr 1
  funext server
  cases server with
  | v4 addr => rfl
  | v6 addr => exact (goesTo6_of_isIpv4 ipv4 _).symm

namespace IptablesScript

/-- The ruling of the rules that a list of lines appends. -/
def linesRuling
    (around : Surroundings)
    (lines : List ScriptLine)
    (packet : Packet) :
    Option Verdict :=
  firstRuling (XRule.ruling around) (lines.filterMap ScriptLine.appended?) packet

section

variable (around : Surroundings)

@[simp] theorem linesRuling_nil (packet : Packet) :
    linesRuling around [] packet = none :=
  rfl

@[simp] theorem linesRuling_comment
    (text : String)
    (lines : List ScriptLine)
    (packet : Packet) :
    linesRuling around (.comment text :: lines) packet =
      linesRuling around lines packet :=
  rfl

@[simp] theorem linesRuling_appendRule
    (tests : List XMatch)
    (target : XTarget)
    (lines : List ScriptLine)
    (packet : Packet) :
    linesRuling around (appendRule tests target :: lines) packet =
      (XRule.ruling around (.rule tests target) packet).or
        (linesRuling around lines packet) :=
  firstRuling_cons _ _ _ _

theorem linesRuling_append
    (first second : List ScriptLine)
    (packet : Packet) :
    linesRuling around (first ++ second) packet =
      (linesRuling around first packet).or (linesRuling around second packet) := by
  simp only [linesRuling, List.filterMap_append, firstRuling_append]

end

theorem appended_map
    {Item : Type}
    (items : List Item)
    (tests : Item → List XMatch)
    (target : XTarget) :
    (items.map fun item => appendRule (tests item) target).filterMap ScriptLine.appended? =
      items.map fun item => .rule (tests item) target := by
  rw [List.filterMap_map, ← List.filterMap_eq_map]
  rfl

theorem linesRuling_map
    {Item : Type}
    {around : Surroundings}
    {packet : Packet}
    {tests : Item → List XMatch}
    {target : XTarget}
    {test : Item → Bool}
    {verdict : Verdict}
    (uniform :
      ∀ item,
        XRule.ruling around (.rule (tests item) target) packet = guarded (test item) verdict)
    (items : List Item) :
    linesRuling around
        (items.map fun item => appendRule (tests item) target) packet =
      guarded (items.any test) verdict := by
  rw [linesRuling, appended_map]
  exact firstRuling_map_guarded uniform items

variable (limitOpen : Bool)

section

variable (packet : Packet)

@[simp] theorem holds_out (pattern : IfacePattern) :
    XMatch.holds limitOpen packet (.out pattern) = packet.leavesThrough pattern :=
  rfl

@[simp] theorem holds_dst4 (addr : Ipv4Addr) :
    XMatch.holds limitOpen packet (dst4 addr) = packet.goesTo4 (Cidr.host addr) :=
  rfl

@[simp] theorem holds_dst (net : IpNet) :
    XMatch.holds limitOpen packet (.dst net) =
      match net with
      | .v4 net => packet.goesTo4 net
      | .v6 net => packet.goesTo6 net := by
  cases net <;> rfl

@[simp] theorem holds_ctTracked :
    XMatch.holds limitOpen packet .ctTracked = packet.isTracked :=
  rfl

end

section Chain

variable (around : Surroundings)

variable (settings : KillSwitchSettings)

theorem linesRuling_buildDnsRules (packet : Packet) :
    linesRuling around (buildDnsRules settings) packet =
      dnsRuling settings.dnsMode true packet := by
  unfold buildDnsRules dnsRuling
  cases settings.dnsMode with
  | localhost =>
    simp only [linesRuling_comment, linesRuling_appendRule,
      linesRuling_nil, XRule.ruling_accept, XRule.ruling_drop,
      List.all_cons, List.all_nil, Bool.and_true, holds_dst4, holds_dst,
      XMatch.udp_and_dport, XMatch.tcp_and_dport]
    exact limitedDns_guards rfl _ _ _
  | any =>
    simp only [linesRuling_comment, linesRuling_appendRule,
      linesRuling_nil, XRule.ruling_accept, List.all_cons, List.all_nil,
      Bool.and_true, XMatch.udp_and_dport, XMatch.tcp_and_dport]
    exact anyDns_guards _ _
  | _ =>
    simp only [linesRuling_comment, linesRuling_appendRule,
      linesRuling_nil, XRule.ruling_accept, XRule.ruling_drop,
      List.all_cons, List.all_nil, Bool.and_true, holds_out,
      XMatch.udp_and_dport, XMatch.tcp_and_dport]
    exact limitedDns_guards (orTunnel packet) _ _ _

theorem linesRuling_buildDohBlockingRules (packet : Packet) :
    linesRuling around (buildDohBlockingRules settings) packet =
      guarded (settings.blocksDoh && packet.isDohTo settings.dohAddresses) .drop := by
  have uniform :
      ∀ addr : Ipv4Addr,
        XRule.ruling around
            (.rule [dst4 addr, .proto .tcp, .dport 443] .drop) packet =
          guarded (packet.goesTo4 (Cidr.host addr) && packet.isTcpTo 443) .drop := by
    intro addr
    simp only [XRule.ruling_drop, List.all_cons, List.all_nil,
      Bool.and_true, holds_dst4, XMatch.tcp_and_dport]
  unfold buildDohBlockingRules KillSwitchSettings.blocksDoh
  cases settings.blockDoh with
  | false => rfl
  | true =>
    cases settings.dnsMode.isTunnelOrStrict with
    | false => rfl
    | true =>
      simp only [not_true_eq_false, ↓reduceIte, linesRuling_comment, Bool.and_self, Bool.true_and]
      exact linesRuling_map uniform settings.dohAddresses

theorem linesRuling_buildServerRules
    (vpnIps : List IpAddr)
    (packet : Packet) :
    linesRuling around (buildServerRules vpnIps) packet =
      guarded (packet.goesToServer4 vpnIps) .accept := by
  unfold Packet.goesToServer4
  induction vpnIps with
  | nil => rfl
  | cons ip rest ih =>
    cases ip with
    | v4 addr =>
      have head :
          buildServerRules (.v4 addr :: rest) = appendRule [dst4 addr] .accept ::
              buildServerRules rest := by
        simp [buildServerRules]
      rw [head, linesRuling_appendRule, ih,
        XRule.ruling_accept, guarded_or, List.any_cons]
      cases reaches : packet.goesTo4 (Cidr.host addr) <;>
        simp [reaches]
    | v6 addr =>
      have head : buildServerRules (.v6 addr :: rest) = buildServerRules rest := by
        simp [buildServerRules]
      rw [head, ih, List.any_cons, Bool.false_or]

theorem linesRuling_buildLanRules
    (lanSubnets : List Cidr4)
    (packet : Packet) :
    linesRuling around (buildLanRules lanSubnets) packet =
      guarded (packet.goesToLan lanSubnets) .accept := by
  have uniform :
      ∀ net : Cidr4,
        XRule.ruling around
            (.rule [.dst (.v4 net)] .accept) packet =
          guarded (packet.goesTo4 net) .accept := by
    intro net
    simp only [XRule.ruling_accept, List.all_cons, List.all_nil, Bool.and_true, holds_dst]
  have lanSection := linesRuling_map uniform (lanSubnets.filter isValidPrivateCidr)
  rw [buildLanRules, lanSection, Packet.goesToLan, List.any_filter]

def chainVerdict
    (settings : KillSwitchSettings)
    (vpnIps : List IpAddr)
    (lanSubnets : List Cidr4)
    (packet : Packet) :
    Verdict :=
  if packet.leavesThrough lo || packet.isTracked then .accept
  else
    (dnsRuling settings.dnsMode true packet).getD
      (if packet.leavesThroughTunnel then .accept
      else if settings.blocksDoh &&
          packet.isDohTo settings.dohAddresses then .drop
      else if packet.goesToServer4 vpnIps ||
          packet.goesToLan lanSubnets || packet.isDhcp then .accept
      else .drop)

/-- The first-match walk over the chain always ends in its closed form. -/
theorem firstRuling_chainRules
    (vpnIps : List IpAddr)
    (lanSubnets : List Cidr4)
    (packet : Packet) :
    firstRuling (XRule.ruling around)
        (chainRules settings vpnIps lanSubnets) packet =
      some (chainVerdict settings vpnIps lanSubnets packet) := by
  have walk :
      firstRuling (XRule.ruling around)
          (chainRules settings vpnIps lanSubnets) packet =
        linesRuling around (buildChainRules settings vpnIps lanSubnets) packet :=
    rfl
  rw [walk]
  simp only [buildChainRules, linesRuling_append,
    linesRuling_buildDnsRules, linesRuling_buildDohBlockingRules,
    linesRuling_buildServerRules, linesRuling_buildLanRules,
    linesRuling_appendRule, linesRuling_nil, XRule.ruling_accept,
    XRule.ruling_drop, XRule.ruling_log, List.all_cons, List.all_nil,
    Bool.and_true, holds_out, holds_ctTracked, XMatch.udp_and_dport,
    XMatch.udp_and_sport, Option.or_assoc, Option.none_or,
    guarded_true, Option.some_or, chainVerdict]
  cases packet.leavesThrough lo with
  | true => rfl
  | false =>
    cases packet.isTracked with
    | true => rfl
    | false =>
      cases dnsRuling settings.dnsMode true packet with
      | some verdict => rfl
      | none =>
        simp only [guarded_or_same, Packet.leavesThroughTunnel,
          Packet.isDhcp, Option.none_or, Option.getD_none]
        simp only [guarded_or]
        grind

end Chain

theorem verdict_installed_iptables
    (around : Surroundings)
    (settings : KillSwitchSettings)
    (vpnIps : List IpAddr)
    (lanSubnets : List Cidr4)
    (lanSubnets6 : List Cidr6)
    (tables : Tables)
    (packet : Packet) :
    (installed settings vpnIps lanSubnets lanSubnets6 tables
        .iptables).verdict around packet =
      chainVerdict settings vpnIps lanSubnets packet := by
  simp only [Table.verdict, installed, firstRuling_cons, jumpRule,
    Table.ruling, List.all_nil, ↓reduceIte, Function.update_self,
    Option.getD_some, firstRuling_chainRules, Option.some_or]

/-- The ruling of the rules in front of `OUTPUT` of `ip6tables`. -/
def frontRuling6
    (ipv6Mode : Ipv6Mode)
    (lanSubnets6 : List Cidr6)
    (packet : Packet) :
    Option Verdict :=
  match ipv6Mode with
  | .block => some (if packet.leavesThrough lo then .accept else .drop)
  | .tunnel =>
    some (if packet.leavesThrough lo || packet.isTracked ||
        packet.leavesThrough tun || packet.goesToLanV6 lanSubnets6 then
      .accept
    else
      .drop)
  | .off => none

/-- None of the IPv6 rules jumps, so each rules as it does in a chain. -/
theorem firstRuling_ipv6FrontRules
    (table : Table)
    (around : Surroundings)
    (ipv6Mode : Ipv6Mode)
    (lanSubnets6 : List Cidr6)
    (packet : Packet) :
    firstRuling (table.ruling around)
        (ipv6FrontRules ipv6Mode lanSubnets6) packet =
      frontRuling6 ipv6Mode lanSubnets6 packet := by
  have accept :
      ∀ tests,
        table.ruling around (.rule tests .accept) packet =
          guarded (tests.all (XMatch.holds around.limitOpen packet)) .accept :=
    fun tests => XRule.ruling_accept around tests packet
  have drop : table.ruling around (.rule [] .drop) packet = some .drop := rfl
  cases ipv6Mode with
  | block =>
    simp only [ipv6FrontRules, frontRuling6, firstRuling_cons, accept, drop,
      List.all_cons, List.all_nil, Bool.and_true, holds_out,
      guarded_or, Option.some_or]
    cases packet.leavesThrough lo <;> rfl
  | tunnel =>
    have lan :
        firstRuling (table.ruling around)
            ((lanSubnets6.filter isValidPrivateCidrV6).map fun net =>
              .rule [.dst (.v6 net)] .accept) packet =
          guarded (packet.goesToLanV6 lanSubnets6) .accept := by
      have uniform :
          ∀ net : Cidr6,
            table.ruling around
                (.rule [.dst (.v6 net)] .accept) packet =
              guarded (packet.goesTo6 net) .accept := by
        intro net
        simp only [accept, List.all_cons, List.all_nil, Bool.and_true, holds_dst]
      rw [firstRuling_map_guarded uniform, Packet.goesToLanV6, List.any_filter]
    simp only [ipv6FrontRules, frontRuling6, firstRuling_append,
      firstRuling_cons, firstRuling_nil, lan, accept, drop, List.all_cons,
      List.all_nil, Bool.and_true, holds_out, holds_ctTracked,
      guarded_or, Option.or_assoc, Option.some_or]
    grind
  | off => rfl

theorem verdict_installed_ip6tables
    (around : Surroundings)
    (settings : KillSwitchSettings)
    (vpnIps : List IpAddr)
    (lanSubnets : List Cidr4)
    (lanSubnets6 : List Cidr6)
    (tables : Tables)
    (packet : Packet) :
    (installed settings vpnIps lanSubnets lanSubnets6 tables
        .ip6tables).verdict around packet =
      (frontRuling6 settings.ipv6Mode lanSubnets6 packet).getD
        ((tables .ip6tables).verdict around packet) := by
  have sameRuling :
      (installed settings vpnIps lanSubnets lanSubnets6 tables
          .ip6tables).ruling around =
        (tables .ip6tables).ruling around :=
    rfl
  rw [Table.verdict, sameRuling]
  simp only [installed, firstRuling_append, firstRuling_ipv6FrontRules]
  cases frontRuling6 settings.ipv6Mode lanSubnets6 packet <;> rfl

end IptablesScript

namespace NftRuleset

variable (around : Surroundings) (packet : Packet)

theorem ruling_nftRule
    (tests : List NftMatch)
    (verdict : Verdict) :
    NftRule.ruling around (nftRule tests verdict) packet =
      guarded (tests.all (NftMatch.holds around.limitOpen packet)) verdict :=
  rfl

theorem firstRuling_dnsRules
    (dnsMode : DnsMode)
    (ipv6Mode : Ipv6Mode) :
    firstRuling (NftRule.ruling around) (dnsRules dnsMode ipv6Mode)
        packet =
      dnsRuling dnsMode (decide (ipv6Mode ≠ .block)) packet := by
  cases dnsMode with
  | localhost =>
    by_cases blocked : ipv6Mode = .block
    · have guards :=
        @limitedDns_guards (packet.goesTo4 (Cidr.host (Ipv4Addr.ofOctets 127 0 0 1)))
          (packet.goesTo4 (Cidr.host (Ipv4Addr.ofOctets 127 0 0 53))) false _ rfl
          (packet.isUdpTo 53) (packet.isTcpTo 53) (packet.isTcpTo 853)
      simp only [Bool.false_and, guarded_false, Option.none_or, Bool.false_or] at guards
      simp only [dnsRules, blocked, ne_eq, not_true_eq_false,
        ↓reduceIte, List.append_nil, List.cons_append, List.nil_append,
        firstRuling_cons, firstRuling_nil, ruling_nftRule, List.all_cons,
        List.all_nil, Bool.and_true, decide_false]
      exact guards
    · simp only [dnsRules, blocked, ne_eq, not_false_eq_true,
        ↓reduceIte, List.cons_append, List.nil_append, firstRuling_cons,
        firstRuling_nil, ruling_nftRule, List.all_cons, List.all_nil,
        Bool.and_true, decide_true]
      exact limitedDns_guards rfl _ _ _
  | any =>
    simp only [dnsRules, firstRuling_cons, firstRuling_nil, ruling_nftRule,
      List.all_cons, List.all_nil, Bool.and_true]
    exact anyDns_guards _ _
  | _ =>
    simp only [dnsRules, firstRuling_cons, firstRuling_nil, ruling_nftRule,
      List.all_cons, List.all_nil, Bool.and_true]
    exact limitedDns_guards (orTunnel packet) _ _ _

theorem firstRuling_dohRules (settings : KillSwitchSettings) :
    firstRuling (NftRule.ruling around) (dohRules settings) packet =
      guarded (settings.blocksDoh && packet.isDohTo settings.dohAddresses) .drop := by
  have uniform :
      ∀ addr : Ipv4Addr,
        NftRule.ruling around
            (nftRule [daddr4 addr, .tcpDport 443] .drop) packet =
          guarded (packet.goesTo4 (Cidr.host addr) && packet.isTcpTo 443) .drop := by
    intro addr
    simp only [ruling_nftRule, List.all_cons, List.all_nil, Bool.and_true]
    rfl
  have blocksDoh : settings.blocksDoh = (settings.blockDoh && settings.dnsMode.isTunnelOrStrict) :=
    rfl
  rw [dohRules, blocksDoh]
  cases settings.blockDoh && settings.dnsMode.isTunnelOrStrict with
  | false => rfl
  | true =>
    simp only [↓reduceIte, Bool.true_and]
    exact firstRuling_map_guarded uniform settings.dohAddresses

theorem firstRuling_lanRules (lanSubnets : List Cidr4) :
    firstRuling (NftRule.ruling around) (lanRules lanSubnets) packet =
      guarded (packet.goesToLan lanSubnets) .accept := by
  have uniform :
      ∀ net : Cidr4,
        NftRule.ruling around (nftRule [.ipDaddr net] .accept)
            packet =
          guarded (packet.goesTo4 net) .accept := by
    intro net
    simp only [ruling_nftRule, List.all_cons, List.all_nil, Bool.and_true]
    rfl
  rw [lanRules, firstRuling_map_guarded uniform, Packet.goesToLan, List.any_filter]

/-- The rule for one server of the allowlist, if there is one. -/
def serverRule? (ipv6Mode : Ipv6Mode) : IpAddr → Option NftRule
  | .v4 addr => some (nftRule [daddr4 addr] .accept)
  | .v6 addr =>
    if ipv6Mode ≠ .block then some (nftRule [daddr6 addr] .accept)
    else none

theorem serverRules_append_explicit
    (ipv6Mode : Ipv6Mode)
    (vpnServerIps : List IpAddr)
    (vpnServerIp : Option IpAddr) :
    serverRules ipv6Mode vpnServerIps ++
        explicitServerRules ipv6Mode vpnServerIp =
      (vpnServerIps ++ vpnServerIp.toList).filterMap (serverRule? ipv6Mode) := by
  have detected :
      serverRules ipv6Mode vpnServerIps = vpnServerIps.filterMap (serverRule? ipv6Mode) := by
    unfold serverRules
    congr 1
    funext ip
    cases ip with
    | v4 addr => simp [serverRule?]
    | v6 addr => rfl
  have explicit :
      explicitServerRules ipv6Mode vpnServerIp =
        vpnServerIp.toList.filterMap (serverRule? ipv6Mode) := by
    cases vpnServerIp with
    | none => rfl
    | some ip =>
      cases ip with
      | v4 addr => rfl
      | v6 addr =>
        by_cases blocked : ipv6Mode = .block <;>
          simp [explicitServerRules, serverRule?, blocked]
  rw [detected, explicit, List.filterMap_append]

theorem firstRuling_serverRules
    {ipv6Mode : Ipv6Mode}
    (familyOpen : ipv6Mode = .block → packet.isIpv4 = true)
    (servers : List IpAddr) :
    firstRuling (NftRule.ruling around)
        (servers.filterMap (serverRule? ipv6Mode)) packet =
      guarded (packet.goesToServer servers) .accept := by
  induction servers with
  | nil => rfl
  | cons server rest ih =>
    have rest' :
        packet.goesToServer (server :: rest) =
          (packet.goesToServer [server] || packet.goesToServer rest) := by
      simp [Packet.goesToServer]
    have head :
        ((serverRule? ipv6Mode server).bind fun rule =>
            NftRule.ruling around rule packet) =
          guarded (packet.goesToServer [server]) .accept := by
      cases server with
      | v4 addr =>
        simp only [serverRule?, Option.bind_some, ruling_nftRule,
          Packet.goesToServer, List.all_cons, List.all_nil,
          List.any_cons, List.any_nil, Bool.and_true, Bool.or_false]
        rfl
      | v6 addr =>
        by_cases blocked : ipv6Mode = .block
        · simp [serverRule?, blocked, Packet.goesToServer,
            Packet.goesTo6_of_isIpv4 (familyOpen blocked)]
        · simp only [serverRule?, blocked, ne_eq, not_false_eq_true,
            ↓reduceIte, Option.bind_some, ruling_nftRule,
            Packet.goesToServer, List.all_cons, List.all_nil,
            List.any_cons, List.any_nil, Bool.and_true,
            Bool.or_false]
          rfl
    rw [rest']
    cases rule : serverRule? ipv6Mode server with
    | none =>
      rw [rule, Option.bind_none] at head
      rw [List.filterMap_cons_none rule, ih]
      cases reaches : packet.goesToServer [server] with
      | false => rfl
      | true => simp [reaches] at head
    | some built =>
      rw [rule, Option.bind_some] at head
      rw [List.filterMap_cons_some rule, firstRuling_cons, head, ih]
      cases packet.goesToServer [server] <;> simp

def outputVerdict
    (settings : KillSwitchSettings)
    (vpnServerIps : List IpAddr)
    (lanSubnets : List Cidr4)
    (packet : Packet) :
    Verdict :=
  if packet.leavesThrough lo || packet.isTracked then .accept
  else if settings.ipv6Mode = .block ∧ packet.isIpv6 then .drop
  else if (settings.ipv6Mode ≠ .block ∧ packet.goesTo6 linkLocal6) ∨
      packet.isDhcp then .accept
  else
    (dnsRuling settings.dnsMode
        (decide (settings.ipv6Mode ≠ .block)) packet).getD
      (if settings.blocksDoh &&
          packet.isDohTo settings.dohAddresses then .drop
      else if packet.goesToLan lanSubnets ||
          packet.leavesThroughTunnel ||
          packet.goesToServer (vpnServerIps ++ settings.vpnServerIp.toList) then .accept
      else .drop)

def ipv6Ruling (ipv6Mode : Ipv6Mode) : Option Verdict :=
  if ipv6Mode = .block then guarded packet.isIpv6 .drop
  else guarded (packet.goesTo6 linkLocal6) .accept

theorem firstRuling_ipv6Rules (ipv6Mode : Ipv6Mode) :
    firstRuling (NftRule.ruling around) (ipv6Rules ipv6Mode) packet =
      ipv6Ruling packet ipv6Mode := by
  cases ipv6Mode <;>
    simp only [ipv6Rules, ipv6Ruling, firstRuling_cons, firstRuling_nil,
      ruling_nftRule, List.all_cons, List.all_nil, Bool.and_true,
      Option.or_none, reduceCtorEq, ↓reduceIte] <;> rfl

theorem verdict_buildNftRuleset
    (settings : KillSwitchSettings)
    (vpnServerIps : List IpAddr)
    (lanSubnets : List Cidr4) :
    (buildNftRuleset settings vpnServerIps lanSubnets).output.verdict
        around packet =
      outputVerdict settings vpnServerIps lanSubnets packet := by
  have lastRule :
      (firstRuling (NftRule.ruling around)
          [ { tests := [.limitRate]
              log := some "SHROUD-KS-DROP"
              verdict := .drop } ] packet).getD .drop =
        Verdict.drop := by
    simp only [firstRuling_cons, firstRuling_nil, NftRule.ruling, List.all_cons,
      List.all_nil, Bool.and_true, Option.or_none]
    cases NftMatch.holds around.limitOpen packet .limitRate <;> rfl
  simp only [NftChain.verdict, buildNftRuleset, outputRules, List.append_assoc]
  rw [← List.append_assoc (serverRules _ _), serverRules_append_explicit]
  simp only [firstRuling_append, firstRuling_ipv6Rules, firstRuling_dnsRules,
    firstRuling_dohRules, firstRuling_lanRules, dhcpRules, tunnelRules,
    firstRuling_cons _ (nftRule _ _), firstRuling_nil, ruling_nftRule,
    List.all_cons, List.all_nil, Bool.and_true, Option.or_none,
    Option.or_assoc, NftMatch.holds, outputVerdict]
  cases packet.leavesThrough lo with
  | true => rfl
  | false =>
    cases packet.isTracked with
    | true => rfl
    | false =>
      simp only [guarded_false, Option.none_or, Bool.or_self, Bool.false_eq_true, ↓reduceIte]
      by_cases blocked : settings.ipv6Mode = .block ∧ packet.isIpv6 = true
      · rw [if_pos blocked]
        simp [ipv6Ruling, blocked]
      · have familyOpen :
            settings.ipv6Mode = .block → packet.isIpv4 = true := by
          intro mode
          have notIpv6 : packet.isIpv6 ≠ true := fun ipv6 => blocked ⟨mode, ipv6⟩
          simpa [Packet.isIpv6_eq_not_isIpv4] using notIpv6
        have ipv6 :
            ipv6Ruling packet settings.ipv6Mode =
              guarded
                (decide (settings.ipv6Mode ≠ .block) && packet.goesTo6 linkLocal6)
                .accept := by
          by_cases mode : settings.ipv6Mode = .block
          · have notIpv6 : packet.isIpv6 = false := by
              simpa [mode] using blocked
            simp [ipv6Ruling, mode, notIpv6]
          · simp [ipv6Ruling, mode]
        rw [if_neg blocked, firstRuling_serverRules _ _ familyOpen, ipv6]
        generalize firstRuling (NftRule.ruling around) [_] packet = final at lastRule ⊢
        cases dnsRuling settings.dnsMode (decide (settings.ipv6Mode ≠ .block)) packet with
        | some verdict =>
          simp only [guarded_or_same, Option.some_or, Option.getD_some, Packet.isDhcp]
          simp only [guarded_or]
          grind
        | none =>
          simp only [guarded_or_same, Option.none_or,
            Option.getD_none, Packet.isDhcp,
            Packet.leavesThroughTunnel]
          simp only [guarded_or]
          grind

end NftRuleset

end Shroud
