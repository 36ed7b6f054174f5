import Shroud.KillSwitchRules

namespace Shroud.IptablesScript

open Netfilter KillSwitchRules AddressText

/-!
# The iptables script

`build_complete_script` emits one command per line.  The user chain is filled
first and `OUTPUT` jumps to it only when it is complete; the IPv6 part edits
`OUTPUT` of `ip6tables` in place.  Lines that end in `|| true` tolerate
failure.
-/

inductive ScriptLine where
  | comment (text : String)
  | command (tool : Tool) (command : XCommand) (ignoreError : Bool)
  deriving Repr, DecidableEq

/-- `iptables -A SHROUD_KILLSWITCH ...`. -/
def appendRule (tests : List XMatch) (target : XTarget) : ScriptLine :=
  .command .iptables (.append (.user .killSwitch) (.rule tests target)) false

/-- `ip6tables -I OUTPUT position ... 2>/dev/null || true`. -/
def insertRule6
    (position : Nat)
    (tests : List XMatch)
    (target : XTarget) :
    ScriptLine :=
  .command .ip6tables (.insert .output position (.rule tests target)) true

/-- The jump from `OUTPUT` into the kill switch chain. -/
def jumpRule : XRule :=
  .rule [] (.jump .killSwitch)

/-- `-d addr`. -/
def dst4 (addr : Ipv4Addr) : XMatch :=
  .dst (.v4 (Cidr.host addr))

/-- `build_dns_rules`. -/
def buildDnsRules (settings : KillSwitchSettings) : List ScriptLine :=
  match settings.dnsMode with
  | .tunnel | .strict =>
    [ .comment "# DNS Leak Protection (Tunnel/Strict)",
      appendRule [.out tun, .proto .udp, .dport 53] .accept,
      appendRule [.out tun, .proto .tcp, .dport 53] .accept,
      appendRule [.out wg, .proto .udp, .dport 53] .accept,
      appendRule [.out wg, .proto .tcp, .dport 53] .accept,
      appendRule [.out tap, .proto .udp, .dport 53] .accept,
      appendRule [.out tap, .proto .tcp, .dport 53] .accept,
      appendRule [.proto .udp, .dport 53] .drop,
      appendRule [.proto .tcp, .dport 53] .drop,
      appendRule [.proto .tcp, .dport 853] .drop ]
  | .localhost =>
    [ .comment "# DNS Leak Protection (Localhost)",
      appendRule [dst4 (.ofOctets 127 0 0 1), .proto .udp, .dport 53] .accept,
      appendRule [dst4 (.ofOctets 127 0 0 1), .proto .tcp, .dport 53] .accept,
      appendRule [dst4 (.ofOctets 127 0 0 53), .proto .udp, .dport 53] .accept,
      appendRule [dst4 (.ofOctets 127 0 0 53), .proto .tcp, .dport 53] .accept,
      appendRule [.dst (.v6 (Cidr.host loopback6)), .proto .udp, .dport 53] .accept,
      appendRule [.dst (.v6 (Cidr.host loopback6)), .proto .tcp, .dport 53] .accept,
      appendRule [.proto .udp, .dport 53] .drop,
      appendRule [.proto .tcp, .dport 53] .drop,
      appendRule [.proto .tcp, .dport 853] .drop ]
  | .any =>
    [ .comment "# DNS (Any Mode - NOT RECOMMENDED)",
      appendRule [.proto .udp, .dport 53] .accept,
      appendRule [.proto .tcp, .dport 53] .accept ]

/-- `build_doh_blocking_rules`. -/
def buildDohBlockingRules (settings : KillSwitchSettings) : List ScriptLine :=
  if ¬ settings.blockDoh then []
  else if ¬ settings.dnsMode.isTunnelOrStrict then []
  else
    .comment "# Block DNS-over-HTTPS (DoH) to known providers" ::
      settings.dohAddresses.map fun addr =>
        appendRule [dst4 addr, .proto .tcp, .dport 443] .drop

/--
The server allowlist.  IPv6 servers are skipped with a warning: the static
cleanup list could not remove their rules again.
-/
def buildServerRules (vpnIps : List IpAddr) : List ScriptLine :=
  vpnIps.filterMap fun ip =>
    match ip with
    | .v4 addr =>
      if isValidIpv4 (ipv4Text addr) then
        some (appendRule [dst4 addr] .accept)
      else
        none
    | .v6 _ => none

def buildLanRules (lanSubnets : List Cidr4) : List ScriptLine :=
  (lanSubnets.filter isValidPrivateCidr).map fun net =>
    appendRule [.dst (.v4 net)] .accept

/-- The LAN part of the IPv6 tunnel script, from a given position on. -/
def buildLanRules6 (position : Nat) : List Cidr6 → List ScriptLine
  | [] => []
  | net :: rest =>
    if isValidPrivateCidrV6 net then
      insertRule6 position [.dst (.v6 net)] .accept :: buildLanRules6 (position + 1) rest
    else
      buildLanRules6 position rest

/-- `build_ipv6_script`. -/
def buildIpv6Script
    (ipv6Mode : Ipv6Mode)
    (allowLan : Bool)
    (lanSubnets6 : List Cidr6) :
    List ScriptLine :=
  match ipv6Mode with
  | .block => [ insertRule6 1 [.out lo] .accept, insertRule6 2 [] .drop ]
  | .tunnel =>
    let lanRules :=
      if allowLan then buildLanRules6 4 lanSubnets6
      else [insertRule6 4 [.dst (.v6 linkLocal6)] .accept]
    [ insertRule6 1 [.out lo] .accept,
      insertRule6 2 [.ctTracked] .accept,
      insertRule6 3 [.out tun] .accept ] ++
    lanRules ++
    [ insertRule6 (4 + lanRules.length) [] .drop ]
  | .off => []

/-- The insertion of a rule that accepts IPv6 packets. -/
def ScriptLine.AcceptsV6 (line : ScriptLine) : Prop :=
  ∃ position tests,
    (XRule.rule tests .accept).familyOk .ip6tables = true ∧
      line = insertRule6 position tests .accept

theorem buildLanRules6_accepts
    (position : Nat)
    (lanSubnets6 : List Cidr6) :
    ∀ line ∈ buildLanRules6 position lanSubnets6, line.AcceptsV6 := by
  induction lanSubnets6 generalizing position with
  | nil => simp [buildLanRules6]
  | cons net nets ih =>
    rw [buildLanRules6]
    split
    · intro line member
      rcases List.mem_cons.mp member with rfl | later
      · exact ⟨_, _, rfl, rfl⟩
      · exact ih _ line later
    · exact ih _

/-- The rule that drops everything is inserted last, behind all the others. -/
theorem buildIpv6Script_split
    {ipv6Mode : Ipv6Mode}
    (active : ipv6Mode ≠ .off)
    (allowLan : Bool)
    (lanSubnets6 : List Cidr6) :
    ∃ fronts,
      buildIpv6Script ipv6Mode allowLan lanSubnets6 =
          fronts ++ [insertRule6 (fronts.length + 1) [] .drop] ∧
        ∀ line ∈ fronts, line.AcceptsV6 := by
  cases ipv6Mode with
  | off => exact absurd rfl active
  | block =>
    refine ⟨[insertRule6 1 [.out lo] .accept], rfl, ?_⟩
    rintro line (_ | ⟨-, ⟨⟩⟩)
    exact ⟨_, _, rfl, rfl⟩
  | tunnel =>
    let lanRules :=
      if allowLan then buildLanRules6 4 lanSubnets6
      else [insertRule6 4 [.dst (.v6 linkLocal6)] .accept]
    refine ⟨insertRule6 1 [.out lo] .accept :: insertRule6 2 [.ctTracked] .accept ::
      insertRule6 3 [.out tun] .accept :: lanRules, ?_, ?_⟩
    · change _ ++ [insertRule6 (4 + lanRules.length) [] .drop] = _
      rw [Nat.add_comm]
      rfl
    · intro line member
      simp only [List.mem_cons] at member
      rcases member with rfl | rfl | rfl | inLan
      · exact ⟨_, _, rfl, rfl⟩
      · exact ⟨_, _, rfl, rfl⟩
      · exact ⟨_, _, rfl, rfl⟩
      · cases allowLan with
        | true => exact buildLanRules6_accepts 4 lanSubnets6 line inLan
        | false => exact ⟨_, _, rfl, List.mem_singleton.mp inLan⟩

/-- The IPv6 part only calls `ip6tables` and tolerates every failure. -/
theorem buildIpv6Script_lines
    (ipv6Mode : Ipv6Mode)
    (allowLan : Bool)
    (lanSubnets6 : List Cidr6) :
    ∀ line ∈ buildIpv6Script ipv6Mode allowLan lanSubnets6,
      ∃ position tests target,
        (XRule.rule tests target).familyOk .ip6tables = true ∧
          line = insertRule6 position tests target := by
  by_cases off : ipv6Mode = .off
  · subst off
    simp [buildIpv6Script]
  · intro line member
    obtain ⟨fronts, split, accepts⟩ := buildIpv6Script_split off allowLan lanSubnets6
    rw [split, List.mem_append, List.mem_singleton] at member
    rcases member with inFront | rfl
    · obtain ⟨position, tests, family, rfl⟩ := accepts line inFront
      exact ⟨position, tests, _, family, rfl⟩
    · exact ⟨_, _, _, rfl, rfl⟩

/-- The lines that fill the kill switch chain, in order. -/
def buildChainRules
    (settings : KillSwitchSettings)
    (vpnIps : List IpAddr)
    (lanSubnets : List Cidr4) :
    List ScriptLine :=
  [ appendRule [.out lo] .accept, appendRule [.ctTracked] .accept ] ++
  buildDnsRules settings ++
  [ appendRule [.out tun] .accept, appendRule [.out tap] .accept, appendRule [.out wg] .accept ] ++
  buildDohBlockingRules settings ++
  buildServerRules vpnIps ++
  buildLanRules lanSubnets ++
  [ appendRule [.proto .udp, .dport 67] .accept,
    appendRule [.proto .udp, .sport 68] .accept,
    appendRule [.limit] (.log "SHROUD-KS-DROP" 4),
    appendRule [] .drop ]

/-- Comments and lines that append to the chain. -/
def ScriptLine.appends : ScriptLine → Bool
  | .comment _ => true
  | .command .iptables (.append (.user .killSwitch) _) false => true
  | _ => false

/--
A line that only fills the chain: a comment, or the append of a rule that
`iptables` can always take.
-/
def ScriptLine.fillsChain : ScriptLine → Bool
  | .comment _ => true
  | .command .iptables
      (.append (.user .killSwitch) (.rule tests target)) false =>
      (XRule.rule tests target).familyOk .iptables &&
        match target with
        | .jump _ => false
        | _ => true
  | _ => false

theorem ScriptLine.appends_of_fillsChain
    {line : ScriptLine}
    (fills : line.fillsChain = true) :
    line.appends = true := by
  unfold fillsChain at fills
  split at fills
  · rfl
  · rfl
  · exact Bool.noConfusion fills

section

variable (settings : KillSwitchSettings) (vpnIps : List IpAddr) (lanSubnets : List Cidr4)

theorem buildChainRules_fillsChain :
    ∀ line ∈ buildChainRules settings vpnIps lanSubnets,
      line ∈ buildDnsRules settings ∨ line.fillsChain = true := by
  intro line member
  simp only [buildChainRules, List.mem_append] at member
  rcases member with
    (((((first | inDns) | tunnels) | inDoh) | inServers) | inLan) | last
  · right
    revert line
    decide
  · exact .inl inDns
  · right
    revert line
    decide
  · unfold buildDohBlockingRules at inDoh
    split at inDoh
    · simp at inDoh
    · split at inDoh
      · simp at inDoh
      · rcases List.mem_cons.mp inDoh with rfl | inRules
        · exact .inr rfl
        · obtain ⟨addr, -, rfl⟩ := List.mem_map.mp inRules
          exact .inr rfl
  · obtain ⟨ip, -, built⟩ := List.mem_filterMap.mp inServers
    cases ip with
    | v4 addr =>
      simp only [isValidIpv4_ipv4Text, ↓reduceIte, Option.some.injEq] at built
      rw [← built]
      exact .inr rfl
    | v6 addr => simp at built
  · obtain ⟨net, -, rfl⟩ := List.mem_map.mp inLan
    exact .inr rfl
  · right
    revert line
    decide

theorem buildChainRules_appends :
    ∀ line ∈ buildChainRules settings vpnIps lanSubnets, line.appends = true := by
  intro line member
  rcases buildChainRules_fillsChain settings vpnIps lanSubnets line member with inDns | fills
  · clear member
    revert line
    rw [buildDnsRules]
    cases settings.dnsMode <;> decide
  · exact line.appends_of_fillsChain fills

end

/-- The IPv4 part: a new chain, its rules, and last the jump to it. -/
def buildChainScript
    (settings : KillSwitchSettings)
    (vpnIps : List IpAddr)
    (lanSubnets : List Cidr4) :
    List ScriptLine :=
  [.command .iptables (.newChain .killSwitch) false] ++
  buildChainRules settings vpnIps lanSubnets ++
  [.command .iptables (.insert .output 1 jumpRule) false]

/--
`build_complete_script`.  The IPv6 part always mirrors the LAN exception of
the IPv4 chain.
-/
def buildCompleteScript
    (settings : KillSwitchSettings)
    (vpnIps : List IpAddr)
    (lanSubnets : List Cidr4)
    (lanSubnets6 : List Cidr6) :
    List ScriptLine :=
  buildChainScript settings vpnIps lanSubnets ++
  buildIpv6Script settings.ipv6Mode true lanSubnets6

/--
`IPV6_OUTPUT_RULES`: the patterns that the cleanup removes from `OUTPUT` of
`ip6tables`.
-/
def ipv6OutputRules : List XRule :=
  [ .rule [] .drop,
    .rule [.out lo] .accept,
    .rule [.ctTracked] .accept,
    .rule [.out tun] .accept,
    .rule [.dst (.v6 linkLocal6)] .accept ]

end Shroud.IptablesScript
