import Shroud.IptablesScript

namespace Shroud.IptablesScript

open Netfilter KillSwitchRules

/-!
# What the script leaves behind

`install` runs the lines of a script one after the other, each as its tool
executes it.  The main results say which rules the complete script leaves in
the two filter tables, whatever rules were there before.
-/

/-- The filter tables a script works on, one per tool. -/
abbrev Tables := Tool → Table

def emptyTables : Tables :=
  fun _ => .empty

/-- The effect of one line; a refused mandatory line stops the script. -/
def installLine (tables : Tables) : ScriptLine → Option Tables
  | .comment _ => some tables
  | .command tool command ignoreError =>
    match command.exec tool (tables tool) with
    | some table => some (Function.update tables tool table)
    | none => if ignoreError then some tables else none

def install : List ScriptLine → Tables → Option Tables
  | [], tables => some tables
  | line :: rest, tables => (installLine tables line).bind (install rest)

theorem install_append
    (first second : List ScriptLine)
    (tables : Tables) :
    install (first ++ second) tables = (install first tables).bind (install second) := by
  induction first generalizing tables with
  | nil => rfl
  | cons line rest ih =>
    simp only [List.cons_append, install]
    cases installLine tables line with
    | none => rfl
    | some next => exact ih next

/-- The rule that a line appends to the kill switch chain. -/
def ScriptLine.appended? : ScriptLine → Option XRule
  | .command .iptables (.append (.user .killSwitch) rule) _ => some rule
  | _ => none

/-- The tables with the rules of the kill switch chain replaced. -/
def withChain (tables : Tables) (rules : List XRule) : Tables :=
  Function.update tables .iptables ((tables .iptables).setRules rules (.user .killSwitch))

@[simp] theorem withChain_user
    (tables : Tables)
    (rules : List XRule) :
    (withChain tables rules .iptables).user .killSwitch = some rules := by
  simp [withChain, Table.setRules]

@[simp] theorem withChain_output
    (tables : Tables)
    (rules : List XRule) :
    (withChain tables rules .iptables).output = (tables .iptables).output := by
  simp [withChain, Table.setRules]

theorem installLine_fillsChain
    {line : ScriptLine}
    (fills : line.fillsChain = true)
    (tables : Tables)
    (rules : List XRule) :
    installLine (withChain tables rules) line =
      some (withChain tables (rules ++ line.appended?.toList)) := by
  unfold ScriptLine.fillsChain at fills
  split at fills
  · simp [installLine, ScriptLine.appended?]
  · rename_i tests target
    simp only [Bool.and_eq_true] at fills
    obtain ⟨family, noJump⟩ := fills
    have admitted :
        (withChain tables rules .iptables).admits .iptables (.rule tests target) = true := by
      cases target <;> simp_all [Table.admits]
    simp only [installLine, XCommand.exec, admitted, ↓reduceIte,
      Table.rules?, withChain_user, Option.map_some,
      ScriptLine.appended?, Option.toList_some, Option.some.injEq]
    simp [withChain, Table.setRules]
  · exact absurd fills (by decide)

theorem install_fillsChain
    {lines : List ScriptLine}
    (fill : ∀ line ∈ lines, line.fillsChain = true)
    (tables : Tables)
    (rules : List XRule) :
    install lines (withChain tables rules) =
      some (withChain tables (rules ++ lines.filterMap ScriptLine.appended?)) := by
  induction lines generalizing rules with
  | nil => simp [install]
  | cons line rest ih =>
    have headFills := fill line (by simp)
    have restFills : ∀ line ∈ rest, line.fillsChain = true :=
      fun later member => fill later (by simp [member])
    rw [install, installLine_fillsChain headFills, Option.bind_some,
      ih restFills, List.append_assoc]
    cases appended : line.appended? with
    | none => simp [appended]
    | some rule => simp [appended]

/-- The rules of the complete kill switch chain. -/
def chainRules
    (settings : KillSwitchSettings)
    (vpnIps : List IpAddr)
    (lanSubnets : List Cidr4) :
    List XRule :=
  (buildChainRules settings vpnIps lanSubnets).filterMap ScriptLine.appended?

variable {settings : KillSwitchSettings} {tables : Tables} {position : Nat}

/--
Outside the localhost mode every line of the chain part only fills the chain.
The localhost mode names the IPv6 loopback address, which `iptables` refuses.
-/
theorem buildChainRules_fill
    (notLocalhost : settings.dnsMode ≠ .localhost)
    (vpnIps : List IpAddr)
    (lanSubnets : List Cidr4) :
    ∀ line ∈ buildChainRules settings vpnIps lanSubnets, line.fillsChain = true := by
  intro line member
  rcases buildChainRules_fillsChain settings vpnIps lanSubnets line member with inDns | fills
  · clear member
    revert line
    unfold buildDnsRules
    cases mode : settings.dnsMode with
    | localhost => exact (notLocalhost mode).elim
    | _ => decide
  · exact fills

theorem installLine_jumpRule
    (tables : Tables)
    (rules : List XRule) :
    installLine (withChain tables rules)
        (.command .iptables (.insert .output 1 jumpRule) false) =
      some (Function.update (withChain tables rules) .iptables
        ((withChain tables rules .iptables).setRules
          (jumpRule :: (tables .iptables).output) .output)) := by
  have admitted : (withChain tables rules .iptables).admits .iptables jumpRule = true := by
    simp [Table.admits, jumpRule, XRule.familyOk]
  simp [installLine, XCommand.exec, admitted, Table.rules?]

theorem install_stops
    {line : ScriptLine}
    (refused : installLine tables line = none)
    (rest : List ScriptLine) :
    install (line :: rest) tables = none := by
  rw [install, refused, Option.bind_none]

theorem install_fillsChain_stops
    {lines : List ScriptLine}
    (fill : ∀ line ∈ lines, line.fillsChain = true)
    {refusedLine : ScriptLine}
    (refused : ∀ tables rules, installLine (withChain tables rules) refusedLine = none)
    (rest : List ScriptLine)
    (tables : Tables)
    (rules : List XRule) :
    install (lines ++ refusedLine :: rest) (withChain tables rules) = none := by
  rw [install_append, install_fillsChain fill, Option.bind_some]
  exact install_stops (refused _ _) rest

/-- The chain lines of the localhost mode up to the IPv6 loopback address. -/
def localhostLines : List ScriptLine :=
  [ appendRule [.out lo] .accept,
    appendRule [.ctTracked] .accept,
    .comment "# DNS Leak Protection (Localhost)",
    appendRule [dst4 (Ipv4Addr.ofOctets 127 0 0 1), .proto .udp, .dport 53] .accept,
    appendRule [dst4 (Ipv4Addr.ofOctets 127 0 0 1), .proto .tcp, .dport 53] .accept,
    appendRule [dst4 (Ipv4Addr.ofOctets 127 0 0 53), .proto .udp, .dport 53] .accept,
    appendRule [dst4 (Ipv4Addr.ofOctets 127 0 0 53), .proto .tcp, .dport 53] .accept ]

section

variable
  (localhost : settings.dnsMode = .localhost)
  (vpnIps : List IpAddr)
  (lanSubnets : List Cidr4)

include localhost

theorem buildChainScript_localhost :
    ∃ rest,
      buildChainScript settings vpnIps lanSubnets =
        .command .iptables (.newChain .killSwitch) false ::
          (localhostLines ++
            appendRule
              [.dst (.v6 (Cidr.host loopback6)), .proto .udp, .dport 53]
              .accept :: rest) := by
  simp only [buildChainScript, buildChainRules, buildDnsRules,
    localhost, localhostLines, List.cons_append, List.nil_append]
  exact ⟨_, rfl⟩

theorem install_localhost
    (noChain : (tables .iptables).user .killSwitch = none) :
    install (buildChainScript settings vpnIps lanSubnets) tables = none := by
  have created :
      installLine tables (.command .iptables (.newChain .killSwitch) false) =
        some (withChain tables []) := by
    simp [installLine, XCommand.exec, noChain, withChain]
  obtain ⟨rest, script⟩ := buildChainScript_localhost localhost vpnIps lanSubnets
  rw [script, install, created, Option.bind_some]
  exact install_fillsChain_stops (by decide) (fun _ _ => rfl) rest tables []

end

/--
The IPv4 part over tables without a kill switch chain: the filled chain, and
the jump to it in front of `OUTPUT`.
-/
def chainInstalled
    (settings : KillSwitchSettings)
    (vpnIps : List IpAddr)
    (lanSubnets : List Cidr4)
    (tables : Tables) :
    Tables :=
  Function.update tables .iptables
    { output := jumpRule :: (tables .iptables).output
      user := Function.update (tables .iptables).user .killSwitch
        (some (chainRules settings vpnIps lanSubnets)) }

theorem install_buildChainScript
    (notLocalhost : settings.dnsMode ≠ .localhost)
    (vpnIps : List IpAddr)
    (lanSubnets : List Cidr4)
    (noChain : (tables .iptables).user .killSwitch = none) :
    install (buildChainScript settings vpnIps lanSubnets) tables =
      some (chainInstalled settings vpnIps lanSubnets tables) := by
  have created :
      install [.command .iptables (.newChain .killSwitch) false] tables =
        some (withChain tables []) := by
    simp [install, installLine, XCommand.exec, noChain, withChain]
  have filled := install_fillsChain (buildChainRules_fill notLocalhost vpnIps lanSubnets) tables []
  rw [buildChainScript, install_append, install_append, created,
    Option.bind_some, filled, Option.bind_some, install, List.nil_append,
    installLine_jumpRule, Option.bind_some, install]
  simp [chainInstalled, withChain, Table.setRules, chainRules]

/-- Whenever the IPv4 part runs to its end, the chain is complete. -/
theorem chainInstalled_of_install
    {vpnIps : List IpAddr}
    {lanSubnets : List Cidr4}
    {result : Tables}
    (ran : install (buildChainScript settings vpnIps lanSubnets) tables = some result) :
    result = chainInstalled settings vpnIps lanSubnets tables := by
  cases present : (tables .iptables).user .killSwitch with
  | some rules =>
    have stopped : install (buildChainScript settings vpnIps lanSubnets) tables = none := by
      refine install_stops ?_ _
      simp [installLine, XCommand.exec, present]
    rw [stopped] at ran
    exact absurd ran (by simp)
  | none =>
    by_cases localhost : settings.dnsMode = .localhost
    · rw [install_localhost localhost vpnIps lanSubnets present] at ran
      exact absurd ran (by simp)
    · rw [install_buildChainScript localhost vpnIps lanSubnets present] at ran
      exact (Option.some.inj ran).symm

/-- The tables with `OUTPUT` of `ip6tables` replaced. -/
def withOutput6 (tables : Tables) (rules : List XRule) : Tables :=
  Function.update tables .ip6tables ((tables .ip6tables).setRules rules .output)

@[simp] theorem withOutput6_output
    (tables : Tables)
    (rules : List XRule) :
    (withOutput6 tables rules .ip6tables).output = rules := by
  simp [withOutput6, Table.setRules]

@[simp] theorem withOutput6_same (tables : Tables) :
    withOutput6 tables (tables .ip6tables).output = tables := by
  simp [withOutput6, Table.setRules]

theorem insertIdx_length_append
    {α : Type}
    (front rest : List α)
    (item : α) :
    (front ++ rest).insertIdx front.length item = front ++ item :: rest := by
  induction front with
  | nil => rfl
  | cons head front ih => simp [ih]

section

variable
  {tests : List XMatch}
  {target : XTarget}
  (family : (XRule.rule tests target).familyOk .ip6tables = true)
  (noJump : ∀ chain, target ≠ .jump chain)
  (tables : Tables)
  (front rest : List XRule)
  (behind : position = front.length + 1)

include family noJump behind

theorem installLine_insertRule6 :
    installLine (withOutput6 tables (front ++ rest))
        (insertRule6 position tests target) =
      some (withOutput6 tables ((front ++ [.rule tests target]) ++ rest)) := by
  subst position
  have admitted :
      (withOutput6 tables (front ++ rest) .ip6tables).admits .ip6tables
        (.rule tests target) = true := by
    cases target with
    | jump chain => exact (noJump chain rfl).elim
    | _ => simpa [Table.admits] using family
  simp only [installLine, insertRule6, XCommand.exec, admitted, ↓reduceIte,
    Table.rules?, withOutput6_output, Option.bind_some,
    Nat.add_sub_cancel, List.length_append, insertIdx_length_append,
    List.append_assoc, List.cons_append, List.nil_append]
  rw [if_pos (by omega)]
  simp [withOutput6, Table.setRules]

theorem install_insertRule6 (lines : List ScriptLine) :
    install (insertRule6 position tests target :: lines)
        (withOutput6 tables (front ++ rest)) =
      install lines (withOutput6 tables ((front ++ [.rule tests target]) ++ rest)) := by
  rw [install, installLine_insertRule6 family noJump tables front rest behind, Option.bind_some]

end

/-- The rules that the IPv6 part puts in front of `OUTPUT`. -/
def ipv6FrontRules
    (ipv6Mode : Ipv6Mode)
    (lanSubnets6 : List Cidr6) :
    List XRule :=
  match ipv6Mode with
  | .block => [.rule [.out lo] .accept, .rule [] .drop]
  | .tunnel =>
    [ .rule [.out lo] .accept, .rule [.ctTracked] .accept, .rule [.out tun] .accept ] ++
    (lanSubnets6.filter isValidPrivateCidrV6).map (fun net =>
      .rule [.dst (.v6 net)] .accept) ++
    [.rule [] .drop]
  | .off => []

theorem install_buildLanRules6
    (lanSubnets6 : List Cidr6)
    (tables : Tables)
    (front rest : List XRule)
    (behind : position = front.length + 1) :
    install (buildLanRules6 position lanSubnets6)
        (withOutput6 tables (front ++ rest)) =
      some (withOutput6 tables
        ((front ++
          (lanSubnets6.filter isValidPrivateCidrV6).map (fun net =>
            .rule [.dst (.v6 net)] .accept)) ++ rest)) := by
  induction lanSubnets6 generalizing front position with
  | nil => simp [buildLanRules6, install]
  | cons net nets ih =>
    by_cases valid : isValidPrivateCidrV6 net = true
    · have later :=
        ih
          (front ++ [.rule [.dst (.v6 net)] .accept])
          (show position + 1 = _ by simp [behind])
      simp only [buildLanRules6, valid, ↓reduceIte, List.filter_cons, List.map_cons]
      refine (install_insertRule6 (by rfl) (by simp) tables front rest behind _).trans ?_
      rw [later]
      simp
    · simpa [buildLanRules6, valid] using ih front behind

theorem length_buildLanRules6
    (position : Nat)
    (lanSubnets6 : List Cidr6) :
    (buildLanRules6 position lanSubnets6).length =
      (lanSubnets6.filter isValidPrivateCidrV6).length := by
  induction lanSubnets6 generalizing position with
  | nil => rfl
  | cons net nets ih =>
    by_cases valid : isValidPrivateCidrV6 net = true
    · simp [buildLanRules6, valid, ih]
    · simp [buildLanRules6, valid, ih]

theorem install_buildIpv6Script
    (ipv6Mode : Ipv6Mode)
    (lanSubnets6 : List Cidr6)
    (tables : Tables) :
    install (buildIpv6Script ipv6Mode true lanSubnets6) tables =
      some (withOutput6 tables
        (ipv6FrontRules ipv6Mode lanSubnets6 ++ (tables .ip6tables).output)) := by
  have start : tables = withOutput6 tables ([] ++ (tables .ip6tables).output) := by
    simp
  cases ipv6Mode with
  | block =>
    refine (congrArg (install _) start).trans ?_
    iterate 2 refine (install_insertRule6 (by rfl) (by simp) tables _ _ (by rfl) _).trans ?_
    simp [install, ipv6FrontRules]
  | tunnel =>
    have lanLength := length_buildLanRules6 4 lanSubnets6
    refine (congrArg (install _) start).trans ?_
    iterate 3 refine (install_insertRule6 (by rfl) (by simp) tables _ _ (by rfl) _).trans ?_
    refine (install_append _ _ _).trans ?_
    have lanLines :=
      install_buildLanRules6 lanSubnets6 tables
        [ .rule [.out lo] .accept, .rule [.ctTracked] .accept, .rule [.out tun] .accept ]
        (tables .ip6tables).output (show 4 = 3 + 1 by rfl)
    refine (congrArg (Option.bind · _) lanLines).trans ?_
    refine (install_insertRule6 (by rfl) (by simp) tables
      _ _ (by simp [lanLength]; omega) _).trans ?_
    simp [install, ipv6FrontRules]
  | off => simp [buildIpv6Script, install, ipv6FrontRules]

theorem buildIpv6Script_noLan
    (ipv6Mode : Ipv6Mode)
    (lanSubnets6 : List Cidr6) :
    buildIpv6Script ipv6Mode false lanSubnets6 = buildIpv6Script ipv6Mode true [linkLocal6] := by
  have valid : isValidPrivateCidrV6 linkLocal6 = true := by decide
  cases ipv6Mode <;> simp [buildIpv6Script, buildLanRules6, valid]

/--
When every command of the IPv6 part succeeds, its rules stand in front of the
prior ones in the order of the source, and the drop is the last of them.
-/
theorem ipv6_rules_in_order
    {lanSubnets6 : List Cidr6}
    (valid : ∀ net ∈ lanSubnets6, isValidPrivateCidrV6 net = true)
    (allowLan : Bool)
    (tables : Tables) :
    let outputAfter := fun ipv6Mode =>
      (install (buildIpv6Script ipv6Mode allowLan lanSubnets6) tables).map
        fun after => (after .ip6tables).output
    outputAfter .tunnel =
        some ([ .rule [.out lo] .accept, .rule [.ctTracked] .accept, .rule [.out tun] .accept ] ++
          (if allowLan then lanSubnets6 else [linkLocal6]).map
            (fun net => .rule [.dst (.v6 net)] .accept) ++
          [.rule [] .drop] ++ (tables .ip6tables).output) ∧
      outputAfter .block =
        some ([ .rule [.out lo] .accept, .rule [] .drop ] ++ (tables .ip6tables).output) := by
  dsimp only
  cases allowLan with
  | true =>
    rw [install_buildIpv6Script, install_buildIpv6Script, ipv6FrontRules, ipv6FrontRules,
      List.filter_eq_self.mpr valid]
    simp
  | false =>
    have linkLocalValid : [linkLocal6].filter isValidPrivateCidrV6 = [linkLocal6] := by decide
    rw [buildIpv6Script_noLan, buildIpv6Script_noLan, install_buildIpv6Script,
      install_buildIpv6Script, ipv6FrontRules, ipv6FrontRules, linkLocalValid]
    simp

/-- The link-local network on a host that has a rule of its own. -/
theorem ipv6_rules_before_foreign :
    ((install (buildIpv6Script .tunnel true [linkLocal6])
        (withOutput6 emptyTables [.foreign "-j LOG"])).map fun after => (after .ip6tables).output) =
      some [ .rule [.out lo] .accept, .rule [.ctTracked] .accept, .rule [.out tun] .accept,
        .rule [.dst (.v6 linkLocal6)] .accept, .rule [] .drop, .foreign "-j LOG" ] :=
  (ipv6_rules_in_order (by decide) true (withOutput6 emptyTables [.foreign "-j LOG"])).1

/--
The tables after the complete script: the filled chain, the jump to it in
front of `OUTPUT`, and the IPv6 rules in front of `OUTPUT` of `ip6tables`.
-/
def installed
    (settings : KillSwitchSettings)
    (vpnIps : List IpAddr)
    (lanSubnets : List Cidr4)
    (lanSubnets6 : List Cidr6)
    (tables : Tables) :
    Tables
  | .iptables =>
    { output := jumpRule :: (tables .iptables).output
      user := Function.update (tables .iptables).user .killSwitch
        (some (chainRules settings vpnIps lanSubnets)) }
  | .ip6tables =>
    { tables .ip6tables with
      output := ipv6FrontRules settings.ipv6Mode lanSubnets6 ++
        (tables .ip6tables).output }

/--
Over tables without a kill switch chain the complete script runs to its end,
whatever other rules they hold.
-/
theorem install_buildCompleteScript
    (notLocalhost : settings.dnsMode ≠ .localhost)
    (vpnIps : List IpAddr)
    (lanSubnets : List Cidr4)
    (lanSubnets6 : List Cidr6)
    (noChain : (tables .iptables).user .killSwitch = none) :
    install (buildCompleteScript settings vpnIps lanSubnets lanSubnets6)
        tables =
      some (installed settings vpnIps lanSubnets lanSubnets6 tables) := by
  rw [buildCompleteScript, install_append,
    install_buildChainScript notLocalhost vpnIps lanSubnets noChain,
    Option.bind_some, install_buildIpv6Script]
  congr 1
  funext tool
  cases tool with
  | iptables => simp [installed, chainInstalled, withOutput6]
  | ip6tables => simp [installed, chainInstalled, withOutput6, Table.setRules]

end Shroud.IptablesScript
