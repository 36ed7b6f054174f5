import Shroud.AddressChars
import Shroud.InstalledRules
import Shroud.RuleListing
import Shroud.Verify

namespace Shroud.Verify

open Netfilter IptablesScript KillSwitchRules RuleListing

/-!
# The verifier and what the builders install

The checks look for lines that the builders are known to write.  Both sides
spell these lines out on their own; this module says for which configurations
they agree: a freshly installed rule set passes, except that the nftables
checks expect another address for local DNS than the one that is installed.
-/

/-- What `fetch_iptables_snapshot` sees of the tables of the default tools. -/
def snapshotOf (tables : Tables) : IptablesSnapshot where
  ksChain :=
    match (tables .iptables).user .killSwitch with
    | none => []
    | some rules => listing (chainListing chainName (rules.map listedRule))
  outputChain := listing (outputListing .accept ((tables .iptables).output.map listedRule))
  ip6Output := listing (outputListing .accept ((tables .ip6tables).output.map listedRule))

/-- The answer to `-C OUTPUT -j SHROUD_KILLSWITCH`. -/
def jumpPresent (tables : Tables) : Bool :=
  decide (jumpRule ∈ (tables .iptables).output)

theorem mentions_self (text : String) :
    mentions text.toList text = true :=
  Text.contains_iff_infix.mpr List.infix_rfl

variable {chars : List Char} {text line : String} {lines : List String} {policy : Shroud.Verdict}

theorem mentions_written
    {pattern : List Char}
    (found : Text.contains pattern chars = true) :
    mentions (String.ofList chars).toList (String.ofList pattern) = true := by
  rw [mentions, String.toList_ofList, String.toList_ofList]
  exact found

/-- A listing that shows some lines, whatever other lines are among them. -/
def ShowsLines (text : List Char) (lines : List String) : Prop :=
  ∃ shown, text = listing shown ∧ lines ⊆ shown

theorem ShowsLines.mentions
    {text : List Char}
    (shows : ShowsLines text lines)
    {pattern : String}
    (member : line ∈ lines)
    (found : Verify.mentions line.toList pattern = true) :
    Verify.mentions text pattern = true := by
  obtain ⟨shown, rfl, holds⟩ := shows
  exact contains_listing (holds member) found

/-- Lines that hold no line ends. -/
def SingleLines (lines : List String) : Prop :=
  ∀ line ∈ lines, '\n' ∉ line.toList ∧ '\r' ∉ line.toList

theorem SingleLines.nil :
    SingleLines [] := by
  intro line member
  exact absurd member List.not_mem_nil

theorem SingleLines.cons
    (single : '\n' ∉ chars ∧ '\r' ∉ chars)
    {rest : List String}
    (later : SingleLines rest) :
    SingleLines (String.ofList chars :: rest) := by
  intro line member
  rcases List.mem_cons.mp member with rfl | inRest
  · rw [String.toList_ofList]
    exact single
  · exact later line inRest

theorem ShowsLines.anyLine
    {text : List Char}
    (shows : ShowsLines text lines)
    (member : line ∈ lines)
    (single : '\n' ∉ line.toList ∧ '\r' ∉ line.toList)
    {test : List Char → Bool}
    (holds : test line.toList = true) :
    Verify.anyLine text test = true := by
  obtain ⟨shown, rfl, among⟩ := shows
  refine List.any_eq_true.mpr ⟨line.toList, ?_, holds⟩
  exact Text.mem_lines_unlines (List.mem_map_of_mem (among member)) single.1 single.2

theorem ShowsLines.trim_ne_nil
    {text : List Char}
    (shows : ShowsLines text lines)
    {first : Char}
    (member : String.ofList (first :: chars) ∈ lines)
    (visible : Text.isWhitespace first = false) :
    Text.trim text ≠ [] := by
  obtain ⟨shown, rfl, among⟩ := shows
  refine Text.trim_ne_nil ?_ visible
  refine (Text.infix_unlines (List.mem_map_of_mem (among member))).subset ?_
  rw [String.toList_ofList]
  exact List.mem_cons_self

/-- The policy, which `-S` prints first, is no rule. -/
theorem firstOutputRule?_policy
    (policy : Shroud.Verdict)
    (rules : List String) :
    firstOutputRule? (listing (outputListing policy rules)) =
      firstOutputRule? (listing (rules.map (ruleLine "OUTPUT"))) := by
  have skips
      {chars : List Char}
      (single : '\n' ∉ chars ∧ '\r' ∉ chars)
      (noRule : "-A OUTPUT".toList.isPrefixOf chars = false) :
      firstOutputRule?
          (listing (String.ofList chars :: rules.map (ruleLine "OUTPUT"))) =
        firstOutputRule? (listing (rules.map (ruleLine "OUTPUT"))) := by
    rw [firstOutputRule?, listing, List.map_cons, @String.toList_ofList chars,
      Text.lines_unlines_cons single.1 (Text.getLast?_ne_of_notMem single.2),
      List.find?_cons_of_neg (Bool.eq_false_iff.mp noRule)]
    rfl
  cases policy with
  | accept => exact skips (by decide) (by decide)
  | drop => exact skips (by decide) (by decide)

theorem firstOutputRule?_rule
    (single : '\n' ∉ (ruleLine "OUTPUT" text).toList ∧ '\r' ∉ (ruleLine "OUTPUT" text).toList)
    (others : List String) :
    firstOutputRule?
        (listing ((text :: others).map (ruleLine "OUTPUT"))) =
      some (ruleLine "OUTPUT" text).toList := by
  have isRule : "-A OUTPUT".toList.isPrefixOf (ruleLine "OUTPUT" text).toList = true := by
    have opening : "-A " ++ "OUTPUT" = "-A OUTPUT" := by decide
    rw [ruleLine, opening, String.append_assoc, String.toList_append, List.isPrefixOf_iff_prefix]
    exact List.prefix_append _ _
  rw [firstOutputRule?, listing, List.map_cons, List.map_cons,
    Text.lines_unlines_cons single.1 (Text.getLast?_ne_of_notMem single.2),
    List.find?_cons_of_pos isRule]

/-- The rules that the checks of the chain look for, in every mode. -/
def checkedRules : List XRule :=
  [ .rule [.out lo] .accept,
    .rule [.out tun] .accept,
    .rule [.out wg] .accept,
    .rule [.out tap] .accept,
    .rule [.proto .udp, .dport 67] .accept,
    .rule [.proto .udp, .sport 68] .accept,
    .rule [] .drop ]

def checkedLines : List String :=
  [ "-A SHROUD_KILLSWITCH -o lo -j ACCEPT",
    "-A SHROUD_KILLSWITCH -o tun+ -j ACCEPT",
    "-A SHROUD_KILLSWITCH -o wg+ -j ACCEPT",
    "-A SHROUD_KILLSWITCH -o tap+ -j ACCEPT",
    "-A SHROUD_KILLSWITCH -p udp -m udp --dport 67 -j ACCEPT",
    "-A SHROUD_KILLSWITCH -p udp -m udp --sport 68 -j ACCEPT",
    "-A SHROUD_KILLSWITCH -j DROP" ]

theorem checkedRules_lines :
    checkedRules.map (ruleLine chainName ∘ listedRule) = checkedLines := by
  decide

/-- The rules for DNS in the modes tunnel and strict. -/
def tunnelDnsRules : List XRule :=
  [ .rule [.out tun, .proto .udp, .dport 53] .accept, .rule [.proto .udp, .dport 53] .drop ]

def tunnelDnsLines : List String :=
  [ "-A SHROUD_KILLSWITCH -o tun+ -p udp -m udp --dport 53 -j ACCEPT",
    "-A SHROUD_KILLSWITCH -p udp -m udp --dport 53 -j DROP" ]

theorem tunnelDnsRules_lines :
    tunnelDnsRules.map (ruleLine chainName ∘ listedRule) = tunnelDnsLines := by
  decide

theorem localDns_line :
    ruleLine chainName
        (listedRule (.rule [.dst (.v6 (Cidr.host loopback6)), .proto .udp, .dport 53] .accept)) =
      "-A SHROUD_KILLSWITCH -d ::1/128 -p udp -m udp --dport 53 -j ACCEPT" := by
  decide

theorem checkedLines_single :
    SingleLines (checkedLines ++ tunnelDnsLines) := by
  simp only [checkedLines, tunnelDnsLines, List.cons_append, List.nil_append]
  repeat refine .cons (by decide) ?_
  exact .nil

theorem checkPatterns :
    "-A " ++ chainName ++ " -o lo -j ACCEPT" =
        "-A SHROUD_KILLSWITCH -o lo -j ACCEPT" ∧
      "-A " ++ chainName ++ " -j DROP" = "-A SHROUD_KILLSWITCH -j DROP" ∧
      "-A " ++ chainName ++ " -o " ++ "tun+" ++ " -j ACCEPT" =
        "-A SHROUD_KILLSWITCH -o tun+ -j ACCEPT" ∧
      "-A " ++ chainName ++ " -o " ++ "wg+" ++ " -j ACCEPT" =
        "-A SHROUD_KILLSWITCH -o wg+ -j ACCEPT" ∧
      "-A " ++ chainName ++ " -o " ++ "tap+" ++ " -j ACCEPT" =
        "-A SHROUD_KILLSWITCH -o tap+ -j ACCEPT" := by
  decide

section Iptables

variable
  {settings : KillSwitchSettings}
  {servers : List IpAddr}
  {lanSubnets : List Cidr4}
  {lanSubnets6 : List Cidr6}

theorem mem_chainRules
    {tests : List XMatch}
    {target : XTarget}
    (line : appendRule tests target ∈ buildChainRules settings servers lanSubnets) :
    .rule tests target ∈ chainRules settings servers lanSubnets :=
  List.mem_filterMap.mpr ⟨_, line, rfl⟩

theorem checkedRules_built :
    ∀ rule ∈ checkedRules, rule ∈ chainRules settings servers lanSubnets := by
  intro rule listed
  simp only [checkedRules, List.mem_cons, List.not_mem_nil, or_false] at listed
  rcases listed with rfl | rfl | rfl | rfl | rfl | rfl | rfl
  all_goals
    refine mem_chainRules ?_
    simp [buildChainRules]

theorem dns_mem_chainRules
    {tests : List XMatch}
    {target : XTarget}
    (line : appendRule tests target ∈ buildDnsRules settings) :
    .rule tests target ∈ chainRules settings servers lanSubnets := by
  refine mem_chainRules ?_
  simp only [buildChainRules, List.mem_append]
  simp [line]

theorem tunnelDnsRules_built
    (tunnelled : settings.dnsMode = .tunnel ∨ settings.dnsMode = .strict) :
    ∀ rule ∈ tunnelDnsRules, rule ∈ chainRules settings servers lanSubnets := by
  intro rule listed
  simp only [tunnelDnsRules, List.mem_cons, List.not_mem_nil, or_false] at listed
  rcases listed with rfl | rfl
  all_goals
    refine dns_mem_chainRules ?_
    rcases tunnelled with mode | mode
    all_goals simp [buildDnsRules, mode]

/-- The lines of rules, as `-S` prints them. -/
def linesOf (chain : String) (rules : List XRule) : List String :=
  rules.map (ruleLine chain ∘ listedRule)

theorem showsLines_rules
    {chain heading : String}
    {rules : List XRule}
    {text : List Char}
    (shown : text = listing (heading :: (rules.map listedRule).map (ruleLine chain))) :
    ShowsLines text (linesOf chain rules) := by
  refine ⟨_, shown, ?_⟩
  rw [linesOf, ← List.map_map]
  exact List.subset_cons_self _ _

theorem listed_of_built
    {checked : List XRule}
    (shown : checked.map (ruleLine chainName ∘ listedRule) = lines)
    {rules : List XRule}
    (built : ∀ rule ∈ checked, rule ∈ rules) :
    ∀ line ∈ lines, line ∈ linesOf chainName rules := by
  intro line member
  rw [← shown] at member
  obtain ⟨rule, listed, rfl⟩ := List.mem_map.mp member
  exact List.mem_map_of_mem (built rule listed)

section Chain

variable
  {snap : IptablesSnapshot}
  (shown : ShowsLines snap.ksChain (linesOf chainName (chainRules settings servers lanSubnets)))
  (verbose : Bool)

include shown

theorem anyLine_checked
    (checked : line ∈ checkedLines)
    {test : List Char → Bool}
    (holds : test line.toList = true) :
    anyLine snap.ksChain test = true :=
  shown.anyLine
    (listed_of_built checkedRules_lines checkedRules_built line checked)
    (checkedLines_single line (List.mem_append_left _ checked)) holds

theorem builtChain_exists :
    (checkChainExistsIptables snap verbose).verdict = .pass := by
  have line :
      "-A SHROUD_KILLSWITCH -j DROP" ∈ linesOf chainName (chainRules settings servers lanSubnets) :=
    listed_of_built checkedRules_lines checkedRules_built _ (List.mem_of_getElem? (i := 6) rfl)
  rw [checkChainExistsIptables_pass]
  exact shown.trim_ne_nil line (by decide)

theorem builtChain_drops :
    (checkDefaultDropIptables snap verbose).verdict = .pass := by
  rw [checkDefaultDropIptables_pass, checkPatterns.2.1]
  exact anyLine_checked shown (List.mem_of_getElem? (i := 6) rfl) (mentions_self _)

theorem builtChain_loopback :
    (checkLoopbackAllowedIptables snap verbose).verdict = .pass := by
  rw [checkLoopbackAllowedIptables_pass, checkPatterns.1]
  exact anyLine_checked shown (List.mem_of_getElem? (i := 0) rfl) (mentions_self _)

theorem builtChain_interfaces :
    (checkVpnInterfacesAllowedIptables snap verbose).verdict = .pass := by
  obtain ⟨-, -, tunLine, wgLine, tapLine⟩ := checkPatterns
  rw [checkVpnInterfacesAllowedIptables, vpnInterfacesResult_pass, List.filter_eq_nil_iff]
  intro iface listed
  rw [Bool.not_eq_true, Bool.not_eq_false']
  simp only [List.mem_cons, List.not_mem_nil, or_false] at listed
  rcases listed with rfl | rfl | rfl
  · rw [tunLine]
    exact anyLine_checked shown (List.mem_of_getElem? (i := 1) rfl) (mentions_self _)
  · rw [wgLine]
    exact anyLine_checked shown (List.mem_of_getElem? (i := 2) rfl) (mentions_self _)
  · rw [tapLine]
    exact anyLine_checked shown (List.mem_of_getElem? (i := 3) rfl) (mentions_self _)

theorem builtChain_dhcp :
    (checkDhcpAllowedIptables snap verbose).verdict = .pass := by
  rw [checkDhcpAllowedIptables, dhcpResult_pass, Bool.and_eq_true]
  constructor
  · exact anyLine_checked shown (List.mem_of_getElem? (i := 4) rfl)
      (Bool.and_eq_true_iff.mpr ⟨mentions_written (by decide), mentions_written (by decide)⟩)
  · exact anyLine_checked shown (List.mem_of_getElem? (i := 5) rfl)
      (Bool.and_eq_true_iff.mpr ⟨mentions_written (by decide), mentions_written (by decide)⟩)

theorem builtChain_dns (notAny : settings.dnsMode ≠ .any) :
    (checkDnsModeMatchIptables snap settings.dnsMode verbose).verdict = .pass := by
  rw [checkDnsModeMatchIptables_pass]
  by_cases localhost : settings.dnsMode = .localhost
  · refine .inr ⟨localhost, .inr ?_⟩
    have built :
        XRule.rule [.dst (.v6 (Cidr.host loopback6)), .proto .udp, .dport 53]
            .accept ∈ chainRules settings servers lanSubnets := by
      refine dns_mem_chainRules ?_
      simp [buildDnsRules, localhost]
    refine shown.mentions (List.mem_map_of_mem built) ?_
    rw [Function.comp_apply, localDns_line]
    exact mentions_written (by decide)
  · have tunnelled :
        settings.dnsMode = .tunnel ∨ settings.dnsMode = .strict := by
      cases mode : settings.dnsMode <;> simp_all
    have line
        {line : String}
        (checked : line ∈ tunnelDnsLines)
        {test : List Char → Bool}
        (holds : test line.toList = true) :
        anyLine snap.ksChain test = true :=
      shown.anyLine
        (listed_of_built tunnelDnsRules_lines (tunnelDnsRules_built tunnelled) _ checked)
        (checkedLines_single _ (List.mem_append_right _ checked)) holds
    refine .inl ⟨tunnelled, ?_, ?_⟩
    · refine line (List.mem_of_getElem? (i := 0) rfl) ?_
      rw [Bool.and_eq_true, Bool.and_eq_true, Bool.or_eq_true, Bool.or_eq_true]
      exact ⟨⟨mentions_written (by decide), mentions_written (by decide)⟩,
        .inl (.inl (mentions_written (by decide)))⟩
    · refine line (List.mem_of_getElem? (i := 1) rfl) ?_
      exact Bool.and_eq_true_iff.mpr ⟨mentions_written (by decide), mentions_written (by decide)⟩

end Chain

theorem outputRules_lines :
    ruleLine "OUTPUT" (listedRule (.rule [] .drop)) = "-A OUTPUT -j DROP" ∧
      ruleLine "OUTPUT" (listedRule (.rule [.out tun] .accept)) = "-A OUTPUT -o tun+ -j ACCEPT" ∧
      ruleLine "OUTPUT" (listedRule jumpRule) = "-A OUTPUT -j SHROUD_KILLSWITCH" ∧
      "-A OUTPUT -j " ++ chainName = "-A OUTPUT -j SHROUD_KILLSWITCH" := by
  decide

theorem outputLines_single :
    SingleLines
      [ "-P OUTPUT ACCEPT",
        "-A OUTPUT -j DROP",
        "-A OUTPUT -o tun+ -j ACCEPT",
        "-A OUTPUT -j SHROUD_KILLSWITCH" ] := by
  repeat refine .cons (by decide) ?_
  exact .nil

variable
  {snap : IptablesSnapshot}
  (verbose : Bool)

theorem builtOutput_protects
    (notOff : settings.ipv6Mode ≠ .off)
    (shown6 :
      ShowsLines snap.ip6Output (linesOf "OUTPUT" (ipv6FrontRules settings.ipv6Mode lanSubnets6))) :
    (checkIpv6ProtectionIptables snap settings.ipv6Mode verbose).verdict = .pass := by
  obtain ⟨dropLine, tunLine, -, -⟩ := outputRules_lines
  have found
      {rule : XRule}
      {line : String}
      (text : ruleLine "OUTPUT" (listedRule rule) = line)
      (single : '\n' ∉ line.toList ∧ '\r' ∉ line.toList)
      (member : rule ∈ ipv6FrontRules settings.ipv6Mode lanSubnets6) :
      anyLine snap.ip6Output (mentions · line) = true := by
    refine shown6.anyLine ?_ single (mentions_self line)
    rw [← text]
    exact List.mem_map_of_mem member
  have drops : XRule.rule [] .drop ∈ ipv6FrontRules settings.ipv6Mode lanSubnets6 := by
    cases mode : settings.ipv6Mode with
    | block => simp [ipv6FrontRules]
    | tunnel => simp [ipv6FrontRules]
    | off => exact absurd mode notOff
  rw [checkIpv6ProtectionIptables_pass]
  refine ⟨found dropLine (outputLines_single _ (List.mem_of_getElem? (i := 1) rfl)) drops, ?_⟩
  cases mode : settings.ipv6Mode with
  | block => exact .inl rfl
  | tunnel =>
    refine .inr ⟨rfl, found tunLine (outputLines_single _ (List.mem_of_getElem? (i := 2) rfl)) ?_⟩
    simp [mode, ipv6FrontRules]
  | off => exact absurd mode notOff

theorem builtOutput_clean
    {others : List String}
    (shownOutput :
      snap.outputChain = listing (outputListing policy (listedRule jumpRule :: others))) :
    (checkNoRogueRulesIptables snap verbose).verdict = .pass := by
  obtain ⟨-, -, jumpLine, pattern⟩ := outputRules_lines
  have found :
      firstOutputRule? snap.outputChain = some "-A OUTPUT -j SHROUD_KILLSWITCH".toList := by
    rw [shownOutput, firstOutputRule?_policy, ← jumpLine]
    refine firstOutputRule?_rule ?_ others
    rw [jumpLine]
    exact outputLines_single _ (List.mem_of_getElem? (i := 3) rfl)
  rw [checkNoRogueRulesIptables_pass, pattern]
  exact ⟨_, found, mentions_self _⟩

/-- Each check finds its line in what the script has built. -/
theorem builtRules_pass
    (notAny : settings.dnsMode ≠ .any)
    (notOff : settings.ipv6Mode ≠ .off)
    (chain : ShowsLines snap.ksChain (linesOf chainName (chainRules settings servers lanSubnets)))
    {others : List String}
    (output : snap.outputChain = listing (outputListing policy (listedRule jumpRule :: others)))
    (output6 :
      ShowsLines snap.ip6Output (linesOf "OUTPUT" (ipv6FrontRules settings.ipv6Mode lanSubnets6))) :
    ∀ check ∈ iptablesChecks snap true settings verbose, check.verdict = .pass := by
  intro check member
  simp only [iptablesChecks, List.mem_cons, List.not_mem_nil, or_false] at member
  rcases member with
    same | same | same | same | same | same | same | same | same
  all_goals rw [same]
  · exact builtChain_exists chain verbose
  · exact checkJumpRuleIptables_pass.mpr rfl
  · exact builtChain_drops chain verbose
  · exact builtChain_loopback chain verbose
  · exact builtChain_interfaces chain verbose
  · exact builtChain_dhcp chain verbose
  · exact builtOutput_protects verbose notOff output6
  · exact builtChain_dns chain verbose notAny
  · exact builtOutput_clean verbose output

theorem installed_passes
    (notAny : settings.dnsMode ≠ .any)
    (notOff : settings.ipv6Mode ≠ .off)
    {tables : Tables}
    (complete : tables = installed settings servers lanSubnets lanSubnets6 fun _ => Table.empty) :
    ∀ check ∈
        iptablesChecks (snapshotOf tables) (jumpPresent tables) settings verbose,
      check.verdict = .pass := by
  have jumps : jumpPresent tables = true := by
    simp [complete, jumpPresent, installed]
  have chain :
      (snapshotOf tables).ksChain =
        listing
          (chainListing chainName ((chainRules settings servers lanSubnets).map listedRule)) := by
    simp [complete, snapshotOf, installed]
  have output :
      (snapshotOf tables).outputChain = listing (outputListing .accept [listedRule jumpRule]) := by
    simp [complete, snapshotOf, installed, Table.empty]
  have output6 :
      (snapshotOf tables).ip6Output =
        listing
          (outputListing .accept
            ((ipv6FrontRules settings.ipv6Mode lanSubnets6).map listedRule)) := by
    simp [complete, snapshotOf, installed, Table.empty]
  rw [jumps]
  exact builtRules_pass verbose notAny notOff (showsLines_rules chain) output
    (showsLines_rules output6)

end Iptables

/-- The listing of the built table. -/
def builtTable
    (style : NftStyle)
    (settings : KillSwitchSettings)
    (servers : List IpAddr)
    (lanSubnets : List Cidr4) :
    List String :=
  nftTableLines style (NftRuleset.buildNftRuleset settings servers lanSubnets)

section Nftables

open NftRuleset

variable
  {settings : KillSwitchSettings}
  {servers : List IpAddr}
  {lanSubnets : List Cidr4}
  {style : NftStyle}

theorem mem_builtTable {line : String} :
    line ∈ builtTable style settings servers lanSubnets ↔
      line = "table inet shroud_killswitch \x7b" ∨
      line ∈ nftChainLines style "output" .drop
        ((outputRules settings servers lanSubnets).map (listedNftRule style)) ∨
      line = "" ∨
      line ∈ nftChainLines style "input" .accept [] ∨
      line = "\x7d" := by
  simp only [builtTable, nftTableLines, buildNftRuleset, List.mem_append,
    List.mem_singleton, or_assoc, List.map_nil]

theorem mem_nftChainLines
    {name : String}
    {rules : List String}
    {line : String} :
    line ∈ nftChainLines style name policy rules ↔
      line = "\tchain " ++ name ++ " \x7b" ∨
      line = hookLine style.priorityText name policy ∨
      (∃ rule ∈ rules, "\t\t" ++ rule = line) ∨
      line = "\t\x7d" := by
  simp only [nftChainLines, List.mem_append, List.mem_cons, List.mem_map,
    List.not_mem_nil, or_false, or_assoc]

variable {rule : NftRule} {c : Char}

section Listing

variable
  {snap : NftSnapshot}
  (shown : ShowsLines snap.tableOutput (builtTable style settings servers lanSubnets))

include shown

theorem mentions_rule
    (member : rule ∈ outputRules settings servers lanSubnets)
    (listed : listedNftRule style rule = text) :
    mentions snap.tableOutput text = true := by
  have line : "\t\t" ++ text ∈ builtTable style settings servers lanSubnets := by
    rw [mem_builtTable]
    right
    left
    rw [mem_nftChainLines]
    right
    right
    left
    exact ⟨text, List.mem_map.mpr ⟨rule, member, listed⟩, rfl⟩
  refine shown.mentions line ?_
  rw [mentions, Text.contains_iff_infix, String.toList_append]
  exact (List.suffix_append _ _).isInfix

theorem mentions_heading
    (found : mentions (hookLine style.priorityText "output" .drop).toList text = true) :
    mentions snap.tableOutput text = true := by
  have heading :
      hookLine style.priorityText "output" .drop ∈
        builtTable style settings servers lanSubnets := by
    rw [mem_builtTable]
    right
    left
    rw [mem_nftChainLines]
    right
    left
    rfl
  exact shown.mentions heading found

end Listing

theorem mentions_between (front text back : String) :
    mentions (front ++ text ++ back).toList text = true := by
  rw [mentions, Text.contains_iff_infix, String.toList_append, String.toList_append]
  exact List.infix_append _ _ _

theorem heading_hooks (priority : String) :
    mentions (hookLine priority "output" .drop).toList "hook output" = true := by
  have front : "\t\ttype filter hook " ++ "output" = "\t\ttype filter " ++ "hook output" := by
    decide
  have split :
      hookLine priority "output" .drop =
        ("\t\ttype filter hook " ++ "output") ++
          (" priority " ++ (priority ++ ("; policy " ++ ("drop" ++ ";")))) := by
    unfold hookLine NftText.verdictText
    simp only [String.append_assoc]
  rw [split, front]
  exact mentions_between _ _ _

theorem heading_drops (priority : String) :
    mentions (hookLine priority "output" .drop).toList "policy drop" = true := by
  have back : "; policy " ++ "drop" = "; " ++ "policy drop" := by decide
  have split :
      hookLine priority "output" .drop =
        ("\t\ttype filter hook " ++ "output" ++ " priority " ++ priority) ++
          ("; policy " ++ "drop") ++ ";" := by
    unfold hookLine NftText.verdictText
    simp only [String.append_assoc]
  rw [split, back, ← String.append_assoc]
  exact mentions_between _ _ _

/-- The rules that the checks of the table look for. -/
def checkedNftRules : List NftRule :=
  [ nftRule [.oifname lo] .accept,
    nftRule [.oifname tun] .accept,
    nftRule [.oifname wg] .accept,
    nftRule [.oifname tap] .accept,
    nftRule [.udpDport 67] .accept,
    nftRule [.udpSport 68] .accept,
    nftRule [.nfprotoIpv6] .drop,
    nftRule [.ip6Daddr linkLocal6] .accept,
    nftRule [.udpDport 53] .drop ]

def checkedNftTexts : List String :=
  [ "oifname \"lo\" accept",
    "oifname \"tun*\" accept",
    "oifname \"wg*\" accept",
    "oifname \"tap*\" accept",
    "udp dport 67 accept",
    "udp sport 68 accept",
    "meta nfproto ipv6 drop",
    "ip6 daddr fe80::/10 accept",
    "udp dport 53 drop" ]

theorem checkedNftRules_texts :
    checkedNftRules.map (listedNftRule ⟨true, true⟩) = checkedNftTexts := by
  decide

theorem nftPatterns :
    "oifname \"" ++ "tun*" ++ "\" accept" = "oifname \"tun*\" accept" ∧
      "oifname \"" ++ "wg*" ++ "\" accept" = "oifname \"wg*\" accept" ∧
      "oifname \"" ++ "tap*" ++ "\" accept" = "oifname \"tap*\" accept" := by
  decide

theorem listedNftRule_style
    (unlimited : .limitRate ∉ rule.tests)
    (style other : NftStyle) :
    listedNftRule style rule = listedNftRule other rule := by
  have same : rule.tests.map (listedMatch style) = rule.tests.map (listedMatch other) := by
    refine List.map_congr_left ?_
    intro test member
    cases test with
    | limitRate => exact absurd member unlimited
    | _ => rfl
  rw [listedNftRule, listedNftRule, same]

theorem fixed_mem_outputRules (fixed : rule ∈ checkedNftRules.take 6) :
    rule ∈ outputRules settings servers lanSubnets := by
  simp only [checkedNftRules, List.take_succ_cons, List.take_zero,
    List.mem_cons, List.not_mem_nil, or_false] at fixed
  rcases fixed with rfl | rfl | rfl | rfl | rfl | rfl
  all_goals simp [outputRules, dhcpRules, tunnelRules]

section Table

variable
  {snap : NftSnapshot}
  (shown : ShowsLines snap.tableOutput (builtTable style settings servers lanSubnets))
  (verbose : Bool)

include shown

theorem mentions_checked
    (number : Nat)
    (isRule : checkedNftRules[number]? = some rule)
    (isText : checkedNftTexts[number]? = some text)
    (member : rule ∈ outputRules settings servers lanSubnets) :
    mentions snap.tableOutput text = true := by
  have unlimited : ∀ rule ∈ checkedNftRules, .limitRate ∉ rule.tests := by
    decide
  refine mentions_rule shown member ?_
  rw [listedNftRule_style (unlimited rule (List.mem_of_getElem? isRule)) style ⟨true, true⟩]
  rw [← checkedNftRules_texts, List.getElem?_map, isRule, Option.map_some] at isText
  exact Option.some.inj isText

theorem builtTable_exists :
    (checkChainExistsNft snap verbose).verdict = .pass := by
  have opening :
      "table inet shroud_killswitch \x7b" ∈ builtTable style settings servers lanSubnets := by
    rw [mem_builtTable]
    left
    rfl
  rw [checkChainExistsNft_pass]
  exact shown.trim_ne_nil opening (by decide)

theorem builtTable_hooks :
    (checkJumpRuleNft snap verbose).verdict = .pass := by
  have opening :
      "\tchain " ++ "output" ++ " \x7b" ∈ builtTable style settings servers lanSubnets := by
    rw [mem_builtTable]
    right
    left
    rw [mem_nftChainLines]
    left
    rfl
  have split : "\tchain " ++ "output" = "\t" ++ "chain output" := by decide
  rw [checkJumpRuleNft_pass]
  refine ⟨shown.mentions opening ?_, mentions_heading shown (heading_hooks _)⟩
  rw [split]
  exact mentions_between _ _ _

theorem builtTable_drops :
    (checkDefaultDropNft snap verbose).verdict = .pass := by
  rw [checkDefaultDropNft_pass]
  exact mentions_heading shown (heading_drops _)

theorem builtTable_loopback :
    (checkLoopbackAllowedNft snap verbose).verdict = .pass := by
  rw [checkLoopbackAllowedNft_pass]
  exact mentions_checked shown 0 rfl rfl (fixed_mem_outputRules (by decide))

theorem builtTable_interfaces :
    (checkVpnInterfacesAllowedNft snap verbose).verdict = .pass := by
  obtain ⟨tunText, wgText, tapText⟩ := nftPatterns
  rw [checkVpnInterfacesAllowedNft, vpnInterfacesResult_pass, List.filter_eq_nil_iff]
  intro iface listed
  rw [Bool.not_eq_true, Bool.not_eq_false']
  simp only [List.mem_cons, List.not_mem_nil, or_false] at listed
  rcases listed with rfl | rfl | rfl
  · rw [tunText]
    exact mentions_checked shown 1 rfl rfl (fixed_mem_outputRules (by decide))
  · rw [wgText]
    exact mentions_checked shown 2 rfl rfl (fixed_mem_outputRules (by decide))
  · rw [tapText]
    exact mentions_checked shown 3 rfl rfl (fixed_mem_outputRules (by decide))

theorem builtTable_dhcp :
    (checkDhcpAllowedNft snap verbose).verdict = .pass := by
  rw [checkDhcpAllowedNft, dhcpResult_pass, Bool.and_eq_true]
  exact
    ⟨mentions_checked shown 4 rfl rfl (fixed_mem_outputRules (by decide)),
      mentions_checked shown 5 rfl rfl (fixed_mem_outputRules (by decide))⟩

theorem builtTable_protects (notOff : settings.ipv6Mode ≠ .off) :
    (checkIpv6ProtectionNft snap settings.ipv6Mode verbose).verdict = .pass := by
  rw [checkIpv6ProtectionNft_pass]
  cases mode : settings.ipv6Mode with
  | block =>
    refine .inl ⟨rfl, mentions_checked shown 6 rfl rfl ?_⟩
    simp [outputRules, mode, ipv6Rules]
  | tunnel =>
    refine .inr ⟨rfl, mentions_checked shown 7 rfl rfl ?_⟩
    simp [outputRules, mode, ipv6Rules]
  | off => exact absurd mode notOff

end Table

/-- What the verifier looks for in the localhost mode. -/
def localDns : String :=
  "ip daddr 127.0.0.0/8 udp dport 53 accept"

/-- A line that does not hold it. -/
def LacksLocalDns (line : String) : Prop :=
  ¬localDns.toList <:+: line.toList

theorem lacks_of_notMem
    (c : Char)
    (wanted : c ∈ localDns.toList)
    (missing : c ∉ line.toList) :
    LacksLocalDns line :=
  fun found => missing (found.subset wanted)

theorem notMem_append
    {front back : String}
    (first : c ∉ front.toList)
    (second : c ∉ back.toList) :
    c ∉ (front ++ back).toList := by
  rw [String.toList_append, List.mem_append]
  exact not_or.mpr ⟨first, second⟩

theorem notMem_written (absent : c ∉ chars) :
    c ∉ (String.ofList chars).toList := by
  rw [String.toList_ofList]
  exact absent

theorem mem_written (present : c ∈ chars) :
    c ∈ (String.ofList chars).toList := by
  rw [String.toList_ofList]
  exact present

theorem localDns_mem :
    '/' ∈ localDns.toList ∧ '7' ∈ localDns.toList ∧ 'u' ∈ localDns.toList :=
  ⟨mem_written (by decide), mem_written (by decide), mem_written (by decide)⟩

theorem localDns_notMem :
    '\t' ∉ localDns.toList ∧ '\n' ∉ localDns.toList :=
  ⟨notMem_written (by decide), notMem_written (by decide)⟩

theorem localDns_ne_nil :
    localDns.toList ≠ [] :=
  List.ne_nil_of_mem localDns_mem.1

theorem LacksLocalDns.indented (lacks : LacksLocalDns text) :
    LacksLocalDns ("\t\t" ++ text) := by
  have tabs : "\t\t".toList = ['\t', '\t'] := String.toList_ofList
  have nowhere : ¬localDns.toList <:+: [] := fun found =>
    localDns_ne_nil (List.eq_nil_of_infix_nil found)
  have split : ("\t\t" ++ text).toList = [] ++ '\t' :: ([] ++ '\t' :: text.toList) := by
    rw [String.toList_append, tabs]
    rfl
  intro found
  rw [split] at found
  rcases Text.infix_of_infix_append_cons localDns_notMem.1 found with
    inFront | behind
  · exact nowhere inFront
  · rcases Text.infix_of_infix_append_cons localDns_notMem.1 behind with
      inFront | inText
    · exact nowhere inFront
    · exact lacks inText

def AllLackLocalDns (texts : List String) : Prop :=
  ∀ text ∈ texts, LacksLocalDns text

theorem AllLackLocalDns.nil :
    AllLackLocalDns [] := by
  intro text member
  exact absurd member List.not_mem_nil

theorem AllLackLocalDns.cons
    (c : Char)
    (wanted : c ∈ localDns.toList)
    (missing : c ∉ chars)
    {rest : List String}
    (later : AllLackLocalDns rest) :
    AllLackLocalDns (String.ofList chars :: rest) := by
  intro text member
  rcases List.mem_cons.mp member with rfl | inRest
  · exact lacks_of_notMem c wanted (notMem_written missing)
  · exact later text inRest

/-- The rules of the localhost mode that do not depend on the host. -/
def localhostRules : List NftRule :=
  [ nftRule [.ip6Daddr linkLocal6] .accept,
    nftRule [.oifname lo] .accept,
    nftRule [.ctTracked] .accept,
    nftRule [.nfprotoIpv6] .drop ] ++
  dhcpRules ++
  dnsRules .localhost .tunnel ++
  tunnelRules

def localhostTexts : List String :=
  [ "ip6 daddr fe80::/10 accept",
    "oifname \"lo\" accept",
    "ct state established,related accept",
    "meta nfproto ipv6 drop",
    "udp dport 67 accept",
    "udp sport 68 accept",
    "ip daddr 127.0.0.1 udp dport 53 accept",
    "ip daddr 127.0.0.1 tcp dport 53 accept",
    "ip daddr 127.0.0.53 udp dport 53 accept",
    "ip daddr 127.0.0.53 tcp dport 53 accept",
    "ip6 daddr ::1 udp dport 53 accept",
    "ip6 daddr ::1 tcp dport 53 accept",
    "udp dport 53 drop",
    "tcp dport 53 drop",
    "tcp dport 853 drop",
    "oifname \"tun*\" accept",
    "oifname \"tap*\" accept",
    "oifname \"wg*\" accept" ]

theorem localhostRules_texts :
    localhostRules.map (listedNftRule ⟨true, true⟩) = localhostTexts := by
  decide

theorem localhostTexts_lack :
    AllLackLocalDns localhostTexts := by
  obtain ⟨slash, seven, letter⟩ := localDns_mem
  rw [localhostTexts]
  refine .cons 'u' letter (by decide) ?_
  repeat refine .cons '/' slash (by decide) ?_
  exact .nil

theorem localhostRules_lack (member : rule ∈ localhostRules) :
    LacksLocalDns (listedNftRule style rule) := by
  have unlimited : ∀ rule ∈ localhostRules, .limitRate ∉ rule.tests := by decide
  rw [listedNftRule_style (unlimited rule member) style ⟨true, true⟩]
  refine localhostTexts_lack _ ?_
  rw [← localhostRules_texts]
  exact List.mem_map_of_mem member

theorem address_lacks
    {test : NftMatch}
    (address : (∃ net, test = .ipDaddr net) ∨ (∃ net, test = .ip6Daddr net)) :
    LacksLocalDns (listedNftRule style (nftRule [test] .accept)) := by
  have opened :
      listedNftRule style (nftRule [test] .accept) =
        " ".intercalate [listedMatch style test, "accept"] :=
    rfl
  have inNet (net : IpNet) : 'u' ∉ (CommandText.netText net).toList := by
    intro found
    exact absurd (AddressChars.netText_addressy net _ found) (by decide)
  have inTest : 'u' ∉ (listedMatch style test).toList := by
    rcases address with ⟨net, rfl⟩ | ⟨net, rfl⟩
    · exact notMem_append (notMem_written (by decide)) (inNet _)
    · exact notMem_append (notMem_written (by decide)) (inNet _)
  refine lacks_of_notMem 'u' localDns_mem.2.2 ?_
  rw [opened, String.intercalate_cons_cons, String.intercalate_singleton]
  exact notMem_append (notMem_append inTest (notMem_written (by decide)))
    (notMem_written (by decide))

theorem limit_lacks :
    LacksLocalDns
      (listedNftRule style
        { tests := [.limitRate]
          log := some "SHROUD-KS-DROP"
          verdict := .drop }) := by
  have opened :
      listedNftRule style
          { tests := [.limitRate]
            log := some "SHROUD-KS-DROP"
            verdict := .drop } =
        " ".intercalate [ style.limitText, "log prefix \"" ++ "SHROUD-KS-DROP" ++ "\"", "drop" ] :=
    rfl
  have inLimit : '7' ∉ style.limitText.toList := by
    rw [NftStyle.limitText]
    split
    · exact notMem_written (by decide)
    · exact notMem_written (by decide)
  have inLog : '7' ∉ ("log prefix \"" ++ "SHROUD-KS-DROP" ++ "\"").toList :=
    notMem_append
      (notMem_append (notMem_written (by decide)) (notMem_written (by decide)))
      (notMem_written (by decide))
  have blank : '7' ∉ " ".toList := notMem_written (by decide)
  refine lacks_of_notMem '7' localDns_mem.2.1 ?_
  rw [opened, String.intercalate_cons_cons, String.intercalate_cons_cons,
    String.intercalate_singleton]
  exact notMem_append (notMem_append inLimit blank)
    (notMem_append (notMem_append inLog blank) (notMem_written (by decide)))

theorem heading_lacks
    {hook : String}
    (inHook : '7' ∉ hook.toList)
    (policy : Shroud.Verdict) :
    LacksLocalDns (hookLine style.priorityText hook policy) := by
  have inPriority : '7' ∉ style.priorityText.toList := by
    rw [NftStyle.priorityText]
    split
    · exact notMem_written (by decide)
    · exact notMem_written (by decide)
  have inPolicy : '7' ∉ (NftText.verdictText policy).toList := by
    cases policy with
    | accept => exact notMem_written (by decide)
    | drop => exact notMem_written (by decide)
  refine lacks_of_notMem '7' localDns_mem.2.1 ?_
  unfold hookLine
  refine notMem_append (notMem_append (notMem_append (notMem_append
    (notMem_append (notMem_append ?_ inHook) ?_) inPriority) ?_) inPolicy) ?_
  all_goals exact notMem_written (by decide)

/-- No rule of the table has the text of the local DNS rule. -/
theorem outputRules_lack
    (localhost : settings.dnsMode = .localhost)
    (member : rule ∈ outputRules settings servers lanSubnets) :
    LacksLocalDns (listedNftRule style rule) := by
  have noDoh : dohRules settings = [] := by
    simp [dohRules, localhost, DnsMode.isTunnelOrStrict]
  have fixed :
      ∀ ipv6Mode,
        ∀ rule ∈
            [nftRule [.oifname lo] .accept, nftRule [.ctTracked] .accept] ++
              ipv6Rules ipv6Mode ++ dhcpRules ++
              dnsRules .localhost ipv6Mode ++ tunnelRules,
          rule ∈ localhostRules := by
    intro ipv6Mode
    cases ipv6Mode <;> decide
  have known := fixed settings.ipv6Mode rule
  simp only [outputRules, localhost, noDoh, List.mem_append] at member known
  rcases member with
    ((((((((inFirst | inIpv6) | inDhcp) | inDns) | inDoh) | inLan) |
      inTunnels) | inServers) | inExplicit) | last
  · exact localhostRules_lack (known (.inl (.inl (.inl (.inl inFirst)))))
  · exact localhostRules_lack (known (.inl (.inl (.inl (.inr inIpv6)))))
  · exact localhostRules_lack (known (.inl (.inl (.inr inDhcp))))
  · exact localhostRules_lack (known (.inl (.inr inDns)))
  · exact absurd inDoh List.not_mem_nil
  · obtain ⟨net, -, rfl⟩ := List.mem_map.mp inLan
    exact address_lacks (.inl ⟨net, rfl⟩)
  · exact localhostRules_lack (known (.inr inTunnels))
  · obtain ⟨ip, -, built⟩ := List.mem_filterMap.mp inServers
    cases ip with
    | v4 addr =>
      obtain ⟨-, same⟩ := Option.ite_none_right_eq_some.mp built
      rw [← Option.some.inj same]
      exact address_lacks (.inl ⟨_, rfl⟩)
    | v6 addr =>
      obtain ⟨-, same⟩ := Option.ite_none_right_eq_some.mp built
      rw [← Option.some.inj same]
      exact address_lacks (.inr ⟨_, rfl⟩)
  · unfold explicitServerRules at inExplicit
    split at inExplicit
    · exact absurd inExplicit List.not_mem_nil
    · rw [List.mem_singleton.mp inExplicit]
      exact address_lacks (.inl ⟨_, rfl⟩)
    · split at inExplicit
      · rw [List.mem_singleton.mp inExplicit]
        exact address_lacks (.inr ⟨_, rfl⟩)
      · exact absurd inExplicit List.not_mem_nil
  · rw [List.mem_singleton.mp last]
    exact limit_lacks

theorem nftChainLines_lack
    {name : String}
    (inName : '7' ∉ name.toList)
    {rules : List String}
    (lack : AllLackLocalDns rules) :
    AllLackLocalDns (nftChainLines style name policy rules) := by
  have seven := localDns_mem.2.1
  intro line member
  rw [mem_nftChainLines] at member
  rcases member with rfl | rfl | ⟨text, inRules, rfl⟩ | rfl
  · refine lacks_of_notMem '7' seven ?_
    exact notMem_append (notMem_append (notMem_written (by decide)) inName)
      (notMem_written (by decide))
  · exact heading_lacks inName policy
  · exact (lack text inRules).indented
  · exact lacks_of_notMem '7' seven (notMem_written (by decide))

theorem builtTable_localDns (localhost : settings.dnsMode = .localhost) :
    mentions (listing (builtTable style settings servers lanSubnets)) localDns = false := by
  have seven := localDns_mem.2.1
  refine contains_listing_eq_false localDns_notMem.2 localDns_ne_nil ?_
  intro line member
  rw [mem_builtTable] at member
  rcases member with rfl | inOutput | rfl | inInput | rfl
  · exact lacks_of_notMem '7' seven (notMem_written (by decide))
  · refine nftChainLines_lack (notMem_written (by decide)) ?_ line inOutput
    intro text inRules
    obtain ⟨rule, listed, rfl⟩ := List.mem_map.mp inRules
    exact outputRules_lack localhost listed
  · exact lacks_of_notMem '7' seven (notMem_written (by decide))
  · exact nftChainLines_lack (notMem_written (by decide)) .nil line inInput
  · exact lacks_of_notMem '7' seven (notMem_written (by decide))

section

variable
  {snap : NftSnapshot}
  (shown : ShowsLines snap.tableOutput (builtTable style settings servers lanSubnets))
  (notAny : settings.dnsMode ≠ .any)
  (notLocalhost : settings.dnsMode ≠ .localhost)

include shown notAny notLocalhost

theorem builtTable_dns (verbose : Bool) :
    (checkDnsModeMatchNft snap settings.dnsMode verbose).verdict = .pass := by
  have tunnelled : settings.dnsMode = .tunnel ∨ settings.dnsMode = .strict := by
    cases mode : settings.dnsMode <;> simp_all
  rw [checkDnsModeMatchNft_pass]
  refine .inl ⟨tunnelled, .inl (mentions_checked shown 8 rfl rfl ?_)⟩
  rcases tunnelled with mode | mode
  · simp [outputRules, mode, dnsRules]
  · simp [outputRules, mode, dnsRules]

/-- The checks of the table, one by one. -/
theorem builtTable_passes
    (notOff : settings.ipv6Mode ≠ .off)
    (verbose : Bool) :
    ∀ check ∈ nftChecks snap settings verbose, check.verdict = .pass := by
  intro check member
  simp only [nftChecks, List.mem_cons, List.not_mem_nil, or_false] at member
  rcases member with
    same | same | same | same | same | same | same | same | same
  all_goals rw [same]
  · exact builtTable_exists shown verbose
  · exact builtTable_hooks shown verbose
  · exact builtTable_drops shown verbose
  · exact builtTable_loopback shown verbose
  · exact builtTable_interfaces shown verbose
  · exact builtTable_dhcp shown verbose
  · exact builtTable_protects shown verbose notOff
  · exact builtTable_dns shown notAny notLocalhost verbose
  · rfl

end

theorem builtTable_passes_iff
    (notAny : settings.dnsMode ≠ .any)
    (notOff : settings.ipv6Mode ≠ .off)
    (verbose : Bool) :
    (∀ check ∈
        nftChecks ⟨listing (builtTable style settings servers lanSubnets)⟩ settings verbose,
        check.verdict = .pass) ↔
      settings.dnsMode ≠ .localhost := by
  constructor
  · intro passes localhost
    have dns := passes _ (List.mem_of_getElem? (i := 7) rfl)
    rw [checkDnsModeMatchNft_pass] at dns
    rcases dns with ⟨tunnelled, -⟩ | ⟨-, found⟩
    · rw [localhost] at tunnelled
      exact absurd tunnelled (by decide)
    · have lacking := @builtTable_localDns settings servers lanSubnets style localhost
      exact Bool.noConfusion (found.symm.trans lacking)
  · intro notLocalhost
    exact builtTable_passes ⟨_, rfl, List.Subset.refl _⟩ notAny notLocalhost notOff verbose

end Nftables

/--
A backend's rule set was installed completely on an empty firewall, and the
host shows the rules as the tools list them.
-/
def ShowsBuilt
    (env : VerifyEnv)
    (style : NftStyle)
    (settings : KillSwitchSettings)
    (servers : List IpAddr)
    (lanSubnets : List Cidr4)
    (lanSubnets6 : List Cidr6) :
    Backend → Prop
  | .iptables =>
    ∃ tables,
      install (buildCompleteScript settings servers lanSubnets lanSubnets6)
          (fun _ => Table.empty) = some tables ∧
        ShowsIptables env (snapshotOf tables) (jumpPresent tables)
  | .nftables =>
    ShowsNft env (listing (builtTable style settings servers lanSubnets))

/-- A host that shows a given nft table. -/
def showingEnv (text : List Char) : VerifyEnv where
  answer _ probe :=
    match probe with
    | .showKillSwitchChain => .exited false [] []
    | _ => .exited true text []
  path tool := tool.name
  scan := ⟨[], []⟩
  status := .status true
  timestamp := ""

theorem showingEnv_shows (text : List Char) :
    ShowsNft (showingEnv text) text where
  noChain _ := rfl
  table _ := ⟨[], rfl⟩
  access _ := rfl

theorem iptables_passes
    {env : VerifyEnv}
    {settings : KillSwitchSettings}
    {servers : List IpAddr}
    {lanSubnets : List Cidr4}
    {lanSubnets6 : List Cidr6}
    (notAny : settings.dnsMode ≠ .any)
    (notOff : settings.ipv6Mode ≠ .off)
    {tables : Tables}
    (complete :
      install (buildCompleteScript settings servers lanSubnets lanSubnets6)
        (fun _ => Table.empty) = some tables)
    (shows : ShowsIptables env (snapshotOf tables) (jumpPresent tables))
    (verbose : Bool) :
    FirewallPasses ((runVerification env settings verbose).run []).1 := by
  -- In the localhost mode the script does not run to its end.
  have notLocalhost : settings.dnsMode ≠ .localhost := by
    intro localhost
    rw [buildCompleteScript, install_append,
      install_localhost localhost servers lanSubnets rfl,
      Option.bind_none] at complete
    exact (Option.some_ne_none _ complete.symm).elim
  rw [install_buildCompleteScript notLocalhost servers lanSubnets lanSubnets6 rfl] at complete
  rw [runVerification_iptables shows, firewallPasses_report]
  exact installed_passes verbose notAny notOff (Option.some.inj complete).symm

/--
A completely installed rule set passes all firewall checks, unless it is the
nftables rule set for local DNS.
-/
theorem verifier_accepts_built_iff
    (backend : Backend)
    (style : NftStyle)
    (settings : KillSwitchSettings)
    (notAny : settings.dnsMode ≠ .any)
    (notOff : settings.ipv6Mode ≠ .off)
    (servers : List IpAddr)
    (lanSubnets : List Cidr4)
    (lanSubnets6 : List Cidr6)
    (verbose : Bool) :
    (∀ env,
        ShowsBuilt env style settings servers lanSubnets lanSubnets6
            backend →
          FirewallPasses ((runVerification env settings verbose).run []).1) ↔
      ¬(backend = .nftables ∧ settings.dnsMode = .localhost) := by
  cases backend with
  | iptables =>
    refine iff_of_true ?_ fun both => absurd both.1 nofun
    rintro env ⟨tables, complete, shows⟩
    exact iptables_passes notAny notOff complete shows verbose
  | nftables =>
    have passes_iff :=
      @builtTable_passes_iff settings servers lanSubnets style notAny notOff verbose
    constructor
    · rintro passes ⟨-, localhost⟩
      have passed := passes (showingEnv _) (showingEnv_shows _)
      rw [runVerification_nft (showingEnv_shows _), firewallPasses_report, passes_iff] at passed
      exact passed localhost
    · intro notLocal env shows
      rw [runVerification_nft shows, firewallPasses_report, passes_iff]
      exact fun localhost => notLocal ⟨rfl, localhost⟩

theorem verifier_accepts_built_tunnel :
    FirewallPasses
      ((runVerification
        (showingEnv (listing (builtTable ⟨true, true⟩ ⟨none, .tunnel, true, [], .block⟩ [] [])))
        ⟨none, .tunnel, true, [], .block⟩ false).run []).1 :=
  (verifier_accepts_built_iff .nftables ⟨true, true⟩
    ⟨none, .tunnel, true, [], .block⟩ (by decide) (by decide) [] [] []
    false).mpr (by decide) _ (showingEnv_shows _)

/-- With nftables and local DNS, a complete rule set gets a warning. -/
theorem local_dns_warns :
    (checkDnsModeMatchNft
      ⟨listing (builtTable ⟨true, true⟩ ⟨none, .localhost, true, [], .block⟩ [] [])⟩
      .localhost false).verdict = .warn := by
  have lacking := @builtTable_localDns ⟨none, .localhost, true, [], .block⟩ [] [] ⟨true, true⟩ rfl
  rw [localDns] at lacking
  rw [checkDnsModeMatchNft]
  simp only [lacking]
  rfl

end Shroud.Verify
