import Shroud.VerifyAccepts

namespace Shroud.Verify

open Netfilter FirstMatch KillSwitchRules RuleListing IptablesScript

/-!
# What a passing verification says about packets

The checks look for single lines of a listing, in any order and with anything
around them.  A packet meets the rules one after the other.  This module reads
arbitrary listed rules: what the rules of others mean is left open, up to the
endings with which a rule can only refuse.  A verification that passes then
means that nothing gets out, if in front of the drop that it has found there
are only Shroud's own rules and rules that refuse.
-/

/-- What a rule does with a packet: decide it, or leave the chain. -/
inductive Ruling where
  | accept
  | drop
  | leave
  deriving Repr, DecidableEq

/-- The endings of listed rules whose target drops or rejects. -/
def refusalEndings : List String :=
  [ "-j DROP",
    "-j REJECT --reject-with icmp-port-unreachable",
    "-j REJECT --reject-with tcp-reset",
    "drop",
    "reject" ]

/-- The rule has a target that only refuses. -/
def refuses (text : String) : Bool :=
  refusalEndings.any fun ending =>
    text == ending || (" " ++ ending).toList.isSuffixOf text.toList

/-- The rules of a builder, as they are listed, and what they do with a packet. -/
abbrev OwnRules := List (String × (Packet → Option Shroud.Verdict))

/--
A meaning of listed rules: a rule of Shroud lets nothing out that it does not
accept, and a rule whose target refuses lets nothing out.  The other rules may
mean anything.
-/
structure Reading (own : OwnRules) where
  ruling : String → Packet → Option Ruling
  dropsAll : ∀ packet, ruling "-j DROP" packet = some .drop
  owned :
    ∀ rule ∈ own, ∀ packet, rule.2 packet ≠ some .accept →
      ruling rule.1 packet = none ∨ ruling rule.1 packet = some .drop
  refused :
    ∀ text, refuses text = true →
      ∀ packet, ruling text packet = none ∨ ruling text packet = some .drop

/-- An accept rule of the builder's own rule set matches the packet. -/
def OwnRules.accept (own : OwnRules) (packet : Packet) : Bool :=
  own.any fun rule => rule.2 packet == some .accept

/-- A rule is one of Shroud's own, or can only refuse. -/
def Harmless (own : OwnRules) (text : String) : Prop :=
  text ∈ own.map (·.1) ∨ refuses text = true

/-- No harmless rule lets out what Shroud's own rules do not accept. -/
theorem Harmless.ruling
    {own : OwnRules}
    {text : String}
    {packet : Packet}
    (harmless : Harmless own text)
    (reading : Reading own)
    (unaccepted : own.accept packet = false) :
    reading.ruling text packet = none ∨ reading.ruling text packet = some .drop := by
  rcases harmless with isOwn | isRefusal
  · obtain ⟨rule, member, rfl⟩ := List.mem_map.mp isOwn
    have passed := List.any_eq_false.mp unaccepted rule member
    exact reading.owned rule member packet fun accepts => passed (by simp [accepts])
  · exact reading.refused text isRefusal packet

/-- Nor does a list of them. -/
theorem firstRuling_harmless
    {own : OwnRules}
    {texts : List String}
    {packet : Packet}
    (harmless : ∀ text ∈ texts, Harmless own text)
    (reading : Reading own)
    (unaccepted : own.accept packet = false) :
    firstRuling reading.ruling texts packet = none ∨
      firstRuling reading.ruling texts packet = some .drop :=
  firstRuling_none_or fun text member => (harmless text member).ruling reading unaccepted

/-- The verdict of a base chain: what no rule decides is left to the policy. -/
def decided (policy : Shroud.Verdict) : Option Ruling → Shroud.Verdict
  | some .accept => .accept
  | some .drop => .drop
  | some .leave => policy
  | none => policy

/-- What a user chain means to the chain that jumps to it. -/
def inCaller : Option Ruling → Option Ruling
  | some .leave => none
  | ruled => ruled

def jumpText : String := "-j SHROUD_KILLSWITCH"

def dropText : String := "-j DROP"

/-- Live rules of the filter tables, by their texts behind `-A chain`. -/
structure LiveIptables where
  chain : List String
  policy : Shroud.Verdict
  output : List String
  policy6 : Shroud.Verdict
  output6 : List String

namespace LiveIptables

variable (rules : LiveIptables) {own : OwnRules} (reading : Reading own) (packet : Packet)

/-- What `fetch_iptables_snapshot` sees of them. -/
def snapshot : IptablesSnapshot where
  ksChain := listing (chainListing chainName rules.chain)
  outputChain := listing (outputListing rules.policy rules.output)
  ip6Output := listing (outputListing rules.policy6 rules.output6)

/-- The answer to `-C OUTPUT -j SHROUD_KILLSWITCH`. -/
def jumps : Bool :=
  decide (jumpText ∈ rules.output)

/-- The ruling of a rule of `OUTPUT`. -/
def ruling (text : String) (packet : Packet) : Option Ruling :=
  if text = jumpText then
    inCaller (firstRuling reading.ruling rules.chain packet)
  else
    reading.ruling text packet

/-- The verdict of `OUTPUT`. -/
def verdict : Shroud.Verdict :=
  decided rules.policy (firstRuling (rules.ruling reading) rules.output packet)

/-- The rules of the chain in front of its unconditional drop. -/
def front : List String :=
  rules.chain.takeWhile (· ≠ dropText)

/-- The jump comes first, and the chain drops what is left. -/
structure Guarded : Prop where
  jumpFirst : rules.output.head? = some jumpText
  drops : dropText ∈ rules.chain

variable (own)

/--
In front of the drop there are only harmless rules, and the lines in which the
checks find the jump and the drop are these rules, not others that spell them
out, in a comment or at the start of a longer name.
-/
structure Plain : Prop where
  harmless : ∀ text ∈ rules.front, Harmless own text
  chainSingle : SingleLines (rules.chain.map (ruleLine chainName))
  outputSingle : SingleLines (rules.output.map (ruleLine "OUTPUT"))
  drops :
    ∀ text ∈ rules.chain,
      mentions (ruleLine chainName text).toList
          ("-A " ++ chainName ++ " -j DROP") = true →
        text = dropText
  jumps :
    ∀ text ∈ rules.output.head?,
      mentions (ruleLine "OUTPUT" text).toList
          ("-A OUTPUT -j " ++ chainName) = true →
        text = jumpText

variable {rules own reading packet}

/-- With both in place and harmless rules in front, nothing else gets out. -/
theorem Guarded.verdict_eq_drop
    (guarded : rules.Guarded)
    (plain : rules.Plain own)
    (unaccepted : own.accept packet = false) :
    rules.verdict reading packet = .drop := by
  have output : rules.output = jumpText :: rules.output.tail :=
    (List.cons_head?_tail guarded.jumpFirst).symm
  have chain : firstRuling reading.ruling rules.chain packet = some .drop := by
    rw [firstRuling_takeWhile (reading.dropsAll packet) guarded.drops]
    change (firstRuling reading.ruling rules.front packet).or (some .drop) = some .drop
    rcases firstRuling_harmless plain.harmless reading unaccepted with none | drop
    · rw [none]
      rfl
    · rw [drop]
      rfl
  rw [verdict, output, firstRuling_cons, ruling, if_pos rfl, chain]
  rfl

variable {settings : KillSwitchSettings} {verbose : Bool}

theorem Plain.jumpFirst
    (plain : rules.Plain own)
    (clean : (checkNoRogueRulesIptables rules.snapshot verbose).verdict = .pass) :
    rules.output.head? = some jumpText := by
  rw [checkNoRogueRulesIptables_pass] at clean
  obtain ⟨line, first, found⟩ := clean
  rw [snapshot, firstOutputRule?_policy] at first
  cases output : rules.output with
  | nil =>
    rw [output] at first
    exact absurd first nofun
  | cons text others =>
    have single := plain.outputSingle (ruleLine "OUTPUT" text) (by simp [output])
    rw [output, firstOutputRule?_rule single] at first
    rw [← Option.some.inj first] at found
    have same := plain.jumps text (by simp [output]) found
    rw [same]
    rfl

theorem Plain.drop_mem
    (plain : rules.Plain own)
    (drops : (checkDefaultDropIptables rules.snapshot verbose).verdict = .pass) :
    dropText ∈ rules.chain := by
  have heading : "-N " ++ chainName = "-N SHROUD_KILLSWITCH" := by decide
  have lines :
      Text.lines rules.snapshot.ksChain =
        (chainListing chainName rules.chain).map String.toList := by
    refine Text.lines_unlines ?_
    intro chars member
    refine And.imp_right Text.getLast?_ne_of_notMem ?_
    obtain ⟨line, listed, rfl⟩ := List.mem_map.mp member
    rcases List.mem_cons.mp listed with rfl | inRules
    · rw [heading]
      exact SingleLines.cons (by decide) .nil _ List.mem_cons_self
    · exact plain.chainSingle line inRules
  rw [checkDefaultDropIptables_pass, anyLine, lines, List.any_map, List.any_eq_true] at drops
  obtain ⟨line, listed, found⟩ := drops
  rcases List.mem_cons.mp listed with rfl | inRules
  · exact absurd found (by decide)
  · obtain ⟨text, member, rfl⟩ := List.mem_map.mp inRules
    rw [← plain.drops text member found]
    exact member

theorem Plain.guarded
    (plain : rules.Plain own)
    (passes :
      ∀ check ∈ iptablesChecks rules.snapshot rules.jumps settings verbose, check.verdict = .pass) :
    rules.Guarded where
  jumpFirst := plain.jumpFirst (passes _ (List.mem_of_getElem? (i := 8) rfl))
  drops := plain.drop_mem (passes _ (List.mem_of_getElem? (i := 2) rfl))

end LiveIptables

/-- The heading of a live base chain. -/
structure LiveBase where
  kind : String
  hook : String
  priority : String
  policy : Shroud.Verdict

/-- A live chain; one without a heading is only entered from others. -/
structure LiveChain where
  name : String
  base : Option LiveBase
  rules : List String

/-- A live table: sets and other objects, by their lines, and chains. -/
structure LiveTable where
  objects : List String
  chains : List LiveChain

def LiveBase.line (base : LiveBase) : String :=
  "\t\ttype " ++ base.kind ++ " hook " ++ base.hook ++ " priority " ++
    base.priority ++ "; policy " ++ NftText.verdictText base.policy ++ ";"

def LiveChain.lines (chain : LiveChain) : List String :=
  ["\tchain " ++ chain.name ++ " \x7b"] ++
  (chain.base.map LiveBase.line).toList ++
  chain.rules.map ("\t\t" ++ ·) ++
  ["\t\x7d"]

namespace LiveTable

variable (table : LiveTable) {own : OwnRules} (reading : Reading own) (packet : Packet)

/-- `nft list table inet shroud_killswitch`. -/
def lines : List String :=
  ["table inet shroud_killswitch \x7b"] ++
  table.objects ++
  [""].intercalate (table.chains.map LiveChain.lines) ++
  ["\x7d"]

/-- Policies and rules of the chains that outgoing packets meet. -/
def outputChains : List (Shroud.Verdict × List String) :=
  table.chains.filterMap fun chain =>
    chain.base.bind fun base =>
      if base.hook = "output" then some (base.policy, chain.rules) else none

/-- Every chain at the hook has to accept a packet. -/
def verdict : Shroud.Verdict :=
  if table.outputChains.any fun chain =>
      decided chain.1 (firstRuling reading.ruling chain.2 packet) == .drop
  then .drop
  else .accept

/-- A chain at the hook drops what no rule of it decides. -/
def Guarded : Prop :=
  ∃ rules, (.drop, rules) ∈ table.outputChains

variable (own)

/--
The text `policy drop` stands only in the headings of chains at the hook, and
these have only harmless rules.
-/
structure Plain : Prop where
  headings :
    ∀ line ∈ table.lines, mentions line.toList "policy drop" = true →
      ∃ chain ∈ table.chains, ∃ base ∈ chain.base,
        line = base.line ∧ base.hook = "output" ∧ base.policy = .drop
  harmless :
    ∀ rules, (.drop, rules) ∈ table.outputChains → ∀ text ∈ rules, Harmless own text

variable {table own reading packet}

theorem mem_outputChains
    {chain : LiveChain}
    {base : LiveBase}
    (member : chain ∈ table.chains)
    (isBase : base ∈ chain.base)
    (atHook : base.hook = "output") :
    (base.policy, chain.rules) ∈ table.outputChains := by
  refine List.mem_filterMap.mpr ⟨chain, member, ?_⟩
  rw [Option.mem_def.mp isBase, Option.bind_some, if_pos atHook]

/-- The check of the policy has found a chain at the hook. -/
theorem Plain.guarded
    (plain : table.Plain own)
    {verbose : Bool}
    (drops : (checkDefaultDropNft ⟨listing table.lines⟩ verbose).verdict = .pass) :
    table.Guarded := by
  rw [checkDefaultDropNft_pass, mentions, Text.contains_iff_infix] at drops
  obtain ⟨chars, listed, found⟩ :=
    Text.infix_of_infix_unlines (by decide) (by decide) drops
  obtain ⟨line, member, rfl⟩ := List.mem_map.mp listed
  obtain ⟨chain, isChain, base, isBase, -, atHook, policy⟩ :=
    plain.headings line member (Text.contains_iff_infix.mpr found)
  refine ⟨chain.rules, ?_⟩
  rw [← policy]
  exact mem_outputChains isChain isBase atHook

theorem Guarded.verdict_eq_drop
    (guarded : table.Guarded)
    (plain : table.Plain own)
    (unaccepted : own.accept packet = false) :
    table.verdict reading packet = .drop := by
  obtain ⟨rules, atHook⟩ := guarded
  refine if_pos (List.any_eq_true.mpr ⟨_, atHook, ?_⟩)
  rcases firstRuling_harmless (plain.harmless rules atHook) reading unaccepted with none | drop
  · rw [none]
    rfl
  · rw [drop]
    rfl

end LiveTable

/-- The live rules that a verification looks at, with the style of the `nft`. -/
inductive LiveFirewall where
  | iptables (rules : LiveIptables)
  | nftables (style : NftStyle) (table : LiveTable)

namespace LiveFirewall

/-- What happens to an outgoing packet. -/
def verdict {own : OwnRules} (reading : Reading own) (packet : Packet) :
    LiveFirewall → Shroud.Verdict
  | .iptables rules => rules.verdict reading packet
  | .nftables _ table => table.verdict reading packet

/-- Only harmless rules stand in front of the drop, and the checks find no other texts. -/
def Plain (own : OwnRules) : LiveFirewall → Prop
  | .iptables rules => rules.Plain own
  | .nftables _ table => table.Plain own

/-- The rules of the builder for a configuration, as the tool lists them. -/
def ownRules
    (settings : KillSwitchSettings)
    (servers : List IpAddr)
    (lanSubnets : List Cidr4) :
    LiveFirewall → OwnRules
  | .iptables _ =>
    (chainRules settings servers lanSubnets).map fun rule =>
      (listedRule rule, rule.ruling .quiet)
  | .nftables style _ =>
    (NftRuleset.outputRules settings servers lanSubnets).map fun rule =>
      (listedNftRule style rule, rule.ruling .quiet)

/-- A host with these rules. -/
def host : LiveFirewall → VerifyEnv
  | .iptables rules =>
    { showingEnv [] with
      answer := fun _ probe =>
        match probe with
        | .showKillSwitchChain => .exited true rules.snapshot.ksChain []
        | .showOutput => .exited true rules.snapshot.outputChain []
        | .showOutput6 => .exited true rules.snapshot.ip6Output []
        | .checkJump => .exited rules.jumps [] []
        | _ => .exited true [] [] }
  | .nftables _ table => showingEnv (listing table.lines)

end LiveFirewall

section InFront

/-- A configuration with a short rule set. -/
def briefSettings : KillSwitchSettings where
  vpnServerIp := none
  dnsMode := .tunnel
  blockDoh := false
  customDohBlocklist := []
  ipv6Mode := .block

/-- Its rules, with others in front of the chain. -/
def behindRules (others : List String) : LiveIptables where
  chain := others ++ (chainRules briefSettings [] []).map listedRule
  policy := .accept
  output := [jumpText]
  policy6 := .accept
  output6 := (ipv6FrontRules .block []).map listedRule

/-- A filter chain that is named after its hook. -/
def filterChain
    (style : NftStyle)
    (name : String)
    (policy : Shroud.Verdict)
    (rules : List String) :
    LiveChain where
  name := name
  base := some ⟨"filter", name, style.priorityText, policy⟩
  rules := rules

/-- Its table, with other rules in front of the output chain. -/
def behindTable (style : NftStyle) (others : List String) : LiveTable where
  objects := []
  chains :=
    [ filterChain style "output" .drop
        (others ++ (NftRuleset.outputRules briefSettings [] []).map (listedNftRule style)),
      filterChain style "input" .accept [] ]

/-- Both firewalls with other rules in front. -/
def behindBoth (others : List String) : List LiveFirewall :=
  [ .iptables (behindRules others),
    .nftables ⟨true, true⟩ (behindTable ⟨true, true⟩ others) ]

/-- A meaning of rules in which no rule accepts but one without conditions. -/
def plainReading
    (own : OwnRules)
    (conditional : ∀ rule ∈ own, rule.1 ≠ "-j ACCEPT" ∧ rule.1 ≠ "accept") :
    Reading own where
  ruling text _ :=
    if text = "-j DROP" then some .drop
    else if text = "-j ACCEPT" ∨ text = "accept" then some .accept
    else none
  dropsAll _ := rfl
  owned rule member _ _ := by
    have other := not_or.mpr (conditional rule member)
    rw [if_neg other]
    split
    · exact .inr rfl
    · exact .inl rfl
  refused text isRefusal _ := by
    have other : ¬(text = "-j ACCEPT" ∨ text = "accept") := by
      rintro (rfl | rfl)
      · exact absurd isRefusal (by decide)
      · exact absurd isRefusal (by decide)
    rw [if_neg other]
    split
    · exact .inr rfl
    · exact .inl rfl

/-- A new connection to a web server, through the physical interface. -/
def webPacket : Packet where
  addresses := .v4 (.ofOctets 192 168 1 2) (.ofOctets 93 184 216 34)
  transport := .tcp 50000 443
  outInterface := "eth0"
  ctState := .new

theorem ownRules_conditional
    {firewall : LiveFirewall}
    {others : List String}
    (behind : firewall ∈ behindBoth others) :
    ∀ rule ∈ firewall.ownRules briefSettings [] [],
      rule.1 ≠ "-j ACCEPT" ∧ rule.1 ≠ "accept" := by
  rcases List.mem_pair.mp behind with rfl | rfl
  · have texts :
        ∀ rule ∈ chainRules briefSettings [] [],
          listedRule rule ≠ "-j ACCEPT" ∧ listedRule rule ≠ "accept" := by
      decide
    exact List.forall_mem_map.mpr texts
  · have texts :
        ∀ rule ∈ NftRuleset.outputRules briefSettings [] [],
          listedNftRule ⟨true, true⟩ rule ≠ "-j ACCEPT" ∧
            listedNftRule ⟨true, true⟩ rule ≠ "accept" := by
      decide
    exact List.forall_mem_map.mpr texts

/-- What happens to the packet behind other rules. -/
def verdictBehind
    {others : List String}
    (firewall : LiveFirewall)
    (behind : firewall ∈ behindBoth others) :
    Shroud.Verdict :=
  firewall.verdict (plainReading _ (ownRules_conditional behind)) webPacket

/-- A firewall that passes and lets out a new packet that it has to drop. -/
structure Leaks
    {others : List String}
    (firewall : LiveFirewall)
    (behind : firewall ∈ behindBoth others) :
    Prop where
  passes : FirewallPasses ((runVerification firewall.host briefSettings false).run []).1
  new : webPacket.ctState = .new
  ipv4 : webPacket.isIpv4 = true
  notLoopback : webPacket.leavesThrough lo = false
  notTunnel : webPacket.leavesThroughTunnel = false
  unaccepted : (firewall.ownRules briefSettings [] []).accept webPacket = false
  accepts : verdictBehind firewall behind = .accept

end InFront

end Shroud.Verify
