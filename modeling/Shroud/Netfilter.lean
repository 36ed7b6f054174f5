import Shroud.FirstMatch
import Shroud.Packet

namespace Shroud.Netfilter

open FirstMatch

/-!
# Firewall state and its two rule languages

The kill switch drives three tools.  `iptables` and `ip6tables` edit one rule
of one chain at a time; `nft` replaces or deletes a whole table.  This module
gives both rule languages a first-match meaning and every command its effect
on the firewall.

Only the chains and the table that Shroud names are kept apart.  A rule that
somebody else put into `OUTPUT` is an opaque text whose meaning is supplied by
`Surroundings`, so every statement about prior rules holds for all of them.
-/

/-- The two xtables front ends. -/
inductive Tool where
  | iptables
  | ip6tables
  deriving Repr, DecidableEq

/-- Each front end exists in its default and in its legacy variant. -/
inductive Variant where
  | default
  | legacy
  deriving Repr, DecidableEq

/-- The user chains that Shroud owns. -/
inductive Chain where
  | killSwitch
  | boot
  deriving Repr, DecidableEq

/-- The chains that commands refer to. -/
inductive ChainRef where
  | output
  | user (chain : Chain)
  deriving Repr, DecidableEq

/-- Transport protocols selected by `-p`. -/
inductive L4 where
  | udp
  | tcp
  deriving Repr, DecidableEq

inductive XMatch where
  /-- `-o` -/
  | out (pattern : IfacePattern)
  /-- `-m conntrack --ctstate ESTABLISHED,RELATED` -/
  | ctTracked
  /-- `-m state --state ESTABLISHED,RELATED` -/
  | stateTracked
  /-- `-p` -/
  | proto (protocol : L4)
  /-- `--dport` -/
  | dport (port : UInt16)
  /-- `--dport first:last` -/
  | dportRange (first last : UInt16)
  /-- `--sport` -/
  | sport (port : UInt16)
  /-- `-d` -/
  | dst (net : IpNet)
  /-- `-m limit --limit 1/sec` -/
  | limit
  deriving Repr, DecidableEq

inductive XTarget where
  | accept
  | drop
  | log (logPrefix : String) (level : Nat)
  | jump (chain : Chain)
  deriving Repr, DecidableEq

/-- One xtables rule: written by Shroud, or found in place. -/
inductive XRule where
  | rule (tests : List XMatch) (target : XTarget)
  /-- A rule that these tests and targets cannot express. -/
  | foreign (text : String)
  deriving Repr, DecidableEq

/--
What decides a packet besides the rules Shroud writes: the meaning of foreign
rules, and whether a rate limit currently lets packets match.
-/
structure Surroundings where
  foreign : String → Packet → Option Verdict
  limitOpen : Bool

/-- Surroundings without foreign rules and with an exhausted rate limit. -/
def Surroundings.quiet : Surroundings where
  foreign := fun _ _ => none
  limitOpen := false

namespace XMatch

/-- Whether one match option holds of a packet. -/
def holds (limitOpen : Bool) (packet : Packet) : XMatch → Bool
  | .out pattern => packet.leavesThrough pattern
  | .ctTracked => packet.isTracked
  | .stateTracked => packet.isTracked
  | .proto .udp =>
    match packet.transport with
    | .udp _ _ => true
    | _ => false
  | .proto .tcp =>
    match packet.transport with
    | .tcp _ _ => true
    | _ => false
  | .dport port => packet.isUdpTo port || packet.isTcpTo port
  | .dportRange first last =>
    match packet.transport with
    | .udp _ destPort => decide (first ≤ destPort ∧ destPort ≤ last)
    | .tcp _ destPort => decide (first ≤ destPort ∧ destPort ≤ last)
    | .other _ => false
  | .sport port =>
    match packet.transport with
    | .udp sourcePort _ => sourcePort == port
    | .tcp sourcePort _ => sourcePort == port
    | .other _ => false
  | .dst (.v4 net) => packet.goesTo4 net
  | .dst (.v6 net) => packet.goesTo6 net
  | .limit => limitOpen

variable (limitOpen : Bool)

section

variable (packet : Packet) (port : UInt16)

theorem udp_and_dport :
    (holds limitOpen packet (.proto .udp) &&
        holds limitOpen packet (.dport port)) =
      packet.isUdpTo port := by
  unfold holds Packet.isUdpTo Packet.isTcpTo
  cases packet.transport <;> simp

theorem tcp_and_dport :
    (holds limitOpen packet (.proto .tcp) &&
        holds limitOpen packet (.dport port)) =
      packet.isTcpTo port := by
  unfold holds Packet.isUdpTo Packet.isTcpTo
  cases packet.transport <;> simp

theorem udp_and_sport :
    (holds limitOpen packet (.proto .udp) &&
        holds limitOpen packet (.sport port)) =
      packet.isUdpFrom port := by
  unfold holds Packet.isUdpFrom
  cases packet.transport <;> simp

end

end XMatch

namespace XRule

/--
The ruling of one rule inside a user chain.  `LOG` observes only; Shroud's
chains hold no further jumps.
-/
def ruling
    (around : Surroundings) :
    XRule → Packet → Option Verdict
  | .rule tests target, packet =>
    if tests.all (XMatch.holds around.limitOpen packet) then
      match target with
      | .accept => some .accept
      | .drop => some .drop
      | .log _ _ => none
      | .jump _ => none
    else
      none
  | .foreign text, packet => around.foreign text packet

section

variable (around : Surroundings) (tests : List XMatch)

theorem ruling_accept (packet : Packet) :
    ruling around (.rule tests .accept) packet =
      guarded (tests.all (XMatch.holds around.limitOpen packet)) .accept := by
  simp only [ruling, guarded]

theorem ruling_drop (packet : Packet) :
    ruling around (.rule tests .drop) packet =
      guarded (tests.all (XMatch.holds around.limitOpen packet)) .drop := by
  simp only [ruling, guarded]

@[simp] theorem ruling_log
    (logPrefix : String)
    (level : Nat)
    (packet : Packet) :
    ruling around (.rule tests (.log logPrefix level)) packet = none := by
  simp [ruling]

end

/-- Chains that a rule refers to. -/
def jumpsTo (chain : Chain) : XRule → Bool
  | .rule _ (.jump target) => target == chain
  | _ => false

/-- Whether every address in a rule belongs to the tool's family. -/
def familyOk (tool : Tool) : XRule → Bool
  | .rule tests _ =>
    tests.all fun test =>
      match tool, test with
      | .iptables, .dst (.v6 _) => false
      | .ip6tables, .dst (.v4 _) => false
      | _, _ => true
  | .foreign _ => true

end XRule

/-- The filter table of one xtables front end. -/
structure Table where
  output : List XRule
  user : Chain → Option (List XRule)

namespace Table

def empty : Table where
  output := []
  user := fun _ => none

def rules? (table : Table) : ChainRef → Option (List XRule)
  | .output => some table.output
  | .user chain => table.user chain

/-- Replace the rules of one chain; for a user chain this may create it. -/
def setRules (table : Table) (rules : List XRule) : ChainRef → Table
  | .output => { table with output := rules }
  | .user chain =>
    { table with
      user := Function.update table.user chain (some rules) }

def removeChain (table : Table) (chain : Chain) : Table :=
  { table with user := Function.update table.user chain none }

/-- Whether some rule of `OUTPUT` jumps to a chain. -/
def isReferenced (table : Table) (chain : Chain) : Bool :=
  table.output.any (XRule.jumpsTo chain)

/-- Whether a rule is legal for a tool and a table: addresses of the right
family, and a jump only to a chain that exists. -/
def admits (tool : Tool) (table : Table) (rule : XRule) : Bool :=
  rule.familyOk tool &&
    match rule with
    | .rule _ (.jump chain) => (table.user chain).isSome
    | _ => true

/-- The ruling of one rule of `OUTPUT`, where jumps enter a user chain. -/
def ruling
    (table : Table)
    (around : Surroundings)
    (rule : XRule)
    (packet : Packet) :
    Option Verdict :=
  match rule with
  | .rule tests (.jump chain) =>
    if tests.all (XMatch.holds around.limitOpen packet) then
      firstRuling (XRule.ruling around) ((table.user chain).getD []) packet
    else
      none
  | _ => rule.ruling around packet

/-- The verdict of `OUTPUT`, whose policy is `ACCEPT`. -/
def verdict
    (table : Table)
    (around : Surroundings)
    (packet : Packet) :
    Verdict :=
  (firstRuling (table.ruling around) table.output packet).getD .accept

end Table

inductive XCommand where
  /-- `-N` -/
  | newChain (chain : Chain)
  /-- `-A` -/
  | append (chain : ChainRef) (rule : XRule)
  /-- `-I`, positions counted from 1 -/
  | insert (chain : ChainRef) (position : Nat) (rule : XRule)
  /-- `-D` -/
  | delete (chain : ChainRef) (rule : XRule)
  /-- `-C` -/
  | check (chain : ChainRef) (rule : XRule)
  /-- `-F` -/
  | flush (chain : Chain)
  /-- `-X` -/
  | deleteChain (chain : Chain)
  /-- `-L` of one chain -/
  | list (chain : Chain)
  deriving Repr, DecidableEq

/--
The effect of one xtables command, or nothing when the tool refuses it.

A refused command leaves the table alone: a second `-N`, a rule of the wrong
family, an insertion beyond the end, a deletion of an absent rule, and the
removal of a chain that is still filled or referenced are all refused.
-/
def XCommand.exec (tool : Tool) (table : Table) : XCommand → Option Table
  | .newChain chain =>
    if (table.user chain).isSome then none
    else some (table.setRules [] (.user chain))
  | .append chain rule =>
    if table.admits tool rule then
      (table.rules? chain).map fun rules =>
        table.setRules (rules ++ [rule]) chain
    else
      none
  | .insert chain position rule =>
    if table.admits tool rule then
      (table.rules? chain).bind fun rules =>
        if 1 ≤ position ∧ position ≤ rules.length + 1 then
          some (table.setRules (rules.insertIdx (position - 1) rule) chain)
        else
          none
    else
      none
  | .delete chain rule =>
    (table.rules? chain).bind fun rules =>
      if rule ∈ rules then
        some (table.setRules (rules.erase rule) chain)
      else
        none
  | .check chain rule =>
    (table.rules? chain).bind fun rules =>
      if rule ∈ rules then some table else none
  | .flush chain =>
    (table.user chain).map fun _ => table.setRules [] (.user chain)
  | .deleteChain chain =>
    if table.user chain = some [] ∧ ¬ table.isReferenced chain then
      some (table.removeChain chain)
    else
      none
  | .list chain => (table.user chain).map fun _ => table

/-- What an accepted command does to a table. -/
inductive XCommand.Edit (before : Table) : XCommand → Table → Prop where
  | newChain {chain : Chain} :
      Edit before (.newChain chain) (before.setRules [] (.user chain))
  | append
      {chain : ChainRef}
      {rule : XRule}
      {rules : List XRule}
      (present : before.rules? chain = some rules) :
      Edit before (.append chain rule) (before.setRules (rules ++ [rule]) chain)
  | insert
      {chain : ChainRef}
      {position : Nat}
      {rule : XRule}
      {rules : List XRule}
      (present : before.rules? chain = some rules)
      (inside : position - 1 ≤ rules.length) :
      Edit before (.insert chain position rule)
        (before.setRules (rules.insertIdx (position - 1) rule) chain)
  | delete
      {chain : ChainRef}
      {rule : XRule}
      {rules : List XRule}
      (present : before.rules? chain = some rules)
      (member : rule ∈ rules) :
      Edit before (.delete chain rule) (before.setRules (rules.erase rule) chain)
  | check {chain : ChainRef} {rule : XRule} :
      Edit before (.check chain rule) before
  | flush
      {chain : Chain}
      {rules : List XRule}
      (present : before.user chain = some rules) :
      Edit before (.flush chain) (before.setRules [] (.user chain))
  | deleteChain {chain : Chain} :
      Edit before (.deleteChain chain) (before.removeChain chain)
  | list {chain : Chain} : Edit before (.list chain) before

theorem XCommand.edit_of_exec
    {command : XCommand}
    {tool : Tool}
    {before after : Table}
    (executed : command.exec tool before = some after) :
    command.Edit before after := by
  cases command with
  | newChain chain =>
    obtain ⟨-, same⟩ := Option.ite_none_left_eq_some.mp executed
    exact Option.some.inj same ▸ .newChain
  | append chain rule =>
    obtain ⟨-, edited⟩ := Option.ite_none_right_eq_some.mp executed
    obtain ⟨rules, present, rfl⟩ := Option.map_eq_some_iff.mp edited
    exact .append present
  | insert chain position rule =>
    obtain ⟨-, edited⟩ := Option.ite_none_right_eq_some.mp executed
    obtain ⟨rules, present, placed⟩ := Option.bind_eq_some_iff.mp edited
    obtain ⟨inside, same⟩ := Option.ite_none_right_eq_some.mp placed
    exact Option.some.inj same ▸ .insert present (by omega)
  | delete chain rule =>
    obtain ⟨rules, present, erased⟩ := Option.bind_eq_some_iff.mp executed
    obtain ⟨member, same⟩ := Option.ite_none_right_eq_some.mp erased
    exact Option.some.inj same ▸ .delete present member
  | check chain rule =>
    obtain ⟨rules, -, checked⟩ := Option.bind_eq_some_iff.mp executed
    obtain ⟨-, same⟩ := Option.ite_none_right_eq_some.mp checked
    exact Option.some.inj same ▸ .check
  | flush chain =>
    obtain ⟨rules, present, rfl⟩ := Option.map_eq_some_iff.mp executed
    exact .flush present
  | deleteChain chain =>
    obtain ⟨-, same⟩ := Option.ite_none_right_eq_some.mp executed
    exact Option.some.inj same ▸ .deleteChain
  | list chain =>
    obtain ⟨rules, -, rfl⟩ := Option.map_eq_some_iff.mp executed
    exact .list

/-- Commands that edit `OUTPUT`. -/
def XCommand.editsOutput : XCommand → Bool
  | .append .output _ => true
  | .insert .output _ _ => true
  | .delete .output _ => true
  | _ => false

/-- Commands with which the script builds the chain. -/
def XCommand.buildsChain : XCommand → Bool
  | .newChain _ => true
  | .append _ _ => true
  | .insert _ _ _ => true
  | _ => false

theorem XCommand.output_of_exec
    {command : XCommand}
    (elsewhere : command.editsOutput = false)
    {tool : Tool}
    {before after : Table}
    (executed : command.exec tool before = some after) :
    after.output = before.output := by
  have inChain
      {rules : List XRule}
      {chain : ChainRef}
      (userChain : chain ≠ .output) :
      (before.setRules rules chain).output = before.output := by
    cases chain with
    | output => exact (userChain rfl).elim
    | user chain => rfl
  cases edit_of_exec executed with
  | append present | insert present inside | delete present member =>
    refine inChain ?_
    rintro rfl
    exact Bool.noConfusion elsewhere
  | _ => rfl

/-- Match expressions of an nft rule in an `inet` table. -/
inductive NftMatch where
  /-- `oifname` -/
  | oifname (pattern : IfacePattern)
  /-- `ct state established,related` -/
  | ctTracked
  /-- `meta nfproto ipv6` -/
  | nfprotoIpv6
  /-- `ip daddr` -/
  | ipDaddr (net : Cidr4)
  /-- `ip6 daddr` -/
  | ip6Daddr (net : Cidr6)
  /-- `udp dport` -/
  | udpDport (port : UInt16)
  /-- `udp sport` -/
  | udpSport (port : UInt16)
  /-- `tcp dport` -/
  | tcpDport (port : UInt16)
  /-- `limit rate 1/second` -/
  | limitRate
  deriving Repr, DecidableEq

/-- Whether one match expression holds of a packet. -/
def NftMatch.holds
    (limitOpen : Bool)
    (packet : Packet) :
    NftMatch → Bool
  | .oifname pattern => packet.leavesThrough pattern
  | .ctTracked => packet.isTracked
  | .nfprotoIpv6 => packet.isIpv6
  | .ipDaddr net => packet.goesTo4 net
  | .ip6Daddr net => packet.goesTo6 net
  | .udpDport port => packet.isUdpTo port
  | .udpSport port => packet.isUdpFrom port
  | .tcpDport port => packet.isTcpTo port
  | .limitRate => limitOpen

/-- One nft rule: matches, an optional log statement and a verdict. -/
structure NftRule where
  tests : List NftMatch
  log : Option String
  verdict : Verdict
  deriving Repr, DecidableEq

/-- The ruling of one nft rule. -/
def NftRule.ruling
    (around : Surroundings)
    (rule : NftRule)
    (packet : Packet) :
    Option Verdict :=
  guarded (rule.tests.all (NftMatch.holds around.limitOpen packet)) rule.verdict

/-- A base chain with its policy. -/
structure NftChain where
  policy : Verdict
  rules : List NftRule
  deriving Repr, DecidableEq

def NftChain.verdict
    (chain : NftChain)
    (around : Surroundings)
    (packet : Packet) :
    Verdict :=
  (firstRuling (NftRule.ruling around) chain.rules packet).getD chain.policy

/-- The table `inet shroud_killswitch`. -/
structure NftTable where
  output : NftChain
  input : NftChain
  deriving Repr, DecidableEq

/--
Loading a ruleset over a table that is still there appends to its chains; a
chain keeps its hook and takes the policy that is loaded.
-/
def NftTable.load (old : Option NftTable) (table : NftTable) : NftTable :=
  match old with
  | none => table
  | some present => {
      output := {
        policy := table.output.policy
        rules := present.output.rules ++ table.output.rules }
      input := {
        policy := table.input.policy
        rules := present.input.rules ++ table.input.rules } }

/-- The whole firewall as far as Shroud touches it. -/
structure Firewall where
  table : Tool → Variant → Table
  nft : Option NftTable

namespace Firewall

def setTable
    (firewall : Firewall)
    (tool : Tool)
    (variant : Variant)
    (table : Table) :
    Firewall :=
  { firewall with
    table := Function.update firewall.table tool
      (Function.update (firewall.table tool) variant table) }

variable (firewall : Firewall)

@[simp] theorem setTable_same
    (tool : Tool)
    (variant : Variant)
    (table : Table) :
    (firewall.setTable tool variant table).table tool variant = table := by
  simp [setTable]

@[simp] theorem setTable_self
    (tool : Tool)
    (variant : Variant) :
    firewall.setTable tool variant (firewall.table tool variant) = firewall := by
  simp [setTable]

theorem setTable_other
    {tool other : Tool}
    {variant otherVariant : Variant}
    (different : ¬(other = tool ∧ otherVariant = variant))
    (table : Table) :
    (firewall.setTable tool variant table).table other otherVariant =
      firewall.table other otherVariant := by
  by_cases sameTool : other = tool
  · subst other
    have otherNe : otherVariant ≠ variant := fun same => different ⟨rfl, same⟩
    simp [setTable, otherNe]
  · simp [setTable, sameTool]

end Firewall

end Shroud.Netfilter
