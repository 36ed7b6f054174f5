import Shroud.BootHistory
import Shroud.FirewallTrace
import Shroud.KillSwitchRun

namespace Shroud

open Netfilter IptablesScript KillSwitchRules StateProgram FirstMatch

/-!
# Enabling the boot kill switch again

After a crash the boot chain may still be there, filled and linked.
`enable_boot_killswitch` then empties it, fills it again, and deletes and
inserts the jump, one command at a time.  Between the flush and the new `DROP`
the chain decides nothing, so the packets it is there for are dropped exactly
when the rest of `OUTPUT` drops them.
-/

namespace Netfilter.Table

variable {around : Surroundings} {packet : Packet}

/-- The boot chain is empty, or decides nothing because it is not there. -/
def withoutBoot (table : Table) : Table :=
  table.setRules [] (.user .boot)

def bootRuling
    (around : Surroundings)
    (table : Table)
    (packet : Packet) :
    Option Verdict :=
  firstRuling (XRule.ruling around) ((table.user .boot).getD []) packet

variable (table : Table)

theorem user_setRules
    (rules : List XRule)
    (chain : Chain) :
    (table.setRules rules (.user chain)).user chain = some rules := by
  rw [setRules]
  exact Function.update_self ..

@[simp] theorem withoutBoot_setRules (rules : List XRule) :
    (table.setRules rules (.user .boot)).withoutBoot = table.withoutBoot := by
  simp [withoutBoot, setRules]

@[simp] theorem withoutBoot_removeChain (table : Table) :
    (table.removeChain .boot).withoutBoot = table.withoutBoot := by
  simp [withoutBoot, setRules, removeChain]

@[simp] theorem bootRuling_setRules (rules : List XRule) :
    bootRuling around (table.setRules rules (.user .boot)) packet =
      firstRuling (XRule.ruling around) rules packet := by
  simp [bootRuling, setRules]

theorem ruling_jumpTo_withoutBoot (table : Table) :
    table.withoutBoot.ruling around (KillSwitch.jumpTo .boot) packet = none := by
  simp [ruling, KillSwitch.jumpTo, withoutBoot, setRules]

theorem ruling_withoutBoot (rule : XRule) :
    table.ruling around rule packet =
        table.withoutBoot.ruling around rule packet ∨
      table.ruling around rule packet =
        table.bootRuling around packet ∧
        table.withoutBoot.ruling around rule packet = none := by
  cases rule with
  | foreign text => exact .inl rfl
  | rule tests target =>
    cases target with
    | jump chain =>
      simp only [ruling, withoutBoot, setRules]
      split
      · cases chain with
        | killSwitch => exact .inl (by simp)
        | boot => exact .inr ⟨rfl, by simp⟩
      · exact .inl rfl
    | _ => exact .inl rfl

theorem verdict_eq_drop {table : Table} :
    table.verdict around packet = .drop ↔
      firstRuling (table.ruling around) table.output packet = some .drop := by
  rw [verdict]
  cases firstRuling (table.ruling around) table.output packet with
  | none => simp
  | some verdict => simp

theorem drops_of_withoutBoot
    {table : Table}
    (quiet : table.bootRuling around packet ≠ some .accept)
    (others : table.withoutBoot.verdict around packet = .drop) :
    table.verdict around packet = .drop := by
  rw [verdict_eq_drop] at others ⊢
  refine firstRuling_of_more ?_ others
  intro rule _
  rcases table.ruling_withoutBoot rule with same | ⟨entered, silent⟩
  · exact .inl same
  · cases decided : table.bootRuling around packet with
    | none => exact .inl (by rw [entered, silent, decided])
    | some verdict =>
      cases verdict with
      | accept => exact absurd decided quiet
      | drop => exact .inr (entered.trans decided)

theorem verdict_emptied (table : Table) :
    (table.setRules [] (.user .boot)).verdict around packet =
      table.withoutBoot.verdict around packet :=
  rfl

theorem drops_of_jump_first
    {table : Table}
    {rest : List XRule}
    (linked : table.output = KillSwitch.jumpTo .boot :: rest)
    (drops : table.bootRuling around packet = some .drop) :
    table.verdict around packet = .drop := by
  have entered :
      table.ruling around (KillSwitch.jumpTo .boot) packet =
        table.bootRuling around packet := by
    simp [ruling, KillSwitch.jumpTo, bootRuling]
  rw [verdict_eq_drop, linked, firstRuling_cons, entered, drops]
  rfl

end Netfilter.Table

namespace KillSwitch

section Edits

variable
  {around : Surroundings}
  {packet : Packet}
  {command : XCommand}
  {before after : Table}

/-- What an edit of the boot kill switch does to the table. -/
inductive BootEdit
    (before : Table)
    (command : XCommand) :
    Table → Prop where
  /-- The chain is created or emptied. -/
  | emptied : BootEdit before command (before.setRules [] (.user .boot))
  | appended
      {rules : List XRule}
      {rule : XRule}
      (present : before.user .boot = some rules)
      (appends : command = .append (.user .boot) rule) :
      BootEdit before command (before.setRules (rules ++ [rule]) (.user .boot))
  /-- A jump is inserted or removed, which matters only to those it leads. -/
  | relinked
      {rules : List XRule}
      (members : ∀ rule, rule ≠ jumpTo .boot → (rule ∈ rules ↔ rule ∈ before.output))
      (others :
        ∀ (ruling : XRule → Packet → Option Verdict) packet,
          ruling (jumpTo .boot) packet = none →
            firstRuling ruling rules packet = firstRuling ruling before.output packet) :
      BootEdit before command (before.setRules rules .output)
  | removed : BootEdit before command (before.removeChain .boot)

theorem bootEdit_of_exec
    (edits : editsBoot command = true)
    (executed : command.exec .iptables before = some after) :
    BootEdit before command after := by
  cases XCommand.edit_of_exec executed with
  | @append chain rule rules present =>
    cases chain with
    | output => exact Bool.noConfusion edits
    | user chain =>
      cases chain with
      | killSwitch => exact Bool.noConfusion edits
      | boot => exact .appended present rfl
  | @insert chain position rule rules present inside =>
    cases chain with
    | user chain => exact Bool.noConfusion edits
    | output =>
      obtain rfl := of_decide_eq_true edits
      obtain rfl := Option.some.inj present
      refine .relinked ?_ fun _ _ silent => firstRuling_insertIdx silent _ _
      intro rule other
      rw [List.mem_insertIdx inside, or_iff_right other]
  | @delete chain rule rules present member =>
    cases chain with
    | user chain => exact Bool.noConfusion edits
    | output =>
      obtain rfl := of_decide_eq_true edits
      obtain rfl := Option.some.inj present
      exact .relinked (fun _ other => List.mem_erase_of_ne other)
        (fun _ _ silent => firstRuling_erase silent _)
  | @newChain chain | @flush chain rules present =>
    cases chain with
    | killSwitch => exact Bool.noConfusion edits
    | boot => exact .emptied
  | @deleteChain chain =>
    cases chain with
    | killSwitch => exact Bool.noConfusion edits
    | boot => exact .removed
  | _ => exact Bool.noConfusion edits

theorem BootEdit.withoutBoot_verdict (edit : BootEdit before command after) :
    after.withoutBoot.verdict around packet =
      before.withoutBoot.verdict around packet := by
  cases edit with
  | relinked members others =>
    exact congrArg (Option.getD · .accept)
      (others (before.withoutBoot.ruling around) packet before.ruling_jumpTo_withoutBoot)
  | removed => rw [Table.withoutBoot_removeChain]
  | _ => rw [Table.withoutBoot_setRules]

/-- A command that does not make the boot chain accept a packet. -/
def LetsNotOut
    (around : Surroundings)
    (packet : Packet) :
    XCommand → Prop
  | .append _ rule => rule.ruling around packet ≠ some .accept
  | _ => True

theorem BootEdit.bootRuling_ne_accept
    (edit : BootEdit before command after)
    (letsNotOut : LetsNotOut around packet command)
    (quiet : before.bootRuling around packet ≠ some .accept) :
    after.bootRuling around packet ≠ some .accept := by
  cases edit with
  | emptied =>
    rw [Table.bootRuling_setRules]
    exact Option.some_ne_none _ |>.symm
  | @appended rules rule present appends =>
    rw [appends] at letsNotOut
    rw [Table.bootRuling, present] at quiet
    rw [Table.bootRuling_setRules, firstRuling_append, firstRuling_cons,
      firstRuling_nil, Option.or_none]
    intro accepts
    rcases Option.or_eq_some_iff.mp accepts with early | ⟨-, last⟩
    · exact quiet early
    · exact letsNotOut last
  | relinked members others => exact quiet
  | removed => simp [Table.bootRuling, Table.removeChain]

end Edits

/-- A new IPv4 packet, not loopback, not DHCP, not to an allowed subnet. -/
structure Exposed (lan : List Cidr4) (packet : Packet) : Prop where
  ipv4 : packet.isIpv4 = true
  isNew : packet.ctState = .new
  notLoopback : packet.leavesThrough lo = false
  notDhcp : ∀ source port, packet.transport = .udp source port → ¬(67 ≤ port ∧ port ≤ 68)
  notLan : ∀ net ∈ lan, packet.goesTo4 net = false

section Exposed

variable (around : Surroundings) (lan : List Cidr4)

/-- `OUTPUT` drops all of these packets. -/
def Drops (firewall : Firewall) : Prop :=
  ∀ packet, Exposed lan packet →
    (firewall.table .iptables .default).verdict around packet = .drop

/-- The rules of `OUTPUT` other than the boot chain drop them. -/
def OthersDrop (firewall : Firewall) : Prop :=
  ∀ packet, Exposed lan packet →
    (firewall.table .iptables .default).withoutBoot.verdict around packet = .drop

/-- The boot chain is there, linked, and these packets are dropped. -/
structure BootBlocks (firewall : Firewall) : Prop where
  present : ((firewall.table .iptables .default).user .boot).isSome = true
  linked : jumpTo .boot ∈ (firewall.table .iptables .default).output
  drops : Drops around lan firewall

/-- The rest drops them, and the boot chain does not stand in the way. -/
structure OthersHold (firewall : Firewall) : Prop where
  others : OthersDrop around lan firewall
  quiet :
    ∀ packet, Exposed lan packet →
      (firewall.table .iptables .default).bootRuling around packet ≠ some .accept

/-- The boot chain is there and decides none of these packets yet. -/
def BootSilent (table : Table) : Prop :=
  ∃ rules,
    table.user .boot = some rules ∧
      ∀ packet, Exposed lan packet → firstRuling (XRule.ruling around) rules packet = none

def BootDrops (table : Table) : Prop :=
  ∀ packet, Exposed lan packet → table.bootRuling around packet = some .drop

end Exposed

variable {around : Surroundings} {lan : List Cidr4} {packet : Packet}

theorem OthersHold.drops
    {firewall : Firewall}
    (hold : OthersHold around lan firewall) :
    Drops around lan firewall :=
  fun packet exposed =>
    Table.drops_of_withoutBoot (hold.quiet packet exposed) (hold.others packet exposed)

theorem ruling_accept_none
    {tests : List XMatch}
    {test : XMatch}
    (listed : test ∈ tests)
    (fails : test.holds around.limitOpen packet = false) :
    XRule.ruling around (.rule tests .accept) packet = none := by
  have notAll : tests.all (XMatch.holds around.limitOpen packet) = false :=
    List.all_eq_false.mpr ⟨test, listed, by rw [fails]; exact Bool.false_ne_true⟩
  rw [XRule.ruling_accept, notAll, guarded_false]

/-- An `iptables` line appends a rule that decides no exposed packet. -/
def SilentLine
    (around : Surroundings)
    (lan : List Cidr4) :
    ScriptLine → Prop
  | .command .iptables command _ =>
    ∃ rule, command = .append (.user .boot) rule ∧
      ∀ packet, Exposed lan packet → rule.ruling around packet = none
  | _ => True

theorem bootRulesBeforeLan_silent :
    ∀ line ∈ bootRulesBeforeLan, SilentLine around lan line := by
  have tracked {packet : Packet} (exposed : Exposed lan packet) :
      packet.isTracked = false := by
    rw [Packet.isTracked, exposed.isNew]
    rfl
  have dhcp {packet : Packet} (exposed : Exposed lan packet) :
      XRule.ruling around (.rule [.proto .udp, .dportRange 67 68] .accept) packet = none := by
    cases sent : packet.transport with
    | udp source port =>
      refine ruling_accept_none (List.mem_cons_of_mem _ List.mem_cons_self) ?_
      rw [XMatch.holds, sent]
      exact decide_eq_false (exposed.notDhcp source port sent)
    | _ =>
      refine ruling_accept_none List.mem_cons_self ?_
      rw [XMatch.holds, sent]
  intro line listed
  simp only [bootRulesBeforeLan, List.mem_cons, List.not_mem_nil, or_false] at listed
  rcases listed with rfl | rfl | rfl | rfl | rfl
  · exact ⟨_, rfl, fun packet exposed =>
      ruling_accept_none List.mem_cons_self exposed.notLoopback⟩
  · trivial
  · exact ⟨_, rfl, fun packet exposed =>
      ruling_accept_none List.mem_cons_self (tracked exposed)⟩
  · trivial
  · exact ⟨_, rfl, fun packet exposed => dhcp exposed⟩

theorem bootLanRules_silent
    {subnets : List Cidr4}
    (allowed : subnets.filter isValidPrivateCidr = lan) :
    ∀ line ∈ bootLanRules subnets, SilentLine around lan line := by
  intro line listed
  rcases List.mem_append.mp listed with inSubnets | linkLocal
  · obtain ⟨net, valid, rfl⟩ := List.mem_map.mp inSubnets
    rw [allowed] at valid
    exact ⟨_, rfl, fun packet exposed =>
      ruling_accept_none List.mem_cons_self (exposed.notLan net valid)⟩
  · rw [List.mem_singleton.mp linkLocal]
    trivial

section Running

variable {env : FwEnv}

variable
  {command : XCommand}
  {before after : Firewall}
  {tool : Tool}
  {env : FwEnv}
  {world : KsWorld}

theorem ip6tables_table
    (executed : FwCommand.exec before (.xtables .ip6tables .default command) = some after) :
    after.table .iptables = before.table .iptables :=
  FwCommand.iptables_of_exec rfl executed

theorem iptables_exec
    (executed : FwCommand.exec before (.xtables .iptables .default command) = some after) :
    command.exec .iptables (before.table .iptables .default) =
      some (after.table .iptables .default) := by
  obtain ⟨table, ran, rfl⟩ := Option.map_eq_some_iff.mp executed
  rw [ran, Firewall.setTable_same]

theorem bootError?_eq_none {outcome : Outcome} :
    bootError? tool command outcome = none ↔ outcome.succeeded = true := by
  cases outcome with
  | _ => simp [bootError?, Outcome.succeeded]

theorem runBoot_firewall
    (env : FwEnv)
    (tool : Tool)
    (command : XCommand)
    (world : KsWorld) :
    (((runBoot env tool command).run world).1 = none ∧
        FwCommand.exec (firewallOf world) (.xtables tool .default command) =
          some (firewallOf ((runBoot env tool command).run world).2)) ∨
      (((runBoot env tool command).run world).1 ≠ none ∧
        firewallOf ((runBoot env tool command).run world).2 = firewallOf world ∧
        (FwCommand.exec (firewallOf world)
            (.xtables tool .default command) = none ∨
          (env.fault world.host.issued (.xtables tool .default command)).isSome = true)) := by
  rcases runCommand_firewall env (.xtables tool .default command) world with
    ⟨executed, succeeded, -⟩ | ⟨unchanged, failed, why⟩
  · exact .inl ⟨bootError?_eq_none.mpr succeeded, executed⟩
  · refine .inr ⟨?_, unchanged, why.imp_right And.left⟩
    intro none
    exact Bool.false_ne_true (failed.symm.trans (bootError?_eq_none.mp none))

theorem runBoot_faulted
    (faulty : (env.fault world.host.issued (.xtables tool .default command)).isSome = true) :
    ((runBoot env tool command).run world).1 ≠ none ∧
      firewallOf ((runBoot env tool command).run world).2 = firewallOf world := by
  have notApplied := Host.not_applied_of_fault faulty
  refine ⟨?_, Host.firewall_of_not_applied notApplied⟩
  intro none
  exact notApplied ((world.host.succeeded_outcomeOf env _).mp (bootError?_eq_none.mp none))

/-- A command that keeps `OthersHold`. -/
def QuietCommand
    (around : Surroundings)
    (lan : List Cidr4)
    (tool : Tool)
    (command : XCommand) :
    Prop :=
  tool = .iptables →
    editsBoot command = true ∧ ∀ packet, Exposed lan packet → LetsNotOut around packet command

theorem runCommand_othersHold
    (quiet : QuietCommand around lan tool command) :
    Keeps (Throughout (OthersHold around lan))
      (runCommand env (.xtables tool .default command)) := by
  apply runCommand_throughout
  intro before after hold executed
  cases tool with
  | ip6tables =>
    have same := ip6tables_table executed
    constructor
    · rw [OthersDrop, same]
      exact hold.others
    · rw [same]
      exact hold.quiet
  | iptables =>
    obtain ⟨edits, letsNotOut⟩ := quiet rfl
    have edit := bootEdit_of_exec edits (iptables_exec executed)
    constructor
    · intro packet exposed
      rw [edit.withoutBoot_verdict]
      exact hold.others packet exposed
    · intro packet exposed
      exact edit.bootRuling_ne_accept (letsNotOut packet exposed) (hold.quiet packet exposed)

theorem SilentLine.quietCommand
    {tried : Bool}
    (silent : SilentLine around lan (.command tool command tried)) :
    QuietCommand around lan tool command := by
  rintro rfl
  obtain ⟨rule, rfl, decidesNone⟩ := silent
  refine ⟨rfl, ?_⟩
  intro packet exposed accepts
  rw [decidesNone packet exposed] at accepts
  exact Option.some_ne_none _ accepts.symm

theorem silentLines_othersHold
    {lines : List ScriptLine}
    (silent : ∀ line ∈ lines, SilentLine around lan line) :
    Keeps (Throughout (OthersHold around lan)) (lines.findSomeM? (runBootLine env)) :=
  bootLines_follows (fun _ _ _ member => runCommand_othersHold (silent _ member).quietCommand)

theorem bootDropRules_othersHold :
    Keeps (Throughout (OthersHold around lan))
      (bootDropRules.findSomeM? (runBootLine env)) := by
  refine bootLines_follows ?_
  intro tool command tried member
  refine runCommand_othersHold ?_
  rintro rfl
  simp only [bootDropRules, bootRule, List.mem_cons, List.not_mem_nil,
    or_false, ScriptLine.command.injEq, reduceCtorEq, false_and,
    or_false] at member
  obtain ⟨-, rfl, -⟩ := member
  refine ⟨rfl, ?_⟩
  intro packet exposed
  rw [LetsNotOut, XRule.ruling_drop]
  simp

theorem createChain6_othersHold :
    Keeps (Throughout (OthersHold around lan)) (createChain env .ip6tables) :=
  createChain_follows (fun _ _ => runCommand_othersHold (by rintro ⟨⟩))

theorem insertBootChainJump_othersHold :
    Keeps (Throughout (OthersHold around lan)) (insertBootChainJump env) := by
  refine insertBootChainJump_follows ?_
  intro tool command listed
  refine runCommand_othersHold ?_
  rintro -
  simp only [List.mem_cons, List.not_mem_nil, or_false] at listed
  rcases listed with rfl | rfl
  · exact ⟨rfl, fun _ _ => trivial⟩
  · exact ⟨rfl, fun _ _ => trivial⟩

def lanFrom
    (env : FwEnv)
    (allowLan : Bool)
    (world : KsWorld) :
    List Cidr4 :=
  if allowLan then
    (env.lanSubnets world.host.issued).filter isValidPrivateCidr
  else []

theorem lanRules_silent
    (env : FwEnv)
    (allowLan : Bool)
    (world : KsWorld) :
    ∀ line ∈
        (if allowLan then bootLanRules (env.lanSubnets world.host.issued)
          else []),
      SilentLine around (lanFrom env allowLan world) line := by
  cases allowLan with
  | false =>
    intro line listed
    exact absurd listed List.not_mem_nil
  | true => exact bootLanRules_silent rfl

theorem addBootRulesFromLan_othersHold
    (allowLan : Bool)
    (world : KsWorld) :
    Throughout (OthersHold around (lanFrom env allowLan world)) world
      ((addBootRulesFromLan env allowLan).run world).2 := by
  have lines :
      Keeps
        (Throughout (OthersHold around (lanFrom env allowLan world)))
        (((if allowLan then bootLanRules (env.lanSubnets world.host.issued)
            else []) ++ bootDropRules).findSomeM? (runBootLine env)) := by
    intro start
    rw [findSomeM?_append]
    have first :=
      @silentLines_othersHold around (lanFrom env allowLan world) env _
        (lanRules_silent env allowLan world) start
    split
    · exact first
    · exact IsTrans.trans _ _ _ first (bootDropRules_othersHold _)
  exact lines world

theorem emptied_of_exec
    (listed : command ∈ [XCommand.newChain .boot, .flush .boot])
    {before after : Table}
    (executed : command.exec .iptables before = some after) :
    after = before.setRules [] (.user .boot) := by
  simp only [List.mem_cons, List.not_mem_nil, or_false] at listed
  rcases listed with rfl | rfl
  · obtain ⟨-, same⟩ := Option.ite_none_left_eq_some.mp executed
    exact (Option.some.inj same).symm
  · obtain ⟨rules, -, same⟩ := Option.map_eq_some_iff.mp executed
    exact same.symm

theorem createChain_created
    (env : FwEnv)
    (created : ((createChain env .iptables).run world).1 = none) :
    ((firewallOf ((createChain env .iptables).run world).2).table .iptables
      .default).user .boot = some [] := by
  have empties
      {command : XCommand}
      {before after : Firewall}
      (listed : command ∈ [XCommand.newChain .boot, .flush .boot])
      (executed : FwCommand.exec before (.xtables .iptables .default command) = some after) :
      (after.table .iptables .default).user .boot = some [] := by
    rw [emptied_of_exec listed (iptables_exec executed)]
    simp [Table.setRules]
  rw [createChain, run_bind] at created ⊢
  rcases runBoot_firewall env .iptables (.newChain .boot) world with
    ⟨fresh, executed⟩ | ⟨failed, -, -⟩
  · rw [fresh]
    exact empties List.mem_cons_self executed
  · obtain ⟨error, reported⟩ := Option.ne_none_iff_exists'.mp failed
    rw [reported] at created ⊢
    rcases runBoot_firewall env .iptables (.flush .boot)
        ((runBoot env .iptables (.newChain .boot)).run world).2 with
      ⟨-, executed⟩ | ⟨refused, -, -⟩
    · exact empties (List.mem_cons_of_mem _ List.mem_cons_self) executed
    · exact absurd created refused

theorem runBoot6_preserves
    (fact : Table → Prop)
    (command : XCommand) :
    Preserves
      (fun world => fact ((firewallOf world).table .iptables .default))
      (runBoot env .ip6tables command) := by
  intro world before
  rcases runBoot_firewall env .ip6tables command world with
    ⟨-, executed⟩ | ⟨-, unchanged, -⟩
  · rw [ip6tables_table executed]
    exact before
  · rw [unchanged]
    exact before

theorem createChain6_preserves (fact : Table → Prop) :
    Preserves
      (fun world => fact ((firewallOf world).table .iptables .default))
      (createChain env .ip6tables) := by
  refine (runBoot6_preserves fact _).bind ?_
  intro result
  cases result with
  | none => exact .pure
  | some error => exact runBoot6_preserves fact _

theorem appended_of_exec
    {rule : XRule}
    {before after : Table}
    (executed : (XCommand.append (.user .boot) rule).exec .iptables before = some after) :
    ∃ rules, before.user .boot = some rules ∧
      after = before.setRules (rules ++ [rule]) (.user .boot) := by
  obtain ⟨-, edited⟩ := Option.ite_none_right_eq_some.mp executed
  obtain ⟨rules, present, same⟩ := Option.map_eq_some_iff.mp edited
  exact ⟨rules, present, same.symm⟩

theorem silentLines_preserve
    {lines : List ScriptLine}
    (silent : ∀ line ∈ lines, SilentLine around lan line) :
    Preserves
      (fun world =>
        BootSilent around lan ((firewallOf world).table .iptables .default))
      (lines.findSomeM? (runBootLine env)) := by
  refine .findSomeM? ?_
  intro line member
  have quiet := silent line member
  cases line with
  | comment text => exact .pure
  | command tool command tried =>
    refine .bind ?_ fun _ => .pure
    cases tool with
    | ip6tables => exact runBoot6_preserves _ command
    | iptables =>
      obtain ⟨rule, rfl, decidesNone⟩ := quiet
      intro world before
      rcases runBoot_firewall env .iptables _ world with
        ⟨-, executed⟩ | ⟨-, unchanged, -⟩
      · obtain ⟨rules, present, edited⟩ := appended_of_exec (iptables_exec executed)
        obtain ⟨old, oldPresent, oldSilent⟩ := before
        obtain rfl := Option.some.inj (oldPresent.symm.trans present)
        rw [edited]
        refine ⟨_, by simp [Table.setRules]; rfl, ?_⟩
        intro packet exposed
        rw [firstRuling_append, oldSilent packet exposed,
          firstRuling_cons, decidesNone packet exposed]
        rfl
      · rw [unchanged]
        exact before

theorem requiredLine_ensures
    {pre post : Table → Prop}
    (step : ∀ before after, pre before → command.exec .iptables before = some after → post after) :
    Ensures
      (fun world => pre ((firewallOf world).table .iptables .default))
      (runBootLine env (.command .iptables command false))
      (fun result world =>
        result = none → post ((firewallOf world).table .iptables .default)) := by
  intro world before worked
  rcases runBoot_firewall env .iptables command world with
    ⟨-, executed⟩ | ⟨failed, -, -⟩
  · exact step _ _ before (iptables_exec executed)
  · exact absurd worked failed

theorem lastLine6_ensures
    {tried : Bool}
    (fact : Table → Prop) :
    Ensures
      (fun world => fact ((firewallOf world).table .iptables .default))
      ([ScriptLine.command .ip6tables command tried].findSomeM? (runBootLine env))
      (fun result world =>
        result = none → fact ((firewallOf world).table .iptables .default)) := by
  have line :
      Preserves
        (fun world => fact ((firewallOf world).table .iptables .default))
        (runBootLine env (.command .ip6tables command tried)) :=
    (runBoot6_preserves fact command).bind (fun _ => .pure)
  refine .weaken (Preserves.findSomeM? ?_) fun _ _ kept _ => kept
  intro item listed
  rw [List.mem_singleton.mp listed]
  exact line

theorem bootDropRules_drop :
    Ensures
      (fun world =>
        BootSilent around lan ((firewallOf world).table .iptables .default))
      (bootDropRules.findSomeM? (runBootLine env))
      (fun result world =>
        result = none →
          BootDrops around lan ((firewallOf world).table .iptables .default)) := by
  refine .findSomeM?_cons_none (requiredLine_ensures ?_)
    (lastLine6_ensures (BootDrops around lan))
  intro before after silent executed packet exposed
  obtain ⟨old, oldPresent, oldSilent⟩ := silent
  obtain ⟨rules, present, edited⟩ := appended_of_exec executed
  obtain rfl := Option.some.inj (oldPresent.symm.trans present)
  rw [edited, Table.bootRuling_setRules, firstRuling_append,
    oldSilent packet exposed, firstRuling_cons, XRule.ruling_drop]
  rfl

theorem deleteJump_sameChains
    (env : FwEnv)
    (tool : Tool) :
    Keeps
      (SameView fun world =>
        ((firewallOf world).table .iptables .default).user)
      (runCommand env (.xtables tool .default (.delete .output (jumpTo .boot)))) := by
  intro world
  rcases runCommand_firewall env
      (.xtables tool .default (.delete .output (jumpTo .boot))) world with
    ⟨executed, -, -⟩ | ⟨unchanged, -, -⟩
  · cases tool with
    | ip6tables => rw [SameView, ip6tables_table executed]
    | iptables =>
      have deleted := iptables_exec executed
      rw [XCommand.exec] at deleted
      obtain ⟨rules, -, erased⟩ := Option.bind_eq_some_iff.mp deleted
      obtain ⟨-, same⟩ := Option.ite_none_right_eq_some.mp erased
      rw [SameView, ← Option.some.inj same]
      rfl
  · rw [SameView, unchanged]

theorem removeBootJumps_preserves
    (fact : (Chain → Option (List XRule)) → Prop)
    (tool : Tool) :
    Preserves
      (fun world => fact ((firewallOf world).table .iptables .default).user)
      (removeBootJumps env tool) := by
  intro world before
  have chains :
      ((firewallOf ((removeBootJumps env tool).run world).2).table .iptables
        .default).user =
        ((firewallOf world).table .iptables .default).user :=
    Keeps.repeatWhile (succeeds_follows (deleteJump_sameChains env tool)) 10 world
  rw [chains]
  exact before

/-- The jump closes the window that a filled chain leaves. -/
theorem insertBootChainJump_drops :
    Ensures
      (fun world =>
        BootDrops around lan ((firewallOf world).table .iptables .default))
      (insertBootChainJump env)
      (fun result world =>
        result = none → Drops around lan (firewallOf world)) := by
  let filled (chains : Chain → Option (List XRule)) : Prop :=
    ∀ packet, Exposed lan packet →
      firstRuling (XRule.ruling around) ((chains .boot).getD []) packet = some .drop
  refine .seq (removeBootJumps_preserves filled .iptables) ?_
  refine .seq (removeBootJumps_preserves filled .ip6tables) ?_
  let dropped (table : Table) : Prop :=
    ∀ packet, Exposed lan packet → table.verdict around packet = .drop
  have inserted :
      ∀ before after : Table,
        BootDrops around lan before →
          (XCommand.insert .output 1 (jumpTo .boot)).exec .iptables before = some after →
          dropped after := by
    intro before after drops executed packet exposed
    cases XCommand.edit_of_exec executed with
    | insert present inside =>
      exact Table.drops_of_jump_first List.insertIdx_zero (drops packet exposed)
  exact .findSomeM?_cons_none (requiredLine_ensures inserted) (lastLine6_ensures dropped)

theorem addBootRulesFromLan_drops
    (allowLan : Bool)
    (silent :
      BootSilent around (lanFrom env allowLan world)
        ((firewallOf world).table .iptables .default))
    (worked : ((addBootRulesFromLan env allowLan).run world).1 = none) :
    BootDrops around (lanFrom env allowLan world)
      ((firewallOf ((addBootRulesFromLan env allowLan).run world).2).table .iptables .default) := by
  have lanLines :=
    @silentLines_preserve around (lanFrom env allowLan world) env _
      (lanRules_silent env allowLan world)
  have lines :=
    Ensures.findSomeM?_append_none
      (Ensures.weaken lanLines (fun _ _ kept _ => kept)) bootDropRules_drop
  exact lines world silent worked

/-- The world in which the subnets are detected, once the chains are there. -/
def lanDetection (env : FwEnv) (start : KsWorld) : KsWorld :=
  ((bootRulesBeforeLan.findSomeM? (runBootLine env)).run start).2

def allowedLan
    (env : FwEnv)
    (allowLan : Bool)
    (world : KsWorld) :
    List Cidr4 :=
  lanFrom env allowLan (lanDetection env ((createBootChain env).run world).2)

theorem allowedLan_off
    (env : FwEnv)
    (world : KsWorld) :
    allowedLan env false world = [] :=
  rfl

theorem createBootChain_failed
    {error : KillSwitchError}
    (failed : ((createChain env .iptables).run world).1 = some error) :
    (createBootChain env).run world = (some error, ((createChain env .iptables).run world).2) := by
  rw [createBootChain, run_bind, failed, run_pure]

theorem createBootChain_created
    (created : ((createChain env .iptables).run world).1 = none) :
    (createBootChain env).run world =
      (none, ((createChain env .ip6tables).run ((createChain env .iptables).run world).2).2) := by
  rw [createBootChain, run_bind, created]
  rfl

/-- What is left to do once the chains are there. -/
def fillAndLink (env : FwEnv) (allowLan : Bool) :
    StateM KsWorld (Option KillSwitchError) := do
  match ← addBootRules env allowLan with
  | some error => pure (some error)
  | none => insertBootChainJump env

/-- Where filling and linking the chain ends. -/
inductive FillAndLink
    (env : FwEnv)
    (allowLan : Bool)
    (start : KsWorld) :
    Option KillSwitchError × KsWorld → Prop where
  | beforeLan
      {error : KillSwitchError} :
      FillAndLink env allowLan start (some error, lanDetection env start)
  | fromLan
      {error : KillSwitchError} :
      FillAndLink env allowLan start
        (some error, ((addBootRulesFromLan env allowLan).run (lanDetection env start)).2)
  | linked (added :
        ((addBootRulesFromLan env allowLan).run (lanDetection env start)).1 = none) :
      FillAndLink env allowLan start
        ((insertBootChainJump env).run
          ((addBootRulesFromLan env allowLan).run (lanDetection env start)).2)

theorem fillAndLink_ends
    (env : FwEnv)
    (allowLan : Bool)
    (start : KsWorld) :
    FillAndLink env allowLan start ((fillAndLink env allowLan).run start) := by
  rw [fillAndLink, run_bind, addBootRules, run_bind]
  cases ((bootRulesBeforeLan.findSomeM? (runBootLine env)).run start).1 with
  | some error => exact .beforeLan
  | none =>
    cases added :
      ((addBootRulesFromLan env allowLan).run (lanDetection env start)).1 with
    | some error =>
      rw [lanDetection] at added
      rw [added]
      exact .fromLan
    | none =>
      have linked := FillAndLink.linked added
      rw [lanDetection] at added linked
      rw [added]
      exact linked

theorem fillAndLink_drops
    {allowLan : Bool}
    {start : KsWorld}
    (silent :
      BootSilent around (lanFrom env allowLan (lanDetection env start))
        ((firewallOf start).table .iptables .default))
    (worked : ((fillAndLink env allowLan).run start).1 = none) :
    Drops around (lanFrom env allowLan (lanDetection env start))
      (firewallOf ((fillAndLink env allowLan).run start).2) := by
  have ends := fillAndLink_ends env allowLan start
  revert worked ends
  generalize (fillAndLink env allowLan).run start = reached
  intro worked ends
  cases ends with
  | linked added =>
    have kept :
        BootSilent around
          (lanFrom env allowLan (lanDetection env start))
          ((firewallOf (lanDetection env start)).table .iptables .default) :=
      silentLines_preserve bootRulesBeforeLan_silent start silent
    exact insertBootChainJump_drops _ (addBootRulesFromLan_drops allowLan kept added) worked
  | _ => exact absurd worked (Option.some_ne_none _)

theorem fillAndLink_othersHold
    (env : FwEnv)
    (allowLan : Bool)
    (start : KsWorld) :
    Throughout
      (OthersHold around (lanFrom env allowLan (lanDetection env start)))
      start ((fillAndLink env allowLan).run start).2 := by
  have first :
      Throughout
        (OthersHold around (lanFrom env allowLan (lanDetection env start)))
        start (lanDetection env start) :=
    silentLines_othersHold bootRulesBeforeLan_silent start
  have second :=
    IsTrans.trans _ _ _ first (addBootRulesFromLan_othersHold allowLan (lanDetection env start))
  have ends := fillAndLink_ends env allowLan start
  revert ends
  generalize (fillAndLink env allowLan).run start = reached
  intro ends
  cases ends with
  | beforeLan => exact first
  | fromLan => exact second
  | linked added =>
    exact IsTrans.trans _ _ _ second (insertBootChainJump_othersHold _)

theorem enableBootKillswitch_failed
    {error : KillSwitchError}
    (allowLan : Bool)
    (failed : ((createChain env .iptables).run world).1 = some error) :
    (enableBootKillswitch env allowLan).run world =
      (some error, ((createChain env .iptables).run world).2) := by
  rw [enableBootKillswitch, run_bind, createBootChain_failed failed, run_pure]

theorem enableBootKillswitch_created
    (allowLan : Bool)
    (created : ((createChain env .iptables).run world).1 = none) :
    (enableBootKillswitch env allowLan).run world =
      (fillAndLink env allowLan).run ((createBootChain env).run world).2 := by
  rw [enableBootKillswitch, run_bind, createBootChain_created created]
  rfl

/-- An enabled boot kill switch drops every exposed packet. -/
theorem enableBootKillswitch_drops
    (around : Surroundings)
    (env : FwEnv)
    (allowLan : Bool)
    (world : KsWorld)
    (enabled : ((enableBootKillswitch env allowLan).run world).1 = none) :
    Drops around (allowedLan env allowLan world)
      (firewallOf ((enableBootKillswitch env allowLan).run world).2) := by
  cases created : ((createChain env .iptables).run world).1 with
  | some error =>
    rw [enableBootKillswitch_failed allowLan created] at enabled
    exact absurd enabled (Option.some_ne_none error)
  | none =>
    have silent :
        BootSilent around (allowedLan env allowLan world)
          ((firewallOf ((createBootChain env).run world).2).table .iptables .default) := by
      rw [createBootChain_created created]
      exact createChain6_preserves _ _ ⟨[], createChain_created env created, fun _ _ => rfl⟩
    rw [enableBootKillswitch_created allowLan created] at enabled ⊢
    exact fillAndLink_drops silent enabled

/-- Whether the flush of a chain that is there fails: it is issued second. -/
def flushFails (env : FwEnv) (world : KsWorld) : Bool :=
  (env.fault (world.host.issued + 1) (.xtables .iptables .default (.flush .boot))).isSome

section Present

variable
  {env : FwEnv}
  {world : KsWorld}
  (present : (((firewallOf world).table .iptables .default).user .boot).isSome = true)

include present

theorem newChain_refused :
    FwCommand.exec (firewallOf world) (.xtables .iptables .default (.newChain .boot)) = none := by
  rw [FwCommand.exec, XCommand.exec, if_pos present]
  rfl

theorem createChain_present :
    ∃ middle,
      firewallOf middle = firewallOf world ∧
        middle.host.issued = world.host.issued + 1 ∧
        (∀ holds, Throughout holds world middle) ∧
        (createChain env .iptables).run world =
          (runBoot env .iptables (.flush .boot)).run middle := by
  have refused := newChain_refused present
  rcases runBoot_firewall env .iptables (.newChain .boot) world with
    ⟨-, executed⟩ | ⟨failed, unchanged, -⟩
  · rw [refused] at executed
    exact absurd executed.symm (Option.some_ne_none _)
  · obtain ⟨error, reported⟩ := Option.ne_none_iff_exists'.mp failed
    refine ⟨((runBoot env .iptables (.newChain .boot)).run world).2, unchanged, rfl, ?_, ?_⟩
    · intro holds
      refine runCommand_throughout_at ?_
      intro start
      exact unchanged ▸ start
    · rw [createChain, run_bind, reported]

theorem createChain_flushes (works : flushFails env world = false) :
    ((createChain env .iptables).run world).1 = none ∧
      (firewallOf ((createChain env .iptables).run world).2).table .iptables
          .default =
        ((firewallOf world).table .iptables .default).setRules [] (.user .boot) ∧
      ∀ holds : Firewall → Prop,
        holds (firewallOf ((createChain env .iptables).run world).2) →
          Throughout holds world ((createChain env .iptables).run world).2 := by
  obtain ⟨middle, same, issued, refusal, rest⟩ := createChain_present present
  obtain ⟨rules, filled⟩ := Option.isSome_iff_exists.mp present
  rw [rest, ← same]
  rcases runBoot_firewall env .iptables (.flush .boot) middle with
    ⟨worked, executed⟩ | ⟨-, -, refused | faulted⟩
  · refine ⟨worked,
      emptied_of_exec (List.mem_cons_of_mem _ List.mem_cons_self) (iptables_exec executed), ?_⟩
    intro holds ended
    exact IsTrans.trans _ _ _ (refusal holds) (runCommand_throughout_at (fun _ => ended))
  · rw [FwCommand.exec, same, XCommand.exec, filled] at refused
    exact absurd refused (Option.some_ne_none _)
  · rw [issued] at faulted
    exact absurd (faulted.symm.trans works) Bool.true_eq_false.mp

theorem createChain_fails (fails : flushFails env world = true) :
    ((createChain env .iptables).run world).1 ≠ none ∧
      ∀ holds, Throughout holds world ((createChain env .iptables).run world).2 := by
  obtain ⟨middle, same, issued, refusal, rest⟩ := createChain_present present
  have faulty :
      (env.fault middle.host.issued
        (.xtables .iptables .default (.flush .boot))).isSome = true := by
    rw [issued]
    exact fails
  obtain ⟨reported, unchanged⟩ := runBoot_faulted faulty
  rw [rest]
  refine ⟨reported, ?_⟩
  intro holds
  refine IsTrans.trans _ _ _ (refusal holds) (runCommand_throughout_at ?_)
  intro start
  exact unchanged ▸ start

end Present

theorem othersHold_of_emptied
    (emptied :
      after.table .iptables .default = (before.table .iptables .default).setRules [] (.user .boot))
    (others : OthersDrop around lan before) :
    OthersHold around lan after := by
  constructor
  · intro packet exposed
    rw [emptied, Table.withoutBoot_setRules]
    exact others packet exposed
  · intro packet exposed
    rw [emptied, Table.bootRuling_setRules]
    exact (Option.some_ne_none _).symm

/--
Enabling the boot kill switch over a chain that blocks never opens the
firewall exactly when the rest of `OUTPUT` drops the same packets or the flush
fails; and a call that returns `Ok` has closed it.
-/
theorem boot_reenable_iff
    (around : Surroundings)
    (env : FwEnv)
    (allowLan : Bool)
    (world : KsWorld) :
    ((BootBlocks around (allowedLan env allowLan world)
          (firewallOf world) →
        AtEveryStep (Drops around (allowedLan env allowLan world))
          world ((enableBootKillswitch env allowLan).run world).2) ↔
      (BootBlocks around (allowedLan env allowLan world)
          (firewallOf world) →
        OthersDrop around (allowedLan env allowLan world)
            (firewallOf world) ∨
          flushFails env world = true)) ∧
    (((enableBootKillswitch env allowLan).run world).1 = none →
      Drops around (allowedLan env allowLan world)
        (firewallOf ((enableBootKillswitch env allowLan).run world).2)) := by
  refine ⟨forall_congr' ?_, enableBootKillswitch_drops _ env allowLan world⟩
  intro blocks
  cases fails : flushFails env world with
  | true =>
    obtain ⟨failed, unchanged⟩ := @createChain_fails env world blocks.present fails
    obtain ⟨error, reported⟩ := Option.ne_none_iff_exists'.mp failed
    rw [enableBootKillswitch_failed allowLan reported]
    exact iff_of_true ((unchanged _).atEveryStep blocks.drops) (.inr rfl)
  | false =>
    obtain ⟨created, emptied, through⟩ := @createChain_flushes env world blocks.present fails
    rw [enableBootKillswitch_created allowLan created]
    -- From the flush on, the rest of `OUTPUT` is what holds.
    have late :
        Throughout
          (OthersHold around (allowedLan env allowLan world))
          ((createChain env .iptables).run world).2
          ((fillAndLink env allowLan).run ((createBootChain env).run world).2).2 := by
      refine IsTrans.trans _ ((createBootChain env).run world).2 _ ?_
        (fillAndLink_othersHold env allowLan _)
      rw [createBootChain_created created]
      exact createChain6_othersHold _
    have early := through (fun _ => True) trivial
    constructor
    · intro everywhere
      refine .inl ?_
      intro packet exposed
      have after := everywhere.holds_at early late.logged packet exposed
      rw [emptied, Table.verdict_emptied] at after
      exact after
    · intro either
      have others := either.resolve_right Bool.false_ne_true
      have hold := othersHold_of_emptied emptied others
      refine .append early late.logged ?_ ?_
      · exact (through _ hold.drops).atEveryStep blocks.drops
      · exact (late.atEveryStep hold).mono fun _ held => held.drops

end Running

def crashedWorld : KsWorld :=
  let booted := ((enableBootKillswitch calmEnv false).run freshWorld).2
  { booted with host := { booted.host with issued := 0, log := [] } }

/-- Tools of which only the insertion of the jump fails. -/
def noInsertionEnv : FwEnv :=
  { calmEnv with
    fault := fun _ command =>
      if command = .xtables .iptables .default (.insert .output 1 (jumpTo .boot))
      then some .timeout
      else none }

def publicPacket : Packet where
  addresses := .v4 (Ipv4Addr.ofOctets 192 168 1 5) (Ipv4Addr.ofOctets 198 51 100 7)
  transport := .tcp 50000 443
  outInterface := "eth0"
  ctState := .new

/--
Enabling again opens the firewall after the second command; and with a failed
insertion it stays open.
-/
theorem reenable_opens :
    BootBlocks .quiet (allowedLan calmEnv false crashedWorld)
        (firewallOf crashedWorld) ∧
      Exposed (allowedLan calmEnv false crashedWorld) publicPacket ∧
      ¬AtEveryStep (Drops .quiet (allowedLan calmEnv false crashedWorld))
        crashedWorld
        ((enableBootKillswitch calmEnv false).run crashedWorld).2 ∧
      ((firewallOf
          ((enableBootKillswitch noInsertionEnv false).run
            crashedWorld).2).table .iptables .default).verdict .quiet
        publicPacket = .accept := by
  have exposed : Exposed [] publicPacket := by
    refine ⟨by decide, by decide, by decide, ?_, by simp⟩
    intro source port sent
    exact Transport.noConfusion sent
  have drops : Drops .quiet [] (firewallOf crashedWorld) :=
    enableBootKillswitch_drops .quiet calmEnv false freshWorld rfl
  simp only [allowedLan_off]
  refine ⟨⟨rfl, List.mem_singleton_self _, drops⟩, exposed, ?_, rfl⟩
  intro everywhere
  have opened := everywhere _ rfl 2 publicPacket exposed
  revert opened
  decide

end KillSwitch

end Shroud
