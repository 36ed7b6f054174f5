import Shroud.BootKillSwitch
import Shroud.InstallCycle

namespace Shroud

open Netfilter IptablesScript StateProgram BoundedErase

/-!
# Histories with the boot kill switch

`enable` and `enable_boot_killswitch` each remove their own jump from `OUTPUT`
before they insert it.  So in whatever order they are called, and wherever
they fail, the default tables hold each of the two jumps at most once, and no
other jump to a chain of Shroud.
-/

namespace KillSwitch

/-- The default tables hold at most the given jumps. -/
def JumpsWithin (jumps : Tool → List XRule) (firewall : Firewall) : Prop :=
  ∀ tool rule chain,
    rule.jumpsTo chain = true →
      (firewall.table tool .default).output.count rule ≤ (jumps tool).count rule

theorem JumpsWithin.of_tables
    {jumps : Tool → List XRule}
    {before after : Firewall}
    (within : JumpsWithin jumps before)
    (tables : after.table = before.table) :
    JumpsWithin jumps after := by
  rw [JumpsWithin, tables]
  exact within

theorem JumpsWithin.mono
    {jumps more : Tool → List XRule}
    {firewall : Firewall}
    (within : JumpsWithin jumps firewall)
    (allowed : ∀ tool, (jumps tool).Sublist (more tool)) :
    JumpsWithin more firewall := by
  intro tool rule chain isJump
  exact (within tool rule chain isJump).trans ((allowed tool).count_le rule)

section Commands

variable {env : FwEnv} {jumps : Tool → List XRule}

theorem runCommand_within
    (tool : Tool)
    (command : XCommand) :
    Ensures (OrStuck (JumpsWithin jumps))
      (runCommand env (.xtables tool .default command))
      (fun _ =>
        OrStuck (JumpsWithin fun other =>
          jumps other ++
            if other = tool then command.inserted?.toList else [])) := by
  intro world before
  rcases before with within | stuck
  · refine .inl ?_
    intro other rule chain isJump
    have bound := within other rule chain isJump
    rw [List.count_append]
    rcases runCommand_firewall env (.xtables tool .default command) world with
      ⟨executed, -, -⟩ | ⟨unchanged, -, -⟩
    · obtain ⟨table, ran, changed⟩ := Option.map_eq_some_iff.mp executed
      rw [← changed]
      by_cases same : other = tool
      · subst same
        have added := XCommand.count_of_exec ran rule
        rw [Firewall.setTable_same, if_pos rfl]
        omega
      · rw [Firewall.setTable_other _ (fun both => same both.1)]
        exact Nat.le_add_right_of_le bound
    · rw [unchanged]
      exact Nat.le_add_right_of_le bound
  · exact .inr (stuck.mono (runCommand_keeps env (.xtables tool .default command) world).toAdvances)

theorem runBoot_within
    (tool : Tool)
    (command : XCommand) :
    Ensures (OrStuck (JumpsWithin jumps)) (runBoot env tool command)
      (fun _ =>
        OrStuck (JumpsWithin fun other =>
          jumps other ++
            if other = tool then command.inserted?.toList else [])) := by
  refine .bind (runCommand_within tool command) ?_
  intro _
  exact .pure fun _ after => after

theorem createChain_within (tool : Tool) :
    Ensures (OrStuck (JumpsWithin jumps)) (createChain env tool)
      (fun _ => OrStuck (JumpsWithin jumps)) := by
  have keeps
      {command : XCommand}
      (inserts : command.inserted? = none) :
      Ensures (OrStuck (JumpsWithin jumps)) (runBoot env tool command)
        (fun _ => OrStuck (JumpsWithin jumps)) := by
    have ran := @runBoot_within env jumps tool command
    simp only [inserts, Option.toList_none, ite_self, List.append_nil] at ran
    exact ran
  refine (keeps rfl).bind ?_
  intro result
  cases result with
  | none => exact .pure (fun _ after => after)
  | some error => exact keeps rfl

theorem createBootChain_within :
    Ensures (OrStuck (JumpsWithin jumps)) (createBootChain env)
      (fun _ => OrStuck (JumpsWithin jumps)) := by
  refine .bind (createChain_within .iptables) ?_
  intro result
  cases result with
  | some error => exact .pure (fun _ after => after)
  | none =>
    refine .seq (createChain_within .ip6tables) ?_
    exact .pure fun _ after => after

theorem runBootLine_within (line : ScriptLine) :
    Ensures (OrStuck (JumpsWithin jumps)) (runBootLine env line)
      (fun _ =>
        OrStuck (JumpsWithin fun tool =>
          jumps tool ++ insertedRules tool [line])) := by
  cases line with
  | comment text =>
    refine .pure ?_
    intro world within
    exact within.imp_left fun bound => bound.mono (fun _ => List.sublist_append_left _ _)
  | command tool edit tried =>
    simp only [insertedRules_command]
    refine .bind (runBoot_within tool edit) ?_
    intro _
    exact .pure fun _ after => after

theorem bootLines_within (lines : List ScriptLine) :
    Ensures (OrStuck (JumpsWithin jumps))
      (lines.findSomeM? (runBootLine env))
      (fun _ =>
        OrStuck (JumpsWithin fun tool =>
          jumps tool ++ insertedRules tool lines)) := by
  induction lines generalizing jumps with
  | nil =>
    refine .pure ?_
    intro world within
    exact within.imp_left fun bound => bound.mono (fun _ => List.sublist_append_left _ _)
  | cons line rest ih =>
    simp only [insertedRules_cons _ line rest, ← List.append_assoc]
    refine .bind (runBootLine_within line) ?_
    intro result
    cases result with
    | some error =>
      refine .pure ?_
      intro world within
      exact within.imp_left
        (fun bound =>
          bound.mono (fun _ => List.sublist_append_left _ _))
    | none => exact ih

theorem addBootRules_within (allowLan : Bool) :
    Ensures (OrStuck (JumpsWithin jumps)) (addBootRules env allowLan)
      (fun _ => OrStuck (JumpsWithin jumps)) := by
  have keeps
      {lines : List ScriptLine}
      (inserts : ∀ tool, insertedRules tool lines = []) :
      Ensures (OrStuck (JumpsWithin jumps))
        (lines.findSomeM? (runBootLine env))
        (fun _ => OrStuck (JumpsWithin jumps)) := by
    have ran := @bootLines_within env jumps lines
    simp only [inserts, List.append_nil] at ran
    exact ran
  have first : ∀ tool, insertedRules tool bootRulesBeforeLan = [] := by
    intro tool
    cases tool <;> rfl
  have drops : ∀ tool, insertedRules tool bootDropRules = [] := by
    intro tool
    cases tool <;> rfl
  have lan : ∀ lanSubnets tool, insertedRules tool (bootLanRules lanSubnets) = [] := by
    intro lanSubnets tool
    refine List.filterMap_eq_nil_iff.mpr ?_
    intro line member
    rcases List.mem_append.mp member with nets | linkLocal
    · obtain ⟨net, -, rfl⟩ := List.mem_map.mp nets
      cases tool <;> rfl
    · obtain rfl := List.mem_singleton.mp linkLocal
      cases tool <;> rfl
  refine (keeps first).bind ?_
  intro result
  cases result with
  | some error => exact .pure (fun _ after => after)
  | none =>
    refine .get_any ?_
    intro current
    refine keeps ?_
    intro tool
    rw [insertedRules, List.filterMap_append]
    refine List.append_eq_nil_iff.mpr ⟨?_, drops tool⟩
    cases allowLan with
    | false => rfl
    | true => exact lan _ tool

theorem removeBootJumps_within
    {others : List XRule}
    {tool : Tool}
    (single : jumps tool = others ++ [jumpTo .boot]) :
    Ensures (OrStuck (JumpsWithin jumps)) (removeBootJumps env tool)
      (fun _ =>
        OrStuck (JumpsWithin (Function.update jumps tool others))) := by
  intro world before
  have effected := @repeatWhile_performs env tool (jumpTo .boot) 10 world
  rcases before with within | stuck
  · rcases effected.firewall with erased | stuck
    · refine .inl ?_
      intro other rule chain isJump
      have bound := within other rule chain isJump
      rw [removeBootJumps, erased, Firewall.eraseOutput]
      by_cases same : other = tool
      · subst same
        rw [single, List.count_append, List.count_singleton] at bound
        rw [Firewall.setTable_same, Function.update_self, count_eraseUpTo]
        by_cases isBoot : rule = jumpTo .boot
        · subst isBoot
          rw [if_pos (beq_self_eq_true _)] at bound
          rw [if_pos rfl]
          omega
        · rw [if_neg (fun equal => isBoot (eq_of_beq equal).symm)] at bound
          rw [if_neg isBoot]
          exact bound
      · rw [Firewall.setTable_other _ (fun both => same both.1), Function.update_of_ne same]
        exact bound
    · exact .inr stuck
  · exact .inr (stuck.mono effected.toAdvances)

theorem insertBootChainJump_within (others : List XRule) :
    Ensures (OrStuck (JumpsWithin fun _ => others ++ [jumpTo .boot]))
      (insertBootChainJump env)
      (fun _ => OrStuck (JumpsWithin fun _ => others ++ [jumpTo .boot])) := by
  refine .seq (removeBootJumps_within rfl) ?_
  refine .seq (removeBootJumps_within rfl) ?_
  refine (bootLines_within bootJumpLines).weaken ?_
  intro _ world within
  refine within.imp_left fun bound => bound.mono ?_
  intro tool
  cases tool <;> exact List.Sublist.refl _

theorem enableBootKillswitch_within
    (others : List XRule)
    (allowLan : Bool) :
    Ensures (OrStuck (JumpsWithin fun _ => others ++ [jumpTo .boot]))
      (enableBootKillswitch env allowLan)
      (fun _ => OrStuck (JumpsWithin fun _ => others ++ [jumpTo .boot])) := by
  refine .bind createBootChain_within ?_
  intro created
  cases created with
  | some error => exact .pure (fun _ after => after)
  | none =>
    refine .bind (addBootRules_within allowLan) ?_
    intro added
    cases added with
    | some error => exact .pure (fun _ after => after)
    | none => exact insertBootChainJump_within others

end Commands

def editsBoot : XCommand → Bool
  | .newChain .boot => true
  | .append (.user .boot) _ => true
  | .flush .boot => true
  | .deleteChain .boot => true
  | .insert .output _ rule => decide (rule = jumpTo .boot)
  | .delete .output rule => decide (rule = jumpTo .boot)
  | _ => false

def lineEditsBoot : ScriptLine → Bool
  | .comment _ => true
  | .command _ command _ => editsBoot command

theorem bootLines_edit :
    (∀ line ∈ bootRulesBeforeLan, lineEditsBoot line = true) ∧
      (∀ line ∈ bootJumpLines, lineEditsBoot line = true) := by
  decide

theorem bootRulesFromLan_edit
    (allowLan : Bool)
    (lanSubnets : List Cidr4) :
    ∀ line ∈
        (if allowLan then bootLanRules lanSubnets else []) ++ bootDropRules,
      lineEditsBoot line = true := by
  have drops : ∀ line ∈ bootDropRules, lineEditsBoot line = true := by decide
  intro line member
  rcases List.mem_append.mp member with inLan | inDrops
  · cases allowLan with
    | false => exact absurd inLan List.not_mem_nil
    | true =>
      rcases List.mem_append.mp inLan with inSubnets | linkLocal
      · obtain ⟨net, -, rfl⟩ := List.mem_map.mp inSubnets
        rfl
      · rw [List.mem_singleton.mp linkLocal]
        rfl
  · exact drops line inDrops

section Follows

variable
  {env : FwEnv}
  {relation : KsWorld → KsWorld → Prop}
  [IsPreorder KsWorld relation]

theorem runBoot_follows
    {tool : Tool}
    {command : XCommand}
    (step : Keeps relation (runCommand env (.xtables tool .default command))) :
    Keeps relation (runBoot env tool command) :=
  step.bind (fun _ => .pure)

theorem bootLines_follows
    {lines : List ScriptLine}
    (step :
      ∀ tool command tried, .command tool command tried ∈ lines →
        Keeps relation (runCommand env (.xtables tool .default command))) :
    Keeps relation (lines.findSomeM? (runBootLine env)) := by
  refine .findSomeM? ?_
  intro line member
  cases line with
  | comment text => exact .pure
  | command tool command tried =>
    exact (runBoot_follows (step tool command tried member)).bind fun _ => .pure

theorem createChain_follows
    {tool : Tool}
    (step :
      ∀ command ∈ [XCommand.newChain .boot, .flush .boot],
        Keeps relation (runCommand env (.xtables tool .default command))) :
    Keeps relation (createChain env tool) := by
  refine (runBoot_follows (step _ List.mem_cons_self)).bind ?_
  intro result
  cases result with
  | none => exact .pure
  | some error =>
    exact runBoot_follows (step _ (List.mem_cons_of_mem _ List.mem_cons_self))

theorem insertBootChainJump_follows
    (step :
      ∀ tool, ∀ command ∈
          [XCommand.delete .output (jumpTo .boot), .insert .output 1 (jumpTo .boot)],
        Keeps relation (runCommand env (.xtables tool .default command))) :
    Keeps relation (insertBootChainJump env) := by
  have removes (tool : Tool) : Keeps relation (removeBootJumps env tool) :=
    .repeatWhile (succeeds_follows (step tool _ List.mem_cons_self)) 10
  refine (removes _).seq ((removes _).bind (fun _ => ?_))
  refine bootLines_follows ?_
  intro tool command tried member
  refine step tool command (List.mem_cons_of_mem _ ?_)
  simp only [bootJumpLines, List.mem_cons, List.not_mem_nil, or_false,
    ScriptLine.command.injEq] at member
  rcases member with ⟨-, rfl, -⟩ | ⟨-, rfl, -⟩ <;>
    exact List.mem_singleton_self _

theorem enableBootKillswitch_follows
    (step :
      ∀ tool command, editsBoot command = true →
        Keeps relation (runCommand env (.xtables tool .default command)))
    (allowLan : Bool) :
    Keeps relation (enableBootKillswitch env allowLan) := by
  have lines
      {lines : List ScriptLine}
      (edit : ∀ line ∈ lines, lineEditsBoot line = true) :
      Keeps relation (lines.findSomeM? (runBootLine env)) :=
    bootLines_follows (fun tool command _ member => step tool command (edit _ member))
  have creates (tool : Tool) : Keeps relation (createChain env tool) := by
    refine createChain_follows ?_
    intro command listed
    refine step tool command ?_
    simp only [List.mem_cons, List.not_mem_nil, or_false] at listed
    rcases listed with rfl | rfl <;> rfl
  have adds : Keeps relation (addBootRules env allowLan) := by
    refine (lines bootLines_edit.1).bind ?_
    intro result
    cases result with
    | some error => exact .pure
    | none => exact .get (fun _ => lines (bootRulesFromLan_edit allowLan _))
  have inserts : Keeps relation (insertBootChainJump env) := by
    refine insertBootChainJump_follows ?_
    intro tool command listed
    refine step tool command ?_
    simp only [List.mem_cons, List.not_mem_nil, or_false] at listed
    rcases listed with rfl | rfl <;> rfl
  refine .bind ?_ ?_
  · refine (creates _).bind ?_
    intro result
    cases result with
    | some error => exact .pure
    | none => exact (creates _).seq .pure
  · intro created
    cases created with
    | some error => exact .pure
    | none =>
      refine adds.bind ?_
      intro added
      cases added with
      | some error => exact .pure
      | none => exact inserts

theorem disableBootKillswitch_follows
    (step :
      ∀ tool command, editsBoot command = true →
        Keeps relation (runCommand env (.xtables tool .default command))) :
    Keeps relation (disableBootKillswitch env) := by
  have boots
      {tool : Tool}
      {command : XCommand}
      (edits : editsBoot command = true) :
      Keeps relation (runBoot env tool command) :=
    runBoot_follows (step tool command edits)
  have removes (tool : Tool) : Keeps relation (removeAllBootJumps env tool) :=
    .repeatWhile (succeeds_follows (step tool _ (by decide))) 100
  refine (removes _).bind fun _ => (removes _).bind fun _ => ?_
  refine (boots rfl).bind fun _ => (boots rfl).bind fun _ => ?_
  exact (boots rfl).bind fun _ => (boots rfl).bind fun _ => .pure

end Follows

theorem enableBootKillswitch_keeps
    (env : FwEnv)
    (allowLan : Bool) :
    Keeps CommandsOnly (enableBootKillswitch env allowLan) :=
  enableBootKillswitch_follows (fun _ _ _ => runCommand_keeps env _) allowLan

def shroudJumps : List XRule :=
  [jumpTo .killSwitch, jumpTo .boot]

structure NoShroud (firewall : Firewall) : Prop where
  chains : ∀ tool variant chain, (firewall.table tool variant).user chain = none
  jumps :
    ∀ tool variant,
      ∀ rule ∈ (firewall.table tool variant).output, ∀ chain, rule.jumpsTo chain = false
  nft : firewall.nft = none

/--
The worlds that calls of `enable`, changes of the configuration, time and
calls of `enable_boot_killswitch` lead to.
-/
inductive Reachable (env : FwEnv) (prior : Firewall) : KsWorld → Prop where
  | start
      {dnsMode : DnsMode}
      {ipv6Mode : Ipv6Mode}
      {blockDoh : Bool}
      {customDohBlocklist : List String}
      {host : Host}
      (firewall : host.firewall = prior) :
      Reachable env prior ⟨.withConfig dnsMode ipv6Mode blockDoh customDohBlocklist, host⟩
  | step
      {world : KsWorld}
      (reached : Reachable env prior world)
      (step : HistoryStep) :
      Reachable env prior (step.after env world)
  | boot
      {world : KsWorld}
      (reached : Reachable env prior world)
      (allowLan : Bool) :
      Reachable env prior ((enableBootKillswitch env allowLan).run world).2

theorem ipv6FrontRules_noJump
    {ipv6Mode : Ipv6Mode}
    {lanSubnets6 : List Cidr6}
    {rule : XRule}
    (member : rule ∈ ipv6FrontRules ipv6Mode lanSubnets6)
    (chain : Chain) :
    rule.jumpsTo chain = false := by
  have decides : ∃ tests target, rule = .rule tests target ∧ ∀ chain, target ≠ .jump chain := by
    cases ipv6Mode with
    | block =>
      simp only [ipv6FrontRules, List.mem_cons, List.not_mem_nil, or_false] at member
      rcases member with rfl | rfl <;> exact ⟨_, _, rfl, by simp⟩
    | off => exact absurd member List.not_mem_nil
    | tunnel =>
      simp only [ipv6FrontRules, List.mem_append, List.mem_cons,
        List.not_mem_nil, or_false, List.mem_map] at member
      rcases member with ((rfl | rfl | rfl) | ⟨net, -, rfl⟩) | rfl <;>
        exact ⟨_, _, rfl, by simp⟩
  obtain ⟨tests, target, rfl, noJump⟩ := decides
  cases target with
  | jump other => exact absurd rfl (noJump other)
  | _ => rfl

theorem JumpsWithin.of_noShroud
    {firewall : Firewall}
    (noShroud : NoShroud firewall)
    (jumps : Tool → List XRule) :
    JumpsWithin jumps firewall := by
  intro tool rule chain isJump
  have absent : rule ∉ (firewall.table tool .default).output := by
    intro member
    have noJump := noShroud.jumps tool .default rule member chain
    exact absurd isJump (noJump ▸ Bool.false_ne_true)
  rw [List.count_eq_zero.mpr absent]
  exact Nat.zero_le _

theorem currentScript_jumps
    (env : FwEnv)
    (world : KsWorld)
    (vpnServerIps : List IpAddr)
    (tool : Tool)
    {rule : XRule}
    {chain : Chain}
    (isJump : rule.jumpsTo chain = true) :
    (insertedRules tool (currentScript env world vpnServerIps)).count rule ≤
      [jumpTo .killSwitch].count rule := by
  rw [currentScript]
  cases tool with
  | iptables =>
    rw [insertedRules_iptables]
    exact Nat.le_refl _
  | ip6tables =>
    rw [insertedRules_ip6tables]
    have absent :
        rule ∉ ipv6FrontRules world.ks.settings.ipv6Mode (env.lanSubnets6 world.host.issued) := by
      intro member
      exact absurd isJump (ipv6FrontRules_noJump member chain ▸ Bool.false_ne_true)
    rw [List.count_eq_zero.mpr absent]
    exact Nat.zero_le _

theorem jumpsCycle
    (env : FwEnv)
    (settings : KillSwitchSettings) :
    InstallCycle env settings (JumpsWithin fun _ => shroudJumps)
      (JumpsWithin fun _ => [jumpTo .boot]) where
  cleans := by
    intro firewall within tool rule chain isJump
    have bound := within tool rule chain isJump
    rw [robustlyCleaned_default, Table.scrub_output,
      count_eraseEach 100 (removedPatterns_nodup tool)]
    by_cases isKillSwitch : rule = jumpTo .killSwitch
    · have listed : rule ∈ removedPatterns tool := by
        rw [isKillSwitch]
        cases tool <;> decide
      subst isKillSwitch
      rw [if_pos listed]
      exact (Nat.sub_le_sub_right bound 100).trans (Nat.zero_le _)
    · have allowed : shroudJumps.count rule = [jumpTo .boot].count rule :=
        List.count_cons_of_ne (fun equal => isKillSwitch equal.symm)
      have fewer : (firewall.table tool .default).output.count rule ≤ [jumpTo .boot].count rule :=
        bound.trans_eq allowed
      split
      · exact (Nat.sub_le _ _).trans fewer
      · exact fewer
  scripts := by
    intro _ world vpnServerIps same within tool rule chain isJump
    have bound := within tool rule chain isJump
    have grown :=
      (runSingleScript_grown env (currentScript env world vpnServerIps)
        world).rules tool .default rule
    have inserted := currentScript_jumps env world vpnServerIps tool isJump
    refine grown.trans ((Nat.add_le_add bound inserted).trans ?_)
    rw [Nat.add_comm]
    exact Nat.le_of_eq (@List.count_append _ _ rule [jumpTo .killSwitch] [jumpTo .boot]).symm
  tables _ _ within tables := within.of_tables tables
  weaken _ within := within.mono (fun _ => List.sublist_append_right [jumpTo .killSwitch] _)

/-- In every reachable world each jump stands in a default table once. -/
theorem Reachable.contained
    {env : FwEnv}
    {prior : Firewall}
    (noShroud : NoShroud prior)
    {world : KsWorld}
    (reached : Reachable env prior world) :
    Contained (JumpsWithin fun _ => shroudJumps) (JumpsWithin fun _ => [jumpTo .boot]) world := by
  induction reached with
  | start firewall =>
    subst firewall
    have within := JumpsWithin.of_noShroud noShroud
    exact ⟨.inl (within _), fun _ => .inl (within _)⟩
  | step reached step ih =>
    exact HistoryStep.after_contained (fun _ => jumpsCycle env _) ih
  | @boot world reached allowLan ih =>
    constructor
    · exact enableBootKillswitch_within [jumpTo .killSwitch] allowLan world
        ih.tables
    · intro onNft
      have backend : ((enableBootKillswitch env allowLan).run world).2.ks = world.ks :=
        (enableBootKillswitch_keeps env allowLan world).ks
      rw [backend] at onNft
      exact enableBootKillswitch_within [] allowLan world (ih.nftables onNft)

end KillSwitch

end Shroud
