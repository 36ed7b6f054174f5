import Shroud.BootHistory
import Shroud.KillSwitchCleanup

namespace Shroud

open Netfilter IptablesScript StateProgram BoundedErase

/-!
# What the cleanup on the way out does

`run_cleanup_command` removes the jumps to the two chains of Shroud from both
default tools, then the chains, then the nft table.  A removal that finds
nothing is not an error; one that overruns its deadline ends the cleanup.
-/

namespace Netfilter.Firewall

theorem table_setTable
    (firewall : Firewall)
    (tool other : Tool)
    (variant otherVariant : Variant)
    (table : Table) :
    (firewall.setTable tool variant table).table other otherVariant =
      if other = tool ∧ otherVariant = variant then table
      else firewall.table other otherVariant := by
  by_cases same : other = tool ∧ otherVariant = variant
  · obtain ⟨rfl, rfl⟩ := same
    rw [setTable_same, if_pos ⟨rfl, rfl⟩]
  · rw [setTable_other _ same, if_neg same]

theorem eq_of_tables
    {first second : Firewall}
    (tables : ∀ tool variant, first.table tool variant = second.table tool variant)
    (nft : first.nft = second.nft) :
    first = second := by
  cases first with
  | mk firstTable firstNft =>
    cases second with
    | mk secondTable secondNft =>
      rw [mk.injEq]
      refine ⟨?_, nft⟩
      funext tool variant
      exact tables tool variant

end Netfilter.Firewall

variable {command : FwCommand}

namespace FwCommand

def cleans : FwCommand → Bool
  | .xtables _ .default (.delete _ _) => true
  | .xtables _ .default (.flush _) => true
  | .xtables _ .default (.deleteChain _) => true
  | .nftDelete => true
  | _ => false

theorem removes_of_cleans (cleans : command.cleans = true) :
    command.removes = true := by
  unfold FwCommand.cleans at cleans
  split at cleans
  · rfl
  · rfl
  · rfl
  · rfl
  · exact Bool.noConfusion cleans

end FwCommand

namespace KillSwitch

def cleanedUp (firewall : Firewall) : Firewall :=
  { (firewall.scrub .iptables shroudJumps shroudChains).scrub .ip6tables
      shroudJumps shroudChains with
    nft := none }

theorem cleanedUp_default
    (firewall : Firewall)
    (tool : Tool) :
    (cleanedUp firewall).table tool .default =
      (firewall.table tool .default).scrub tool shroudJumps shroudChains :=
  firewall.scrub_scrub (fun _ => shroudJumps) shroudChains tool

theorem cleanedUp_legacy
    (firewall : Firewall)
    (tool : Tool) :
    (cleanedUp firewall).table tool .legacy = firewall.table tool .legacy :=
  (Firewall.scrub_other (by simp) _ _ _).trans (Firewall.scrub_other (by simp) _ _ _)

variable {tool : Tool} {steps : List (String × FwCommand)}

section Programs

variable
  {env : FwEnv}
  {relation : KsWorld → KsWorld → Prop}
  [IsPreorder KsWorld relation]

theorem removeJumps_follows
    {chain : Chain}
    (step :
      Keeps relation (runCommand env (.xtables tool .default (.delete .output (jumpTo chain)))))
    (limit : Nat) :
    Keeps relation (removeJumps env tool chain limit) := by
  induction limit with
  | zero => exact .pure
  | succ limit ih =>
    refine step.bind ?_
    intro outcome
    refine .either .pure ?_
    exact .either ih .pure

theorem cleanupSteps_follows
    (step : ∀ entry ∈ steps, Keeps relation (runCommand env entry.2))
    (failures : List String) :
    Keeps relation (cleanupSteps env steps failures) := by
  induction steps generalizing failures with
  | nil => exact .pure
  | cons entry rest ih =>
    obtain ⟨label, command⟩ := entry
    have later :=
      ih (fun entry member => step entry (List.mem_cons_of_mem _ member))
    refine .bind ?_ ?_
    · refine (step _ List.mem_cons_self).bind ?_
      intro outcome
      cases outcome <;> exact .pure
    · intro result
      cases result with
      | error error => exact .pure
      | ok noted => exact later noted

theorem cleanupScript_all
    {holds : FwCommand → Bool}
    (chains :
      ∀ entry ∈ shroudChains.flatMap chainCommands,
        holds (.xtables entry.1 .default entry.2) = true)
    (nft : holds .nftDelete = true) :
    ∀ step ∈ cleanupScript env, holds step.2 = true := by
  intro step member
  rw [cleanupScript, List.mem_append, List.mem_singleton] at member
  rcases member with inChains | rfl
  · obtain ⟨⟨tool, command⟩, listed, rfl⟩ := List.mem_map.mp inChains
    exact chains _ listed
  · exact nft

theorem cleanupScript_cleans :
    ∀ step ∈ cleanupScript env, step.2.cleans = true :=
  cleanupScript_all (by decide) rfl

theorem runCleanupCommand_moves
    (jumps :
      ∀ tool chain,
        Keeps relation (runCommand env (.xtables tool .default (.delete .output (jumpTo chain)))))
    (steps : ∀ entry ∈ cleanupScript env, Keeps relation (runCommand env entry.2)) :
    Keeps relation (runCleanupCommand env) := by
  refine .bind ?_ ?_
  · refine .findSomeM? ?_
    rintro ⟨tool, chain⟩ _
    exact removeJumps_follows (jumps tool chain) 100
  · intro result
    cases result with
    | some error => exact .pure
    | none =>
      refine .bind (cleanupSteps_follows steps []) ?_
      intro outcome
      cases outcome with
      | error error => exact .pure
      | ok noted =>
        cases noted with
        | nil => exact .pure
        | cons failure failures => exact .pure

theorem runCleanupCommand_follows
    (step : ∀ command, command.cleans = true → Keeps relation (runCommand env command)) :
    Keeps relation (runCleanupCommand env) :=
  runCleanupCommand_moves (fun _ _ => step _ rfl)
    (fun entry member => step entry.2 (cleanupScript_cleans entry member))

theorem chainExists_follows
    (step : Keeps relation (runCommand env (.xtables tool .default (.list .killSwitch)))) :
    Keeps relation (chainExists env tool) :=
  succeeds_follows step

section Cleanups

variable
  (removal : ∀ command, command.cleans = true → Keeps relation (runCommand env command))
  (listing : ∀ tool chain, Keeps relation (runCommand env (.xtables tool .default (.list chain))))

include listing

theorem cleanupAll_moves (commands : Keeps relation (runCleanupCommand env)) :
    Keeps relation (cleanupAll env) := by
  have exists4 := chainExists_follows (listing .iptables .killSwitch)
  have exists6 := chainExists_follows (listing .ip6tables .killSwitch)
  have existsBoot : Keeps relation (bootChainExists env) :=
    succeeds_follows (listing .iptables .boot)
  refine commands.seq ?_
  refine exists4.bind fun left4 => exists6.bind (fun left6 => ?_)
  refine existsBoot.bind ?_
  intro leftBoot
  exact .either .pure .pure

include removal

theorem cleanupWithFallback_follows :
    Keeps relation (cleanupWithFallback env) := by
  have exists4 := chainExists_follows (listing .iptables .killSwitch)
  have exists6 := chainExists_follows (listing .ip6tables .killSwitch)
  refine .bind (exists4.bind (fun _ => exists6.bind (fun _ => .pure))) ?_
  intro found
  refine .either ?_ .pure
  refine .get ?_
  intro before
  refine (runCleanupCommand_follows removal).bind ?_
  intro error?
  refine .get ?_
  intro after
  refine .either .pure ?_
  cases error? with
  | some error => exact .pure
  | none =>
    refine exists4.bind ?_
    intro left4
    refine .either .pure ?_
    refine exists6.bind ?_
    intro left6
    exact .either .pure .pure

theorem cleanupAll_follows :
    Keeps relation (cleanupAll env) :=
  cleanupAll_moves listing (runCleanupCommand_follows removal)

theorem cleanupStaleOnStartup_follows :
    Keeps relation (cleanupStaleOnStartup env) := by
  have exists4 := chainExists_follows (listing .iptables .killSwitch)
  have exists6 := chainExists_follows (listing .ip6tables .killSwitch)
  have existsBoot : Keeps relation (bootChainExists env) :=
    succeeds_follows (listing .iptables .boot)
  refine exists4.bind fun found4 => exists6.bind (fun found6 => ?_)
  refine existsBoot.bind ?_
  intro foundBoot
  refine .either ?_ .pure
  exact (cleanupAll_follows removal listing).bind fun _ => .pure

end Cleanups

end Programs

/-- A program that has an effect whenever its result is good. -/
def PerformsWhen
    {α : Type}
    (good : α → Prop)
    (effect : Firewall → Firewall)
    (program : StateM KsWorld α) : Prop :=
  ∀ world, good (program.run world).1 → Effected effect world (program.run world).2

section Performing

variable {env : FwEnv}

theorem PerformsWhen.congr
    {α : Type}
    {good : α → Prop}
    {effect other : Firewall → Firewall}
    {program : StateM KsWorld α}
    (performs : PerformsWhen good effect program)
    (same : ∀ firewall, effect firewall = other firewall) :
    PerformsWhen good other program := by
  have equal : effect = other := funext same
  rw [← equal]
  exact performs

theorem PerformsWhen.bind
    {α β : Type}
    {fit : α → Prop}
    {good : β → Prop}
    {first later : Firewall → Firewall}
    {program : StateM KsWorld α}
    {next : α → StateM KsWorld β}
    (begins : PerformsWhen fit first program)
    (goesOn : ∀ value, fit value → PerformsWhen good later (next value))
    (abandons : ∀ value world, good ((next value).run world).1 → fit value) :
    PerformsWhen good (later ∘ first) (program >>= next) := by
  intro world isGood
  have fits := abandons _ _ isGood
  exact (begins world fits).trans (goesOn _ fits _ isGood)

theorem PerformsWhen.concludes
    {α β : Type}
    {fit : α → Prop}
    {good : β → Prop}
    {effect : Firewall → Firewall}
    {program : StateM KsWorld α}
    {next : α → StateM KsWorld β}
    (performs : PerformsWhen fit effect program)
    (ends : ∀ value, ∃ result, next value = pure result ∧ (good result → fit value)) :
    PerformsWhen good effect (program >>= next) := by
  intro world isGood
  obtain ⟨result, ended, sound⟩ := ends (program.run world).1
  rw [run_bind, ended] at isGood ⊢
  exact performs world (sound isGood)

theorem PerformsWhen.findSomeM?
    {ι β : Type}
    {effect : ι → Firewall → Firewall}
    {body : ι → StateM KsWorld (Option β)}
    (step : ∀ item, PerformsWhen (· = none) (effect item) (body item))
    (items : List ι) :
    PerformsWhen (· = none)
      (fun firewall =>
        items.foldl (fun current item => effect item current) firewall)
      (items.findSomeM? body) := by
  induction items with
  | nil => exact fun world _ => Performs.pure world
  | cons item rest ih =>
    refine @PerformsWhen.bind _ _ _ _ _
      (fun firewall =>
        rest.foldl (fun current item => effect item current) firewall)
      _ _ (step item) ?_ ?_
    · rintro _ rfl
      exact ih
    · intro hit world missed
      cases hit with
      | none => rfl
      | some value => exact absurd missed nofun

theorem removeJumps_performs
    (tool : Tool)
    (chain : Chain)
    (limit : Nat) :
    PerformsWhen (· = none)
      (Firewall.eraseOutput limit tool (jumpTo chain))
      (removeJumps env tool chain limit) := by
  induction limit with
  | zero =>
    intro world _
    have same := Firewall.eraseOutput_zero tool (jumpTo chain)
    exact Performs.pure.congr (fun firewall => (same firewall).symm) world
  | succ limit ih =>
    intro world
    rw [removeJumps, run_bind, show XRule.rule [] (.jump chain) = jumpTo chain from rfl]
    by_cases overrun :
        ((runCommand env (.xtables tool .default
          (.delete .output (jumpTo chain)))).run world).1 = .timedOut
    · rw [if_pos overrun]
      exact fun ended => absurd ended nofun
    rw [if_neg overrun]
    cases goesOn :
        ((runCommand env (.xtables tool .default
          (.delete .output (jumpTo chain)))).run world).1.succeeded with
    | true => exact fun clear => delete_goesOn (ih _ clear)
    | false => exact fun _ => delete_ends limit goesOn

theorem cleanupStep_world
    (label : String)
    (command : FwCommand)
    (failures : List String)
    (world : KsWorld) :
    ((cleanupStep env label command failures).run world).2 =
      ((runCommand env command).run world).2 := by
  rw [cleanupStep, run_bind]
  cases ((runCommand env command).run world).1 <;> rfl

theorem cleanupSteps_performs
    {steps : List (String × FwCommand)}
    (removals : ∀ step ∈ steps, step.2.removes = true)
    (failures : List String) :
    PerformsWhen (fun result => ∃ noted, result = .ok noted)
      (fun firewall =>
        steps.foldl (fun current step => step.2.attempt current) firewall)
      (cleanupSteps env steps failures) := by
  induction steps generalizing failures with
  | nil => exact fun world _ => Performs.pure world
  | cons step rest ih =>
    obtain ⟨label, command⟩ := step
    have later :=
      ih (fun step member => removals step (List.mem_cons_of_mem _ member))
    have tried :
        PerformsWhen (fun result => ∃ noted, result = .ok noted)
          command.attempt (cleanupStep env label command failures) := by
      intro world _
      rw [cleanupStep_world]
      exact runCommand_performs (removals _ List.mem_cons_self) world
    refine @PerformsWhen.bind _ _ _ _ _
      (fun firewall =>
        rest.foldl (fun current step => step.2.attempt current) firewall)
      _ _ tried ?_ ?_
    · rintro _ ⟨noted, rfl⟩
      exact later noted
    · intro result world ended
      cases result with
      | ok noted => exact ⟨noted, rfl⟩
      | error error =>
        obtain ⟨noted, isOk⟩ := ended
        exact absurd isOk nofun

theorem cleanedUp_of_commands (firewall : Firewall) :
    (cleanupScript env).foldl (fun current step => step.2.attempt current)
        ((shroudChains.flatMap fun chain =>
            cleanupTools.map fun tool => (tool, chain)).foldl
          (fun current item =>
            current.eraseOutput 100 item.1 (jumpTo item.2)) firewall) =
      cleanedUp firewall := by
  refine Firewall.eq_of_tables ?_ ?_
  · intro tool variant
    cases variant with
    | legacy =>
      rw [cleanedUp_legacy]
      cases tool <;>
        simp [cleanupScript, shroudChains, chainCommands, cleanupTools,
          FwCommand.attempt_nftDelete, FwCommand.attempt_xtables,
          Firewall.eraseOutput, Firewall.table_setTable]
    | default =>
      rw [cleanedUp_default]
      cases tool <;>
        simp [cleanupScript, shroudChains, chainCommands, cleanupTools,
          FwCommand.attempt_nftDelete, FwCommand.attempt_xtables,
          Firewall.eraseOutput, Firewall.table_setTable, Table.scrub,
          Table.dropChain, shroudJumps, eraseEach]
  · simp [cleanupScript, shroudChains, chainCommands, cleanupTools,
      FwCommand.attempt_nftDelete, cleanedUp]

theorem runCleanupCommand_composes
    {first later : Firewall → Firewall}
    (jumps :
      PerformsWhen (· = none) first
        ((shroudChains.flatMap fun chain =>
          cleanupTools.map fun tool => (tool, chain)).findSomeM?
            fun (tool, chain) => removeJumps env tool chain 100))
    (steps :
      PerformsWhen (fun result => ∃ noted, result = .ok noted) later
        (cleanupSteps env (cleanupScript env) [])) :
    PerformsWhen (· = none) (later ∘ first) (runCleanupCommand env) := by
  refine jumps.bind ?_ ?_
  · rintro _ rfl
    refine steps.concludes ?_
    intro result
    cases result with
    | error error => exact ⟨some error, rfl, nofun⟩
    | ok noted =>
      cases noted with
      | nil => exact ⟨none, rfl, fun _ => ⟨[], rfl⟩⟩
      | cons failure failures => exact ⟨_, rfl, nofun⟩
  · intro result world ended
    cases result with
    | none => rfl
    | some error => exact absurd ended nofun

/-- A cleanup without an error has removed what it can. -/
theorem runCleanupCommand_performs :
    PerformsWhen (· = none) cleanedUp (runCleanupCommand env) := by
  have each :
      ∀ item : Tool × Chain,
        PerformsWhen (· = none)
          (Firewall.eraseOutput 100 item.1 (jumpTo item.2))
          (match item with
            | (tool, chain) => removeJumps env tool chain 100) :=
    fun item => removeJumps_performs item.1 item.2 100
  have jumps :=
    PerformsWhen.findSomeM? each
      (shroudChains.flatMap fun chain =>
        cleanupTools.map fun tool => (tool, chain))
  have steps :=
    @cleanupSteps_performs env (cleanupScript env)
      (fun step member =>
        FwCommand.removes_of_cleans (cleanupScript_cleans step member)) []
  refine (runCleanupCommand_composes jumps steps).congr ?_
  intro firewall
  rw [Function.comp_apply]
  exact cleanedUp_of_commands firewall

end Performing

/-- Every command of a cleanup is answered, by success or by refusal. -/
structure Answers (env : FwEnv) : Prop where
  xtables : ∀ number tool command, env.fault number (.xtables tool .default command) = none
  nft : ∀ number, env.fault number .nftDelete = none

theorem Answers.cleans
    {env : FwEnv}
    (answers : Answers env)
    (cleans : command.cleans = true)
    (number : Nat) :
    env.fault number command = none := by
  unfold FwCommand.cleans at cleans
  split at cleans
  · exact answers.xtables number _ _
  · exact answers.xtables number _ _
  · exact answers.xtables number _ _
  · exact answers.nft number
  · exact Bool.noConfusion cleans

section Answering

variable {env : FwEnv} {firewall : Firewall}

theorem succeeds_list_absent
    {tool : Tool}
    {chain : Chain}
    {world : KsWorld}
    (absent : ((firewallOf world).table tool .default).user chain = none) :
    ((succeeds env (.xtables tool .default (.list chain))).run world).1 = false := by
  rcases runCommand_firewall env (.xtables tool .default (.list chain))
    world with ⟨executed, -, -⟩ | ⟨-, failed, -⟩
  · obtain ⟨table, ran, -⟩ := Option.map_eq_some_iff.mp executed
    obtain ⟨rules, present, -⟩ := Option.map_eq_some_iff.mp ran
    rw [absent] at present
    exact absurd present nofun
  · exact failed

theorem succeeds_list_present
    (answers : Answers env)
    {chain : Chain}
    {world : KsWorld}
    (present : ((firewallOf world).table tool .default).user chain ≠ none) :
    ((succeeds env (.xtables tool .default (.list chain))).run world).1 = true := by
  obtain ⟨rules, isThere⟩ := Option.ne_none_iff_exists'.mp present
  rcases runCommand_firewall env (.xtables tool .default (.list chain))
    world with ⟨-, succeeded, -⟩ | ⟨-, -, refused | ⟨faulted, -⟩⟩
  · exact succeeded
  · rw [FwCommand.exec, XCommand.exec, isThere] at refused
    exact absurd refused (by simp)
  · rw [answers.xtables] at faulted
    exact absurd faulted (by simp)

theorem chainExists_spec (tool : Tool) :
    Ensures (fun world => firewallOf world = firewall)
      (chainExists env tool)
      (fun found world =>
        firewallOf world = firewall ∧
          (found = true → (firewall.table tool .default).user .killSwitch ≠ none) ∧
          (Answers env → found = false →
            (firewall.table tool .default).user .killSwitch = none)) := by
  rintro world rfl
  have kept : FirewallKept world ((chainExists env tool).run world).2 :=
    chainExists_follows (runCommand_observes env rfl) world
  refine ⟨kept.firewall, ?_, ?_⟩
  · intro found absent
    have missed := @succeeds_list_absent env _ _ _ absent
    exact Bool.noConfusion (found.symm.trans missed)
  · intro answers missed
    by_contra present
    have found := succeeds_list_present answers present
    exact Bool.noConfusion (found.symm.trans missed)

theorem chainsExist_spec :
    Ensures (fun world => firewallOf world = firewall)
      (chainsExist env)
      (fun found world =>
        firewallOf world = firewall ∧
          (found = true → ∃ tool, (firewall.table tool .default).user .killSwitch ≠ none) ∧
          (Answers env → found = false →
            ∀ tool, (firewall.table tool .default).user .killSwitch = none)) := by
  refine .bind (chainExists_spec .iptables) ?_
  intro found4 world before
  obtain ⟨same, sound4, complete4⟩ := before
  obtain ⟨kept, sound6, complete6⟩ := @chainExists_spec env firewall .ip6tables world same
  refine ⟨kept, ?_, ?_⟩
  · intro found
    rcases Bool.or_eq_true_iff.mp found with found4 | found6
    · exact ⟨.iptables, sound4 found4⟩
    · exact ⟨.ip6tables, sound6 found6⟩
  · intro answers missed tool
    obtain ⟨missed4, missed6⟩ := Bool.or_eq_false_iff.mp missed
    cases tool with
    | iptables => exact complete4 answers missed4
    | ip6tables => exact complete6 answers missed6

theorem verifyCleanup_cleaned
    (gone : ∀ tool, (firewall.table tool .default).user .killSwitch = none) :
    Ensures (fun world => firewallOf world = firewall)
      (verifyCleanup env)
      (fun result world =>
        firewallOf world = firewall ∧ result = .cleaned) := by
  refine .bind (chainExists_spec .iptables) ?_
  intro found4
  refine .ite ?_ ?_
  · rintro isFound world ⟨-, sound, -⟩
    exact absurd (gone _) (sound isFound)
  · intro _
    refine .bind ((chainExists_spec .ip6tables).strengthen (fun _ before => before.1)) ?_
    intro found6
    refine .ite ?_ ?_
    · rintro isFound world ⟨-, sound, -⟩
      exact absurd (gone _) (sound isFound)
    · intro _
      exact .pure fun _ before => ⟨before.1, rfl⟩

theorem verifyCleanup_spec (start : KsWorld) :
    Ensures (FirewallKept start) (verifyCleanup env)
      (fun result world =>
        FirewallKept start world ∧ result ≠ .nothingToClean) := by
  have looks :
      ∀ tool, Ensures (FirewallKept start) (chainExists env tool) (fun _ => FirewallKept start) :=
    fun tool =>
      Keeps.ensures (chainExists_follows (runCommand_observes env rfl)) start
  refine (looks _).bind ?_
  intro found4
  refine .either (.pure (fun _ kept => ⟨kept, nofun⟩)) ?_
  refine (looks _).bind ?_
  intro found6
  exact .either (.pure (fun _ kept => ⟨kept, nofun⟩)) (.pure (fun _ kept => ⟨kept, nofun⟩))

theorem runCommand_exits
    (answered : ∀ number, env.fault number command = none) :
    Ensures (fun _ => True) (runCommand env command)
      (fun outcome _ => ∃ code text, outcome = .exited code text) := by
  intro world _
  have outcome : ((runCommand env command).run world).1 = world.host.outcomeOf env command :=
    rfl
  rw [outcome, Host.outcomeOf, answered]
  cases command.exec world.host.firewall with
  | none => exact ⟨_, _, rfl⟩
  | some after => exact ⟨_, _, rfl⟩

theorem removeJumps_answered
    (answers : Answers env)
    (tool : Tool)
    (chain : Chain)
    (limit : Nat) :
    Ensures (fun _ => True) (removeJumps env tool chain limit) (fun result _ => result = none) := by
  induction limit with
  | zero => exact .pure (fun _ _ => rfl)
  | succ limit ih =>
    refine .bind (runCommand_exits (fun number => answers.xtables number _ _)) ?_
    intro outcome
    rintro world ⟨code, text, rfl⟩
    rw [if_neg (by nofun)]
    by_cases goesOn : (Outcome.exited code text).succeeded = true
    · rw [if_pos goesOn]
      exact ih world trivial
    · rw [if_neg goesOn]
      rfl

theorem cleanupStep_answered
    (answered : ∀ number, env.fault number command = none)
    (label : String)
    (failures : List String) :
    Ensures (fun _ => True) (cleanupStep env label command failures)
      (fun result _ => result = .ok failures) := by
  refine .bind (runCommand_exits answered) ?_
  rintro outcome world ⟨code, text, rfl⟩
  rfl

theorem cleanupSteps_answered
    (answers : Answers env)
    (cleans : ∀ step ∈ steps, step.2.cleans = true)
    (failures : List String) :
    Ensures (fun _ => True) (cleanupSteps env steps failures)
      (fun result _ => result = .ok failures) := by
  induction steps with
  | nil => exact .pure (fun _ _ => rfl)
  | cons step rest ih =>
    obtain ⟨label, command⟩ := step
    have answered := answers.cleans (cleans _ List.mem_cons_self)
    refine .bind (cleanupStep_answered answered label failures) ?_
    rintro _ world rfl
    exact ih
      (fun step member => cleans step (List.mem_cons_of_mem _ member))
      world trivial

theorem removeAllJumps_answered (answers : Answers env) :
    Ensures (fun _ => True)
      ((shroudChains.flatMap fun chain =>
        cleanupTools.map fun tool => (tool, chain)).findSomeM?
          fun (tool, chain) => removeJumps env tool chain 100)
      (fun error? _ => error? = none) := by
  refine .strengthen
    (@Ensures.findSomeM? _ _ _ (fun error? _ => error? = none) _ _ ?_)
    (fun _ _ => rfl)
  rintro ⟨tool, chain⟩ _
  exact (removeJumps_answered answers tool chain 100).strengthen fun _ _ => trivial

/-- Where every command is answered, no cleanup fails. -/
theorem runCleanupCommand_answered (answers : Answers env) :
    Ensures (fun _ => True) (runCleanupCommand env) (fun error? _ => error? = none) := by
  have steps := cleanupSteps_answered answers (@cleanupScript_cleans env) []
  refine .bind (removeAllJumps_answered answers) ?_
  intro error?
  cases error? with
  | some error => exact fun _ failed => absurd failed nofun
  | none =>
    refine .bind (steps.strengthen (fun _ _ => trivial)) ?_
    rintro _ world rfl
    rfl

theorem runCommand_attempts
    (answered : ∀ number, env.fault number command = none)
    (world : KsWorld) :
    firewallOf ((runCommand env command).run world).2 = command.attempt (firewallOf world) := by
  have changed :
      firewallOf ((runCommand env command).run world).2 = (world.host.after env command).firewall :=
    rfl
  rw [changed, Host.after, answered]
  rfl

theorem cleanupSteps_establishes
    (answers : Answers env)
    {holds : Firewall → Prop}
    (kept :
      ∀ (command : FwCommand) firewall,
        command.cleans = true → holds firewall → holds (command.attempt firewall))
    (cleans : ∀ step ∈ steps, step.2.cleans = true)
    (failures : List String) :
    Ensures
      (fun world =>
        holds (firewallOf world) ∨ ∃ step ∈ steps, ∀ firewall, holds (step.2.attempt firewall))
      (cleanupSteps env steps failures)
      (fun _ world => holds (firewallOf world)) := by
  induction steps with
  | nil =>
    refine .pure ?_
    rintro world (holdsNow | ⟨step, member, -⟩)
    · exact holdsNow
    · exact absurd member List.not_mem_nil
  | cons step rest ih =>
    obtain ⟨label, command⟩ := step
    have answered := answers.cleans (cleans _ List.mem_cons_self)
    have later :=
      ih (fun step member => cleans step (List.mem_cons_of_mem _ member))
    have tried :
        Ensures
          (fun world =>
            holds (firewallOf world) ∨
              ∃ step ∈ (label, command) :: rest, ∀ firewall, holds (step.2.attempt firewall))
          (cleanupStep env label command failures)
          (fun result world =>
            result = .ok failures ∧
              (holds (firewallOf world) ∨
                ∃ step ∈ rest, ∀ firewall, holds (step.2.attempt firewall))) := by
      intro world before
      refine ⟨cleanupStep_answered answered label failures world trivial, ?_⟩
      rw [cleanupStep_world, runCommand_attempts answered]
      rcases before with holdsNow | ⟨step, member, makes⟩
      · exact .inl (kept _ _ (cleans _ List.mem_cons_self) holdsNow)
      · rcases List.mem_cons.mp member with rfl | later
        · exact .inl (makes _)
        · exact .inr ⟨step, later, makes⟩
    refine tried.bind ?_
    intro result
    refine .of_pure_pre ?_
    rintro rfl
    exact later

/-- What the two good results of the fallback cleanup stand for. -/
theorem cleanupWithFallback_spec :
    Ensures (fun world => firewallOf world = firewall)
      (cleanupWithFallback env)
      (fun result world =>
        (result = .cleaned → firewallOf world = cleanedUp firewall ∨ Stuck world) ∧
        (result = .nothingToClean →
          firewallOf world = firewall ∧
            (Answers env → ∀ tool, (firewall.table tool .default).user .killSwitch = none))) := by
  refine .bind chainsExist_spec ?_
  intro found
  refine .ite ?_ ?_
  · intro _
    refine .get ?_
    intro before
    have removed :
        Ensures (fun world => firewallOf world = firewall)
          (runCleanupCommand env)
          (fun error? world =>
            error? = none → firewallOf world = cleanedUp firewall ∨ Stuck world) := by
      rintro world rfl clear
      exact (runCleanupCommand_performs world clear).firewall
    refine .bind (removed.strengthen (fun _ before => before.2.1)) ?_
    intro error?
    refine .get ?_
    intro after
    refine .either ?_ ?_
    · exact .pure fun _ _ => ⟨nofun, nofun⟩
    · cases error? with
      | some error => exact .pure (fun _ _ => ⟨nofun, nofun⟩)
      | none =>
        rintro world ⟨-, removals⟩
        obtain ⟨kept, notNothing⟩ := @verifyCleanup_spec env world world (Std.Refl.refl world)
        refine ⟨fun _ => ?_, fun nothing => absurd nothing notNothing⟩
        exact (removals rfl).imp kept.firewall.trans fun stuck => stuck.mono kept.toAdvances
  · intro missed
    refine .pure ?_
    rintro world ⟨same, -, complete⟩
    refine ⟨nofun, fun _ => ⟨same, fun answers => ?_⟩⟩
    exact complete answers (Bool.eq_false_iff.mpr missed)

theorem runCleanupCommand_removes (answers : Answers env) :
    Ensures (fun world => firewallOf world = firewall)
      (runCleanupCommand env)
      (fun error? world =>
        error? = none ∧ (firewallOf world = cleanedUp firewall ∨ Stuck world)) := by
  rintro world rfl
  have clear := runCleanupCommand_answered answers world trivial
  exact ⟨clear, (runCleanupCommand_performs world clear).firewall⟩

section Establishing

variable
  (answers : Answers env)
  {holds : Firewall → Prop}
  (kept :
    ∀ (command : FwCommand) firewall,
      command.cleans = true → holds firewall → holds (command.attempt firewall))
  (made : ∃ step ∈ cleanupScript env, ∀ firewall, holds (step.2.attempt firewall))

include answers kept made

theorem runCleanupCommand_establishes :
    Ensures (fun _ => True) (runCleanupCommand env) (fun _ world => holds (firewallOf world)) := by
  have steps := cleanupSteps_establishes answers kept (@cleanupScript_cleans env) []
  refine .bind (removeAllJumps_answered answers) ?_
  intro error?
  cases error? with
  | some error => exact fun _ failed => absurd failed nofun
  | none =>
    refine .bind (steps.strengthen (fun _ _ => .inr made)) ?_
    intro result
    cases result with
    | error error => exact .pure (fun _ after => after)
    | ok noted =>
      cases noted with
      | nil => exact .pure (fun _ after => after)
      | cons failure failures => exact .pure (fun _ after => after)

theorem cleanupWithFallback_establishes
    (present : (firewall.table tool .default).user .killSwitch ≠ none) :
    Ensures (fun world => firewallOf world = firewall)
      (cleanupWithFallback env)
      (fun _ world => holds (firewallOf world)) := by
  refine .bind chainsExist_spec ?_
  intro found
  refine .ite ?_ ?_
  · intro _
    refine .get ?_
    intro before
    refine .bind
      ((runCleanupCommand_establishes answers kept made).strengthen (fun _ _ => trivial)) ?_
    intro error?
    refine .get ?_
    intro after
    refine .either (.pure (fun _ after => after.2)) ?_
    cases error? with
    | some error => exact .pure (fun _ after => after.2)
    | none =>
      rintro world ⟨-, holdsNow⟩
      have same := (@verifyCleanup_spec env world world (Std.Refl.refl world)).1.firewall
      rw [same]
      exact holdsNow
  · rintro missed world ⟨-, -, complete⟩
    exact absurd (complete answers (Bool.eq_false_iff.mpr missed) tool) present

theorem cleanupAll_establishes :
    Ensures (fun _ => True) (cleanupAll env) (fun _ world => holds (firewallOf world)) := by
  have looks
      (tool : Tool)
      (chain : Chain) :
      Ensures (fun world => holds (firewallOf world))
        (succeeds env (.xtables tool .default (.list chain)))
        (fun _ world => holds (firewallOf world)) := by
    intro world holdsNow
    have observed :=
      succeeds_follows (@runCommand_observes env (.xtables tool .default (.list chain)) rfl) world
    rw [observed.firewall]
    exact holdsNow
  refine .seq (runCleanupCommand_establishes answers kept made) ?_
  refine (looks .iptables .killSwitch).bind ?_
  intro left4
  refine (looks .ip6tables .killSwitch).bind ?_
  intro left6
  refine (looks .iptables .boot).bind ?_
  intro leftBoot
  exact .either (.pure (fun _ after => after)) (.pure (fun _ after => after))

theorem cleanupStaleOnStartup_establishes
    (present : (firewall.table .iptables .default).user .boot ≠ none) :
    Ensures (fun world => firewallOf world = firewall)
      (cleanupStaleOnStartup env)
      (fun _ world => holds (firewallOf world)) := by
  have looks :
      ∀ tool,
        Ensures (fun world => firewallOf world = firewall)
          (chainExists env tool)
          (fun _ world => firewallOf world = firewall) :=
    fun tool => (chainExists_spec tool).weaken fun _ _ after => after.1
  refine (looks .iptables).bind ?_
  intro found4
  refine (looks .ip6tables).bind ?_
  intro found6
  have found :
      Ensures (fun world => firewallOf world = firewall)
        (bootChainExists env) (fun foundBoot _ => foundBoot = true) := by
    rintro world rfl
    exact succeeds_list_present answers present
  refine found.bind ?_
  rintro _ world rfl
  rw [Bool.or_true, if_pos rfl]
  exact cleanupAll_establishes answers kept made world trivial

end Establishing

theorem cleanupWithFallback_missed
    {world : KsWorld}
    (missed : ((chainsExist env).run world).1 = false) :
    (cleanupWithFallback env).run world = (.nothingToClean, ((chainsExist env).run world).2) := by
  rw [cleanupWithFallback, run_bind, missed]
  rfl

/-- What a complete cleanup leaves, unless a removal is stuck. -/
theorem cleanupAll_spec (answers : Answers env) :
    Ensures (fun world => firewallOf world = firewall) (cleanupAll env)
      (fun _ world =>
        firewallOf world = cleanedUp firewall ∨ Stuck world) := by
  have kept
      {α : Type}
      {program : StateM KsWorld α}
      (observes : Observes program) :
      Ensures
        (fun world => firewallOf world = cleanedUp firewall ∨ Stuck world)
        program
        (fun _ world =>
          firewallOf world = cleanedUp firewall ∨ Stuck world) :=
    fun world before =>
      before.imp (observes world).firewall.trans
        (fun stuck => stuck.mono (observes world).toAdvances)
  have looks : ∀ tool, Observes (chainExists env tool) :=
    fun tool => chainExists_follows (runCommand_observes env rfl)
  have looksBoot : Observes (bootChainExists env) := succeeds_follows (runCommand_observes env rfl)
  refine .bind (runCleanupCommand_removes answers) ?_
  intro _
  refine .bind ((kept (looks _)).strengthen (fun _ before => before.2)) ?_
  intro left4
  refine (kept (looks _)).bind ?_
  intro left6
  refine (kept looksBoot).bind ?_
  intro leftBoot
  exact .either (.pure (fun _ after => after)) (.pure (fun _ after => after))

theorem list_staysFree
    (tool : Tool)
    (chain : Chain) :
    Keeps StaysFree (runCommand env (.xtables tool .default (.list chain))) :=
  runCommand_staysFree (fun removes => Bool.noConfusion removes)

theorem cleans_staysFree
    (answers : Answers env)
    (command : FwCommand)
    (cleans : command.cleans = true) :
    Keeps StaysFree (runCommand env command) :=
  runCommand_staysFree (fun _ => answers.cleans cleans)

/-- A chain that can be removed is reported as cleaned. -/
theorem cleanupWithFallback_cleaned
    (answers : Answers env)
    (instant : ∀ number, env.millis number = 0)
    (present : ∃ tool, (firewall.table tool .default).user .killSwitch ≠ none)
    (gone : ∀ tool, ((cleanedUp firewall).table tool .default).user .killSwitch = none) :
    Ensures
      (fun world => firewallOf world = firewall ∧ ¬Stuck world)
      (cleanupWithFallback env)
      (fun result _ => result = .cleaned) := by
  have looksFree : Keeps StaysFree (chainsExist env) :=
    (chainExists_follows (list_staysFree _ _)).bind
      (fun _ => (chainExists_follows (list_staysFree _ _)).bind (fun _ => .pure))
  have looked :
      Ensures (fun world => firewallOf world = firewall ∧ ¬Stuck world)
        (chainsExist env)
        (fun found world =>
          found = true ∧ firewallOf world = firewall ∧ ¬Stuck world) := by
    rintro world ⟨same, free⟩
    obtain ⟨kept, -, complete⟩ := chainsExist_spec world same
    refine ⟨?_, kept, looksFree world free⟩
    by_contra missed
    obtain ⟨tool, isThere⟩ := present
    exact isThere (complete answers (Bool.eq_false_iff.mpr missed) tool)
  refine looked.bind ?_
  intro found
  refine .of_pure_pre ?_
  rintro rfl
  refine .get ?_
  rintro before world ⟨rfl, same, free⟩
  have timeless : ((runCleanupCommand env).run world).2.host.now = world.host.now := by
    refine @runCleanupCommand_follows env
      (SameView fun state : KsWorld => state.host.now) _ ?_ world
    intro command _ state
    exact congrArg (state.host.now + ·) (instant state.host.issued)
  obtain ⟨clear, removed⟩ := runCleanupCommand_removes answers world same
  have removedFree : ¬Stuck ((runCleanupCommand env).run world).2 :=
    runCleanupCommand_follows (cleans_staysFree answers) world free
  have verified := (@verifyCleanup_cleaned env _ gone _ (removed.resolve_right removedFree)).2
  have quick :
      ¬cleanupTimeoutMs < ((runCleanupCommand env).run world).2.host.now - world.host.now := by
    rw [timeless, Nat.sub_self]
    exact Nat.not_lt_zero _
  rw [run_bind, run_bind, run_get, if_neg quick, clear]
  exact verified

theorem cleanupAll_done
    (answers : Answers env)
    (gone : ∀ tool chain, ((cleanedUp firewall).table tool .default).user chain = none) :
    Ensures
      (fun world => firewallOf world = firewall ∧ ¬Stuck world)
      (cleanupAll env)
      (fun result _ => result = none) := by
  have missed
      (tool : Tool)
      (chain : Chain) :
      Ensures (fun world => firewallOf world = cleanedUp firewall)
        (succeeds env (.xtables tool .default (.list chain)))
        (fun found world =>
          found = false ∧ firewallOf world = cleanedUp firewall) := by
    intro world same
    have kept :=
      succeeds_follows (@runCommand_observes env (.xtables tool .default (.list chain)) rfl) world
    refine ⟨succeeds_list_absent ?_, kept.firewall.trans same⟩
    rw [same]
    exact gone tool chain
  have removed :
      Ensures (fun world => firewallOf world = firewall ∧ ¬Stuck world)
        (runCleanupCommand env)
        (fun _ world => firewallOf world = cleanedUp firewall) := by
    rintro world ⟨same, free⟩
    have removedFree : ¬Stuck ((runCleanupCommand env).run world).2 :=
      runCleanupCommand_follows (cleans_staysFree answers) world free
    exact (runCleanupCommand_removes answers world same).2.resolve_right removedFree
  refine removed.seq ?_
  refine (missed .iptables .killSwitch).bind ?_
  intro left4
  refine .of_pure_pre ?_
  rintro rfl
  refine (missed .ip6tables .killSwitch).bind ?_
  intro left6
  refine .of_pure_pre ?_
  rintro rfl
  refine (missed .iptables .boot).bind ?_
  intro leftBoot
  refine .of_pure_pre ?_
  rintro rfl
  exact .pure fun _ _ => rfl

end Answering

end KillSwitch

end Shroud
