import Shroud.BoundedErase
import Shroud.FirewallEffects

namespace Shroud

open Netfilter IptablesScript StateProgram BoundedErase

/-!
# What cleanups do to the firewall

Cleanups try one removal after another and go on after failures.  As long as
no removal fails that had something to remove, the effect of a cleanup is a
function of the firewall.  This module computes it for single commands, for the
loops that delete duplicates and for `robust_iptables_cleanup`.
-/

namespace Netfilter

/-- The table after a command that may be refused. -/
def XCommand.attempt (tool : Tool) (table : Table) (command : XCommand) :
    Table :=
  (command.exec tool table).getD table

theorem XCommand.attempt_delete
    (tool : Tool)
    (table : Table)
    (rule : XRule) :
    XCommand.attempt tool table (.delete .output rule) =
      { table with output := table.output.erase rule } := by
  by_cases present : rule ∈ table.output
  · simp [attempt, exec, Table.rules?, present, Table.setRules]
  · simp [attempt, exec, Table.rules?, present, List.erase_of_not_mem present]

/-- Flush and delete a chain. -/
def Table.dropChain (tool : Tool) (table : Table) (chain : Chain) : Table :=
  XCommand.attempt tool (XCommand.attempt tool table (.flush chain)) (.deleteChain chain)

section DropChain

variable (tool : Tool) (table : Table) (chain : Chain)

theorem XCommand.attempt_flush :
    XCommand.attempt tool table (.flush chain) =
      { table with
        user := Function.update table.user chain
          ((table.user chain).map fun _ => []) } := by
  cases present : table.user chain with
  | none =>
    have same : Function.update table.user chain none = table.user := by
      rw [← present, Function.update_eq_self]
    simp [attempt, exec, present, same]
  | some rules => simp [attempt, exec, present, Table.setRules]

@[simp] theorem Table.dropChain_output :
    (table.dropChain tool chain).output = table.output := by
  rw [dropChain, XCommand.attempt_flush, XCommand.attempt, XCommand.exec]
  split
  · rfl
  · rfl

theorem Table.dropChain_user_same
    (unreferenced : table.isReferenced chain = false) :
    (table.dropChain tool chain).user chain = none := by
  rw [dropChain, XCommand.attempt_flush, XCommand.attempt, XCommand.exec]
  have still :
      ∀ user,
        isReferenced { output := table.output, user := user } chain =
          false :=
    fun _ => unreferenced
  cases table.user chain with
  | none => simp
  | some rules => simp [still, removeChain]

theorem Table.dropChain_user_other
    {other : Chain}
    (different : other ≠ chain) :
    (table.dropChain tool chain).user other = table.user other := by
  rw [dropChain, XCommand.attempt_flush, XCommand.attempt, XCommand.exec]
  split
  · simp [removeChain, different]
  · simp [different]

theorem Table.dropChain_user_none
    {other : Chain}
    (absent : table.user other = none) :
    (table.dropChain tool chain).user other = none := by
  by_cases same : other = chain
  · subst same
    rw [dropChain, XCommand.attempt_flush, XCommand.attempt, XCommand.exec]
    split
    · simp [removeChain]
    · simp [absent]
  · rw [dropChain_user_other tool table chain same, absent]

end DropChain

/--
A table from whose `OUTPUT` rules are deleted, each up to a hundred times, and
from which chains are then flushed and deleted.
-/
def Table.scrub
    (tool : Tool)
    (patterns : List XRule)
    (chains : List Chain)
    (table : Table) :
    Table :=
  chains.foldl (Table.dropChain tool) { table with output := eraseEach 100 patterns table.output }

section Scrub

variable (tool : Tool) (chains : List Chain)

theorem Table.foldl_dropChain_output (table : Table) :
    (chains.foldl (dropChain tool) table).output = table.output := by
  induction chains generalizing table with
  | nil => rfl
  | cons chain rest ih => rw [List.foldl_cons, ih, dropChain_output]

@[simp] theorem Table.scrub_output
    (patterns : List XRule)
    (table : Table) :
    (table.scrub tool patterns chains).output = eraseEach 100 patterns table.output :=
  foldl_dropChain_output tool chains _

variable {chain : Chain} {table : Table} {patterns : List XRule}

theorem Table.foldl_dropChain_user_none (absent : table.user chain = none) :
    (chains.foldl (dropChain tool) table).user chain = none := by
  induction chains generalizing table with
  | nil => exact absent
  | cons first rest ih => exact ih (dropChain_user_none tool table first absent)

theorem Table.foldl_dropChain_user_mem
    (listed : chain ∈ chains)
    (unreferenced : table.isReferenced chain = false) :
    (chains.foldl (dropChain tool) table).user chain = none := by
  induction chains generalizing table with
  | nil => exact absurd listed List.not_mem_nil
  | cons first rest ih =>
    rw [List.foldl_cons]
    rcases List.mem_cons.mp listed with rfl | later
    · exact foldl_dropChain_user_none tool rest (dropChain_user_same tool table chain unreferenced)
    · refine ih later ?_
      rw [isReferenced, dropChain_output]
      exact unreferenced

theorem Table.scrub_user_mem
    (listed : chain ∈ chains)
    (unreferenced : ∀ rule ∈ eraseEach 100 patterns table.output, rule.jumpsTo chain = false) :
    (table.scrub tool patterns chains).user chain = none := by
  refine foldl_dropChain_user_mem tool chains listed ?_
  refine List.any_eq_false.mpr ?_
  intro rule member
  rw [unreferenced rule member]
  exact Bool.false_ne_true

end Scrub

end Netfilter

namespace FwCommand

/-- Commands that take rules, chains or tables away. -/
def removes : FwCommand → Bool
  | .xtables _ _ (.delete _ _) => true
  | .xtables _ _ (.flush _) => true
  | .xtables _ _ (.deleteChain _) => true
  | .nftDelete => true
  | _ => false

/-- The firewall after a command that may be refused. -/
def attempt (command : FwCommand) (firewall : Firewall) : Firewall :=
  (command.exec firewall).getD firewall

theorem attempt_xtables
    (tool : Tool)
    (variant : Variant)
    (command : XCommand)
    (firewall : Firewall) :
    attempt (.xtables tool variant command) firewall =
      firewall.setTable tool variant
        (XCommand.attempt tool (firewall.table tool variant) command) := by
  rw [attempt, exec, XCommand.attempt]
  cases command.exec tool (firewall.table tool variant) with
  | none => simp
  | some table => simp

theorem attempt_nftDelete (firewall : Firewall) :
    attempt .nftDelete firewall = { firewall with nft := none } := by
  cases firewall with
  | mk table nft =>
    cases nft with
    | none => rfl
    | some present => rfl

end FwCommand

variable {tool : Tool} {rule : XRule}

namespace Netfilter.Firewall

@[simp] theorem setTable_setTable
    (firewall : Firewall)
    (tool : Tool)
    (variant : Variant)
    (first second : Table) :
    (firewall.setTable tool variant first).setTable tool variant second =
      firewall.setTable tool variant second := by
  simp [setTable]

/-- Delete a rule from `OUTPUT` of a default tool, up to a limit. -/
def eraseOutput
    (limit : Nat)
    (tool : Tool)
    (rule : XRule)
    (firewall : Firewall) :
    Firewall :=
  firewall.setTable tool .default
    { firewall.table tool .default with
      output := eraseUpTo rule limit (firewall.table tool .default).output }

theorem eraseOutput_zero
    (tool : Tool)
    (rule : XRule)
    (firewall : Firewall) :
    firewall.eraseOutput 0 tool rule = firewall :=
  setTable_self firewall tool .default

theorem eraseOutput_succ
    (limit : Nat)
    (tool : Tool)
    (rule : XRule)
    (firewall : Firewall) :
    firewall.eraseOutput (limit + 1) tool rule =
      ((FwCommand.xtables tool .default (.delete .output rule)).attempt
        firewall).eraseOutput limit tool rule := by
  rw [FwCommand.attempt_xtables, XCommand.attempt_delete, eraseOutput,
    eraseOutput, setTable_same, setTable_setTable]
  rfl

theorem eraseOutput_of_notMem
    (limit : Nat)
    {firewall : Firewall}
    (absent : rule ∉ (firewall.table tool .default).output) :
    firewall.eraseOutput limit tool rule = firewall := by
  rw [eraseOutput, eraseUpTo_of_notMem absent]
  exact setTable_self firewall tool .default

/--
Delete rules from `OUTPUT` of a default tool, each up to a hundred times, then
flush and delete chains.
-/
def scrub
    (tool : Tool)
    (patterns : List XRule)
    (chains : List Chain)
    (firewall : Firewall) :
    Firewall :=
  firewall.setTable tool .default ((firewall.table tool .default).scrub tool patterns chains)

section

variable (tool : Tool)

theorem scrub_nil (firewall : Firewall) :
    firewall.scrub tool [] [] = firewall :=
  setTable_self firewall tool .default

theorem scrub_append_pattern
    (patterns : List XRule)
    (rule : XRule)
    (firewall : Firewall) :
    (firewall.scrub tool patterns []).eraseOutput 100 tool rule =
      firewall.scrub tool (patterns ++ [rule]) [] := by
  rw [eraseOutput, scrub, setTable_same, setTable_setTable, scrub]
  simp [Table.scrub, eraseEach]

theorem scrub_append_chain
    (patterns : List XRule)
    (chains : List Chain)
    (chain : Chain)
    (firewall : Firewall) :
    (FwCommand.xtables tool .default (.deleteChain chain)).attempt
        ((FwCommand.xtables tool .default (.flush chain)).attempt
          (firewall.scrub tool patterns chains)) =
      firewall.scrub tool patterns (chains ++ [chain]) := by
  rw [FwCommand.attempt_xtables, FwCommand.attempt_xtables, scrub,
    setTable_same, setTable_same, setTable_setTable, setTable_setTable,
    scrub]
  simp [Table.scrub, Table.dropChain]

theorem foldl_eraseOutput
    (patterns rules : List XRule)
    (firewall : Firewall) :
    rules.foldl (fun current rule => current.eraseOutput 100 tool rule)
        (firewall.scrub tool patterns []) =
      firewall.scrub tool (patterns ++ rules) [] := by
  induction rules generalizing patterns with
  | nil => simp
  | cons rule rest ih =>
    rw [List.foldl_cons, scrub_append_pattern, ih, List.append_assoc]
    rfl

@[simp] theorem scrub_same
    (patterns : List XRule)
    (chains : List Chain)
    (firewall : Firewall) :
    (firewall.scrub tool patterns chains).table tool .default =
      (firewall.table tool .default).scrub tool patterns chains :=
  setTable_same firewall tool .default _

end

theorem scrub_other
    {other : Tool}
    {variant : Variant}
    (different : ¬(other = tool ∧ variant = .default))
    (patterns : List XRule)
    (chains : List Chain)
    (firewall : Firewall) :
    (firewall.scrub tool patterns chains).table other variant = firewall.table other variant :=
  setTable_other firewall different _

/-- The tables of both tools are scrubbed independently of each other. -/
theorem scrub_scrub
    (patterns : Tool → List XRule)
    (chains : List Chain)
    (firewall : Firewall)
    (tool : Tool) :
    ((firewall.scrub .iptables (patterns .iptables) chains).scrub .ip6tables
          (patterns .ip6tables) chains).table tool .default =
      (firewall.table tool .default).scrub tool (patterns tool) chains := by
  cases tool with
  | iptables => rw [scrub_other (by simp), scrub_same]
  | ip6tables => rw [scrub_same, scrub_other (by simp)]

end Netfilter.Firewall

namespace KillSwitch

/-- A removal failed although there was something to remove. -/
def Stuck (world : KsWorld) : Prop :=
  ∃ command, command.removes = true ∧ ⟨command, .faulted⟩ ∈ world.host.log

variable {before after : KsWorld}

theorem Stuck.mono
    (stuck : Stuck before)
    (advances : Advances before after) :
    Stuck after := by
  obtain ⟨command, removes, logged⟩ := stuck
  exact ⟨command, removes, advances.log.subset logged⟩

/-- The firewall changed as told, or a removal is stuck. -/
structure Effected
    (effect : Firewall → Firewall)
    (before after : KsWorld) : Prop extends Advances before after where
  firewall : firewallOf after = effect (firewallOf before) ∨ Stuck after

/-- On the way no removal gets stuck. -/
def StaysFree (before after : KsWorld) : Prop :=
  ¬Stuck before → ¬Stuck after

instance : IsPreorder KsWorld StaysFree where
  refl _ free := free
  trans _ _ _ first second free := second (first free)

/-- The program has the effect from every state. -/
def Performs
    {α : Type}
    (effect : Firewall → Firewall)
    (program : StateM KsWorld α) : Prop :=
  ∀ world, Effected effect world (program.run world).2

section Performing

variable {α β : Type} {env : FwEnv}

theorem Effected.trans
    {first second : Firewall → Firewall}
    {middle : KsWorld}
    (one : Effected first before middle)
    (two : Effected second middle after) :
    Effected (second ∘ first) before after where
  toAdvances := IsTrans.trans _ _ _ one.toAdvances two.toAdvances
  firewall := by
    rcases one.firewall with same | stuck
    · rw [Function.comp_apply, ← same]
      exact two.firewall
    · exact .inr (stuck.mono two.toAdvances)

theorem FirewallKept.effected (kept : FirewallKept before after) :
    Effected id before after :=
  ⟨kept.toAdvances, .inl kept.firewall⟩

theorem Performs.bind
    {first second : Firewall → Firewall}
    {program : StateM KsWorld α}
    {next : α → StateM KsWorld β}
    (one : Performs first program)
    (two : ∀ value, Performs second (next value)) :
    Performs (second ∘ first) (program >>= next) :=
  fun world => (one world).trans (two _ _)

theorem Performs.congr
    {effect other : Firewall → Firewall}
    {program : StateM KsWorld α}
    (performs : Performs effect program)
    (same : ∀ firewall, effect firewall = other firewall) :
    Performs other program := by
  have equal : effect = other := funext same
  rw [← equal]
  exact performs

theorem Performs.pure {value : α} :
    Performs id (pure value : StateM KsWorld α) :=
  fun world => FirewallKept.effected (Std.Refl.refl world)

theorem runCommand_staysFree
    {command : FwCommand}
    (answered : command.removes = true → ∀ number, env.fault number command = none) :
    Keeps StaysFree (runCommand env command) := by
  rintro world free ⟨stuck, removes, member⟩
  have logged :
      ((runCommand env command).run world).2.host.log =
        world.host.log ++ [⟨command, world.host.effectOf env command⟩] :=
    rfl
  rw [logged, List.mem_append, List.mem_singleton] at member
  rcases member with earlier | same
  · exact free ⟨stuck, removes, earlier⟩
  · obtain ⟨rfl, faulted⟩ := LogEntry.mk.inj same
    rw [Host.effectOf, answered removes world.host.issued] at faulted
    cases executed : stuck.exec world.host.firewall with
    | none | some changed =>
      rw [executed] at faulted
      exact absurd faulted (by simp)

/-- A removal has its effect, finds nothing to remove, or is stuck. -/
theorem runCommand_performs
    {command : FwCommand}
    (removes : command.removes = true) :
    Performs command.attempt (runCommand env command) := by
  intro world
  refine ⟨(runCommand_keeps env command world).toAdvances, ?_⟩
  rcases runCommand_firewall env command world with
    ⟨executed, -, -⟩ | ⟨unchanged, -, refused | ⟨-, logged⟩⟩
  · refine .inl ?_
    rw [FwCommand.attempt, executed]
    rfl
  · refine .inl ?_
    rw [FwCommand.attempt, refused, unchanged]
    rfl
  · refine .inr ⟨command, removes, ?_⟩
    rw [logged]
    exact List.mem_append_right _ (List.mem_singleton.mpr rfl)

variable {world : KsWorld}

theorem delete_failed
    (failed :
      ((runCommand env
        (.xtables tool .default (.delete .output rule))).run world).1.succeeded = false) :
    rule ∉ ((firewallOf world).table tool .default).output ∨
      Stuck ((runCommand env (.xtables tool .default (.delete .output rule))).run world).2 := by
  rcases runCommand_firewall env (.xtables tool .default (.delete .output rule)) world with
    ⟨-, succeeded, -⟩ | ⟨-, -, refused | ⟨-, logged⟩⟩
  · exact absurd succeeded (Bool.eq_false_iff.mp failed)
  · refine .inl ?_
    intro present
    have executes :
        (XCommand.delete .output rule).exec tool
          ((firewallOf world).table tool .default) ≠ none := by
      simp [XCommand.exec, Table.rules?, present]
    exact executes (Option.map_eq_none_iff.mp refused)
  · refine .inr ⟨.xtables tool .default (.delete .output rule), rfl, ?_⟩
    rw [logged]
    exact List.mem_append_right _ (List.mem_singleton.mpr rfl)

theorem delete_ends
    (limit : Nat)
    (failed :
      ((runCommand env
        (.xtables tool .default (.delete .output rule))).run world).1.succeeded = false) :
    Effected (Firewall.eraseOutput (limit + 1) tool rule) world
      ((runCommand env (.xtables tool .default (.delete .output rule))).run world).2 := by
  have step := @runCommand_performs env (.xtables tool .default (.delete .output rule)) rfl world
  refine ⟨step.toAdvances, ?_⟩
  rcases delete_failed failed with absent | stuck
  · rcases step.firewall with same | stuck
    · refine .inl ?_
      have unchanged :
          (FwCommand.xtables tool .default (.delete .output rule)).attempt
            (firewallOf world) = firewallOf world := by
        rw [FwCommand.attempt_xtables, XCommand.attempt_delete, List.erase_of_not_mem absent]
        exact Firewall.setTable_self _ tool .default
      rw [same, unchanged, Firewall.eraseOutput_of_notMem _ absent]
    · exact .inr stuck
  · exact .inr stuck

theorem delete_goesOn
    {limit : Nat}
    (rest :
      Effected (Firewall.eraseOutput limit tool rule)
        ((runCommand env (.xtables tool .default (.delete .output rule))).run world).2
        after) :
    Effected (Firewall.eraseOutput (limit + 1) tool rule) world after := by
  have step := @runCommand_performs env (.xtables tool .default (.delete .output rule)) rfl world
  have whole := step.trans rest
  refine ⟨whole.toAdvances, ?_⟩
  rw [Firewall.eraseOutput_succ]
  exact whole.firewall

theorem repeatWhile_performs
    (tool : Tool)
    (rule : XRule)
    (limit : Nat) :
    Performs (Firewall.eraseOutput limit tool rule)
      (repeatWhile (succeeds env (.xtables tool .default (.delete .output rule))) limit) := by
  induction limit with
  | zero =>
    exact Performs.pure.congr fun firewall => (Firewall.eraseOutput_zero tool rule firewall).symm
  | succ limit ih =>
    intro world
    rw [repeatWhile, run_bind, succeeds, run_bind, run_pure]
    cases goesOn : ((runCommand env
        (.xtables tool .default (.delete .output rule))).run world).1.succeeded with
    | true => exact delete_goesOn (ih _)
    | false => exact delete_ends limit goesOn

theorem deleteDuplicates_performs
    (tool : Tool)
    (rule : XRule) :
    Performs (Firewall.eraseOutput 100 tool rule) (deleteDuplicates env tool rule) :=
  repeatWhile_performs tool rule 100

theorem Performs.forM
    {ι : Type}
    {effect : ι → Firewall → Firewall}
    {body : ι → StateM KsWorld PUnit}
    (step : ∀ item, Performs (effect item) (body item))
    (items : List ι) :
    Performs
      (fun firewall =>
        items.foldl (fun current item => effect item current) firewall)
      (items.forM body) := by
  induction items with
  | nil => exact Performs.pure
  | cons item rest ih => exact (step item).bind (fun _ => ih)

/-- What `robust_iptables_cleanup` leaves. -/
def robustlyCleaned (firewall : Firewall) : Firewall :=
  { (firewall.scrub .iptables [jumpRule] [.killSwitch]).scrub .ip6tables
      (ipv6OutputRules ++ [jumpRule]) [.killSwitch] with
    nft := none }

theorem removeChain_performs (tool : Tool) :
    Performs
      ((FwCommand.xtables tool .default (.deleteChain .killSwitch)).attempt ∘
        (FwCommand.xtables tool .default (.flush .killSwitch)).attempt)
      (removeChain env tool) := by
  refine (runCommand_performs rfl).bind ?_
  intro _
  exact (runCommand_performs rfl).bind fun _ => .pure

theorem scrub_of_commands
    (tool : Tool)
    (rules : List XRule)
    (chain : Chain)
    (firewall : Firewall) :
    (FwCommand.xtables tool .default (.deleteChain chain)).attempt
      ((FwCommand.xtables tool .default (.flush chain)).attempt
        (rules.foldl (fun current rule => current.eraseOutput 100 tool rule) firewall)) =
      firewall.scrub tool rules [chain] := by
  have erased := firewall.foldl_eraseOutput tool [] rules
  rw [Firewall.scrub_nil, List.nil_append] at erased
  rw [erased]
  exact firewall.scrub_append_chain tool rules [] chain

variable (env) in
theorem robustIptablesCleanup_performs :
    Performs robustlyCleaned (robustIptablesCleanup env) := by
  have duplicates
      (tool : Tool) :
      ∀ rule, Performs (Firewall.eraseOutput 100 tool rule) (deleteDuplicates env tool rule) :=
    deleteDuplicates_performs tool
  have chain (tool : Tool) : Performs _ (removeChain env tool) :=
    removeChain_performs tool
  have table : Performs _ (runCommand env .nftDelete) := runCommand_performs rfl
  have behind : Performs _ (cleanupBehindJumps env) :=
    (chain .iptables).bind fun _ =>
    (Performs.forM (duplicates .ip6tables) ipv6OutputRules).bind fun _ =>
    (duplicates .ip6tables jumpRule).bind fun _ =>
    (chain .ip6tables).bind fun _ =>
    table.bind fun _ => .pure
  refine ((duplicates .iptables jumpRule).bind fun _ => behind).congr ?_
  intro firewall
  have ipv4 := scrub_of_commands .iptables [jumpRule] .killSwitch firewall
  have ipv6 :=
    scrub_of_commands .ip6tables (ipv6OutputRules ++ [jumpRule]) .killSwitch
      (firewall.scrub .iptables [jumpRule] [.killSwitch])
  rw [List.foldl_append] at ipv6
  simp only [Function.comp_apply, id_eq]
  rw [FwCommand.attempt_nftDelete]
  refine congrArg (fun cleaned : Firewall => { cleaned with nft := none }) ?_
  refine Eq.trans ?_ ipv6
  rw [← ipv4]
  rfl

end Performing

theorem robustIptablesCleanup_staysFree
    {env : FwEnv}
    (commands : ∀ command, Keeps StaysFree (runCommand env command)) :
    Keeps StaysFree (robustIptablesCleanup env) := by
  refine .seq (deleteDuplicates_follows (commands _)) ?_
  apply cleanupBehindJumps_follows
  · intro tool
    exact removeChain_follows (commands _) (commands _)
  · intro rule _
    exact commands _
  · exact commands _

/-- The rules that the cleanup deletes from `OUTPUT` of a tool. -/
def removedPatterns : Tool → List XRule
  | .iptables => [jumpRule]
  | .ip6tables => ipv6OutputRules ++ [jumpRule]

theorem removedPatterns_nodup (tool : Tool) :
    (removedPatterns tool).Nodup := by
  cases tool <;> decide

theorem robustlyCleaned_default
    (firewall : Firewall)
    (tool : Tool) :
    (robustlyCleaned firewall).table tool .default =
      (firewall.table tool .default).scrub tool (removedPatterns tool) [.killSwitch] :=
  firewall.scrub_scrub removedPatterns [.killSwitch] tool

theorem robustlyCleaned_legacy
    (firewall : Firewall)
    (tool : Tool) :
    (robustlyCleaned firewall).table tool .legacy = firewall.table tool .legacy :=
  (Firewall.scrub_other (by simp) _ _ _).trans (Firewall.scrub_other (by simp) _ _ _)

end KillSwitch

end Shroud
