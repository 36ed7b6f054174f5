import Shroud.BootWindow
import Shroud.SwitchCommands

namespace Shroud

open Netfilter IptablesScript StateProgram

/-!
# The boot chain and the runtime kill switch

A headless daemon has two kill switches.  Their rules do not meet: no command
about the boot chain touches the runtime kill switch, and none of those that
the runtime kill switch issues touches the boot chain.
-/

namespace Headless

open KillSwitch

/-- The runtime kill switch is installed and blocks. -/
def RuntimeBlocks (firewall : Firewall) : Prop :=
  (∃ variant, LinkedDrop .killSwitch (firewall.table .iptables variant)) ∨
    ∃ table, firewall.nft = some table ∧ table.output.policy = .drop

def BootLinked (firewall : Firewall) : Prop :=
  LinkedDrop .boot (firewall.table .iptables .default)

/-- One of the two kill switches is installed and blocks. -/
def Guarded (firewall : Firewall) : Prop :=
  BootLinked firewall ∨ RuntimeBlocks firewall

theorem runCommand_bootLinked
    {fw : FwEnv}
    {command : FwCommand}
    (spares : command.sparesBoot = true) :
    Keeps (Throughout BootLinked) (runCommand fw command) := by
  apply runCommand_throughout
  intro before after linked executed
  by_cases elsewhere : command.sparesIptables = true
  · rw [BootLinked, FwCommand.iptables_of_exec elsewhere executed]
    exact linked
  · cases command with
    | xtables tool variant command =>
      cases tool with
      | ip6tables => exact absurd rfl elsewhere
      | iptables =>
        cases variant with
        | default => exact linked.of_sparesBoot spares (iptables_exec executed)
        | legacy =>
          obtain ⟨table, -, rfl⟩ := Option.map_eq_some_iff.mp executed
          rw [BootLinked, Firewall.setTable_other _ (by simp)]
          exact linked
    | _ => exact absurd rfl elsewhere

theorem linkedDrop_of_bootEdit
    {before after : Table}
    {command : XCommand}
    (edit : BootEdit before command after) :
    LinkedDrop .killSwitch after ↔ LinkedDrop .killSwitch before := by
  have same
      {table : Table}
      (output : table.output = before.output)
      {content : Option (List XRule)}
      (user : table.user = Function.update before.user .boot content) :
      LinkedDrop .killSwitch table ↔ LinkedDrop .killSwitch before := by
    have other : Chain.killSwitch ≠ .boot := by decide
    rw [LinkedDrop, LinkedDrop, output, user, Function.update_of_ne other]
  cases edit with
  | relinked members others =>
    have jump : jumpTo .killSwitch ≠ jumpTo .boot := by decide
    exact and_congr_left' (members _ jump)
  | _ => exact same rfl rfl

theorem runtimeBlocks_of_editsBoot
    {tool : Tool}
    {command : XCommand}
    (edits : editsBoot command = true)
    {before after : Firewall}
    (executed : FwCommand.exec before (.xtables tool .default command) = some after) :
    RuntimeBlocks after ↔ RuntimeBlocks before := by
  have nft : after.nft = before.nft := by
    obtain ⟨table, -, rfl⟩ := Option.map_eq_some_iff.mp executed
    rfl
  have chains (variant : Variant) :
      LinkedDrop .killSwitch (after.table .iptables variant) ↔
        LinkedDrop .killSwitch (before.table .iptables variant) := by
    cases tool with
    | ip6tables => rw [ip6tables_table executed]
    | iptables =>
      cases variant with
      | default =>
        exact linkedDrop_of_bootEdit (bootEdit_of_exec edits (iptables_exec executed))
      | legacy =>
        obtain ⟨table, -, rfl⟩ := Option.map_eq_some_iff.mp executed
        rw [Firewall.setTable_other _ (by simp)]
  rw [RuntimeBlocks, RuntimeBlocks, nft]
  exact or_congr_left (exists_congr chains)

/-- The command is one of the boot kill switch. -/
def editsBootChain : FwCommand → Bool
  | .xtables _ .default command => editsBoot command
  | _ => false

/-- A command about the boot chain leaves the runtime kill switch alone. -/
theorem runCommand_runtimeBlocks
    {fw : FwEnv}
    {command : FwCommand}
    (edits : editsBootChain command = true) :
    Keeps (Throughout RuntimeBlocks) (runCommand fw command) := by
  apply runCommand_throughout
  intro before after blocks executed
  cases command with
  | xtables tool variant command =>
    cases variant with
    | default => exact (runtimeBlocks_of_editsBoot edits executed).mpr blocks
    | legacy => exact Bool.noConfusion edits
  | _ => exact Bool.noConfusion edits

section Enabled

variable {fw : FwEnv}

def Filled (chains : Chain → Option (List XRule)) : Prop :=
  ∃ rules, chains .boot = some rules ∧ .rule [] .drop ∈ rules

theorem bootDropRules_filled :
    Ensures
      (fun _ => True)
      (bootDropRules.findSomeM? (runBootLine fw))
      (fun result world =>
        result = none → Filled ((firewallOf world).table .iptables .default).user) := by
  have appended :
      ∀ before after : Table,
        True →
          (XCommand.append (.user .boot) (.rule [] .drop)).exec .iptables before = some after →
          Filled after.user := by
    intro before after _ executed
    obtain ⟨rules, -, rfl⟩ := appended_of_exec executed
    exact ⟨rules ++ [.rule [] .drop], before.user_setRules _ _,
      List.mem_append_right _ List.mem_cons_self⟩
  exact .findSomeM?_cons_none (requiredLine_ensures appended)
    (lastLine6_ensures (fun table => Filled table.user))

theorem insertBootChainJump_linked :
    Ensures
      (fun world =>
        Filled ((firewallOf world).table .iptables .default).user)
      (insertBootChainJump fw)
      (fun result world =>
        result = none → BootLinked (firewallOf world)) := by
  refine .seq (removeBootJumps_preserves Filled .iptables) ?_
  refine .seq (removeBootJumps_preserves Filled .ip6tables) ?_
  have inserted :
      ∀ before after : Table,
        Filled before.user →
          (XCommand.insert .output 1 (jumpTo .boot)).exec .iptables before = some after →
          LinkedDrop .boot after := by
    intro before after filled executed
    cases XCommand.edit_of_exec executed with
    | insert present inside => exact ⟨List.mem_cons_self, filled⟩
  exact .findSomeM?_cons_none (requiredLine_ensures inserted)
    (lastLine6_ensures (LinkedDrop .boot))

theorem enableBootKillswitch_linked
    {allowLan : Bool}
    {world : KsWorld}
    (enabled : ((enableBootKillswitch fw allowLan).run world).1 = none) :
    BootLinked (firewallOf ((enableBootKillswitch fw allowLan).run world).2) := by
  cases created : ((createChain fw .iptables).run world).1 with
  | some error =>
    rw [enableBootKillswitch_failed allowLan created] at enabled
    exact absurd enabled (Option.some_ne_none error)
  | none =>
    rw [enableBootKillswitch_created allowLan created] at enabled ⊢
    have ends := fillAndLink_ends fw allowLan ((createBootChain fw).run world).2
    revert enabled ends
    generalize (fillAndLink fw allowLan).run _ = reached
    intro enabled ends
    cases ends with
    | linked added =>
      have lines (front : List ScriptLine) :=
        @Ensures.findSomeM?_append_none _ _ _ (fun _ => True)
          (fun _ => True) _ _ front _ (fun _ _ _ => trivial)
          (@bootDropRules_filled fw)
      exact insertBootChainJump_linked _ (lines _ _ trivial added) enabled
    | _ => exact absurd enabled (Option.some_ne_none _)

end Enabled

end Headless

end Shroud
