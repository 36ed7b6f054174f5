import Shroud.BootHistory

namespace Shroud

open Netfilter IptablesScript NftRuleset KillSwitchRules StateProgram

/-!
# The commands of the kill switch

`enable` and `disable` issue commands about their own chain, their own jump,
the `OUTPUT` rules of `ip6tables` and the nft table.  None of them touches the
boot chain, so whatever such commands keep is kept by the two operations.
-/

/-- Commands that leave the boot chain and the jumps to it where they are. -/
def Netfilter.XCommand.sparesBoot : XCommand → Bool
  | .newChain chain => decide (chain ≠ .boot)
  | .append (.user chain) _ => decide (chain ≠ .boot)
  | .append .output _ => true
  | .insert (.user chain) _ _ => decide (chain ≠ .boot)
  | .insert .output _ _ => true
  | .delete (.user chain) _ => decide (chain ≠ .boot)
  | .delete .output rule => decide (rule ≠ KillSwitch.jumpTo .boot)
  | .flush chain => decide (chain ≠ .boot)
  | .deleteChain chain => decide (chain ≠ .boot)
  | .check _ _ => true
  | .list _ => true

/-- A command of any tool that spares the boot chain of `iptables`. -/
def FwCommand.sparesBoot : FwCommand → Bool
  | .xtables .iptables .default command => command.sparesBoot
  | _ => true

/-- The rules that may be taken out of `OUTPUT` of a tool. -/
def FwCommand.ownOutputRules : Tool → List XRule
  | .iptables => [KillSwitch.jumpTo .killSwitch, KillSwitch.jumpTo .boot]
  | .ip6tables =>
    [KillSwitch.jumpTo .killSwitch, KillSwitch.jumpTo .boot] ++ ipv6OutputRules

/-- The commands that do not depend on the configuration. -/
def FwCommand.isRoutine : FwCommand → Bool
  | .nftLoad _ => false
  | .xtables _ .default (.append chain _) => decide (chain ≠ .output)
  | .xtables tool .default (.insert chain _ rule) =>
    decide (chain = .output ∧ rule ∈ FwCommand.ownOutputRules tool)
  | .xtables tool .default (.delete chain rule) =>
    decide (chain = .output ∧ rule ∈ FwCommand.ownOutputRules tool)
  | .xtables _ .default (.check chain rule) =>
    decide (chain = .output ∧ rule = jumpRule)
  | _ => true

/-- A chain is linked from `OUTPUT` and drops what it lets through. -/
def LinkedDrop (chain : Chain) (table : Table) : Prop :=
  KillSwitch.jumpTo chain ∈ table.output ∧
    ∃ rules, table.user chain = some rules ∧ .rule [] .drop ∈ rules

theorem LinkedDrop.of_sparesBoot
    {command : XCommand}
    (spares : command.sparesBoot = true)
    {before after : Table}
    (linked : LinkedDrop .boot before)
    (executed : command.exec .iptables before = some after) :
    LinkedDrop .boot after := by
  have kept := linked
  obtain ⟨jump, rules, filled, drops⟩ := linked
  have elsewhere
      {chain : Chain}
      (other : chain ≠ .boot)
      (content : List XRule) :
      LinkedDrop .boot (before.setRules content (.user chain)) :=
    ⟨jump, rules, (Function.update_of_ne (Ne.symm other) _ _).trans filled, drops⟩
  have relinked
      {content : List XRule}
      (still : KillSwitch.jumpTo .boot ∈ content) :
      LinkedDrop .boot (before.setRules content .output) :=
    ⟨still, rules, filled, drops⟩
  cases XCommand.edit_of_exec executed with
  | @append chain rule old present =>
    cases chain with
    | user chain => exact elsewhere (of_decide_eq_true spares) _
    | output =>
      rw [← Option.some.inj present]
      exact relinked (List.mem_append_left _ jump)
  | @insert chain position rule old present inside =>
    cases chain with
    | user chain => exact elsewhere (of_decide_eq_true spares) _
    | output =>
      rw [← Option.some.inj present] at inside ⊢
      exact relinked ((List.mem_insertIdx inside).mpr (.inr jump))
  | @delete chain rule old present member =>
    cases chain with
    | user chain => exact elsewhere (of_decide_eq_true spares) _
    | output =>
      rw [← Option.some.inj present]
      exact relinked ((List.mem_erase_of_ne (Ne.symm (of_decide_eq_true spares))).mpr jump)
  | newChain | flush present => exact elsewhere (of_decide_eq_true spares) _
  | deleteChain =>
    exact ⟨jump, rules,
      (Function.update_of_ne (Ne.symm (of_decide_eq_true spares)) _ _).trans filled, drops⟩
  | check | list => exact kept

namespace KillSwitch

/-- A line that spares the boot chain, with either variant of the tools. -/
def lineSparesBoot : ScriptLine → Bool
  | .comment _ => true
  | .command _ command _ => command.sparesBoot

theorem buildCompleteScript_sparesBoot
    (settings : KillSwitchSettings)
    (vpnIps : List IpAddr)
    (lanSubnets : List Cidr4)
    (lanSubnets6 : List Cidr6) :
    ∀ line ∈ buildCompleteScript settings vpnIps lanSubnets lanSubnets6,
      lineSparesBoot line = true := by
  intro line member
  rcases List.mem_append.mp member with inChain | inIpv6
  · simp only [buildChainScript, List.mem_append, List.mem_singleton] at inChain
    rcases inChain with (rfl | inRules) | rfl
    · rfl
    · have appends := buildChainRules_appends settings vpnIps lanSubnets line inRules
      unfold ScriptLine.appends at appends
      split at appends
      · rfl
      · rfl
      · exact Bool.noConfusion appends
    · rfl
  · obtain ⟨position, tests, target, -, rfl⟩ := buildIpv6Script_lines _ _ _ line inIpv6
    rfl

/-- The commands of `disable` keep an invariant, and so do the changes of flags. -/
structure DisableSteps (env : FwEnv) (inv : KsWorld → Prop) : Prop where
  commands :
    ∀ command : FwCommand,
      command.isRoutine = true → command.sparesBoot = true → Preserves inv (runCommand env command)
  changes :
    ∀ change : KillSwitch → KillSwitch,
      (∀ ks, (change ks).settings = ks.settings) → Preserves inv (modifyKs change)

/-- So do the rules that `enable` installs for the servers it has found. -/
structure EnableSteps
    (env : FwEnv)
    (found : List IpAddr → Prop)
    (inv : KsWorld → Prop) : Prop extends DisableSteps env inv where
  scans : Ensures inv (detectVpnEndpoints env) (fun scan world => inv world ∧ found scan.ips)
  scripts :
    ∀ ips, found ips → ∀ world, inv world →
      Preserves inv (runSingleScript env (currentScript env world ips))
  loads :
    ∀ ips, found ips → ∀ world, inv world →
      Preserves inv (runCommand env
        (.nftLoad (buildNftRuleset world.ks.settings ips (env.lanSubnets world.host.issued))))

section Operations

variable {env : FwEnv} {inv : KsWorld → Prop}

namespace DisableSteps

variable (steps : DisableSteps env inv)

include steps

theorem robustIptablesCleanup :
    Preserves inv (robustIptablesCleanup env) := by
  have deletes : Keeps (Along inv) (deleteDuplicates env .iptables jumpRule) :=
    deleteDuplicates_follows (steps.commands _ (by decide) (by decide))
  have removes (tool : Tool) : Keeps (Along inv) (removeChain env tool) :=
    removeChain_follows (steps.commands _ rfl (by cases tool <;> rfl))
      (steps.commands _ rfl (by cases tool <;> rfl))
  have listed :
      ∀ rule ∈ jumpRule :: ipv6OutputRules,
        (FwCommand.xtables .ip6tables .default (.delete .output rule)).isRoutine = true := by
    decide
  exact deletes.bind (fun _ =>
    cleanupBehindJumps_follows removes
      (fun rule member => steps.commands _ (listed rule member) rfl) (steps.commands _ rfl rfl))

theorem cleanupNftTable :
    Preserves inv (cleanupNftTable env) :=
  show Keeps (Along inv) _ from cleanupNftTable_follows (steps.commands _ rfl rfl)

theorem nftIsAvailable :
    Preserves inv (nftIsAvailable env) :=
  show Keeps (Along inv) _ from nftIsAvailable_follows fun _ => steps.commands _ rfl rfl

theorem finish
    {α : Type}
    {value : α}
    {change : KillSwitch → KillSwitch}
    (settingsKept : ∀ ks, (change ks).settings = ks.settings) :
    Preserves inv (do modifyKs change; pure value : StateM KsWorld α) :=
  Preserves.seq (steps.changes change settingsKept) .pure

theorem removeRules :
    Preserves inv (removeRules env) := by
  refine .get ?_
  intro world _
  cases world.ks.backend with
  | iptables =>
    exact .seq steps.robustIptablesCleanup (steps.finish (fun _ => rfl))
  | nftables =>
    refine .bind steps.cleanupNftTable ?_
    intro result
    cases result with
    | some error => exact .pure
    | none => exact steps.finish (fun _ => rfl)

theorem disableWithoutIptables (error : KillSwitchError) :
    Preserves inv (disableWithoutIptables env error) := by
  have removes := steps.removeRules
  refine .either .pure ?_
  refine .either ?_ removes
  refine .bind
    (show Keeps (Along inv) _ from succeeds_follows (steps.commands _ rfl rfl)) ?_
  intro legacy
  refine .either ?_ ?_
  · exact .seq (steps.changes _ (fun _ => rfl)) removes
  · refine .bind steps.nftIsAvailable ?_
    intro available
    refine .either ?_ removes
    exact .seq (steps.changes _ (fun _ => rfl)) removes

theorem guardToggle
    {toggle : StateM KsWorld (Option KillSwitchError)}
    (toggles : Preserves inv toggle) :
    Preserves inv (guardToggle toggle) := by
  refine .get ?_
  intro world _
  refine .either .pure ?_
  refine .seq (steps.changes _ (fun _ => rfl)) ?_
  exact toggles.bind fun _ => steps.finish (fun _ => rfl)

theorem disable :
    Preserves inv (disable env) := by
  have uninstalls : Preserves inv (uninstall env) := by
    refine .get ?_
    intro world _
    refine .seq (steps.changes _ (fun _ => rfl)) ?_
    cases world.ks.backend with
    | nftables => exact steps.removeRules
    | iptables =>
      refine .bind
        (show Keeps (Along inv) _ from checkSudoAccess_follows (steps.commands _ rfl rfl)) ?_
      intro access
      cases access with
      | none => exact steps.removeRules
      | some error => exact steps.disableWithoutIptables error
  refine steps.guardToggle (Preserves.get ?_)
  intro world _
  exact .either .pure uninstalls

end DisableSteps

namespace EnableSteps

variable {found : List IpAddr → Prop} (steps : EnableSteps env found inv)

include steps

theorem enableNft
    {ips : List IpAddr}
    (isFound : found ips) :
    Preserves inv (enableNft env ips) := by
  refine .seq steps.cleanupNftTable ?_
  refine .get ?_
  intro world holds
  refine .bind
    (show Keeps (Along inv) _ from runNft_follows (steps.loads ips isFound world holds)) ?_
  intro result
  cases result with
  | some error => exact .pure
  | none => exact steps.finish (fun _ => rfl)

theorem enableIptables
    {ips : List IpAddr}
    (isFound : found ips) :
    Preserves inv (enableIptables env ips) := by
  refine enableIptables_ensures env ?_ steps.nftIsAvailable steps.robustIptablesCleanup
    (fun _ _ holds => holds) (steps.changes _ (fun _ => rfl)) (steps.enableNft isFound)
  rintro current world ⟨rfl, holds⟩
  have after := steps.scripts ips isFound world holds world holds
  split
  · exact after
  · exact after

theorem install :
    Preserves inv (install env) := by
  refine .get ?_
  intro world _
  refine .seq (steps.changes _ (fun _ => rfl)) ?_
  refine .seq steps.robustIptablesCleanup ?_
  refine .bindResult steps.scans ?_
  intro scan isFound
  refine .bind
    (show Keeps (Along inv) _ from
      selectBackend_follows (fun _ => steps.commands _ rfl rfl)
        (fun _ => steps.commands _ rfl rfl) (steps.changes _ (fun _ => rfl))) ?_
  intro selected
  cases selected with
  | error error => exact .pure
  | ok backend =>
    refine .seq (steps.changes _ (fun _ => rfl)) ?_
    have installs : Preserves inv (enableBackend env backend scan.ips) := by
      cases backend with
      | iptables => exact steps.enableIptables isFound
      | nftables => exact steps.enableNft isFound
    refine installs.bind ?_
    intro result
    cases result with
    | some error => exact .pure
    | none => exact steps.finish (fun _ => rfl)

theorem enable :
    Preserves inv (enable env) := by
  have installs := steps.install
  have looks (backend : FirewallBackend) : Keeps (Along inv) (rulesExist env backend) := by
    refine rulesExist_follows ?_ ?_ backend
    · exact steps.commands _ (by decide) rfl
    · exact steps.commands _ rfl rfl
  refine steps.guardToggle (Preserves.get ?_)
  intro world _
  refine .either .pure ?_
  refine .either ?_ installs
  refine .bind (looks _) ?_
  intro found
  exact .either .pure installs

theorem update :
    Preserves inv (update env) := by
  refine .get ?_
  intro world _
  refine .either ?_ .pure
  cases world.ks.backend with
  | iptables =>
    refine .bind steps.disable ?_
    intro result
    cases result with
    | some error => exact .pure
    | none => exact steps.enable
  | nftables =>
    exact Preserves.bindResult steps.scans fun scan isFound => steps.enableNft isFound

end EnableSteps

/-- Steps along a relation that only commands about the boot chain may leave. -/
theorem sparing_steps
    {relation : KsWorld → KsWorld → Prop}
    [IsPreorder KsWorld relation]
    (step :
      ∀ command : FwCommand, command.sparesBoot = true → Keeps relation (runCommand env command))
    (changes : ∀ change, Keeps relation (modifyKs change))
    (scans : Keeps relation (detectVpnEndpoints env))
    (start : KsWorld) :
    EnableSteps env (fun _ => True) (relation start) where
  commands command _ spares := (step command spares).preserves start
  changes change _ := (changes change).preserves start
  scans := (scans.preserves start).weaken (fun _ _ reached => ⟨reached, trivial⟩)
  scripts _ _ _ _ := by
    refine Keeps.preserves (.findSomeM? ?_) start
    intro line member
    refine runScriptLine_follows (fun tool attempt => step _ rfl) ?_
    rintro tool command ignoreError rfl variant
    refine step _ ?_
    cases tool with
    | ip6tables => rfl
    | iptables =>
      cases variant with
      | legacy => rfl
      | default => exact buildCompleteScript_sparesBoot _ _ _ _ _ member
  loads _ _ _ _ := (step _ rfl).preserves start

end Operations

end KillSwitch

end Shroud
