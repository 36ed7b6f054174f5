import Shroud.KillSwitchFlags
import Shroud.InstalledRules

namespace Shroud.KillSwitch

open Netfilter IptablesScript NftRuleset StateProgram

/-!
# What the operations do to the firewall

Three facts carry the results on whole runs: probes change nothing, the
cleanup removes every jump unless the removal of one fails, and a script that
ends without an error has been applied line by line.
-/

abbrev firewallOf (world : KsWorld) : Firewall :=
  world.host.firewall

abbrev ipTables (world : KsWorld) : Variant → Table :=
  (firewallOf world).table .iptables

/-- The rules of `OUTPUT` of the default iptables. -/
abbrev outputOf (world : KsWorld) : List XRule :=
  ((firewallOf world).table .iptables .default).output

theorem runCommand_firewall
    (env : FwEnv)
    (command : FwCommand)
    (world : KsWorld) :
    (command.exec (firewallOf world) =
        some (firewallOf ((runCommand env command).run world).2) ∧
      ((runCommand env command).run world).1.succeeded = true ∧
      ((runCommand env command).run world).2.host.log = world.host.log ++ [⟨command, .applied⟩]) ∨
    (firewallOf ((runCommand env command).run world).2 =
        firewallOf world ∧
      ((runCommand env command).run world).1.succeeded = false ∧
      ((command.exec (firewallOf world) = none) ∨
        ((env.fault world.host.issued command).isSome = true ∧
          ((runCommand env command).run world).2.host.log =
            world.host.log ++ [⟨command, .faulted⟩]))) := by
  have succeeded := world.host.succeeded_outcomeOf env command
  cases effect : world.host.effectOf env command with
  | applied =>
    refine .inl ⟨Host.exec_of_applied effect, succeeded.mpr effect, ?_⟩
    change world.host.log ++ [⟨command, _⟩] = _
    rw [effect]
  | refused =>
    have notApplied : world.host.effectOf env command ≠ .applied := by
      simp [effect]
    refine .inr ⟨Host.firewall_of_not_applied notApplied, ?_, .inl ?_⟩
    · exact Bool.eq_false_iff.mpr (mt succeeded.mp notApplied)
    · unfold Host.effectOf at effect
      cases result : command.exec (firewallOf world) with
      | none => rfl
      | some firewall =>
        cases fault : env.fault world.host.issued command <;>
          simp [result, fault] at effect
  | faulted =>
    have notApplied : world.host.effectOf env command ≠ .applied := by
      simp [effect]
    refine .inr ⟨Host.firewall_of_not_applied notApplied, ?_, .inr ?_⟩
    · exact Bool.eq_false_iff.mpr (mt succeeded.mp notApplied)
    · refine ⟨?_, ?_⟩
      · unfold Host.effectOf at effect
        cases result : command.exec world.host.firewall with
        | none => simp [result] at effect
        | some firewall =>
          cases fault : env.fault world.host.issued command with
          | none => simp [result, fault] at effect
          | some reason => rfl
      · change world.host.log ++ [⟨command, _⟩] = _
        rw [effect]

/-- The log grows and a view of the firewall stays. -/
structure ViewKept
    {α : Type}
    (view : Firewall → α)
    (before after : KsWorld) : Prop extends Advances before after where
  same : view (firewallOf after) = view (firewallOf before)

instance {α : Type} (view : Firewall → α) : IsPreorder KsWorld (ViewKept view) where
  refl _ := ⟨⟨Nat.le_refl _, List.prefix_refl _⟩, rfl⟩
  trans _ _ _ first second :=
    ⟨IsTrans.trans _ _ _ first.toAdvances second.toAdvances, second.same.trans first.same⟩

/-- A command keeps a view that its execution keeps, whether it works or not. -/
theorem runCommand_keepsView
    (env : FwEnv)
    {command : FwCommand}
    {α : Type}
    {view : Firewall → α}
    (spares : ∀ before after, command.exec before = some after → view after = view before) :
    Keeps (ViewKept view) (runCommand env command) := by
  intro world
  refine ⟨(runCommand_keeps env command world).toAdvances, ?_⟩
  rcases runCommand_firewall env command world with
    ⟨executed, -, -⟩ | ⟨unchanged, -, -⟩
  · exact spares _ _ executed
  · rw [unchanged]

/-- Time passes and the firewall stays. -/
abbrev FirewallKept :=
  ViewKept fun firewall => firewall

theorem FirewallKept.firewall
    {before after : KsWorld}
    (kept : FirewallKept before after) :
    firewallOf after = firewallOf before :=
  kept.same

section Probes

variable (env : FwEnv)

/-- Programs that leave the firewall alone. -/
abbrev Observes {α : Type} (program : StateM KsWorld α) : Prop :=
  Keeps FirewallKept program

theorem runCommand_observes
    {command : FwCommand}
    (observes : command.observes = true) :
    Observes (runCommand env command) :=
  runCommand_keepsView env fun _ _ => FwCommand.exec_of_observes observes

theorem checkSudoAccess_observes :
    Observes (checkSudoAccess env) :=
  checkSudoAccess_follows (runCommand_observes env rfl)

theorem nftIsAvailable_observes :
    Observes (nftIsAvailable env) :=
  nftIsAvailable_follows (fun _ => runCommand_observes env rfl)

theorem modifyKs_observes (change : KillSwitch → KillSwitch) :
    Observes (modifyKs change) :=
  fun _ => ⟨⟨Nat.le_refl _, List.prefix_refl _⟩, rfl⟩

theorem detectVpnEndpoints_observes :
    Observes (detectVpnEndpoints env) :=
  fun world => ⟨(detectVpnEndpoints_keeps env world).toAdvances, rfl⟩

theorem selectBackend_observes :
    Observes (selectBackend env) :=
  selectBackend_follows (fun _ => runCommand_observes env rfl)
    (fun _ => runCommand_observes env rfl) (modifyKs_observes _)

theorem rulesExist_observes (backend : FirewallBackend) :
    Observes (rulesExist env backend) :=
  rulesExist_follows (runCommand_observes env rfl) (runCommand_observes env rfl) backend

end Probes

def jumpDeletion : FwCommand :=
  .xtables .iptables .default (.delete .output jumpRule)

/-- Removing a jump failed although there was one. -/
def JumpStuck (world : KsWorld) : Prop :=
  ⟨jumpDeletion, .faulted⟩ ∈ world.host.log

variable {before after world : KsWorld}

theorem JumpStuck.mono
    (stuck : JumpStuck before)
    (advances : Advances before after) :
    JumpStuck after :=
  advances.log.subset stuck

def jumpCount (world : KsWorld) : Nat :=
  (outputOf world).count jumpRule

section Cleanup

variable (env : FwEnv)

theorem exec_jumpDeletion (firewall : Firewall) :
    jumpDeletion.exec firewall =
      if jumpRule ∈ (firewall.table .iptables .default).output then
        some (firewall.setTable .iptables .default
          ((firewall.table .iptables .default).setRules
            ((firewall.table .iptables .default).output.erase jumpRule)
            .output))
      else
        none := by
  by_cases present : jumpRule ∈ (firewall.table .iptables .default).output <;>
    simp [jumpDeletion, FwCommand.exec, XCommand.exec, Table.rules?, present]

theorem succeeds_jumpDeletion (count : Nat) :
    Ensures (fun world => True ∧ jumpCount world = count)
      (succeeds env jumpDeletion)
      (fun goOn world =>
        True ∧
          if goOn then jumpCount world + 1 = count
          else jumpCount world = 0 ∨ JumpStuck world) := by
  rintro world ⟨-, rfl⟩
  refine ⟨trivial, ?_⟩
  rw [succeeds, run_bind]
  rcases runCommand_firewall env jumpDeletion world with
    ⟨executed, succeeded, -⟩ | ⟨unchanged, failed, reason⟩
  · rw [exec_jumpDeletion] at executed
    by_cases present : jumpRule ∈ outputOf world
    · rw [if_pos present, Option.some.injEq] at executed
      have fewer :
          outputOf ((runCommand env jumpDeletion).run world).2 =
            (outputOf world).erase jumpRule := by
        rw [outputOf, ← executed, Firewall.setTable_same]
        rfl
      have positive : 0 < (outputOf world).count jumpRule := List.count_pos_iff.mpr present
      rw [succeeded]
      change jumpCount ((runCommand env jumpDeletion).run world).2 + 1 = _
      rw [jumpCount, fewer, List.count_erase_self, jumpCount]
      omega
    · rw [if_neg present] at executed
      exact absurd executed (by simp)
  · rw [failed]
    change jumpCount ((runCommand env jumpDeletion).run world).2 = 0 ∨
      JumpStuck ((runCommand env jumpDeletion).run world).2
    rcases reason with refused | ⟨-, log⟩
    · rw [exec_jumpDeletion] at refused
      by_cases present : jumpRule ∈ outputOf world
      · rw [if_pos present] at refused
        exact absurd refused (by simp)
      · refine .inl ?_
        rw [jumpCount, outputOf, unchanged]
        exact List.count_eq_zero.mpr present
    · refine .inr ?_
      rw [JumpStuck, log]
      exact List.mem_append_right _ (List.mem_singleton.mpr rfl)

/-- The log grows and `OUTPUT` of the default `iptables` stays. -/
abbrev OutputKept :=
  ViewKept fun firewall => (firewall.table .iptables .default).output

theorem OutputKept.output (kept : OutputKept before after) :
    outputOf after = outputOf before :=
  kept.same

theorem runCommand_keepsOutput
    {command : FwCommand}
    (elsewhere : command.editsOutput = false) :
    Keeps OutputKept (runCommand env command) :=
  runCommand_keepsView env fun _ _ => FwCommand.output_of_exec elsewhere

/-- No jump is left, or removing one failed. -/
def JumpsGone (world : KsWorld) : Prop :=
  jumpCount world = 0 ∨ JumpStuck world

theorem JumpsGone.mono
    (gone : JumpsGone before)
    (kept : OutputKept before after) :
    JumpsGone after := by
  rcases gone with none | stuck
  · refine .inl ?_
    rw [jumpCount, kept.output]
    exact none
  · exact .inr (stuck.mono kept.toAdvances)

theorem cleanupBehindJumps_keepsOutput :
    Keeps OutputKept (cleanupBehindJumps env) := by
  refine cleanupBehindJumps_follows ?_ ?_ ?_
  · intro tool
    cases tool <;>
      exact removeChain_follows (runCommand_keepsOutput env rfl) (runCommand_keepsOutput env rfl)
  · intro rule _
    exact runCommand_keepsOutput env rfl
  · exact runCommand_keepsOutput env rfl

theorem robustIptablesCleanup_jumpsGone :
    Ensures (fun world => jumpCount world ≤ 100)
      (robustIptablesCleanup env) (fun _ => JumpsGone) := by
  have deleted :
      Ensures (fun world => jumpCount world ≤ 100)
        (deleteDuplicates env .iptables jumpRule) (fun _ => JumpsGone) :=
    (Ensures.repeatWhile_exhausts (succeeds_jumpDeletion env) 100).consequence
      (fun _ few => ⟨trivial, few⟩) (fun _ _ after => after.2)
  refine deleted.bind ?_
  intro _ world gone
  exact gone.mono (cleanupBehindJumps_keepsOutput env world)

end Cleanup

/-- A command of the script was applied once, by one variant of the tool. -/
structure LineApplied
    (tool : Tool)
    (command : XCommand)
    (variant : Variant)
    (before after : KsWorld) : Prop where
  executed :
    ∃ table,
      command.exec tool ((firewallOf before).table tool variant) =
          some table ∧
        firewallOf after = (firewallOf before).setTable tool variant table
  logged :
    ∃ entries,
      after.host.log = before.host.log ++ entries ∧
        ⟨.xtables tool variant command, .applied⟩ ∈ entries

section Script

variable (env : FwEnv)

theorem runCommand_line
    (start : KsWorld)
    (tool : Tool)
    (variant : Variant)
    (command : XCommand) :
    Ensures (FirewallKept start)
      (runCommand env (.xtables tool variant command))
      (fun outcome world =>
        (outcome.succeeded = true ∧ LineApplied tool command variant start world) ∨
        (outcome.succeeded = false ∧ FirewallKept start world)) := by
  intro world kept
  rcases runCommand_firewall env (.xtables tool variant command) world with
    ⟨executed, succeeded, log⟩ | ⟨unchanged, failed, -⟩
  · refine .inl ⟨succeeded, ⟨?_, ?_⟩⟩
    · rw [kept.firewall] at executed
      obtain ⟨table, ran, same⟩ := Option.map_eq_some_iff.mp executed
      exact ⟨table, ran, same.symm⟩
    · obtain ⟨entries, grown⟩ := kept.log
      refine ⟨entries ++ [⟨.xtables tool variant command, .applied⟩], ?_, by simp⟩
      rw [log, ← grown, List.append_assoc]
  · refine .inr ⟨failed, ?_⟩
    exact IsTrans.trans _ _ _ kept ⟨(runCommand_keeps env _ world).toAdvances, unchanged⟩

/-- No legacy tool can be called. -/
def NoLegacy (env : FwEnv) : Prop :=
  ∀ number tool attempt, (env.fault number (.legacyVersion tool attempt)).isSome = true

theorem NoLegacy.legacyVariant
    {env : FwEnv}
    (noLegacy : NoLegacy env)
    (tool : Tool)
    (world : KsWorld) :
    ((legacyVariant env tool).run world).1 = false := by
  have fails :
      ∀ attempt state, ((succeeds env (.legacyVersion tool attempt)).run state).1 = false := by
    intro attempt state
    have applied := state.host.succeeded_outcomeOf env (.legacyVersion tool attempt)
    have fault := noLegacy state.host.issued tool attempt
    refine Bool.eq_false_iff.mpr (mt applied.mp ?_)
    obtain ⟨reason, failing⟩ := Option.isSome_iff_exists.mp fault
    simp [Host.effectOf, FwCommand.exec, failing]
  rw [KillSwitch.legacyVariant, run_bind, fails, if_neg Bool.false_ne_true]
  exact fails 1 _

variable {tool : Tool} {command : XCommand} {variant : Variant} {start : KsWorld}

/--
What a line leaves: its command applied once, or nothing done, which ends the
script unless it is tolerated.
-/
def LineRan
    (tool : Tool)
    (command : XCommand)
    (tolerated : Bool)
    (start : KsWorld)
    (result : Option KillSwitchError)
    (world : KsWorld) : Prop :=
  (result = none ∧
      ∃ variant,
        (NoLegacy env → variant = .default) ∧ LineApplied tool command variant start world) ∨
    (result = none → tolerated = true) ∧ FirewallKept start world

theorem lineRan_of_ran
    {outcome : Outcome}
    {result : Option KillSwitchError}
    {tolerated : Bool}
    (usual : NoLegacy env → variant = .default)
    (succeeds : outcome.succeeded = true → result = none)
    (fails : outcome.succeeded = false → result = none → tolerated = true)
    (world : KsWorld)
    (ran :
      (outcome.succeeded = true ∧ LineApplied tool command variant start world) ∨
      (outcome.succeeded = false ∧ FirewallKept start world)) :
    LineRan env tool command tolerated start result world := by
  rcases ran with ⟨succeeded, applied⟩ | ⟨failed, kept⟩
  · exact .inl ⟨succeeds succeeded, variant, usual, applied⟩
  · exact .inr ⟨fails failed, kept⟩

section

variable (start : KsWorld) (tool : Tool) (command : XCommand)

theorem runLegacyLine_ran (stderr : String) :
    Ensures (FirewallKept start) (runLegacyLine env tool command stderr)
      (LineRan env tool command false start) := by
  have probed :
      Ensures (FirewallKept start) (legacyVariant env tool)
        (fun found world =>
          (NoLegacy env → found = false) ∧ FirewallKept start world) := by
    intro world kept
    have probe : Observes (legacyVariant env tool) :=
      legacyVariant_follows (fun _ => runCommand_observes env rfl)
    exact ⟨fun noLegacy => noLegacy.legacyVariant tool world, probe.ensures start world kept⟩
  refine probed.bind ?_
  intro found
  refine .of_pure_pre ?_
  intro unfound
  refine .ite (fun isFound => ?_) fun _ => .pure (fun _ kept => .inr ⟨by simp, kept⟩)
  have usual : NoLegacy env → Variant.legacy = .default := by
    intro noLegacy
    rw [unfound noLegacy] at isFound
    exact Bool.noConfusion isFound
  refine .bind (runCommand_line env start tool .legacy command) ?_
  intro outcome
  cases outcome with
  | exited code text =>
    refine .ite (fun success => .pure ?_) fun failure => .pure ?_
    · exact lineRan_of_ran env usual (by simp) (by simp [Outcome.succeeded, success])
    · exact lineRan_of_ran env usual (by simp [Outcome.succeeded, failure]) (by simp)
  | _ => exact .pure (lineRan_of_ran env usual (by simp [Outcome.succeeded]) (by simp))

theorem runScriptLine_ran (tolerated : Bool) :
    Ensures (FirewallKept start)
      (runScriptLine env (.command tool command tolerated))
      (LineRan env tool command tolerated start) := by
  have probed
      (useLegacy : Bool) :
      Ensures (FirewallKept start) (lineVariant env useLegacy tool)
        (fun variant world =>
          (NoLegacy env → variant = .default) ∧ FirewallKept start world) := by
    intro world kept
    have probe : Observes (lineVariant env useLegacy tool) :=
      lineVariant_follows (fun _ => runCommand_observes env rfl) _
    refine ⟨?_, probe.ensures start world kept⟩
    intro noLegacy
    cases useLegacy with
    | false => rfl
    | true =>
      rw [lineVariant, if_pos rfl, run_bind, noLegacy.legacyVariant tool world]
      rfl
  refine .get_any ?_
  intro current
  refine (probed current.ks.useLegacy).bind ?_
  intro variant
  refine .of_pure_pre ?_
  intro usual
  refine .bind (runCommand_line env start tool variant command) ?_
  intro outcome
  cases outcome with
  | exited code stderr =>
    refine .ite (fun success => .pure ?_) fun failure => ?_
    · refine lineRan_of_ran env usual (fun _ => rfl) fun failed _ => ?_
      exact success.resolve_left (by simpa [Outcome.succeeded] using failed)
    obtain ⟨nonzero, strict⟩ := not_or.mp failure
    have failed : (Outcome.exited code stderr).succeeded = false := by
      simpa [Outcome.succeeded] using nonzero
    have done (error : KillSwitchError) :=
      @lineRan_of_ran env tool command variant start (.exited code stderr) (some error) tolerated
        usual (by simp [failed]) (by simp)
    refine .either (.pure (done _)) (.either ?_ (.pure (done _)))
    rw [Bool.eq_false_iff.mpr strict]
    refine (runLegacyLine_ran env start tool command stderr).strengthen ?_
    rintro world (⟨succeeded, -⟩ | ⟨-, kept⟩)
    · exact absurd (failed.symm.trans succeeded) Bool.false_ne_true
    · exact kept
  | _ => exact .pure (lineRan_of_ran env usual (by simp [Outcome.succeeded]) (by simp))

end

/-- The filter tables of one variant. -/
def tablesOf (world : KsWorld) (variant : Variant) : Tables :=
  fun tool => (firewallOf world).table tool variant

theorem LineApplied.installLine
    (applied : LineApplied tool command variant before after)
    (ignoreError : Bool) :
    installLine (tablesOf before variant)
        (.command tool command ignoreError) =
      some (tablesOf after variant) := by
  obtain ⟨table, ran, changed⟩ := applied.executed
  have tables : tablesOf after variant = Function.update (tablesOf before variant) tool table := by
    funext other
    by_cases same : other = tool
    · subst other
      rw [tablesOf, changed, Firewall.setTable_same, Function.update_self]
    · rw [tablesOf, changed,
        Firewall.setTable_other _ (fun both => same both.1),
        Function.update_of_ne same]
      rfl
  have executes : command.exec tool (tablesOf before variant tool) = some table :=
    ran
  simp only [IptablesScript.installLine, executes, tables]

theorem LineApplied.tablesOf_other
    {other : Variant}
    (applied : LineApplied tool command variant before after)
    (different : other ≠ variant) :
    tablesOf after other = tablesOf before other := by
  obtain ⟨table, -, changed⟩ := applied.executed
  funext anyTool
  rw [tablesOf, changed, Firewall.setTable_other _ (fun both => different both.2)]
  rfl

/-- Lines of `iptables` that must succeed, and comments. -/
def isMandatory : ScriptLine → Bool
  | .comment _ => true
  | .command .iptables command false => command.buildsChain
  | _ => false

/-- The applied commands that build a chain all came from one variant. -/
def OneVariant (variant : Variant) (entries : List LogEntry) : Prop :=
  ∀ command other,
    command.buildsChain = true →
      ⟨.xtables .iptables other command, .applied⟩ ∈ entries →
      other = variant

theorem runSingleScript_cons_some
    {line : ScriptLine}
    {rest : List ScriptLine}
    {error : KillSwitchError}
    (failed : ((runScriptLine env line).run start).1 = some error) :
    (runSingleScript env (line :: rest)).run start =
      (some error, ((runScriptLine env line).run start).2) := by
  rw [runSingleScript, List.findSomeM?, run_bind, failed]
  rfl

theorem runSingleScript_cons_none
    {line : ScriptLine}
    {rest : List ScriptLine}
    (ok : ((runScriptLine env line).run start).1 = none) :
    (runSingleScript env (line :: rest)).run start =
      (runSingleScript env rest).run ((runScriptLine env line).run start).2 := by
  rw [runSingleScript, List.findSomeM?, run_bind, ok]
  rfl

/--
A mandatory script that ends without an error and within one variant has had
its whole effect on the tables of that variant.
-/
theorem install_of_runSingleScript
    {lines : List ScriptLine}
    (mandatory : ∀ line ∈ lines, isMandatory line = true)
    (ok : ((runSingleScript env lines).run start).1 = none) :
    ∃ entries,
      ((runSingleScript env lines).run start).2.host.log =
          start.host.log ++ entries ∧
        ∀ variant,
          OneVariant variant entries →
            IptablesScript.install lines (tablesOf start variant) =
                some (tablesOf ((runSingleScript env lines).run start).2 variant) ∧
              ∀ other,
                other ≠ variant →
                tablesOf ((runSingleScript env lines).run start).2 other =
                  tablesOf start other := by
  induction lines generalizing start with
  | nil =>
    exact ⟨[], (List.append_nil _).symm, fun _ _ => ⟨rfl, fun _ _ => rfl⟩⟩
  | cons line rest ih =>
    have restMandatory : ∀ line ∈ rest, isMandatory line = true :=
      fun later member => mandatory later (by simp [member])
    cases first : ((runScriptLine env line).run start).1 with
    | some error =>
      rw [runSingleScript_cons_some env first] at ok
      exact absurd ok (by simp)
    | none =>
      rw [runSingleScript_cons_none env first] at ok ⊢
      obtain ⟨later, grown, installs⟩ := ih restMandatory ok
      cases line with
      | comment text => exact ⟨later, grown, installs⟩
      | command tool command ignoreError =>
        obtain ⟨rfl, rfl, builds⟩ :
            tool = .iptables ∧ ignoreError = false ∧ command.buildsChain = true := by
          have line := mandatory _ List.mem_cons_self
          cases tool <;> cases ignoreError <;>
            simp_all [isMandatory]
        have ran := runScriptLine_ran env start .iptables command false start (Std.Refl.refl start)
        obtain ⟨-, used, -, applied⟩ :=
          ran.resolve_right (fun kept => absurd (kept.1 first) Bool.false_ne_true)
        obtain ⟨entries, logged, member⟩ := applied.logged
        refine ⟨entries ++ later, ?_, ?_⟩
        · rw [grown, logged, List.append_assoc]
        · intro variant oneVariant
          have same : used = variant :=
            oneVariant command used builds (List.mem_append_left _ member)
          subst used
          have restVariant : OneVariant variant later :=
            fun command other builds member =>
              oneVariant command other builds (List.mem_append_right _ member)
          obtain ⟨installed, spared⟩ := installs variant restVariant
          constructor
          · rw [IptablesScript.install, applied.installLine, Option.bind_some]
            exact installed
          · intro other different
            rw [spared other different]
            exact applied.tablesOf_other different

/-- The log grows and the iptables tables stay. -/
abbrev IptablesKept :=
  ViewKept fun firewall => firewall.table .iptables

theorem runCommand_sparesIptables
    {command : FwCommand}
    (spares : command.sparesIptables = true) :
    Keeps IptablesKept (runCommand env command) :=
  runCommand_keepsView env fun _ _ => FwCommand.iptables_of_exec spares

theorem runIpv6Script_sparesIptables
    (ipv6Mode : Ipv6Mode)
    (allowLan : Bool)
    (lanSubnets6 : List Cidr6) :
    Keeps IptablesKept (runSingleScript env (buildIpv6Script ipv6Mode allowLan lanSubnets6)) := by
  refine .findSomeM? ?_
  intro line member
  obtain ⟨position, tests, target, -, rfl⟩ :=
    buildIpv6Script_lines ipv6Mode allowLan lanSubnets6 line member
  refine runScriptLine_follows ?_ ?_
  · intro tool attempt
    exact runCommand_sparesIptables env rfl
  · rintro tool command ignoreError ⟨⟩ variant
    exact runCommand_sparesIptables env rfl

theorem buildChainScript_mandatory
    (settings : KillSwitchSettings)
    (vpnIps : List IpAddr)
    (lanSubnets : List Cidr4) :
    ∀ line ∈ buildChainScript settings vpnIps lanSubnets, isMandatory line = true := by
  intro line member
  simp only [buildChainScript, List.mem_append, List.mem_singleton] at member
  rcases member with (rfl | inRules) | rfl
  · rfl
  · have appends := buildChainRules_appends settings vpnIps lanSubnets line inRules
    unfold ScriptLine.appends at appends
    split at appends
    · rfl
    · rfl
    · exact Bool.noConfusion appends
  · rfl

/--
A complete script that ends without an error and within one variant leaves the
complete chain with its jump there, and spares the other variant.
-/
theorem runSingleScript_complete
    {settings : KillSwitchSettings}
    {vpnIps : List IpAddr}
    {lanSubnets : List Cidr4}
    {lanSubnets6 : List Cidr6}
    (ok :
      ((runSingleScript env
        (buildCompleteScript settings vpnIps lanSubnets lanSubnets6)).run start).1 = none) :
    ∃ entries, start.host.log ++ entries <+:
          ((runSingleScript env
            (buildCompleteScript settings vpnIps lanSubnets lanSubnets6)).run start).2.host.log ∧
        ∀ variant,
          OneVariant variant entries →
            ipTables ((runSingleScript env
                (buildCompleteScript settings vpnIps lanSubnets lanSubnets6)).run start).2 =
              Function.update (ipTables start) variant
                (chainInstalled settings vpnIps lanSubnets (tablesOf start variant) .iptables) := by
  rw [buildCompleteScript, runSingleScript, findSomeM?_append] at ok ⊢
  cases first : ((runSingleScript env
      (buildChainScript settings vpnIps lanSubnets)).run start).1 with
  | some error =>
    rw [runSingleScript] at first
    rw [first] at ok
    exact absurd ok (by simp)
  | none =>
    obtain ⟨entries, grown, installs⟩ :=
      install_of_runSingleScript env (buildChainScript_mandatory settings vpnIps lanSubnets) first
    rw [runSingleScript] at first grown installs
    rw [first]
    have ipv6 :=
      runIpv6Script_sparesIptables env settings.ipv6Mode true lanSubnets6
        ((List.findSomeM? (runScriptLine env)
          (buildChainScript settings vpnIps lanSubnets)).run start).2
    refine ⟨entries, ?_, ?_⟩
    · rw [← grown]
      exact ipv6.log
    · intro variant oneVariant
      obtain ⟨installed, spared⟩ := installs variant oneVariant
      refine ipv6.same.trans ?_
      funext other
      by_cases same : other = variant
      · subst other
        rw [Function.update_self]
        exact congrFun (chainInstalled_of_install installed) .iptables
      · rw [Function.update_of_ne same]
        exact congrFun (spared other same) .iptables

end Script

section Nft

variable (env : FwEnv)

theorem nftError?_eq_none (outcome : Outcome) :
    nftError? outcome = none ↔ outcome.succeeded = true := by
  cases outcome with
  | io stage reason => cases stage <;> exact ⟨nofun, nofun⟩
  | timedOut => exact ⟨nofun, nofun⟩
  | exited code stderr =>
    by_cases zero : code = 0 <;> simp [nftError?, Outcome.succeeded, zero]

theorem runNft_firewall
    (command : FwCommand)
    (world : KsWorld) :
    (((runNft env command).run world).1 = none ∧
      command.exec (firewallOf world) = some (firewallOf ((runNft env command).run world).2)) ∨
    (((runNft env command).run world).1 ≠ none ∧
      firewallOf ((runNft env command).run world).2 = firewallOf world) := by
  have result :
      ((runNft env command).run world).1 = none ↔
        ((runCommand env command).run world).1.succeeded = true :=
    nftError?_eq_none _
  rcases runCommand_firewall env command world with
    ⟨executed, succeeded, -⟩ | ⟨unchanged, failed, -⟩
  · exact .inl ⟨result.mpr succeeded, executed⟩
  · refine .inr ⟨?_, unchanged⟩
    intro ok
    rw [result.mp ok] at failed
    exact Bool.noConfusion failed

theorem cleanupNftTable_failed
    (failed : ((cleanupNftTable env).run world).1 ≠ none) :
    firewallOf ((cleanupNftTable env).run world).2 = firewallOf world := by
  rcases runNft_firewall env .nftDelete world with
    ⟨ok, -⟩ | ⟨-, unchanged⟩
  · refine absurd ?_ failed
    exact congrArg tolerateAbsent ok
  · exact unchanged

section

variable (vpnServerIps : List IpAddr)

theorem enableNft_sparesIptables :
    Keeps IptablesKept (enableNft env vpnServerIps) :=
  enableNft_follows (runCommand_sparesIptables env rfl)
    (fun _ => runCommand_sparesIptables env rfl)
    (fun _ => ⟨⟨Nat.le_refl _, List.prefix_refl _⟩, rfl⟩) vpnServerIps

theorem enableNft_nft :
    Ensures (fun _ => True) (enableNft env vpnServerIps)
      (fun result world =>
        result = none → (firewallOf world).nft.isSome = true) := by
  have cleaned :
      Ensures (fun _ => True) (cleanupNftTable env)
        (fun _ (_ : KsWorld) => True) :=
    fun _ _ => trivial
  refine cleaned.seq ?_
  refine .get ?_
  intro current world _
  rw [run_bind]
  rcases runNft_firewall env (.nftLoad _) world with
    ⟨ok, executed⟩ | ⟨failed, -⟩
  · rw [ok]
    intro _
    change (firewallOf ((runNft env _).run world).2).nft.isSome = true
    rw [← Option.some.inj executed]
    rfl
  · cases result : ((runNft env (.nftLoad _)).run world).1 with
    | none => exact (failed result).elim
    | some error =>
      intro ok
      exact absurd ok (by simp)

theorem enableNft_backend (world : KsWorld) :
    ((enableNft env vpnServerIps).run world).2.ks.backend = world.ks.backend := by
  have kept :
      Keeps (SameView fun state : KsWorld => state.ks.backend) (enableNft env vpnServerIps) := by
    have commands (command : FwCommand) :
        Keeps (SameView fun state : KsWorld => state.ks.backend) (runCommand env command) :=
      fun state => congrArg KillSwitch.backend (runCommand_keeps env command state).ks
    exact enableNft_follows (commands _) (fun _ => commands _) (fun _ => rfl) vpnServerIps
  exact kept world

end

end Nft

end Shroud.KillSwitch
