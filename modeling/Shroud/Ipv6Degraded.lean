import Mathlib.Data.List.Basic
import Shroud.FirewallCleanup
import Shroud.KillSwitchRun

namespace Shroud.KillSwitch

open Netfilter KillSwitchRules IptablesScript StateProgram

/-!
# IPv6 rules of which some are refused

The script tolerates every failure of `ip6tables`, and inserts each rule at the
position that counts all earlier ones in.  A refused rule leaves a gap that the
next ones fill with rules that were there before.
-/

section Tables

variable {refused : XCommand → Bool} {table : Table} {lines : List ScriptLine}

/-- The table after a line of the IPv6 part, where some commands are refused. -/
def attemptUnless (refused : XCommand → Bool) (table : Table) : ScriptLine → Table
  | .command .ip6tables command _ =>
    if refused command then table else command.attempt .ip6tables table
  | _ => table

def isSpared (refused : XCommand → Bool) : ScriptLine → Bool
  | .command _ command _ => !refused command
  | .comment _ => true

/-- The rule that ends the IPv6 part. -/
abbrev dropAll : XRule :=
  .rule [] .drop

/-- All rules of the prior list stand behind a rule that drops everything. -/
def DropLeads (prior rules : List XRule) : Prop :=
  ∃ front, rules = front ++ dropAll :: prior

/-- An insertion that a position past the end does not make void. -/
theorem attempt_insert
    (table : Table)
    (position : Nat)
    (rule : XRule) :
    (XCommand.attempt .ip6tables table (.insert .output position rule)).output = table.output ∨
      ∃ front rest,
        table.output = front ++ rest ∧
          position = front.length + 1 ∧
          (XCommand.attempt .ip6tables table (.insert .output position rule)).output =
            front ++ rule :: rest := by
  simp only [XCommand.attempt, XCommand.exec, Table.rules?, Option.bind_some]
  split
  · split
    next fits =>
      have length : (table.output.take (position - 1)).length = position - 1 := by
        rw [List.length_take]
        omega
      have inserted :=
        insertIdx_length_append (table.output.take (position - 1))
          (table.output.drop (position - 1)) rule
      rw [List.take_append_drop, length] at inserted
      refine .inr ⟨_, _, (List.take_append_drop (position - 1) _).symm, ?_, inserted⟩
      omega
    next => exact .inl rfl
  · exact .inl rfl

/-- A rule that accepts adds one rule at most, and none that drops everything. -/
theorem attemptUnless_accepts
    {line : ScriptLine}
    (accepts : line.AcceptsV6)
    (noDrop : dropAll ∉ table.output) :
    dropAll ∉ (attemptUnless refused table line).output ∧
      (attemptUnless refused table line).output.length ≤
        table.output.length + if isSpared refused line then 1 else 0 := by
  obtain ⟨position, tests, -, rfl⟩ := accepts
  simp only [attemptUnless, insertRule6, isSpared]
  by_cases isRefused : refused (.insert .output position (.rule tests .accept)) = true
  · simp [isRefused, noDrop]
  · simp only [isRefused, Bool.false_eq_true, ↓reduceIte]
    rcases attempt_insert table position (.rule tests .accept) with
      same | ⟨front, rest, split, -, inserted⟩
    · simp [same, noDrop]
    · rw [split] at noDrop
      rw [inserted, split]
      simp_all [Nat.add_assoc]

theorem foldl_accepts
    (accepts : ∀ line ∈ lines, line.AcceptsV6)
    (noDrop : dropAll ∉ table.output) :
    dropAll ∉ (lines.foldl (attemptUnless refused) table).output ∧
      (lines.foldl (attemptUnless refused) table).output.length ≤
        table.output.length + lines.countP (isSpared refused) := by
  induction lines generalizing table with
  | nil => exact ⟨noDrop, Nat.le_refl _⟩
  | cons line rest ih =>
    obtain ⟨absent, grown⟩ :=
      @attemptUnless_accepts refused table line (accepts line List.mem_cons_self) noDrop
    have later :=
      ih (fun line member => accepts line (List.mem_cons_of_mem _ member)) absent
    rw [List.countP_cons, List.foldl_cons]
    exact ⟨later.1, by omega⟩

theorem foldl_of_install
    {tables final : Tables}
    (lines6 : ∀ line ∈ lines, ∃ command, line = .command .ip6tables command true)
    (spared : ∀ line ∈ lines, isSpared refused line = true)
    (installs : IptablesScript.install lines tables = some final) :
    lines.foldl (attemptUnless refused) (tables .ip6tables) = final .ip6tables := by
  induction lines generalizing tables with
  | nil => rw [← Option.some.inj installs]; rfl
  | cons line rest ih =>
    obtain ⟨command, rfl⟩ := lines6 line List.mem_cons_self
    have kept : refused command = false := by
      simpa [isSpared] using spared _ List.mem_cons_self
    obtain ⟨next, first, later⟩ := Option.bind_eq_some_iff.mp installs
    have stepped : next .ip6tables = command.attempt .ip6tables (tables .ip6tables) := by
      rw [XCommand.attempt]
      rw [installLine] at first
      cases executed : command.exec .ip6tables (tables .ip6tables) with
      | none =>
        rw [executed] at first
        rw [← Option.some.inj first]
        rfl
      | some table =>
        rw [executed] at first
        rw [← Option.some.inj first, Function.update_self]
        rfl
    rw [List.foldl_cons, attemptUnless, kept, if_neg Bool.false_ne_true, ← stepped]
    exact ih (fun line member => lines6 line (List.mem_cons_of_mem _ member))
      (fun line member => spared line (List.mem_cons_of_mem _ member)) later

theorem buildIpv6Script_commands
    (ipv6Mode : Ipv6Mode)
    (lanSubnets6 : List Cidr6) :
    ∀ line ∈ buildIpv6Script ipv6Mode true lanSubnets6,
      ∃ command, line = .command .ip6tables command true := by
  intro line member
  obtain ⟨position, tests, target, -, rfl⟩ := buildIpv6Script_lines _ _ _ line member
  exact ⟨_, rfl⟩

/-- Without a refused command the rules of the script come first, in order. -/
theorem foldl_buildIpv6Script
    {ipv6Mode : Ipv6Mode}
    {lanSubnets6 : List Cidr6}
    (spared : ∀ line ∈ buildIpv6Script ipv6Mode true lanSubnets6, isSpared refused line = true) :
    ((buildIpv6Script ipv6Mode true lanSubnets6).foldl (attemptUnless refused) table).output =
      ipv6FrontRules ipv6Mode lanSubnets6 ++ table.output := by
  rw [foldl_of_install (buildIpv6Script_commands ipv6Mode lanSubnets6) spared
    (install_buildIpv6Script ipv6Mode lanSubnets6 (fun _ => table)), withOutput6_output]

theorem dropLeads_of_spared
    {ipv6Mode : Ipv6Mode}
    (active : ipv6Mode ≠ .off)
    {lanSubnets6 : List Cidr6}
    (spared : ∀ line ∈ buildIpv6Script ipv6Mode true lanSubnets6, isSpared refused line = true) :
    DropLeads table.output
      ((buildIpv6Script ipv6Mode true lanSubnets6).foldl (attemptUnless refused) table).output := by
  rw [foldl_buildIpv6Script spared]
  cases ipv6Mode with
  | off => exact absurd rfl active
  | block => exact ⟨[_], rfl⟩
  | tunnel => exact ⟨_, List.append_assoc _ [dropAll] _⟩

/-- A gap brings a rule of the prior list before the one that drops everything. -/
theorem spared_of_dropLeads
    {ipv6Mode : Ipv6Mode}
    (active : ipv6Mode ≠ .off)
    {lanSubnets6 : List Cidr6}
    (dropSpared : ∀ position, refused (.insert .output position dropAll) = false)
    (noDrop : dropAll ∉ table.output)
    (leads : DropLeads table.output
      ((buildIpv6Script ipv6Mode true lanSubnets6).foldl (attemptUnless refused) table).output) :
    ∀ line ∈ buildIpv6Script ipv6Mode true lanSubnets6, isSpared refused line = true := by
  obtain ⟨fronts, split, accepts⟩ := buildIpv6Script_split active true lanSubnets6
  obtain ⟨absent, few⟩ := @foldl_accepts refused table fronts accepts noDrop
  obtain ⟨front, leads⟩ := leads
  rw [split, List.foldl_append, List.foldl_cons, List.foldl_nil, insertRule6, attemptUnless,
    dropSpared, if_neg Bool.false_ne_true] at leads
  have all : fronts.countP (isSpared refused) = fronts.length := by
    refine Nat.le_antisymm List.countP_le_length ?_
    rcases attempt_insert _ (fronts.length + 1) dropAll with
      same | ⟨before, behind, middle, position, inserted⟩
    · rw [same] at leads
      exact absurd (leads ▸ List.mem_append_right _ List.mem_cons_self) absent
    · rw [inserted] at leads
      rw [middle] at absent few
      have unique :=
        (List.append_cons_inj_of_notMem (fun inBefore => absent (List.mem_append_left _ inBefore))
          (fun inBehind => absent (List.mem_append_right _ inBehind))).mp leads
      rw [List.length_append, unique.2.2] at few
      omega
  rw [split]
  intro line member
  rcases List.mem_append.mp member with inFront | isDrop
  · exact List.countP_eq_length.mp all line inFront
  · rw [List.mem_singleton.mp isDrop]
    simp [isSpared, insertRule6, dropSpared]

end Tables

/-- The commands for one variant of `ip6tables` that a host refuses. -/
structure Refuses
    (env : FwEnv)
    (useLegacy : Bool)
    (variant : Variant)
    (refused : XCommand → Bool) : Prop where
  chosen : ∀ world, ((lineVariant env useLegacy .ip6tables).run world).1 = variant
  faults :
    ∀ number command,
      (env.fault number (.xtables .ip6tables variant command)).isSome = refused command

section Host

variable
  {env : FwEnv}
  {world : KsWorld}
  {variant : Variant}
  {refused : XCommand → Bool}
  (refuses : Refuses env world.ks.useLegacy variant refused)

include refuses

theorem Refuses.runScriptLine (command : XCommand) :
    let line := ScriptLine.command .ip6tables command true
    tablesOf ((runScriptLine env line).run world).2 variant .ip6tables =
      attemptUnless refused (tablesOf world variant .ip6tables) line := by
  intro line
  let probed := ((lineVariant env world.ks.useLegacy .ip6tables).run world).2
  have kept : firewallOf probed = firewallOf world :=
    (lineVariant_follows (fun _ => runCommand_observes env rfl) _ world).firewall
  have ended :
      ((KillSwitch.runScriptLine env line).run world).2 =
        ((runCommand env (.xtables .ip6tables variant command)).run probed).2 := by
    rw [KillSwitch.runScriptLine, run_get_bind]
    rw [run_bind, refuses.chosen, run_bind]
    cases ((runCommand env (.xtables .ip6tables variant command)).run probed).1 with
    | exited code stderr =>
      dsimp only
      rw [if_pos (.inr rfl)]
      rfl
    | _ => rfl
  rw [ended]
  change (probed.host.after env _).firewall.table .ip6tables variant = _
  rw [Host.after, attemptUnless, ← refuses.faults probed.host.issued command]
  cases env.fault probed.host.issued (.xtables .ip6tables variant command) with
  | some fault => exact congrArg (fun firewall : Firewall => firewall.table _ _) kept
  | none =>
    change (FwCommand.attempt _ (firewallOf probed)).table .ip6tables variant = _
    rw [FwCommand.attempt_xtables, Firewall.setTable_same, kept]
    rfl

theorem Refuses.runSingleScript
    {lines : List ScriptLine}
    (lines6 : ∀ line ∈ lines, ∃ command, line = .command .ip6tables command true)
    (ok : ((runSingleScript env lines).run world).1 = none) :
    tablesOf ((KillSwitch.runSingleScript env lines).run world).2 variant .ip6tables =
      lines.foldl (attemptUnless refused) (tablesOf world variant .ip6tables) := by
  induction lines generalizing world with
  | nil => rfl
  | cons line rest ih =>
    obtain ⟨command, rfl⟩ := lines6 line List.mem_cons_self
    cases first : ((KillSwitch.runScriptLine env _).run world).1 with
    | some error =>
      rw [runSingleScript_cons_some env first] at ok
      exact absurd ok (by simp)
    | none =>
      rw [runSingleScript_cons_none env first] at ok ⊢
      rw [List.foldl_cons, ← refuses.runScriptLine command]
      rw [← (runScriptLine_keeps env _ world).ks] at refuses
      exact ih refuses
        (fun line member => lines6 line (List.mem_cons_of_mem _ member)) ok

theorem Refuses.runCompleteScript
    {settings : KillSwitchSettings}
    {vpnIps : List IpAddr}
    {lanSubnets : List Cidr4}
    {lanSubnets6 : List Cidr6}
    (ok :
      ((KillSwitch.runSingleScript env
        (buildCompleteScript settings vpnIps lanSubnets lanSubnets6)).run world).1 = none) :
    tablesOf
        ((KillSwitch.runSingleScript env
          (buildCompleteScript settings vpnIps lanSubnets lanSubnets6)).run world).2
        variant .ip6tables =
      (buildIpv6Script settings.ipv6Mode true lanSubnets6).foldl (attemptUnless refused)
        (tablesOf world variant .ip6tables) := by
  let chain := buildChainScript settings vpnIps lanSubnets
  have spared : Keeps (SameView fun state => tablesOf state variant .ip6tables)
      (KillSwitch.runSingleScript env chain) := by
    refine .findSomeM? ?_
    intro line member
    have mandatory := buildChainScript_mandatory settings vpnIps lanSubnets line member
    refine runScriptLine_follows ?_ ?_
    · intro tool attempt state
      rw [SameView, tablesOf, (runCommand_observes env rfl state).firewall]
      rfl
    · rintro tool command ignoreError rfl other state
      cases tool with
      | ip6tables => exact absurd mandatory (by simp [isMandatory])
      | iptables =>
        rcases runCommand_firewall env (.xtables .iptables other command) state with
          ⟨executed, -⟩ | ⟨unchanged, -⟩
        · obtain ⟨table, -, changed⟩ := Option.map_eq_some_iff.mp executed
          rw [SameView, tablesOf, ← changed, Firewall.setTable_other _ (by simp)]
          rfl
        · rw [SameView, tablesOf, unchanged]
          rfl
  rw [buildCompleteScript, KillSwitch.runSingleScript, findSomeM?_append] at ok ⊢
  have sameKs := (runSingleScript_keeps env chain world).ks
  cases first : ((List.findSomeM? (KillSwitch.runScriptLine env) chain).run world).1 with
  | some error =>
    rw [first] at ok
    exact absurd ok (by simp)
  | none =>
    rw [first] at ok
    rw [← sameKs] at refuses
    refine (refuses.runSingleScript (buildIpv6Script_commands _ _) ok).trans ?_
    exact congrArg (List.foldl _ · _) (spared world)

end Host

/-- A success of the iptables branch is one of the script or of nftables. -/
theorem enableIptables_script
    {env : FwEnv}
    {vpnServerIps : List IpAddr}
    {world : KsWorld}
    (ok : ((enableIptables env vpnServerIps).run world).1 = none) :
    (((runSingleScript env (currentScript env world vpnServerIps)).run world).1 = none ∧
        ((enableIptables env vpnServerIps).run world).2 =
          ((runSingleScript env (currentScript env world vpnServerIps)).run world).2) ∨
      ∃ state,
        ((nftIsAvailable env).run state).1 = true ∧
          ((enableIptables env vpnServerIps).run world).2.ks.backend = .nftables := by
  rw [enableIptables, run_get_bind] at ok ⊢
  rw [run_bind] at ok ⊢
  cases result : ((runSingleScript env (currentScript env world vpnServerIps)).run world).1 with
  | none => exact .inl ⟨rfl, rfl⟩
  | some error =>
    rw [result] at ok
    dsimp only at ok ⊢
    split at ok
    next fallback =>
      rw [run_bind] at ok
      split at ok
      next available =>
        rw [if_pos fallback, run_bind, if_pos available]
        refine .inr ⟨_, available, ?_⟩
        rw [run_bind, run_bind, enableNft_backend]
        rfl
      next => exact absurd ok (by simp)
    next => exact absurd ok (by simp)

section Enable

variable (env : FwEnv) (world : KsWorld)

/-- `enable` returns early: another toggle is on, or was just now, or the rules are seen. -/
def Rests : Prop :=
  world.ks.toggleInProgress = true ∨
    world.ks.inCooldown world.host.now = true ∨
    (world.ks.enabled = true ∧
      ((rulesExist env world.ks.backend).run (entered world)).1 = true)

/-- The state in which `enable` begins to install. -/
def lookedUp : KsWorld :=
  if world.ks.enabled then ((rulesExist env world.ks.backend).run (entered world)).2
  else entered world

/-- What `install` does before the rules of a backend. -/
def prepareInstall :
    StateM KsWorld (VpnEndpointScan × Except KillSwitchError FirewallBackend) := do
  let world ← get
  modifyKs fun ks => { ks with lastToggleTime := some world.host.now }
  robustIptablesCleanup env
  let scan ← detectVpnEndpoints env
  let selected ← selectBackend env
  pure (scan, selected)

/-- What it does with the backend that was selected. -/
def installRules (scan : VpnEndpointScan) :
    Except KillSwitchError FirewallBackend → StateM KsWorld (Option KillSwitchError)
  | .error error => pure (some error)
  | .ok backend => do
      modifyKs fun ks => { ks with backend := backend }
      match ← enableBackend env backend scan.ips with
      | some error => pure (some error)
      | none => do
          modifyKs fun ks => { ks with enabled := true }
          pure none

theorem install_eq :
    install env =
      (prepareInstall env >>= fun found => installRules env found.1 found.2) := by
  simp only [install, prepareInstall, bind_assoc, pure_bind]
  rfl

/-- The state in which the rules of a backend are installed. -/
def prepared : KsWorld :=
  ((prepareInstall env).run (lookedUp env world)).2

variable {env world}

theorem lookedUp_looks :
    CommandsOnly (entered world) (lookedUp env world) ∧
      firewallOf (lookedUp env world) = firewallOf world := by
  rw [lookedUp]
  split
  · exact ⟨rulesExist_keeps env _ _, (rulesExist_observes env _ _).firewall⟩
  · exact ⟨Std.Refl.refl _, rfl⟩

theorem enableInner_entered :
    (enableInner env).run (entered world) =
      if world.ks.inCooldown world.host.now then (none, entered world)
      else if world.ks.enabled then
        if ((rulesExist env world.ks.backend).run (entered world)).1 then
          (none, ((rulesExist env world.ks.backend).run (entered world)).2)
        else (install env).run ((rulesExist env world.ks.backend).run (entered world)).2
      else (install env).run (entered world) :=
  enableInner_run env (entered world)

/-- An early return changes neither the rules nor the switch. -/
theorem Rests.enable (rests : Rests env world) :
    firewallOf ((enable env).run world).2 = firewallOf world ∧
      ((enable env).run world).2.ks = world.ks := by
  by_cases busy : world.ks.toggleInProgress = true
  · rw [KillSwitch.enable, guardToggle_run, if_pos busy]
    exact ⟨rfl, rfl⟩
  have idle := Bool.eq_false_iff.mpr busy
  by_cases cooling : world.ks.inCooldown world.host.now = true
  · rw [enable_cooling env idle cooling]
    exact ⟨rfl, rfl⟩
  obtain ⟨enabled, seen⟩ := (rests.resolve_left busy).resolve_left cooling
  rw [KillSwitch.enable, guardToggle_run, if_neg busy, enableInner_entered, if_neg cooling,
    if_pos enabled, if_pos seen]
  refine ⟨(rulesExist_observes env _ (entered world)).firewall, ?_⟩
  have same := congrArg KsWorld.ks (left_entered idle)
  rw [← same]
  exact congrArg (fun ks : KillSwitch => { ks with toggleInProgress := false })
    (rulesExist_keeps env _ (entered world)).ks

/-- Otherwise it installs. -/
theorem enable_installs (acts : ¬Rests env world) :
    (enable env).run world =
      (((install env).run (lookedUp env world)).1,
        left ((install env).run (lookedUp env world)).2) := by
  have idle : ¬world.ks.toggleInProgress = true := fun busy => acts (.inl busy)
  have cooled : ¬world.ks.inCooldown world.host.now = true :=
    fun cooling => acts (.inr (.inl cooling))
  rw [enable, guardToggle_run, if_neg idle, enableInner_entered, if_neg cooled, lookedUp]
  by_cases enabled : world.ks.enabled = true
  · have unseen : ¬((rulesExist env world.ks.backend).run (entered world)).1 = true :=
      fun seen => acts (.inr (.inr ⟨enabled, seen⟩))
    rw [if_pos enabled, if_pos enabled, if_neg unseen]
  · rw [if_neg enabled, if_neg enabled]

/-- Rules of `OUTPUT` are only deleted before the script. -/
def Shrinks (variant : Variant) (before after : KsWorld) : Prop :=
  (tablesOf after variant .ip6tables).output.Sublist (tablesOf before variant .ip6tables).output

instance (variant : Variant) : IsPreorder KsWorld (Shrinks variant) where
  refl _ := List.Sublist.refl _
  trans _ _ _ first second := second.trans first

theorem shrinks_of_firewall
    {variant : Variant}
    {before after : KsWorld}
    (same : firewallOf after = firewallOf before) :
    Shrinks variant before after := by
  rw [Shrinks, tablesOf, tablesOf, same]

theorem runCommand_shrinks
    {command : FwCommand}
    (shrinks :
      ∀ firewall changed, command.exec firewall = some changed →
        ∀ variant, (changed.table .ip6tables variant).output.Sublist
          (firewall.table .ip6tables variant).output)
    (variant : Variant) :
    Keeps (Shrinks variant) (runCommand env command) := by
  intro world
  rcases runCommand_firewall env command world with ⟨executed, -⟩ | ⟨unchanged, -⟩
  · exact shrinks _ _ executed variant
  · exact shrinks_of_firewall unchanged

theorem exec_xtables_shrinks
    {tool : Tool}
    {command : XCommand}
    (shrinks :
      ∀ table changed, command.exec tool table = some changed →
        changed.output.Sublist table.output)
    (firewall changed : Firewall)
    (executed : (FwCommand.xtables tool .default command).exec firewall = some changed)
    (variant : Variant) :
    (changed.table .ip6tables variant).output.Sublist
      (firewall.table .ip6tables variant).output := by
  obtain ⟨table, applied, rfl⟩ := Option.map_eq_some_iff.mp executed
  by_cases same : tool = .ip6tables ∧ variant = .default
  · obtain ⟨rfl, rfl⟩ := same
    rw [Firewall.setTable_same]
    exact shrinks _ _ applied
  · rw [Firewall.setTable_other _ (by grind)]

theorem robustIptablesCleanup_shrinks (variant : Variant) :
    Keeps (Shrinks variant) (robustIptablesCleanup env) := by
  have deletes (tool : Tool) (rule : XRule) :
      Keeps (Shrinks variant) (runCommand env (.xtables tool .default (.delete .output rule))) := by
    refine runCommand_shrinks (exec_xtables_shrinks ?_) variant
    intro table changed executed
    obtain ⟨-, erased⟩ := Option.ite_none_right_eq_some.mp executed
    rw [← Option.some.inj erased]
    exact List.erase_sublist
  have removes (tool : Tool) : Keeps (Shrinks variant) (removeChain env tool) := by
    refine removeChain_follows ?_ ?_
    · refine runCommand_shrinks (exec_xtables_shrinks ?_) variant
      intro table changed executed
      obtain ⟨-, -, rfl⟩ := Option.map_eq_some_iff.mp executed
      exact List.Sublist.refl _
    · refine runCommand_shrinks (exec_xtables_shrinks ?_) variant
      intro table changed executed
      obtain ⟨-, removed⟩ := Option.ite_none_right_eq_some.mp executed
      rw [← Option.some.inj removed]
      exact List.Sublist.refl _
  refine (deleteDuplicates_follows (deletes _ _)).seq ?_
  refine cleanupBehindJumps_follows removes (fun rule _ => deletes _ rule) ?_
  refine runCommand_shrinks ?_ variant
  intro firewall changed executed variant
  obtain ⟨-, deleted⟩ := Option.ite_none_right_eq_some.mp executed
  rw [← Option.some.inj deleted]

theorem prepared_shrinks (variant : Variant) :
    (tablesOf (prepared env world) variant .ip6tables).output.Sublist
      (tablesOf world variant .ip6tables).output := by
  have observes {α : Type} {program : StateM KsWorld α} (looks : Observes program) :
      Keeps (Shrinks variant) program :=
    fun state => shrinks_of_firewall (looks state).firewall
  have prepares : Keeps (Shrinks variant) (prepareInstall env) := by
    refine .get ?_
    intro current
    refine .seq (observes (modifyKs_observes _)) ?_
    refine .seq (robustIptablesCleanup_shrinks variant) ?_
    refine .bind (observes (detectVpnEndpoints_observes env)) ?_
    intro scan
    refine .bind (observes (selectBackend_observes env)) ?_
    intro selected
    exact .pure
  have looked : Shrinks variant world (lookedUp env world) :=
    shrinks_of_firewall lookedUp_looks.2
  exact (prepares (lookedUp env world)).trans looked

theorem prepared_settings :
    (prepared env world).ks.settings = world.ks.settings := by
  have commands {α : Type} {program : StateM KsWorld α} (only : Keeps CommandsOnly program) :
      Keeps (SameView fun state : KsWorld => state.ks.settings) program :=
    fun state => congrArg KillSwitch.settings (only state).ks
  have prepares :
      Keeps (SameView fun state : KsWorld => state.ks.settings) (prepareInstall env) := by
    refine .get ?_
    intro current
    refine .seq (fun _ => rfl) ?_
    refine .seq (commands (robustIptablesCleanup_keeps env)) ?_
    refine .bind (commands (detectVpnEndpoints_keeps env)) ?_
    intro scan
    refine .bind (fun state => (selectBackend_keeps env state).settings) ?_
    intro selected
    exact .pure
  have step :
      SameView (fun state : KsWorld => state.ks.settings) (lookedUp env world)
        (prepared env world) :=
    prepares (lookedUp env world)
  have same : (lookedUp env world).ks.settings = (entered world).ks.settings :=
    congrArg KillSwitch.settings lookedUp_looks.1.ks
  exact step.trans same

variable (env) in
/-- A script that works from a state on leads to the rules of another. -/
def Scripted (state final : KsWorld) : Prop :=
  ∃ vpnServerIps start,
    start.ks.settings = state.ks.settings ∧
      start.host = state.host ∧
      start.ks.useLegacy = final.ks.useLegacy ∧
      ((runSingleScript env (currentScript env start vpnServerIps)).run start).1 = none ∧
      firewallOf final =
        firewallOf ((runSingleScript env (currentScript env start vpnServerIps)).run start).2

/-- A success with iptables is one of the script. -/
theorem enableIptables_scripted
    {vpnServerIps : List IpAddr}
    (ok : ((enableIptables env vpnServerIps).run world).1 = none)
    (iptables : ((enableIptables env vpnServerIps).run world).2.ks.backend = .iptables) :
    Scripted env world ((enableIptables env vpnServerIps).run world).2 := by
  rcases enableIptables_script ok with ⟨worked, same⟩ | ⟨-, -, nftables⟩
  · have sameKs := (runSingleScript_keeps env (currentScript env world vpnServerIps) world).ks
    rw [same]
    exact ⟨vpnServerIps, world, rfl, rfl, congrArg KillSwitch.useLegacy sameKs.symm, worked, rfl⟩
  · exact absurd (nftables.symm.trans iptables) nofun

theorem installRules_scripted
    {scan : VpnEndpointScan}
    {selected : Except KillSwitchError FirewallBackend}
    {state : KsWorld}
    (ok : ((installRules env scan selected).run state).1 = none)
    (iptables : ((installRules env scan selected).run state).2.ks.backend = .iptables) :
    Scripted env state ((installRules env scan selected).run state).2 := by
  cases selected with
  | error error => exact absurd ok nofun
  | ok backend =>
    rw [installRules, run_bind, run_bind] at ok iptables ⊢
    generalize start : ((modifyKs fun ks => { ks with backend := backend }).run state).2 = chosen
      at ok iptables ⊢
    cases result : ((enableBackend env backend scan.ips).run chosen).1 with
    | some error =>
      rw [result] at ok
      exact absurd ok nofun
    | none =>
      rw [result] at iptables
      cases backend with
      | nftables =>
        have kept := (enableNft_backend env scan.ips chosen).symm.trans iptables
        rw [← start] at kept
        exact absurd kept nofun
      | iptables =>
        have ran := enableIptables_scripted result iptables
        rw [← start] at ran ⊢
        exact ran

/-- The script of a successful `enable` leads to the rules that it leaves. -/
theorem enable_scripted
    (acts : ¬Rests env world)
    (ok : ((enable env).run world).1 = none)
    (iptables : ((enable env).run world).2.ks.backend = .iptables) :
    Scripted env (prepared env world) ((enable env).run world).2 := by
  rw [enable_installs acts, install_eq, run_bind] at ok iptables ⊢
  have ran := @installRules_scripted env ((prepareInstall env).run (lookedUp env world)).1.1
    ((prepareInstall env).run (lookedUp env world)).1.2 (prepared env world)
  rw [prepared] at ran ⊢
  generalize (installRules env _ _).run _ = ended at ok iptables ran ⊢
  exact ran ok iptables

end Enable

/--
After an `enable` that reports success with the iptables backend, the DROP rule
of the IPv6 part stands before the rules that the cleanup has left of `OUTPUT`,
if `enable` did not return early and no rule of the part was refused; and only
then, unless one of the prior rules was such a DROP rule.
-/
theorem ipv6_drop_leads_iff
    {env : FwEnv}
    {world : KsWorld}
    (active : world.ks.settings.ipv6Mode ≠ .off)
    (ok : ((enable env).run world).1 = none)
    (iptables : ((enable env).run world).2.ks.backend = .iptables)
    {variant : Variant}
    {refused : XCommand → Bool}
    (refuses : Refuses env ((enable env).run world).2.ks.useLegacy variant refused)
    (dropSpared : ∀ position, refused (.insert .output position dropAll) = false) :
    let prior := (tablesOf world variant .ip6tables).output
    let remaining := (tablesOf (prepared env world) variant .ip6tables).output
    let leads :=
      DropLeads remaining (tablesOf ((enable env).run world).2 variant .ip6tables).output
    let script :=
      buildIpv6Script world.ks.settings.ipv6Mode true
        (env.lanSubnets6 (prepared env world).host.issued)
    let complete := ¬Rests env world ∧ ∀ line ∈ script, isSpared refused line = true
    remaining.Sublist prior ∧ (complete → leads) ∧ (dropAll ∉ prior → (leads ↔ complete)) := by
  intro prior remaining leads script complete
  have table :
      ¬Rests env world →
        tablesOf ((enable env).run world).2 variant .ip6tables =
          script.foldl (attemptUnless refused)
            (tablesOf (prepared env world) variant .ip6tables) := by
    intro acts
    obtain ⟨vpnServerIps, start, settings, host, useLegacy, worked, firewall⟩ :=
      enable_scripted acts ok iptables
    rw [← useLegacy] at refuses
    rw [tablesOf, firewall]
    have same : tablesOf start variant = tablesOf (prepared env world) variant := by
      funext tool
      rw [tablesOf, tablesOf, firewallOf, firewallOf, host]
    refine (refuses.runCompleteScript worked).trans ?_
    rw [settings, prepared_settings, same, host]
  have enough : complete → leads := by
    rintro ⟨acts, spared⟩
    change DropLeads remaining (tablesOf _ variant .ip6tables).output
    rw [table acts]
    exact dropLeads_of_spared active spared
  refine ⟨prepared_shrinks variant, enough, fun noDrop => ⟨fun leading => ?_, enough⟩⟩
  have acts : ¬Rests env world := by
    intro rests
    obtain ⟨front, rules⟩ := leading
    rw [tablesOf, rests.enable.1] at rules
    refine noDrop ?_
    change dropAll ∈ ((firewallOf world).table .ip6tables variant).output
    rw [rules]
    exact List.mem_append_right _ List.mem_cons_self
  have absent : dropAll ∉ (tablesOf (prepared env world) variant .ip6tables).output :=
    fun member => noDrop ((prepared_shrinks variant).subset member)
  refine ⟨acts, spared_of_dropLeads active dropSpared absent ?_⟩
  rw [← table acts]
  exact leading

/-- A host without nftables that lets nobody delete IPv6 rules. -/
def keepingEnv : FwEnv :=
  { calmEnv with
    fault := fun _ command =>
      match command with
      | .nftVersion _ => some (.exit ⟨1, one_isFailure⟩)
      | .xtables .ip6tables _ (.delete _ _) => some (.exit ⟨1, one_isFailure⟩)
      | _ => none }

/-- An earlier session has left its rule for the loopback interface. -/
def leftoverWorld : KsWorld :=
  { freshWorld with
    host := { freshWorld.host with
      firewall := freshWorld.host.firewall.setTable .ip6tables .default
        { Table.empty with output := [.rule [.out lo] .accept] } } }

def isDelete : XCommand → Bool
  | .delete _ _ => true
  | _ => false

theorem ipv6_drop_leads_leftover :
    DropLeads [.rule [.out lo] .accept]
      (tablesOf ((enable keepingEnv).run leftoverWorld).2 .default .ip6tables).output := by
  have refuses :
      Refuses keepingEnv ((enable keepingEnv).run leftoverWorld).2.ks.useLegacy .default
        isDelete := by
    have notLegacy : ((enable keepingEnv).run leftoverWorld).2.ks.useLegacy = false := by
      decide +kernel
    rw [notLegacy]
    exact ⟨fun _ => rfl, fun _ command => by cases command <;> rfl⟩
  have spec :=
    @ipv6_drop_leads_iff keepingEnv leftoverWorld nofun (by decide +kernel) (by decide +kernel)
      .default isDelete refuses (fun _ => rfl)
  have remaining :
      (tablesOf (prepared keepingEnv leftoverWorld) .default .ip6tables).output =
        [.rule [.out lo] .accept] := by
    decide +kernel
  rw [← remaining]
  refine spec.2.1 ⟨?_, by decide⟩
  rintro (busy | cooling | ⟨enabled, -⟩) <;> contradiction

/-- Without nftables, and with the rule for the loopback interface refused. -/
def gapEnv : FwEnv :=
  { calmEnv with
    fault := fun _ command =>
      match command with
      | .nftVersion _ => some (.exit ⟨1, one_isFailure⟩)
      | .xtables .ip6tables _ (.insert .output _ rule) =>
        if rule = .rule [.out lo] .accept then some (.exit ⟨1, one_isFailure⟩) else none
      | _ => none }

/-- The DROP rule is meant for the second position of a list that is empty. -/
theorem refused_loopback_leaves_no_drop :
    ((enable gapEnv).run freshWorld).1 = none ∧
      ((enable gapEnv).run freshWorld).2.ks.backend = .iptables ∧
      (tablesOf ((enable gapEnv).run freshWorld).2 .default .ip6tables).output = [] := by
  decide +kernel

end Shroud.KillSwitch
