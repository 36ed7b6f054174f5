import Shroud.DisableComplete
import Shroud.Ipv6Block

namespace Shroud

open Netfilter IptablesScript KillSwitchRules StateProgram BoundedErase

/-!
# Rules of other owners

`enable` and `disable` on a host on which every command works.  The cleanup
deletes IPv6 rules by pattern, so it also takes rules of other owners that look
like its own; and it has no pattern for the rules of detected networks other
than link-local.  Apart from that the prior rules are there again after
`disable`, in their order.
-/

namespace Netfilter.Firewall

def withDefault (firewall : Firewall) (tables : Tables) : Firewall :=
  { firewall with
    table := fun tool variant =>
      match variant with
      | .default => tables tool
      | .legacy => firewall.table tool .legacy }

def defaults (firewall : Firewall) : Tables :=
  fun tool => firewall.table tool .default

variable (firewall : Firewall)

theorem defaults_apply (tool : Tool) :
    firewall.defaults tool = firewall.table tool .default :=
  rfl

@[simp] theorem withDefault_defaults (firewall : Firewall) :
    firewall.withDefault firewall.defaults = firewall := by
  cases firewall with
  | mk table nft =>
    rw [withDefault, mk.injEq]
    refine ⟨?_, rfl⟩
    funext tool variant
    cases variant <;> rfl

@[simp] theorem withDefault_withDefault (first second : Tables) :
    (firewall.withDefault first).withDefault second = firewall.withDefault second :=
  rfl

theorem setTable_default
    (tool : Tool)
    (table : Table) :
    firewall.setTable tool .default table =
      firewall.withDefault (Function.update firewall.defaults tool table) := by
  rw [setTable, withDefault, mk.injEq]
  refine ⟨?_, rfl⟩
  funext other variant
  by_cases same : other = tool
  · subst same
    cases variant with
    | default => simp
    | legacy => simp
  · cases variant with
    | default => simp [same, defaults]
    | legacy => simp [same]

end Netfilter.Firewall

namespace KillSwitch

variable
  {world : KsWorld}
  {lanSubnets6 : List Cidr6}
  {env : FwEnv}
  {nftInstalled : Bool}
  {addresses : Option (List InterfaceAddress6)}

section Script

variable {env : FwEnv} {nftInstalled : Bool}

section

variable (working : Working env nftInstalled) (usual : world.ks.useLegacy = false) {tables : Tables}

include working usual

theorem runScriptLine_installs
    {line : ScriptLine}
    (installs : installLine (firewallOf world).defaults line = some tables) :
    ((runScriptLine env line).run world).1 = none ∧
      firewallOf ((runScriptLine env line).run world).2 =
        (firewallOf world).withDefault tables := by
  cases line with
  | comment text =>
    refine ⟨rfl, ?_⟩
    rw [← Option.some.inj installs, Firewall.withDefault_defaults]
    rfl
  | command tool command ignoreError =>
    have usually : (lineVariant env false tool).run world = (.default, world) := by
      rw [lineVariant, if_neg Bool.false_ne_true]
      rfl
    rw [runScriptLine, run_get_bind]
    rw [usual, run_bind, usually]
    dsimp only
    rw [run_bind]
    rcases working.runCommand (.xtables tool .default command) rfl world
      with ⟨executed, stderr, outcome⟩ | ⟨refused, unchanged, code, stderr, -, outcome⟩
    · obtain ⟨table, ran, changed⟩ := Option.map_eq_some_iff.mp executed
      have executes : command.exec tool ((firewallOf world).defaults tool) = some table :=
        ran
      rw [installLine, executes] at installs
      rw [outcome]
      refine ⟨rfl, ?_⟩
      rw [← Option.some.inj installs, ← Firewall.setTable_default]
      exact changed.symm
    · have refuses :
          command.exec tool ((firewallOf world).defaults tool) = none :=
        Option.map_eq_none_iff.mp refused
      rw [installLine, refuses] at installs
      cases ignoreError with
      | false => exact (Option.some_ne_none _ installs.symm).elim
      | true =>
        rw [outcome]
        dsimp only
        rw [if_pos (.inr rfl)]
        refine ⟨rfl, ?_⟩
        rw [← Option.some.inj installs, Firewall.withDefault_defaults]
        exact unchanged

theorem runSingleScript_installs
    {lines : List ScriptLine}
    (installs : IptablesScript.install lines (firewallOf world).defaults = some tables) :
    ((runSingleScript env lines).run world).1 = none ∧
      firewallOf ((runSingleScript env lines).run world).2 =
        (firewallOf world).withDefault tables := by
  induction lines generalizing world with
  | nil =>
    refine ⟨rfl, ?_⟩
    rw [← Option.some.inj installs, Firewall.withDefault_defaults]
    rfl
  | cons line rest ih =>
    rw [IptablesScript.install] at installs
    obtain ⟨middle, first, later⟩ := Option.bind_eq_some_iff.mp installs
    obtain ⟨ok, changed⟩ := runScriptLine_installs working usual first
    have sameKs := (runScriptLine_keeps env line world).ks
    have defaults : (firewallOf ((runScriptLine env line).run world).2).defaults = middle := by
      rw [changed]
      rfl
    rw [← sameKs] at usual
    rw [← defaults] at later
    obtain ⟨restOk, restChanged⟩ := ih usual later
    rw [runSingleScript_cons_none env ok]
    refine ⟨restOk, ?_⟩
    rw [restChanged, changed, Firewall.withDefault_withDefault]

end

end Script

/-- A point between the commands of an `enable`. -/
structure Stage
    (firewall : Firewall)
    (settings : KillSwitchSettings)
    (world : KsWorld) : Prop where
  firewall : firewallOf world = firewall
  free : ¬Stuck world
  settings : world.ks.settings = settings
  usual : world.ks.useLegacy = false

/-- Every command works, and listings print no warning that reads as an
error. -/
structure AllSucceed (env : FwEnv) (nftInstalled : Bool) : Prop extends
    Working env nftInstalled where
  listings : ∀ number, sudoError? (.exited 0 (env.stderr number)) = none

section Enabling

variable
  {env : FwEnv}
  {nftInstalled : Bool}
  {firewall prior : Firewall}
  {settings : KillSwitchSettings}

theorem Working.staysFree
    (working : Working env nftInstalled)
    (command : FwCommand) :
    Keeps StaysFree (KillSwitch.runCommand env command) := by
  apply runCommand_staysFree
  intro removes number
  refine working.commands number command ?_
  cases command with
  | nftVersion attempt => exact Bool.noConfusion removes
  | _ => rfl

theorem robustIptablesCleanup_exact
    (working : Working env nftInstalled)
    (free : ¬Stuck world) :
    firewallOf ((robustIptablesCleanup env).run world).2 = robustlyCleaned (firewallOf world) :=
  (robustIptablesCleanup_performs env world).firewall.resolve_right
    (robustIptablesCleanup_staysFree working.staysFree world free)

theorem Stage.observed
    {α : Type}
    {program : StateM KsWorld α}
    (observes : Observes program)
    (free : Keeps StaysFree program)
    (kept :
      Keeps
        (SameView fun world : KsWorld =>
          (world.ks.settings, world.ks.useLegacy))
        program) :
    Ensures (Stage firewall settings) program (fun _ => Stage firewall settings) := by
  intro world stage
  have fields := kept world
  refine ⟨(observes world).firewall.trans stage.firewall, free world stage.free, ?_, ?_⟩
  · exact (congrArg Prod.fst fields).trans stage.settings
  · exact (congrArg Prod.snd fields).trans stage.usual

theorem robustIptablesCleanup_stage (working : Working env nftInstalled) :
    Ensures (Stage firewall settings) (robustIptablesCleanup env)
      (fun _ => Stage (robustlyCleaned firewall) settings) := by
  intro world stage
  have sameKs := (robustIptablesCleanup_keeps env world).ks
  constructor
  · rw [robustIptablesCleanup_exact working stage.free, stage.firewall]
  · exact robustIptablesCleanup_staysFree working.staysFree world stage.free
  · rw [sameKs]
    exact stage.settings
  · rw [sameKs]
    exact stage.usual

theorem checkSudoAccess_passes
    (working : AllSucceed env nftInstalled)
    (world : KsWorld) :
    ((checkSudoAccess env).run world).1 = none := by
  have asked :
      ((checkSudoAccess env).run world).1 =
        sudoError? (world.host.outcomeOf env (.listAll .default)) :=
    rfl
  rw [asked, Host.outcomeOf, working.commands _ _ rfl]
  exact working.listings world.host.issued

theorem selectBackend_stage (working : AllSucceed env nftInstalled) :
    Ensures (Stage firewall settings) (selectBackend env)
      (fun selected world =>
        selected = .ok (backendFor nftInstalled) ∧ Stage firewall settings world) := by
  have commands := working.toWorking.staysFree
  have probed :
      Ensures (Stage firewall settings) (nftIsAvailable env)
        (fun found world =>
          found = nftInstalled ∧ Stage firewall settings world) := by
    intro world stage
    refine ⟨working.nftIsAvailable world, ?_⟩
    refine Stage.observed (nftIsAvailable_observes env)
      (nftIsAvailable_follows fun _ => commands _) ?_ world stage
    intro state
    rw [SameView, (nftIsAvailable_keeps env state).ks]
  have listed :
      Ensures (Stage firewall settings) (checkSudoAccess env)
        (fun access world =>
          access = none ∧ Stage firewall settings world) := by
    intro world stage
    refine ⟨checkSudoAccess_passes working world, ?_⟩
    exact Stage.observed (checkSudoAccess_observes env)
      (checkSudoAccess_follows (commands _)) (fun _ => rfl) world stage
  refine probed.bind ?_
  intro found
  refine .of_pure_pre ?_
  rintro rfl
  cases found with
  | true => exact .pure (fun _ stage => ⟨rfl, stage⟩)
  | false =>
    refine listed.bind ?_
    intro access
    refine .of_pure_pre ?_
    rintro rfl
    exact .pure fun _ stage => ⟨rfl, stage⟩

/-- The firewall with the rules of a backend over the cleaned one. -/
def EnabledOver
    (nftInstalled : Bool)
    (settings : KillSwitchSettings)
    (lanSubnets6 : List Cidr6)
    (prior firewall : Firewall) : Prop :=
  if nftInstalled then
    firewall.table = (robustlyCleaned prior).table ∧
      ∃ vpnIps lanSubnets,
        firewall.nft = some (NftRuleset.buildNftRuleset settings vpnIps lanSubnets)
  else
    ∃ vpnIps lanSubnets,
      firewall =
        (robustlyCleaned prior).withDefault
          (installed settings vpnIps lanSubnets lanSubnets6 (robustlyCleaned prior).defaults)

/-- A switch that was enabled on a working host. -/
structure EnabledHere
    (nftInstalled : Bool)
    (settings : KillSwitchSettings)
    (lanSubnets6 : List Cidr6)
    (prior : Firewall)
    (world : KsWorld) : Prop where
  above : EnabledOver nftInstalled settings lanSubnets6 prior (firewallOf world)
  free : ¬Stuck world
  backend : world.ks.backend = backendFor nftInstalled

theorem EnabledHere.left
    (here : EnabledHere nftInstalled settings lanSubnets6 prior world) :
    EnabledHere nftInstalled settings lanSubnets6 prior (left world) :=
  ⟨here.above, here.free, here.backend⟩

theorem enableNft_here
    (working : Working env true)
    (lanSubnets6 : List Cidr6)
    (vpnServerIps : List IpAddr) :
    Ensures
      (fun world =>
        Stage (robustlyCleaned prior) settings world ∧ world.ks.backend = .nftables)
      (enableNft env vpnServerIps)
      (fun result world =>
        result = none ∧ EnabledHere true settings lanSubnets6 prior world) := by
  rintro world ⟨stage, nftables⟩
  have ok := working.enableNft_ok vpnServerIps world
  have free : Keeps StaysFree (enableNft env vpnServerIps) :=
    enableNft_follows (working.staysFree _) (fun _ => working.staysFree _)
      (fun _ unstuck => unstuck) vpnServerIps
  refine ⟨ok, ⟨?_, vpnServerIps, ?_⟩, free world stage.free, ?_⟩
  · rw [(enableNft_keepsTables env vpnServerIps world).same, stage.firewall]
  · exact working.enableNft vpnServerIps settings world stage.settings
  · rw [enableNft_backend]
    exact nftables

theorem enableIptables_here
    (working : Working env false)
    (noKillSwitch : NoKillSwitch prior)
    (notLocalhost : settings.dnsMode ≠ .localhost)
    (detected : ∀ number, env.lanSubnets6 number = lanSubnets6)
    (vpnServerIps : List IpAddr) :
    Ensures
      (fun world =>
        Stage (robustlyCleaned prior) settings world ∧ world.ks.backend = .iptables)
      (enableIptables env vpnServerIps)
      (fun result world =>
        result = none ∧ EnabledHere false settings lanSubnets6 prior world) := by
  rintro world ⟨stage, iptables⟩
  have noChain : ((firewallOf world).defaults .iptables).user .killSwitch = none := by
    have restored : Restored prior prior :=
      ⟨fun _ => rfl, fun tool => noKillSwitch.chains tool .default, fun _ _ => Nat.le_refl _⟩
    rw [stage.firewall, Firewall.defaults_apply]
    exact (restored.removable.cleaned noKillSwitch).chains .iptables
  have installs :
      IptablesScript.install (currentScript env world vpnServerIps)
          (firewallOf world).defaults =
        some (installed settings vpnServerIps
          (env.lanSubnets world.host.issued) lanSubnets6
          (firewallOf world).defaults) := by
    rw [currentScript, stage.settings, detected]
    exact install_buildCompleteScript notLocalhost _ _ _ noChain
  obtain ⟨ok, changed⟩ := runSingleScript_installs working stage.usual installs
  have kept := runSingleScript_keeps env (currentScript env world vpnServerIps) world
  have free : Keeps StaysFree (runSingleScript env (currentScript env world vpnServerIps)) :=
    Keeps.findSomeM? fun line _ =>
      runScriptLine_follows (fun _ _ => working.staysFree _) (fun _ _ _ _ _ => working.staysFree _)
  have opened :
      (enableIptables env vpnServerIps).run world =
        (none, ((runSingleScript env (currentScript env world vpnServerIps)).run world).2) := by
    rw [enableIptables, run_get_bind]
    rw [run_bind, ok]
    rfl
  rw [opened]
  refine ⟨rfl, ⟨vpnServerIps, env.lanSubnets world.host.issued, ?_⟩, free world stage.free, ?_⟩
  · rw [changed, stage.firewall]
  · rw [kept.ks]
    exact iptables

/-- The hosts and settings on which every command of the script succeeds. -/
def ScriptWorks (nftInstalled : Bool) (settings : KillSwitchSettings) :
    Prop :=
  nftInstalled = true ∨ settings.dnsMode ≠ .localhost

theorem enableBackend_here
    (working : Working env nftInstalled)
    (noKillSwitch : NoKillSwitch prior)
    (works : ScriptWorks nftInstalled settings)
    (detected : ∀ number, env.lanSubnets6 number = lanSubnets6)
    (vpnServerIps : List IpAddr) :
    Ensures
      (fun world =>
        Stage (robustlyCleaned prior) settings world ∧ world.ks.backend = backendFor nftInstalled)
      (enableBackend env (backendFor nftInstalled) vpnServerIps)
      (fun result world =>
        result = none ∧ EnabledHere nftInstalled settings lanSubnets6 prior world) := by
  cases nftInstalled with
  | true => exact enableNft_here working lanSubnets6 vpnServerIps
  | false =>
    have notLocalhost := works.resolve_left Bool.false_ne_true
    exact enableIptables_here working noKillSwitch notLocalhost detected vpnServerIps

theorem install_here
    (working : AllSucceed env nftInstalled)
    (noKillSwitch : NoKillSwitch prior)
    (works : ScriptWorks nftInstalled settings)
    (detected : ∀ number, env.lanSubnets6 number = lanSubnets6) :
    Ensures (Stage prior settings) (install env)
      (fun result world =>
        result = none ∧ EnabledHere nftInstalled settings lanSubnets6 prior world) := by
  refine .get_any ?_
  intro current
  refine .change (Stage prior settings)
    (fun _ stage => ⟨stage.firewall, stage.free, stage.settings, stage.usual⟩) ?_
  refine .seq (robustIptablesCleanup_stage working.toWorking) ?_
  refine .bind
    (Stage.observed (detectVpnEndpoints_observes env) (fun _ unstuck => unstuck) (fun _ => rfl)) ?_
  intro scan
  refine (selectBackend_stage working).bind ?_
  intro selected
  refine .of_pure_pre ?_
  rintro rfl
  refine .change
    (fun world =>
      Stage (robustlyCleaned prior) settings world ∧ world.ks.backend = backendFor nftInstalled)
    (fun _ stage => ⟨⟨stage.firewall, stage.free, stage.settings, stage.usual⟩, rfl⟩) ?_
  refine .bind (enableBackend_here working.toWorking noKillSwitch works detected scan.ips) ?_
  intro result
  refine .of_pure_pre ?_
  rintro rfl
  exact fun _ here => ⟨rfl, here.above, here.free, here.backend⟩

theorem enable_here
    (working : AllSucceed env nftInstalled)
    (noKillSwitch : NoKillSwitch (firewallOf world))
    (free : ¬Stuck world)
    (works : ScriptWorks nftInstalled world.ks.settings)
    (detected : ∀ number, env.lanSubnets6 number = lanSubnets6)
    (idle : world.ks.toggleInProgress = false)
    (cooledDown : world.ks.inCooldown world.host.now = false)
    (disabled : world.ks.enabled = false)
    (usual : world.ks.useLegacy = false) :
    ((enable env).run world).1 = none ∧
      EnabledHere nftInstalled world.ks.settings lanSubnets6
        (firewallOf world) ((enable env).run world).2 := by
  have acts : ¬Rests env world := by
    rw [Rests, idle, cooledDown, disabled]
    simp
  have start : Stage (firewallOf world) world.ks.settings (entered world) :=
    ⟨rfl, free, rfl, usual⟩
  have installed := install_here working noKillSwitch works detected _ start
  rw [enable_installs acts, lookedUp, disabled, if_neg Bool.false_ne_true]
  exact ⟨installed.1, installed.2.left⟩

end Enabling

/-- The firewall after `disable`, from that after `enable`. -/
def disabledFirewall (nftInstalled : Bool) (firewall : Firewall) :
    Firewall :=
  if nftInstalled then { firewall with nft := none }
  else robustlyCleaned firewall

theorem firewallOf_left (world : KsWorld) :
    firewallOf (left world) = firewallOf world :=
  rfl

theorem removeRules_here
    (working : Working env nftInstalled)
    (free : ¬Stuck world)
    (backend : world.ks.backend = backendFor nftInstalled) :
    firewallOf ((removeRules env).run world).2 =
      disabledFirewall nftInstalled (firewallOf world) := by
  rw [removeRules, run_get_bind]
  cases nftInstalled with
  | false =>
    have iptables : world.ks.backend = .iptables := backend
    rw [iptables]
    dsimp only
    rw [run_bind, disabledFirewall, if_neg Bool.false_ne_true,
      ← robustIptablesCleanup_exact working free]
    generalize ((robustIptablesCleanup env).run world).2 = cleaned
    rfl
  | true =>
    have deleted :
        firewallOf ((disableNft env).run world).2 = { firewallOf world with nft := none } := by
      have effected := @runCommand_performs env .nftDelete rfl world
      rw [← FwCommand.attempt_nftDelete]
      exact effected.firewall.resolve_right (working.staysFree _ world free)
    have nftables : world.ks.backend = .nftables := backend
    rw [nftables]
    dsimp only
    rw [run_bind, disabledFirewall, if_pos rfl, ← deleted]
    generalize (disableNft env).run world = removal
    cases removal.1 with
    | some error => rfl
    | none => rfl

section

variable
  (working : AllSucceed env nftInstalled)
  (free : ¬Stuck world)
  (backend : world.ks.backend = backendFor nftInstalled)

include working free backend

theorem uninstall_here :
    firewallOf ((uninstall env).run world).2 =
      disabledFirewall nftInstalled (firewallOf world) := by
  have stampedBackend : (stamped world).ks.backend = backendFor nftInstalled :=
    backend
  cases nftInstalled with
  | true =>
    rw [uninstall_nftables backend]
    exact removeRules_here working.toWorking free stampedBackend
  | false =>
    have listed := checkSudoAccess_observes env (stamped world)
    have listedFree : ¬Stuck ((checkSudoAccess env).run (stamped world)).2 :=
      checkSudoAccess_follows (working.toWorking.staysFree _) (stamped world) free
    have sameKs := (checkSudoAccess_keeps env (stamped world)).ks
    rw [uninstall_iptables backend (checkSudoAccess_passes working _)]
    refine (removeRules_here working.toWorking listedFree ?_).trans ?_
    · rw [sameKs]
      exact stampedBackend
    · rw [listed.firewall]
      rfl

theorem disable_here
    (idle : world.ks.toggleInProgress = false)
    (cooledDown : world.ks.inCooldown world.host.now = false) :
    firewallOf ((disable env).run world).2 = disabledFirewall nftInstalled (firewallOf world) := by
  rw [disable_uninstalls env idle cooledDown, firewallOf_left]
  exact uninstall_here working free backend

end

/-- The rules that a backend puts in front of `OUTPUT` of a default tool. -/
def frontRules
    (nftInstalled : Bool)
    (ipv6Mode : Ipv6Mode)
    (lanSubnets6 : List Cidr6) :
    Tool → List XRule
  | .iptables => if nftInstalled then [] else [jumpRule]
  | .ip6tables =>
    if nftInstalled then [] else ipv6FrontRules ipv6Mode lanSubnets6

section Outputs

variable
  {nftInstalled : Bool}
  {settings : KillSwitchSettings}
  {lanSubnets6 : List Cidr6}
  {prior firewall : Firewall}

theorem robustlyCleaned_output
    (firewall : Firewall)
    (tool : Tool) :
    ((robustlyCleaned firewall).table tool .default).output =
      eraseEach 100 (removedPatterns tool) (firewall.table tool .default).output := by
  rw [robustlyCleaned_default, Table.scrub_output]

theorem EnabledOver.output
    (above : EnabledOver nftInstalled settings lanSubnets6 prior firewall)
    (tool : Tool) :
    (firewall.table tool .default).output =
      frontRules nftInstalled settings.ipv6Mode lanSubnets6 tool ++
        eraseEach 100 (removedPatterns tool) (prior.table tool .default).output := by
  rw [← robustlyCleaned_output]
  cases nftInstalled with
  | true =>
    rw [above.1]
    cases tool <;> rfl
  | false =>
    obtain ⟨vpnIps, lanSubnets, rfl⟩ := above
    generalize robustlyCleaned prior = cleaned
    cases tool <;> rfl

theorem EnabledOver.legacy
    (above : EnabledOver nftInstalled settings lanSubnets6 prior firewall)
    (tool : Tool) :
    firewall.table tool .legacy = prior.table tool .legacy := by
  rw [← robustlyCleaned_legacy prior]
  cases nftInstalled with
  | true => rw [above.1]
  | false =>
    obtain ⟨vpnIps, lanSubnets, rfl⟩ := above
    generalize robustlyCleaned prior = cleaned
    rfl

section

variable (nftInstalled : Bool) (firewall : Firewall)

theorem disabledFirewall_output (tool : Tool) :
    ((disabledFirewall nftInstalled firewall).table tool .default).output =
      if nftInstalled then (firewall.table tool .default).output
      else
        eraseEach 100 (removedPatterns tool) (firewall.table tool .default).output := by
  cases nftInstalled with
  | true => rfl
  | false =>
    rw [disabledFirewall, if_neg Bool.false_ne_true,
      robustlyCleaned_output, if_neg Bool.false_ne_true]

theorem disabledFirewall_legacy (tool : Tool) :
    (disabledFirewall nftInstalled firewall).table tool .legacy = firewall.table tool .legacy := by
  cases nftInstalled with
  | true => rfl
  | false => exact robustlyCleaned_legacy firewall tool

theorem disabledFirewall_nft :
    (disabledFirewall nftInstalled firewall).nft = none := by
  cases nftInstalled <;> rfl

end

theorem count_frontRules
    (distinct : lanSubnets6.Nodup)
    (ipv6Mode : Ipv6Mode)
    (tool : Tool)
    (rule : XRule) :
    (frontRules nftInstalled ipv6Mode lanSubnets6 tool).count rule ≤ 100 := by
  have short
      {rules : List XRule}
      (few : rules.length ≤ 100) :
      rules.count rule ≤ 100 :=
    List.count_le_length.trans few
  cases nftInstalled with
  | true => cases tool <;> exact short (Nat.zero_le _)
  | false =>
    cases tool with
    | iptables => exact short (show 1 ≤ 100 by decide)
    | ip6tables =>
      cases ipv6Mode with
      | block => exact short (show 2 ≤ 100 by decide)
      | off => exact short (Nat.zero_le _)
      | tunnel =>
        have injective :
            Function.Injective
              (fun net : Cidr6 =>
                XRule.rule [.dst (.v6 net)] .accept) := by
          intro first second same
          simpa using same
        have once :=
          List.nodup_iff_count_le_one.mp ((distinct.filter isValidPrivateCidrV6).map injective) rule
        have before :
            ([ .rule [.out lo] .accept, .rule [.ctTracked] .accept,
              .rule [.out tun] .accept ] : List XRule).count rule ≤
              3 :=
          List.count_le_length
        have last : ([.rule [] .drop] : List XRule).count rule ≤ 1 :=
          List.count_le_length
        change (ipv6FrontRules .tunnel lanSubnets6).count rule ≤ 100
        rw [ipv6FrontRules, List.count_append, List.count_append]
        omega

theorem frontRules_listed_iff (ipv6Mode : Ipv6Mode) :
    (∀ rule ∈
        frontRules nftInstalled ipv6Mode (detectLocalSubnetsV6 addresses) .ip6tables,
        rule ∈ removedPatterns .ip6tables) ↔
      (nftInstalled = false → ipv6Mode = .tunnel →
        detectLocalSubnetsV6 addresses = [linkLocal6]) := by
  cases nftInstalled with
  | true =>
    refine ⟨fun _ => nofun, ?_⟩
    intro _ rule member
    exact absurd member List.not_mem_nil
  | false =>
    cases ipv6Mode with
    | block =>
      refine ⟨fun _ _ => nofun, fun _ => ?_⟩
      change ∀ rule ∈ ([_, _] : List XRule), _
      decide
    | off =>
      refine ⟨fun _ _ => nofun, ?_⟩
      intro _ rule member
      exact absurd member List.not_mem_nil
    | tunnel =>
      constructor
      · intro listed _ _
        have onlyLinkLocal : ∀ net ∈ detectLocalSubnetsV6 addresses, net = linkLocal6 := by
          intro net detected
          have inFront :
              XRule.rule [.dst (.v6 net)] .accept ∈
                frontRules false .tunnel (detectLocalSubnetsV6 addresses) .ip6tables := by
            change _ ∈ ipv6FrontRules .tunnel _
            rw [ipv6FrontRules]
            refine List.mem_append_left _ (List.mem_append_right _ ?_)
            exact List.mem_map.mpr
              ⟨net, List.mem_filter.mpr ⟨detected, detectLocalSubnetsV6_valid detected⟩, rfl⟩
          have pattern := listed _ inFront
          simpa [removedPatterns, ipv6OutputRules, jumpRule] using pattern
        have copies := List.eq_replicate_iff.mpr ⟨rfl, onlyLinkLocal⟩
        have distinct := detectLocalSubnetsV6_nodup addresses
        rw [copies] at distinct
        have atMostOne := List.nodup_replicate.mp distinct
        have atLeastOne := List.length_pos_of_mem (linkLocal6_detected addresses)
        have one : (detectLocalSubnetsV6 addresses).length = 1 := by omega
        rw [copies, one]
        rfl
      · intro onlyLinkLocal
        rw [onlyLinkLocal rfl rfl]
        change ∀ rule ∈ ipv6FrontRules .tunnel [linkLocal6], _
        decide

theorem NoKillSwitch.jumpRule_notMem
    (noKillSwitch : NoKillSwitch prior)
    (tool : Tool) :
    jumpRule ∉ (prior.table tool .default).output := by
  intro member
  exact absurd (noKillSwitch.jumps tool .default jumpRule member) nofun

end Outputs

/-- The prior rules outlive an `enable`, and a `disable` brings them back. -/
structure Survives (prior enabled disabled : Firewall) : Prop where
  kept :
    ∀ tool variant, (prior.table tool variant).output.Sublist (enabled.table tool variant).output
  restored :
    ∀ tool variant, (disabled.table tool variant).output = (prior.table tool variant).output
  nft : disabled.nft = prior.nft

section Surviving

variable
  {nftInstalled : Bool}
  {settings : KillSwitchSettings}
  {prior enabled : Firewall}

theorem EnabledOver.not_survives
    (above : EnabledOver nftInstalled settings lanSubnets6 prior enabled)
    (noKillSwitch : NoKillSwitch prior) :
    ¬Survives prior enabled enabled := by
  intro survives
  cases nftInstalled with
  | true =>
    obtain ⟨-, vpnIps, lanSubnets, loaded⟩ := above
    rw [survives.nft, noKillSwitch.nft] at loaded
    exact absurd loaded nofun
  | false =>
    have present : jumpRule ∈ (enabled.table .iptables .default).output := by
      rw [above.output .iptables]
      exact List.mem_append_left _ (List.mem_singleton.mpr rfl)
    rw [survives.restored] at present
    exact noKillSwitch.jumpRule_notMem .iptables present

section

variable (above : EnabledOver nftInstalled settings (detectLocalSubnetsV6 addresses) prior enabled)

include above

theorem EnabledOver.restored_iff (tool : Tool) :
    ((disabledFirewall nftInstalled enabled).table tool .default).output =
        (prior.table tool .default).output ↔
      (∀ rule ∈ removedPatterns tool, rule ∉ (prior.table tool .default).output) ∧
      ∀ rule ∈ frontRules nftInstalled settings.ipv6Mode
          (detectLocalSubnetsV6 addresses) tool,
        rule ∈ removedPatterns tool := by
  rw [disabledFirewall_output, above.output]
  cases nftInstalled with
  | true =>
    have noFront :
        frontRules true settings.ipv6Mode (detectLocalSubnetsV6 addresses) tool = [] := by
      cases tool <;> rfl
    rw [if_pos rfl, noFront, List.nil_append,
      eraseEach_eq_self_iff (by decide) (removedPatterns_nodup tool)]
    simp
  | false =>
    rw [if_neg Bool.false_ne_true]
    exact eraseEach_front_eq_iff (by decide) (removedPatterns_nodup tool)
      (count_frontRules (detectLocalSubnetsV6_nodup addresses) _ tool) _

/-- Outside the cooldown the prior rules survive unless patterns meet them. -/
theorem EnabledOver.survives_iff (noKillSwitch : NoKillSwitch prior) :
    Survives prior enabled (disabledFirewall nftInstalled enabled) ↔
      (∀ rule ∈ ipv6OutputRules, rule ∉ (prior.table .ip6tables .default).output) ∧
      (nftInstalled = false → settings.ipv6Mode = .tunnel →
        detectLocalSubnetsV6 addresses = [linkLocal6]) := by
  have patterns6 :
      (∀ rule ∈ removedPatterns .ip6tables,
          rule ∉ (prior.table .ip6tables .default).output) ↔
        ∀ rule ∈ ipv6OutputRules, rule ∉ (prior.table .ip6tables .default).output := by
    constructor
    · intro absent rule listed
      exact absent rule (List.mem_append_left _ listed)
    · intro absent rule listed
      rcases List.mem_append.mp listed with pattern | jump
      · exact absent rule pattern
      · rw [List.mem_singleton.mp jump]
        exact noKillSwitch.jumpRule_notMem .ip6tables
  have restored6 := above.restored_iff .ip6tables
  rw [patterns6, frontRules_listed_iff] at restored6
  constructor
  · intro survives
    exact restored6.mp (survives.restored .ip6tables .default)
  · intro condition
    have absent :
        ∀ tool, ∀ rule ∈ removedPatterns tool, rule ∉ (prior.table tool .default).output := by
      intro tool
      cases tool with
      | ip6tables => exact patterns6.mpr condition.1
      | iptables =>
        intro rule listed
        rw [List.mem_singleton.mp listed]
        exact noKillSwitch.jumpRule_notMem .iptables
    constructor
    · intro tool variant
      cases variant with
      | legacy => rw [above.legacy]
      | default =>
        rw [above.output,
          (eraseEach_eq_self_iff (by decide) (removedPatterns_nodup tool) _).mpr (absent tool)]
        exact List.sublist_append_right _ _
    · intro tool variant
      cases variant with
      | legacy => rw [disabledFirewall_legacy, above.legacy]
      | default =>
        cases tool with
        | ip6tables => exact restored6.mpr condition
        | iptables =>
          refine (above.restored_iff .iptables).mpr ⟨absent .iptables, ?_⟩
          intro rule member
          cases nftInstalled with
          | true => exact absurd member List.not_mem_nil
          | false => exact member
    · rw [disabledFirewall_nft, noKillSwitch.nft]

end

end Surviving

/--
`enable` and, some time later, `disable` of a new switch on a host on which
every command works: the prior rules survive exactly when no rule of
`ip6tables` looks like one of the patterns, `disable` is called outside the
cooldown, and the iptables backend does not run in the Tunnel mode with other
networks than link-local.
-/
theorem foreign_rules_survive_iff
    {env : FwEnv}
    {nftInstalled : Bool}
    (working : AllSucceed env nftInstalled)
    {addresses : Option (List InterfaceAddress6)}
    (detected : ∀ number, env.lanSubnets6 number = detectLocalSubnetsV6 addresses)
    {dnsMode : DnsMode}
    (works : nftInstalled = true ∨ dnsMode ≠ .localhost)
    {ipv6Mode : Ipv6Mode}
    {blockDoh : Bool}
    {customDohBlocklist : List String}
    {host : Host}
    (unused : host.log = [])
    (noKillSwitch : NoKillSwitch host.firewall)
    (pause : Nat)
    {enabled later : KsWorld}
    (isEnabled :
      enabled =
        ((enable env).run ⟨.withConfig dnsMode ipv6Mode blockDoh customDohBlocklist, host⟩).2)
    (isLater : later = HistoryStep.after env enabled (.wait pause)) :
    Survives host.firewall (firewallOf enabled)
        (firewallOf ((disable env).run later).2) ↔
      (∀ rule ∈ ipv6OutputRules, rule ∉ (host.firewall.table .ip6tables .default).output) ∧
      later.ks.inCooldown later.host.now = false ∧
      (nftInstalled = false → ipv6Mode = .tunnel →
        detectLocalSubnetsV6 addresses = [linkLocal6]) := by
  have free : ¬Stuck ⟨.withConfig dnsMode ipv6Mode blockDoh customDohBlocklist, host⟩ :=
    not_stuck_of_log (by simp [unused])
  obtain ⟨-, here⟩ := enable_here working noKillSwitch free works detected rfl rfl rfl rfl
  rw [← isEnabled] at here
  have enabledIdle : enabled.ks.toggleInProgress = false := by
    rw [isEnabled, enable]
    exact guardToggle_idle (enableInner env) rfl
  have idle : later.ks.toggleInProgress = false := by
    rw [isLater]
    exact enabledIdle
  have sameFirewall : firewallOf later = firewallOf enabled := by
    rw [isLater]
    rfl
  by_cases cooledDown : later.ks.inCooldown later.host.now = false
  · have laterFree : ¬Stuck later := by
      rw [isLater]
      exact here.free
    have laterBackend : later.ks.backend = backendFor nftInstalled := by
      rw [isLater]
      exact here.backend
    rw [disable_here working laterFree laterBackend idle cooledDown, sameFirewall]
    refine (here.above.survives_iff noKillSwitch).trans ?_
    constructor
    · rintro ⟨absent, networks⟩
      exact ⟨absent, cooledDown, networks⟩
    · rintro ⟨absent, -, networks⟩
      exact ⟨absent, networks⟩
  · have cooling : later.ks.inCooldown later.host.now = true := Bool.of_not_eq_false cooledDown
    rw [disable_cooling env idle cooling, sameFirewall]
    constructor
    · intro survives
      exact absurd survives (here.above.not_survives noKillSwitch)
    · rintro ⟨-, cooled, -⟩
      exact absurd cooled cooledDown

def plainEnv : FwEnv :=
  { calmEnv with
    fault := fun _ command =>
      if command.isNftProbe then some (.exit ⟨1, one_isFailure⟩) else none
    lanSubnets6 := fun _ => detectLocalSubnetsV6 (some []) }

theorem plainEnv_allSucceed :
    AllSucceed plainEnv false where
  commands _ command ordinary := by
    change (if command.isNftProbe then _ else _) = _
    rw [ordinary]
    rfl
  nft _ _ := rfl
  listings _ := by
    change sudoError? (.exited 0 "") = none
    decide

/-- A host with some prior rules in `OUTPUT` of `ip6tables`. -/
def hostWith (rules : List XRule) : Host :=
  { freshWorld.host with
    firewall :=
      Firewall.setTable ⟨fun _ _ => Table.empty, none⟩ .ip6tables .default
        { Table.empty with output := rules } }

theorem hostWith_noKillSwitch
    {rules : List XRule}
    (noJumps : ∀ rule ∈ rules, rule.jumpsTo .killSwitch = false) :
    NoKillSwitch (hostWith rules).firewall where
  chains tool variant := by cases tool <;> cases variant <;> rfl
  jumps tool variant rule member := by
    cases tool <;> cases variant
    case ip6tables.default => exact noJumps rule member
    all_goals exact absurd member List.not_mem_nil
  nft := rfl

/-- A rule that somebody else put into `OUTPUT`. -/
def pingRule : XRule :=
  .foreign "-p ipv6-icmp -j ACCEPT"

theorem foreign_rules_survive_ping :
    Survives (hostWith [pingRule, pingRule]).firewall
      (firewallOf ((enable plainEnv).run
        ⟨.withConfig .tunnel .tunnel true [], hostWith [pingRule, pingRule]⟩).2)
      (firewallOf ((disable plainEnv).run
        (HistoryStep.after plainEnv
          ((enable plainEnv).run
            ⟨.withConfig .tunnel .tunnel true [],
              hostWith [pingRule, pingRule]⟩).2 (.wait 500))).2) :=
  (@foreign_rules_survive_iff plainEnv false plainEnv_allSucceed (some [])
    (fun _ => rfl) _ (.inr (by decide)) _ _ _ _ rfl
    (hostWith_noKillSwitch (by decide)) 500 _ _ rfl rfl).mpr
      ⟨by decide +kernel, by decide +kernel, fun _ _ => by decide⟩

/-- A loopback rule of somebody else is gone as soon as `enable` is called. -/
theorem enable_removes_foreign_rule :
    ((hostWith [pingRule, .rule [.out lo] .accept]).firewall.table
        .ip6tables .default).output =
        [pingRule, .rule [.out lo] .accept] ∧
      ((enable calmEnv).run
        ⟨.withConfig .tunnel .block true [],
          hostWith [pingRule, .rule [.out lo] .accept]⟩).1 = none ∧
      ((firewallOf ((enable calmEnv).run
        ⟨.withConfig .tunnel .block true [], hostWith [pingRule, .rule [.out lo] .accept]⟩).2).table
        .ip6tables .default).output = [pingRule] ∧
      ((firewallOf ((disable calmEnv).run
        (HistoryStep.after calmEnv
          ((enable calmEnv).run
            ⟨.withConfig .tunnel .block true [], hostWith [pingRule, .rule [.out lo] .accept]⟩).2
          (.wait 500))).2).table .ip6tables .default).output =
        [pingRule] := by
  decide

end KillSwitch

end Shroud
