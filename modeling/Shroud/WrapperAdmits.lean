import Shroud.CleanupEffects
import Shroud.FirewallTrace
import Shroud.ForeignRules
import Shroud.SwitchCommands
import Shroud.Verify
import Shroud.WrapperCalls

namespace Shroud

open Netfilter IptablesScript NftRuleset KillSwitchRules StateProgram

/-!
# What the daemon asks of the wrapper

Every operation of the kill switch leaves its commands in the log of the host.
Those that go to one of the wrapped paths are calls of the wrapper.  The
wrapper passes all of them on, except the `ip6tables` rules for detected
networks other than link-local: it knows a fixed set of `OUTPUT` rules only.
-/

namespace FwWrapper

/-- A call of the wrapper. -/
structure Call where
  tool : FwTool
  args : List String
  stdin : List Char
  deriving Repr, DecidableEq

def Call.admitted (call : Call) : Bool :=
  admits call.tool call.args call.stdin

end FwWrapper

variable {tool : Tool} {command : XCommand}

namespace FwCommand

open FwWrapper CommandText

/--
The call behind a command.  The legacy tools have no wrapper, and the first
probe for `nft` goes by name.  A load gets its script on the standard input.
-/
def wrapperCall? (script : List Char) : FwCommand → Option Call
  | .xtables tool .default command =>
    some ⟨.xtables tool, commandArgs command, []⟩
  | .xtables _ .legacy _ => none
  | .nftDelete => some ⟨.nft, ["delete", "table", "inet", nftTable], []⟩
  | .nftLoad _ => some ⟨.nft, ["-f", "-"], script⟩
  | .nftList => some ⟨.nft, ["list", "table", "inet", nftTable], []⟩
  | .nftVersion attempt =>
    if attempt.val = 0 then none else some ⟨.nft, ["--version"], []⟩
  | .listAll .default => some ⟨.xtables .iptables, ["-L", "-n"], []⟩
  | .listAll .legacy => none
  | .legacyVersion _ _ => none

/--
The wrapper passes a command on.  What a load hands over is the script of the
rules that it loads.
-/
structure Accepted
    (settings : KillSwitchSettings)
    (servers : List IpAddr)
    (lanSubnets : List Cidr4)
    (command : FwCommand) : Prop where
  passed :
    ∀ call,
      command.wrapperCall?
          (NftText.buildNftText settings servers lanSubnets) = some call →
        call.admitted = true
  loaded : ∀ table, command = .nftLoad table → table = buildNftRuleset settings servers lanSubnets

theorem ownOutputRules_listed (tool : Tool) :
    ∀ rule ∈ ownOutputRules tool, ruleText rule ∈ outputBodies tool := by
  cases tool with
  | iptables => decide
  | ip6tables => decide

theorem admitsCommand_of_routine
    (routine : (FwCommand.xtables tool .default command).isRoutine = true) :
    admitsCommand tool command = true := by
  cases command with
  | append chain rule => exact routine
  | insert chain position rule | delete chain rule =>
    obtain ⟨output, own⟩ := of_decide_eq_true routine
    exact decide_eq_true ⟨output, ownOutputRules_listed tool rule own⟩
  | check chain rule =>
    obtain ⟨output, rfl⟩ := of_decide_eq_true routine
    exact decide_eq_true ⟨output, by decide⟩
  | _ => rfl

section Accepting

variable
  {settings : KillSwitchSettings}
  {servers : List IpAddr}
  {lanSubnets : List Cidr4}

theorem accepted_xtables_iff {command : XCommand} :
    (FwCommand.xtables tool .default command).Accepted settings servers
        lanSubnets ↔
      admitsCommand tool command = true := by
  constructor
  · intro accepted
    rw [← admits_commandArgs tool command []]
    exact accepted.passed _ rfl
  · intro admitted
    refine ⟨?_, fun _ => nofun⟩
    intro call same
    rw [← Option.some.inj same]
    exact (admits_commandArgs tool command []).trans admitted

theorem accepted_of_routine
    {command : FwCommand}
    (routine : command.isRoutine = true) :
    command.Accepted settings servers lanSubnets := by
  cases command with
  | xtables tool variant command =>
    cases variant with
    | default =>
      exact accepted_xtables_iff.mpr (admitsCommand_of_routine routine)
    | legacy => exact ⟨fun _ => nofun, fun _ => nofun⟩
  | nftLoad table => exact absurd routine (by simp [isRoutine])
  | nftVersion attempt =>
    refine ⟨?_, fun _ => nofun⟩
    intro call same
    obtain ⟨-, same⟩ := Option.ite_none_left_eq_some.mp same
    rw [← Option.some.inj same]
    rfl
  | listAll variant =>
    cases variant with
    | default =>
      exact ⟨fun _ same => Option.some.inj same ▸ rfl, fun _ => nofun⟩
    | legacy => exact ⟨fun _ => nofun, fun _ => nofun⟩
  | legacyVersion tool attempt => exact ⟨fun _ => nofun, fun _ => nofun⟩
  | _ => exact ⟨fun _ same => Option.some.inj same ▸ rfl, fun _ => nofun⟩

theorem accepted_load :
    (FwCommand.nftLoad (buildNftRuleset settings servers lanSubnets)).Accepted
      settings servers lanSubnets where
  passed call same := by
    rw [← Option.some.inj same]
    exact admits_buildNftText settings servers lanSubnets
  loaded table same := (FwCommand.nftLoad.inj same).symm

end Accepting

end FwCommand

namespace KillSwitch

/--
Commands of some kind were issued; the log explains the firewall, and the
settings were not written.
-/
structure Issues
    (allowed : FwCommand → Prop)
    (before after : KsWorld) : Prop where
  settings : after.ks.settings = before.ks.settings
  commands :
    ∃ entries,
      after.host.log = before.host.log ++ entries ∧
      firewallOf after = replay entries (firewallOf before) ∧
      ∀ entry ∈ entries, allowed entry.command

theorem Issues.of_same
    {allowed : FwCommand → Prop}
    {before after : KsWorld}
    (settings : after.ks.settings = before.ks.settings)
    (log : after.host.log = before.host.log)
    (firewall : firewallOf after = firewallOf before) :
    Issues allowed before after :=
  ⟨settings, [], by rw [log, List.append_nil], firewall, nofun⟩

instance (allowed : FwCommand → Prop) :
    IsPreorder KsWorld (Issues allowed) where
  refl _ := Issues.of_same rfl rfl rfl
  trans _ _ _ first second := by
    obtain ⟨early, earlyLog, earlyEnd, earlyAllowed⟩ := first.commands
    obtain ⟨late, lateLog, lateEnd, lateAllowed⟩ := second.commands
    refine ⟨second.settings.trans first.settings, early ++ late, ?_, ?_, ?_⟩
    · rw [lateLog, earlyLog, List.append_assoc]
    · rw [lateEnd, earlyEnd, replay_append]
    · intro entry member
      rcases List.mem_append.mp member with inEarly | inLate
      · exact earlyAllowed entry inEarly
      · exact lateAllowed entry inLate

theorem Issues.allowed_of_log
    {allowed : FwCommand → Prop}
    {before after : KsWorld}
    (issues : Issues allowed before after)
    {entries : List LogEntry}
    (log : after.host.log = before.host.log ++ entries) :
    ∀ entry ∈ entries, allowed entry.command := by
  obtain ⟨others, otherLog, -, allowed⟩ := issues.commands
  have same : entries = others := List.append_cancel_left (log.symm.trans otherLog)
  rw [same]
  exact allowed

/-- The hosts that answer with a given list of servers and networks. -/
structure Detects
    (env : FwEnv)
    (servers : List IpAddr)
    (lanSubnets : List Cidr4)
    (lanSubnets6 : List Cidr6) : Prop where
  scan : ∀ number, (env.scan number).ips = servers
  lan : ∀ number, env.lanSubnets number = lanSubnets
  lan6 : ∀ number, env.lanSubnets6 number = lanSubnets6

/--
A set of commands that holds all the daemon may issue for a configuration.
The IPv6 part of the script is reached only if the IPv4 part can be installed.
-/
structure Covers
    (allowed : FwCommand → Prop)
    (settings : KillSwitchSettings)
    (servers : List IpAddr)
    (lanSubnets : List Cidr4)
    (lanSubnets6 : List Cidr6) : Prop where
  routine : ∀ command, command.isRoutine = true → allowed command
  load : allowed (.nftLoad (buildNftRuleset settings servers lanSubnets))
  ipv6 :
    settings.dnsMode ≠ .localhost →
      ∀ tool command ignoreError,
        .command tool command ignoreError ∈
            buildIpv6Script settings.ipv6Mode true lanSubnets6 →
          allowed (.xtables tool .default command)

section Runs

variable
  {env : FwEnv}
  {allowed : FwCommand → Prop}
  {settings : KillSwitchSettings}
  {servers : List IpAddr}
  {lanSubnets : List Cidr4}
  {lanSubnets6 : List Cidr6}

theorem runCommand_issues
    {command : FwCommand}
    (isAllowed : allowed command) :
    Keeps (Issues allowed) (runCommand env command) := by
  intro world
  refine ⟨rfl, [⟨command, world.host.effectOf env command⟩], rfl, ?_, ?_⟩
  · exact Host.after_replays env world.host command
  · intro entry member
    rw [List.mem_singleton.mp member]
    exact isAllowed

theorem modifyKs_issues
    {change : KillSwitch → KillSwitch}
    (settingsKept : ∀ ks, (change ks).settings = ks.settings) :
    Keeps (Issues allowed) (modifyKs change) :=
  fun world => .of_same (settingsKept world.ks) rfl rfl

theorem detectVpnEndpoints_result
    (detects : Detects env servers lanSubnets lanSubnets6)
    (start : KsWorld) :
    Ensures (Issues allowed start) (detectVpnEndpoints env)
      (fun scan world => Issues allowed start world ∧ scan.ips = servers) := by
  have unlogged : Keeps (Issues allowed) (detectVpnEndpoints env) := fun _ => .of_same rfl rfl rfl
  exact (unlogged.preserves start).and fun world _ => detects.scan world.host.scans

section

variable (refused : ∀ table, command.exec tool table = none)

include refused

theorem runCommand_refused (variant : Variant) :
    Ensures (fun _ => True)
      (runCommand env (.xtables tool variant command))
      (fun outcome _ => outcome.succeeded = false) := by
  intro world _
  rw [Bool.eq_false_iff]
  intro succeeded
  have executed := Host.exec_of_applied ((Host.succeeded_outcomeOf env world.host _).mp succeeded)
  rw [FwCommand.exec, refused] at executed
  exact (Option.some_ne_none _ executed.symm).elim

theorem runLegacyLine_refused (stderr : String) :
    Ensures (fun _ => True) (runLegacyLine env tool command stderr)
      (fun result _ => result.isSome = true) := by
  have probed : Ensures (fun _ => True) (legacyVariant env tool) (fun _ _ => True) :=
    fun _ _ => trivial
  refine probed.bind ?_
  intro found
  refine .either ?_ (.pure fun _ _ => rfl)
  refine (runCommand_refused refused .legacy).bind ?_
  intro outcome
  cases outcome with
  | exited code text =>
    refine .ite (fun zero => ?_) fun _ => .pure fun _ _ => rfl
    subst zero
    exact .pure fun _ failed => absurd failed (by simp [Outcome.succeeded])
  | _ => exact .pure fun _ _ => rfl

theorem runScriptLine_refused :
    Ensures (fun _ => True)
      (runScriptLine env (.command tool command false))
      (fun result _ => result.isSome = true) := by
  have chosen (useLegacy : Bool) :
      Ensures (fun _ => True) (lineVariant env useLegacy tool) (fun _ _ => True) :=
    fun _ _ => trivial
  refine .get ?_
  intro world
  refine ((chosen world.ks.useLegacy).strengthen fun _ _ => trivial).bind ?_
  intro variant
  refine (runCommand_refused refused variant).bind ?_
  intro outcome
  cases outcome with
  | exited code stderr =>
    refine .ite (fun zero => ?_) fun _ => ?_
    · refine .pure fun _ failed => absurd failed ?_
      rcases zero with rfl | tolerated
      · simp [Outcome.succeeded]
      · exact absurd tolerated Bool.false_ne_true
    · refine .either (.pure fun _ _ => rfl) ?_
      refine .either ?_ (.pure fun _ _ => rfl)
      exact (runLegacyLine_refused refused stderr).strengthen fun _ _ => trivial
  | _ => exact .pure fun _ _ => rfl

end

section Covered

variable (covers : Covers allowed settings servers lanSubnets lanSubnets6)

include covers

theorem routine_issues
    {command : FwCommand}
    (routine : command.isRoutine = true) :
    Keeps (Issues allowed) (runCommand env command) :=
  runCommand_issues (covers.routine command routine)

theorem routineLine_issues
    {line : ScriptLine}
    (routine :
      ∀ tool command ignoreError,
        line = .command tool command ignoreError → allowed (.xtables tool .default command)) :
    Keeps (Issues allowed) (runScriptLine env line) := by
  refine runScriptLine_follows (fun _ _ => routine_issues covers rfl) ?_
  intro tool command ignoreError same variant
  cases variant with
  | default => exact runCommand_issues (routine tool command ignoreError same)
  | legacy => exact routine_issues covers rfl

theorem buildChainScript_issues
    (vpnIps : List IpAddr)
    (subnets : List Cidr4) :
    ∀ line ∈ buildChainScript settings vpnIps subnets,
      Keeps (Issues allowed) (runScriptLine env line) := by
  intro line member
  refine routineLine_issues covers ?_
  intro tool command ignoreError same
  subst same
  rw [buildChainScript, List.mem_append, List.mem_append,
    List.mem_singleton, List.mem_singleton] at member
  rcases member with (first | inRules) | last
  · obtain ⟨rfl, rfl, -⟩ := ScriptLine.command.inj first
    exact covers.routine _ rfl
  · have appends := buildChainRules_appends settings vpnIps subnets _ inRules
    unfold ScriptLine.appends at appends
    split at appends
    · next same => exact ScriptLine.noConfusion same
    · next same =>
        obtain ⟨rfl, rfl, -⟩ := ScriptLine.command.inj same
        exact covers.routine _ rfl
    · exact Bool.noConfusion appends
  · obtain ⟨rfl, rfl, -⟩ := ScriptLine.command.inj last
    exact covers.routine _ rfl

theorem localhostScript_issues
    (start : KsWorld)
    (localhost : settings.dnsMode = .localhost)
    (vpnIps : List IpAddr)
    (subnets : List Cidr4)
    (subnets6 : List Cidr6) :
    Preserves (Issues allowed start)
      (runSingleScript env (buildCompleteScript settings vpnIps subnets subnets6)) := by
  have lines :
      ∀ line ∈ buildChainScript settings vpnIps subnets,
        Keeps (Issues allowed) (runScriptLine env line) :=
    buildChainScript_issues covers vpnIps subnets
  obtain ⟨rest, shape⟩ := buildChainScript_localhost localhost vpnIps subnets
  rw [shape, ← List.cons_append] at lines
  rw [runSingleScript, buildCompleteScript, shape, ← List.cons_append, List.append_assoc]
  refine .findSomeM?_append (Issues allowed start) ?_ ?_
  · have front :
        Preserves (Issues allowed start)
          ((ScriptLine.command .iptables (.newChain .killSwitch) false ::
            localhostLines).findSomeM? (runScriptLine env)) :=
      (Keeps.findSomeM? fun line member =>
        lines line (List.mem_append_left _ member)).preserves start
    refine front.weaken ?_
    intro result world issues
    cases result <;> exact issues
  · have refused : Preserves (Issues allowed start) _ :=
      (lines _ (List.mem_append_right _ List.mem_cons_self)).preserves start
    refine Ensures.findSomeM?_cons (fun _ => False) ?_ fun _ => False.elim
    refine (refused.and ((runScriptLine_refused fun _ => rfl).strengthen
      fun _ _ => trivial)).weaken ?_
    intro result world after
    cases result with
    | some error => exact after.1
    | none => exact absurd after.2 Bool.false_ne_true

theorem runSingleScript_issues
    (start : KsWorld)
    (vpnIps : List IpAddr)
    (subnets : List Cidr4) :
    Preserves (Issues allowed start)
      (runSingleScript env (buildCompleteScript settings vpnIps subnets lanSubnets6)) := by
  by_cases localhost : settings.dnsMode = .localhost
  · exact localhostScript_issues covers start localhost vpnIps subnets lanSubnets6
  · refine Keeps.preserves (Keeps.findSomeM? ?_) start
    intro line member
    rw [buildCompleteScript, List.mem_append] at member
    rcases member with inChain | inIpv6
    · exact buildChainScript_issues covers vpnIps subnets line inChain
    · refine routineLine_issues covers ?_
      intro tool command ignoreError same
      rw [same] at inIpv6
      exact covers.ipv6 localhost tool command ignoreError inIpv6

theorem disable_steps (start : KsWorld) :
    DisableSteps env (Issues allowed start) where
  commands _ routine _ := (routine_issues covers routine).preserves start
  changes _ settingsKept := (modifyKs_issues settingsKept).preserves start

theorem enable_steps
    (detects : Detects env servers lanSubnets lanSubnets6)
    {start : KsWorld}
    (configured : start.ks.settings = settings) :
    EnableSteps env (· = servers) (Issues allowed start) where
  toDisableSteps := disable_steps covers start
  scans := detectVpnEndpoints_result detects start
  scripts := by
    rintro ips rfl world issues
    rw [currentScript, issues.settings, configured, detects.lan6]
    exact runSingleScript_issues covers start _ _
  loads := by
    rintro ips rfl world issues
    rw [issues.settings, configured, detects.lan]
    exact (runCommand_issues covers.load).preserves start

theorem cleanupAll_issues :
    Keeps (Issues allowed) (cleanupAll env) := by
  have removes (tool : Tool) (chain : Chain) :
      (FwCommand.xtables tool .default (.delete .output (jumpTo chain))).isRoutine = true := by
    cases tool <;> cases chain <;> decide
  have steps : ∀ entry ∈ cleanupScript env, entry.2.isRoutine = true :=
    cleanupScript_all (by decide) rfl
  refine cleanupAll_moves (fun _ _ => routine_issues covers rfl) (runCleanupCommand_moves ?_ ?_)
  · exact fun tool chain => routine_issues covers (removes tool chain)
  · exact fun entry member => routine_issues covers (steps entry member)

theorem boot_issues
    (tool : Tool)
    (command : XCommand)
    (edits : editsBoot command = true) :
    Keeps (Issues allowed) (runCommand env (.xtables tool .default command)) := by
  have own : jumpTo .boot ∈ FwCommand.ownOutputRules tool := by
    cases tool <;> decide
  refine routine_issues covers ?_
  unfold editsBoot at edits
  split at edits
  · rfl
  · rfl
  · rfl
  · rfl
  · exact decide_eq_true ⟨rfl, of_decide_eq_true edits ▸ own⟩
  · exact decide_eq_true ⟨rfl, of_decide_eq_true edits ▸ own⟩
  · exact Bool.noConfusion edits

theorem disableBootKillswitch_issues :
    Keeps (Issues allowed) (disableBootKillswitch env) :=
  disableBootKillswitch_follows (boot_issues covers)

end Covered

end Runs

/-- The operations that issue firewall commands. -/
inductive FirewallOperation where
  | enable
  | disable
  | update
  | robustIptablesCleanup
  | cleanupAll
  | enableBootKillswitch (allowLan : Bool)
  | disableBootKillswitch
  deriving Repr, DecidableEq

def FirewallOperation.after
    (env : FwEnv)
    (world : KsWorld) :
    FirewallOperation → KsWorld
  | .enable => ((KillSwitch.enable env).run world).2
  | .disable => ((KillSwitch.disable env).run world).2
  | .update => ((KillSwitch.update env).run world).2
  | .robustIptablesCleanup =>
    ((KillSwitch.robustIptablesCleanup env).run world).2
  | .cleanupAll => ((KillSwitch.cleanupAll env).run world).2
  | .enableBootKillswitch allowLan =>
    ((KillSwitch.enableBootKillswitch env allowLan).run world).2
  | .disableBootKillswitch =>
    ((KillSwitch.disableBootKillswitch env).run world).2

theorem FirewallOperation.after_issues
    {env : FwEnv}
    {allowed : FwCommand → Prop}
    {servers : List IpAddr}
    {lanSubnets : List Cidr4}
    {lanSubnets6 : List Cidr6}
    {world : KsWorld}
    (covers : Covers allowed world.ks.settings servers lanSubnets lanSubnets6)
    (detects : Detects env servers lanSubnets lanSubnets6)
    (operation : FirewallOperation) :
    Issues allowed world (operation.after env world) := by
  have unmoved : Issues allowed world world := .of_same rfl rfl rfl
  cases operation with
  | enable => exact (enable_steps covers detects rfl).enable world unmoved
  | disable => exact (disable_steps covers world).disable world unmoved
  | update => exact (enable_steps covers detects rfl).update world unmoved
  | robustIptablesCleanup => exact (disable_steps covers world).robustIptablesCleanup world unmoved
  | cleanupAll => exact cleanupAll_issues covers world
  | enableBootKillswitch allowLan =>
    exact enableBootKillswitch_follows (boot_issues covers) allowLan world
  | disableBootKillswitch => exact disableBootKillswitch_issues covers world

/--
The wrapper passes on all that the daemon and the verifier ask for with a
configuration, on every host that detects the given servers and networks.
-/
structure WrapperSuffices
    (settings : KillSwitchSettings)
    (servers : List IpAddr)
    (lanSubnets : List Cidr4)
    (lanSubnets6 : List Cidr6) : Prop where
  operations :
    ∀ env world operation,
      Detects env servers lanSubnets lanSubnets6 →
      world.ks.settings = settings →
      ∀ entries,
        (FirewallOperation.after env world operation).host.log =
            world.host.log ++ entries →
          ∀ entry ∈ entries, entry.command.Accepted settings servers lanSubnets
  verification :
    ∀ env verbose,
      ∀ probe ∈ ((Verify.runVerification env settings verbose).run []).2,
        ∀ stdin, FwWrapper.admits probe.call.1 probe.call.2 stdin = true

/-- The only network that the wrapper knows. -/
def isKnownNetwork (net : Cidr6) : Bool :=
  CommandText.netText (.v6 net) == "fe80::/10"

theorem lanRule_text (net : Cidr6) :
    (CommandText.ruleText (.rule [.dst (.v6 net)] .accept)).toList =
      "-d ".toList ++ ((CommandText.netText (.v6 net)).toList ++ " -j ACCEPT".toList) := by
  have args :
      CommandText.ruleArgs (.rule [.dst (.v6 net)] .accept) =
        ["-d", CommandText.netText (.v6 net), "-j", "ACCEPT"] :=
    rfl
  have front : "-d ".toList = "-d".toList ++ " ".toList := by decide
  have back :
      " -j ACCEPT".toList = " ".toList ++ ("-j".toList ++ (" ".toList ++ "ACCEPT".toList)) := by
    decide
  rw [CommandText.ruleText_args, args, front, back]
  simp only [String.intercalate_cons_cons, String.intercalate_singleton,
    String.toList_append, List.append_assoc]

theorem lanRule_listed_iff (net : Cidr6) :
    CommandText.ruleText (.rule [.dst (.v6 net)] .accept) ∈
        FwWrapper.outputBodies .ip6tables ↔
      isKnownNetwork net = true := by
  have known :
      "-d fe80::/10 -j ACCEPT".toList =
        "-d ".toList ++ ("fe80::/10".toList ++ " -j ACCEPT".toList) := by
    decide
  have others :
      ∀ body ∈ (FwWrapper.outputBodies .ip6tables).dropLast, ¬"-d ".toList <+: body.toList := by
    decide
  have split :
      FwWrapper.outputBodies .ip6tables =
        (FwWrapper.outputBodies .ip6tables).dropLast ++ ["-d fe80::/10 -j ACCEPT"] :=
    rfl
  have spelled := lanRule_text net
  rw [isKnownNetwork, beq_iff_eq, split, List.mem_append, List.mem_singleton]
  constructor
  · rintro (listed | same)
    · refine absurd ?_ (others _ listed)
      rw [spelled]
      exact List.prefix_append _ _
    · rw [same, known] at spelled
      have address := List.append_cancel_right (List.append_cancel_left spelled)
      exact String.toList_inj.mp address.symm
  · intro same
    refine .inr (String.toList_inj.mp ?_)
    rw [spelled, same, known]

theorem mem_buildLanRules6
    {position : Nat}
    {nets : List Cidr6}
    {line : ScriptLine}
    (member : line ∈ buildLanRules6 position nets) :
    ∃ place net,
      net ∈ nets ∧ isValidPrivateCidrV6 net = true ∧
        line = insertRule6 place [.dst (.v6 net)] .accept := by
  induction nets generalizing position with
  | nil => exact absurd member List.not_mem_nil
  | cons net nets ih =>
    rw [buildLanRules6] at member
    split at member
    · next valid =>
        rcases List.mem_cons.mp member with rfl | later
        · exact ⟨position, net, List.mem_cons_self, valid, rfl⟩
        · obtain ⟨place, other, inRest, found⟩ := ih later
          exact ⟨place, other, List.mem_cons_of_mem _ inRest, found⟩
    · obtain ⟨place, other, inRest, found⟩ := ih member
      exact ⟨place, other, List.mem_cons_of_mem _ inRest, found⟩

/--
The networks that end up in `OUTPUT` of `ip6tables` are known to the wrapper.
In the localhost mode the script of the daemon does not get that far.
-/
def NetworksKnown
    (settings : KillSwitchSettings)
    (lanSubnets6 : List Cidr6) : Prop :=
  settings.ipv6Mode = .tunnel → settings.dnsMode ≠ .localhost →
    ∀ net ∈ lanSubnets6, isValidPrivateCidrV6 net = true → isKnownNetwork net = true

section Sufficing

variable
  {settings : KillSwitchSettings}
  {servers : List IpAddr}
  {lanSubnets : List Cidr4}
  {lanSubnets6 : List Cidr6}

theorem insertRule6_admitted
    {ignoreError : Bool}
    {position : Nat}
    {tests : List XMatch}
    {target : XTarget}
    (same : .command tool command ignoreError = insertRule6 position tests target)
    (listed : CommandText.ruleText (.rule tests target) ∈ FwWrapper.outputBodies .ip6tables) :
    FwWrapper.admitsCommand tool command = true := by
  obtain ⟨rfl, rfl, -⟩ := ScriptLine.command.inj same
  exact decide_eq_true ⟨rfl, listed⟩

theorem NetworksKnown.covers (known : NetworksKnown settings lanSubnets6) :
    Covers (FwCommand.Accepted settings servers lanSubnets) settings servers
      lanSubnets lanSubnets6 where
  routine _ routine := FwCommand.accepted_of_routine routine
  load := FwCommand.accepted_load
  ipv6 notLocalhost tool command ignoreError member := by
    have own := FwCommand.ownOutputRules_listed .ip6tables
    refine FwCommand.accepted_xtables_iff.mpr ?_
    cases mode : settings.ipv6Mode with
    | off =>
      rw [mode] at member
      exact absurd member List.not_mem_nil
    | block =>
      rw [mode, buildIpv6Script] at member
      simp only [List.mem_cons, List.not_mem_nil, or_false] at member
      rcases member with same | same
      · exact insertRule6_admitted same (own _ (by decide))
      · exact insertRule6_admitted same (own _ (by decide))
    | tunnel =>
      rw [mode, buildIpv6Script, if_pos rfl] at member
      simp only [List.mem_append, List.mem_cons, List.not_mem_nil, or_false] at member
      rcases member with ((same | same | same) | inLan) | same
      · exact insertRule6_admitted same (own _ (by decide))
      · exact insertRule6_admitted same (own _ (by decide))
      · exact insertRule6_admitted same (own _ (by decide))
      · obtain ⟨place, net, detected, valid, same⟩ := mem_buildLanRules6 inLan
        exact insertRule6_admitted same
          ((lanRule_listed_iff net).mpr (known mode notLocalhost net detected valid))
      · exact insertRule6_admitted same (own _ (by decide))

theorem accepted_notMem
    {command : FwCommand}
    (accepted : command.Accepted settings servers lanSubnets)
    {rule : XRule}
    (unlisted : CommandText.ruleText rule ∉ FwWrapper.outputBodies .ip6tables)
    {before after : Firewall}
    (executed : command.exec before = some after)
    (absent : rule ∉ (before.table .ip6tables .default).output) :
    rule ∉ (after.table .ip6tables .default).output := by
  rcases FwCommand.tables_of_exec executed with
    ⟨tool, variant, edit, table, rfl, ran, rfl⟩ | same
  · by_cases same : Tool.ip6tables = tool ∧ Variant.default = variant
    · obtain ⟨rfl, rfl⟩ := same
      rw [Firewall.setTable_same]
      have admitted := FwCommand.accepted_xtables_iff.mp accepted
      have added := XCommand.count_of_exec ran rule
      have other : edit.inserted?.toList.count rule = 0 := by
        rw [List.count_eq_zero, Option.mem_toList]
        intro inserted
        unfold XCommand.inserted? at inserted
        split at inserted
        · exact absurd admitted (by simp [FwWrapper.admitsCommand])
        · obtain rfl := Option.some.inj inserted
          exact unlisted (of_decide_eq_true admitted).2
        · exact (Option.some_ne_none _ inserted.symm).elim
      rw [← List.count_eq_zero] at absent ⊢
      omega
    · rw [Firewall.setTable_other _ same]
      exact absent
  · rw [same]
    exact absent

theorem replay_notMem
    {entries : List LogEntry}
    (accepted : ∀ entry ∈ entries, entry.command.Accepted settings servers lanSubnets)
    {rule : XRule}
    (unlisted : CommandText.ruleText rule ∉ FwWrapper.outputBodies .ip6tables)
    {firewall : Firewall}
    (absent : rule ∉ (firewall.table .ip6tables .default).output) :
    rule ∉ ((replay entries firewall).table .ip6tables .default).output := by
  refine List.foldlRecOn
    (motive := fun firewall : Firewall => rule ∉ (firewall.table .ip6tables .default).output)
    entries _ absent ?_
  intro current notMem entry member
  rw [LogEntry.replay]
  split
  · cases executed : entry.command.exec current with
    | none => exact notMem
    | some after => exact accepted_notMem (accepted entry member) unlisted executed notMem
  · exact notMem

/-- A host without nftables on which all other commands work. -/
def detectingEnv
    (servers : List IpAddr)
    (lanSubnets : List Cidr4)
    (lanSubnets6 : List Cidr6) :
    FwEnv :=
  { plainEnv with
    scan := fun _ => ⟨servers, []⟩
    lanSubnets := fun _ => lanSubnets
    lanSubnets6 := fun _ => lanSubnets6 }

def newWorld (settings : KillSwitchSettings) : KsWorld :=
  ⟨{ freshWorld.ks with settings := settings }, freshWorld.host⟩

theorem enable_installs_networks
    (servers : List IpAddr)
    (lanSubnets : List Cidr4)
    (tunnel : settings.ipv6Mode = .tunnel)
    (notLocalhost : settings.dnsMode ≠ .localhost)
    {net : Cidr6}
    (detected : net ∈ lanSubnets6)
    (valid : isValidPrivateCidrV6 net = true) :
    XRule.rule [.dst (.v6 net)] .accept ∈
      ((firewallOf
        ((enable (detectingEnv servers lanSubnets lanSubnets6)).run
          (newWorld settings)).2).table .ip6tables .default).output := by
  have working : AllSucceed (detectingEnv servers lanSubnets lanSubnets6) false :=
    ⟨⟨plainEnv_allSucceed.commands, plainEnv_allSucceed.nft⟩, plainEnv_allSucceed.listings⟩
  have noKillSwitch : NoKillSwitch (firewallOf (newWorld settings)) := freshWorld_noKillSwitch
  have unstuck : ¬Stuck (newWorld settings) := not_stuck_of_log rfl
  obtain ⟨-, enabled⟩ :=
    enable_here working noKillSwitch unstuck (.inr notLocalhost) (fun _ => rfl) rfl rfl rfl rfl
  have configured : (newWorld settings).ks.settings = settings := rfl
  rw [enabled.above.output, configured, tunnel]
  refine List.mem_append_left _ ?_
  rw [frontRules, if_neg Bool.false_ne_true, ipv6FrontRules]
  refine List.mem_append_left _ (List.mem_append_right _ ?_)
  exact List.mem_map.mpr ⟨net, List.mem_filter.mpr ⟨detected, valid⟩, rfl⟩

theorem WrapperSuffices.known
    (needed : WrapperSuffices settings servers lanSubnets lanSubnets6) :
    NetworksKnown settings lanSubnets6 := by
  intro tunnel notLocalhost net detected valid
  rw [← lanRule_listed_iff]
  by_contra unlisted
  have detects :
      Detects (detectingEnv servers lanSubnets lanSubnets6) servers lanSubnets lanSubnets6 :=
    ⟨fun _ => rfl, fun _ => rfl, fun _ => rfl⟩
  -- Here every command counts as allowed: the log explains the rules anyway.
  have anything :
      Covers (fun _ => True) (newWorld settings).ks.settings servers
        lanSubnets lanSubnets6 :=
    ⟨fun _ _ => trivial, trivial, fun _ _ _ _ _ => trivial⟩
  obtain ⟨entries, log, replayed, -⟩ :=
    (FirewallOperation.enable.after_issues anything detects).commands
  have accepted := needed.operations _ (newWorld settings) .enable detects rfl entries log
  have absent :
      XRule.rule [.dst (.v6 net)] .accept ∉
        ((firewallOf (newWorld settings)).table .ip6tables .default).output :=
    List.not_mem_nil
  have missing := replay_notMem accepted unlisted absent
  rw [← replayed, FirewallOperation.after] at missing
  exact missing (enable_installs_networks servers lanSubnets tunnel notLocalhost detected valid)

end Sufficing

/--
The wrapper passes on everything that the operations of the kill switch and
the verifier ask for, exactly when it knows the networks that are detected.
-/
theorem wrapper_suffices_iff
    (settings : KillSwitchSettings)
    (servers : List IpAddr)
    (lanSubnets : List Cidr4)
    (lanSubnets6 : List Cidr6) :
    WrapperSuffices settings servers lanSubnets lanSubnets6 ↔
      NetworksKnown settings lanSubnets6 := by
  constructor
  · exact WrapperSuffices.known
  · intro known
    refine ⟨?_, fun _ _ probe _ => Verify.admits_probe probe⟩
    intro env world operation detects configured entries log
    subst configured
    exact (operation.after_issues known.covers detects).allowed_of_log log

def isDenied : FwCommand → Bool
  | .xtables tool .default command => !FwWrapper.admitsCommand tool command
  | _ => false

/-- A host that detects `fd00::/8`, with the wrapper in place. -/
def wrappedEnv : FwEnv :=
  { detectingEnv [] [] [uniqueLocal6, linkLocal6] with
    fault := fun _ command =>
      if command.isNftProbe || isDenied command then
        some (.exit ⟨1, one_isFailure⟩)
      else none }

/--
With a unique local network, `enable` asks for a rule that the wrapper denies,
and goes on as if nothing had happened.
-/
theorem wrapper_denies_unique_local :
    ⟨.xtables .ip6tables .default
        (.insert .output 4 (.rule [.dst (.v6 uniqueLocal6)] .accept)),
      .faulted⟩ ∈ ((enable wrappedEnv).run tunnelWorld).2.host.log ∧
    FwWrapper.validate (.xtables .ip6tables)
        ["-I", "OUTPUT", "4", "-d", "fd00::/8", "-j", "ACCEPT"] [] =
      .error "OUTPUT rule body not in allowlist: -d fd00::/8 -j ACCEPT" ∧
    ((enable wrappedEnv).run tunnelWorld).1 = none ∧
    ((enable wrappedEnv).run tunnelWorld).2.ks.enabled = true := by
  refine ⟨by decide +kernel, by decide +kernel, by decide +kernel, by decide +kernel⟩

end KillSwitch

end Shroud
