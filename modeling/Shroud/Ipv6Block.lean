import Shroud.RuleVerdicts
import Shroud.Ipv6Degraded

namespace Shroud.KillSwitch

open FirstMatch Netfilter KillSwitchRules IptablesScript NftRuleset
open StateProgram

/-!
# IPv6 in the Block mode

What becomes of IPv6 packets once `enable` has reported success on a host on
which every command works.  The iptables backend inserts its two rules in front
of whatever `OUTPUT` of `ip6tables` holds; the nftables backend loads a table in
which tracked packets are accepted before the IPv6 section is reached.
-/

/-- Every command works, except that nftables may not be installed. -/
structure Working (env : FwEnv) (nftInstalled : Bool) : Prop where
  commands : ∀ number command, command.isNftProbe = false → env.fault number command = none
  nft : ∀ number attempt, (env.fault number (.nftVersion attempt)).isNone = nftInstalled

/-- The variant that `use_legacy` stands for. -/
def variantFor (useLegacy : Bool) : Variant :=
  if useLegacy then .legacy else .default

/-- The verdict of the backend in use on an IPv6 packet. -/
def ipv6Verdict
    (world : KsWorld)
    (around : Surroundings)
    (packet : Packet) :
    Verdict :=
  match world.ks.backend with
  | .iptables =>
    ((firewallOf world).table .ip6tables
      (variantFor world.ks.useLegacy)).verdict around packet
  | .nftables =>
    match (firewallOf world).nft with
    | some table => table.output.verdict around packet
    | none => .accept

/-- Accepted on the loopback interface and dropped elsewhere. -/
def BlocksIpv6
    (world : KsWorld)
    (around : Surroundings)
    (packet : Packet) : Prop :=
  ipv6Verdict world around packet =
    if packet.leavesThrough lo then .accept else .drop

/-- The states in which `enable` finds nothing to do. -/
def Settled (world : KsWorld) : Prop :=
  world.ks.toggleInProgress = true ∨
    world.ks.inCooldown world.host.now = true ∨
    (world.ks.enabled = true ∧ RulesSeen world world.ks.backend)

section Working

variable {env : FwEnv} {nftInstalled : Bool}

section Tools

variable (working : Working env nftInstalled)

include working

section

variable (command : FwCommand) (ordinary : command.isNftProbe = false) (world : KsWorld)

include ordinary

theorem Working.runCommand :
    (command.exec (firewallOf world) =
        some (firewallOf ((runCommand env command).run world).2) ∧
      ∃ stderr, ((runCommand env command).run world).1 = .exited 0 stderr) ∨
    (command.exec (firewallOf world) = none ∧
      firewallOf ((runCommand env command).run world).2 = firewallOf world ∧
      ∃ code stderr, code ≠ 0 ∧ ((runCommand env command).run world).1 = .exited code stderr) := by
  have works := working.commands world.host.issued command ordinary
  have outcome :
      ((KillSwitch.runCommand env command).run world).1 = world.host.outcomeOf env command :=
    rfl
  have after :
      firewallOf ((KillSwitch.runCommand env command).run world).2 =
        (world.host.after env command).firewall :=
    rfl
  rw [outcome, after, Host.outcomeOf, Host.after, works]
  cases command.exec world.host.firewall with
  | some firewall => exact .inl ⟨rfl, _, rfl⟩
  | none =>
    exact .inr ⟨rfl, rfl, _, _, (env.refusal world.host.issued).property, rfl⟩

theorem Working.succeeds :
    ((KillSwitch.succeeds env command).run world).1 = (command.exec (firewallOf world)).isSome := by
  change ((KillSwitch.runCommand env command).run world).1.succeeded = _
  rcases working.runCommand command ordinary world with
    ⟨executed, stderr, outcome⟩ | ⟨refused, -, code, stderr, nonzero, outcome⟩
  · rw [outcome, executed]
    rfl
  · rw [outcome, refused]
    simpa [Outcome.succeeded] using nonzero

end

theorem Working.nftIsAvailable (world : KsWorld) :
    ((nftIsAvailable env).run world).1 = nftInstalled := by
  have probe :
      ∀ attempt state,
        ((KillSwitch.succeeds env (.nftVersion attempt)).run state).1 = nftInstalled := by
    intro attempt state
    change (state.host.outcomeOf env _).succeeded = _
    have installed := working.nft state.host.issued attempt
    have applied := state.host.succeeded_outcomeOf env (.nftVersion attempt)
    cases fault : env.fault state.host.issued (.nftVersion attempt) with
    | none =>
      rw [fault] at installed
      rw [← installed]
      refine applied.mpr ?_
      simp [Host.effectOf, FwCommand.exec, fault]
    | some reason =>
      rw [fault] at installed
      rw [← installed]
      refine Bool.eq_false_iff.mpr (mt applied.mp ?_)
      simp [Host.effectOf, FwCommand.exec, fault]
  rw [KillSwitch.nftIsAvailable, run_bind, probe]
  cases nftInstalled with
  | true => rfl
  | false =>
    rw [if_neg Bool.false_ne_true, run_bind, probe, if_neg Bool.false_ne_true]
    exact probe 2 _

theorem Working.cleanupNftTable (world : KsWorld) :
    (firewallOf ((cleanupNftTable env).run world).2).nft = none := by
  change (firewallOf ((KillSwitch.runCommand env .nftDelete).run world).2).nft = none
  rcases working.runCommand .nftDelete rfl world with
    ⟨executed, -⟩ | ⟨refused, unchanged, -⟩
  · obtain ⟨-, same⟩ := Option.ite_none_right_eq_some.mp executed
    rw [← Option.some.inj same]
  · rw [unchanged]
    simpa [FwCommand.exec] using refused

theorem Working.enableNft
    (vpnServerIps : List IpAddr)
    (settings : KillSwitchSettings) :
    Ensures (fun world => world.ks.settings = settings)
      (enableNft env vpnServerIps)
      (fun _ world =>
        ∃ lanSubnets,
          (firewallOf world).nft = some (buildNftRuleset settings vpnServerIps lanSubnets)) := by
  have cleaned :
      Ensures (fun world => world.ks.settings = settings)
        (KillSwitch.cleanupNftTable env)
        (fun _ world =>
          world.ks.settings = settings ∧ (firewallOf world).nft = none) := by
    intro world same
    refine ⟨?_, working.cleanupNftTable world⟩
    rw [(cleanupNftTable_keeps env world).ks]
    exact same
  refine cleaned.seq ?_
  refine .get ?_
  rintro current world ⟨rfl, rfl, noTable⟩
  rw [run_bind]
  refine ⟨env.lanSubnets world.host.issued, ?_⟩
  have loaded :
      (firewallOf ((runNft env (.nftLoad (buildNftRuleset world.ks.settings
          vpnServerIps (env.lanSubnets world.host.issued)))).run world).2).nft =
        some (buildNftRuleset world.ks.settings vpnServerIps
          (env.lanSubnets world.host.issued)) := by
    rcases working.runCommand (.nftLoad _) rfl world with
      ⟨executed, -⟩ | ⟨refused, -⟩
    · have changed := Option.some.inj executed
      rw [noTable] at changed
      exact (congrArg Firewall.nft changed).symm
    · exact absurd refused (by simp [FwCommand.exec])
  cases ((runNft env (.nftLoad (buildNftRuleset world.ks.settings
      vpnServerIps (env.lanSubnets world.host.issued)))).run world).1 with
  | none => exact loaded
  | some error => exact loaded

theorem Working.lineVariant
    (useLegacy : Bool)
    (tool : Tool)
    (world : KsWorld) :
    ((lineVariant env useLegacy tool).run world).1 = variantFor useLegacy := by
  cases useLegacy with
  | false => rfl
  | true =>
    have callable : ((legacyVariant env tool).run world).1 = true := by
      have probe := working.succeeds (.legacyVersion tool 0) rfl world
      change ((if ((KillSwitch.succeeds env
          (.legacyVersion tool 0)).run world).1 then pure true
        else KillSwitch.succeeds env (.legacyVersion tool 1) :
          StateM KsWorld Bool).run _).1 = true
      rw [probe]
      rfl
    change ((if ((legacyVariant env tool).run world).1 then
        pure .legacy
      else pure .default : StateM KsWorld Variant).run _).1 = .legacy
    rw [callable]
    rfl

theorem Working.refuses (useLegacy : Bool) :
    Refuses env useLegacy (variantFor useLegacy) (fun _ => false) where
  chosen := working.lineVariant useLegacy .ip6tables
  faults number command := by rw [working.commands number _ rfl, Option.isSome_none]

/-- The Block rules stand in front of `OUTPUT` of the `ip6tables` in use. -/
def FrontBlocked (world : KsWorld) : Prop :=
  ∃ lanSubnets6 rest,
    ((firewallOf world).table .ip6tables
        (variantFor world.ks.useLegacy)).output =
      ipv6FrontRules .block lanSubnets6 ++ rest

omit working in
theorem Working.enableIptables
    (working : Working env false)
    (vpnServerIps : List IpAddr) :
    Ensures
      (fun world =>
        world.ks.settings.ipv6Mode = .block ∧ world.ks.backend = .iptables)
      (enableIptables env vpnServerIps)
      (fun result world =>
        result = none → world.ks.backend = .iptables ∧ FrontBlocked world) := by
  rintro world ⟨block, iptables⟩ ok
  rcases enableIptables_script ok with ⟨scriptOk, same⟩ | ⟨state, available, -⟩
  · have sameKs := (runSingleScript_keeps env (currentScript env world vpnServerIps) world).ks
    have table := (working.refuses _).runCompleteScript scriptOk
    rw [same, FrontBlocked, sameKs]
    refine ⟨iptables, env.lanSubnets6 world.host.issued,
      (tablesOf world (variantFor world.ks.useLegacy) .ip6tables).output, ?_⟩
    refine (congrArg Table.output table).trans ?_
    rw [foldl_buildIpv6Script (fun line _ => by cases line <;> rfl), block]
  · exact absurd ((working.nftIsAvailable state).symm.trans available) Bool.false_ne_true

/-- What a successful installation in the Block mode has left. -/
def BlockInstalled (nftInstalled : Bool) (world : KsWorld) : Prop :=
  match nftInstalled with
  | false => world.ks.backend = .iptables ∧ FrontBlocked world
  | true =>
    world.ks.backend = .nftables ∧
      ∃ settings vpnServerIps lanSubnets,
        settings.ipv6Mode = .block ∧
          (firewallOf world).nft = some (buildNftRuleset settings vpnServerIps lanSubnets)

/-- The backend that is chosen on a working host. -/
def backendFor (nftInstalled : Bool) : FirewallBackend :=
  if nftInstalled then .nftables else .iptables

theorem Working.selectBackend
    (world : KsWorld)
    {backend : FirewallBackend}
    (selected : ((selectBackend env).run world).1 = .ok backend) :
    backend = backendFor nftInstalled := by
  have spec :
      Ensures (fun _ => True) (KillSwitch.selectBackend env)
        (fun result (_ : KsWorld) =>
          ∀ backend, result = .ok backend → backend = backendFor nftInstalled) := by
    have asked :
        Ensures (fun _ => True) (KillSwitch.nftIsAvailable env)
          (fun available (_ : KsWorld) => available = nftInstalled) :=
      fun world _ => working.nftIsAvailable world
    refine asked.bind ?_
    intro available
    refine .ite (fun isAvailable => .pure ?_) fun notAvailable => ?_
    · rintro world rfl backend ⟨⟩
      rw [isAvailable]
      rfl
    have iptables :
        ∀ world : KsWorld,
          available = nftInstalled →
            ∀ backend,
              (Except.ok .iptables : Except KillSwitchError _) =
                  .ok backend →
                backend = backendFor nftInstalled := by
      rintro world rfl backend ⟨⟩
      rw [Bool.eq_false_iff.mpr notAvailable]
      rfl
    have listed
        {α : Type}
        (program : StateM KsWorld α) :
        Ensures (fun _ : KsWorld => available = nftInstalled) program
          (fun _ _ => available = nftInstalled) :=
      fun _ same => same
    refine (listed _).bind ?_
    intro access
    cases access with
    | none => exact .pure iptables
    | some error =>
      refine .either ?_ (.pure (fun _ _ => nofun))
      refine (listed _).bind ?_
      intro legacy
      refine .either ?_ (.pure (fun _ _ => nofun))
      refine (listed _).seq ?_
      exact .pure iptables
  exact spec world trivial backend selected

omit working in
theorem blockMode_kept
    {α : Type}
    {program : StateM KsWorld α}
    (keeps : Keeps Prepared program) :
    Ensures (fun world => world.ks.settings.ipv6Mode = .block) program
      (fun _ world => world.ks.settings.ipv6Mode = .block) := by
  intro world block
  rw [(keeps world).settings]
  exact block

theorem Working.enableBackend (vpnServerIps : List IpAddr) :
    Ensures
      (fun world =>
        world.ks.settings.ipv6Mode = .block ∧ world.ks.backend = backendFor nftInstalled)
      (enableBackend env (backendFor nftInstalled) vpnServerIps)
      (fun result world =>
        result = none → BlockInstalled nftInstalled world) := by
  cases nftInstalled with
  | false => exact working.enableIptables vpnServerIps
  | true =>
    rintro world ⟨block, nftables⟩ -
    obtain ⟨lanSubnets, loaded⟩ := working.enableNft vpnServerIps world.ks.settings world rfl
    refine ⟨?_, world.ks.settings, vpnServerIps, lanSubnets, block, loaded⟩
    exact (enableNft_backend env vpnServerIps world).trans nftables

theorem Working.install :
    Ensures (fun world => world.ks.settings.ipv6Mode = .block)
      (install env)
      (fun result world =>
        result = none → BlockInstalled nftInstalled world) := by
  refine .get_any ?_
  intro current
  refine .change (fun world => world.ks.settings.ipv6Mode = .block)
    (fun _ block => block) ?_
  refine .seq (blockMode_kept (prepared_of_keeps (robustIptablesCleanup_keeps env))) ?_
  refine .bind (blockMode_kept (prepared_of_keeps (detectVpnEndpoints_keeps env))) ?_
  intro scan
  have selects :
      Ensures (fun world => world.ks.settings.ipv6Mode = .block)
        (KillSwitch.selectBackend env)
        (fun result world =>
          world.ks.settings.ipv6Mode = .block ∧
            ∀ backend, result = .ok backend → backend = backendFor nftInstalled) :=
    fun world block =>
      ⟨blockMode_kept (selectBackend_keeps env) world block, fun _ => working.selectBackend world⟩
  refine selects.bind ?_
  intro selected
  cases selected with
  | error error => exact .pure (fun _ _ => nofun)
  | ok backend =>
    refine .change
      (fun world =>
        backend = backendFor nftInstalled ∧
          world.ks.settings.ipv6Mode = .block ∧ world.ks.backend = backend)
      (fun _ before => ⟨before.2 backend rfl, before.1, rfl⟩) ?_
    refine .of_pure_pre ?_
    rintro rfl
    refine (working.enableBackend scan.ips).bind ?_
    intro result
    cases result with
    | some error => exact .pure (fun _ _ => nofun)
    | none =>
      intro world done _
      cases nftInstalled with
      | false => exact done rfl
      | true => exact done rfl

end Tools

section Installed

variable (working : Working env nftInstalled)

include working

theorem Working.rulesExist
    (world : KsWorld)
    (backend : FirewallBackend) :
    ((rulesExist env backend).run world).1 = true ↔ RulesSeen world backend := by
  constructor
  · intro found
    exact (rulesExist_sees env world backend world (Std.Refl.refl world)).2 found
  · intro seen
    cases backend with
    | iptables =>
      refine (working.succeeds
        (.xtables .iptables .default (.check .output jumpRule)) rfl
        world).trans ?_
      have member : jumpRule ∈ (world.host.firewall.table .iptables .default).output := seen
      simp [FwCommand.exec, XCommand.exec, Table.rules?, member]
    | nftables =>
      refine (working.succeeds .nftList rfl world).trans ?_
      have present : world.host.firewall.nft.isSome = true := seen
      simp [FwCommand.exec, present]

omit working in
theorem BlockInstalled.left
    {world : KsWorld}
    (installed : BlockInstalled nftInstalled world) :
    BlockInstalled nftInstalled (left world) := by
  cases nftInstalled with
  | false => exact installed
  | true => exact installed

/-- A settled switch is left as it is; any other is installed anew. -/
theorem Working.enable
    {world : KsWorld}
    (block : world.ks.settings.ipv6Mode = .block)
    (ok : ((enable env).run world).1 = none) :
    (Settled world ∧
      firewallOf ((enable env).run world).2 = firewallOf world ∧
      ((enable env).run world).2.ks = world.ks) ∨
    (¬Settled world ∧ BlockInstalled nftInstalled ((enable env).run world).2) := by
  have same : Rests env world ↔ Settled world :=
    or_congr_right (or_congr_right (and_congr_right fun _ =>
      working.rulesExist (entered world) world.ks.backend))
  by_cases rests : Rests env world
  · exact .inl ⟨same.mp rests, rests.enable⟩
  · refine .inr ⟨mt same.mpr rests, ?_⟩
    have still : (lookedUp env world).ks.settings.ipv6Mode = .block := by
      rw [lookedUp_looks.1.ks]
      exact block
    rw [enable_installs rests] at ok ⊢
    exact (working.install _ still ok).left

omit working in
theorem BlockInstalled.blocksIpv6_iff
    {world : KsWorld}
    (installed : BlockInstalled nftInstalled world)
    (around : Surroundings)
    {packet : Packet}
    (ipv6 : packet.isIpv6 = true) :
    BlocksIpv6 world around packet ↔
      nftInstalled = false ∨ packet.leavesThrough lo = true ∨ packet.isTracked = false := by
  cases nftInstalled with
  | false =>
    obtain ⟨iptables, lanSubnets6, rest, output⟩ := installed
    have blocks : BlocksIpv6 world around packet := by
      rw [BlocksIpv6, ipv6Verdict, iptables]
      simp only [Table.verdict, output, firstRuling_append,
        firstRuling_ipv6FrontRules, frontRuling6, Option.some_or,
        Option.getD_some]
    exact iff_of_true blocks (.inl rfl)
  | true =>
    obtain ⟨nftables, settings, vpnServerIps, lanSubnets, block, loaded⟩ := installed
    rw [BlocksIpv6, ipv6Verdict, nftables]
    simp only [loaded, verdict_buildNftRuleset, outputVerdict, block, ipv6]
    cases packet.leavesThrough lo <;> cases packet.isTracked <;> simp

theorem Working.enableNft_ok
    (vpnServerIps : List IpAddr)
    (world : KsWorld) :
    ((KillSwitch.enableNft env vpnServerIps).run world).1 = none := by
  rw [KillSwitch.enableNft, run_bind, run_get_bind]
  rw [run_bind]
  have loads : ∀ table state, ((runNft env (.nftLoad table)).run state).1 = none := by
    intro table state
    change nftError? ((KillSwitch.runCommand env (.nftLoad table)).run state).1 = none
    rcases working.runCommand (.nftLoad table) rfl state with
      ⟨-, stderr, outcome⟩ | ⟨refused, -⟩
    · rw [outcome]
      rfl
    · exact absurd refused nofun
  rw [loads]
  rfl

end Installed

theorem Working.install_ok
    (working : Working env true)
    (world : KsWorld) :
    ((KillSwitch.install env).run world).1 = none := by
  have selects : ∀ state, ((KillSwitch.selectBackend env).run state).1 = .ok .nftables := by
    intro state
    rw [KillSwitch.selectBackend, run_bind, working.nftIsAvailable, if_pos rfl, run_pure]
  rw [KillSwitch.install, run_get_bind]
  rw [run_bind, run_bind, run_bind, run_bind, selects]
  dsimp only
  rw [run_bind, run_bind, KillSwitch.enableBackend, working.enableNft_ok]
  rfl

theorem Working.enableWorks (working : Working env true) :
    EnableWorks env := by
  intro world
  exact @enable_ensures world env (fun _ => True) (fun result _ => result = none)
    (fun _ => rfl) trivial (fun _ _ _ => trivial) (fun _ _ => rfl)
    (fun state _ => working.install_ok state)

end Working

/--
On a host on which every command works, an `enable` that reports success makes
the backend block an IPv6 packet exactly when it leaves a settled switch that
does so already, or installs rules and either nftables is not installed, the
packet leaves through the loopback interface, or it is not tracked.
-/
theorem enable_blocks_ipv6_iff
    {env : FwEnv}
    {nftInstalled : Bool}
    (working : Working env nftInstalled)
    {world : KsWorld}
    (block : world.ks.settings.ipv6Mode = .block)
    (ok : ((enable env).run world).1 = none)
    (around : Surroundings)
    {packet : Packet}
    (ipv6 : packet.isIpv6 = true) :
    BlocksIpv6 ((enable env).run world).2 around packet ↔
      Settled world ∧ BlocksIpv6 world around packet ∨
        ¬Settled world ∧
          (nftInstalled = false ∨ packet.leavesThrough lo = true ∨ packet.isTracked = false) := by
  rcases working.enable block ok with
    ⟨settled, firewall, ks⟩ | ⟨unsettled, installed⟩
  · have same :
        BlocksIpv6 ((enable env).run world).2 around packet ↔
          BlocksIpv6 world around packet := by
      rw [BlocksIpv6, BlocksIpv6, ipv6Verdict, ipv6Verdict, firewall, ks]
    rw [same]
    constructor
    · intro blocks
      exact .inl ⟨settled, blocks⟩
    · rintro (⟨-, blocks⟩ | ⟨unsettled, -⟩)
      · exact blocks
      · exact absurd settled unsettled
  · rw [installed.blocksIpv6_iff around ipv6]
    constructor
    · intro condition
      exact .inr ⟨unsettled, condition⟩
    · rintro (⟨settled, -⟩ | ⟨-, condition⟩)
      · exact absurd settled unsettled
      · exact condition

/-- A packet of a TCP connection to a server over a wireless interface. -/
def ipv6WebPacket (ctState : CtState) : Packet where
  addresses := .v6 0x20010db8000000000000000000000001 0x20010db8000000000000000000000002
  transport := .tcp 40000 443
  outInterface := "wlan0"
  ctState := ctState

theorem calmEnv_working :
    Working calmEnv true where
  commands _ _ _ := rfl
  nft _ _ := rfl

theorem enable_blocks_ipv6_newPacket :
    BlocksIpv6 ((enable calmEnv).run freshWorld).2 .quiet (ipv6WebPacket .new) :=
  (enable_blocks_ipv6_iff calmEnv_working rfl (by decide) .quiet
    rfl).mpr (.inr ⟨by rintro (busy | cooling | ⟨enabled, -⟩) <;> contradiction, .inr (.inr rfl)⟩)

theorem enable_accepts_tracked_ipv6 :
    ((enable calmEnv).run freshWorld).1 = none ∧
      freshWorld.ks.settings.ipv6Mode = .block ∧
      (ipv6WebPacket .established).leavesThrough lo = false ∧
      ipv6Verdict ((enable calmEnv).run freshWorld).2 .quiet
        (ipv6WebPacket .established) = .accept := by
  decide

end Shroud.KillSwitch
