import Shroud.FirewallCleanup
import Shroud.ScriptGrowth

namespace Shroud.KillSwitch

open Netfilter IptablesScript StateProgram

/-!
# Histories of installs

Every install cleans up, fills the tables by its script or leaves them to
nftables, and cleans up again when the script fails.  So a fact about the
tables is kept by whole histories of `enable` calls if cleaned tables have a
stronger fact from which a script falls back to the weaker one at most.
-/

/-- A fact about the firewall, unless a removal is stuck. -/
def OrStuck (holds : Firewall → Prop) (world : KsWorld) : Prop :=
  holds (firewallOf world) ∨ Stuck world

variable {world before : KsWorld}

theorem OrStuck.and
    {first second : Firewall → Prop}
    (one : OrStuck first world)
    (two : OrStuck second world) :
    OrStuck (fun firewall => first firewall ∧ second firewall) world := by
  rcases one with holds | stuck
  · exact two.imp_left fun also => ⟨holds, also⟩
  · exact .inr stuck

/-- The log grows and the tables of both tools stay. -/
abbrev TablesKept :=
  ViewKept Firewall.table

theorem FirewallKept.tablesKept
    {after : KsWorld}
    (kept : FirewallKept before after) :
    TablesKept before after :=
  ⟨kept.toAdvances, congrArg Firewall.table kept.firewall⟩

section Tables

variable (env : FwEnv)

theorem nftDelete_keepsTables :
    Keeps TablesKept (runCommand env .nftDelete) := by
  refine runCommand_keepsView env ?_
  intro before after executed
  obtain ⟨-, same⟩ := Option.ite_none_right_eq_some.mp executed
  rw [← Option.some.inj same]

theorem enableNft_keepsTables (vpnServerIps : List IpAddr) :
    Keeps TablesKept (enableNft env vpnServerIps) := by
  refine enableNft_follows (nftDelete_keepsTables env) ?_
    (fun world => (modifyKs_observes _ world).tablesKept) vpnServerIps
  intro ruleset
  refine runCommand_keepsView env ?_
  intro before after executed
  rw [← Option.some.inj executed]

end Tables

/-- One of the probes for nftables always succeeds. -/
def NftOnPath (env : FwEnv) : Prop :=
  ∃ attempt, ∀ number, env.fault number (.nftVersion attempt) = none

/-- Where nftables is found, no iptables script is run. -/
theorem NftOnPath.selectBackend
    {env : FwEnv}
    (onPath : NftOnPath env)
    (world : KsWorld) :
    ((selectBackend env).run world).1 = .ok .nftables := by
  obtain ⟨attempt, works⟩ := onPath
  have found (state : KsWorld) : ((succeeds env (.nftVersion attempt)).run state).1 = true := by
    refine (state.host.succeeded_outcomeOf env _).mpr ?_
    simp [Host.effectOf, FwCommand.exec, works state.host.issued]
  have last : ∀ attempt : Fin 3, attempt ≠ 0 → attempt ≠ 1 → attempt = 2 := by decide
  have available : ((nftIsAvailable env).run world).1 = true := by
    rw [nftIsAvailable, run_bind]
    split
    · rfl
    · next first =>
      rw [run_bind]
      split
      · rfl
      · next second =>
        obtain rfl := last attempt (fun same => first (same ▸ found _))
          (fun same => second (same ▸ found _))
        exact found _
  rw [KillSwitch.selectBackend, run_bind, available]
  rfl

/-- How an install moves between two facts about the firewall. -/
structure InstallCycle
    (env : FwEnv)
    (settings : KillSwitchSettings)
    (dirty clean : Firewall → Prop) : Prop where
  cleans : ∀ firewall, dirty firewall → clean (robustlyCleaned firewall)
  scripts :
    ¬NftOnPath env →
    ∀ world vpnServerIps,
      world.ks.settings = settings →
      clean (firewallOf world) →
      dirty (firewallOf ((runSingleScript env (currentScript env world vpnServerIps)).run world).2)
  tables : ∀ before after : Firewall, clean before → after.table = before.table → clean after
  weaken : ∀ firewall, clean firewall → dirty firewall

/-- Clean tables, before the rules of a backend are installed. -/
structure Ready
    (clean : Firewall → Prop)
    (settings : KillSwitchSettings)
    (world : KsWorld) : Prop where
  settings : world.ks.settings = settings
  tables : OrStuck clean world

/-- What histories of `enable` calls keep. -/
structure Contained (dirty clean : Firewall → Prop) (world : KsWorld) :
    Prop where
  tables : OrStuck dirty world
  nftables : world.ks.backend = .nftables → OrStuck clean world

section Cycle

variable
  {env : FwEnv}
  {settings : KillSwitchSettings}
  {dirty clean : Firewall → Prop}

theorem OrStuck.tablesKept
    (tables : ∀ before after : Firewall, clean before → after.table = before.table → clean after)
    {after : KsWorld}
    (holds : OrStuck clean before)
    (kept : TablesKept before after) :
    OrStuck clean after := by
  rcases holds with isClean | stuck
  · exact .inl (tables _ _ isClean kept.same)
  · exact .inr (stuck.mono kept.toAdvances)

theorem InstallCycle.contained
    (cycle : InstallCycle env settings dirty clean)
    (holds : OrStuck clean world) :
    Contained dirty clean world where
  tables := holds.imp (cycle.weaken _) id
  nftables _ := holds

theorem Contained.withKs
    (contained : Contained dirty clean world)
    {ks : KillSwitch}
    (backend : ks.backend = world.ks.backend) :
    Contained dirty clean { world with ks := ks } where
  tables := contained.tables
  nftables onNft := contained.nftables (backend.symm.trans onNft)

theorem Contained.left (contained : Contained dirty clean world) :
    Contained dirty clean (left world) :=
  contained.withKs rfl

theorem OrStuck.kept
    {holds : Firewall → Prop}
    {after : KsWorld}
    (orStuck : OrStuck holds before)
    (kept : FirewallKept before after) :
    OrStuck holds after := by
  rw [OrStuck, kept.firewall]
  exact orStuck.imp_right fun stuck => stuck.mono kept.toAdvances

theorem Contained.kept
    {after : KsWorld}
    (contained : Contained dirty clean before)
    (kept : FirewallKept before after)
    (backend : after.ks.backend = before.ks.backend) :
    Contained dirty clean after where
  tables := contained.tables.kept kept
  nftables onNft := (contained.nftables (backend.symm.trans onNft)).kept kept

theorem Ready.observed
    {α : Type}
    {program : StateM KsWorld α}
    (observes : Observes program)
    (settingsKept : Keeps (SameView fun world : KsWorld => world.ks.settings) program) :
    Ensures (Ready clean settings) program (fun _ => Ready clean settings) := by
  intro world ready
  exact ⟨(settingsKept world).trans ready.settings, ready.tables.kept (observes world)⟩

theorem robustIptablesCleanup_cleans
    (cleans : ∀ firewall, dirty firewall → clean (robustlyCleaned firewall)) :
    Ensures (OrStuck dirty) (robustIptablesCleanup env)
      (fun _ =>
        OrStuck fun firewall =>
          clean firewall ∧ firewall.nft = none) := by
  intro world before
  have effected := robustIptablesCleanup_performs env world
  rcases before with isDirty | stuck
  · rcases effected.firewall with same | stuck
    · refine .inl ?_
      rw [same]
      exact ⟨cleans _ isDirty, rfl⟩
    · exact .inr stuck
  · exact .inr (stuck.mono effected.toAdvances)

section

variable (cycle : InstallCycle env settings dirty clean)

include cycle

theorem InstallCycle.cleanup_ready :
    Ensures
      (fun world => world.ks.settings = settings ∧ OrStuck dirty world)
      (robustIptablesCleanup env)
      (fun _ => Ready clean settings) := by
  rintro world ⟨same, isDirty⟩
  constructor
  · rw [(robustIptablesCleanup_keeps env world).ks]
    exact same
  · exact (robustIptablesCleanup_cleans cycle.cleans world isDirty).imp_left And.left

theorem InstallCycle.enableNft (vpnServerIps : List IpAddr) :
    Ensures (Ready clean settings) (KillSwitch.enableNft env vpnServerIps)
      (fun _ => Contained dirty clean) := by
  intro world ready
  exact cycle.contained
    (ready.tables.tablesKept cycle.tables (enableNft_keepsTables env vpnServerIps world))

theorem InstallCycle.enableIptables
    (unused : ¬NftOnPath env)
    (vpnServerIps : List IpAddr) :
    Ensures
      (fun world =>
        Ready clean settings world ∧ world.ks.backend = .iptables)
      (KillSwitch.enableIptables env vpnServerIps)
      (fun _ => Contained dirty clean) := by
  refine enableIptables_ensures env ?_ ?_ cycle.cleanup_ready
    (fun _ _ ready => cycle.contained ready.tables)
    (Ready.observed (modifyKs_observes _) (fun _ => rfl)) (cycle.enableNft vpnServerIps)
  · rintro current world ⟨rfl, ready, iptables⟩
    have kept := runSingleScript_keeps env (currentScript env world vpnServerIps) world
    have isDirty :
        OrStuck dirty
          ((runSingleScript env (currentScript env world vpnServerIps)).run world).2 := by
      rcases ready.tables with isClean | stuck
      · exact .inl (cycle.scripts unused world vpnServerIps ready.settings isClean)
      · exact .inr (stuck.mono kept.toAdvances)
    split
    · refine ⟨isDirty, ?_⟩
      intro onNft
      rw [kept.ks, iptables] at onNft
      exact absurd onNft nofun
    · rw [kept.ks]
      exact ⟨ready.settings, isDirty⟩
  · rintro world ⟨same, isDirty⟩
    rw [(nftIsAvailable_keeps env world).ks]
    exact ⟨same, isDirty.kept (nftIsAvailable_observes env world)⟩

theorem InstallCycle.install :
    Ensures
      (fun world => world.ks.settings = settings ∧ OrStuck dirty world)
      (KillSwitch.install env)
      (fun _ => Contained dirty clean) := by
  refine .get_any ?_
  intro current
  refine .change (fun world => world.ks.settings = settings ∧ OrStuck dirty world)
    (fun _ before => before) ?_
  refine cycle.cleanup_ready.seq ?_
  refine .bind (Ready.observed (detectVpnEndpoints_observes env) (fun _ => rfl)) ?_
  intro scan
  have selects :
      Ensures (Ready clean settings) (selectBackend env)
        (fun selected world =>
          (selected = .ok .iptables → ¬NftOnPath env) ∧ Ready clean settings world) := by
    refine fun world ready => ⟨?_, ?_⟩
    · intro selected onPath
      rw [onPath.selectBackend] at selected
      cases selected
    · exact Ready.observed (selectBackend_observes env)
        (fun world => (selectBackend_keeps env world).settings) world ready
  refine selects.bind ?_
  intro selected
  refine .of_pure_pre ?_
  intro unused
  cases selected with
  | error error => exact .pure (fun _ ready => cycle.contained ready.tables)
  | ok backend =>
    refine .change (fun world => Ready clean settings world ∧ world.ks.backend = backend)
      (fun _ ready => ⟨⟨ready.settings, ready.tables⟩, rfl⟩) ?_
    have installed :
        Ensures
          (fun world =>
            Ready clean settings world ∧ world.ks.backend = backend)
          (enableBackend env backend scan.ips)
          (fun _ => Contained dirty clean) := by
      cases backend with
      | iptables => exact cycle.enableIptables (unused rfl) scan.ips
      | nftables =>
        exact (cycle.enableNft scan.ips).strengthen fun _ before => before.1
    refine installed.bind ?_
    intro result
    cases result with
    | some error => exact .pure (fun _ contained => contained)
    | none =>
      refine .bind ?_ fun _ => .pure (fun _ after => after)
      exact fun world contained => contained.withKs rfl

end

theorem InstallCycle.enable
    {world : KsWorld}
    (cycle : InstallCycle env world.ks.settings dirty clean)
    (contained : Contained dirty clean world) :
    Contained dirty clean ((KillSwitch.enable env).run world).2 := by
  have looks (backend : FirewallBackend) :
      Preserves
        (fun state => state.ks.settings = world.ks.settings ∧ Contained dirty clean state)
        (rulesExist env backend) := by
    rintro state ⟨settings, before⟩
    have sameKs := (rulesExist_keeps env backend state).ks
    refine ⟨?_, before.kept (rulesExist_observes env backend state) (congrArg _ sameKs)⟩
    rw [sameKs]
    exact settings
  refine @enable_ensures world env _ (fun _ => Contained dirty clean) (fun _ => contained)
    ⟨rfl, contained.withKs rfl⟩ looks ?_ ?_
  · exact fun _ looked => looked.2.left
  · exact fun state looked => (cycle.install state ⟨looked.1, looked.2.tables⟩).left

end Cycle

/-- Steps of a history: calls, changes of the configuration, and time. -/
inductive HistoryStep where
  | enable
  | configure
      (dnsMode : DnsMode)
      (ipv6Mode : Ipv6Mode)
      (blockDoh : Bool)
      (customDohBlocklist : List String)
  | wait (millis : Nat)

def HistoryStep.after (env : FwEnv) (world : KsWorld) :
    HistoryStep → KsWorld
  | .enable => ((KillSwitch.enable env).run world).2
  | .configure dnsMode ipv6Mode blockDoh customDohBlocklist =>
    { world with
      ks := world.ks.setConfig dnsMode ipv6Mode blockDoh
        customDohBlocklist }
  | .wait millis =>
    { world with host := { world.host with now := world.host.now + millis } }

theorem HistoryStep.after_contained
    {env : FwEnv}
    {dirty clean : Firewall → Prop}
    {step : HistoryStep}
    (cycle : step = .enable → InstallCycle env world.ks.settings dirty clean)
    (contained : Contained dirty clean world) :
    Contained dirty clean (step.after env world) := by
  cases step with
  | enable => exact (cycle rfl).enable contained
  | configure dnsMode ipv6Mode blockDoh customDohBlocklist =>
    exact contained.withKs rfl
  | wait millis => exact ⟨contained.tables, contained.nftables⟩

end Shroud.KillSwitch
