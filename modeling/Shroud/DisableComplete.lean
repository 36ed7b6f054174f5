import Shroud.InstallCycle
import Shroud.KillSwitchReport

namespace Shroud

open Netfilter IptablesScript StateProgram BoundedErase

/-!
# What a disable leaves behind

A history of `enable` calls puts rules into the firewall by its script and by
the nft ruleset; `disable` removes them by its own list.  The two lists agree
on the jump, on the chain, on the nft table and on five IPv6 rules.  Whatever
the script inserts beyond these, and whatever it inserts with a legacy tool,
stays.
-/

namespace KillSwitch

structure NoKillSwitch (firewall : Firewall) : Prop where
  chains : ∀ tool variant, (firewall.table tool variant).user .killSwitch = none
  jumps :
    ∀ tool variant, ∀ rule ∈ (firewall.table tool variant).output, rule.jumpsTo .killSwitch = false
  nft : firewall.nft = none

/-- The tables hold no more than they did before. -/
structure Restored (prior firewall : Firewall) : Prop where
  legacy : ∀ tool, firewall.table tool .legacy = prior.table tool .legacy
  chains : ∀ tool, (firewall.table tool .default).user .killSwitch = none
  rules :
    ∀ tool rule,
      (firewall.table tool .default).output.count rule ≤
        (prior.table tool .default).output.count rule

/-- A cleanup can remove what the tables hold beyond what they did before. -/
structure Removable (prior firewall : Firewall) : Prop where
  legacy : ∀ tool, firewall.table tool .legacy = prior.table tool .legacy
  rules :
    ∀ tool rule,
      (firewall.table tool .default).output.count rule ≤
        (prior.table tool .default).output.count rule +
          if rule ∈ removedPatterns tool then 100 else 0

variable {prior firewall : Firewall} {env : FwEnv} {world : KsWorld}

theorem Restored.removable (restored : Restored prior firewall) :
    Removable prior firewall where
  legacy := restored.legacy
  rules tool rule := Nat.le_add_right_of_le (restored.rules tool rule)

theorem Removable.cleaned
    (removable : Removable prior firewall)
    (noKillSwitch : NoKillSwitch prior) :
    Restored prior (robustlyCleaned firewall) := by
  have rules :
      ∀ tool rule,
        ((robustlyCleaned firewall).table tool .default).output.count rule ≤
          (prior.table tool .default).output.count rule := by
    intro tool rule
    have bound := removable.rules tool rule
    rw [robustlyCleaned_default, Table.scrub_output,
      count_eraseEach 100 (removedPatterns_nodup tool)]
    by_cases listed : rule ∈ removedPatterns tool
    · rw [if_pos listed] at bound ⊢
      omega
    · rw [if_neg listed] at bound ⊢
      exact bound
  refine ⟨?_, ?_, rules⟩
  · intro tool
    rw [robustlyCleaned_legacy, removable.legacy]
  · intro tool
    rw [robustlyCleaned_default]
    refine Table.scrub_user_mem tool _ (List.mem_singleton.mpr rfl) ?_
    intro rule member
    have count := rules tool rule
    rw [robustlyCleaned_default, Table.scrub_output] at count
    have present : rule ∈ (prior.table tool .default).output :=
      List.count_pos_iff.mp ((List.count_pos_iff.mpr member).trans_le count)
    exact noKillSwitch.jumps tool .default rule present

theorem count_le_of_listed
    {rules patterns : List XRule}
    (short : rules.length ≤ 100)
    (listed : ∀ rule ∈ rules, rule ∈ patterns)
    (rule : XRule) :
    rules.count rule ≤ if rule ∈ patterns then 100 else 0 := by
  by_cases pattern : rule ∈ patterns
  · rw [if_pos pattern]
    exact List.count_le_length.trans short
  · rw [if_neg pattern, List.count_eq_zero.mpr (fun member => pattern (listed rule member))]

/-- The networks for which the cleanup knows the rules of the Tunnel mode. -/
def OnlyLinkLocal (env : FwEnv) : Prop :=
  ∀ number, env.lanSubnets6 number = [KillSwitchRules.linkLocal6]

/--
The settings under which no script is run, or one that fills the default
tables only and inserts only what is removed.
-/
def SettingsFit (env : FwEnv) (settings : KillSwitchSettings) : Prop :=
  NftOnPath env ∨ NoLegacy env ∧ (settings.ipv6Mode = .tunnel → OnlyLinkLocal env)

theorem currentScript_listed
    (fits : world.ks.settings.ipv6Mode = .tunnel → OnlyLinkLocal env)
    (vpnServerIps : List IpAddr)
    (tool : Tool)
    (rule : XRule) :
    (insertedRules tool
        (currentScript env world vpnServerIps)).count rule ≤
      if rule ∈ removedPatterns tool then 100 else 0 := by
  rw [currentScript]
  cases tool with
  | iptables =>
    rw [insertedRules_iptables]
    exact count_le_of_listed (by decide) (by decide) rule
  | ip6tables =>
    rw [insertedRules_ip6tables]
    cases mode : world.ks.settings.ipv6Mode with
    | tunnel =>
      rw [fits mode]
      exact count_le_of_listed (by decide) (by decide) rule
    | _ =>
      rw [ipv6FrontRules]
      exact count_le_of_listed (by decide) (by decide) rule

theorem Restored.scripted
    {start : KsWorld}
    (restored : Restored prior (firewallOf start))
    (noLegacy : NoLegacy env)
    (fits : start.ks.settings.ipv6Mode = .tunnel → OnlyLinkLocal env)
    (vpnServerIps : List IpAddr) :
    Removable prior
      (firewallOf ((runSingleScript env (currentScript env start vpnServerIps)).run start).2) := by
  have grown := runSingleScript_grown env (currentScript env start vpnServerIps) start
  constructor
  · intro tool
    rw [grown.legacy noLegacy, restored.legacy]
  · intro tool rule
    have more := grown.rules tool .default rule
    have before := restored.rules tool rule
    have added := currentScript_listed fits vpnServerIps tool rule
    omega

theorem Restored.of_tables
    {before after : Firewall}
    (restored : Restored prior before)
    (tables : after.table = before.table) :
    Restored prior after := by
  constructor
  · rw [tables]
    exact restored.legacy
  · rw [tables]
    exact restored.chains
  · rw [tables]
    exact restored.rules

/-- Installs move between restored tables and tables that can be restored. -/
theorem restoredCycle
    (noKillSwitch : NoKillSwitch prior)
    {settings : KillSwitchSettings}
    (fits : SettingsFit env settings) :
    InstallCycle env settings (Removable prior) (Restored prior) where
  cleans _ removable := removable.cleaned noKillSwitch
  scripts unused world vpnServerIps same restored := by
    obtain ⟨noLegacy, linkLocal⟩ := fits.resolve_left unused
    refine restored.scripted noLegacy ?_ vpnServerIps
    rw [same]
    exact linkLocal
  tables _ _ restored tables := restored.of_tables tables
  weaken _ restored := restored.removable

def runHistory (env : FwEnv) (history : List HistoryStep) (world : KsWorld) :
    KsWorld :=
  history.foldl (HistoryStep.after env) world

/-- Every `enable` of the history finds settings that fit. -/
def HistoryFits (env : FwEnv) : List HistoryStep → KsWorld → Prop
  | [], _ => True
  | step :: rest, world =>
    (step = .enable → SettingsFit env world.ks.settings) ∧
      HistoryFits env rest (step.after env world)

theorem runHistory_contained
    (noKillSwitch : NoKillSwitch prior)
    {history : List HistoryStep}
    (fits : HistoryFits env history world)
    (contained : Contained (Removable prior) (Restored prior) world) :
    Contained (Removable prior) (Restored prior) (runHistory env history world) := by
  induction history generalizing world with
  | nil => exact contained
  | cons step rest ih =>
    apply ih fits.2
    apply HistoryStep.after_contained ?_ contained
    intro isEnable
    exact restoredCycle noKillSwitch (fits.1 isEnable)

/-- The tables are restored and the nft table is gone. -/
def NothingAdded (prior firewall : Firewall) : Prop :=
  Restored prior firewall ∧ firewall.nft = none

section Disabling

variable (env : FwEnv)

/-- Whether one of the probes finds nftables. -/
def nftFound : List FwCommand → Host → Bool
  | [], _ => false
  | probe :: rest, host =>
    (host.outcomeOf env probe).succeeded || nftFound rest (host.after env probe)

/-- Neither the legacy listing works, nor is nftables missing. -/
def fallsBackToNft (host : Host) : Bool :=
  !(host.outcomeOf env (.listAll .legacy)).succeeded &&
    nftFound env nftProbes (host.after env (.listAll .legacy))

/--
Whether a `disable` that is called now leaves the iptables rules alone: the
listing fails in a way that makes nftables the backend.
-/
def abandonsIptables (host : Host) : Bool :=
  match sudoError? (host.outcomeOf env (.listAll .default)) with
  | none => false
  | some error =>
    shouldFallbackToNft error && fallsBackToNft env (host.after env (.listAll .default))

theorem nftIsAvailable_found (world : KsWorld) :
    ((nftIsAvailable env).run world).1 = nftFound env nftProbes world.host := by
  have probed
      (probe : FwCommand)
      (rest : List FwCommand)
      (expected : Bool) :
      Ensures
        (fun state => nftFound env (probe :: rest) state.host = expected)
        (succeeds env probe)
        (fun found state =>
          (found || nftFound env rest state.host) = expected) :=
    fun _ before => before
  have spec
      (expected : Bool) :
      Ensures (fun state => nftFound env nftProbes state.host = expected)
        (nftIsAvailable env) (fun found _ => found = expected) := by
    refine (probed (.nftVersion 0) _ expected).bind ?_
    intro first
    cases first with
    | true => exact .pure (fun _ before => before)
    | false =>
      refine (probed (.nftVersion 1) _ expected).bind ?_
      intro second
      cases second with
      | true => exact .pure (fun _ before => before)
      | false =>
        intro state before
        have last := probed (.nftVersion 2) [] expected state before
        exact (Bool.or_false _).symm.trans last
  exact spec _ world rfl

variable {env} {prior : Firewall}

theorem cleanupNftTable_removes (world : KsWorld) :
    OrStuck (fun firewall => firewall.nft = none) ((cleanupNftTable env).run world).2 := by
  change OrStuck _ ((runCommand env .nftDelete).run world).2
  have effected := @runCommand_performs env .nftDelete rfl world
  rw [OrStuck]
  rcases effected.firewall with same | stuck
  · rw [same, FwCommand.attempt_nftDelete]
    exact .inl rfl
  · exact .inr stuck

theorem removeRules_complete (noKillSwitch : NoKillSwitch prior) :
    Ensures (Contained (Removable prior) (Restored prior)) (removeRules env)
      (fun _ => OrStuck (NothingAdded prior)) := by
  have flagged :
      Ensures (OrStuck (NothingAdded prior))
        (do
          modifyKs fun ks => { ks with enabled := false }
          pure none : StateM KsWorld (Option KillSwitchError))
        (fun _ => OrStuck (NothingAdded prior)) :=
    fun _ before => before
  refine .get ?_
  intro current
  cases backend : current.ks.backend with
  | iptables =>
    have cleaned :
        Ensures
          (fun world =>
            world = current ∧ Contained (Removable prior) (Restored prior) world)
          (robustIptablesCleanup env)
          (fun _ => OrStuck (NothingAdded prior)) :=
      fun world before =>
        robustIptablesCleanup_cleans
          (fun _ removable => removable.cleaned noKillSwitch) world
          before.2.tables
    exact cleaned.seq flagged
  | nftables =>
    have removed :
        Ensures
          (fun world =>
            world = current ∧ Contained (Removable prior) (Restored prior) world)
          (disableNft env) (fun _ => OrStuck (NothingAdded prior)) := by
      rintro world ⟨rfl, contained⟩
      have kept : Keeps TablesKept (cleanupNftTable env) :=
        cleanupNftTable_follows (nftDelete_keepsTables env)
      have restored :=
        (contained.nftables backend).tablesKept
          (fun _ _ holds tables => holds.of_tables tables) (kept world)
      exact restored.and (cleanupNftTable_removes world)
    refine removed.bind ?_
    intro result
    cases result with
    | some error => exact .pure (fun _ after => after)
    | none => exact flagged

section

variable
  (noKillSwitch : NoKillSwitch prior)
  (contained : Contained (Removable prior) (Restored prior) world)

include noKillSwitch contained

theorem disableWithoutIptables_complete
    {error : KillSwitchError}
    (stays : (shouldFallbackToNft error && fallsBackToNft env world.host) = false)
    (ok : ((disableWithoutIptables env error).run world).1 = none) :
    OrStuck (NothingAdded prior) ((disableWithoutIptables env error).run world).2 := by
  have removes := @removeRules_complete env prior noKillSwitch
  by_cases permission : error = .permission
  · rw [disableWithoutIptables, if_pos permission] at ok
    exact (Option.some_ne_none _ ok).elim
  by_cases fallback : shouldFallbackToNft error = true
  · rw [fallback, Bool.true_and, fallsBackToNft] at stays
    rw [disableWithoutIptables, if_neg permission, if_pos fallback, run_bind]
    have listed : Observes (checkIptablesLegacyAccess env) :=
      succeeds_follows (runCommand_observes env rfl)
    have afterList :
        Contained (Removable prior) (Restored prior)
          ((checkIptablesLegacyAccess env).run world).2 :=
      contained.kept (listed world) rfl
    have asked :
        ((checkIptablesLegacyAccess env).run world).1 =
          (world.host.outcomeOf env (.listAll .legacy)).succeeded :=
      rfl
    rw [asked]
    by_cases legacy : (world.host.outcomeOf env (.listAll .legacy)).succeeded = true
    · rw [if_pos legacy, run_bind]
      exact removes _ (afterList.withKs rfl)
    · rw [Bool.eq_false_iff.mpr legacy, Bool.not_false, Bool.true_and] at stays
      rw [if_neg legacy, run_bind, nftIsAvailable_found]
      have unfound :
          nftFound env nftProbes ((checkIptablesLegacyAccess env).run world).2.host = false :=
        stays
      rw [unfound, if_neg Bool.false_ne_true]
      exact removes _ (afterList.kept (nftIsAvailable_observes env _)
        (congrArg KillSwitch.backend (nftIsAvailable_keeps env _).ks))
  · rw [disableWithoutIptables, if_neg permission, if_neg fallback]
    exact removes world contained

theorem uninstall_complete
    (stays : world.ks.backend = .iptables → abandonsIptables env world.host = false)
    (ok : ((uninstall env).run world).1 = none) :
    OrStuck (NothingAdded prior) ((uninstall env).run world).2 := by
  have removes := @removeRules_complete env prior noKillSwitch
  have started : Contained (Removable prior) (Restored prior) (stamped world) :=
    contained.withKs rfl
  cases backend : world.ks.backend with
  | nftables =>
    rw [uninstall_nftables backend]
    exact removes _ started
  | iptables =>
    have usable := stays backend
    have listed : Observes (checkSudoAccess env) := checkSudoAccess_observes env
    have afterList :
        Contained (Removable prior) (Restored prior)
          ((checkSudoAccess env).run (stamped world)).2 :=
      started.kept (listed _) rfl
    have asked :
        ((checkSudoAccess env).run (stamped world)).1 =
          sudoError? (world.host.outcomeOf env (.listAll .default)) :=
      rfl
    rw [abandonsIptables] at usable
    cases access :
        sudoError? (world.host.outcomeOf env (.listAll .default)) with
    | none =>
      rw [uninstall_iptables backend (asked.trans access)]
      exact removes _ afterList
    | some error =>
      rw [access] at usable
      rw [uninstall_iptables backend (asked.trans access)] at ok ⊢
      exact disableWithoutIptables_complete noKillSwitch afterList usable ok

theorem disable_complete
    (idle : world.ks.toggleInProgress = false)
    (cooledDown : world.ks.inCooldown world.host.now = false)
    (stays : world.ks.backend = .iptables → abandonsIptables env world.host = false)
    (ok : ((disable env).run world).1 = none) :
    OrStuck (NothingAdded prior) ((disable env).run world).2 := by
  rw [disable_uninstalls env idle cooledDown] at ok ⊢
  exact uninstall_complete noKillSwitch (contained.withKs rfl) stays ok

end

end Disabling

/-- No chain, jump, inserted IPv6 rule or nft table is left. -/
structure NothingLeft (prior firewall : Firewall) : Prop extends
    NoKillSwitch firewall where
  rules6 :
    ∀ variant rule,
      (firewall.table .ip6tables variant).output.count rule ≤
        (prior.table .ip6tables variant).output.count rule

theorem NothingAdded.nothingLeft
    (nothingAdded : NothingAdded prior firewall)
    (noKillSwitch : NoKillSwitch prior) :
    NothingLeft prior firewall := by
  obtain ⟨restored, noTable⟩ := nothingAdded
  have rules :
      ∀ tool variant rule,
        (firewall.table tool variant).output.count rule ≤
          (prior.table tool variant).output.count rule := by
    intro tool variant rule
    cases variant with
    | default => exact restored.rules tool rule
    | legacy => rw [restored.legacy]
  refine ⟨⟨?_, ?_, noTable⟩, rules .ip6tables⟩
  · intro tool variant
    cases variant with
    | default => exact restored.chains tool
    | legacy =>
      rw [restored.legacy]
      exact noKillSwitch.chains tool .legacy
  · intro tool variant rule member
    have present : rule ∈ (prior.table tool variant).output :=
      List.count_pos_iff.mp ((List.count_pos_iff.mpr member).trans_le (rules tool variant rule))
    exact noKillSwitch.jumps tool variant rule present

theorem contained_of_noKillSwitch
    {world : KsWorld}
    (noKillSwitch : NoKillSwitch (firewallOf world)) :
    Contained (Removable (firewallOf world)) (Restored (firewallOf world)) world := by
  have restored : Restored (firewallOf world) (firewallOf world) :=
    ⟨fun _ => rfl, fun tool => noKillSwitch.chains tool .default, fun _ _ => Nat.le_refl _⟩
  exact ⟨.inl restored.removable, fun _ => .inl restored⟩

theorem runHistory_idle
    (env : FwEnv)
    (history : List HistoryStep)
    (idle : world.ks.toggleInProgress = false) :
    (runHistory env history world).ks.toggleInProgress = false := by
  induction history generalizing world with
  | nil => exact idle
  | cons step rest ih =>
    refine ih ?_
    cases step with
    | enable => exact guardToggle_idle (enableInner env) idle
    | _ => exact idle

/--
A `disable` that returns Ok leaves nothing behind, provided that each `enable`
found nftables, or no legacy tool and under the Tunnel mode only link-local as
an IPv6 network, and that `disable` is called outside the cooldown while its
backend is still usable.
-/
theorem disable_leaves_nothing
    {env : FwEnv}
    {dnsMode : DnsMode}
    {ipv6Mode : Ipv6Mode}
    {blockDoh : Bool}
    {customDohBlocklist : List String}
    {host : Host}
    (noKillSwitch : NoKillSwitch host.firewall)
    {history : List HistoryStep}
    {world : KsWorld}
    (reached :
      world =
        runHistory env history ⟨.withConfig dnsMode ipv6Mode blockDoh customDohBlocklist, host⟩)
    (fits :
      HistoryFits env history ⟨.withConfig dnsMode ipv6Mode blockDoh customDohBlocklist, host⟩)
    (cooledDown : world.ks.inCooldown world.host.now = false)
    (stays : world.ks.backend = .iptables → abandonsIptables env world.host = false)
    (ok : ((disable env).run world).1 = none)
    (removals : ¬Stuck ((disable env).run world).2) :
    NothingLeft host.firewall (firewallOf ((disable env).run world).2) := by
  subst reached
  have fresh :
      Contained (Removable host.firewall) (Restored host.firewall)
        ⟨.withConfig dnsMode ipv6Mode blockDoh customDohBlocklist, host⟩ :=
    @contained_of_noKillSwitch ⟨_, host⟩ noKillSwitch
  have contained := runHistory_contained noKillSwitch fits fresh
  have complete :=
    disable_complete noKillSwitch contained (runHistory_idle env history rfl) cooledDown stays ok
  exact (complete.resolve_right removals).nothingLeft noKillSwitch

theorem not_stuck_of_log
    (clear :
      (world.host.log.all fun entry =>
        !(entry.command.removes && entry.effect == .faulted)) = true) :
    ¬Stuck world := by
  rintro ⟨command, removes, member⟩
  have entry := List.all_eq_true.mp clear _ member
  simp [removes] at entry

/-- A host with the default iptables tools only, and its IPv6 networks. -/
def iptablesEnv (lanSubnets6 : List Cidr6) : FwEnv :=
  { calmEnv with
    fault := fun _ command =>
      match command with
      | .nftVersion _ => some (.exit ⟨1, one_isFailure⟩)
      | .legacyVersion _ _ => some (.exit ⟨1, one_isFailure⟩)
      | _ => none
    lanSubnets6 := fun _ => lanSubnets6 }

def tunnelWorld : KsWorld :=
  ⟨.withConfig .tunnel .tunnel true [], freshWorld.host⟩

theorem freshWorld_noKillSwitch :
    NoKillSwitch freshWorld.host.firewall where
  chains _ _ := rfl
  jumps _ _ _ member := absurd member List.not_mem_nil
  nft := rfl

def briefHistory : List HistoryStep :=
  [.enable, .wait 1000]

theorem disable_leaves_nothing_linkLocal :
    NothingLeft tunnelWorld.host.firewall
      (firewallOf ((disable
        (iptablesEnv [KillSwitchRules.linkLocal6])).run
          (runHistory (iptablesEnv [KillSwitchRules.linkLocal6]) briefHistory tunnelWorld)).2) :=
  disable_leaves_nothing freshWorld_noKillSwitch rfl
    ⟨fun _ => .inr ⟨fun _ _ _ => rfl, fun _ _ => rfl⟩, nofun, trivial⟩ (by decide +kernel)
    (fun _ => by decide +kernel) (by decide +kernel)
    (not_stuck_of_log (by decide +kernel))

/-- A unique local network, `fd00::/8`. -/
def uniqueLocal6 : Cidr6 where
  addr := Ipv6Addr.ofEnds 0xfd00 0
  prefixLen := 8

def uniqueLocalEnv : FwEnv :=
  iptablesEnv [uniqueLocal6, KillSwitchRules.linkLocal6]

/-- The rule for a detected unique local network outlives `disable`. -/
theorem disable_leaves_lan_rule :
    ((disable uniqueLocalEnv).run (runHistory uniqueLocalEnv briefHistory tunnelWorld)).1 = none ∧
      (((disable uniqueLocalEnv).run
          (runHistory uniqueLocalEnv briefHistory tunnelWorld)).2.host.log.all fun entry =>
        entry.effect != .faulted || !entry.command.removes) = true ∧
      (tunnelWorld.host.firewall.table .ip6tables .default).output = [] ∧
      ((firewallOf ((disable uniqueLocalEnv).run
          (runHistory uniqueLocalEnv briefHistory tunnelWorld)).2).table .ip6tables
            .default).output =
        [.rule [.dst (.v6 uniqueLocal6)] .accept] := by
  decide +kernel

end KillSwitch

end Shroud
