import Shroud.ScriptGrowth

namespace Shroud.KillSwitch

open Netfilter IptablesScript NftRuleset StateProgram

/-!
# Whole runs of the kill switch

A run is any sequence of `enable`, `disable`, `update` and `sync_state` calls
with arbitrary pauses.  The invariant of a run has a flag part, which follows
from the specifications of the operations, and a firewall part: a jump to the
kill switch chain of the default `iptables` leads into a complete chain.
-/

/-- A table holds a complete kill switch chain. -/
def ChainComplete (table : Table) : Prop :=
  ∃ settings vpnIps lanSubnets,
    table.user .killSwitch = some (chainRules settings vpnIps lanSubnets)

/-- The blocking rules of at least one backend are installed. -/
def Filtering (firewall : Firewall) : Prop :=
  firewall.nft.isSome = true ∨
    ∃ variant,
      jumpRule ∈ (firewall.table .iptables variant).output ∧
        ChainComplete (firewall.table .iptables variant)

/-- A jump of the default `iptables` leads into a complete chain. -/
def JumpLeads (world : KsWorld) : Prop :=
  jumpRule ∈ outputOf world → ChainComplete ((firewallOf world).table .iptables .default)

variable {world before : KsWorld} {start : Nat}

theorem jumpLeads_of_none (none : jumpCount world = 0) :
    JumpLeads world := by
  intro present
  exact absurd present (List.count_eq_zero.mp none)

/-- The commands since a point of the log built chains of one variant. -/
def OneVariantSince (start : Nat) (variant : Variant) (world : KsWorld) :
    Prop :=
  OneVariant variant (world.host.log.drop start)

/-- A point from which the cleanup removes every jump. -/
structure Cleanable (start : Nat) (world : KsWorld) : Prop where
  jumps : jumpCount world ≤ 100 ∨ JumpStuck world
  log : start ≤ world.host.log.length

/-- A point at which every jump is removed. -/
structure Cleared (start : Nat) (world : KsWorld) : Prop where
  jumps : JumpsGone world
  log : start ≤ world.host.log.length

section

variable {after : KsWorld}

theorem FirewallKept.outputKept (kept : FirewallKept before after) :
    OutputKept before after where
  toAdvances := kept.toAdvances
  same := by rw [kept.firewall]

theorem IptablesKept.outputKept (kept : IptablesKept before after) :
    OutputKept before after where
  toAdvances := kept.toAdvances
  same := congrArg Table.output (congrFun kept.same .default)

theorem Cleanable.mono
    (cleanable : Cleanable start before)
    (kept : OutputKept before after) :
    Cleanable start after where
  jumps := by
    rcases cleanable.jumps with few | stuck
    · refine .inl ?_
      rw [jumpCount, kept.output]
      exact few
    · exact .inr (stuck.mono kept.toAdvances)
  log := cleanable.log.trans kept.log.length_le

theorem Cleared.mono
    (cleared : Cleared start before)
    (kept : OutputKept before after) :
    Cleared start after where
  jumps := cleared.jumps.mono kept
  log := cleared.log.trans kept.log.length_le

end

/-- The state of the firewall after an attempt to install the rules. -/
structure Secured
    (result : Option KillSwitchError)
    (world : KsWorld) : Prop where
  leads : JumpLeads world
  jumps : jumpCount world ≤ 1
  filters : result = none → Filtering (firewallOf world)

/-- Installing secures the firewall unless something goes wrong unseen. -/
def SecuredSince
    (start : Nat)
    (result : Option KillSwitchError)
    (world : KsWorld) : Prop :=
  JumpStuck world ∨ ∀ variant, OneVariantSince start variant world → Secured result world

theorem SecuredSince.withKs
    {result : Option KillSwitchError}
    (secured : SecuredSince start result world)
    (ks : KillSwitch) :
    SecuredSince start result { world with ks := ks } := by
  rcases secured with stuck | secured
  · exact .inl stuck
  · refine .inr ?_
    intro variant oneVariant
    have state := secured variant oneVariant
    exact ⟨state.leads, state.jumps, state.filters⟩

theorem Cleared.secured
    {result : Option KillSwitchError}
    (cleared : Cleared start world)
    (filters : result = none → Filtering (firewallOf world)) :
    SecuredSince start result world := by
  rcases cleared.jumps with none | stuck
  · refine .inr ?_
    intro variant _
    exact ⟨jumpLeads_of_none none, by omega, filters⟩
  · exact .inl stuck

section Installing

variable (env : FwEnv) (start : Nat)

theorem robustIptablesCleanup_clears :
    Ensures (Cleanable start) (robustIptablesCleanup env) (fun _ => Cleared start) := by
  intro world cleanable
  have advances := (robustIptablesCleanup_keeps env world).toAdvances
  refine ⟨?_, cleanable.log.trans advances.log.length_le⟩
  rcases cleanable.jumps with few | stuck
  · exact robustIptablesCleanup_jumpsGone env world few
  · exact .inr (stuck.mono advances)

theorem enableNft_secures (vpnServerIps : List IpAddr) :
    Ensures (Cleared start) (enableNft env vpnServerIps) (SecuredSince start) := by
  intro world cleared
  have kept := enableNft_sparesIptables env vpnServerIps world
  refine (cleared.mono kept.outputKept).secured ?_
  intro ok
  exact .inl (enableNft_nft env vpnServerIps world trivial ok)

section

variable
  {settings : KillSwitchSettings}
  {vpnIps : List IpAddr}
  {lanSubnets : List Cidr4}
  {lanSubnets6 : List Cidr6}

theorem filtering_of_chainInstalled
    {tables : Tables}
    {table : Table}
    (same : table = chainInstalled settings vpnIps lanSubnets tables .iptables) :
    jumpRule ∈ table.output ∧ ChainComplete table := by
  subst same
  refine ⟨?_, settings, vpnIps, lanSubnets, ?_⟩
  · simp [chainInstalled]
  · simp [chainInstalled]

theorem runSingleScript_secures
    (cleared : Cleared start world)
    (ok :
      ((runSingleScript env
        (buildCompleteScript settings vpnIps lanSubnets lanSubnets6)).run world).1 = none) :
    SecuredSince start none
      ((runSingleScript env
        (buildCompleteScript settings vpnIps lanSubnets lanSubnets6)).run world).2 := by
  have advances :=
    (runSingleScript_keeps env
      (buildCompleteScript settings vpnIps lanSubnets lanSubnets6)
      world).toAdvances
  rcases cleared.jumps with none | stuck
  · refine .inr ?_
    intro variant oneVariant
    obtain ⟨entries, logged, installs⟩ := runSingleScript_complete env ok
    have sinceScript : OneVariant variant entries := by
      intro command other builds member
      refine oneVariant command other builds ?_
      have later : (world.host.log ++ entries).drop start <+:
          ((runSingleScript env (buildCompleteScript settings vpnIps
            lanSubnets lanSubnets6)).run world).2.host.log.drop start :=
        logged.drop start
      refine later.subset ?_
      rw [List.drop_append_of_le_length cleared.log]
      exact List.mem_append_right _ member
    have tables := installs variant sinceScript
    have installed :=
      filtering_of_chainInstalled ((congrFun tables variant).trans (Function.update_self ..))
    refine ⟨?_, ?_, fun _ => .inr ⟨variant, installed⟩⟩
    · intro present
      by_cases default : variant = .default
      · subst default
        exact installed.2
      · have untouched :
            ipTables ((runSingleScript env (buildCompleteScript settings
              vpnIps lanSubnets lanSubnets6)).run world).2 .default =
              ipTables world .default :=
          (congrFun tables .default).trans (Function.update_of_ne (Ne.symm default) ..)
        have there : jumpRule ∈ outputOf world :=
          (congrArg (jumpRule ∈ Table.output ·) untouched).mp present
        exact absurd there (List.count_eq_zero.mp none)
    · have jumps := runSingleScript_jumpCount env settings vpnIps lanSubnets lanSubnets6 world
      omega
  · exact .inl (stuck.mono advances)

theorem runSingleScript_cleanable (cleared : Cleared start world) :
    Cleanable start
      ((runSingleScript env
        (buildCompleteScript settings vpnIps lanSubnets lanSubnets6)).run world).2 := by
  have advances :=
    (runSingleScript_keeps env
      (buildCompleteScript settings vpnIps lanSubnets lanSubnets6)
      world).toAdvances
  refine ⟨?_, cleared.log.trans advances.log.length_le⟩
  rcases cleared.jumps with none | stuck
  · have jumps := runSingleScript_jumpCount env settings vpnIps lanSubnets lanSubnets6 world
    exact .inl (by omega)
  · exact .inr (stuck.mono advances)

end

theorem observes_cleared
    {α : Type}
    {program : StateM KsWorld α}
    (observes : Observes program) :
    Ensures (Cleared start) program (fun _ => Cleared start) :=
  fun world cleared => cleared.mono (observes world).outputKept

/-- A script has secured the firewall, or left what can be cleaned up. -/
def ScriptEnds (start : Nat) (result : Option KillSwitchError)
    (world : KsWorld) : Prop :=
  match result with
  | none => SecuredSince start none world
  | some _ => Cleanable start world

theorem enableIptables_secures (vpnServerIps : List IpAddr) :
    Ensures (Cleared start) (enableIptables env vpnServerIps) (SecuredSince start) := by
  have script (current : KsWorld) :
      Ensures (fun world => world = current ∧ Cleared start world)
        (runSingleScript env (currentScript env current vpnServerIps))
        (ScriptEnds start) := by
    rintro world ⟨-, cleared⟩
    cases result : ((runSingleScript env (currentScript env current vpnServerIps)).run world).1 with
    | none => exact runSingleScript_secures env start cleared result
    | some error => exact runSingleScript_cleanable env start cleared
  exact enableIptables_ensures env script
    (fun world cleanable => cleanable.mono (nftIsAvailable_observes env world).outputKept)
    (robustIptablesCleanup_clears env start) (fun _ _ cleared => cleared.secured nofun)
    (observes_cleared start (modifyKs_observes _)) (enableNft_secures env start vpnServerIps)

theorem enableBackend_secures
    (backend : FirewallBackend)
    (vpnServerIps : List IpAddr) :
    Ensures (Cleared start) (enableBackend env backend vpnServerIps) (SecuredSince start) := by
  cases backend with
  | iptables => exact enableIptables_secures env start vpnServerIps
  | nftables => exact enableNft_secures env start vpnServerIps

theorem install_secures :
    Ensures (Cleanable start) (install env) (SecuredSince start) := by
  refine .get_any ?_
  intro current
  refine .seq (show Ensures _ _ (fun _ => Cleanable start) from
    fun world before => before.mono (modifyKs_observes _ world).outputKept) ?_
  refine .seq (robustIptablesCleanup_clears env start) ?_
  refine .bind (observes_cleared start (detectVpnEndpoints_observes env)) ?_
  intro scan
  refine .bind (observes_cleared start (selectBackend_observes env)) ?_
  intro selected
  cases selected with
  | error error => exact .pure (fun _ cleared => cleared.secured nofun)
  | ok backend =>
    refine .seq (observes_cleared start (modifyKs_observes _)) ?_
    refine .bind (enableBackend_secures env start backend scan.ips) ?_
    intro result
    cases result with
    | some error => exact .pure (fun _ secured => secured)
    | none =>
      intro world secured
      exact secured.withKs _

end Installing

/--
What an attempt to remove the rules leaves: no jump, or the iptables tables of
the start; and the whole firewall of the start if it failed.
-/
structure Undone
    (before : KsWorld)
    (result : Option KillSwitchError)
    (after : KsWorld) : Prop where
  jumps : JumpsGone after ∨ ipTables after = ipTables before
  failed : result ≠ none → firewallOf after = firewallOf before

theorem FirewallKept.undone
    {after : KsWorld}
    (kept : FirewallKept before after)
    (result : Option KillSwitchError) :
    Undone before result after where
  jumps := .inr (by rw [ipTables, kept.firewall])
  failed := fun _ => kept.firewall

section Uninstalling

variable (env : FwEnv) (start : KsWorld)

theorem cleanupNftTable_undone (kept : FirewallKept start world) :
    Undone start ((cleanupNftTable env).run world).1 ((cleanupNftTable env).run world).2 where
  jumps := by
    have spared := cleanupNftTable_follows (runCommand_sparesIptables env rfl) world
    refine .inr (spared.same.trans ?_)
    rw [ipTables, kept.firewall]
  failed := by
    intro failed
    have unchanged := cleanupNftTable_failed env failed
    exact unchanged.trans kept.firewall

theorem removeRules_undone (few : jumpCount start ≤ 100) :
    Ensures (FirewallKept start) (removeRules env) (Undone start) := by
  refine .get_any ?_
  intro current
  cases current.ks.backend with
  | iptables =>
    have cleaned : Ensures (FirewallKept start) (robustIptablesCleanup env) (fun _ => JumpsGone) :=
      (robustIptablesCleanup_jumpsGone env).strengthen (fun _ kept => by
          rw [jumpCount, kept.outputKept.output]
          exact few)
    refine cleaned.bind ?_
    intro _ world gone
    exact ⟨.inl gone, fun failed => (failed rfl).elim⟩
  | nftables =>
    have cleaned : Ensures (FirewallKept start) (disableNft env) (Undone start) :=
      fun _ kept => cleanupNftTable_undone env start kept
    refine cleaned.bind ?_
    intro result
    cases result with
    | some error => exact .pure (fun _ undone => undone)
    | none =>
      intro world undone
      exact ⟨undone.jumps, fun failed => (failed rfl).elim⟩

theorem disableWithoutIptables_undone
    (few : jumpCount start ≤ 100)
    (error : KillSwitchError) :
    Ensures (FirewallKept start) (disableWithoutIptables env error) (Undone start) := by
  refine .either (.pure (fun _ kept => kept.undone _)) ?_
  refine .either ?_ (removeRules_undone env start few)
  have listed : Observes (checkIptablesLegacyAccess env) :=
    succeeds_follows (runCommand_observes env rfl)
  refine .bind (listed.ensures start) ?_
  intro legacy
  refine .either ?_ ?_
  · refine .seq ((modifyKs_observes _).ensures start) ?_
    exact removeRules_undone env start few
  refine .bind ((nftIsAvailable_observes env).ensures start) ?_
  intro available
  refine .either ?_ (removeRules_undone env start few)
  refine .seq ((modifyKs_observes _).ensures start) ?_
  exact removeRules_undone env start few

theorem uninstall_undone (few : jumpCount start ≤ 100) :
    Ensures (FirewallKept start) (uninstall env) (Undone start) := by
  refine .get ?_
  intro current
  refine .seq (Ensures.strengthen
    ((modifyKs_observes _).ensures start) (fun _ before => before.2)) ?_
  cases current.ks.backend with
  | nftables => exact removeRules_undone env start few
  | iptables =>
    refine .bind ((checkSudoAccess_observes env).ensures start) ?_
    intro access
    cases access with
    | none => exact removeRules_undone env start few
    | some error => exact disableWithoutIptables_undone env start few error

end Uninstalling

/-- The invariant between two calls. -/
structure Sound (world : KsWorld) : Prop where
  idle : world.ks.toggleInProgress = false
  jumps : jumpCount world ≤ 100
  leads : JumpLeads world
  filters : world.ks.enabled = true → Filtering (firewallOf world)

theorem Sound.kept
    {after : KsWorld}
    (sound : Sound before)
    (kept : firewallOf after = firewallOf before)
    (idle : after.ks.toggleInProgress = false)
    (enabled : after.ks.enabled = true → before.ks.enabled = true) :
    Sound after where
  idle := idle
  jumps := by
    rw [jumpCount, outputOf, kept]
    exact sound.jumps
  leads := by
    rw [JumpLeads, outputOf, kept]
    exact sound.leads
  filters := by
    intro isEnabled
    rw [kept]
    exact sound.filters (enabled isEnabled)

section Steps

variable (env : FwEnv)

/-- The firewall and the flag are those of the start. -/
structure Untouched (before after : KsWorld) : Prop extends
    FirewallKept before after where
  enabled : after.ks.enabled = before.ks.enabled

theorem enable_secures (few : jumpCount world ≤ 100) :
    (firewallOf ((enable env).run world).2 = firewallOf world ∧
      ((enable env).run world).2.ks.enabled = world.ks.enabled) ∨
    SecuredSince world.host.log.length ((enable env).run world).1 ((enable env).run world).2 := by
  have looks (backend : FirewallBackend) :
      Preserves (Untouched (entered world)) (rulesExist env backend) := by
    intro state kept
    refine ⟨IsTrans.trans _ _ _ kept.toViewKept (rulesExist_observes env _ state), ?_⟩
    rw [(rulesExist_keeps env backend state).ks]
    exact kept.enabled
  have cleanable : Cleanable world.host.log.length (entered world) := ⟨.inl few, Nat.le_refl _⟩
  refine @enable_ensures world env _
    (fun result state =>
      (firewallOf state = firewallOf world ∧ state.ks.enabled = world.ks.enabled) ∨
        SecuredSince world.host.log.length result state)
    (fun _ => .inl ⟨rfl, rfl⟩) ⟨Std.Refl.refl _, rfl⟩ looks ?_ ?_
  · exact fun state untouched => .inl ⟨untouched.same, untouched.enabled⟩
  · intro state untouched
    have outputKept := FirewallKept.outputKept untouched.toViewKept
    exact .inr ((install_secures env _ state (cleanable.mono outputKept)).withKs _)

variable {variant : Variant}

theorem enable_sound
    (sound : Sound world)
    (unstuck : ¬JumpStuck ((enable env).run world).2)
    (oneVariant : OneVariantSince world.host.log.length variant ((enable env).run world).2)
    (refreshed : world.ks.enabled = true → ((enable env).run world).1 = none) :
    Sound ((enable env).run world).2 := by
  have idle := guardToggle_idle (enableInner env) sound.idle
  rcases enable_secures env sound.jumps with
    ⟨kept, sameFlag⟩ | secured
  · exact sound.kept kept idle fun enabled => sameFlag ▸ enabled
  · rcases secured with stuck | secured
    · exact absurd stuck unstuck
    · have state := secured variant oneVariant
      refine ⟨idle, state.jumps.trans (by omega), state.leads, ?_⟩
      intro enabled
      refine state.filters ?_
      cases result : ((enable env).run world).1 with
      | none => rfl
      | some error =>
        -- A failed call has not written the flag, so it was set before.
        rcases enable_spec env world with
          ⟨skipped, -⟩ | ⟨-, -, ran⟩
        · rw [← result, skipped.ok]
        · have before := (ran.failed error result).symm.trans enabled
          rw [← result, refreshed before]

theorem disable_undone
    (idle : world.ks.toggleInProgress = false)
    (few : jumpCount world ≤ 100) :
    (disable env).run world = (none, world) ∨
      (Undone world ((disable env).run world).1
          ((disable env).run world).2 ∧
        Ran false world ((disable env).run world).1 ((disable env).run world).2) := by
  cases cooling : world.ks.inCooldown world.host.now with
  | true => exact .inl (disable_cooling env idle cooling)
  | false =>
    refine .inr ⟨?_, ?_⟩
    · rw [disable_uninstalls env idle cooling]
      have undone := uninstall_undone env (entered world) few (entered world) (Std.Refl.refl _)
      exact ⟨undone.jumps, undone.failed⟩
    · exact disable_ran env idle cooling

theorem disable_sound
    (sound : Sound world)
    (unstuck : ¬JumpStuck ((disable env).run world).2) :
    Sound ((disable env).run world).2 := by
  have idle := guardToggle_idle (disableInner env) sound.idle
  rcases disable_undone env sound.idle sound.jumps with
    nothing | ⟨undone, ran⟩
  · rw [nothing]
    exact sound
  · have filters :
        ((disable env).run world).2.ks.enabled = true →
          Filtering (firewallOf ((disable env).run world).2) := by
      intro enabled
      cases result : ((disable env).run world).1 with
      | none => exact absurd enabled (by simp [ran.done result])
      | some error =>
        rw [undone.failed (by simp [result])]
        refine sound.filters ?_
        rw [← ran.failed error result]
        exact enabled
    rcases undone.jumps with (none | stuck) | tables
    · exact ⟨idle, by omega, jumpLeads_of_none none, filters⟩
    · exact absurd stuck unstuck
    · have sameOutput : outputOf ((disable env).run world).2 = outputOf world :=
        congrArg Table.output (congrFun tables .default)
      refine ⟨idle, ?_, ?_, filters⟩
      · rw [jumpCount, sameOutput]
        exact sound.jumps
      · intro present
        rw [sameOutput] at present
        exact (congrArg ChainComplete (congrFun tables .default)).mpr (sound.leads present)

/-- What a successful look for the rules of a backend has seen. -/
def RulesSeen (world : KsWorld) : FirewallBackend → Prop
  | .iptables => jumpRule ∈ outputOf world
  | .nftables => (firewallOf world).nft.isSome = true

theorem rulesExist_sees
    (start : KsWorld)
    (backend : FirewallBackend) :
    Ensures (FirewallKept start) (rulesExist env backend)
      (fun found world =>
        FirewallKept start world ∧ (found = true → RulesSeen start backend)) := by
  intro world kept
  refine ⟨(rulesExist_observes env backend).ensures start world kept, ?_⟩
  intro found
  cases backend with
  | iptables =>
    rcases runCommand_firewall env
      (.xtables .iptables .default (.check .output jumpRule)) world with
      ⟨executed, -, -⟩ | ⟨-, failed, -⟩
    · obtain ⟨table, ran, -⟩ := Option.map_eq_some_iff.mp executed
      obtain ⟨member, -⟩ := Option.ite_none_right_eq_some.mp ran
      rw [RulesSeen, ← kept.outputKept.output]
      exact member
    · exact absurd (found.symm.trans failed) (by simp)
  | nftables =>
    rcases runCommand_firewall env .nftList world with
      ⟨executed, -, -⟩ | ⟨-, failed, -⟩
    · obtain ⟨present, -⟩ := Option.ite_none_right_eq_some.mp executed
      rw [RulesSeen, ← kept.firewall]
      exact present
    · exact absurd (found.symm.trans failed) (by simp)

/-- The result of a look for the rules of any backend. -/
structure Detected
    (start : KsWorld)
    (result : Option FirewallBackend)
    (world : KsWorld) : Prop extends FirewallKept start world where
  seen : ∀ backend, result = some backend → RulesSeen start backend

theorem detectActiveBackend_sees (start : KsWorld) :
    Ensures (FirewallKept start) (detectActiveBackend env) (Detected start) := by
  refine .get ?_
  intro current
  refine .strengthen (?_ : Ensures (Detected start none) _ _)
    (fun _ before => ⟨before.2, nofun⟩)
  refine .findSomeM? ?_
  intro backend _
  refine .bind (Ensures.strengthen
    (rulesExist_sees env start backend)
    (fun _ detected => detected.toViewKept)) ?_
  intro found
  refine .ite (fun seen => ?_) fun _ => ?_
  · refine .pure ?_
    rintro world ⟨kept, sees⟩
    refine ⟨kept, ?_⟩
    rintro other ⟨⟩
    exact sees seen
  · exact .pure fun _ asked => ⟨asked.1, nofun⟩

theorem Sound.filtering_of_seen
    (sound : Sound world)
    {backend : FirewallBackend}
    (seen : RulesSeen world backend) :
    Filtering (firewallOf world) := by
  cases backend with
  | iptables => exact .inr ⟨.default, seen, sound.leads seen⟩
  | nftables => exact .inl seen

theorem syncState_sound (sound : Sound world) :
    Sound ((syncState env).run world).2 := by
  have sameKs := detectActiveBackend_keeps env world
  have detected := detectActiveBackend_sees env world world (Std.Refl.refl world)
  have idle := (congrArg KillSwitch.toggleInProgress sameKs.ks).trans sound.idle
  have kept := sound.kept detected.same idle
    (fun enabled =>
      (congrArg KillSwitch.enabled sameKs.ks).symm.trans enabled)
  rw [syncState, run_bind]
  cases found : ((detectActiveBackend env).run world).1 with
  | none => exact ⟨idle, kept.jumps, kept.leads, nofun⟩
  | some backend =>
    refine ⟨idle, kept.jumps, kept.leads, ?_⟩
    intro _
    have filtering := sound.filtering_of_seen (detected.seen backend found)
    exact detected.same ▸ filtering

theorem update_run (world : KsWorld) :
    (update env).run world =
      if world.ks.enabled then
        match world.ks.backend with
        | .iptables =>
          match ((disable env).run world).1 with
          | some error => (some error, ((disable env).run world).2)
          | none => (enable env).run ((disable env).run world).2
        | .nftables =>
          (enableNft env ((detectVpnEndpoints env).run world).1.ips).run
            ((detectVpnEndpoints env).run world).2
      else
        (none, world) := by
  rw [update, run_get_bind]
  by_cases enabled : world.ks.enabled = true
  · rw [if_pos enabled, if_pos enabled]
    cases world.ks.backend with
    | nftables => rfl
    | iptables =>
      simp only [run_bind]
      cases ((disable env).run world).1 <;> rfl
  · rw [if_neg enabled, if_neg enabled]
    rfl

theorem enableNft_sound
    (vpnServerIps : List IpAddr)
    (sound : Sound world)
    (ok : ((enableNft env vpnServerIps).run world).1 = none) :
    Sound ((enableNft env vpnServerIps).run world).2 := by
  have kept := enableNft_sparesIptables env vpnServerIps world
  have toggled := enableNft_toggled env vpnServerIps world world (Std.Refl.refl world)
  refine ⟨toggled.inProgress.trans sound.idle, ?_, ?_, ?_⟩
  · rw [jumpCount, kept.outputKept.output]
    exact sound.jumps
  · intro present
    rw [kept.outputKept.output] at present
    exact (congrArg ChainComplete (congrFun kept.same .default)).mpr (sound.leads present)
  · intro _
    exact .inl (enableNft_nft env vpnServerIps world trivial ok)

theorem OneVariantSince.mono
    {later : Nat}
    (oneVariant : OneVariantSince start variant world)
    (after : start ≤ later) :
    OneVariantSince later variant world := by
  intro command other builds member
  refine oneVariant command other builds ?_
  have sublist : world.host.log.drop later <:+ world.host.log.drop start := by
    rw [← Nat.sub_add_cancel after, Nat.add_comm, ← List.drop_drop]
    exact List.drop_suffix _ _
  exact sublist.subset member

theorem disable_ok
    (sound : Sound world)
    (ok : ((disable env).run world).1 = none) :
    (disable env).run world = (none, world) ∧
        world.ks.inCooldown world.host.now = true ∨
      ((disable env).run world).2.ks.enabled = false := by
  rcases disable_spec env world with
    ⟨-, busy | cooling⟩ | ⟨-, -, ran⟩
  · exact absurd busy (by simp [sound.idle])
  · exact .inl ⟨disable_cooling env sound.idle cooling, cooling⟩
  · exact .inr (ran.done ok)

theorem enable_advances (world : KsWorld) :
    Advances world ((enable env).run world).2 := by
  rcases enable_spec env world with ⟨skipped, -⟩ | ⟨-, -, ran⟩
  · exact skipped.toAdvances
  · exact ran.toAdvances

theorem disable_advances (world : KsWorld) :
    Advances world ((disable env).run world).2 := by
  rcases disable_spec env world with ⟨skipped, -⟩ | ⟨-, -, ran⟩
  · exact skipped.toAdvances
  · exact ran.toAdvances

theorem update_sound
    (sound : Sound world)
    (unstuck : ¬JumpStuck ((update env).run world).2)
    (oneVariant : OneVariantSince world.host.log.length variant ((update env).run world).2)
    (refreshed :
      world.ks.enabled = true → world.ks.backend = .nftables → ((update env).run world).1 = none) :
    Sound ((update env).run world).2 := by
  rw [update_run] at unstuck oneVariant refreshed ⊢
  by_cases enabled : world.ks.enabled = true
  · rw [if_pos enabled] at unstuck oneVariant refreshed ⊢
    cases backend : world.ks.backend with
    | nftables =>
      rw [backend] at refreshed
      have scanned : Sound ((detectVpnEndpoints env).run world).2 := sound.kept rfl sound.idle id
      exact enableNft_sound env _ scanned (refreshed enabled rfl)
    | iptables =>
      rw [backend] at unstuck oneVariant
      cases result : ((disable env).run world).1 with
      | some error =>
        rw [result] at unstuck
        exact disable_sound env sound unstuck
      | none =>
        rw [result] at unstuck oneVariant
        have advances := enable_advances env ((disable env).run world).2
        have between : Sound ((disable env).run world).2 :=
          disable_sound env sound fun stuck => unstuck (stuck.mono advances)
        have grown := (disable_advances env world).log.length_le
        refine enable_sound env between unstuck (oneVariant.mono grown) ?_
        intro stillEnabled
        rcases disable_ok env sound result with
          ⟨nothing, cooling⟩ | disabled
        · rw [nothing, enable_cooling env sound.idle cooling]
        · exact absurd stillEnabled (by simp [disabled])
  · rw [if_neg enabled]
    exact sound

end Steps

/-- The calls of a run, and pauses between them. -/
inductive Call where
  | wait (millis : Nat)
  | enable
  | disable
  | update
  | syncState
  deriving Repr, DecidableEq

def Call.run (env : FwEnv) : Call → StateM KsWorld (Option KillSwitchError)
  | .wait millis => do
      modify fun world =>
        { world with
          host := { world.host with now := world.host.now + millis } }
      pure none
  | .enable => KillSwitch.enable env
  | .disable => KillSwitch.disable env
  | .update => KillSwitch.update env
  | .syncState => do
      KillSwitch.syncState env
      pure none

abbrev Call.result (env : FwEnv) (call : Call) (world : KsWorld) :
    Option KillSwitchError :=
  ((call.run env).run world).1

abbrev Call.after (env : FwEnv) (call : Call) (world : KsWorld) : KsWorld :=
  ((call.run env).run world).2

def runCalls (env : FwEnv) : List Call → KsWorld → KsWorld
  | [], world => world
  | call :: rest, world => runCalls env rest (call.after env world)

/--
The calls that replace the rules of an enabled switch: they take the old rules
down first.
-/
def Call.replaces (call : Call) (world : KsWorld) : Prop :=
  world.ks.enabled = true ∧ (call = .enable ∨ call = .update ∧ world.ks.backend = .nftables)

/-- A call in which nothing goes wrong unseen and no replacement fails. -/
structure Regular (env : FwEnv) (call : Call) (world : KsWorld) : Prop where
  unstuck : ¬JumpStuck (call.after env world)
  oneVariant : ∃ variant, OneVariantSince world.host.log.length variant (call.after env world)
  replaced : call.replaces world → call.result env world = none

inductive RegularRun (env : FwEnv) : List Call → KsWorld → Prop where
  | nil {world : KsWorld} : RegularRun env [] world
  | cons {call : Call} {rest : List Call} {world : KsWorld} :
      Regular env call world →
      RegularRun env rest (call.after env world) →
      RegularRun env (call :: rest) world

/-- The calls that have to end with the switch on if they report success. -/
def Call.switchesOn (env : FwEnv) (world : KsWorld) : Call → Prop
  | .enable => world.ks.inCooldown world.host.now = false
  | .update =>
    world.ks.enabled = true ∧
      (world.ks.backend = .nftables ∨
        world.ks.inCooldown world.host.now = true ∨
        ((KillSwitch.disable env).run world).2.ks.inCooldown
          ((KillSwitch.disable env).run world).2.host.now = false)
  | _ => False

section Runs

variable {env : FwEnv}

theorem Sound.call
    {call : Call}
    (sound : Sound world)
    (regular : Regular env call world) :
    Sound (call.after env world) := by
  obtain ⟨unstuck, ⟨variant, oneVariant⟩, replaced⟩ := regular
  cases call with
  | wait millis => exact sound.kept rfl sound.idle id
  | enable =>
    exact enable_sound env sound unstuck oneVariant fun enabled => replaced ⟨enabled, .inl rfl⟩
  | disable => exact disable_sound env sound unstuck
  | update =>
    exact update_sound env sound unstuck oneVariant
      (fun enabled nftables =>
        replaced ⟨enabled, .inr ⟨rfl, nftables⟩⟩)
  | syncState => exact syncState_sound env sound

theorem Sound.runCalls
    {calls : List Call}
    (sound : Sound world)
    (regular : RegularRun env calls world) :
    Sound (runCalls env calls world) := by
  induction regular with
  | nil => exact sound
  | cons first _ ih => exact ih (sound.call first)

theorem enable_switchesOn
    (idle : world.ks.toggleInProgress = false)
    (notCooling : world.ks.inCooldown world.host.now = false)
    (ok : ((enable env).run world).1 = none) :
    ((enable env).run world).2.ks.enabled = true := by
  rcases enable_spec env world with
    ⟨skipped, busy | cooling | enabled⟩ | ⟨-, -, ran⟩
  · exact absurd busy (by simp [idle])
  · exact absurd cooling (by simp [notCooling])
  · rw [skipped.ks]
    exact enabled
  · exact ran.done ok

theorem update_switchesOn
    (sound : Sound world)
    (switchesOn : Call.update.switchesOn env world)
    (ok : ((update env).run world).1 = none) :
    ((update env).run world).2.ks.enabled = true := by
  obtain ⟨enabled, reason⟩ := switchesOn
  rw [update_run, if_pos enabled] at ok ⊢
  cases backend : world.ks.backend with
  | nftables =>
    rw [backend] at ok
    exact (enableNft_toggled env _ _ _ (Std.Refl.refl _)).done ok
  | iptables =>
    rw [backend] at ok reason
    cases result : ((disable env).run world).1 with
    | some error =>
      rw [result] at ok
      exact absurd ok (by simp)
    | none =>
      rw [result] at ok
      rcases reason with nftables | cooling | notCooling
      · exact absurd nftables (by simp)
      · rw [disable_cooling env sound.idle cooling, enable_cooling env sound.idle cooling]
        exact enabled
      · have idle := guardToggle_idle (disableInner env) sound.idle
        exact enable_switchesOn idle notCooling ok

/--
After every regular run from a fresh kill switch and every further regular
call: a call that has to switch on does so when it reports success, and a
switch that is on has blocking rules installed.
-/
theorem enabled_means_filtering
    {start : KsWorld}
    {dnsMode : DnsMode}
    {ipv6Mode : Ipv6Mode}
    {blockDoh : Bool}
    {customDohBlocklist : List String}
    (fresh : start.ks = .withConfig dnsMode ipv6Mode blockDoh customDohBlocklist)
    (few : jumpCount start ≤ 100)
    (leads : JumpLeads start)
    {calls : List Call}
    {call : Call}
    (regular : RegularRun env calls start)
    (last : Regular env call (runCalls env calls start)) :
    (call.switchesOn env (runCalls env calls start) →
      call.result env (runCalls env calls start) = none →
      (call.after env (runCalls env calls start)).ks.enabled = true) ∧
    ((call.after env (runCalls env calls start)).ks.enabled = true →
      Filtering (firewallOf (call.after env (runCalls env calls start)))) := by
  have initially : Sound start := by
    refine ⟨?_, few, leads, ?_⟩
    · rw [fresh]
      rfl
    · intro enabled
      rw [fresh] at enabled
      exact absurd enabled Bool.false_ne_true
  have before := initially.runCalls regular
  refine ⟨?_, (before.call last).filters⟩
  intro switchesOn ok
  cases call with
  | enable => exact enable_switchesOn before.idle switchesOn ok
  | update => exact update_switchesOn before switchesOn ok
  | _ => exact switchesOn.elim

end Runs

/-- A host on which every command works and nothing takes time. -/
def calmEnv : FwEnv where
  fault _ _ := none
  refusal _ := ⟨1, by decide⟩
  stderr _ := ""
  millis _ := 0
  scan _ := ⟨[], []⟩
  scanMillis _ := 0
  lanSubnets _ := []
  lanSubnets6 _ := []
  path
    | .iptables => "iptables"
    | .ip6tables => "ip6tables"

def freshWorld : KsWorld where
  ks := .withConfig .tunnel .block true []
  host :=
    { firewall := ⟨fun _ _ => Table.empty, none⟩
      now := 0
      issued := 0
      scans := 0
      log := [] }

/-- Whether an entry is harmless for the regularity of a run. -/
def isHarmless (entry : LogEntry) : Bool :=
  entry.effect != .faulted &&
    match entry.command with
    | .xtables .iptables variant command =>
      !command.buildsChain || variant == .default
    | _ => true

theorem regular_of_harmless
    {env : FwEnv}
    {call : Call}
    (harmless : (call.after env world).host.log.all isHarmless = true)
    (replaced : call.replaces world → call.result env world = none) :
    Regular env call world where
  unstuck := by
    intro stuck
    have entry := List.all_eq_true.mp harmless _ stuck
    exact absurd entry (by decide)
  oneVariant := by
    refine ⟨.default, ?_⟩
    intro command variant builds member
    have entry := List.all_eq_true.mp harmless _ (List.mem_of_mem_drop member)
    simpa [isHarmless, builds] using entry
  replaced := replaced

def switchedCalls : List Call :=
  [.enable, .wait 9000, .update, .disable, .wait 9000]

theorem enabled_means_filtering_switched :
    (Call.enable.after calmEnv (runCalls calmEnv switchedCalls freshWorld)).ks.enabled = true ∧
      Filtering (firewallOf
        (Call.enable.after calmEnv (runCalls calmEnv switchedCalls freshWorld))) := by
  have regular : RegularRun calmEnv switchedCalls freshWorld := by
    repeat refine .cons (regular_of_harmless (by decide +kernel) (fun _ => by decide +kernel)) ?_
    exact .nil
  have result :=
    @enabled_means_filtering calmEnv freshWorld _ _ _ _ rfl (by decide) nofun switchedCalls .enable
      regular (regular_of_harmless (by decide +kernel) (fun _ => by decide +kernel))
  have enabled := result.1 (show _ = false by decide +kernel) (by decide +kernel)
  exact ⟨enabled, result.2 enabled⟩

/-- Right after a `disable`, `enable` and `update` report success and do
nothing. -/
theorem enable_ok_without_filtering :
    Call.enable.result calmEnv
        (runCalls calmEnv [.disable] freshWorld) = none ∧
      (Call.enable.after calmEnv (runCalls calmEnv [.disable] freshWorld)).ks.enabled = false ∧
      Call.update.result calmEnv (runCalls calmEnv [.disable] freshWorld) = none ∧
      (Call.update.after calmEnv (runCalls calmEnv [.disable] freshWorld)).ks.enabled = false := by
  decide

end Shroud.KillSwitch
