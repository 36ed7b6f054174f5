import Shroud.KillSwitch

namespace Shroud.KillSwitch

open Netfilter IptablesScript StateProgram

/-!
# What the operations do to the kill switch itself

Commands change the host only.  On top of that the specifications below say
which fields each operation may write, what its result says about the
`enabled` flag, and when it does nothing at all.
-/

/-- Time passes and the log grows. -/
structure Advances (before after : KsWorld) : Prop where
  clock : before.host.now ≤ after.host.now
  log : before.host.log <+: after.host.log

/-- Commands were issued and the kill switch was not written. -/
structure CommandsOnly (before after : KsWorld) : Prop extends
    Advances before after where
  ks : after.ks = before.ks

instance : IsPreorder KsWorld Advances where
  refl _ := ⟨Nat.le_refl _, List.prefix_refl _⟩
  trans _ _ _ first second := ⟨first.clock.trans second.clock, first.log.trans second.log⟩

instance : IsPreorder KsWorld CommandsOnly where
  refl _ := ⟨⟨Nat.le_refl _, List.prefix_refl _⟩, rfl⟩
  trans _ _ _ first second :=
    ⟨⟨first.clock.trans second.clock, first.log.trans second.log⟩, second.ks.trans first.ks⟩

/-! ## Programs made of commands

A program that only issues commands moves along every preorder along which
its commands move.
-/

section Programs

variable
  {env : FwEnv}
  {relation : KsWorld → KsWorld → Prop}
  [IsPreorder KsWorld relation]

theorem succeeds_follows
    {command : FwCommand}
    (step : Keeps relation (runCommand env command)) :
    Keeps relation (succeeds env command) :=
  step.bind (fun _ => .pure)

variable {tool : Tool}

section

variable (step : ∀ attempt, Keeps relation (runCommand env (.legacyVersion tool attempt)))

include step

theorem legacyVariant_follows :
    Keeps relation (legacyVariant env tool) := by
  refine (succeeds_follows (step 0)).bind ?_
  intro found
  exact .either .pure (succeeds_follows (step 1))

theorem lineVariant_follows (useLegacy : Bool) :
    Keeps relation (lineVariant env useLegacy tool) := by
  refine .either ?_ .pure
  refine (legacyVariant_follows step).bind ?_
  intro found
  exact .either .pure .pure

end

theorem runLegacyLine_follows
    {command : XCommand}
    (probe : ∀ attempt, Keeps relation (runCommand env (.legacyVersion tool attempt)))
    (step : Keeps relation (runCommand env (.xtables tool .legacy command)))
    (stderr : String) :
    Keeps relation (runLegacyLine env tool command stderr) := by
  refine (legacyVariant_follows probe).bind ?_
  intro found
  refine .either ?_ .pure
  refine step.bind ?_
  intro outcome
  cases outcome with
  | io stage reason => exact .pure
  | timedOut => exact .pure
  | exited code text => exact .either .pure .pure

theorem runScriptLine_follows
    {line : ScriptLine}
    (probe : ∀ tool attempt, Keeps relation (runCommand env (.legacyVersion tool attempt)))
    (step :
      ∀ tool command ignoreError,
        line = .command tool command ignoreError →
        ∀ variant, Keeps relation (runCommand env (.xtables tool variant command))) :
    Keeps relation (runScriptLine env line) := by
  cases line with
  | comment text => exact .pure
  | command tool command ignoreError =>
    have commandStep := step tool command ignoreError rfl
    refine .get ?_
    intro world
    refine (lineVariant_follows (probe tool) _).bind ?_
    intro variant
    refine (commandStep variant).bind ?_
    intro outcome
    cases outcome with
    | io stage reason => exact .pure
    | timedOut => exact .pure
    | exited code stderr =>
      refine .either .pure ?_
      refine .either .pure ?_
      exact .either (runLegacyLine_follows (probe tool) (commandStep .legacy) _) .pure

theorem checkSudoAccess_follows
    (step : Keeps relation (runCommand env (.listAll .default))) :
    Keeps relation (checkSudoAccess env) :=
  step.bind (fun _ => .pure)

theorem deleteDuplicates_follows
    {rule : XRule}
    (step : Keeps relation (runCommand env (.xtables tool .default (.delete .output rule)))) :
    Keeps relation (deleteDuplicates env tool rule) :=
  Keeps.repeatWhile (succeeds_follows step) 100

theorem removeChain_follows
    (flush : Keeps relation (runCommand env (.xtables tool .default (.flush .killSwitch))))
    (delete : Keeps relation (runCommand env (.xtables tool .default (.deleteChain .killSwitch)))) :
    Keeps relation (removeChain env tool) := by
  refine flush.seq ?_
  refine delete.seq ?_
  exact .pure

theorem nftIsAvailable_follows
    (step : ∀ attempt, Keeps relation (runCommand env (.nftVersion attempt))) :
    Keeps relation (nftIsAvailable env) := by
  refine (succeeds_follows (step 0)).bind ?_
  intro byName
  refine .either .pure ?_
  refine (succeeds_follows (step 1)).bind ?_
  intro byPath
  exact .either .pure (succeeds_follows (step 2))

theorem runNft_follows
    {command : FwCommand}
    (step : Keeps relation (runCommand env command)) :
    Keeps relation (runNft env command) :=
  step.bind (fun _ => .pure)

theorem cleanupNftTable_follows
    (step : Keeps relation (runCommand env .nftDelete)) :
    Keeps relation (cleanupNftTable env) :=
  (runNft_follows step).bind (fun _ => .pure)

theorem rulesExist_follows
    (checkJump :
      Keeps relation (runCommand env (.xtables .iptables .default (.check .output jumpRule))))
    (listTable : Keeps relation (runCommand env .nftList))
    (backend : FirewallBackend) :
    Keeps relation (rulesExist env backend) := by
  cases backend with
  | iptables => exact succeeds_follows checkJump
  | nftables => exact succeeds_follows listTable

theorem detectActiveBackend_follows
    (checkJump :
      Keeps relation (runCommand env (.xtables .iptables .default (.check .output jumpRule))))
    (listTable : Keeps relation (runCommand env .nftList)) :
    Keeps relation (detectActiveBackend env) := by
  refine .get ?_
  intro world
  refine .findSomeM? ?_
  intro backend _
  refine (rulesExist_follows checkJump listTable backend).bind ?_
  intro found
  exact .either .pure .pure

theorem cleanupBehindJumps_follows
    (remove : ∀ tool, Keeps relation (removeChain env tool))
    (deleteRule :
      ∀ rule ∈ jumpRule :: ipv6OutputRules,
        Keeps relation (runCommand env (.xtables .ip6tables .default (.delete .output rule))))
    (deleteTable : Keeps relation (runCommand env .nftDelete)) :
    Keeps relation (cleanupBehindJumps env) := by
  refine (remove _).seq ?_
  refine .seq
    (Keeps.forM (fun rule listed =>
      deleteDuplicates_follows (deleteRule rule (List.mem_cons_of_mem _ listed)))) ?_
  refine (deleteDuplicates_follows (deleteRule _ List.mem_cons_self)).seq ?_
  refine (remove _).seq ?_
  refine deleteTable.seq ?_
  exact .pure

theorem selectBackend_follows
    (nft : ∀ attempt, Keeps relation (runCommand env (.nftVersion attempt)))
    (list : ∀ variant, Keeps relation (runCommand env (.listAll variant)))
    (setLegacy :
      Keeps relation (modifyKs fun ks => { ks with useLegacy := true })) :
    Keeps relation (selectBackend env) := by
  refine (nftIsAvailable_follows nft).bind ?_
  intro available
  refine .either .pure ?_
  refine (checkSudoAccess_follows (list .default)).bind ?_
  intro access
  cases access with
  | none => exact .pure
  | some error =>
    refine .either ?_ .pure
    refine (succeeds_follows (list .legacy)).bind ?_
    intro legacy
    refine .either ?_ .pure
    exact setLegacy.seq .pure

theorem enableNft_follows
    (delete : Keeps relation (runCommand env .nftDelete))
    (load : ∀ ruleset, Keeps relation (runCommand env (.nftLoad ruleset)))
    (setEnabled : Keeps relation (modifyKs fun ks => { ks with enabled := true }))
    (vpnServerIps : List IpAddr) :
    Keeps relation (enableNft env vpnServerIps) := by
  refine (cleanupNftTable_follows delete).seq ?_
  refine .get ?_
  intro current
  refine (runNft_follows (load _)).bind ?_
  intro result
  cases result with
  | some error => exact .pure
  | none => exact setEnabled.seq .pure

end Programs

section Commands

variable (env : FwEnv)

theorem runCommand_keeps (command : FwCommand) :
    Keeps CommandsOnly (runCommand env command) := by
  intro world
  refine ⟨⟨?_, ?_⟩, rfl⟩
  · exact Nat.le_add_right _ _
  · exact List.prefix_append _ _

theorem detectVpnEndpoints_keeps :
    Keeps CommandsOnly (detectVpnEndpoints env) := by
  intro world
  refine ⟨⟨?_, List.prefix_refl _⟩, rfl⟩
  exact Nat.le_add_right _ _

theorem runScriptLine_keeps (line : ScriptLine) :
    Keeps CommandsOnly (runScriptLine env line) :=
  runScriptLine_follows (fun _ _ => runCommand_keeps env _)
    (fun _ _ _ _ _ => runCommand_keeps env _)

theorem runSingleScript_keeps (script : List ScriptLine) :
    Keeps CommandsOnly (runSingleScript env script) :=
  Keeps.findSomeM? (fun line _ => runScriptLine_keeps env line)

theorem checkSudoAccess_keeps :
    Keeps CommandsOnly (checkSudoAccess env) :=
  checkSudoAccess_follows (runCommand_keeps env _)

theorem removeChain_keeps (tool : Tool) :
    Keeps CommandsOnly (removeChain env tool) :=
  removeChain_follows (runCommand_keeps env _) (runCommand_keeps env _)

theorem robustIptablesCleanup_keeps :
    Keeps CommandsOnly (robustIptablesCleanup env) := by
  refine (deleteDuplicates_follows (runCommand_keeps env _)).seq ?_
  exact cleanupBehindJumps_follows (removeChain_keeps env)
    (fun _ _ => runCommand_keeps env _) (runCommand_keeps env _)

theorem nftIsAvailable_keeps :
    Keeps CommandsOnly (nftIsAvailable env) :=
  nftIsAvailable_follows (fun _ => runCommand_keeps env _)

theorem rulesExist_keeps (backend : FirewallBackend) :
    Keeps CommandsOnly (rulesExist env backend) :=
  rulesExist_follows (runCommand_keeps env _) (runCommand_keeps env _) backend

theorem detectActiveBackend_keeps :
    Keeps CommandsOnly (detectActiveBackend env) :=
  detectActiveBackend_follows (runCommand_keeps env _) (runCommand_keeps env _)

theorem runNft_keeps (command : FwCommand) :
    Keeps CommandsOnly (runNft env command) :=
  runNft_follows (runCommand_keeps env _)

theorem cleanupNftTable_keeps :
    Keeps CommandsOnly (cleanupNftTable env) :=
  cleanupNftTable_follows (runCommand_keeps env _)

end Commands

/--
An attempt to toggle: only the choice of the backend may have changed, and
after a failure not even the flag.
-/
structure Attempted
    (before : KsWorld)
    (result : Option KillSwitchError)
    (after : KsWorld) : Prop extends Advances before after where
  settings : after.ks.settings = before.ks.settings
  inProgress : after.ks.toggleInProgress = before.ks.toggleInProgress
  lastToggleTime : after.ks.lastToggleTime = before.ks.lastToggleTime
  failed : ∀ error, result = some error → after.ks.enabled = before.ks.enabled

/-- A toggle towards `target`: success means that the flag is set so. -/
structure Toggled
    (target : Bool)
    (before : KsWorld)
    (result : Option KillSwitchError)
    (after : KsWorld) : Prop extends Attempted before result after where
  done : result = none → after.ks.enabled = target

/-- The kill switch was not written except for the choice of the backend. -/
structure Prepared (before after : KsWorld) : Prop extends
    Advances before after where
  settings : after.ks.settings = before.ks.settings
  inProgress : after.ks.toggleInProgress = before.ks.toggleInProgress
  enabled : after.ks.enabled = before.ks.enabled
  lastToggleTime : after.ks.lastToggleTime = before.ks.lastToggleTime

instance : IsPreorder KsWorld Prepared where
  refl _ :=
    { clock := Nat.le_refl _
      log := List.prefix_refl _
      settings := rfl
      inProgress := rfl
      enabled := rfl
      lastToggleTime := rfl }
  trans _ _ _ first second :=
    { clock := first.clock.trans second.clock
      log := first.log.trans second.log
      settings := second.settings.trans first.settings
      inProgress := second.inProgress.trans first.inProgress
      enabled := second.enabled.trans first.enabled
      lastToggleTime := second.lastToggleTime.trans first.lastToggleTime }

variable {before after world : KsWorld} {target : Bool}

theorem CommandsOnly.prepared (commands : CommandsOnly before after) :
    Prepared before after where
  toAdvances := commands.toAdvances
  settings := by rw [commands.ks]
  inProgress := by rw [commands.ks]
  enabled := by rw [commands.ks]
  lastToggleTime := by rw [commands.ks]

theorem prepared_of_keeps
    {α : Type}
    {program : StateM KsWorld α}
    (keeps : Keeps CommandsOnly program) :
    Keeps Prepared program :=
  fun world => (keeps world).prepared

theorem Prepared.attempted
    (prepared : Prepared before after)
    (result : Option KillSwitchError) :
    Attempted before result after where
  toAdvances := prepared.toAdvances
  settings := prepared.settings
  inProgress := prepared.inProgress
  lastToggleTime := prepared.lastToggleTime
  failed := fun _ _ => prepared.enabled

theorem Attempted.toggled
    {error : KillSwitchError}
    (attempted : Attempted before (some error) after) :
    Toggled target before (some error) after where
  toAttempted := attempted
  done := by simp

theorem Attempted.complete (attempted : Attempted before none after) :
    Toggled target before none { after with ks := { after.ks with enabled := target } } where
  clock := attempted.clock
  log := attempted.log
  settings := attempted.settings
  inProgress := attempted.inProgress
  lastToggleTime := attempted.lastToggleTime
  failed := by simp
  done := fun _ => rfl

theorem setBackend_keeps (backend : FirewallBackend) :
    Keeps Prepared (modifyKs fun ks => { ks with backend := backend }) :=
  fun _ =>
    { clock := Nat.le_refl _
      log := List.prefix_refl _
      settings := rfl
      inProgress := rfl
      enabled := rfl
      lastToggleTime := rfl }

theorem setUseLegacy_keeps :
    Keeps Prepared (modifyKs fun ks => { ks with useLegacy := true }) :=
  fun _ =>
    { clock := Nat.le_refl _
      log := List.prefix_refl _
      settings := rfl
      inProgress := rfl
      enabled := rfl
      lastToggleTime := rfl }

section Toggles

variable (env : FwEnv)

theorem selectBackend_keeps :
    Keeps Prepared (selectBackend env) :=
  selectBackend_follows
    (fun _ => prepared_of_keeps (runCommand_keeps env _))
    (fun _ => prepared_of_keeps (runCommand_keeps env _))
    setUseLegacy_keeps

theorem enableNft_toggled
    (vpnServerIps : List IpAddr)
    (start : KsWorld) :
    Ensures (Prepared start) (enableNft env vpnServerIps) (Toggled true start) := by
  refine .seq ((prepared_of_keeps (cleanupNftTable_keeps env)).ensures start) ?_
  refine .get ?_
  intro current
  refine .bind (Ensures.strengthen
    ((prepared_of_keeps (runNft_keeps env _)).ensures start)
    (fun _ before => before.2)) ?_
  intro result
  cases result with
  | some error => exact .pure (fun _ prepared => (prepared.attempted _).toggled)
  | none =>
    intro world prepared
    exact (prepared.attempted none).complete

/-- The rule of the iptables branch: a failed script is cleaned up in any case. -/
theorem enableIptables_ensures
    {vpnServerIps : List IpAddr}
    {before failed cleaned : KsWorld → Prop}
    {post : Option KillSwitchError → KsWorld → Prop}
    (script :
      ∀ current,
        Ensures (fun world => world = current ∧ before world)
          (runSingleScript env (currentScript env current vpnServerIps))
          (fun result world =>
            match result with
            | none => post none world
            | some _ => failed world))
    (probes : Preserves failed (nftIsAvailable env))
    (cleans : Ensures failed (robustIptablesCleanup env) (fun _ => cleaned))
    (rollsBack : ∀ error world, cleaned world → post (some error) world)
    (switches : Preserves cleaned (modifyKs fun ks => { ks with backend := .nftables }))
    (nft : Ensures cleaned (enableNft env vpnServerIps) post) :
    Ensures before (enableIptables env vpnServerIps) post := by
  refine .get ?_
  intro current
  refine (script current).bind ?_
  intro result
  cases result with
  | none => exact .pure (fun _ done => done)
  | some error =>
    have rollback : Ensures failed (do robustIptablesCleanup env; pure (some error)) post :=
      cleans.seq (.pure (rollsBack error))
    refine .either (Ensures.bind probes ?_) rollback
    intro available
    exact .either (cleans.seq (Ensures.seq switches nft)) rollback

theorem enableIptables_attempted
    (vpnServerIps : List IpAddr)
    (start : KsWorld) :
    Ensures (Prepared start) (enableIptables env vpnServerIps) (Attempted start) := by
  have cleans := (prepared_of_keeps (robustIptablesCleanup_keeps env)).ensures start
  refine enableIptables_ensures env ?_
    ((prepared_of_keeps (nftIsAvailable_keeps env)).ensures start) cleans
    (fun _ _ prepared => prepared.attempted _) ((setBackend_keeps _).ensures start)
    ((enableNft_toggled env vpnServerIps start).weaken (fun _ _ toggled => toggled.toAttempted))
  rintro current world ⟨-, prepared⟩
  have after :=
    (prepared_of_keeps
      (runSingleScript_keeps env (currentScript env current vpnServerIps))).ensures start world
      prepared
  split
  · exact after.attempted _
  · exact after

theorem enableBackend_attempted
    (backend : FirewallBackend)
    (vpnServerIps : List IpAddr)
    (start : KsWorld) :
    Ensures (Prepared start) (enableBackend env backend vpnServerIps) (Attempted start) := by
  cases backend with
  | iptables => exact enableIptables_attempted env vpnServerIps start
  | nftables =>
    exact (enableNft_toggled env vpnServerIps start).weaken fun _ _ toggled => toggled.toAttempted

/-- The world in which a toggle has noted its time. -/
def stamped (world : KsWorld) : KsWorld :=
  { world with
    ks := { world.ks with lastToggleTime := some world.host.now } }

theorem stamp_ensures (world current : KsWorld) :
    Ensures (fun state => state = current ∧ state = world)
      (modifyKs fun ks =>
        { ks with lastToggleTime := some current.host.now })
      (fun _ => Prepared (stamped world)) := by
  rintro state ⟨rfl, rfl⟩
  exact Std.Refl.refl (stamped state)

theorem install_toggled (world : KsWorld) :
    Toggled true (stamped world) ((install env).run world).1 ((install env).run world).2 := by
  have spec :
      Ensures (fun state => state = world) (install env) (Toggled true (stamped world)) := by
    refine .get ?_
    intro current
    refine .seq (stamp_ensures world current) ?_
    refine .seq ((prepared_of_keeps (robustIptablesCleanup_keeps env)).ensures _) ?_
    refine .bind ((prepared_of_keeps (detectVpnEndpoints_keeps env)).ensures _) ?_
    intro scan
    refine .bind ((selectBackend_keeps env).ensures _) ?_
    intro selected
    cases selected with
    | error error =>
      exact .pure fun _ prepared => (prepared.attempted _).toggled
    | ok backend =>
      refine .seq ((setBackend_keeps backend).ensures _) ?_
      refine .bind (enableBackend_attempted env backend scan.ips _) ?_
      intro result
      cases result with
      | some error => exact .pure (fun _ attempted => attempted.toggled)
      | none =>
        intro state attempted
        exact attempted.complete
  exact spec world rfl

theorem removeRules_toggled (start : KsWorld) :
    Ensures (Prepared start) (removeRules env) (Toggled false start) := by
  refine .get_any ?_
  intro current
  cases current.ks.backend with
  | iptables =>
    refine .bind ((prepared_of_keeps (robustIptablesCleanup_keeps env)).ensures start) ?_
    intro _ state prepared
    exact (prepared.attempted none).complete
  | nftables =>
    refine .bind ((prepared_of_keeps (cleanupNftTable_keeps env)).ensures start) ?_
    intro result
    cases result with
    | some error =>
      exact .pure fun _ prepared => (prepared.attempted _).toggled
    | none =>
      intro state prepared
      exact (prepared.attempted none).complete

theorem disableWithoutIptables_toggled
    (error : KillSwitchError)
    (start : KsWorld) :
    Ensures (Prepared start) (disableWithoutIptables env error) (Toggled false start) := by
  refine .either ?_ ?_
  · exact .pure fun _ prepared => (prepared.attempted _).toggled
  refine .either ?_ (removeRules_toggled env start)
  refine .bind ((prepared_of_keeps
    (succeeds_follows (runCommand_keeps env _))).ensures start) ?_
  intro legacy
  refine .either ?_ ?_
  · refine .seq (setUseLegacy_keeps.ensures start) ?_
    exact removeRules_toggled env start
  refine .bind ((prepared_of_keeps (nftIsAvailable_keeps env)).ensures start) ?_
  intro available
  refine .either ?_ (removeRules_toggled env start)
  refine .seq ((setBackend_keeps _).ensures start) ?_
  exact removeRules_toggled env start

theorem uninstall_toggled (world : KsWorld) :
    Toggled false (stamped world) ((uninstall env).run world).1 ((uninstall env).run world).2 := by
  have spec :
      Ensures (fun state => state = world) (uninstall env) (Toggled false (stamped world)) := by
    refine .get ?_
    intro current
    refine .seq (stamp_ensures world current) ?_
    cases current.ks.backend with
    | nftables => exact removeRules_toggled env _
    | iptables =>
      refine .bind ((prepared_of_keeps (checkSudoAccess_keeps env)).ensures _) ?_
      intro access
      cases access with
      | none => exact removeRules_toggled env _
      | some error => exact disableWithoutIptables_toggled env error _
  exact spec world rfl

section Uninstall

variable {env} {world : KsWorld}

theorem uninstall_nftables (backend : world.ks.backend = .nftables) :
    (uninstall env).run world = (removeRules env).run (stamped world) := by
  rw [uninstall, run_get_bind]
  rw [backend]
  rfl

theorem uninstall_iptables
    (backend : world.ks.backend = .iptables)
    {access : Option KillSwitchError}
    (answered : ((checkSudoAccess env).run (stamped world)).1 = access) :
    (uninstall env).run world =
      (match access with
      | none => removeRules env
      | some error => disableWithoutIptables env error).run
        ((checkSudoAccess env).run (stamped world)).2 := by
  have noted :
      ((modifyKs fun ks =>
        { ks with lastToggleTime := some world.host.now }).run world).2 =
        stamped world :=
    rfl
  rw [uninstall, run_get_bind]
  cases access with
  | none => rw [backend, run_bind, noted, run_bind, answered]
  | some error => rw [backend, run_bind, noted, run_bind, answered]

end Uninstall

end Toggles

/-- A call that found nothing to do. -/
structure Skipped
    (before : KsWorld)
    (result : Option KillSwitchError)
    (after : KsWorld) : Prop extends CommandsOnly before after where
  ok : result = none

/-- A call that toggled, or tried to. -/
structure Ran
    (target : Bool)
    (before : KsWorld)
    (result : Option KillSwitchError)
    (after : KsWorld) : Prop extends Advances before after where
  settings : after.ks.settings = before.ks.settings
  inProgress : after.ks.toggleInProgress = false
  stamp :
    ∃ time, after.ks.lastToggleTime = some time ∧ before.host.now ≤ time ∧ time ≤ after.host.now
  failed : ∀ error, result = some error → after.ks.enabled = before.ks.enabled
  done : result = none → after.ks.enabled = target

/-- The flag that another toggle is going on, set on the way in. -/
def entered (world : KsWorld) : KsWorld :=
  { world with ks := { world.ks with toggleInProgress := true } }

/-- The flag that another toggle is going on, cleared on the way out. -/
def left (world : KsWorld) : KsWorld :=
  { world with ks := { world.ks with toggleInProgress := false } }

theorem Toggled.ran
    {started : KsWorld}
    {result : Option KillSwitchError}
    (waited : CommandsOnly (entered before) started)
    (toggled : Toggled target (stamped started) result after) :
    Ran target before result (left after) where
  clock := waited.clock.trans toggled.clock
  log := waited.log.trans toggled.log
  settings := by
    have sameSettings := toggled.settings
    rw [stamped, waited.ks] at sameSettings
    exact sameSettings
  inProgress := rfl
  stamp := ⟨started.host.now, toggled.lastToggleTime, waited.clock, toggled.clock⟩
  failed := by
    intro error isError
    have sameFlag := toggled.failed error isError
    rw [stamped, waited.ks] at sameFlag
    exact sameFlag
  done := toggled.done

theorem left_entered (idle : world.ks.toggleInProgress = false) :
    left (entered world) = world := by
  cases world with
  | mk ks host =>
    cases ks
    simp_all [left, entered]

section Operations

variable (env : FwEnv)

theorem guardToggle_run
    (toggle : StateM KsWorld (Option KillSwitchError))
    (world : KsWorld) :
    (guardToggle toggle).run world =
      if world.ks.toggleInProgress then (none, world)
      else
        ((toggle.run (entered world)).1, left (toggle.run (entered world)).2) := by
  rw [guardToggle, run_get_bind]
  cases world.ks.toggleInProgress with
  | true => rfl
  | false => rfl

/-- An unguarded call did nothing, or started a toggle at some point. -/
def ToggleCall
    (target : Bool)
    (skips : Prop)
    (before : KsWorld)
    (result : Option KillSwitchError)
    (after : KsWorld) : Prop :=
  (skips ∧ CommandsOnly before after ∧ result = none) ∨
    (before.ks.inCooldown before.host.now = false ∧
      ∃ started, CommandsOnly before started ∧ Toggled target (stamped started) result after)

theorem enableInner_run (world : KsWorld) :
    (enableInner env).run world =
      if world.ks.inCooldown world.host.now then (none, world)
      else if world.ks.enabled then
        if ((rulesExist env world.ks.backend).run world).1 then
          (none, ((rulesExist env world.ks.backend).run world).2)
        else
          (install env).run ((rulesExist env world.ks.backend).run world).2
      else
        (install env).run world := by
  rw [enableInner, run_get_bind]
  cases world.ks.inCooldown world.host.now with
  | true => rfl
  | false =>
    cases world.ks.enabled with
    | false => rfl
    | true =>
      rw [if_neg Bool.false_ne_true, if_pos rfl, run_bind]
      cases ((rulesExist env world.ks.backend).run world).1 <;> rfl

theorem disableInner_run (world : KsWorld) :
    (disableInner env).run world =
      if world.ks.inCooldown world.host.now then (none, world)
      else (uninstall env).run world := by
  rw [disableInner, run_get_bind]
  cases world.ks.inCooldown world.host.now <;> rfl

section

variable
  (idle : world.ks.toggleInProgress = false)
  (cooling : world.ks.inCooldown world.host.now = true)

include idle cooling

theorem enable_cooling :
    (enable env).run world = (none, world) := by
  have sameClock : (entered world).ks.inCooldown (entered world).host.now = true :=
    cooling
  rw [enable, guardToggle_run, idle, if_neg Bool.false_ne_true,
    enableInner_run, sameClock, if_pos rfl, left_entered idle]

theorem disable_cooling :
    (disable env).run world = (none, world) := by
  have sameClock : (entered world).ks.inCooldown (entered world).host.now = true :=
    cooling
  rw [disable, guardToggle_run, idle, if_neg Bool.false_ne_true,
    disableInner_run, sameClock, if_pos rfl, left_entered idle]

end

/-- A `disable` that is neither guarded nor too early removes the rules. -/
theorem disable_uninstalls
    (idle : world.ks.toggleInProgress = false)
    (cooled : world.ks.inCooldown world.host.now = false) :
    (disable env).run world =
      (((uninstall env).run (entered world)).1, left ((uninstall env).run (entered world)).2) := by
  have sameClock : (entered world).ks.inCooldown (entered world).host.now = false := cooled
  rw [disable, guardToggle_run, idle, if_neg Bool.false_ne_true,
    disableInner_run, sameClock, if_neg Bool.false_ne_true]

theorem guardToggle_idle
    (toggle : StateM KsWorld (Option KillSwitchError))
    (idle : world.ks.toggleInProgress = false) :
    ((guardToggle toggle).run world).2.ks.toggleInProgress = false := by
  rw [guardToggle_run, idle]
  rfl

/-- The rule of `enable`: before it installs, it looks at the rules at most. -/
theorem enable_ensures
    {looked : KsWorld → Prop}
    {post : Option KillSwitchError → KsWorld → Prop}
    (busy : world.ks.toggleInProgress = true → post none world)
    (starts : looked (entered world))
    (looks : ∀ backend, Preserves looked (rulesExist env backend))
    (rests : ∀ state, looked state → post none (left state))
    (installs : Ensures looked (install env) (fun result state => post result (left state))) :
    post ((enable env).run world).1 ((enable env).run world).2 := by
  have inner : Ensures looked (enableInner env) (fun result state => post result (left state)) := by
    refine .get_any ?_
    intro current
    refine .either (.pure rests) (.either ?_ installs)
    refine .bind (looks _) ?_
    intro found
    exact .either (.pure rests) installs
  rw [enable, guardToggle_run]
  by_cases isBusy : world.ks.toggleInProgress = true
  · rw [if_pos isBusy]
    exact busy isBusy
  · rw [if_neg isBusy]
    exact inner _ starts

theorem enableInner_call (world : KsWorld) :
    ToggleCall true
      (world.ks.inCooldown world.host.now = true ∨ world.ks.enabled = true)
      world ((enableInner env).run world).1
      ((enableInner env).run world).2 := by
  rw [enableInner_run]
  cases cooling : world.ks.inCooldown world.host.now with
  | true => exact .inl ⟨.inl rfl, Std.Refl.refl world, rfl⟩
  | false =>
    rw [if_neg Bool.false_ne_true]
    cases enabled : world.ks.enabled with
    | false =>
      rw [if_neg Bool.false_ne_true]
      exact .inr ⟨cooling, world, Std.Refl.refl world, install_toggled env world⟩
    | true =>
      have asked := rulesExist_keeps env world.ks.backend world
      rw [if_pos rfl]
      cases ((rulesExist env world.ks.backend).run world).1 with
      | true => exact .inl ⟨.inr rfl, asked, rfl⟩
      | false =>
        rw [if_neg Bool.false_ne_true]
        exact .inr ⟨cooling, _, asked, install_toggled env _⟩

theorem disableInner_call (world : KsWorld) :
    ToggleCall false
      (world.ks.inCooldown world.host.now = true)
      world ((disableInner env).run world).1
      ((disableInner env).run world).2 := by
  rw [disableInner_run]
  cases cooling : world.ks.inCooldown world.host.now with
  | true => exact .inl ⟨rfl, Std.Refl.refl world, rfl⟩
  | false =>
    rw [if_neg Bool.false_ne_true]
    exact .inr ⟨cooling, world, Std.Refl.refl world, uninstall_toggled env world⟩

theorem guardToggle_spec
    {skips : Prop}
    {toggle : StateM KsWorld (Option KillSwitchError)}
    (call :
      ToggleCall target skips (entered world)
        (toggle.run (entered world)).1 (toggle.run (entered world)).2) :
    (Skipped world ((guardToggle toggle).run world).1
        ((guardToggle toggle).run world).2 ∧
      (world.ks.toggleInProgress = true ∨ skips)) ∨
    (world.ks.toggleInProgress = false ∧
      world.ks.inCooldown world.host.now = false ∧
      Ran target world ((guardToggle toggle).run world).1 ((guardToggle toggle).run world).2) := by
  rw [guardToggle_run]
  cases busy : world.ks.toggleInProgress with
  | true =>
    rw [if_pos rfl]
    exact .inl ⟨⟨Std.Refl.refl world, rfl⟩, .inl rfl⟩
  | false =>
    rw [if_neg Bool.false_ne_true]
    rcases call with
      ⟨skips, commands, ok⟩ | ⟨notCooling, started, waited, toggled⟩
    · refine .inl ⟨?_, .inr skips⟩
      exact
        { clock := commands.clock
          log := commands.log
          ks := by rw [left, commands.ks, entered, ← busy]
          ok := ok }
    · exact .inr ⟨rfl, notCooling, toggled.ran waited⟩

/-- `enable` skips, or runs a toggle that ends in the flag being set. -/
theorem enable_spec (world : KsWorld) :
    (Skipped world ((enable env).run world).1
        ((enable env).run world).2 ∧
      (world.ks.toggleInProgress = true ∨
        world.ks.inCooldown world.host.now = true ∨
        world.ks.enabled = true)) ∨
    (world.ks.toggleInProgress = false ∧
      world.ks.inCooldown world.host.now = false ∧
      Ran true world ((enable env).run world).1 ((enable env).run world).2) :=
  guardToggle_spec (enableInner_call env (entered world))

/-- `disable` skips, or runs a toggle that ends in the flag being cleared. -/
theorem disable_spec (world : KsWorld) :
    (Skipped world ((disable env).run world).1
        ((disable env).run world).2 ∧
      (world.ks.toggleInProgress = true ∨ world.ks.inCooldown world.host.now = true)) ∨
    (world.ks.toggleInProgress = false ∧
      world.ks.inCooldown world.host.now = false ∧
      Ran false world ((disable env).run world).1 ((disable env).run world).2) :=
  guardToggle_spec (disableInner_call env (entered world))

theorem disable_ran
    (idle : world.ks.toggleInProgress = false)
    (cooled : world.ks.inCooldown world.host.now = false) :
    Ran false world ((disable env).run world).1 ((disable env).run world).2 := by
  rcases disable_spec env world with
    ⟨-, busy | cooling⟩ | ⟨-, -, ran⟩
  · exact absurd busy (by simp [idle])
  · exact absurd cooling (by simp [cooled])
  · exact ran

/-- Whatever `enable` is called on, it reports no error. -/
def EnableWorks : Prop :=
  ∀ world, ((enable env).run world).1 = none

/-- Without an error, whether the switch goes on is a matter of time. -/
theorem enable_enabled_iff
    (off : world.ks.enabled = false)
    (ok : ((enable env).run world).1 = none) :
    ((enable env).run world).2.ks.enabled = true ↔
      world.ks.toggleInProgress = false ∧ world.ks.inCooldown world.host.now = false := by
  rcases enable_spec env world with ⟨skipped, reason⟩ | ⟨idle, cooled, ran⟩
  · rw [skipped.ks, off]
    refine iff_of_false Bool.false_ne_true ?_
    rintro ⟨idle, cooled⟩
    rcases reason with busy | cooling | enabled
    · exact Bool.false_ne_true (idle.symm.trans busy)
    · exact Bool.false_ne_true (cooled.symm.trans cooling)
    · exact Bool.false_ne_true (off.symm.trans enabled)
  · exact iff_of_true (ran.done ok) ⟨idle, cooled⟩

/-- Every command runs into its timeout. -/
def Hangs : Prop :=
  ∀ number command, env.fault number command = some .timeout

section Hanging

variable {env}

section

variable (hangs : Hangs env)

include hangs

theorem Hangs.outcomeOf
    (host : Host)
    (command : FwCommand) :
    host.outcomeOf env command = .timedOut := by
  rw [Host.outcomeOf, hangs]

theorem Hangs.succeeds
    (command : FwCommand)
    (world : KsWorld) :
    ((succeeds env command).run world).1 = false := by
  change (world.host.outcomeOf env command).succeeded = false
  rw [hangs.outcomeOf]
  rfl

theorem Hangs.nftIsAvailable (world : KsWorld) :
    ((nftIsAvailable env).run world).1 = false := by
  rw [KillSwitch.nftIsAvailable, run_bind, hangs.succeeds,
    if_neg Bool.false_ne_true, run_bind, hangs.succeeds,
    if_neg Bool.false_ne_true, hangs.succeeds]

theorem Hangs.selectBackend (world : KsWorld) :
    ((selectBackend env).run world).1 = .error (.spawn "timed out") := by
  have listed : ∀ state, ((checkSudoAccess env).run state).1 = some (.spawn "timed out") := by
    intro state
    change sudoError? (state.host.outcomeOf env _) = _
    rw [hangs.outcomeOf]
    rfl
  rw [KillSwitch.selectBackend, run_bind, hangs.nftIsAvailable,
    if_neg Bool.false_ne_true, run_bind, listed]
  have falls : shouldFallbackToNft (.spawn "timed out") = true := rfl
  dsimp only
  rw [if_pos falls, run_bind, checkIptablesLegacyAccess, hangs.succeeds]
  rfl

theorem Hangs.install (world : KsWorld) :
    ((install env).run world).1 = some (.spawn "timed out") := by
  rw [KillSwitch.install, run_get_bind]
  rw [run_bind, run_bind, run_bind, run_bind, hangs.selectBackend, run_pure]

theorem Hangs.enable
    {world : KsWorld}
    (off : world.ks.enabled = false) :
    ((enable env).run world).2.ks.enabled = false := by
  rcases enable_spec env world with ⟨skipped, -⟩ | ⟨idle, cooled, ran⟩
  · rw [skipped.ks]
    exact off
  · have stillCooled :
        (entered world).ks.inCooldown (entered world).host.now = false :=
      cooled
    have stillOff : (entered world).ks.enabled = false := off
    have failed : ((KillSwitch.enable env).run world).1 = some (.spawn "timed out") := by
      rw [KillSwitch.enable, guardToggle_run, idle,
        if_neg Bool.false_ne_true, enableInner_run, stillCooled,
        if_neg Bool.false_ne_true, stillOff, if_neg Bool.false_ne_true,
        hangs.install]
    rw [ran.failed _ failed]
    exact off

end

end Hanging

end Operations

end Shroud.KillSwitch
