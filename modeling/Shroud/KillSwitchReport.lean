import Shroud.SwitchGap

namespace Shroud

open StateProgram

/-!
# The reported state of the kill switch

Several handlers write what is reported about the kill switch, each with its
own rule.  The report stays true as long as no handler finds the kill switch
in its cooldown, no failed disable is taken for a success, and no reloaded file
disagrees with the switch.
-/

variable {target : Bool}

namespace KillSwitch

variable (env : FwEnv)

/-- The error of an `nft delete` that is issued now. -/
def nftDeleteError (host : Host) : Option KillSwitchError :=
  tolerateAbsent (nftError? (host.outcomeOf env .nftDelete))

/-- The error of an `nft delete` behind the first probe that succeeds. -/
def probedDeleteError : List FwCommand → Host → Option KillSwitchError
  | [], _ => none
  | probe :: rest, host =>
    if (host.outcomeOf env probe).succeeded then
      nftDeleteError env (host.after env probe)
    else
      probedDeleteError rest (host.after env probe)

/-- The probes of `nft_is_available`. -/
def nftProbes : List FwCommand :=
  (List.finRange 3).map .nftVersion

/-- The error of a disable that falls back to another tool. -/
def fallbackDisableError (host : Host) : Option KillSwitchError :=
  if (host.outcomeOf env (.listAll .legacy)).succeeded then none
  else probedDeleteError env nftProbes (host.after env (.listAll .legacy))

/-- The error of a disable when `iptables` cannot be used. -/
def unusableDisableError (error : KillSwitchError) (host : Host) :
    Option KillSwitchError :=
  if error = .permission then some error
  else if shouldFallbackToNft error then fallbackDisableError env host
  else none

/-- The error for which a switch that uses `iptables` cannot be disabled. -/
def iptablesDisableError (host : Host) : Option KillSwitchError :=
  match sudoError? (host.outcomeOf env (.listAll .default)) with
  | none => none
  | some error =>
    unusableDisableError env error (host.after env (.listAll .default))

/-- The error for which a switch cannot be disabled on this host. -/
def disableError (backend : FirewallBackend) (host : Host) :
    Option KillSwitchError :=
  match backend with
  | .nftables => nftDeleteError env host
  | .iptables => iptablesDisableError env host

/-- The error of removing the rules. -/
def removeError (world : KsWorld) : Option KillSwitchError :=
  match world.ks.backend with
  | .iptables => none
  | .nftables => nftDeleteError env world.host

variable {world before : KsWorld}

section Results

variable {expected : Option KillSwitchError}

theorem removeRules_result :
    Ensures (fun world => removeError env world = expected)
      (removeRules env) (fun result _ => result = expected) := by
  refine .get ?_
  rintro ⟨ks, host⟩ _ ⟨rfl, before⟩
  rw [← before, removeError]
  dsimp only
  cases ks.backend with
  | iptables => rfl
  | nftables =>
    have asked : ((disableNft env).run ⟨ks, host⟩).1 = nftDeleteError env host :=
      rfl
    dsimp only
    rw [run_bind, asked]
    cases nftDeleteError env host with
    | none => rfl
    | some error => rfl

theorem succeeds_probed
    (probe : FwCommand)
    (rest : List FwCommand) :
    Ensures
      (fun world =>
        probedDeleteError env (probe :: rest) world.host = expected)
      (succeeds env probe)
      (fun found world =>
        (if found then nftDeleteError env world.host
          else probedDeleteError env rest world.host) = expected) :=
  fun _ before => before

theorem nftIsAvailable_probed :
    Ensures
      (fun world => probedDeleteError env nftProbes world.host = expected)
      (nftIsAvailable env)
      (fun found world =>
        (if found then nftDeleteError env world.host else none) =
          expected) := by
  refine (succeeds_probed env (.nftVersion 0) _).bind ?_
  intro first
  cases first with
  | true => exact .pure (fun _ before => before)
  | false =>
    refine (succeeds_probed env (.nftVersion 1) _).bind ?_
    intro second
    cases second with
    | true => exact .pure (fun _ before => before)
    | false => exact succeeds_probed env (.nftVersion 2) []

theorem disableWithoutIptables_result (error : KillSwitchError) :
    Ensures
      (fun world =>
        world.ks.backend = .iptables ∧ unusableDisableError env error world.host = expected)
      (disableWithoutIptables env error)
      (fun result _ => result = expected) := by
  have remains :
      Ensures
        (fun world => world.ks.backend = .iptables ∧ none = expected)
        (removeRules env) (fun result _ => result = expected) := by
    refine (removeRules_result env).strengthen ?_
    intro world before
    rw [removeError, before.1]
    exact before.2
  have listed :
      Ensures
        (fun world =>
          world.ks.backend = .iptables ∧ fallbackDisableError env world.host = expected)
        (checkIptablesLegacyAccess env)
        (fun legacy world =>
          world.ks.backend = .iptables ∧
            (if legacy then none
              else probedDeleteError env nftProbes world.host) =
                expected) :=
    fun _ before => before
  have probed :
      Ensures
        (fun world =>
          world.ks.backend = .iptables ∧ probedDeleteError env nftProbes world.host = expected)
        (nftIsAvailable env)
        (fun found world =>
          world.ks.backend = .iptables ∧
            (if found then nftDeleteError env world.host else none) =
              expected) := by
    intro world before
    refine ⟨?_, nftIsAvailable_probed env world before.2⟩
    rw [(nftIsAvailable_keeps env world).ks]
    exact before.1
  by_cases permission : error = .permission
  · rw [disableWithoutIptables, if_pos permission]
    refine .pure ?_
    intro _ before
    rw [← before.2, unusableDisableError, if_pos permission]
  by_cases fallback : shouldFallbackToNft error = true
  · rw [disableWithoutIptables, if_neg permission, if_pos fallback]
    refine .bind (listed.strengthen ?_) ?_
    · intro world before
      rw [unusableDisableError, if_neg permission, if_pos fallback] at before
      exact before
    intro legacy
    cases legacy with
    | true => exact .seq (fun _ before => before) remains
    | false =>
      refine probed.bind ?_
      intro found
      cases found with
      | false => exact remains
      | true =>
        refine .bind ?_ fun _ => removeRules_result env
        exact fun _ before => before.2
  · rw [disableWithoutIptables, if_neg permission, if_neg fallback]
    refine remains.strengthen ?_
    intro world before
    rw [unusableDisableError, if_neg permission, if_neg fallback] at before
    exact before

theorem uninstall_result (world : KsWorld) :
    ((uninstall env).run world).1 = disableError env world.ks.backend world.host := by
  cases backend : world.ks.backend with
  | nftables =>
    have removes : removeError env (stamped world) = disableError env .nftables world.host := by
      rw [removeError, stamped, backend, disableError]
    rw [uninstall_nftables backend]
    exact removeRules_result env _ removes
  | iptables =>
    have asked :
        ((checkSudoAccess env).run (stamped world)).1 =
          sudoError? (world.host.outcomeOf env (.listAll .default)) :=
      rfl
    have listed :
        ((checkSudoAccess env).run (stamped world)).2 =
          { stamped world with
            host := world.host.after env (.listAll .default) } :=
      rfl
    rw [disableError, iptablesDisableError]
    cases access :
        sudoError? (world.host.outcomeOf env (.listAll .default)) with
    | none =>
      have removes :
          removeError env
            { stamped world with
              host := world.host.after env (.listAll .default) } =
            none := by
        rw [removeError, stamped, backend]
      rw [uninstall_iptables backend (asked.trans access), listed]
      exact removeRules_result env _ removes
    | some error =>
      rw [uninstall_iptables backend (asked.trans access), listed]
      exact disableWithoutIptables_result env error _ ⟨backend, rfl⟩

/-- Outside the cooldown `disable` fails exactly with that error. -/
theorem disable_result
    (idle : world.ks.toggleInProgress = false)
    (notCooling : world.ks.inCooldown world.host.now = false) :
    ((disable env).run world).1 = disableError env world.ks.backend world.host := by
  rw [disable_uninstalls env idle notCooling]
  exact uninstall_result env (entered world)

end Results

/-- No toggle is going on and the last one is not in the future. -/
structure Steady (world : KsWorld) : Prop where
  idle : world.ks.toggleInProgress = false
  past : ∀ time, world.ks.lastToggleTime = some time → time ≤ world.host.now

variable {after : KsWorld}

theorem Steady.later
    (steady : Steady before)
    (ks : after.ks = before.ks)
    (clock : before.host.now ≤ after.host.now) :
    Steady after where
  idle := by
    rw [ks]
    exact steady.idle
  past := by
    intro time isTime
    rw [ks] at isTime
    exact (steady.past time isTime).trans clock

theorem Ran.steady
    {result : Option KillSwitchError}
    (ran : Ran target before result after) :
    Steady after where
  idle := ran.inProgress
  past := by
    intro time isTime
    obtain ⟨stamp, isStamp, -, notLater⟩ := ran.stamp
    rw [isTime] at isStamp
    rw [Option.some.inj isStamp]
    exact notLater

theorem Steady.cooledDown
    (steady : Steady before)
    (ks : after.ks = before.ks)
    (clock : before.host.now + toggleCooldownMs ≤ after.host.now) :
    after.ks.inCooldown after.host.now = false := by
  rw [ks, inCooldown]
  cases isTime : before.ks.lastToggleTime with
  | none => rfl
  | some time =>
    have past := steady.past time isTime
    apply decide_eq_false
    omega

/-- A call that switches towards a target, outside the cooldown. -/
structure SwitchedTo
    (target : Bool)
    (before : KsWorld)
    (result : Option KillSwitchError)
    (after : KsWorld) : Prop where
  steady : Steady after
  done : result = none → after.ks.enabled = target
  failed : ∀ error, result = some error → after.ks.enabled = before.ks.enabled

theorem Ran.switchedTo
    {result : Option KillSwitchError}
    (ran : Ran target before result after) :
    SwitchedTo target before result after :=
  ⟨ran.steady, ran.done, ran.failed⟩

section

variable (steady : Steady world)

include steady

theorem enable_switchedTo
    (notCooling : world.ks.inCooldown world.host.now = false) :
    SwitchedTo true world ((enable env).run world).1 ((enable env).run world).2 := by
  rcases enable_spec env world with
    ⟨skipped, busy | cooling | enabled⟩ | ⟨-, -, ran⟩
  · exact absurd busy (by simp [steady.idle])
  · exact absurd cooling (by simp [notCooling])
  · refine ⟨steady.later skipped.ks skipped.clock, ?_, ?_⟩
    · intro _
      rw [skipped.ks]
      exact enabled
    · intro _ _
      rw [skipped.ks]
  · exact ran.switchedTo

theorem disable_switchedTo
    (notCooling : world.ks.inCooldown world.host.now = false) :
    SwitchedTo false world ((disable env).run world).1 ((disable env).run world).2 :=
  (disable_ran env steady.idle notCooling).switchedTo

theorem enable_steady :
    Steady ((enable env).run world).2 := by
  rcases enable_spec env world with ⟨skipped, -⟩ | ⟨-, -, ran⟩
  · exact steady.later skipped.ks skipped.clock
  · exact ran.steady

theorem disable_steady :
    Steady ((disable env).run world).2 := by
  rcases disable_spec env world with ⟨skipped, -⟩ | ⟨-, -, ran⟩
  · exact steady.later skipped.ks skipped.clock
  · exact ran.steady

theorem syncState_steady :
    Steady ((syncState env).run world).2 := by
  have asked := detectActiveBackend_keeps env world
  have kept := steady.later asked.ks asked.clock
  rw [syncState, run_bind]
  cases ((detectActiveBackend env).run world).1 with
  | none => exact ⟨kept.idle, kept.past⟩
  | some backend => exact ⟨kept.idle, kept.past⟩

end

theorem syncState_stamp (world : KsWorld) :
    ((syncState env).run world).2.ks.lastToggleTime = world.ks.lastToggleTime := by
  have asked := detectActiveBackend_keeps env world
  have same := congrArg KillSwitch.lastToggleTime asked.ks
  rw [syncState, run_bind]
  cases ((detectActiveBackend env).run world).1 with
  | none => exact same
  | some backend => exact same

end KillSwitch

namespace Supervisor

open KillSwitch (Steady SwitchedTo)

/-- What is reported about the kill switch is so. -/
structure Consistent (world : World) : Prop where
  reported : world.shared.killSwitch = world.killSwitchIsEnabled
  steady : Steady world.kill

theorem Consistent.nmOnly
    {before after : World}
    (consistent : Consistent before)
    (nmOnly : NmOnly before after) :
    Consistent after where
  reported := by
    rw [nmOnly.reported, nmOnly.enabled]
    exact consistent.reported
  steady := consistent.steady.later nmOnly.ks nmOnly.clock

theorem consistent_steps (env : Env) :
    Steps env (fun _ => True) Consistent :=
  .of_nmOnly fun _ _ nmOnly consistent => consistent.nmOnly nmOnly

theorem consistent_notes :
    NotesSwitch Consistent :=
  fun _ _ _ _ consistent => ⟨consistent.reported, consistent.steady⟩

section Blocks

variable (env : Env)

/-- The kill switch has left its cooldown. -/
def CooledDown (world : World) : Prop :=
  world.kill.ks.inCooldown world.now = false

theorem reportSwitch_consistent
    {program : StateM KsWorld (Option KillSwitchError)}
    {world : World}
    (consistent : Consistent world)
    (switched :
      SwitchedTo target world.kill (program.run world.kill).1 (program.run world.kill).2) :
    Consistent
      ((do
        match ← onKillSwitch program with
        | some _ => pure ()
        | none =>
          modifyShared fun shared => { shared with killSwitch := target } :
          StateM World Unit).run world).2 := by
  have asked :
      (onKillSwitch program).run world =
        ((program.run world.kill).1, { world with kill := (program.run world.kill).2 }) :=
    rfl
  rw [run_bind, asked]
  cases result : (program.run world.kill).1 with
  | none => exact ⟨(switched.done result).symm, switched.steady⟩
  | some error =>
    refine ⟨?_, switched.steady⟩
    exact consistent.reported.trans (switched.failed error result).symm

theorem enableAndReport_consistent :
    Ensures (fun world => Consistent world ∧ CooledDown world)
      (enableAndReport env) (fun _ => Consistent) :=
  fun _ before => reportSwitch_consistent before.1
    (KillSwitch.enable_switchedTo env.fw before.1.steady before.2)

theorem disableAndReport_consistent :
    Ensures (fun world => Consistent world ∧ CooledDown world)
      (disableAndReport env) (fun _ => Consistent) :=
  fun _ before => reportSwitch_consistent before.1
    (KillSwitch.disable_switchedTo env.fw before.1.steady before.2)

/-- The time at which a connect reaches its first kill switch block. -/
def switchTime (world : World) : Nat :=
  if world.config.preConnect then
    world.now + env.fw.scanMillis world.kill.host.scans
  else
    world.now

/-- A connect that wants to switch the kill switch finds it cooled down. -/
def ConnectFits (name : String) (world : World) : Prop :=
  world.config.killSwitchEnabled = true →
    resolvePreConnect world.config.preConnect name
        (env.fw.scan world.kill.host.scans).hostnameVpns ≠
      world.killSwitchIsEnabled →
    world.kill.ks.inCooldown (switchTime env world) = false

theorem effectivePreConnect_fits (name : String) :
    Ensures (fun world => Consistent world ∧ ConnectFits env name world)
      (effectivePreConnect env name)
      (fun preConnect world =>
        Consistent world ∧
          (world.config.killSwitchEnabled = true →
            preConnect ≠ world.killSwitchIsEnabled → CooledDown world)) := by
  intro world before
  have kept := effectivePreConnect_keeps env name world
  refine ⟨before.1.nmOnly kept, ?_⟩
  have fits := before.2
  have asked :
      (effectivePreConnect env name).run world =
        (if world.config.killSwitchEnabled && world.config.preConnect then
          do
            let scan ← onKillSwitch (KillSwitch.detectVpnEndpoints env.fw)
            pure (resolvePreConnect true name scan.hostnameVpns)
        else pure world.config.preConnect : StateM World Bool).run world :=
    rfl
  intro wanted differs
  rw [kept.wanted] at wanted
  rw [kept.enabled] at differs
  have cooled := fits wanted
  rw [asked, wanted, Bool.true_and] at differs
  rw [asked, wanted, Bool.true_and]
  rw [switchTime] at cooled
  cases preConnect : world.config.preConnect with
  | true =>
    rw [preConnect, if_pos rfl] at cooled differs
    rw [if_pos rfl]
    exact cooled differs
  | false =>
    rw [preConnect, if_neg Bool.false_ne_true] at cooled differs
    rw [if_neg Bool.false_ne_true]
    exact cooled differs

theorem prepareKillSwitch_consistent (preConnect : Bool) :
    Ensures
      (fun world =>
        Consistent world ∧
          (world.config.killSwitchEnabled = true →
            preConnect ≠ world.killSwitchIsEnabled → CooledDown world))
      (prepareKillSwitch env preConnect) (fun _ => Consistent) := by
  refine .get ?_
  rintro _ current ⟨rfl, consistent, cooled⟩
  cases wanted : current.config.killSwitchEnabled with
  | false => exact consistent
  | true =>
    have cooled' := cooled wanted
    cases preConnect with
    | true =>
      cases enabled : current.killSwitchIsEnabled with
      | true => exact consistent
      | false =>
        rw [enabled] at cooled'
        exact enableAndReport_consistent env current ⟨consistent, cooled' nofun⟩
    | false =>
      cases enabled : current.killSwitchIsEnabled with
      | false => exact consistent
      | true =>
        rw [enabled] at cooled'
        exact disableAndReport_consistent env current ⟨consistent, cooled' nofun⟩

theorem clock_steps (time : Nat) :
    Steps env (fun _ => True) (fun world => time ≤ world.now) :=
  .of_nmOnly fun _ _ nmOnly before => before.trans nmOnly.clock

variable (name : String)

theorem monitorConnection_clock (attempts start : Nat) :
    Ensures (fun world => start ≤ world.now)
      (monitorConnection env name attempts)
      (fun up world =>
        up = true → start + KillSwitch.toggleCooldownMs ≤ world.now) := by
  cases attempts with
  | zero => exact .pure (fun _ _ => nofun)
  | succ attempts =>
    have slept :
        Ensures (fun world => start ≤ world.now)
          (sleep connectionMonitorIntervalMs)
          (fun _ world =>
            start + KillSwitch.toggleCooldownMs ≤ world.now) :=
      fun _ before => Nat.add_le_add_right before _
    refine .weaken ?_ fun _ _ after (_ : _ = true) => after
    refine slept.seq ?_
    refine .bind ((clock_steps env _).getVpnState name) ?_
    intro answer
    cases answer with
    | none => exact .pure (fun _ before => before)
    | some state =>
      cases state with
      | activated =>
        exact Preserves.seq ((clock_steps env _).nmVpnUp trivial) .pure
      | activating => exact (clock_steps env _).monitorConnection trivial _
      | _ => exact .pure (fun _ before => before)

theorem connectAttempts_clock (attempts start : Nat) :
    Ensures (fun world => start ≤ world.now)
      (connectAttempts env name attempts)
      (fun up world =>
        up = true → start + KillSwitch.toggleCooldownMs ≤ world.now) := by
  have steps := clock_steps env start
  induction attempts with
  | zero => exact .pure (fun _ _ => nofun)
  | succ attempts ih =>
    have once :
        Ensures (fun world => start ≤ world.now) (connectOnce env name)
          (fun up world =>
            start ≤ world.now ∧ (up = true → start + KillSwitch.toggleCooldownMs ≤ world.now)) := by
      refine .and (steps.connectOnce trivial) ?_
      refine .bind (steps.nmConnect name) ?_
      intro ok
      refine .either (monitorConnection_clock env name _ start) (.pure (fun _ _ => nofun))
    refine once.bind ?_
    intro up
    refine .ite (fun isUp => ?_) fun _ => ?_
    · exact .pure fun _ before _ => before.2 isUp
    refine .either (.pure (fun _ _ => nofun)) ?_
    refine .bind ?_ fun _ => ih
    exact .strengthen (steps.sleep _) fun _ before => before.1

theorem switchConnection_clock (start : Nat) :
    Ensures (fun world => start ≤ world.now) (switchConnection env name)
      (fun up world =>
        up = true → start + KillSwitch.toggleCooldownMs ≤ world.now) := by
  have steps := clock_steps env start
  have notes : NotesSwitch (fun world => start ≤ world.now) := fun _ _ _ _ => id
  have asks : Preserves (fun world => start ≤ world.now) (getAllActiveVpns env) :=
    steps.waits.getAllActiveVpns
  refine .bind asks ?_
  intro active
  refine .seq (notes.alone _) ?_
  refine .seq (steps.disconnectOthers name _) ?_
  refine .seq asks ?_
  refine .seq (steps.report rfl trivial) ?_
  exact connectAttempts_clock env name _ _

theorem switchConnection_cooledDown
    {world : World}
    (steady : Steady world.kill)
    (succeeded : ((switchConnection env name).run world).1 = true) :
    CooledDown ((switchConnection env name).run world).2 := by
  refine steady.cooledDown (switchConnection_keeps env name world).ks ?_
  exact switchConnection_clock env name world.now world (Nat.le_refl _) succeeded

theorem switchConnection_cools (name : String) :
    Ensures Consistent (switchConnection env name)
      (fun succeeded world =>
        Consistent world ∧ (succeeded = true → CooledDown world)) := by
  intro world consistent
  exact ⟨consistent.nmOnly (switchConnection_keeps env name world),
    switchConnection_cooledDown env name consistent.steady⟩

theorem rearmKillSwitch_consistent (succeeded : Bool) :
    Ensures
      (fun world =>
        Consistent world ∧ (succeeded = true → CooledDown world))
      (rearmKillSwitch env succeeded) (fun _ => Consistent) := by
  refine .get ?_
  intro current
  refine .ite (fun rearms => ?_) fun _ => .pure (fun _ before => before.2.1)
  have isUp : succeeded = true := by
    simp only [Bool.and_eq_true] at rearms
    exact rearms.1.1
  exact (enableAndReport_consistent env).strengthen fun _ before => ⟨before.2.1, before.2.2 isUp⟩

theorem handleConnect_consistent (name : String) :
    Ensures (fun world => Consistent world ∧ ConnectFits env name world)
      (handleConnect env name) (fun _ => Consistent) := by
  have begins :
      Ensures (fun world => Consistent world ∧ ConnectFits env name world)
        (beginSwitch name)
        (fun _ world => Consistent world ∧ ConnectFits env name world) :=
    fun world before =>
      ⟨consistent_notes.beginSwitch name world before.1, before.2⟩
  refine begins.seq ?_
  refine (effectivePreConnect_fits env name).bind ?_
  intro preConnect
  refine (prepareKillSwitch_consistent env preConnect).seq ?_
  refine (switchConnection_cools env name).bind ?_
  intro succeeded
  refine (rearmKillSwitch_consistent env succeeded).seq ?_
  refine .seq (consistent_notes _ _ (by intro _; rfl)) ?_
  exact .either (.pure (fun _ before => before))
    ((consistent_steps env).giveUpSwitch consistent_notes)

/-- A disconnect that gets to the kill switch can disable it. -/
def DisconnectFits (world : World) : Prop :=
  world.machine.state.serverName ≠ none →
    env.disconnects world.asked.disconnect = true →
    world.killSwitchIsEnabled = true →
    world.kill.ks.inCooldown
        (world.now + env.nmMillis world.trace.length) = false ∧
      KillSwitch.disableError env.fw world.kill.ks.backend
        (world.elapse (env.nmMillis world.trace.length)).kill.host = none

theorem releaseKillSwitch_consistent :
    Ensures
      (fun world =>
        Consistent world ∧
          (world.killSwitchIsEnabled = true →
            CooledDown world ∧
              KillSwitch.disableError env.fw world.kill.ks.backend world.kill.host = none))
      (releaseKillSwitch env) (fun _ => Consistent) := by
  refine .get ?_
  rintro _ world ⟨rfl, consistent, releases⟩
  cases enabled : world.killSwitchIsEnabled with
  | false => exact consistent
  | true =>
    obtain ⟨cooled, works⟩ := releases enabled
    have switched := KillSwitch.disable_switchedTo env.fw consistent.steady cooled
    have ok := KillSwitch.disable_result env.fw consistent.steady.idle cooled
    exact ⟨(switched.done (ok.trans works)).symm, switched.steady⟩

theorem disconnectFrom_consistent (name : String) :
    Ensures
      (fun world =>
        world.machine.state.serverName = some name ∧ Consistent world ∧ DisconnectFits env world)
      (disconnectFrom env name) (fun _ => Consistent) := by
  have disconnects :
      Ensures
        (fun world =>
          world.machine.state.serverName = some name ∧ Consistent world ∧ DisconnectFits env world)
        (nmDisconnect env name)
        (fun ok world =>
          Consistent world ∧
            (ok = true → world.killSwitchIsEnabled = true →
              CooledDown world ∧
                KillSwitch.disableError env.fw world.kill.ks.backend world.kill.host = none)) := by
    rintro world ⟨isServer, consistent, fits⟩
    refine ⟨(consistent_steps env).nmDisconnect name world consistent, ?_⟩
    exact fits (by simp [isServer])
  refine .bind ?_ fun _ => disconnects.bind ?_
  · exact fun _ before =>
      ⟨before.1, ⟨before.2.1.reported, before.2.1.steady⟩, before.2.2⟩
  intro ok
  refine .ite (fun isOk => ?_) fun _ => .pure (fun _ before => before.1)
  refine .seq ((releaseKillSwitch_consistent env).strengthen
    (fun _ before => ⟨before.1, before.2 isOk⟩)) ?_
  exact (consistent_steps env).tell rfl

theorem handleDisconnect_consistent :
    Ensures (fun world => Consistent world ∧ DisconnectFits env world)
      (handleDisconnect env) (fun _ => Consistent) := by
  refine .change (fun world => Consistent world ∧ DisconnectFits env world)
    (fun _ before => ⟨⟨before.1.reported, before.1.steady⟩, before.2⟩) ?_
  refine .get ?_
  rintro _ world ⟨rfl, before⟩
  cases isServer : world.machine.state.serverName with
  | none => exact before.1
  | some name =>
    exact disconnectFrom_consistent env name world ⟨isServer, before⟩

/-- A toggle that fails to disable says so. -/
def ToggleFits (world : World) : Prop :=
  world.config.killSwitchEnabled = true →
    world.killSwitchIsEnabled = true →
    world.kill.ks.inCooldown world.now = false →
    ∀ error,
      KillSwitch.disableError env.fw world.kill.ks.backend
          world.kill.host = some error →
        isBestEffort error = false

theorem switchKillSwitch_steady
    (enable : Bool)
    {world : World}
    (steady : Steady world.kill) :
    Steady ((switchKillSwitch env enable).run world).2.kill := by
  cases enable with
  | true => exact KillSwitch.enable_steady env.fw steady
  | false => exact KillSwitch.disable_steady env.fw steady

theorem switchKillSwitch_failed
    {enable : Bool}
    {world : World}
    {error : KillSwitchError}
    (failed : ((switchKillSwitch env enable).run world).1 = some error) :
    world.kill.ks.inCooldown world.now = false ∧
      ((switchKillSwitch env enable).run world).2.killSwitchIsEnabled =
        world.killSwitchIsEnabled := by
  cases enable with
  | true =>
    rcases KillSwitch.enable_spec env.fw world.kill with
      ⟨skipped, -⟩ | ⟨-, notCooling, ran⟩
    · exact absurd (skipped.ok.symm.trans failed) nofun
    · exact ⟨notCooling, ran.failed error failed⟩
  | false =>
    rcases KillSwitch.disable_spec env.fw world.kill with
      ⟨skipped, -⟩ | ⟨-, notCooling, ran⟩
    · exact absurd (skipped.ok.symm.trans failed) nofun
    · exact ⟨notCooling, ran.failed error failed⟩

theorem toggleKillSwitch_consistent :
    Ensures (fun world => Consistent world ∧ ToggleFits env world)
      (toggleKillSwitch env) (fun _ => Consistent) := by
  rintro world ⟨consistent, fits⟩
  let enable := !world.config.killSwitchEnabled
  let switched := (switchKillSwitch env enable).run world
  have steady : Steady switched.2.kill := switchKillSwitch_steady env enable consistent.steady
  have opened :
      (toggleKillSwitch env).run world =
        (match switched.1 with
        | none =>
          if switched.2.killSwitchIsEnabled = enable then
            storeKillSwitch enable
          else pure ()
        | some error =>
          if !enable && isBestEffort error then
            modifyShared fun shared => { shared with killSwitch := false }
          else pure () : StateM World Unit).run
          (reportKillSwitch.run switched.2).2 :=
    rfl
  have reports : Consistent (reportKillSwitch.run switched.2).2 := ⟨rfl, steady⟩
  rw [opened]
  cases result : switched.1 with
  | none =>
    dsimp only
    by_cases took : switched.2.killSwitchIsEnabled = enable
    · rw [if_pos took]
      exact ⟨reports.reported, reports.steady⟩
    · rw [if_neg took]
      exact reports
  | some error =>
    dsimp only
    by_cases bestEffort : (!enable && isBestEffort error) = true
    · rw [if_pos bestEffort]
      refine ⟨?_, reports.steady⟩
      obtain ⟨notCooling, sameFlag⟩ := switchKillSwitch_failed env result
      simp only [Bool.and_eq_true, Bool.not_eq_true'] at bestEffort
      obtain ⟨disables, isBest⟩ := bestEffort
      have wanted : world.config.killSwitchEnabled = true := by
        simpa [enable] using disables
      have isError :
          KillSwitch.disableError env.fw world.kill.ks.backend world.kill.host = some error := by
        rw [← KillSwitch.disable_result env.fw consistent.steady.idle notCooling, ← result]
        change _ = ((switchKillSwitch env enable).run world).1
        rw [disables]
        rfl
      -- a switch that was on would still be on behind the report
      cases enabled : world.killSwitchIsEnabled with
      | false => exact (sameFlag.trans enabled).symm
      | true =>
        have notBest := fits wanted enabled notCooling error isError
        exact absurd (isBest.symm.trans notBest) nofun
    · rw [if_neg bestEffort]
      exact reports

theorem ipcKillSwitch_consistent (enable : Bool) :
    Ensures Consistent (ipcKillSwitch env enable) (fun _ => Consistent) := by
  refine .get ?_
  rintro _ world ⟨rfl, consistent⟩
  by_cases already : world.killSwitchIsEnabled = enable
  · rw [if_pos already]
    exact consistent
  rw [if_neg already, run_bind]
  have steady := switchKillSwitch_steady env enable consistent.steady
  cases result : ((switchKillSwitch env enable).run world).1 with
  | none => exact ⟨rfl, steady⟩
  | some error =>
    refine ⟨?_, steady⟩
    have sameFlag := (switchKillSwitch_failed env result).2
    exact consistent.reported.trans sameFlag.symm

/-- A reloaded file agrees with the kill switch. -/
def ReloadFits (loaded : Config) (world : World) : Prop :=
  loaded.killSwitchEnabled = world.killSwitchIsEnabled

theorem reloadConfiguration_consistent (loaded : Config) :
    Ensures (fun world => Consistent world ∧ ReloadFits loaded world)
      (reloadConfiguration loaded) (fun _ => Consistent) := by
  rintro world ⟨consistent, fits⟩
  refine ⟨?_, consistent.steady.idle, consistent.steady.past⟩
  exact (appliedFlag_self loaded.killSwitchEnabled).trans fits

theorem beginHealthCheck_consistent :
    Ensures Consistent (beginHealthCheck env) (fun _ => Consistent) := by
  refine .bind (consistent_steps env).syncStateFromNm ?_
  intro corrected
  refine .either (.pure (fun _ before => before)) ?_
  refine .bind ?_ (fun _ => Ensures.get (fun _ =>
    .pure (fun _ before => before.2)))
  intro world consistent
  exact ⟨rfl, KillSwitch.syncState_steady env.fw consistent.steady⟩

/-- The handlers that may touch the kill switch, and pauses between them. -/
inductive Step where
  | wait (millis : Nat)
  | handleConnect (name : String)
  | handleDisconnect
  | toggleKillSwitch
  | ipcKillSwitch (enable : Bool)
  | reloadConfiguration (loaded : Config)
  | beginHealthCheck

def Step.run : Step → StateM World Unit
  | .wait millis => sleep millis
  | .handleConnect name => Supervisor.handleConnect env name
  | .handleDisconnect => Supervisor.handleDisconnect env
  | .toggleKillSwitch => Supervisor.toggleKillSwitch env
  | .ipcKillSwitch enable => do
      let _ ← handleIpcCommand env (.killSwitch enable)
      pure ()
  | .reloadConfiguration loaded => Supervisor.reloadConfiguration loaded
  | .beginHealthCheck => do
      let _ ← Supervisor.beginHealthCheck env
      pure ()

def Step.after (step : Step) (world : World) : World :=
  ((step.run env).run world).2

/-- What a step needs of the state it starts in. -/
def Step.Fits (world : World) : Step → Prop
  | .wait _ => True
  | .handleConnect name => ConnectFits env name world
  | .handleDisconnect => DisconnectFits env world
  | .toggleKillSwitch => ToggleFits env world
  | .ipcKillSwitch _ => True
  | .reloadConfiguration loaded => ReloadFits loaded world
  | .beginHealthCheck => True

def runSteps (steps : List Step) (start : World) : World :=
  steps.foldl (fun world step => step.after env world) start

/-- Every step of a run fits the state it starts in. -/
def AllFit : List Step → World → Prop
  | [], _ => True
  | step :: rest, world =>
    step.Fits env world ∧ AllFit rest (step.after env world)

theorem Step.after_consistent
    {step : Step}
    {world : World}
    (consistent : Consistent world)
    (fits : step.Fits env world) :
    Consistent (step.after env world) := by
  cases step with
  | wait millis => exact consistent.nmOnly (sleep_keeps millis world)
  | handleConnect name =>
    exact handleConnect_consistent env name world ⟨consistent, fits⟩
  | handleDisconnect =>
    exact handleDisconnect_consistent env world ⟨consistent, fits⟩
  | toggleKillSwitch =>
    exact toggleKillSwitch_consistent env world ⟨consistent, fits⟩
  | ipcKillSwitch enable =>
    exact ipcKillSwitch_consistent env enable world consistent
  | reloadConfiguration loaded =>
    exact reloadConfiguration_consistent loaded world ⟨consistent, fits⟩
  | beginHealthCheck => exact beginHealthCheck_consistent env world consistent

theorem runSteps_consistent
    {steps : List Step}
    {start : World}
    (consistent : Consistent start)
    (fits : AllFit env steps start) :
    Consistent (runSteps env steps start) := by
  induction steps generalizing start with
  | nil => exact consistent
  | cons step rest ih =>
    exact ih (step.after_consistent env consistent fits.1) fits.2

theorem AllFit.of_append
    {done rest : List Step}
    {start : World}
    (fits : AllFit env (done ++ rest) start) :
    AllFit env done start := by
  induction done generalizing start with
  | nil => trivial
  | cons step later ih => exact ⟨fits.1, ih fits.2⟩

/-- Along a run whose steps all fit, the report is true after each of them. -/
theorem reported_state_is_real
    (start : World)
    (consistent : Consistent start)
    (steps : List Step)
    (fits : AllFit env steps start) :
    ∀ done, done <+: steps →
      (runSteps env done start).shared.killSwitch =
        (runSteps env done start).killSwitchIsEnabled := by
  rintro done ⟨rest, rfl⟩
  exact (runSteps_consistent env consistent fits.of_append).reported

end Blocks

theorem restingWorld_consistent :
    Consistent restingWorld :=
  ⟨rfl, rfl, nofun⟩

theorem reported_state_is_real_armed :
    (runSteps calmEnv [.toggleKillSwitch, .handleConnect "berlin"]
        restingWorld).shared.killSwitch =
      (runSteps calmEnv [.toggleKillSwitch, .handleConnect "berlin"]
        restingWorld).killSwitchIsEnabled := by
  -- the switch is on when the connect starts, as the connect wants it
  have armed : (Step.toggleKillSwitch.after calmEnv restingWorld).killSwitchIsEnabled = true := by
    decide
  have preConnect :
      (Step.toggleKillSwitch.after calmEnv restingWorld).config.preConnect = true := by
    decide
  have connectFits :
      ConnectFits calmEnv "berlin" (Step.toggleKillSwitch.after calmEnv restingWorld) := by
    intro _ differs
    rw [armed, preConnect] at differs
    exact absurd rfl differs
  exact reported_state_is_real calmEnv restingWorld restingWorld_consistent
    [.toggleKillSwitch, .handleConnect "berlin"]
    ⟨nofun, connectFits, trivial⟩ _ (List.prefix_refl _)

def connectedWorld : World :=
  { restingWorld with
    machine := { restingWorld.machine with state := .connected "berlin" }
    shared := { restingWorld.shared with state := .connected "berlin" } }

/-- A disconnect right after the switch was toggled on reports it off. -/
theorem disconnect_misreports :
    Consistent connectedWorld ∧
      (runSteps calmEnv [.toggleKillSwitch, .handleDisconnect]
        connectedWorld).shared.killSwitch = false ∧
      (runSteps calmEnv [.toggleKillSwitch, .handleDisconnect]
        connectedWorld).killSwitchIsEnabled = true := by
  refine ⟨⟨rfl, rfl, nofun⟩, ?_⟩
  decide

end Supervisor

end Shroud
