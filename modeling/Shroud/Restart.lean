import Shroud.CleanupEffects
import Shroud.DisableComplete
import Shroud.FirewallTrace
import Shroud.Ipv6Block

namespace Shroud

open Netfilter IptablesScript StateProgram

/-!
# The firewall across a restart

`handle_restart` leaves the kill switch alone, but the event loop ends through
`graceful_shutdown`, which cleans up an enabled kill switch, and a new daemon
cleans up chains that it finds before its constructor looks at the firewall.
-/

namespace Supervisor

section Leaving

variable (env : Env)

/-- `graceful_shutdown`. -/
def gracefulShutdown : StateM World Unit :=
  cleanupOnExit env

/-- The event loop ends when an exit was requested. -/
def leaveIfAsked : StateM World Unit := do
  let world ← get
  if world.exitReason.isSome then gracefulShutdown env else pure ()

/-- The two ways to ask for a restart. -/
inductive RestartRequest where
  | tray
  | ipc
  deriving Repr, DecidableEq

/-- The event loop from a restart command to its end. -/
def runRestart : RestartRequest → StateM World Unit
  | .tray => do
      handleRestart env
      leaveIfAsked env
  | .ipc => do
      let _ ← handleIpcCommand env .restart
      leaveIfAsked env

end Leaving

/-- What the new process finds. -/
structure Child where
  config : Config
  health : HealthConfig
  maxRetries : Nat
  /-- Whether the iptables binary is where it is expected. -/
  binaryFound : Bool
  /-- Whether the old process has exited when the lock is tried. -/
  lockFree : Bool

section Starting

variable (env : FwEnv)

/-- `validate_sudoers_on_startup`; its result is only logged. -/
def validateSudoersOnStartup (binaryFound : Bool) : StateM KsWorld Unit := do
  if binaryFound then do
    let _ ← KillSwitch.runCommand env (.listAll .default)
    pure ()
  else
    pure ()

/--
`run_daemon_mode` up to the end of `VpnSupervisor::new`.  A process that does
not get the instance lock ends at once.
-/
def startDaemon (child : Child) : StateM KsWorld Unit := do
  validateSudoersOnStartup env child.binaryFound
  if child.lockFree then do
    KillSwitch.cleanupStaleOnStartup env
    KillSwitch.syncState env
  else
    pure ()

end Starting

/--
The kill switch and the host at the end of a restart.  The only command that
the new process issues before it has the lock lists rules, so it does not
matter when it does so; the two processes have their own oracles.
-/
def restarted
    (old : Env)
    (new : FwEnv)
    (request : RestartRequest)
    (child : Child)
    (world : World) :
    KsWorld :=
  ((startDaemon new child).run
    (World.new child.config child.health child.maxRetries
      ((runRestart old request).run world).2.kill.host).kill).2

open KillSwitch

/--
The rules of the backend are in place; those of iptables in the tables of one
variant of the tools.
-/
def Installed (variant : Variant) (world : KsWorld) : Prop :=
  match world.ks.backend with
  | .nftables => (firewallOf world).nft ≠ none
  | .iptables =>
    jumpRule ∈ ((firewallOf world).table .iptables variant).output ∧
      ∃ rule rules,
        ((firewallOf world).table .iptables variant).user .killSwitch = some (rule :: rules)

/-- The rules that were in place before still are. -/
def StillBlocks
    (backend : FirewallBackend)
    (variant : Variant)
    (before now : Firewall) :
    Prop :=
  match backend with
  | .nftables => now.nft = before.nft
  | .iptables =>
    jumpRule ∈ (now.table .iptables variant).output ∧
      (now.table .iptables variant).user .killSwitch =
        (before.table .iptables variant).user .killSwitch ∧
      ∀ rule, (∀ chain, rule.jumpsTo chain = false) →
        (now.table .ip6tables variant).output.count rule =
          (before.table .ip6tables variant).output.count rule

/-- No cleanup finds a chain, or none reaches the rules. -/
def RestartSafe (variant : Variant) (world : KsWorld) : Prop :=
  match world.ks.backend with
  | .nftables =>
    (∀ tool, ((firewallOf world).table tool .default).user .killSwitch = none) ∧
    ((firewallOf world).table .iptables .default).user .boot = none
  | .iptables => variant = .legacy

/-- The rules are in place after every command of a restart. -/
def RulesStay
    (variant : Variant)
    (old : Env)
    (new : FwEnv)
    (request : RestartRequest)
    (child : Child)
    (world : World) :
    Prop :=
  AtEveryStep
    (StillBlocks world.kill.ks.backend variant (firewallOf world.kill))
    world.kill (restarted old new request child world)

def paused (world : KsWorld) (millis : Nat) : KsWorld :=
  { world with
    host := { world.host with now := world.host.now + millis } }

/-- What `graceful_shutdown` does with an enabled kill switch. -/
def exitCleanup (env : FwEnv) : StateM KsWorld Unit := do
  let _ ← cleanupWithFallback env
  syncState env

theorem leaveIfAsked_kill
    {env : Env}
    {world : World}
    (asked : world.exitReason.isSome = true)
    (enabled : world.killSwitchIsEnabled = true) :
    ((leaveIfAsked env).run world).2.kill = ((exitCleanup env.fw).run world.kill).2 := by
  rw [leaveIfAsked, run_bind, run_get, if_pos asked, gracefulShutdown,
    cleanupOnExit, run_bind, run_get, if_pos enabled]
  rfl

theorem runRestart_kill
    {env : Env}
    {world : World}
    (enabled : world.killSwitchIsEnabled = true)
    (spawns : env.restarts world.asked.restart = true)
    (request : RestartRequest) :
    ∃ millis,
      ((runRestart env request).run world).2.kill =
        ((exitCleanup env.fw).run (paused world.kill millis)).2 := by
  cases request with
  | tray =>
    refine ⟨500, ?_⟩
    rw [runRestart, run_bind, handleRestart, run_bind, run_get, run_bind, if_pos spawns]
    exact leaveIfAsked_kill rfl enabled
  | ipc =>
    refine ⟨0, ?_⟩
    rw [runRestart, run_bind, handleIpcCommand, ipcRestart, run_bind,
      run_get, run_bind, if_pos spawns]
    exact leaveIfAsked_kill rfl enabled

section Commands

variable {env : FwEnv} {holds : Firewall → Prop}

theorem syncState_throughout :
    Keeps (Throughout holds) (syncState env) := by
  refine .bind
    (detectActiveBackend_follows (observed_throughout rfl holds) (observed_throughout rfl holds)) ?_
  intro found
  have silent : ∀ change, Keeps (Throughout holds) (modifyKs change) :=
    fun change world => .of_same rfl rfl
  cases found with
  | some backend => exact silent _
  | none => exact silent _

theorem validateSudoersOnStartup_throughout (binaryFound : Bool) :
    Keeps (Throughout holds) (validateSudoersOnStartup env binaryFound) := by
  refine .either ?_ .pure
  exact (observed_throughout rfl holds).seq .pure

theorem startDaemon_throughout
    (arriving :
      ∀ state,
        holds (firewallOf state) →
        Throughout holds state ((cleanupStaleOnStartup env).run state).2)
    (child : Child)
    {world : KsWorld}
    (start : holds (firewallOf world)) :
    Throughout holds world ((startDaemon env child).run world).2 := by
  have validated := @validateSudoersOnStartup_throughout env holds child.binaryFound world
  rw [startDaemon, run_bind]
  cases child.lockFree with
  | false => exact validated
  | true =>
    have cleaned := arriving _ (validated.ends start)
    exact IsTrans.trans _ _ _ (IsTrans.trans _ _ _ validated cleaned) (syncState_throughout _)

/-- A restart, from what the cleanups of the two daemons do. -/
theorem restarted_throughout
    {old : Env}
    {new : FwEnv}
    {world : World}
    (enabled : world.killSwitchIsEnabled = true)
    (spawns : old.restarts world.asked.restart = true)
    (start : holds (firewallOf world.kill))
    (leaving :
      ∀ state,
        holds (firewallOf state) →
        Throughout holds state ((cleanupWithFallback old.fw).run state).2)
    (arriving :
      ∀ state,
        holds (firewallOf state) →
        Throughout holds state ((cleanupStaleOnStartup new).run state).2)
    (request : RestartRequest)
    (child : Child) :
    Throughout holds world.kill (restarted old new request child world) := by
  obtain ⟨millis, killed⟩ := runRestart_kill enabled spawns request
  have left : Throughout holds world.kill ((runRestart old request).run world).2.kill := by
    rw [killed]
    refine IsTrans.trans _ _ _ ?_ (syncState_throughout _)
    refine IsTrans.trans _ _ _ ?_ (leaving _ ?_)
    · exact .of_same rfl rfl
    · exact start
  have replaced :
      Throughout holds ((runRestart old request).run world).2.kill
        (World.new child.config child.health child.maxRetries
          ((runRestart old request).run world).2.kill.host).kill :=
    .of_same rfl rfl
  have reached := IsTrans.trans _ _ _ left replaced
  exact IsTrans.trans _ _ _ reached (startDaemon_throughout arriving child (reached.ends start))

theorem legacy_of_cleans
    {command : FwCommand}
    (cleans : command.cleans = true)
    {before after : Firewall}
    (executed : command.exec before = some after)
    (tool : Tool) :
    after.table tool .legacy = before.table tool .legacy := by
  rcases FwCommand.tables_of_exec executed with
    ⟨edited, variant, edit, table, rfl, -, rfl⟩ | same
  · cases variant with
    | legacy => cases edit <;> exact Bool.noConfusion cleans
    | default => rw [Firewall.table_setTable, if_neg (by simp)]
  · rw [same]

theorem restarted_keepsLegacy
    {old : Env}
    {new : FwEnv}
    {world : World}
    (enabled : world.killSwitchIsEnabled = true)
    (spawns : old.restarts world.asked.restart = true)
    (request : RestartRequest)
    (child : Child) :
    Throughout
      (fun firewall =>
        ∀ tool, firewall.table tool .legacy = (firewallOf world.kill).table tool .legacy)
      world.kill (restarted old new request child world) := by
  have removals
      {env : FwEnv}
      (command : FwCommand)
      (cleans : command.cleans = true) :
      Keeps
        (Throughout fun firewall =>
          ∀ tool, firewall.table tool .legacy = (firewallOf world.kill).table tool .legacy)
        (runCommand env command) := by
    apply runCommand_throughout
    intro before after same executed tool
    rw [legacy_of_cleans cleans executed]
    exact same tool
  refine restarted_throughout enabled spawns (fun _ => rfl) ?_ ?_ request
    child
  · intro state _
    exact cleanupWithFallback_follows removals (fun _ _ => observed_throughout rfl _) state
  · intro state _
    exact cleanupStaleOnStartup_follows removals (fun _ _ => observed_throughout rfl _) state

theorem missed_throughout
    {firewall : Firewall}
    {tool : Tool}
    {chain : Chain}
    (absent : (firewall.table tool .default).user chain = none)
    (start : KsWorld) :
    Ensures
      (fun world =>
        firewallOf world = firewall ∧ Throughout (· = firewall) start world)
      (succeeds env (.xtables tool .default (.list chain)))
      (fun found world =>
        found = false ∧ firewallOf world = firewall ∧ Throughout (· = firewall) start world) := by
  rintro world ⟨same, throughout⟩
  have looked :=
    succeeds_follows
      (@observed_throughout env (.xtables tool .default (.list chain)) rfl (· = firewall)) world
  refine ⟨succeeds_list_absent ?_, looked.ends same, IsTrans.trans _ _ _ throughout looked⟩
  rw [same]
  exact absent

theorem restarted_keepsAll
    {old : Env}
    {new : FwEnv}
    {world : World}
    (enabled : world.killSwitchIsEnabled = true)
    (spawns : old.restarts world.asked.restart = true)
    (noChain : ∀ tool, ((firewallOf world.kill).table tool .default).user .killSwitch = none)
    (noBoot : ((firewallOf world.kill).table .iptables .default).user .boot = none)
    (request : RestartRequest)
    (child : Child) :
    Throughout (· = firewallOf world.kill) world.kill (restarted old new request child world) := by
  have missed (env : FwEnv) (tool : Tool) :=
    @missed_throughout env _ _ _ (noChain tool)
  refine @restarted_throughout (· = firewallOf world.kill) old new world
    enabled spawns rfl ?_ ?_ request child
  · intro state same
    have looked :
        Ensures
          (fun now =>
            firewallOf now = firewallOf world.kill ∧
              Throughout (· = firewallOf world.kill) state now)
          (chainsExist old.fw)
          (fun found now =>
            found = false ∧
              firewallOf now = firewallOf world.kill ∧
              Throughout (· = firewallOf world.kill) state now) := by
      refine (missed old.fw .iptables state).bind ?_
      intro found4
      refine .of_pure_pre ?_
      rintro rfl
      refine (missed old.fw .ip6tables state).bind ?_
      intro found6
      refine .of_pure_pre ?_
      rintro rfl
      exact .pure fun _ now => ⟨rfl, now⟩
    obtain ⟨notFound, -, throughout⟩ := looked state ⟨same, Std.Refl.refl state⟩
    rw [cleanupWithFallback_missed notFound]
    exact throughout
  · intro state same
    have looked :
        Ensures
          (fun now =>
            firewallOf now = firewallOf world.kill ∧
              Throughout (· = firewallOf world.kill) state now)
          (cleanupStaleOnStartup new)
          (fun _ now =>
            Throughout (· = firewallOf world.kill) state now) := by
      refine (missed new .iptables state).bind ?_
      intro found4
      refine .of_pure_pre ?_
      rintro rfl
      refine (missed new .ip6tables state).bind ?_
      intro found6
      refine .of_pure_pre ?_
      rintro rfl
      refine (@missed_throughout new _ _ _ noBoot state).bind ?_
      intro foundBoot
      refine .of_pure_pre ?_
      rintro rfl
      exact .pure fun _ now => now.2
    exact looked state ⟨same, Std.Refl.refl state⟩

end Commands

/-- The chain is gone or empty. -/
def Emptied (table : Table) (chain : Chain) : Prop :=
  table.user chain = none ∨ table.user chain = some []

theorem emptied_of_removes
    {tool : Tool}
    {variant : Variant}
    {command : XCommand}
    (removes : (FwCommand.xtables tool variant command).removes = true)
    {before after : Table}
    (executed : command.exec tool before = some after)
    {chain : Chain}
    (emptied : Emptied before chain) :
    Emptied after chain := by
  have other
      {changed : Chain}
      {content : Option (List XRule)}
      (different : chain ≠ changed)
      (written : after.user = Function.update before.user changed content) :
      Emptied after chain := by
    rw [Emptied, written, Function.update_of_ne different]
    exact emptied
  cases XCommand.edit_of_exec executed with
  | @delete target rule rules present member =>
    cases target with
    | output => exact emptied
    | user changed =>
      refine other ?_ rfl
      rintro rfl
      rcases emptied with gone | empty
      · exact absurd (present.symm.trans gone) nofun
      · obtain rfl := Option.some.inj (present.symm.trans empty)
        exact absurd member List.not_mem_nil
  | @flush changed rules present =>
    by_cases same : chain = changed
    · subst same
      exact .inr (Function.update_self _ _ _)
    · exact other same rfl
  | @deleteChain changed =>
    by_cases same : chain = changed
    · subst same
      exact .inl (Function.update_self _ _ _)
    · exact other same rfl
  | _ => exact Bool.noConfusion removes

theorem emptied_kept
    (command : FwCommand)
    (firewall : Firewall)
    (cleans : command.cleans = true)
    (emptied : Emptied (firewall.table .iptables .default) .killSwitch) :
    Emptied ((command.attempt firewall).table .iptables .default) .killSwitch := by
  cases command with
  | xtables tool variant edit =>
    rw [FwCommand.attempt_xtables, Firewall.table_setTable]
    split
    · next same =>
        obtain ⟨rfl, rfl⟩ := same
        rw [XCommand.attempt]
        cases executed : edit.exec .iptables (firewall.table .iptables .default) with
        | none => exact emptied
        | some after =>
          exact emptied_of_removes (FwCommand.removes_of_cleans cleans) executed emptied
    · exact emptied
  | nftDelete =>
    rw [FwCommand.attempt_nftDelete]
    exact emptied
  | _ => exact Bool.noConfusion cleans

theorem emptied_made (env : FwEnv) :
    ∃ step ∈ cleanupScript env,
      ∀ firewall, Emptied ((step.2.attempt firewall).table .iptables .default) .killSwitch := by
  refine ⟨_, List.mem_append_left _
    (List.mem_map.mpr ⟨(.iptables, .flush .killSwitch), by decide, rfl⟩), ?_⟩
  intro firewall
  rw [FwCommand.attempt_xtables, Firewall.setTable_same, XCommand.attempt_flush, Emptied]
  dsimp only
  rw [Function.update_self]
  cases (firewall.table .iptables .default).user .killSwitch with
  | none => exact .inl rfl
  | some rules => exact .inr rfl

theorem nft_kept
    (command : FwCommand)
    (firewall : Firewall)
    (cleans : command.cleans = true)
    (gone : firewall.nft = none) :
    (command.attempt firewall).nft = none := by
  cases command with
  | xtables tool variant edit =>
    rw [FwCommand.attempt_xtables]
    exact gone
  | nftDelete => rw [FwCommand.attempt_nftDelete]
  | _ => exact Bool.noConfusion cleans

theorem nft_made (env : FwEnv) :
    ∃ step ∈ cleanupScript env, ∀ firewall, (step.2.attempt firewall).nft = none := by
  refine ⟨_, List.mem_append_right _ (List.mem_singleton.mpr rfl), ?_⟩
  intro firewall
  rw [FwCommand.attempt_nftDelete]

theorem cleanupWithFallback_explained (env : FwEnv) :
    Keeps (Throughout fun _ => True) (cleanupWithFallback env) :=
  cleanupWithFallback_follows
    (fun _ _ => runCommand_throughout (fun _ _ _ _ => trivial))
    (fun _ _ => observed_throughout rfl _)

theorem cleanupStaleOnStartup_explained (env : FwEnv) :
    Keeps (Throughout fun _ => True) (cleanupStaleOnStartup env) :=
  cleanupStaleOnStartup_follows
    (fun _ _ => runCommand_throughout (fun _ _ _ _ => trivial))
    (fun _ _ => observed_throughout rfl _)

/-- The points of a restart right after the two cleanups. -/
structure Stages
    (old : Env)
    (new : FwEnv)
    (start final paused ready : KsWorld) : Prop where
  begins : firewallOf paused = firewallOf start
  goesOn : firewallOf ready = firewallOf ((cleanupWithFallback old.fw).run paused).2
  toLeft : Throughout (fun _ => True) start ((cleanupWithFallback old.fw).run paused).2
  fromLeft : Throughout (fun _ => True) ((cleanupWithFallback old.fw).run paused).2 final
  toCleaned : Throughout (fun _ => True) start ((cleanupStaleOnStartup new).run ready).2
  fromCleaned : Throughout (fun _ => True) ((cleanupStaleOnStartup new).run ready).2 final

theorem startDaemon_stages
    {old : Env}
    {new : FwEnv}
    {start paused fresh : KsWorld}
    (pause : Throughout (fun _ => True) start paused)
    (same : firewallOf paused = firewallOf start)
    (host : fresh.host = ((exitCleanup old.fw).run paused).2.host)
    {child : Child}
    (lockFree : child.lockFree = true) :
    Stages old new start ((startDaemon new child).run fresh).2 paused
      ((validateSudoersOnStartup new child.binaryFound).run fresh).2 := by
  have left : Throughout (fun _ => True) start ((cleanupWithFallback old.fw).run paused).2 :=
    IsTrans.trans _ _ _ pause (cleanupWithFallback_explained old.fw paused)
  have arrives
      (holds : Firewall → Prop) :
      Throughout holds ((cleanupWithFallback old.fw).run paused).2
        ((validateSudoersOnStartup new child.binaryFound).run fresh).2 := by
    have synced := @syncState_throughout old.fw holds ((cleanupWithFallback old.fw).run paused).2
    have replaced : Throughout holds ((exitCleanup old.fw).run paused).2 fresh :=
      .of_same (congrArg Host.log host) (congrArg Host.firewall host)
    exact IsTrans.trans _ _ _ (IsTrans.trans _ _ _ synced replaced)
      (validateSudoersOnStartup_throughout child.binaryFound fresh)
  have cleaned :=
    cleanupStaleOnStartup_explained new
      ((validateSudoersOnStartup new child.binaryFound).run fresh).2
  have synced :
      Throughout (fun _ => True)
        ((cleanupStaleOnStartup new).run
          ((validateSudoersOnStartup new child.binaryFound).run fresh).2).2
        ((startDaemon new child).run fresh).2 := by
    rw [startDaemon, run_bind, if_pos lockFree]
    exact syncState_throughout _
  refine ⟨same, ?_, left, ?_, ?_, synced⟩
  · exact (arrives (· = firewallOf ((cleanupWithFallback old.fw).run paused).2)).ends rfl
  · exact IsTrans.trans _ _ _ (arrives _) (IsTrans.trans _ _ _ cleaned synced)
  · exact IsTrans.trans _ _ _ (IsTrans.trans _ _ _ left (arrives _)) cleaned

theorem restarted_stages
    {old : Env}
    {new : FwEnv}
    {world : World}
    (enabled : world.killSwitchIsEnabled = true)
    (spawns : old.restarts world.asked.restart = true)
    (request : RestartRequest)
    {child : Child}
    (lockFree : child.lockFree = true) :
    ∃ paused ready,
      Stages old new world.kill (restarted old new request child world) paused ready := by
  obtain ⟨millis, killed⟩ := runRestart_kill enabled spawns request
  refine ⟨paused world.kill millis,
    ((validateSudoersOnStartup new child.binaryFound).run
      (World.new child.config child.health child.maxRetries
        ((exitCleanup old.fw).run (paused world.kill millis)).2.host).kill).2, ?_⟩
  have ended :
      restarted old new request child world =
        ((startDaemon new child).run
          (World.new child.config child.health child.maxRetries
            ((exitCleanup old.fw).run (paused world.kill millis)).2.host).kill).2 := by
    rw [restarted, killed]
  rw [ended]
  refine startDaemon_stages ?_ ?_ ?_ lockFree
  · exact .of_same rfl rfl
  · rfl
  · rfl

section Unsafe

variable
  {variant : Variant}
  {old : Env}
  {new : FwEnv}
  {world : World}
  {request : RestartRequest}
  {child : Child}

/-- Where the rules stay although all commands are answered, it was safe. -/
theorem RulesStay.safe
    (stay : RulesStay variant old new request child world)
    (installed : Installed variant world.kill)
    (enabled : world.killSwitchIsEnabled = true)
    (spawns : old.restarts world.asked.restart = true)
    (oldAnswers : KillSwitch.Answers old.fw)
    (newAnswers : KillSwitch.Answers new)
    (lockFree : child.lockFree = true) :
    RestartSafe variant world.kill := by
  obtain ⟨paused, ready, stages⟩ :=
    @restarted_stages old new world enabled spawns request child lockFree
  have atLeft := stay.holds_at stages.toLeft stages.fromLeft
  have atCleaned := stay.holds_at stages.toCleaned stages.fromCleaned
  unfold Installed at installed
  unfold StillBlocks at atLeft atCleaned
  unfold RestartSafe
  cases backend : world.kill.ks.backend with
  | iptables =>
    rw [backend] at installed atLeft
    cases variant with
    | legacy => rfl
    | default =>
      obtain ⟨-, rule, rules, filled⟩ := installed
      have present :
          ((firewallOf world.kill).table .iptables .default).user .killSwitch ≠ none := by
        rw [filled]
        exact nofun
      have emptied :
          Emptied
            ((firewallOf ((cleanupWithFallback old.fw).run paused).2).table .iptables .default)
            .killSwitch :=
        cleanupWithFallback_establishes oldAnswers emptied_kept
          (emptied_made old.fw) present paused stages.begins
      rw [Emptied, atLeft.2.1, filled] at emptied
      exact emptied.elim nofun nofun
  | nftables =>
    rw [backend] at installed atLeft atCleaned
    have noChain :
        ∀ tool, ((firewallOf world.kill).table tool .default).user .killSwitch = none := by
      intro tool
      by_contra present
      have gone :=
        cleanupWithFallback_establishes oldAnswers nft_kept
          (nft_made old.fw) present paused stages.begins
      exact installed (atLeft.symm.trans gone)
    refine ⟨noChain, ?_⟩
    by_contra present
    have missed : ((chainsExist old.fw).run paused).1 = false := by
      have spec := @chainsExist_spec old.fw _ paused stages.begins
      refine Bool.eq_false_iff.mpr ?_
      intro found
      obtain ⟨tool, isThere⟩ := spec.2.1 found
      exact isThere (noChain tool)
    have untouched :
        firewallOf ((cleanupWithFallback old.fw).run paused).2 = firewallOf world.kill := by
      have spec := @cleanupWithFallback_spec old.fw _ paused stages.begins
      exact (spec.2 (by rw [cleanupWithFallback_missed missed])).1
    have gone :=
      cleanupStaleOnStartup_establishes newAnswers nft_kept
        (nft_made new) present ready (stages.goesOn.trans untouched)
    exact installed (atCleaned.symm.trans gone)

/-- Where it is safe, the rules stay whatever fails. -/
theorem RestartSafe.rulesStay
    (safe : RestartSafe variant world.kill)
    (installed : Installed variant world.kill)
    (enabled : world.killSwitchIsEnabled = true)
    (spawns : old.restarts world.asked.restart = true) :
    RulesStay variant old new request child world := by
  unfold RestartSafe at safe
  unfold Installed at installed
  unfold RulesStay StillBlocks
  cases backend : world.kill.ks.backend with
  | iptables =>
    rw [backend] at safe installed
    subst safe
    have kept :=
      (@restarted_keepsLegacy old new world enabled spawns request child).atEveryStep (fun _ => rfl)
    refine kept.mono ?_
    intro firewall same
    dsimp only
    rw [same, same]
    exact ⟨installed.1, rfl, fun _ _ => rfl⟩
  | nftables =>
    rw [backend] at safe
    have kept :=
      (@restarted_keepsAll old new world enabled spawns safe.1 safe.2 request child).atEveryStep rfl
    refine kept.mono ?_
    intro firewall same
    dsimp only
    rw [same]

end Unsafe

/-- A host on which every command and every spawn works. -/
def spawningEnv : Env :=
  { calmEnv with restarts := fun _ => true }

/-- A new process with the same configuration that gets the lock. -/
def promptChild (world : World) : Child where
  config := world.config
  health := world.healthChecker.config
  maxRetries := world.machine.maxRetries
  binaryFound := true
  lockFree := true

/--
A restart keeps the rules at every step exactly if they are nft rules and no
chain of Shroud is there to be found, or rules of the legacy tools.
-/
theorem restart_keeps_rules_iff
    {variant : Variant}
    {world : World}
    (enabled : world.killSwitchIsEnabled = true)
    (installed : Installed variant world.kill) :
    ((∀ old new request child,
        old.restarts world.asked.restart = true →
        RulesStay variant old new request child world) ↔
      RestartSafe variant world.kill) ∧
    ∀ old new request child,
      old.restarts world.asked.restart = true →
      KillSwitch.Answers old.fw → KillSwitch.Answers new → Child.lockFree child = true →
      (RulesStay variant old new request child world ↔ RestartSafe variant world.kill) := by
  have answered :
      ∀ old new request child,
        old.restarts world.asked.restart = true →
        KillSwitch.Answers old.fw → KillSwitch.Answers new → Child.lockFree child = true →
        (RulesStay variant old new request child world ↔ RestartSafe variant world.kill) := by
    intro old new request child spawns oldAnswers newAnswers lockFree
    constructor
    · intro stay
      exact stay.safe installed enabled spawns oldAnswers newAnswers lockFree
    · intro safe
      exact safe.rulesStay installed enabled spawns
  refine ⟨?_, answered⟩
  constructor
  · intro stay
    have calm : KillSwitch.Answers KillSwitch.calmEnv := ⟨fun _ _ _ => rfl, fun _ => rfl⟩
    have stays := stay spawningEnv KillSwitch.calmEnv .tray (promptChild world) rfl
    exact (answered _ _ _ _ rfl calm calm rfl).mp stays
  · intro safe old new request child spawns
    exact safe.rulesStay installed enabled spawns

theorem armedWorld_installed :
    Installed .default armedWorld.kill := by
  have backend : armedWorld.kill.ks.backend = .nftables := by decide
  have loaded : (firewallOf armedWorld.kill).nft.isSome = true := by decide
  rw [Installed, backend]
  exact Option.isSome_iff_ne_none.mp loaded

theorem armedWorld_restartSafe :
    RestartSafe .default armedWorld.kill := by
  have backend : armedWorld.kill.ks.backend = .nftables := by decide
  rw [RestartSafe, backend]
  refine ⟨?_, by decide⟩
  intro tool
  cases tool <;> decide

theorem restart_keeps_rules_armedWorld :
    RulesStay .default spawningEnv KillSwitch.calmEnv .tray (promptChild armedWorld) armedWorld :=
  (restart_keeps_rules_iff (by decide)
    armedWorld_installed).1.mpr armedWorld_restartSafe _ _ _ _ rfl

/-- A supervisor whose kill switch was enabled with the iptables tools. -/
def armedIptables : World :=
  { restingWorld with
    kill :=
      ((KillSwitch.enable (iptablesEnv [])).run restingWorld.kill).2 }

/-- A host with the iptables tools on which every spawn works. -/
def spawningIptables : Env :=
  { spawningEnv with fw := iptablesEnv [] }

/-- The old daemon takes the jump and the chain away before it exits. -/
theorem restart_removes_rules :
    armedIptables.killSwitchIsEnabled = true ∧
      ((firewallOf armedIptables.kill).table .iptables .default).output = [jumpRule] ∧
      (((firewallOf armedIptables.kill).table .iptables .default).user .killSwitch).isSome = true ∧
      ((firewallOf ((runRestart spawningIptables .tray).run
        armedIptables).2.kill).table .iptables .default).output = [] ∧
      ((firewallOf ((runRestart spawningIptables .tray).run
        armedIptables).2.kill).table .iptables .default).user .killSwitch = none ∧
      ((firewallOf ((runRestart spawningIptables .ipc).run
        armedIptables).2.kill).table .iptables .default).output = [] ∧
      ((firewallOf ((runRestart spawningIptables .ipc).run
        armedIptables).2.kill).table .iptables .default).user .killSwitch = none := by
  decide +kernel

end Supervisor

end Shroud
