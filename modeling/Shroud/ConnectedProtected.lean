import Shroud.NmTracking
import Shroud.SwitchIntent
import Shroud.SwitchKept

namespace Shroud.Supervisor

open StateProgram
open KillSwitch (Steady)

/-!
# Connected implies protected

When the kill switch is wanted, a connection that a user asks for ends with the
switch on, and so does the start of the daemon.  The handlers of what
NetworkManager says and of health checks enter `Connected` without a look at
the switch: they only leave it as it was.
-/

variable {world : World} {name : String} {event : LoopEvent}

section Connecting

variable (env : Env)

/-- The supervisor when a connect reaches its second kill switch block. -/
def switchedTo (name : String) (world : World) : World :=
  ((switchConnection env name).run (prepared env name world)).2

/-- Enabling the switch behind the connection reports no error. -/
def RearmWorks (name : String) (world : World) : Prop :=
  ((KillSwitch.enable env.fw).run (switchedTo env name world).kill).1 = none

theorem prepared_sameIntent
    (name : String)
    (world : World) :
    SameIntent world (prepared env name world) :=
  (intent_steps env world).prepares (intent_notes world) name world (Std.Refl.refl world)

theorem prepared_steady
    (name : String)
    (steady : Steady world.kill) :
    Steady (prepared env name world).kill :=
  (steady_steps env).prepares (fun _ _ _ _ steady => steady) name world steady

theorem enableAndReport_enables
    (steady : Steady world.kill)
    (cooled : CooledDown world)
    (works : ((KillSwitch.enable env.fw).run world.kill).1 = none)
    (off : world.killSwitchIsEnabled = false) :
    ((enableAndReport env).run world).2.killSwitchIsEnabled = true := by
  rw [World.killSwitchIsEnabled, enableAndReport_kill]
  exact (KillSwitch.enable_enabled_iff env.fw off works).mpr ⟨steady.idle, cooled⟩

theorem rearmKillSwitch_enables
    (steady : Steady world.kill)
    (cooled : CooledDown world)
    (wanted : world.config.killSwitchEnabled = true)
    (works : ((KillSwitch.enable env.fw).run world.kill).1 = none) :
    ((rearmKillSwitch env true).run world).2.killSwitchIsEnabled = true := by
  rw [rearmKillSwitch, run_get_bind]
  rw [wanted]
  cases enabled : world.killSwitchIsEnabled with
  | true => exact enabled
  | false => exact enableAndReport_enables env steady cooled works enabled

theorem switchConnection_succeeds
    (before : world.machine.state.isConnected = false)
    (after : ((handleConnect env name).run world).2.machine.state.isConnected = true) :
    ((switchConnection env name).run (prepared env name world)).1 = true := by
  have aside : Aside name world (prepared env name world) := by
    have begins : Keeps (Aside name) (beginSwitch name) :=
      aside_of_same name fun _ => rfl
    exact prepared_follows env name begins (aside_guards name) world
  have result := (switchConnection_answered env name world _ aside).result
  rw [result]
  rw [(handleConnect_connected env name world).state, stateAfterConnect] at after
  cases up : world.machine.state.isUp with
  | true =>
    rw [up, if_pos rfl, before] at after
    exact Bool.noConfusion after
  | false =>
    rw [up, if_neg Bool.false_ne_true] at after
    cases comes : connectComesUp env world with
    | true => rfl
    | false =>
      rw [comes, if_neg Bool.false_ne_true] at after
      exact Bool.noConfusion after

theorem finish_enabled (world : World) :
    ((do
      rearmKillSwitch env true
      finishSwitch
      if (true : Bool) then pure () else giveUpSwitch :
        StateM World Unit).run world).2.killSwitchIsEnabled =
      ((rearmKillSwitch env true).run world).2.killSwitchIsEnabled :=
  rfl

theorem handleConnect_protects
    (steady : Steady world.kill)
    (works : RearmWorks env name world)
    (wanted : world.config.killSwitchEnabled = true)
    (before : world.machine.state.isConnected = false)
    (after : ((handleConnect env name).run world).2.machine.state.isConnected = true) :
    ((handleConnect env name).run world).2.killSwitchIsEnabled = true := by
  have succeeded := switchConnection_succeeds env before after
  have stable := prepared_steady env name steady
  have kept := switchConnection_keeps env name (prepared env name world)
  have cooled := switchConnection_cooledDown env name stable succeeded
  have stillWanted : (switchedTo env name world).config.killSwitchEnabled = true := by
    rw [switchedTo, kept.wanted, (prepared_sameIntent env name world).wanted]
    exact wanted
  have enabled :=
    rearmKillSwitch_enables env (stable.later kept.ks kept.clock) cooled stillWanted works
  rw [handleConnect_prepared, connectPrepared, run_bind, succeeded]
  exact (finish_enabled env _).trans enabled

end Connecting

section Commands

variable (env : Env)

/-- The VPN that a command connects to. -/
def LoopEvent.target? (world : World) : LoopEvent → Option String
  | .trayCommand (.connect server) => some server
  | .ipcCommand (.connect server) => some server
  | .ipcCommand (.switch server) => some server
  | .ipcCommand .reconnect =>
    world.shared.state.serverName.or world.config.lastServer
  | _ => none

def LoopEvent.isCommand : LoopEvent → Bool
  | .trayCommand _ => true
  | .ipcCommand _ => true
  | .beginHealthCheck => false
  | .finishHealthCheck _ => false

theorem LoopEvent.after_target (target : event.target? world = some name) :
    event.after env world = ((handleConnect env name).run world).2 := by
  cases event with
  | trayCommand command =>
    cases command with
    | connect server =>
      have same : server = name := Option.some.inj target
      rw [same, LoopEvent.after, handleCommand]
    | _ => simp [LoopEvent.target?] at target
  | ipcCommand command =>
    cases command with
    | connect server =>
      have same : server = name := Option.some.inj target
      rw [same, LoopEvent.after, handleIpcCommand, run_bind, run_pure]
    | «switch» server =>
      have same : server = name := Option.some.inj target
      rw [same, LoopEvent.after, handleIpcCommand, run_bind, run_pure]
    | reconnect =>
      have isTarget : world.shared.state.serverName.or world.config.lastServer = some name :=
        target
      rw [LoopEvent.after, handleIpcCommand, ipcReconnect, run_get_bind]
      rw [isTarget]
      dsimp only
      rw [run_bind, run_pure]
    | _ => simp [LoopEvent.target?] at target
  | _ => simp [LoopEvent.target?] at target

/-- A step does not enter `Connected`. -/
def StaysOut (before after : World) : Prop :=
  after.machine.state.isConnected = true → before.machine.state.isConnected = true

instance : IsPreorder World StaysOut where
  refl _ := id
  trans _ _ _ first second := fun connected => first (second connected)

theorem staysOut_of_unasked
    {α : Type}
    {program : StateM World α}
    (keeps : Keeps Unasked program) :
    Keeps StaysOut program := by
  intro world connected
  rw [(keeps world).connected] at connected
  exact connected

theorem handleDisconnect_staysOut :
    Keeps StaysOut (handleDisconnect env) := by
  have releases : Keeps StaysOut (releaseKillSwitch env) := by
    apply Keeps.get
    intro world
    refine .either ?_ .pure
    exact staysOut_of_unasked ((onKillSwitch_unasked _).seq (modifyShared_unasked _))
  have ends : Keeps StaysOut (dispatchAndSync .userDisable) := by
    intro world connected
    have state : ((dispatchAndSync .userDisable).run world).2.machine.state = .disconnected := by
      rw [dispatchAndSync_machine]
      exact world.machine.afterEvent_userDisable
    rw [state] at connected
    exact Bool.noConfusion connected
  refine .seq (fun _ => id) ?_
  apply Keeps.get
  intro world
  cases world.machine.state.serverName with
  | none => exact .pure
  | some name =>
    refine .seq (fun _ => id) ?_
    apply (staysOut_of_unasked (nmDisconnect_unasked env name)).bind
    intro ok
    refine .either ?_ .pure
    exact releases.seq ends

theorem reloadConfiguration_unasked (loaded : Config) :
    Keeps Unasked (reloadConfiguration loaded) :=
  unasked_of_same (fun _ => rfl)

theorem ipcKillSwitch_unasked (enable : Bool) :
    Keeps Unasked (ipcKillSwitch env enable) :=
  unasked_guards.ipcKillSwitch env storeKillSwitch_unasked (unasked_of_same (fun _ => rfl)) enable

theorem ipcRestart_unasked :
    Keeps Unasked (ipcRestart env) := by
  refine .get ?_
  intro world
  refine .seq (unasked_of_same (fun _ => rfl)) ?_
  refine .either ?_ .pure
  exact (requestExit_unasked _).seq .pure

theorem LoopEvent.after_staysOut
    (isCommand : event.isCommand = true)
    (noTarget : event.target? world = none) :
    StaysOut world (event.after env world) := by
  cases event with
  | trayCommand command =>
    cases command with
    | connect server => simp [LoopEvent.target?] at noTarget
    | disconnect => exact handleDisconnect_staysOut env world
    | toggleAutoReconnect =>
      exact staysOut_of_unasked toggleAutoReconnect_unasked world
    | toggleKillSwitch =>
      exact staysOut_of_unasked (toggleKillSwitch_unasked env) world
    | toggleAutostart =>
      exact staysOut_of_unasked (toggleAutostart_unasked env) world
    | toggleDebugLogging => exact id
    | openLogFile => exact id
    | refreshConnections =>
      exact staysOut_of_unasked (refreshConnections_unasked env) world
    | restart => exact staysOut_of_unasked (handleRestart_unasked env) world
    | quit => exact staysOut_of_unasked (handleQuit_unasked env) world
  | ipcCommand command =>
    cases command with
    | connect server => simp [LoopEvent.target?] at noTarget
    | disconnect => exact handleDisconnect_staysOut env world
    | «switch» server => simp [LoopEvent.target?] at noTarget
    | reconnect =>
      have isNone : world.shared.state.serverName.or world.config.lastServer = none :=
        noTarget
      rw [LoopEvent.after, handleIpcCommand, ipcReconnect, run_get_bind]
      rw [isNone]
      exact id
    | killSwitch enable =>
      exact staysOut_of_unasked (ipcKillSwitch_unasked env enable) world
    | killSwitchToggle =>
      exact staysOut_of_unasked (toggleKillSwitch_unasked env) world
    | autoReconnect enable => exact id
    | autoReconnectToggle =>
      exact staysOut_of_unasked toggleAutoReconnect_unasked world
    | refresh =>
      exact staysOut_of_unasked (refreshConnections_unasked env) world
    | quit => exact staysOut_of_unasked (handleQuit_unasked env) world
    | restart => exact staysOut_of_unasked (ipcRestart_unasked env) world
    | reload loaded =>
      exact staysOut_of_unasked (reloadConfiguration_unasked loaded) world
  | _ => exact Bool.noConfusion isCommand

theorem beginHealthCheck_enters
    (before : world.machine.state.isConnected = false)
    (after : ((beginHealthCheck env).run world).2.machine.state.isConnected = true) :
    NmOnly world ((beginHealthCheck env).run world).2 := by
  rw [beginHealthCheck, run_bind] at after ⊢
  cases corrected : ((syncStateFromNm env).run world).1 with
  | true =>
    exact (nmOnly_steps env world).syncStateFromNm world (Std.Refl.refl world)
  | false =>
    exfalso
    obtain ⟨result, state⟩ := syncStateFromNm_table env world
    rw [corrected] at result after
    rw [correctedState, Option.isNone_iff_eq_none.mp
      (Option.isSome_eq_false_iff.mp result.symm)] at state
    have stays :
        ((prepareProbe env).run
          ((syncStateFromNm env).run world).2).2.machine =
            ((syncStateFromNm env).run world).2.machine :=
      rfl
    rw [if_neg Bool.false_ne_true, stays, state, before] at after
    exact Bool.noConfusion after

end Commands

section Starting

variable (env : Env)

def lookedAround (world : World) : World :=
  ((do
    onKillSwitch (KillSwitch.syncState env.fw)
    shareSettings
    refreshConnections env
    initialNmSync env
    notePoll : StateM World Unit).run world).2

/-- The supervisor before it may connect by itself. -/
def reconciled (autostarts : Bool) (world : World) : World :=
  ((do
    reconcileKillSwitch env
    migrateAutostart autostarts : StateM World Unit).run (lookedAround env world)).2

def refreshed (world : World) : World :=
  ((do
    sleep 3000
    refreshConnections env : StateM World Unit).run world).2

/-- Enabling the switch during the start reports no error. -/
structure StartServes (autostarts : Bool) (world : World) : Prop where
  restores : ((KillSwitch.enable env.fw).run (lookedAround env world).kill).1 = none
  rearms : ∀ name, RearmWorks env name (refreshed env (reconciled env autostarts world))

variable (autostarts : Bool)

theorem startUp_run (world : World) :
    (startUp env autostarts).run world =
      (autoConnect env).run (reconciled env autostarts world) := by
  rw [startUp, beginRun, reconciled, lookedAround]
  simp only [run_bind]

theorem lookedAround_sameIntent (world : World) :
    SameIntent world (lookedAround env world) := by
  have steps := intent_steps env world
  have looks :
      Preserves (SameIntent world)
        (do
          onKillSwitch (KillSwitch.syncState env.fw)
          shareSettings
          refreshConnections env
          initialNmSync env
          notePoll : StateM World Unit) := by
    apply Preserves.seq steps.looks
    apply Preserves.seq steps.shares
    apply Preserves.seq steps.refreshConnections
    apply Preserves.seq steps.initialNmSync
    exact steps.note (by intro _; rfl)
  exact looks world (Std.Refl.refl world)

theorem lookedAround_kill (steady : Steady world.kill) :
    Steady (lookedAround env world).kill ∧
      (lookedAround env world).kill.ks.lastToggleTime = world.kill.ks.lastToggleTime := by
  let synced : World := { world with kill := ((KillSwitch.syncState env.fw).run world.kill).2 }
  let shared := (shareSettings.run synced).2
  have steps := nmOnly_steps env shared
  have asks :
      Preserves (NmOnly shared)
        (do
          refreshConnections env
          initialNmSync env
          notePoll : StateM World Unit) := by
    apply Preserves.seq steps.refreshConnections
    apply Preserves.seq steps.initialNmSync
    exact steps.note (by intro _; rfl)
  have kept : NmOnly shared (lookedAround env world) := asks shared (Std.Refl.refl shared)
  constructor
  · have syncedSteady : Steady shared.kill := KillSwitch.syncState_steady env.fw steady
    exact syncedSteady.later kept.ks kept.clock
  · rw [kept.ks]
    exact KillSwitch.syncState_stamp env.fw world.kill

theorem reconcileKillSwitch_protects
    (steady : Steady world.kill)
    (cooled : CooledDown world)
    (works : ((KillSwitch.enable env.fw).run world.kill).1 = none)
    (wanted : world.config.killSwitchEnabled = true)
    (connected : world.machine.state.isConnected = true) :
    ((reconcileKillSwitch env).run world).2.killSwitchIsEnabled = true := by
  rw [reconcileKillSwitch, run_get_bind]
  rw [wanted, connected]
  cases enabled : world.killSwitchIsEnabled with
  | true => exact enabled
  | false => exact enableAndReport_enables env steady cooled works enabled

theorem migrateAutostart_same (world : World) :
    ((migrateAutostart autostarts).run world).2.kill = world.kill ∧
      ((migrateAutostart autostarts).run world).2.machine = world.machine := by
  rw [migrateAutostart, run_get_bind]
  cases (autostarts && !world.config.autoConnect) with
  | true => exact ⟨rfl, rfl⟩
  | false => exact ⟨rfl, rfl⟩

theorem reconcileKillSwitch_unasked :
    Keeps Unasked (reconcileKillSwitch env) := by
  apply Keeps.get
  intro world
  refine .either (modifyShared_unasked _) ?_
  refine .either ?_ .pure
  exact .either (unasked_guards.enableAndReport env) .pure

theorem reconciled_sameIntent (world : World) :
    SameIntent world (reconciled env autostarts world) := by
  have steps := intent_steps env world
  have reconciles := steps.reconcileKillSwitch steps.reports
  exact (reconciles.seq (steps.migrateAutostart autostarts)) _ (lookedAround_sameIntent env world)

theorem reconciled_steady (steady : Steady world.kill) :
    Steady (reconciled env autostarts world).kill := by
  have steps := steady_steps env
  have reconciles := steps.reconcileKillSwitch steps.reports
  exact reconciles.seq (steps.migrateAutostart autostarts) _ (lookedAround_kill env steady).1

theorem connectIfAny_protects
    {target : Option String}
    (steady : Steady world.kill)
    (works : ∀ name, RearmWorks env name world)
    (wanted : world.config.killSwitchEnabled = true)
    (before : world.machine.state.isConnected = false)
    (after : ((connectIfAny env target).run world).2.machine.state.isConnected = true) :
    ((connectIfAny env target).run world).2.killSwitchIsEnabled = true := by
  cases target with
  | none =>
    rw [connectIfAny, run_pure, before] at after
    exact Bool.noConfusion after
  | some server =>
    rw [connectIfAny] at after ⊢
    exact handleConnect_protects env steady (works server) wanted before after

theorem autoConnect_protects
    (steady : Steady world.kill)
    (works : ∀ name, RearmWorks env name (refreshed env world))
    (wanted : world.config.killSwitchEnabled = true)
    (already : world.machine.state.isConnected = true → world.killSwitchIsEnabled = true)
    (after : ((autoConnect env).run world).2.machine.state.isConnected = true) :
    ((autoConnect env).run world).2.killSwitchIsEnabled = true := by
  have waits : NmOnly world (refreshed env world) := by
    have steps := nmOnly_steps env world
    exact Preserves.seq (steps.sleep 3000) steps.refreshConnections world (Std.Refl.refl world)
  have opened :
      (autoConnect env).run world =
        if world.machine.state = .disconnected ∧ world.config.autoConnect = true
        then
          (connectIfAny env
            (autoConnectTarget (refreshed env world).config.lastServer
              (refreshed env world).shared.connections)).run (refreshed env world)
        else ((), world) := by
    rw [autoConnect, run_get_bind]
    split <;> rfl
  rw [opened] at after ⊢
  by_cases connects : world.machine.state = .disconnected ∧ world.config.autoConnect = true
  · rw [if_pos connects] at after ⊢
    have out : (refreshed env world).machine.state.isConnected = false := by
      change world.machine.state.isConnected = false
      rw [connects.1]
      rfl
    exact connectIfAny_protects env (steady.later waits.ks waits.clock) works
      (waits.wanted.trans wanted) out after
  · rw [if_neg connects] at after ⊢
    exact already after

section

variable
  {autostarts : Bool}
  (steady : Steady world.kill)
  (fresh : world.kill.ks.lastToggleTime = none)
  (serves : StartServes env autostarts world)
  (wanted : world.config.killSwitchEnabled = true)

include steady fresh serves wanted

theorem reconciled_protects
    (connected : (reconciled env autostarts world).machine.state.isConnected = true) :
    (reconciled env autostarts world).killSwitchIsEnabled = true := by
  obtain ⟨looked, stamp⟩ := lookedAround_kill env steady
  have cooled : CooledDown (lookedAround env world) := by
    rw [CooledDown, KillSwitch.inCooldown, stamp, fresh]
  have migrated :=
    migrateAutostart_same autostarts ((reconcileKillSwitch env).run (lookedAround env world)).2
  rw [reconciled, run_bind, migrated.2,
    (reconcileKillSwitch_unasked env (lookedAround env world)).connected]
    at connected
  rw [reconciled, run_bind, World.killSwitchIsEnabled, migrated.1]
  exact reconcileKillSwitch_protects env looked cooled serves.restores
    ((lookedAround_sameIntent env world).wanted.trans wanted) connected

theorem startUp_protects
    (connected : ((startUp env autostarts).run world).2.machine.state.isConnected = true) :
    ((startUp env autostarts).run world).2.killSwitchIsEnabled = true := by
  rw [startUp_run] at connected ⊢
  refine autoConnect_protects env (reconciled_steady env autostarts steady)
    serves.rearms ?_ ?_ connected
  · exact (reconciled_sameIntent env autostarts world).wanted.trans wanted
  · exact reconciled_protects env steady fresh serves wanted

end

end Starting

/-- The supervisor, and whether a user command has turned the switch off. -/
structure Watched where
  world : World
  released : Bool

/--
A command of the user turns the switch off during a step.  A reaction carries
out the commands that its reconnects have put off.
-/
def LoopStep.turnsOff (env : Env) (before after : World) : LoopStep → Bool
  | .loopEvent (.trayCommand command) => command.turnsOff
  | .loopEvent (.ipcCommand command) => command.turnsOff
  | .loopEvent .beginHealthCheck => false
  | .pause _ => false
  | _ => (received env before after).any VpnCommand.turnsOff

/--
A step enters `Connected`.  A step that can reconnect may leave the state and
come back to it, so there every end in `Connected` counts.
-/
def LoopStep.enters (before after : World) : LoopStep → Bool
  | .loopEvent (.finishHealthCheck _) => after.machine.state.isConnected
  | .dbusEvent _ => after.machine.state.isConnected
  | .pollTick _ => after.machine.state.isConnected
  | _ => !before.machine.state.isConnected && after.machine.state.isConnected

/-- The step is the reaction to a signal, a poll or a health check. -/
def LoopStep.reacts : LoopStep → Bool
  | .loopEvent event => !event.isCommand
  | .dbusEvent _ => true
  | .pollTick _ => true
  | .pause _ => false

section Runs

variable (env : Env)

/-- The next state; once the switch is on again, no command has turned it off since. -/
def Watched.after (watched : Watched) (step : LoopStep) : Watched where
  world := step.after env watched.world
  released :=
    !(step.after env watched.world).killSwitchIsEnabled &&
      (watched.released || step.turnsOff env watched.world (step.after env watched.world))

def Watched.run (watched : Watched) (steps : List LoopStep) : Watched :=
  steps.foldl (Watched.after env) watched

/-- No error is reported when a connect enables the switch at its end. -/
def LoopStep.Serves (world : World) : LoopStep → Prop
  | .loopEvent event =>
    ∀ name, event.target? world = some name → RearmWorks env name world
  | _ => True

/-- A reaction finds the switch on, and carries out no connect that was put off. -/
def LoopStep.Fits (before after : World) (step : LoopStep) : Prop :=
  step.reacts = true →
    before.killSwitchIsEnabled = true ∧
      ∀ command ∈ received env before after, command.isConnect = false

/--
A step that enters `Connected` while the switch is wanted and no user command
has turned it off leaves the switch on, if it is served and fits.
-/
def Watched.Protects (watched : Watched) (step : LoopStep) : Prop :=
  let after := watched.after env step
  step.enters watched.world after.world = true →
    after.world.config.killSwitchEnabled = true →
    after.released = false →
    step.Serves env watched.world →
    step.Fits env watched.world after.world →
    after.world.killSwitchIsEnabled = true

variable {env}

variable {step : LoopStep}

theorem sparesSwitch_of_received
    {commands : List VpnCommand}
    (keepOn : commands.any VpnCommand.turnsOff = false)
    (noConnect : ∀ command ∈ commands, command.isConnect = false) :
    ∀ command ∈ commands, command.sparesSwitch = true := by
  intro command member
  have staysOn := Bool.eq_false_iff.mpr (List.any_eq_false.mp keepOn command member)
  rw [VpnCommand.sparesSwitch, staysOn, noConnect command member]
  rfl

/-- A reaction that enters `Connected` leaves a switch on that it finds on. -/
theorem LoopStep.reaction_protects
    (reacts : step.reacts = true)
    (enters : step.enters world (step.after env world) = true)
    (enabled : world.killSwitchIsEnabled = true)
    (noConnect :
      ∀ command ∈ received env world (step.after env world), command.isConnect = false)
    (keepOn : step.turnsOff env world (step.after env world) = false) :
    (step.after env world).killSwitchIsEnabled = true := by
  have loop := @staysOn_loop env world
  have begins : StaysOn env world world := by
    refine ⟨Nat.le_refl _, fun spares => ⟨enabled, fun command member => ?_⟩⟩
    exact spares command (List.mem_append_left _ member)
  cases step with
  | loopEvent event =>
    cases event with
    | beginHealthCheck =>
      have both :
          (!world.machine.state.isConnected &&
            ((beginHealthCheck env).run world).2.machine.state.isConnected) = true :=
        enters
      obtain ⟨out, connected⟩ := (Bool.and_eq_true _ _).mp both
      have kept := beginHealthCheck_enters env ((Bool.not_eq_true' _).mp out) connected
      exact kept.enabled.trans enabled
    | finishHealthCheck outcome =>
      have stays := loop.finishHealthCheck outcome world begins
      exact (stays.kept (sparesSwitch_of_received keepOn noConnect)).1
    | _ => exact Bool.noConfusion reacts
  | dbusEvent event =>
    have stays := @LoopSteps.handleDbusEvent env _ _ loop event (fun _ _ => trivial) world begins
    exact (stays.kept (sparesSwitch_of_received keepOn noConnect)).1
  | pollTick wallMillis =>
    have stays := loop.pollTick (fun _ stays => ⟨stays.later, stays.kept⟩) wallMillis world begins
    exact (stays.kept (sparesSwitch_of_received keepOn noConnect)).1
  | pause millis => exact Bool.noConfusion reacts

/-- A command that enters `Connected` is a connect, and enables a wanted switch. -/
theorem LoopEvent.command_protects
    (isCommand : event.isCommand = true)
    (steady : Steady world.kill)
    (serves : (LoopStep.loopEvent event).Serves env world)
    (wanted : (event.after env world).config.killSwitchEnabled = true)
    (out : world.machine.state.isConnected = false)
    (connected : (event.after env world).machine.state.isConnected = true) :
    (event.after env world).killSwitchIsEnabled = true := by
  cases target : event.target? world with
  | none =>
    have stays := event.after_staysOut env isCommand target connected
    exact absurd (stays.symm.trans out) nofun
  | some name =>
    have same := event.after_target env target
    have wish : SameIntent world (event.after env world) := by
      rw [same]
      exact (intent_steps env world).connecting _ trivial _ (Std.Refl.refl world)
    have wantedBefore : world.config.killSwitchEnabled = true :=
      wish.wanted.symm.trans wanted
    rw [same] at connected ⊢
    exact handleConnect_protects env steady (serves name target) wantedBefore out connected

theorem Watched.protects
    {watched : Watched}
    (steady : Steady watched.world.kill) :
    watched.Protects env step := by
  intro enters wanted unreleased serves fits
  cases reacts : step.reacts with
  | true =>
    by_contra off
    have isOff : (step.after env watched.world).killSwitchIsEnabled = false :=
      Bool.eq_false_iff.mpr off
    rw [Watched.after] at unreleased
    rw [isOff, Bool.not_false, Bool.true_and, Bool.or_eq_false_iff] at unreleased
    obtain ⟨enabled, noConnect⟩ := fits reacts
    exact off (step.reaction_protects reacts enters enabled noConnect unreleased.2)
  | false =>
    cases step with
    | loopEvent event =>
      have isCommand : event.isCommand = true := (Bool.not_eq_false' _).mp reacts
      have both :
          (!watched.world.machine.state.isConnected &&
            (event.after env watched.world).machine.state.isConnected) = true := by
        cases event with
        | trayCommand command => exact enters
        | ipcCommand command => exact enters
        | _ => exact Bool.noConfusion isCommand
      obtain ⟨out, connected⟩ := (Bool.and_eq_true _ _).mp both
      exact event.command_protects isCommand steady serves wanted
        ((Bool.not_eq_true' _).mp out) connected
    | pause millis =>
      have both :
          (!watched.world.machine.state.isConnected &&
            watched.world.machine.state.isConnected) = true :=
        enters
      rw [Bool.not_and_self] at both
      exact Bool.noConfusion both
    | _ => exact Bool.noConfusion reacts

theorem Watched.run_steady
    (steps : List LoopStep)
    {watched : Watched}
    (steady : Steady watched.world.kill) :
    Steady (watched.run env steps).world.kill := by
  induction steps generalizing watched with
  | nil => exact steady
  | cons step rest ih => exact ih (LoopStep.after_steady env steady step)

end Runs

theorem new_steady
    (config : Config)
    (health : HealthConfig)
    (maxRetries : Nat)
    (host : Host) :
    Steady (World.new config health maxRetries host).kill :=
  ⟨rfl, nofun⟩

/-- The supervisor when its loop begins. -/
def startedUp
    (env : Env)
    (autostarts : Bool)
    (config : Config)
    (health : HealthConfig)
    (maxRetries : Nat)
    (host : Host) :
    World :=
  ((startUp env autostarts).run (World.new config health maxRetries host)).2

/--
A start that ends in `Connected` leaves a wanted switch on.  So does every step
of every run after it that enters `Connected` while the switch is wanted and no
user command has turned it off; a reaction has to find the switch on for that.
-/
theorem connected_is_protected
    (env : Env)
    (autostarts : Bool)
    (config : Config)
    (health : HealthConfig)
    (maxRetries : Nat)
    (host : Host)
    (serves : StartServes env autostarts (World.new config health maxRetries host)) :
    let started := startedUp env autostarts config health maxRetries host
    (started.machine.state.isConnected = true →
        config.killSwitchEnabled = true → started.killSwitchIsEnabled = true) ∧
      ∀ (steps : List LoopStep) (step : LoopStep),
        (Watched.run env ⟨started, false⟩ steps).Protects env step := by
  have steady := new_steady config health maxRetries host
  constructor
  · intro connected wanted
    exact startUp_protects env steady rfl serves wanted connected
  · intro steps step
    refine Watched.protects (Watched.run_steady steps ?_)
    exact (steady_steps env).startUp autostarts _ steady

/-- A daemon that starts with the kill switch wanted, before its loop. -/
def startedWanting (env : Env) : World :=
  startedUp env false { Config.default with killSwitchEnabled := true } .default 10
    KillSwitch.freshWorld.host

/-- The user connects, and the VPN drops. -/
def dropAfterConnect : List LoopStep :=
  [ .pollTick 2000,
    .loopEvent (.trayCommand (.connect "berlin")),
    .dbusEvent (.vpnDeactivated "berlin"),
    .pause 5000 ]

theorem connected_is_protected_again :
    let before := Watched.run willingEnv ⟨startedWanting willingEnv, false⟩ dropAfterConnect
    let after := before.after willingEnv (.dbusEvent (.vpnActivated "berlin"))
    before.world.machine.state = .disconnected ∧
      after.world.machine.state = .connected "berlin" ∧
      after.world.killSwitchIsEnabled = true := by
  intro before after
  have works : KillSwitch.EnableWorks willingEnv.fw := KillSwitch.calmEnv_working.enableWorks
  have computed :
      before.world.machine.state = .disconnected ∧
        after.world.machine.state = .connected "berlin" ∧
        (LoopStep.dbusEvent (.vpnActivated "berlin")).enters before.world after.world = true ∧
        after.world.config.killSwitchEnabled = true ∧
        after.released = false ∧
        before.world.killSwitchIsEnabled = true ∧
        received willingEnv before.world after.world = [] := by
    decide +kernel
  obtain ⟨out, connected, enters, wanted, unreleased, enabled, nothing⟩ := computed
  have fits :
      (LoopStep.dbusEvent (.vpnActivated "berlin")).Fits willingEnv before.world after.world := by
    intro _
    rw [nothing]
    exact ⟨enabled, by simp⟩
  have protects : before.Protects willingEnv (.dbusEvent (.vpnActivated "berlin")) :=
    (connected_is_protected willingEnv false { Config.default with killSwitchEnabled := true }
      .default 10 KillSwitch.freshWorld.host ⟨works _, fun _ => works _⟩).2 dropAfterConnect
      (.dbusEvent (.vpnActivated "berlin"))
  exact ⟨out, connected, protects enters wanted unreleased trivial fits⟩

/-- A VPN that somebody else activates is met with the wanted switch off. -/
theorem activation_is_unprotected :
    KillSwitch.EnableWorks calmEnv.fw ∧
      let started := startedWanting calmEnv
      let after := Watched.after calmEnv ⟨started, false⟩ (.dbusEvent (.vpnActivated "berlin"))
      started.machine.state = .disconnected ∧
        after.world.machine.state = .connected "berlin" ∧
        after.world.config.killSwitchEnabled = true ∧
        after.released = false ∧
        after.world.kill.ks.lastToggleTime = none ∧
        after.world.killSwitchIsEnabled = false := by
  refine ⟨KillSwitch.calmEnv_working.enableWorks, ?_⟩
  decide +kernel

end Shroud.Supervisor
