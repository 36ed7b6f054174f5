import Shroud.ConfigFile
import Shroud.ConnectGuard
import Shroud.ConnectOutcome
import Shroud.MachineHistory

namespace Shroud

open StateProgram

/-!
# What the daemon saves

Whenever the state is `Connected`, the server is stored as the last one and the
configuration is saved.  The name comes from NetworkManager; the validation that
follows the next load has its own idea of a name, and on any violation the whole
file is replaced by the defaults.
-/

namespace StateMachine

theorem serverName_handleEvent
    {machine : StateMachine}
    {event : Event}
    {name : String}
    (isName : (machine.handleEvent event).2.state.serverName = some name) :
    event.name? = some name ∨ machine.state.serverName = some name := by
  have tracks : (machine.handleEvent event).2.state ≠ .disconnected := by
    intro disconnected
    rw [disconnected] at isName
    exact (Option.some_ne_none _ isName.symm).elim
  rw [serverName_handleEvent_eq (fun _ => rfl) event tracks] at isName
  rcases Option.or_eq_some_iff.mp isName with ofEvent | ⟨-, own⟩
  · exact .inl (Option.ite_none_right_eq_some.mp ofEvent).2
  · exact .inr own

end StateMachine

namespace Supervisor

/-- The limits hold, and the last server is among the names. -/
structure Loadable (names : String → Prop) (config : Config) : Prop where
  limits : config.InLimits
  lastServer : ∀ server, config.lastServer = some server → names server

/-- Every name that may be saved, and everything that was, is as it should be. -/
structure Savable (names : String → Prop) (world : World) : Prop where
  tracked : ∀ name, world.machine.state.serverName = some name → names name
  shown : ∀ name, world.shared.state.serverName = some name → names name
  queued : ∀ server, VpnCommand.connect server ∈ world.deferredCommands → names server
  stored : Loadable names world.config
  saved : ∀ config ∈ world.saves, Loadable names config

variable {world : World} {config : Config}

section Steps

variable
  {names : String → Prop}

theorem savable_of_same
    {α : Type}
    {program : StateM World α}
    (same :
      Keeps
        (SameView fun world =>
          (world.machine, world.shared.state, world.deferredCommands, world.config, world.saves))
        program) :
    Preserves (Savable names) program := by
  intro world before
  obtain ⟨machine, state, queue, config, saves⟩ : _ = _ ∧ _ = _ ∧ _ = _ ∧ _ = _ ∧ _ = _ := by
    simpa only [SameView, Prod.mk.injEq] using same world
  constructor
  · rw [machine]
    exact before.tracked
  · rw [state]
    exact before.shown
  · rw [queue]
    exact before.queued
  · rw [config]
    exact before.stored
  · rw [saves]
    exact before.saved

theorem Savable.save
    (before : Savable names world)
    (loadable : Loadable names config) :
    Savable names { world with config := config, saves := world.saves ++ [config] } where
  tracked := before.tracked
  shown := before.shown
  queued := before.queued
  stored := loadable
  saved := by
    intro other member
    rcases List.mem_append.mp member with earlier | last
    · exact before.saved other earlier
    · rw [List.mem_singleton.mp last]
      exact loadable

theorem noteConnected_savable (before : Savable names world) :
    Savable names (noteConnected world) := by
  rw [noteConnected]
  cases state : world.machine.state with
  | connected server =>
    have known : names server := before.tracked server (by rw [state]; rfl)
    have reset :
        Savable names { world with healthChecker := world.healthChecker.reset } :=
      ⟨before.tracked, before.shown, before.queued, before.stored, before.saved⟩
    dsimp only
    split
    · exact reset
    · apply reset.save
      refine ⟨before.stored.limits, ?_⟩
      intro other same
      rw [← Option.some.inj same]
      exact known
  | _ => exact before

theorem dispatch_savable
    {event : Event}
    (known : ∀ name, event.name? = some name → names name) :
    Preserves (Savable names) (dispatch event) := by
  intro world before
  have moved :
      Savable names { world with machine := (world.machine.handleEvent event).2 } := by
    refine ⟨?_, before.shown, before.queued, before.stored, before.saved⟩
    intro name isName
    rcases StateMachine.serverName_handleEvent isName with ofEvent | ofState
    · exact known name ofEvent
    · exact before.tracked name ofState
  have noted := noteConnected_savable moved
  exact ⟨noted.tracked, noted.tracked, noted.queued, noted.stored, noted.saved⟩

theorem savable_indifferent :
    Indifferent (Savable names) := by
  rintro before _ ⟨kill, reported, rfl⟩ savable
  exact ⟨savable.tracked, savable.shown, savable.queued, savable.stored, savable.saved⟩

theorem storeKillSwitch_savable (enabled : Bool) :
    Preserves (Savable names) (storeKillSwitch enabled) :=
  fun _ before =>
    before.save ⟨before.stored.limits, before.stored.lastServer⟩

theorem reloadConfiguration_savable
    {loaded : Config}
    (loadable : Loadable names loaded) :
    Preserves (Savable names) (reloadConfiguration loaded) :=
  fun _ before =>
    ⟨before.tracked, before.tracked, before.queued, loadable, before.saved⟩

end Steps

/-- The configuration that a step loads. -/
def LoopStep.reloads : LoopStep → Option Config
  | .loopEvent (.ipcCommand (.reload loaded)) => some loaded
  | _ => none

section Handlers

variable
  {env : Env}
  {names : String → Prop}
  (answers : Answers env names)
  (arrive : ∀ number server, VpnCommand.connect server ∈ env.arrivals number → names server)

include answers arrive

omit answers arrive in
theorem forces_savable
    {next : VpnState}
    (known : ∀ name, next.serverName = some name → names name) :
    Forces (Savable names) next :=
  fun _ before => ⟨known, before.shown, before.queued, before.stored, before.saved⟩

omit arrive in
theorem savable_steps :
    CommandSteps env names (Savable names) := by
  have steps : Steps env names (Savable names) :=
    { answers := answers
      tracked := fun _ before => before.tracked
      sleep := fun _ => savable_of_same (fun _ => rfl)
      calls := fun _ _ _ _ => savable_of_same (fun _ => rfl)
      connects := fun _ _ _ _ => savable_of_same (fun _ => rfl)
      dispatches := fun event _ known => dispatch_savable known
      forces := fun _ _ => forces_savable
      syncs := fun world before =>
        ⟨before.tracked, before.tracked, before.queued, before.stored, before.saved⟩
      times := fun _ _ _ => savable_of_same (fun _ => rfl)
      counts := fun _ _ => savable_of_same (fun _ => rfl)
      lists := fun _ => savable_of_same (fun _ => rfl)
      forgets := savable_of_same (fun _ => rfl) }
  have remembered :
      ∀ world, Savable names world →
        ∀ name,
          world.shared.state.serverName.or world.config.lastServer = some name → names name := by
    intro world before name isName
    rcases Option.or_eq_some_iff.mp isName with shown | ⟨-, last⟩
    · exact before.shown name shown
    · exact before.stored.lastServer name last
  have shares : Preserves (Savable names) shareSettings := savable_of_same (fun _ => rfl)
  have toggles : Preserves (Savable names) toggleAutoReconnect := by
    intro world before
    have loadable :
        Loadable names
          { world.config with
            autoReconnect := !world.shared.autoReconnect } :=
      ⟨before.stored.limits, before.stored.lastServer⟩
    have saved := before.save loadable
    exact ⟨saved.tracked, saved.shown, saved.queued, saved.stored, saved.saved⟩
  exact
    { toTraySteps :=
        savable_indifferent.traySteps steps
          (fun _ _ _ => savable_of_same (fun _ => rfl)) remembered toggles
          (fun enable world before =>
            before.save ⟨before.stored.limits, before.stored.lastServer⟩)
          shares
      exits := fun _ => savable_of_same (fun _ => rfl)
      setsAutoReconnect := fun enable world before =>
        before.save ⟨before.stored.limits, before.stored.lastServer⟩ }

omit answers in
theorem savable_defers :
    Preserves (Savable names) (modify (deferArrivals env) : StateM World PUnit) := by
  intro world before
  refine ⟨before.tracked, before.shown, ?_, before.stored, before.saved⟩
  intro server member
  rcases List.mem_append.mp member with earlier | arrived
  · exact before.queued server earlier
  · exact arrive _ server ((List.takeWhile_prefix _).subset arrived)

omit arrive in
theorem handleCommand_savable
    {command : VpnCommand}
    (known : ∀ server, command = .connect server → names server) :
    Preserves (Savable names) (handleCommand env command) :=
  savable_indifferent.handleCommand (savable_steps answers).toTraySteps storeKillSwitch_savable
    known (fun _ => (savable_steps answers).exits)

omit arrive in
theorem handleIpcCommand_savable
    {command : IpcCommand}
    (known : ∀ server, command = .connect server ∨ command = .switch server → names server)
    (loads : ∀ loaded, command = .reload loaded → Loadable names loaded) :
    Preserves (Savable names) (handleIpcCommand env command) := by
  have steps := savable_steps answers
  exact savable_indifferent.handleIpcCommand steps.toTraySteps storeKillSwitch_savable known
    (fun loaded isLoad => reloadConfiguration_savable (loads loaded isLoad)) steps.exits
    (fun enable _ => steps.setsAutoReconnect enable)

theorem savable_loop :
    LoopSteps env names (Savable names) where
  toSteps := (savable_steps answers).toSteps
  busies _ := forces_savable
  defers := savable_defers arrive
  marks _ := savable_of_same (fun _ => rfl)
  drains := by
    intro world command rest before isQueue
    have queued := before.queued
    rw [isQueue] at queued
    refine handleCommand_savable answers ?_ _
      ⟨before.tracked, before.shown, ?_, before.stored, before.saved⟩
    · rintro server rfl
      exact queued server List.mem_cons_self
    · exact fun server member =>
        queued server (List.mem_cons_of_mem _ member)

theorem LoopStep.after_savable
    {step : LoopStep}
    (known : ∀ name, step.brings = some name → names name)
    (loads : ∀ loaded, step.reloads = some loaded → Loadable names loaded)
    (before : Savable names world) :
    Savable names (step.after env world) := by
  have loop := savable_loop answers arrive
  have stamps : StampsWake (Savable names) := savable_of_same (fun _ => rfl)
  refine after_of_commands (savable_steps answers).toTraySteps loop.reconnects
    (fun _ _ _ => loop.wakeUp stamps world before) ?_ ?_ ?_ before
  · rintro command rfl
    apply handleCommand_savable answers
    rintro server rfl
    exact known server rfl
  · rintro command rfl
    apply handleIpcCommand_savable answers
    · rintro server (rfl | rfl)
      · exact known server rfl
      · exact known server rfl
    · rintro loaded rfl
      exact loads loaded rfl
  · rintro event rfl
    exact known

theorem runLoop_savable
    {run : List LoopStep}
    (known : ∀ step ∈ run, ∀ name, step.brings = some name → names name)
    (loads : ∀ step ∈ run, ∀ loaded, step.reloads = some loaded → Loadable names loaded)
    (before : Savable names world) :
    Savable names (runLoop env run world) := by
  refine List.foldlRecOn run _ before ?_
  intro current savable step member
  exact LoopStep.after_savable answers arrive (known step member) (loads step member) savable

end Handlers

/-- Every name of a VPN that turns up in a run is such a name. -/
structure NamesAre
    (names : String → Prop)
    (env : Env)
    (run : List LoopStep) : Prop where
  answers : Answers env names
  arrive : ∀ number server, VpnCommand.connect server ∈ env.arrivals number → names server
  brought : ∀ step ∈ run, ∀ name, step.brings = some name → names name

theorem namesAre_any
    (env : Env)
    (run : List LoopStep) :
    NamesAre (fun _ => True) env run :=
  ⟨answers_any env, fun _ _ _ => trivial, fun _ _ _ _ => trivial⟩

/-- The daemon from its start to the end of a run. -/
def daemonRun (env : Env) (autostarts : Bool) (config : Config)
    (health : HealthConfig) (maxRetries : Nat) (host : Host)
    (run : List LoopStep) : World :=
  runLoop env run ((startUp env autostarts).run (World.new config health maxRetries host)).2

/-- From a loadable configuration on, everything is loadable that is saved. -/
theorem daemonRun_savable
    {names : String → Prop}
    {env : Env}
    {run : List LoopStep}
    (named : NamesAre names env run)
    (loads : ∀ step ∈ run, ∀ loaded, step.reloads = some loaded → Loadable names loaded)
    (loadable : Loadable names config)
    (autostarts : Bool)
    (health : HealthConfig)
    (maxRetries : Nat)
    (host : Host) :
    Savable names (daemonRun env autostarts config health maxRetries host run) := by
  have fresh : Savable names (World.new config health maxRetries host) :=
    { tracked := by simp [World.new, VpnState.serverName]
      shown := by simp [World.new, VpnState.serverName]
      queued := by simp [World.new]
      stored := loadable
      saved := by simp [World.new] }
  have steps := savable_steps named.answers
  exact runLoop_savable named.answers named.arrive named.brought loads
    (steps.startUp autostarts _ fresh)

theorem loadable_of_validate (valid : config.validate = .ok ()) :
    Loadable IsVpnName config :=
  ⟨((Config.validate_eq_ok_iff config).mp valid).1, ((Config.validate_eq_ok_iff config).mp valid).2⟩

/--
From a valid configuration on, whatever NetworkManager reports and whatever is
reloaded, a configuration that was saved is loaded back unchanged exactly if
its last server is a name that the validation accepts.  If all names that turn
up are, everything that was saved is loaded back.
-/
theorem saved_config_loads_iff
    {Text Value : Type}
    (toml : Toml Text Value)
    (env : Env)
    (autostarts : Bool)
    (config : Config)
    (valid : config.validate = .ok ())
    (health : HealthConfig)
    (maxRetries : Nat)
    (host : Host)
    (run : List LoopStep)
    (reloads :
      ∀ step ∈ run, ∀ loaded, step.reloads = some loaded →
        ∃ file, loaded = toml.loadValidated file) :
    let saves := (daemonRun env autostarts config health maxRetries host run).saves
    (∀ saved ∈ saves,
      toml.loadValidated (.contents (toml.save saved)) = saved ↔
        ∀ server, saved.lastServer = some server → IsVpnName server) ∧
    (NamesAre IsVpnName env run →
      ∀ saved ∈ saves, toml.loadValidated (.contents (toml.save saved)) = saved) := by
  have loads : ∀ step ∈ run, ∀ loaded, step.reloads = some loaded → Loadable IsVpnName loaded := by
    intro step member loaded isLoaded
    obtain ⟨file, rfl⟩ := reloads step member loaded isLoaded
    exact loadable_of_validate (toml.loadValidated_validate file)
  have loadable := loadable_of_validate valid
  have anyName :
      ∀ {other : Config}, Loadable IsVpnName other → Loadable (fun _ => True) other :=
    fun isLoadable => ⟨isLoadable.limits, fun _ _ => trivial⟩
  constructor
  · intro saved member
    have savable :=
      daemonRun_savable (namesAre_any env run)
        (fun step member loaded isLoaded =>
          anyName (loads step member loaded isLoaded))
        (anyName loadable) autostarts health maxRetries host
    have limits := (savable.saved saved member).limits
    rw [toml.loadValidated_save_iff, Config.validate_eq_ok_iff]
    exact and_iff_right limits
  · intro named saved member
    have savable := daemonRun_savable named loads loadable autostarts health maxRetries host
    have isLoadable := savable.saved saved member
    rw [toml.loadValidated_save_iff, Config.validate_eq_ok_iff]
    exact ⟨isLoadable.limits, isLoadable.lastServer⟩

/-- A library for which a text is what was printed. -/
def plainToml : Toml (Nat × Config) (Nat × Config) where
  print number config := (number, config)
  parse := some
  version value := some value.1
  migrate _ value := value
  toConfig value := some value.2
  roundTrips number config := ⟨(number, config), rfl, rfl, rfl⟩

theorem saved_config_loads_berlin :
    let saves :=
      (daemonRun calmEnv false wantingWorld.config .default 10
        KillSwitch.freshWorld.host
        [.dbusEvent (.vpnActivated "berlin")]).saves
    saves ≠ [] ∧
      ∀ saved ∈ saves, plainToml.loadValidated (.contents (plainToml.save saved)) = saved := by
  have named : NamesAre IsVpnName calmEnv [.dbusEvent (.vpnActivated "berlin")] := by
    refine ⟨⟨by simp [calmEnv], by simp [calmEnv], by simp [calmEnv],
      by simp [calmEnv]⟩, by simp [calmEnv], ?_⟩
    intro step member name isName
    rw [List.mem_singleton.mp member] at isName
    rw [← Option.some.inj isName]
    decide
  have valid : wantingWorld.config.validate = .ok () := by decide
  have reloads :
      ∀ step ∈ [LoopStep.dbusEvent (.vpnActivated "berlin")],
        ∀ loaded, step.reloads = some loaded → ∃ file, loaded = plainToml.loadValidated file := by
    intro step member loaded isLoaded
    rw [List.mem_singleton.mp member] at isLoaded
    exact absurd isLoaded (by simp [LoopStep.reloads])
  refine ⟨by decide, ?_⟩
  exact (saved_config_loads_iff plainToml calmEnv false wantingWorld.config
    valid .default 10 KillSwitch.freshWorld.host _ reloads).2 named

/-- A VPN with an ampersand in its name costs the user the kill switch. -/
theorem ampersand_loses_config :
    let saves :=
      (daemonRun calmEnv false wantingWorld.config .default 10
        KillSwitch.freshWorld.host
        [.dbusEvent (.vpnActivated "Home & Office")]).saves
    saves.map (·.lastServer) = [some "Home & Office"] ∧
      saves.map (·.killSwitchEnabled) = [true] ∧
      saves.map
          (fun saved =>
            plainToml.loadValidated (.contents (plainToml.save saved))) =
        [.default] := by
  decide

end Supervisor

end Shroud
