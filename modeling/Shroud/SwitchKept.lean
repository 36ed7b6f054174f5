import Shroud.CleanupEffects
import Shroud.ConnectGuard
import Shroud.KillSwitchReport

namespace Shroud

/-- The commands of the tray that turn the kill switch off, or may do so. -/
def VpnCommand.turnsOff : VpnCommand → Bool
  | .disconnect => true
  | .toggleKillSwitch => true
  | .quit => true
  | _ => false

def VpnCommand.isConnect : VpnCommand → Bool
  | .connect _ => true
  | _ => false

/-- The command has nothing to do with the kill switch. -/
def VpnCommand.sparesSwitch (command : VpnCommand) : Bool :=
  !command.turnsOff && !command.isConnect

namespace Supervisor

open StateProgram
open KillSwitch (Steady)

/-!
# The kill switch between two commands

No handler leaves a toggle under way behind, and the kill switch that a
reaction to NetworkManager finds on stays on, unless a command that was put off
during a reconnect turns it off.
-/

/-- The commands of the socket that turn the kill switch off, or may do so. -/
def IpcCommand.turnsOff : IpcCommand → Bool
  | .killSwitch enable => !enable
  | .killSwitchToggle => true
  | .disconnect => true
  | .quit => true
  | _ => false

section Toggles

variable (env : Env)

theorem onKillSwitch_steady
    {α : Type}
    {program : StateM KsWorld α}
    (keeps : Preserves Steady program) :
    Preserves (fun world => Steady world.kill) (onKillSwitch program) :=
  fun world steady => keeps world.kill steady

/-- The cleanup on the way out is a list of commands and a look at the rules. -/
theorem cleanupOnExit_steady :
    Preserves (fun world => Steady world.kill) (cleanupOnExit env) := by
  apply Preserves.get
  intro world _
  refine .either ?_ .pure
  refine .bind (onKillSwitch_steady ?_) fun _ => onKillSwitch_steady ?_
  · intro before steady
    have cleaned :
        KillSwitch.CommandsOnly before ((KillSwitch.cleanupWithFallback env.fw).run before).2 :=
      KillSwitch.cleanupWithFallback_follows
        (fun _ _ => KillSwitch.runCommand_keeps env.fw _)
        (fun _ _ => KillSwitch.runCommand_keeps env.fw _) before
    exact steady.later cleaned.ks cleaned.clock
  · exact fun _ steady => KillSwitch.syncState_steady env.fw steady

/-- Every handler but the toggles themselves ends without a toggle under way. -/
theorem steady_steps :
    CommandSteps env (fun _ => True) (fun world => Steady world.kill) := by
  have enables : Preserves (fun world => Steady world.kill)
      (onKillSwitch (KillSwitch.enable env.fw)) :=
    onKillSwitch_steady fun _ steady => KillSwitch.enable_steady env.fw steady
  have disables : Preserves (fun world => Steady world.kill)
      (onKillSwitch (KillSwitch.disable env.fw)) :=
    onKillSwitch_steady fun _ steady => KillSwitch.disable_steady env.fw steady
  have switches : SwitchSteps env (fun _ => True) (fun world => Steady world.kill) :=
    { toSteps := .of_nmOnly fun _ _ only steady => steady.later only.ks only.clock
      enables := by
        refine .bind enables fun result => ?_
        cases result with
        | none => exact fun _ steady => steady
        | some error => exact .pure
      disables := by
        refine .bind disables fun result => ?_
        cases result with
        | none => exact fun _ steady => steady
        | some error => exact .pure
      releases :=
        .get fun _ _ => .either (Preserves.seq disables fun _ steady => steady) .pure
      scans := onKillSwitch_steady fun _ steady => steady.later rfl (Nat.le_add_right _ _) }
  exact
    { toSwitchSteps := switches
      connecting := fun _ _ => switches.handleConnect (fun _ _ _ _ steady => steady) trivial
      remembered := fun _ _ _ _ => trivial
      autoReconnects := fun _ steady => steady
      setsAutoConnect := fun _ _ steady => steady
      cleans := cleanupOnExit_steady env
      looks := onKillSwitch_steady fun _ steady => KillSwitch.syncState_steady env.fw steady
      reports := fun _ _ steady => steady
      shares := fun _ steady => steady
      exits := fun _ _ steady => steady
      setsAutoReconnect := fun _ _ steady => steady }

theorem toggleKillSwitch_steady :
    Preserves (fun world => Steady world.kill) (toggleKillSwitch env) := by
  apply Preserves.get
  intro world _
  refine .bind (fun _ => switchKillSwitch_steady env _) fun result => ?_
  refine .seq (fun _ steady => steady) (.get fun _ _ => ?_)
  cases result with
  | none => exact .either (fun _ steady => steady) .pure
  | some error => exact .either (fun _ steady => steady) .pure

theorem handleCommand_steady (command : VpnCommand) :
    Preserves (fun world => Steady world.kill) (handleCommand env command) := by
  by_cases explicit : command = .toggleKillSwitch
  · rw [explicit]
    exact toggleKillSwitch_steady env
  · exact (steady_steps env).handleCommand (VpnCommand.isExplicit_eq_false explicit)
      (fun _ _ => trivial)

theorem handleIpcCommand_steady (command : IpcCommand) :
    Preserves (fun world => Steady world.kill) (handleIpcCommand env command) := by
  cases command with
  | killSwitch enable =>
    refine .get fun _ _ => .either .pure ?_
    refine .bind (fun _ => switchKillSwitch_steady env enable) fun result => ?_
    cases result with
    | none => exact fun _ steady => steady
    | some error => exact .pure
  | killSwitchToggle =>
    exact .seq (toggleKillSwitch_steady env) (.get fun _ _ => .pure)
  | reload loaded => exact fun _ steady => ⟨steady.idle, steady.past⟩
  | _ => exact (steady_steps env).handleIpcCommand rfl (fun _ _ => trivial)

theorem steady_loop :
    LoopSteps env (fun _ => True) (fun world => Steady world.kill) where
  toSteps := (steady_steps env).toSteps
  busies _ _ _ steady := steady
  defers _ steady := steady
  marks _ _ steady := steady
  drains _ command _ steady _ := handleCommand_steady env command _ steady

theorem LoopStep.after_steady
    {world : World}
    (steady : Steady world.kill)
    (step : LoopStep) :
    Steady (step.after env world).kill := by
  have loop := steady_loop env
  exact LoopStep.after_of_commands (steady_steps env).toTraySteps loop.reconnects
    (fun _ _ _ => loop.wakeUp (fun _ before => before) world steady) (fun command _ => handleCommand_steady env command)
    (fun command _ => handleIpcCommand_steady env command) (fun _ _ _ _ => trivial) steady

end Toggles

section Reactions

variable (env : Env) (start : World)

/--
The commands that the reconnects of a reaction carry out: those that wait, and
those that arrive in the backoffs.
-/
def received (after : World) : List VpnCommand :=
  start.deferredCommands ++
    (List.range' start.asked.windows (after.asked.windows - start.asked.windows)).flatMap
      fun window => deferredOf (env.arrivals window)

/-- The backoffs and the commands that wait are as they were. -/
def SameQueue (before after : World) : Prop :=
  after.asked.windows = before.asked.windows ∧ after.deferredCommands = before.deferredCommands

theorem sameQueue_ignores :
    Ignores (SameQueue start) :=
  fun _ _ rest same => ⟨rest.windows.trans same.1, rest.deferred.trans same.2⟩

/--
As long as no command that was received is about the kill switch, the switch is
on and none of those that wait is about it.
-/
structure StaysOn (world : World) : Prop where
  later : start.asked.windows ≤ world.asked.windows
  kept :
    (∀ command ∈ received env start world, command.sparesSwitch = true) →
      world.killSwitchIsEnabled = true ∧ Queued (fun command => command.sparesSwitch = true) world

variable {env start}

theorem StaysOn.of_same
    {before after : World}
    (stays : StaysOn env start before)
    (queue : SameQueue before after)
    (enabled : after.killSwitchIsEnabled = before.killSwitchIsEnabled) :
    StaysOn env start after where
  later := by
    rw [queue.1]
    exact stays.later
  kept := by
    rw [received, queue.1, enabled, Queued, queue.2]
    exact stays.kept

/-- One more backoff adds the commands that arrive in it. -/
theorem received_deferArrivals
    {world : World}
    (later : start.asked.windows ≤ world.asked.windows) :
    received env start (deferArrivals env world) =
      received env start world ++ deferredOf (env.arrivals world.asked.windows) := by
  have count :
      (deferArrivals env world).asked.windows - start.asked.windows =
        (world.asked.windows - start.asked.windows) + 1 :=
    Nat.sub_add_comm later
  rw [received, count, List.range'_concat, List.flatMap_append, List.flatMap_singleton, Nat.one_mul,
    Nat.add_sub_cancel' later, received, List.append_assoc]

theorem handleCommand_sameQueue
    (env : Env)
    (command : VpnCommand)
    (world : World) :
    SameQueue world ((handleCommand env command).run world).2 :=
  (sameQueue_ignores world).handleCommand
    ((sameQueue_ignores world).handleConnect fun _ _ _ _ same => same)
    (fun _ _ _ same => same) world ⟨rfl, rfl⟩

theorem handleCommand_staysEnabled
    {command : VpnCommand}
    (spares : command.sparesSwitch = true) :
    Preserves (fun world => world.killSwitchIsEnabled = true) (handleCommand env command) := by
  cases command with
  | connect server => exact Bool.noConfusion spares
  | disconnect => exact Bool.noConfusion spares
  | toggleKillSwitch => exact Bool.noConfusion spares
  | quit => exact Bool.noConfusion spares
  | toggleAutostart =>
    refine .get fun world _ => Preserves.seq (fun _ enabled => enabled) ?_
    cases env.autostart world.asked.autostart with
    | none => exact .pure
    | some autostarts => exact fun _ enabled => enabled
  | restart =>
    refine .get fun _ _ => Preserves.seq (fun _ enabled => enabled) ?_
    exact .either (fun _ enabled => enabled) .pure
  | _ => exact fun _ enabled => enabled

/-- What a reaction is made of keeps the switch on. -/
theorem staysOn_loop :
    LoopSteps env (fun _ => True) (StaysOn env start) where
  toSteps := by
    refine @Steps.of_steps env _ (fun before after => NmOnly before after ∧ SameQueue before after)
      (fun before => (nmOnly_steps env before).and (sameQueue_ignores before).steps)
      (fun world => ⟨Std.Refl.refl world, rfl, rfl⟩) ?_
    exact fun _ _ kept stays => stays.of_same kept.2 kept.1.enabled
  busies _ _ _ stays := ⟨stays.later, stays.kept⟩
  defers := by
    intro world stays
    change StaysOn env start (deferArrivals env world)
    refine ⟨stays.later.trans (Nat.le_succ _), ?_⟩
    rw [received_deferArrivals stays.later]
    intro spares
    obtain ⟨enabled, queued⟩ :=
      stays.kept fun command member => spares command (List.mem_append_left _ member)
    refine ⟨enabled, fun command member => ?_⟩
    rcases List.mem_append.mp member with waits | arrives
    · exact queued command waits
    · exact spares command (List.mem_append_right _ arrives)
  marks _ _ stays := ⟨stays.later, stays.kept⟩
  drains := by
    intro world command rest stays queue
    let popped : World := { world with deferredCommands := rest }
    have same := handleCommand_sameQueue env command popped
    refine ⟨?_, fun spares => ?_⟩
    · rw [same.1]
      exact stays.later
    rw [received, same.1] at spares
    obtain ⟨enabled, queued⟩ := stays.kept spares
    rw [Queued, queue] at queued
    refine ⟨handleCommand_staysEnabled (queued command List.mem_cons_self) popped enabled, ?_⟩
    rw [Queued, same.2]
    exact fun other member => queued other (List.mem_cons_of_mem _ member)

end Reactions

end Supervisor

end Shroud
