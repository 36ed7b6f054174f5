import Shroud.KillSwitchReport

namespace Shroud.Supervisor

open StateProgram

/-!
# Settings that are kept in more than one place

The kill switch has its real state and the wish in the configuration, the
configuration has its file, and the wish to reconnect stands in the
configuration and in the shared state that drives every decision.  This module
says when a command leaves these copies with one value.
-/

def IpcResponse.isOk : IpcResponse → Bool
  | .ok => true
  | .okMessage _ => true
  | .error _ => false

/-- The kill switch, the wish and the file all say what was asked for. -/
structure Honoured (enable : Bool) (world : World) : Prop where
  real : world.killSwitchIsEnabled = enable
  wanted : world.config.killSwitchEnabled = enable
  saved : ∀ config, world.saves.getLast? = some config → config.killSwitchEnabled = enable

/--
What the command finds: either the kill switch is already in that state, and so
are the wish and the file, or a toggle is possible now.
-/
structure Grantable (enable : Bool) (world : World) : Prop where
  already : world.killSwitchIsEnabled = enable → Honoured enable world
  possible :
    world.killSwitchIsEnabled = !enable →
      world.kill.ks.toggleInProgress = false ∧ world.kill.ks.inCooldown world.now = false

section KillSwitchCommand

variable (env : Env)

theorem switchKillSwitch_spec
    {enable : Bool}
    {world : World}
    (differs : world.killSwitchIsEnabled = !enable) :
    (((switchKillSwitch env enable).run world).1 = none ∧
      ((switchKillSwitch env enable).run world).2.killSwitchIsEnabled = !enable ∧
      (world.kill.ks.toggleInProgress = true ∨ world.kill.ks.inCooldown world.now = true)) ∨
    (world.kill.ks.toggleInProgress = false ∧
      world.kill.ks.inCooldown world.now = false ∧
      (((switchKillSwitch env enable).run world).1 = none →
        ((switchKillSwitch env enable).run world).2.killSwitchIsEnabled = enable)) := by
  cases enable with
  | true =>
    have off : world.kill.ks.enabled = false := differs
    rcases KillSwitch.enable_spec env.fw world.kill with
      ⟨skipped, reason⟩ | ⟨idle, cooled, ran⟩
    · refine .inl ⟨skipped.ok, (congrArg (·.enabled) skipped.ks).trans off, ?_⟩
      rcases reason with busy | cooling | enabled
      · exact .inl busy
      · exact .inr cooling
      · exact absurd (off.symm.trans enabled) Bool.false_ne_true
    · exact .inr ⟨idle, cooled, ran.done⟩
  | false =>
    have on : world.kill.ks.enabled = true := differs
    rcases KillSwitch.disable_spec env.fw world.kill with
      ⟨skipped, reason⟩ | ⟨idle, cooled, ran⟩
    · exact .inl ⟨skipped.ok, (congrArg (·.enabled) skipped.ks).trans on, reason⟩
    · exact .inr ⟨idle, cooled, ran.done⟩

theorem answerKillSwitch_honours_iff
    (enable : Bool)
    (world : World) :
    Honoured enable ((answerKillSwitch none).run world).2 ↔ world.killSwitchIsEnabled = enable := by
  constructor
  · intro honoured
    exact honoured.real
  · intro real
    refine ⟨real, real, ?_⟩
    intro config isLast
    have last :
        ((answerKillSwitch none).run world).2.saves.getLast? =
          some { world.config with
            killSwitchEnabled := world.killSwitchIsEnabled } :=
      List.getLast?_concat
    rw [← Option.some.inj (last.symm.trans isLast)]
    exact real

theorem ipcKillSwitch_run
    (enable : Bool)
    (world : World) :
    (ipcKillSwitch env enable).run world =
      if world.killSwitchIsEnabled = enable then
        (.okMessage ("Kill switch already " ++ enabledText enable), world)
      else
        (answerKillSwitch ((switchKillSwitch env enable).run world).1).run
          ((switchKillSwitch env enable).run world).2 := by
  by_cases already : world.killSwitchIsEnabled = enable
  · rw [if_pos already, ipcKillSwitch, run_get_bind]
    rw [if_pos already]
    rfl
  · rw [if_neg already, ipcKillSwitch, run_get_bind]
    rw [if_neg already, run_bind]

end KillSwitchCommand

/--
A command for the kill switch that is answered with a success has been
honoured and persisted exactly if it was grantable.  Otherwise the answer comes
from the early return, which stores nothing, or from a toggle that was skipped.
-/
theorem killSwitch_honoured_iff
    (env : Env)
    (enable : Bool)
    (world : World) :
    (((handleIpcCommand env (.killSwitch enable)).run world).1.isOk = true →
      Honoured enable ((handleIpcCommand env (.killSwitch enable)).run world).2) ↔
      Grantable enable world := by
  change
    (((ipcKillSwitch env enable).run world).1.isOk = true →
      Honoured enable ((ipcKillSwitch env enable).run world).2) ↔ _
  rw [ipcKillSwitch_run]
  by_cases already : world.killSwitchIsEnabled = enable
  · rw [if_pos already]
    constructor
    · intro honours
      refine ⟨fun _ => honours rfl, ?_⟩
      intro differs
      rw [already] at differs
      exact absurd differs (by simp)
    · intro grantable _
      exact grantable.already already
  have differs : world.killSwitchIsEnabled = !enable := Bool.eq_not_iff.mpr already
  rw [if_neg already]
  rcases switchKillSwitch_spec env differs with
    ⟨ok, unchanged, reason⟩ | ⟨idle, cooled, done⟩
  · -- nothing was toggled, and the success says the opposite
    rw [ok, answerKillSwitch_honours_iff]
    constructor
    · intro honours
      rw [honours rfl] at unchanged
      exact absurd unchanged (by simp)
    · intro grantable
      obtain ⟨idle, cooled⟩ := grantable.possible differs
      rcases reason with busy | cooling
      · exact absurd (idle.symm.trans busy) Bool.false_ne_true
      · exact absurd (cooled.symm.trans cooling) Bool.false_ne_true
  · have grantable : Grantable enable world :=
      ⟨fun same => absurd same already, fun _ => ⟨idle, cooled⟩⟩
    refine iff_of_true ?_ grantable
    cases result : ((switchKillSwitch env enable).run world).1 with
    | none =>
      intro _
      exact (answerKillSwitch_honours_iff enable _).mpr (done result)
    | some error => exact fun isOk => Bool.noConfusion isOk

/--
Switched off right after it was switched on, the kill switch stays on; switched
off while a disconnect has suspended it, it comes back with the next connect.
-/
theorem killSwitch_command_is_dropped :
    let on := runLoop calmEnv [.loopEvent (.ipcCommand (.killSwitch true))] connectedWorld
    let soon := (handleIpcCommand calmEnv (.killSwitch false)).run on
    let suspended := runLoop calmEnv [.pause 1000, .loopEvent (.ipcCommand .disconnect)] on
    let late := (handleIpcCommand calmEnv (.killSwitch false)).run suspended
    (soon.1 = .okMessage "Kill switch enabled" ∧ soon.2.killSwitchIsEnabled = true) ∧
    (late.1 = .okMessage "Kill switch already disabled" ∧
      late.2.killSwitchIsEnabled = false ∧
      late.2.config.killSwitchEnabled = true ∧
      late.2.saves.getLast?.map (·.killSwitchEnabled) = some true) := by
  decide

/-- The value that drives the decisions is the one that is stored. -/
def Agree (world : World) : Prop :=
  world.shared.autoReconnect = world.config.autoReconnect

/-- The two copies of the wish. -/
def reconnectWish (world : World) : Bool × Bool :=
  (world.shared.autoReconnect, world.config.autoReconnect)

theorem agree_of_same
    {α : Type}
    {program : StateM World α}
    (keeps : Keeps (SameView reconnectWish) program) :
    Preserves Agree program := by
  intro world before
  have same := Prod.mk.inj (keeps world)
  rw [Agree, same.1, same.2]
  exact before

section Agreement

variable (env : Env)

theorem noteConnected_sameWish (world : World) :
    reconnectWish (noteConnected world) = reconnectWish world := by
  rw [noteConnected]
  cases world.machine.state with
  | connected server =>
    dsimp only
    split <;> rfl
  | _ => rfl

theorem agree_indifferent :
    Indifferent Agree := by
  rintro before _ ⟨kill, reported, rfl⟩ agree
  exact agree

theorem storeKillSwitch_agree (enabled : Bool) :
    Preserves Agree (storeKillSwitch enabled) :=
  agree_of_same (fun _ => rfl)

theorem agree_steps :
    TraySteps env (fun _ => True) Agree := by
  have steps : Steps env (fun _ => True) Agree := by
    refine .of_stored (fun keeps => agree_of_same (fun world => ?_))
      (fun event => agree_of_same (fun world => ?_))
    · exact congrArg (fun stored => (stored.2.2, stored.1.autoReconnect)) (keeps world)
    · exact noteConnected_sameWish { world with machine := (world.machine.handleEvent event).2 }
  exact agree_indifferent.traySteps steps
    (fun _ _ _ => agree_of_same (fun _ => rfl)) (fun _ _ _ _ => trivial)
    (fun _ _ => rfl) (fun enable => agree_of_same (fun _ => rfl))
    (fun _ _ => rfl)

theorem handleCommand_agree (command : VpnCommand) :
    Preserves Agree (handleCommand env command) :=
  agree_indifferent.handleCommand (agree_steps env) storeKillSwitch_agree (fun _ _ => trivial)
    (fun _ _ => agree_of_same (fun _ => rfl))

theorem agree_loop :
    LoopSteps env (fun _ => True) Agree where
  toSteps := (agree_steps env).toSteps
  busies _ _ := agree_of_same (fun _ => rfl)
  defers := agree_of_same (fun _ => rfl)
  marks _ := agree_of_same (fun _ => rfl)
  drains _ command _ before _ := handleCommand_agree env command _ before

/-- The command of the socket that sets one copy of the wish. -/
def LoopStep.setsAutoReconnect : LoopStep → Option Bool
  | .loopEvent (.ipcCommand (.autoReconnect enable)) => some enable
  | _ => none

theorem handleIpcCommand_agree
    {command : IpcCommand}
    (other : ∀ enable, command ≠ .autoReconnect enable) :
    Preserves Agree (handleIpcCommand env command) := by
  refine agree_indifferent.handleIpcCommand (agree_steps env) storeKillSwitch_agree
    (fun _ _ => trivial) ?_ (fun _ => agree_of_same (fun _ => rfl)) ?_
  · -- the file is read into both copies
    intro loaded _ world _
    exact appliedFlag_self loaded.autoReconnect
  · exact fun enable same => absurd same (other enable)

theorem LoopStep.after_agree
    {step : LoopStep}
    (other : step.setsAutoReconnect = none)
    {world : World}
    (before : Agree world) :
    Agree (step.after env world) := by
  refine after_of_commands (agree_steps env) (agree_loop env).reconnects
    (fun _ _ _ => (agree_loop env).wakeUp (fun _ agree => agree) world before) ?_ ?_ ?_ before
  · exact fun command _ => handleCommand_agree env command
  · rintro command rfl
    apply handleIpcCommand_agree env
    rintro enable rfl
    exact absurd other (Option.some_ne_none enable)
  · exact fun _ _ _ _ => trivial

theorem LoopStep.after_setsAutoReconnect
    {step : LoopStep}
    {enable : Bool}
    (sets : step.setsAutoReconnect = some enable)
    (world : World) :
    reconnectWish (step.after env world) = (world.shared.autoReconnect, enable) := by
  unfold setsAutoReconnect at sets
  split at sets
  · rw [← Option.some.inj sets]
    rfl
  · exact absurd sets.symm (Option.some_ne_none enable)

/-- The copies are equal, and a value that was set is the value of both. -/
structure OneValue (step : LoopStep) (after : World) : Prop where
  agree : Agree after
  set :
    ∀ enable, step.setsAutoReconnect = some enable →
      after.shared.autoReconnect = enable ∧ after.config.autoReconnect = enable

/-- A value that is set is the one that is in force already. -/
def LoopStep.Confirms (step : LoopStep) (world : World) : Prop :=
  ∀ enable, step.setsAutoReconnect = some enable → world.shared.autoReconnect = enable

/-- Every step of a run leaves one value. -/
def OneValueAlong : List LoopStep → World → Prop
  | [], _ => True
  | step :: later, world =>
    OneValue step (step.after env world) ∧ OneValueAlong later (step.after env world)

/-- Every value that is set in a run is in force already. -/
def ConfirmsAlong : List LoopStep → World → Prop
  | [], _ => True
  | step :: later, world =>
    step.Confirms world ∧ ConfirmsAlong later (step.after env world)

theorem oneValue_iff
    (step : LoopStep)
    {world : World}
    (before : Agree world) :
    OneValue step (step.after env world) ↔ step.Confirms world := by
  cases sets : step.setsAutoReconnect with
  | none =>
    have never : ∀ enable, step.setsAutoReconnect ≠ some enable := by
      simp [sets]
    refine iff_of_true ⟨step.after_agree env sets before, ?_⟩ ?_
    · exact fun enable isSet => absurd isSet (never enable)
    · exact fun enable isSet => absurd isSet (never enable)
  | some enable =>
    obtain ⟨shared, stored⟩ := Prod.mk.inj (step.after_setsAutoReconnect env sets world)
    constructor
    · intro oneValue other isSet
      rw [← shared]
      exact (oneValue.set other isSet).1
    · intro confirms
      have inForce := confirms enable sets
      refine ⟨?_, ?_⟩
      · rw [Agree, shared, stored]
        exact inForce
      · intro other isSet
        rw [shared, stored, inForce]
        have same : enable = other := Option.some.inj (sets.symm.trans isSet)
        exact ⟨same, same⟩

theorem oneValueAlong_iff
    (run : List LoopStep)
    {world : World}
    (before : Agree world) :
    OneValueAlong env run world ↔ ConfirmsAlong env run world := by
  induction run generalizing world with
  | nil => exact Iff.rfl
  | cons step later ih =>
    have one := oneValue_iff env step before
    constructor
    · rintro ⟨oneValue, along⟩
      exact ⟨one.mp oneValue, (ih oneValue.agree).mp along⟩
    · rintro ⟨confirms, along⟩
      have oneValue := one.mpr confirms
      exact ⟨oneValue, (ih oneValue.agree).mpr along⟩

end Agreement

/--
After the start the two copies of the wish to reconnect are equal, and they are
equal after every step of a run exactly if each command of the socket that sets
the wish asks for what is in force already: it writes the configuration only.
-/
theorem autoReconnect_has_one_value_iff
    (env : Env)
    (autostarts : Bool)
    (config : Config)
    (health : HealthConfig)
    (maxRetries : Nat)
    (host : Host)
    (run : List LoopStep) :
    let started := ((startUp env autostarts).run (World.new config health maxRetries host)).2
    Agree started ∧ (OneValueAlong env run started ↔ ConfirmsAlong env run started) := by
  intro started
  have agree : Agree started := (agree_steps env).startUp autostarts _ rfl
  exact ⟨agree, oneValueAlong_iff env run agree⟩

/-- Switched off over the socket, reconnecting stays on. -/
theorem autoReconnect_command_is_dropped :
    let started := ((startUp calmEnv false).run restingWorld).2
    let answered := (handleIpcCommand calmEnv (.autoReconnect false)).run started
    answered.1 = .ok ∧
      answered.2.config.autoReconnect = false ∧
      answered.2.shared.autoReconnect = true := by
  decide

end Shroud.Supervisor
