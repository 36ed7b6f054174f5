import Shroud.LeakSignal

namespace Shroud

open StateProgram

/-!
# The end of the event loop

The loop ends when a branch that looks at the exit flag finds it set.  Only the
branches of the socket and of the two commands that end the daemon look at it.
A reconnect can set the flag in the other branches too, when it takes up a
command that it had put off.
-/

namespace Supervisor

/-- The branch of the loop looks at the exit flag when it is done. -/
def LoopStep.testsExit : LoopStep → Bool
  | .loopEvent (.trayCommand .restart) => true
  | .loopEvent (.trayCommand .quit) => true
  | .loopEvent (.ipcCommand _) => true
  | _ => false

def LoopStep.isEvent : LoopStep → Bool
  | .pause _ => false
  | _ => true

/-- The steps up to the end of the loop, each with the state that meets it. -/
def handledFrom (env : Env) : World → List LoopStep → List (World × LoopStep)
  | _, [] => []
  | world, step :: steps =>
    (world, step) ::
      if step.testsExit && (step.after env world).exitReason.isSome then []
      else handledFrom env (step.after env world) steps

/-- No event is handled once the exit flag is set. -/
def ExitsPromptly (env : Env) (world : World) (steps : List LoopStep) :
    Prop :=
  ∀ entry ∈ handledFrom env world steps, entry.2.isEvent = true → entry.1.exitReason = none

/-- The supervisor at the beginning of its loop. -/
def startedWorld (env : Env) (config : Config) (health : HealthConfig)
    (maxRetries : Nat) (host : Host) (autostarts : Bool) : World :=
  ((startUp env autostarts).run (.new config health maxRetries host)).2

def NoFinalWaits (world : World) : Prop :=
  ∀ command ∈ world.deferredCommands, command.isFinal = false

/-- No exit is requested, and no final command waits. -/
def Staying (world : World) : Prop :=
  world.exitReason = none ∧ NoFinalWaits world

theorem staying_ignores :
    Ignores Staying := by
  intro _ _ rest staying
  rw [Staying, NoFinalWaits, rest.exitReason, rest.deferred]
  exact staying

theorem noFinalWaits_ignores :
    Ignores NoFinalWaits := by
  intro _ _ rest waits
  rw [NoFinalWaits, rest.deferred]
  exact waits

theorem handleCommand_staying
    (env : Env)
    {command : VpnCommand}
    (notFinal : command.isFinal = false) :
    Preserves Staying (handleCommand env command) := by
  refine staying_ignores.handleCommand
    (staying_ignores.handleConnect fun _ _ _ _ staying => staying) ?_
  exact fun isFinal => Bool.noConfusion (notFinal.symm.trans isFinal)

variable {world : World}

section Sufficient

variable
  {env : Env}
  (stays : ∀ window, ∀ command ∈ deferredOf (env.arrivals window), command.isFinal = false)

include stays

theorem staying_loop :
    LoopSteps env (fun _ => True) Staying where
  toSteps := staying_ignores.steps
  busies next _ := staying_ignores.forces next
  defers := by
    intro world staying
    refine ⟨staying.1, ?_⟩
    intro command member
    rcases List.mem_append.mp member with earlier | arrived
    · exact staying.2 command earlier
    · exact stays _ command arrived
  marks _ _ staying := staying
  drains := by
    intro world command rest staying queue
    refine handleCommand_staying env (staying.2 command (queue ▸ List.mem_cons_self)) _
      ⟨staying.1, ?_⟩
    intro other member
    exact staying.2 other (queue ▸ List.mem_cons_of_mem _ member)

theorem LoopStep.after_staying
    {step : LoopStep}
    (untested : step.testsExit = false)
    (staying : Staying world) :
    Staying (step.after env world) := by
  have loop := staying_loop stays
  have connecting : ∀ name, Preserves Staying (handleConnect env name) :=
    staying_ignores.handleConnect fun _ _ _ _ staying => staying
  refine LoopStep.after_of_commands (staying_ignores.traySteps connecting)
    loop.reconnects (fun _ _ _ => loop.wakeUp (fun _ before => before) world staying) ?_ ?_
    (fun _ _ _ _ => trivial) staying
  · rintro command rfl
    refine handleCommand_staying env ?_
    cases command <;> first | rfl | exact Bool.noConfusion untested
  · rintro command rfl
    exact Bool.noConfusion untested

omit stays in
theorem LoopStep.after_noFinalWaits
    {step : LoopStep}
    (tested : step.testsExit = true)
    (waits : NoFinalWaits world) :
    NoFinalWaits (step.after env world) := by
  have connecting : ∀ name, Preserves NoFinalWaits (handleConnect env name) :=
    noFinalWaits_ignores.handleConnect fun _ _ _ _ waits => waits
  cases step with
  | loopEvent event =>
    cases event with
    | trayCommand command =>
      exact noFinalWaits_ignores.handleCommand connecting (fun _ _ _ waits => waits) world waits
    | ipcCommand command =>
      exact noFinalWaits_ignores.handleIpcCommand connecting
        (fun _ _ waits => waits) command world waits
    | _ => exact Bool.noConfusion tested
  | _ => exact Bool.noConfusion tested

theorem exitsPromptly_of_staying
    (staying : Staying world)
    (steps : List LoopStep) :
    ExitsPromptly env world steps := by
  induction steps generalizing world with
  | nil => exact fun _ member => absurd member List.not_mem_nil
  | cons step steps ih =>
    intro entry member isEvent
    rcases List.mem_cons.mp member with rfl | later
    · exact staying.1
    · cases tested : step.testsExit with
      | false =>
        rw [tested] at later
        exact ih (step.after_staying stays tested staying) entry later isEvent
      | true =>
        cases exits : (step.after env world).exitReason with
        | some reason =>
          rw [tested, exits] at later
          exact absurd later List.not_mem_nil
        | none =>
          rw [tested, exits] at later
          exact ih
            ⟨exits, step.after_noFinalWaits tested staying.2⟩ entry
            later isEvent

theorem exitsPromptly_of_noFinal
    (config : Config)
    (health : HealthConfig)
    (maxRetries : Nat)
    (host : Host)
    (autostarts : Bool)
    (steps : List LoopStep) :
    ExitsPromptly env (startedWorld env config health maxRetries host autostarts) steps := by
  refine exitsPromptly_of_staying stays ?_ steps
  have connecting : ∀ name, Preserves Staying (handleConnect env name) :=
    staying_ignores.handleConnect fun _ _ _ _ staying => staying
  refine (staying_ignores.traySteps connecting).startUp autostarts _ ⟨rfl, ?_⟩
  exact fun _ member => absurd member List.not_mem_nil

end Sufficient

/-- A host that never reconnects, and on which the daemon can be restarted. -/
def deafEnv (arrivals : Nat → List VpnCommand) : Env :=
  { calmEnv with
    listed := fun _ => ["berlin"]
    arrivals := arrivals
    restarts := fun _ => true }

/-- Between two events, with a single attempt for every reconnect. -/
structure Ready (world : World) : Prop where
  idle : Idle world
  settled : world.switchCtx.inProgress = false
  once : world.machine.maxRetries = 1

section Necessary

variable (arrivals : Nat → List VpnCommand)

theorem windows_ignores (windows : Nat) :
    Ignores fun world => world.asked.windows = windows :=
  fun _ _ rest isWindows => rest.windows.trans isWindows

theorem once_ignores :
    Ignores fun world => world.machine.maxRetries = 1 :=
  fun _ _ rest once => rest.maxRetries.trans once

theorem exits_ignores :
    Ignores fun world => world.exitReason ≠ none := by
  intro _ _ rest exits
  rw [rest.exitReason]
  exact exits

theorem handleCommand_exits
    {command : VpnCommand}
    (isFinal : command.isFinal = true)
    (world : World) :
    ((handleCommand (deafEnv arrivals) command).run world).2.exitReason ≠ none := by
  cases command with
  | restart => exact Option.some_ne_none _
  | quit => exact Option.some_ne_none _
  | _ => exact Bool.noConfusion isFinal

theorem drainDeferred_exits
    {commands : List VpnCommand}
    (queue : world.deferredCommands = commands)
    (isFinal : ∃ command ∈ commands, command.isFinal = true) :
    ((drainDeferred (deafEnv arrivals) commands.length).run world).2.exitReason ≠ none := by
  have connecting :
      ∀ name,
        Preserves (fun world => world.exitReason ≠ none) (handleConnect (deafEnv arrivals) name) :=
    exits_ignores.handleConnect fun _ _ _ _ exits => exits
  have drains : Drains (deafEnv arrivals) fun world => world.exitReason ≠ none :=
    fun _ _ _ exits _ =>
      exits_ignores.handleCommand connecting (fun _ _ _ _ => Option.some_ne_none _) _ exits
  induction commands generalizing world with
  | nil =>
    obtain ⟨command, member, -⟩ := isFinal
    exact absurd member List.not_mem_nil
  | cons command rest ih =>
    rw [drainDeferred_cons (deafEnv arrivals) queue]
    obtain ⟨found, member, foundFinal⟩ := isFinal
    rcases List.mem_cons.mp member with rfl | later
    · exact drainDeferred_preserves drains rest.length _ (handleCommand_exits arrivals foundFinal _)
    · refine ih ?_ ⟨found, later, foundFinal⟩
      exact (handleCommand_proceeds (deafEnv arrivals) command
        { world with deferredCommands := rest }).deferred

/-- One backoff has passed, and what arrived in it waits. -/
structure WaitedOnce (before after : World) : Prop where
  windows : after.asked.windows = before.asked.windows + 1
  queue :
    after.deferredCommands = before.deferredCommands ++ deferredOf (arrivals before.asked.windows)

theorem reconnectAttempt_waits
    (notCancelled : world.timing.reconnectCancelled = false) :
    WaitedOnce arrivals world ((reconnectAttempt (deafEnv arrivals) "berlin" 1 1).run world).2 := by
  rw [reconnectAttempt_inactive "berlin" 1 1 notCancelled rfl, reconnectOnce_run]
  split
  · exact ⟨rfl, rfl⟩
  · exact ⟨rfl, rfl⟩

theorem reconnectLoop_waits
    {world : World}
    (notCancelled : world.timing.reconnectCancelled = false)
    (once : world.machine.maxRetries = 1) :
    WaitedOnce arrivals world ((reconnectLoop (deafEnv arrivals) "berlin").run world).2 := by
  obtain ⟨windows, queue⟩ := reconnectAttempt_waits arrivals notCancelled
  rw [reconnectLoop, run_get_bind]
  rw [once, run_bind, reconnectAttempts_succ]
  cases ((reconnectAttempt (deafEnv arrivals) "berlin" 1 1).run world).1 with
  | _ => exact ⟨windows, queue⟩

theorem attemptReconnectInner_waits
    {world : World}
    (notDebounced : isDebounced world = false)
    (once : world.machine.maxRetries = 1) :
    WaitedOnce arrivals world
      ((attemptReconnectInner (deafEnv arrivals) "berlin").run world).2 := by
  rw [attemptReconnectInner, run_get_bind]
  rw [notDebounced, if_neg Bool.false_ne_true, startReconnect, run_bind,
    run_bind, shouldAttemptReconnect_none rfl]
  dsimp only
  rw [if_pos rfl, run_bind]
  let listed : World :=
    ((do
      modify fun world : World =>
        { world with
          timing := { world.timing with
            lastReconnectTime := some world.now
            reconnectCancelled := false } }
      let _ ← getActiveVpn (deafEnv arrivals)
      listVpnConnections (deafEnv arrivals) : StateM World (List String)).run world).2
  have waits := @reconnectLoop_waits arrivals listed rfl once
  exact ⟨waits.windows, waits.queue⟩

section

variable
  (idle : Idle world)
  (notDebounced : isDebounced world = false)
  (once : world.machine.maxRetries = 1)

include idle notDebounced once

theorem reconnected_waits :
    (reconnected (deafEnv arrivals) "berlin" world).asked.windows =
        world.asked.windows + 1 ∧
      (reconnected (deafEnv arrivals) "berlin" world).deferredCommands =
        deferredOf (arrivals world.asked.windows) := by
  have waits := @attemptReconnectInner_waits arrivals (markReconnect true world) notDebounced once
  refine ⟨waits.windows, waits.queue.trans ?_⟩
  exact congrArg (· ++ _) idle.queue

theorem attemptReconnect_windows :
    ((attemptReconnect (deafEnv arrivals) "berlin").run
      world).2.asked.windows = world.asked.windows + 1 := by
  obtain ⟨windows, -⟩ := reconnected_waits arrivals idle notDebounced once
  have ignores := windows_ignores (world.asked.windows + 1)
  have connecting := @Ignores.handleConnect (deafEnv arrivals) _ ignores (fun _ _ _ _ same => same)
  have drains :
      ∀ fuel,
        Preserves (fun later => later.asked.windows = world.asked.windows + 1)
          (drainDeferred (deafEnv arrivals) fuel) :=
    drainDeferred_preserves fun _ _ _ same _ =>
      ignores.handleCommand connecting (fun _ _ _ same => same) _ same
  rw [attemptReconnect_run _ "berlin" idle]
  exact drains _ _ windows

theorem attemptReconnect_exits
    (isFinal : ∃ command ∈ deferredOf (arrivals world.asked.windows), command.isFinal = true) :
    ((attemptReconnect (deafEnv arrivals) "berlin").run world).2.exitReason ≠ none := by
  obtain ⟨-, queue⟩ := reconnected_waits arrivals idle notDebounced once
  rw [attemptReconnect_run _ "berlin" idle]
  exact drainDeferred_exits arrivals rfl (queue ▸ isFinal)

end

theorem attemptReconnect_ready
    (env : Env)
    (name : String)
    (ready : Ready world) :
    Ready ((attemptReconnect env name).run world).2 := by
  have settles :
      LoopSteps env (fun _ => True) fun world => world.switchCtx.inProgress = false :=
    { toSteps := settled_ignores.steps
      busies := fun next _ => settled_ignores.forces next
      defers := fun _ settled => settled
      marks := fun _ _ settled => settled
      drains := fun _ command _ settled _ => handleCommand_settled env command _ settled }
  have keepsOnce :
      LoopSteps env (fun _ => True) fun world => world.machine.maxRetries = 1 :=
    { toSteps := once_ignores.steps
      busies := fun next _ => once_ignores.forces next
      defers := fun _ once => once
      marks := fun _ _ once => once
      drains := fun _ _ _ once _ =>
        once_ignores.handleCommand
          (once_ignores.handleConnect fun _ _ _ _ once => once)
          (fun _ _ _ once => once) _ once }
  exact ⟨attemptReconnect_idle env name ready.idle,
    settles.attemptReconnect trivial world ready.settled,
    keepsOnce.attemptReconnect trivial world ready.once⟩

/-- The supervisor when NetworkManager reports a failure. -/
def failed (world : World) : World :=
  ((dispatchAndSync .nmVpnDown).run (admitted world)).2

theorem handleDbusEvent_failed
    (env : Env)
    (name reason : String)
    (unfiltered : isFiltered world = false)
    (reconnects : world.shared.autoReconnect = true) :
    (handleDbusEvent env (.vpnFailed name reason)).run world =
      (attemptReconnect env name).run (failed world) := by
  have passes := @passFilters_admits (.vpnFailed name reason) world unfiltered rfl
  rw [handleDbusEvent, run_bind, passes]
  dsimp only
  rw [if_pos rfl]
  have still : (admitted world).shared.autoReconnect = true := reconnects
  rw [handleAdmitted, handleFailed, run_get_bind]
  rw [still, if_pos rfl, run_bind]
  rfl

/-- A pause after which nothing that was noted counts as recent. -/
def longPause (world : World) : Nat :=
  10000 + world.timing.lastDisconnectTime.getD 0 +
    world.timing.lastWakeResync.getD 0 +
    world.timing.lastReconnectTime.getD 0

theorem isWithin_elapse
    {secs millis : Nat}
    {noted : Option Nat}
    (world : World)
    (soon : secs ≤ 10)
    (long : 10000 + noted.getD 0 ≤ millis) :
    isWithin secs noted (world.elapse millis) = false := by
  cases noted with
  | none => rfl
  | some time =>
    have later : (world.elapse millis).now = world.now + millis := rfl
    rw [Option.getD_some] at long
    rw [isWithin, later, decide_eq_false_iff_not]
    omega

theorem le_longPause (world : World) :
    10000 + world.timing.lastDisconnectTime.getD 0 ≤ longPause world ∧
      10000 + world.timing.lastWakeResync.getD 0 ≤ longPause world ∧
      10000 + world.timing.lastReconnectTime.getD 0 ≤ longPause world := by
  rw [longPause]
  omega

theorem isFiltered_longPause (settled : world.switchCtx.inProgress = false) :
    isFiltered (world.elapse (longPause world)) = false := by
  obtain ⟨disconnect, wake, -⟩ := le_longPause world
  have awake : inWakeGrace (world.elapse (longPause world)) = false :=
    isWithin_elapse world (by decide) wake
  have calm : inDisconnectGrace (world.elapse (longPause world)) = false :=
    isWithin_elapse world (by decide) disconnect
  have still : (world.elapse (longPause world)).switchCtx.inProgress = false :=
    settled
  rw [isFiltered, awake, calm, still]
  rfl

theorem isDebounced_eq (world : World) :
    isDebounced world = isWithin reconnectDebounceSecs world.timing.lastReconnectTime world := by
  rw [isDebounced]
  cases world.timing.lastReconnectTime with
  | none => rfl
  | some lastTime => rfl

theorem isDebounced_longPause (world : World) :
    isDebounced (failed (world.elapse (longPause world))) = false := by
  obtain ⟨-, -, reconnect⟩ := le_longPause world
  have same := dispatchAndSync_eventOnly .nmVpnDown (admitted (world.elapse (longPause world)))
  have debounced :
      isDebounced (failed (world.elapse (longPause world))) =
        isDebounced (world.elapse (longPause world)) := by
    rw [failed, isDebounced, isDebounced, World.now, same.timing, same.kill]
    rfl
  rw [debounced, isDebounced_eq]
  exact isWithin_elapse world (by decide) reconnect

theorem failed_ready (ready : Ready world) :
    Ready (failed world) := by
  have same := dispatchAndSync_eventOnly .nmVpnDown (admitted world)
  have idle : Idle (admitted world) := ⟨ready.idle.queue, ready.idle.inProgress⟩
  refine ⟨idle.proceeds (dispatchAndSync_proceeds _ _), ?_, ?_⟩
  · rw [failed, same.switchCtx]
    exact ready.settled
  · rw [failed, dispatchAndSync_machine, StateMachine.handleEvent_maxRetries]
    exact ready.once

/-- A run of the loop whose branches do not look at the exit flag. -/
structure Untested (env : Env) (before after : World) : Prop where
  steps :
    ∃ steps : List LoopStep,
      (∀ step ∈ steps, step.testsExit = false) ∧ after = runLoop env steps before

instance (env : Env) : IsPreorder World (Untested env) where
  refl world := ⟨[], by simp, rfl⟩
  trans first second third := by
    rintro ⟨earlier, untestedEarlier, rfl⟩ ⟨later, untestedLater, rfl⟩
    refine ⟨earlier ++ later, ?_, ?_⟩
    · intro step member
      rcases List.mem_append.mp member with inEarlier | inLater
      · exact untestedEarlier step inEarlier
      · exact untestedLater step inLater
    · exact (List.foldl_append).symm

theorem Untested.step
    {env : Env}
    {world : World}
    {step : LoopStep}
    (untested : step.testsExit = false) :
    Untested env world (step.after env world) :=
  ⟨[step], by simpa using untested, rfl⟩

theorem Untested.meets
    {env : Env}
    {before after : World}
    (untested : Untested env before after)
    (next : LoopStep) :
    ∃ steps, (after, next) ∈ handledFrom env before steps := by
  obtain ⟨steps, allUntested, rfl⟩ := untested
  refine ⟨steps ++ [next], ?_⟩
  induction steps generalizing before with
  | nil => exact List.mem_cons_self
  | cons step steps ih =>
    have first := allUntested step List.mem_cons_self
    rw [List.cons_append, handledFrom, first]
    refine List.mem_cons_of_mem _ ?_
    exact ih
      (fun later member => allUntested later (List.mem_cons_of_mem _ member))

theorem reaches_autoReconnect (ready : Ready world) :
    ∃ after, Untested (deafEnv arrivals) world after ∧ Ready after ∧
      after.shared.autoReconnect = true ∧
      after.asked.windows = world.asked.windows := by
  cases enabled : world.shared.autoReconnect with
  | true => exact ⟨world, Std.Refl.refl world, ready, enabled, rfl⟩
  | false =>
    let toggle : LoopStep := .loopEvent (.trayCommand .toggleAutoReconnect)
    refine ⟨toggle.after (deafEnv arrivals) world, .step rfl,
      ⟨⟨ready.idle.queue, ready.idle.inProgress⟩, ready.settled, ready.once⟩,
      ?_, rfl⟩
    have toggled :
        (toggle.after (deafEnv arrivals) world).shared.autoReconnect =
          !world.shared.autoReconnect :=
      rfl
    rw [toggled, enabled]
    rfl

theorem reaches_nextWindow (ready : Ready world) :
    ∃ after, Untested (deafEnv arrivals) world after ∧ Ready after ∧
      after.asked.windows = world.asked.windows + 1 ∧
      ((∃ command ∈ deferredOf (arrivals world.asked.windows),
          command.isFinal = true) →
        after.exitReason ≠ none) := by
  obtain ⟨enabled, toEnabled, enabledReady, reconnects, windows⟩ :=
    reaches_autoReconnect arrivals ready
  let waited := enabled.elapse (longPause enabled)
  have waitedReady : Ready waited :=
    ⟨⟨enabledReady.idle.queue, enabledReady.idle.inProgress⟩,
      enabledReady.settled, enabledReady.once⟩
  have failedReady := failed_ready waitedReady
  have same := dispatchAndSync_eventOnly .nmVpnDown (admitted waited)
  have sameWindows : (failed waited).asked.windows = world.asked.windows :=
    (congrArg Asked.windows same.asked).trans windows
  have notDebounced : isDebounced (failed waited) = false := isDebounced_longPause enabled
  let failure : LoopStep := .dbusEvent (.vpnFailed "berlin" "")
  have fails :
      failure.after (deafEnv arrivals) waited =
        ((attemptReconnect (deafEnv arrivals) "berlin").run (failed waited)).2 :=
    congrArg Prod.snd
      (handleDbusEvent_failed (deafEnv arrivals) "berlin" ""
        (isFiltered_longPause enabledReady.settled) reconnects)
  have run : Untested (deafEnv arrivals) world (failure.after (deafEnv arrivals) waited) := by
    have pauses : Untested (deafEnv arrivals) enabled waited :=
      @Untested.step _ enabled (.pause (longPause enabled)) rfl
    have strikes : Untested (deafEnv arrivals) waited (failure.after (deafEnv arrivals) waited) :=
      .step rfl
    exact IsTrans.trans _ _ _ toEnabled (IsTrans.trans _ _ _ pauses strikes)
  refine ⟨_, run, ?_⟩
  rw [fails, ← sameWindows]
  refine ⟨attemptReconnect_ready _ "berlin" failedReady,
    attemptReconnect_windows arrivals failedReady.idle notDebounced failedReady.once, ?_⟩
  exact attemptReconnect_exits arrivals failedReady.idle notDebounced failedReady.once

def deafStart : World :=
  startedWorld (deafEnv arrivals) .default .default 1 KillSwitch.freshWorld.host false

theorem deafStart_ready :
    Ready (deafStart arrivals) :=
  ⟨⟨rfl, rfl⟩, rfl, rfl⟩

theorem reaches_window (window : Nat) :
    ∃ world, Untested (deafEnv arrivals) (deafStart arrivals) world ∧
      Ready world ∧ world.asked.windows = window := by
  induction window with
  | zero =>
    exact ⟨deafStart arrivals, Std.Refl.refl _, deafStart_ready arrivals, rfl⟩
  | succ window ih =>
    obtain ⟨world, reached, ready, windows⟩ := ih
    obtain ⟨after, more, afterReady, afterWindows, -⟩ := reaches_nextWindow arrivals ready
    exact ⟨after, IsTrans.trans _ _ _ reached more, afterReady,
      afterWindows.trans (congrArg (· + 1) windows)⟩

end Necessary

/--
No event is handled after an exit was requested, in any run of the loop, if
and only if no backoff puts off a command that ends the daemon.
-/
theorem exits_promptly_iff (arrivals : Nat → List VpnCommand) :
    (∀ (env : Env) (config : Config) (health : HealthConfig)
        (maxRetries : Nat) (host : Host) (autostarts : Bool)
        (steps : List LoopStep),
      env.arrivals = arrivals →
        ExitsPromptly env (startedWorld env config health maxRetries host autostarts) steps) ↔
      ∀ window, ∀ command ∈ deferredOf (arrivals window), command.isFinal = false := by
  constructor
  · intro prompt window command member
    by_contra isFinal
    rw [Bool.not_eq_false] at isFinal
    obtain ⟨world, reached, ready, windows⟩ := reaches_window arrivals window
    obtain ⟨after, more, -, -, exits⟩ := reaches_nextWindow arrivals ready
    let next : LoopStep := .pollTick 0
    have run : Untested (deafEnv arrivals) (deafStart arrivals) after :=
      IsTrans.trans _ _ _ reached more
    obtain ⟨steps, met⟩ := run.meets next
    have none := prompt (deafEnv arrivals) .default .default 1
      KillSwitch.freshWorld.host false steps rfl (after, next) met rfl
    exact exits ⟨command, windows.symm ▸ member, isFinal⟩ none
  · intro stays env config health maxRetries host autostarts steps same
    rw [← same] at stays
    exact exitsPromptly_of_noFinal stays config health maxRetries host autostarts steps

/-- The user quits while the supervisor waits for its first attempt. -/
def quitsWhileWaiting : Nat → List VpnCommand
  | 0 => [.quit]
  | _ => []

/--
The connection fails, the user quits during the backoff, and the next signal
is still handled.
-/
theorem quit_in_backoff_goes_on :
    ¬ ExitsPromptly (deafEnv quitsWhileWaiting) (deafStart quitsWhileWaiting)
      [.dbusEvent (.vpnFailed "berlin" "no route"), .dbusEvent (.vpnActivated "paris")] := by
  intro prompt
  have none := prompt _ (List.mem_cons_of_mem _ List.mem_cons_self) rfl
  exact Option.some_ne_none _ none

end Supervisor

end Shroud
