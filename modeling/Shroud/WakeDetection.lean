import Shroud.HandlerFrame

namespace Shroud.Supervisor

open StateProgram

/-!
# Detecting a suspend, and the quiet time after it

The poll compares two clocks to find out that the machine was suspended, and
then keeps health checks from running for a while.  Both rest on notes that are
also written for other reasons: one clock is read a second time at start-up, and
the end of the quiet time is forgotten with the failure counters.
-/

/--
What the poll knows of time.  Both clocks advance alike, so a reading of either
is the moment of the reading.
-/
structure PollClock where
  now : Nat
  lastPollTime : Nat
  lastPollWall : Nat
  lastWakeEvent : Option Nat
  deriving Repr, DecidableEq

namespace PollClock

/--
The start of the loop.  The constructor reads both clocks, `run` reads the
monotonic one again after its first queries, and goes on for some time.
-/
def started (built early late : Nat) : PollClock where
  now := built + early + late
  lastPollTime := built + early
  lastPollWall := built
  lastWakeEvent := none

def jump? (clock : PollClock) : Option Nat :=
  detectTimeJump (clock.now - clock.lastPollWall) (clock.now - clock.lastPollTime)
    timeJumpThresholdMs

/-- The last wake event is long enough ago for another one. -/
def mayWake (clock : PollClock) : Bool :=
  match clock.lastWakeEvent with
  | some time => !decide ((clock.now - time) / 1000 < timeJumpCooldownSecs)
  | none => true

/-- A tick at this moment dispatches `Wake` and forces a resync. -/
def wakes (clock : PollClock) : Bool :=
  clock.jump?.isSome && clock.mayWake

/-- The loop waits or works, or handles a tick; either takes some time. -/
inductive Step where
  | work (millis : Nat)
  | tick (millis : Nat)

def after (clock : PollClock) : Step → PollClock
  | .work millis => { clock with now := clock.now + millis }
  | .tick millis =>
    { now := clock.now + millis
      lastPollTime := clock.now + millis
      lastPollWall := clock.now + millis
      lastWakeEvent := if clock.wakes then some clock.now else clock.lastWakeEvent }

def run (clock : PollClock) (steps : List Step) : PollClock :=
  steps.foldl after clock

/-- The clock is the one of a supervisor. -/
structure Shows (clock : PollClock) (world : World) : Prop where
  now : clock.now = world.now
  lastPollTime : clock.lastPollTime = world.timing.lastPollTime
  lastWakeEvent : clock.lastWakeEvent = world.timing.lastWakeEvent

theorem reactToTick_eq
    (env : Env)
    {clock : PollClock}
    {world : World}
    (shows : clock.Shows world) :
    (reactToTick env (clock.now - clock.lastPollWall)).run world =
      if clock.wakes then (wakeUp env).run world
      else if clock.jump?.isSome then ((), world)
      else (pollNmState env).run world := by
  have sameMay : clock.mayWake = Supervisor.mayWake world := by
    rw [mayWake, Supervisor.mayWake, shows.lastWakeEvent, shows.now]
    cases world.timing.lastWakeEvent <;> rfl
  rw [reactToTick, run_bind, run_get, wakes, sameMay, jump?, ← shows.now, ← shows.lastPollTime]
  dsimp only
  cases detectTimeJump (clock.now - clock.lastPollWall) (clock.now - clock.lastPollTime)
    timeJumpThresholdMs with
  | none => rfl
  | some skew => cases Supervisor.mayWake world <;> rfl

/-- The readings lie at most the threshold apart. -/
def Close (clock : PollClock) : Prop :=
  clock.lastPollTime - clock.lastPollWall ≤ timeJumpThresholdMs

theorem Close.run
    {clock : PollClock}
    (close : clock.Close)
    (steps : List Step) :
    (clock.run steps).Close := by
  induction steps generalizing clock with
  | nil => exact close
  | cons step later ih =>
    refine ih ?_
    cases step with
    | work millis => exact close
    | tick millis => exact (Nat.sub_self _).trans_le (Nat.zero_le _)

theorem Close.calm
    {clock : PollClock}
    (close : clock.Close) :
    clock.wakes = false := by
  have none : clock.jump? = none := by
    rw [jump?, detectTimeJump]
    refine if_neg ?_
    rw [Close] at close
    omega
  rw [wakes, none]
  rfl

/--
With clocks that advance alike no tick ever takes a slow loop for a suspend, if
and only if start-up reaches its second reading within the threshold.
-/
theorem no_false_wake_iff (built early late : Nat) :
    (∀ steps, ((started built early late).run steps).wakes = false) ↔
      early ≤ timeJumpThresholdMs := by
  constructor
  · intro calm
    refine Nat.le_of_not_lt fun slow => ?_
    have jumps : (started built early late).jump? = some early := by
      have skew :
          built + early + late - built - (built + early + late - (built + early)) = early := by
        omega
      rw [jump?, detectTimeJump, started, skew]
      exact if_pos slow
    have wakes : (started built early late).wakes = true := by
      rw [PollClock.wakes, jumps]
      rfl
    exact Bool.false_ne_true ((calm []).symm.trans wakes)
  · intro fast steps
    refine Close.calm (Close.run ?_ steps)
    rw [Close, started, Nat.add_sub_cancel_left]
    exact fast

/-- Eleven seconds of queries at start-up look like a suspend. -/
theorem slow_start_wakes :
    ((started 0 11000 0).run []).wakes = true ∧ ((started 0 0 11000).run []).wakes = false := by
  decide

end PollClock

/-- What is done in the quiet time: events, forced states, and waiting. -/
inductive WindowStep where
  | handled (event : Event)
  | forced (next : VpnState)
  | pause (millis : Nat)

namespace WindowStep

def after (world : World) : WindowStep → World
  | .handled event => ((dispatch event).run world).2
  | .forced next => { world with machine := world.machine.setState next }
  | .pause millis => world.elapse millis

def millis : WindowStep → Nat
  | .pause millis => millis
  | _ => 0

end WindowStep

def runWindow (world : World) (steps : List WindowStep) : World :=
  steps.foldl WindowStep.after world

/-- No step takes the machine from a state without a VPN to one with a VPN. -/
def NothingConnects (world : World) : List WindowStep → Prop
  | [] => True
  | step :: later =>
    ¬(world.machine.state.isUp = false ∧ (step.after world).machine.state.isUp = true) ∧
      NothingConnects (step.after world) later

def quietMillis : Nat := 10000

/-- The supervisor after a wake-up, before its resync. -/
def woken (world : World) : World :=
  ((dispatch .wake).run
    { world with
      healthChecker := world.healthChecker.suspend world.now quietMillis
      timing := { world.timing with lastWakeEvent := some world.now } }).2

theorem wakeUp_eq
    (env : Env)
    (world : World) :
    (wakeUp env).run world = (forceStateResync env).run (woken world) :=
  rfl

theorem lastWakeEvent_ignores (stamp : Option Nat) :
    Ignores fun world => world.timing.lastWakeEvent = stamp :=
  fun _ _ rest same => rest.woken.trans same

/-- Nothing but a wake-up itself is noted as one. -/
theorem lastWakeEvent_loop
    (env : Env)
    (stamp : Option Nat) :
    LoopSteps env (fun _ => True) fun world => world.timing.lastWakeEvent = stamp where
  toSteps := (lastWakeEvent_ignores stamp).steps
  busies next _ := (lastWakeEvent_ignores stamp).forces next
  defers _ same := same
  marks _ _ same := same
  drains _ _ _ same _ :=
    (lastWakeEvent_ignores stamp).handleCommand
      ((lastWakeEvent_ignores stamp).handleConnect fun _ _ mark world same =>
        (congrArg Prod.snd (mark world)).trans same)
      (fun _ _ _ same => same) _ same

/-- A tick of the loop does to the time stamps what it does to the clock. -/
theorem PollClock.Shows.tick
    (env : Env)
    {clock : PollClock}
    {world : World}
    (shows : clock.Shows world)
    {millis : Nat}
    (lasts :
      ((pollTick env (clock.now - clock.lastPollWall)).run world).2.now = world.now + millis) :
    (clock.after (.tick millis)).Shows
      ((pollTick env (clock.now - clock.lastPollWall)).run world).2 := by
  have ends :
      clock.now + millis =
        ((pollTick env (clock.now - clock.lastPollWall)).run world).2.now := by
    rw [lasts, shows.now]
  refine ⟨ends, ends, ?_⟩
  change _ =
    ((reactToTick env (clock.now - clock.lastPollWall)).run world).2.timing.lastWakeEvent
  rw [reactToTick_eq env shows, after]
  cases clock.wakes with
  | true =>
    have stamped : (woken world).timing.lastWakeEvent = some clock.now := by
      rw [shows.now]
      exact congrArg TimingState.lastWakeEvent (noteConnected_same _).2.timing
    have loop := lastWakeEvent_loop env (some clock.now)
    exact (loop.forceStateResync loop.joins _ stamped).symm
  | false =>
    cases clock.jump?.isSome with
    | true => exact shows.lastWakeEvent
    | false =>
      have loop := lastWakeEvent_loop env clock.lastWakeEvent
      exact (loop.pollNmState_at shows.lastWakeEvent.symm fun _ _ _ _ => loop.reconnects).symm

theorem healthChecker_dispatch
    (event : Event)
    (world : World) :
    ((dispatch event).run world).2.healthChecker =
      if (world.machine.handleEvent event).2.state.isConnected then world.healthChecker.reset
      else world.healthChecker := by
  change (noteConnected { world with machine := (world.machine.handleEvent event).2 }).healthChecker
    = _
  rw [noteConnected]
  dsimp only
  cases (world.machine.handleEvent event).2.state with
  | connected server =>
    exact (apply_ite World.healthChecker _ _ _).trans (ite_self _)
  | _ => rfl

theorem machine_dispatch
    (event : Event)
    (world : World) :
    ((dispatch event).run world).2.machine = (world.machine.handleEvent event).2 :=
  dispatchAndSync_machine event world

theorem machine_woken (world : World) :
    (woken world).machine = world.machine := by
  rw [woken, machine_dispatch, StateMachine.handleEvent_wake]

/-- Without a VPN the health checks are off until a given time. -/
structure Quiet (deadline : Nat) (world : World) : Prop where
  down : world.machine.state.isUp = false
  suspended : world.healthChecker.suspendedUntil = some deadline

theorem Quiet.run
    {deadline : Nat}
    {world : World}
    (quiet : Quiet deadline world)
    {steps : List WindowStep}
    (calm : NothingConnects world steps) :
    Quiet deadline (runWindow world steps) ∧
      (runWindow world steps).now = world.now + (steps.map WindowStep.millis).sum := by
  induction steps generalizing world with
  | nil => exact ⟨quiet, rfl⟩
  | cons step later ih =>
    have down : (step.after world).machine.state.isUp = false :=
      Bool.eq_false_iff.mpr (fun up => calm.1 ⟨quiet.down, up⟩)
    have next :
        Quiet deadline (step.after world) ∧ (step.after world).now = world.now + step.millis := by
      cases step with
      | handled event =>
        have stays : (world.machine.handleEvent event).2.state.isConnected = false := by
          rw [← machine_dispatch event world]
          exact VpnState.isConnected_of_down down
        have checker := healthChecker_dispatch event world
        rw [stays, if_neg Bool.false_ne_true] at checker
        exact ⟨⟨down, checker ▸ quiet.suspended⟩,
          congrArg (·.host.now) (dispatchAndSync_eventOnly event world).kill⟩
      | forced next => exact ⟨⟨down, quiet.suspended⟩, rfl⟩
      | pause millis => exact ⟨⟨down, quiet.suspended⟩, rfl⟩
    obtain ⟨ends, time⟩ := ih next.1 calm.2
    refine ⟨ends, time.trans ?_⟩
    rw [next.2, List.map_cons, List.sum_cons, Nat.add_assoc]

theorem woken_quiet
    {world : World}
    (down : world.machine.state.isUp = false) :
    Quiet (world.now + quietMillis) (woken world) ∧ (woken world).now = world.now := by
  let noted : World :=
    { world with
      healthChecker := world.healthChecker.suspend world.now quietMillis
      timing := { world.timing with lastWakeEvent := some world.now } }
  have suspended : Quiet (world.now + quietMillis) noted := ⟨down, rfl⟩
  have calm : NothingConnects noted [.handled .wake] := by
    refine ⟨fun connects => ?_, trivial⟩
    have up : (woken world).machine.state.isUp = true := connects.2
    rw [machine_woken, down] at up
    exact Bool.false_ne_true up
  exact suspended.run calm

/--
Health checks stay off for the whole window, whatever is handled in it short of
a new connection, if and only if no VPN is up when the machine wakes.  With a
VPN up the wake event itself, or the next good probe, ends the suspension.
-/
theorem wake_suspension_lasts_iff (world : World) :
    (∀ steps,
      NothingConnects (woken world) steps →
        (steps.map WindowStep.millis).sum < quietMillis →
          (runWindow (woken world) steps).healthChecker.isSuspended
              (runWindow (woken world) steps).now = true ∧
            probeConfig? (runWindow (woken world) steps) = none) ↔
      world.machine.state.isUp = false := by
  constructor
  · intro lasts
    have ended {before : World} {event : Event}
        (connected : (before.machine.handleEvent event).2.state.isConnected = true)
        (time : Nat) :
        ((dispatch event).run before).2.healthChecker.isSuspended time = false := by
      rw [healthChecker_dispatch, connected, if_pos rfl]
      rfl
    cases state : world.machine.state with
    | connected server =>
      have suspended := (lasts [] trivial (by decide)).1
      have isOver : (woken world).healthChecker.isSuspended (woken world).now = false := by
        refine ended ?_ _
        rw [StateMachine.handleEvent_wake]
        exact congrArg VpnState.isConnected state
      exact absurd (isOver.symm.trans suspended) Bool.false_ne_true
    | degraded server =>
      have isDegraded : (woken world).machine.state = .degraded server := by
        rw [machine_woken, state]
      have recovers : ((woken world).machine.handleEvent .healthOk).2.state.isConnected = true := by
        rw [StateMachine.handleEvent, StateMachine.computeTransition, StateMachine.stateRule,
          isDegraded]
        rfl
      have known : NothingConnects (woken world) [.handled .healthOk] := by
        refine ⟨fun connects => ?_, trivial⟩
        have down := connects.1
        rw [isDegraded] at down
        exact Bool.noConfusion down
      have suspended := (lasts [.handled .healthOk] known (by decide)).1
      exact absurd ((ended recovers _).symm.trans suspended) Bool.false_ne_true
    | _ => rfl
  · intro down steps calm short
    obtain ⟨quiet, start⟩ := woken_quiet down
    obtain ⟨ends, time⟩ := quiet.run calm
    have suspended :
        (runWindow (woken world) steps).healthChecker.isSuspended
          (runWindow (woken world) steps).now = true := by
      rw [HealthChecker.isSuspended, ends.suspended, time, start]
      exact decide_eq_true (Nat.add_lt_add_left short _)
    refine ⟨suspended, ?_⟩
    rw [probeConfig?]
    cases state : (runWindow (woken world) steps).machine.state with
    | connected server => exact if_pos suspended
    | degraded server => exact if_pos suspended
    | _ => rfl

/-- A wake-up in `Connected` ends the suspension that it has just begun. -/
theorem wake_while_connected_probes :
    (woken (worldIn (.connected "berlin"))).healthChecker.isSuspended
        (woken (worldIn (.connected "berlin"))).now = false ∧
      probeConfig? (woken (worldIn (.connected "berlin"))) ≠ none := by
  decide

end Shroud.Supervisor
