import Shroud.KillSwitchReport
import Shroud.NmTracking

namespace Shroud.Supervisor

open StateProgram

/-!
# The wish to be disconnected

A user who disconnects gets the network back and is left alone afterwards.  The
command is carried out in three places: by its handler, and by two copies of it
inside the reconnect, which the handler cannot interrupt.
-/

/-- The moments at which a command to disconnect is carried out. -/
inductive Moment where
  | idle
  | backoff (name : String) (attempt maxAttempts : Nat)
  | verify (name : String)

namespace Moment

variable (env : Env)

/-- What carries the command out. -/
def process : Moment → StateM World Unit
  | .idle => handleDisconnect env
  | .backoff name attempt maxAttempts => do
      let _ ← reconnectOnce env name attempt maxAttempts
      pure ()
  | .verify name => do
      let _ ← verifyConnection env name
      pure ()

/-- The command arrives in time to be carried out at this moment. -/
def Takes (world : World) : Moment → Prop
  | .idle => True
  | .backoff _ _ _ =>
    (env.arrivals world.asked.windows).contains .disconnect = true
  | .verify _ =>
    ∃ poll < verifyPolls, env.polled (world.asked.polls + poll) = some .disconnect

/--
The reason that is given for the transition.  The handler leaves it to the
state machine, the copies name it themselves.
-/
def reason (before after : World) : Moment → Option TransitionReason
  | .idle =>
    if after.machine = before.machine then none
    else (before.machine.handleEvent .userDisable).1
  | _ => some .userRequested

/-- The machine ends up disconnected because the user asked for it. -/
structure EndsByUser (moment : Moment) (before after : World) : Prop where
  state : after.machine.state = .disconnected
  reason : moment.reason before after = some .userRequested

end Moment

section Release

variable (env : Env)

/-- The call that switches the kill switch off reports no error. -/
def ReleaseWorks (world : World) : Prop :=
  ((KillSwitch.disable env.fw).run (world.elapse (env.nmMillis world.trace.length)).kill).1 = none

theorem inCooldown_later
    {ks : KillSwitch}
    {now later : Nat}
    (cooled : ks.inCooldown now = false)
    (notBefore : now ≤ later) :
    ks.inCooldown later = false := by
  rw [KillSwitch.inCooldown] at cooled ⊢
  cases isTime : ks.lastToggleTime with
  | none => rfl
  | some time =>
    rw [isTime] at cooled
    have passed := of_decide_eq_false cooled
    apply decide_eq_false
    omega

theorem releaseKillSwitch_clears
    {world : World}
    (idle : world.kill.ks.toggleInProgress = false)
    (cooled : world.kill.ks.inCooldown world.now = false)
    (ok : ((KillSwitch.disable env.fw).run world.kill).1 = none) :
    ((releaseKillSwitch env).run world).2.killSwitchIsEnabled = false := by
  rw [releaseKillSwitch, run_get_bind]
  cases enabled : world.killSwitchIsEnabled with
  | false => exact enabled
  | true => exact (KillSwitch.disable_ran env.fw idle cooled).done ok

theorem handleDisconnect_releases
    {world : World}
    (works : ReleaseWorks env world)
    (idle : world.kill.ks.toggleInProgress = false)
    (cooled : world.kill.ks.inCooldown world.now = false) :
    ((handleDisconnect env).run world).2.machine = world.machine ∨
      ((handleDisconnect env).run world).2.killSwitchIsEnabled = false := by
  rw [handleDisconnect, run_bind, modifyTiming, run_modify]
  dsimp only
  rw [run_get_bind]
  cases world.machine.state.serverName with
  | none => exact .inl rfl
  | some name =>
    let marked : World :=
      { world with
        timing := { world.timing with
          reconnectCancelled := true
          lastDisconnectTime := some world.now } }
    let asked := ((nmDisconnect env name).run marked).2
    have answered :
        (disconnectFrom env name).run
            { world with
              timing := { world.timing with reconnectCancelled := true } } =
          (if env.disconnects world.asked.disconnect then do
            releaseKillSwitch env
            dispatchAndSync .userDisable
          else pure () : StateM World Unit).run asked :=
      rfl
    dsimp only
    rw [answered]
    cases env.disconnects world.asked.disconnect with
    | false => exact .inl rfl
    | true =>
      right
      have later : asked.kill.ks.inCooldown asked.now = false :=
        inCooldown_later cooled (Nat.le_add_right _ _)
      have released := @releaseKillSwitch_clears env asked idle later works
      have told := dispatchAndSync_keeps .userDisable ((releaseKillSwitch env).run asked).2
      exact (congrArg (·.enabled) told.ks).trans released

theorem waitVerify_takes
    (polls : Nat)
    {world : World}
    (takes : ∃ poll < polls, env.polled (world.asked.polls + poll) = some .disconnect) :
    ((waitVerify env polls).run world).1 = true := by
  induction polls generalizing world with
  | zero =>
    obtain ⟨poll, below, -⟩ := takes
    exact absurd below (Nat.not_lt_zero poll)
  | succ polls ih =>
    obtain ⟨poll, below, found⟩ := takes
    rw [waitVerify, run_bind, run_get, run_bind]
    dsimp only
    by_cases here : env.polled world.asked.polls = some .disconnect
    · rw [if_pos here]
      rfl
    · rw [if_neg here]
      cases poll with
      | zero => exact absurd found here
      | succ poll =>
        apply ih
        refine ⟨poll, Nat.lt_of_succ_lt_succ below, ?_⟩
        rw [← found]
        exact congrArg env.polled (Nat.succ_add_eq_add_succ _ _)

theorem Moment.process_disconnects
    {moment : Moment}
    (inside : moment ≠ .idle)
    {world : World}
    (takes : moment.Takes env world) :
    ((moment.process env).run world).2.machine.state = .disconnected := by
  cases moment with
  | idle => exact absurd rfl inside
  | backoff name attempt maxAttempts =>
    have taken :
        ((waitBackoff env attempt).run
          ((setStateAndSync (.reconnecting name attempt maxAttempts)).run world).2).1 = true :=
      takes
    rw [Moment.process, run_bind, reconnectOnce, run_bind, run_bind, taken]
    rfl
  | verify name =>
    have taken := waitVerify_takes env verifyPolls takes
    rw [Moment.process, run_bind, verifyConnection, run_bind, taken]
    rfl

theorem Moment.process_keeps
    {moment : Moment}
    (inside : moment ≠ .idle)
    (world : World) :
    ((moment.process env).run world).2.killSwitchIsEnabled = world.killSwitchIsEnabled := by
  have steps := nmOnly_steps env world
  have only : NmOnly world ((moment.process env).run world).2 := by
    cases moment with
    | idle => exact absurd rfl inside
    | backoff name attempt maxAttempts =>
      exact (steps.reconnectOnce (nmOnly_defers env world)
        (fun _ _ _ _ => nmOnly_forces world _) trivial attempt maxAttempts).seq .pure world
          (Std.Refl.refl world)
    | verify name =>
      exact (steps.verifyConnection trivial).seq .pure world (Std.Refl.refl world)
  exact congrArg (·.enabled) only.ks

end Release

/--
Where the kill switch is on, can be switched off without an error and was not
toggled within the cooldown, a disconnect of the user has released the network
exactly if it is carried out by its handler.
-/
theorem disconnect_releases_iff
    (env : Env)
    (moment : Moment)
    (world : World)
    (takes : moment.Takes env world)
    (enabled : world.killSwitchIsEnabled = true)
    (works : ReleaseWorks env world)
    (idle : world.kill.ks.toggleInProgress = false)
    (cooled : world.kill.ks.inCooldown world.now = false) :
    (moment.EndsByUser world ((moment.process env).run world).2 →
      ((moment.process env).run world).2.killSwitchIsEnabled = false) ↔
      moment = .idle := by
  constructor
  · intro releases
    by_contra inside
    have reason : moment.reason world ((moment.process env).run world).2 = some .userRequested := by
      cases moment with
      | idle => exact absurd rfl inside
      | _ => rfl
    have released := releases ⟨moment.process_disconnects env inside takes, reason⟩
    rw [moment.process_keeps env inside, enabled] at released
    exact Bool.false_ne_true released.symm
  · rintro rfl ends
    rcases handleDisconnect_releases env works idle cooled with
      unmoved | released
    · have noReason :
          Moment.idle.reason world ((handleDisconnect env).run world).2 = none :=
        if_pos unmoved
      exact absurd (ends.reason.symm.trans noReason) (Option.some_ne_none _)
    · exact released

/-- Connected for a second, behind a kill switch that is on. -/
def guardedWorld : World :=
  { armedWorld.elapse 1000 with
    machine := { armedWorld.machine with state := .connected "berlin" }
    shared := { armedWorld.shared with
      state := .connected "berlin"
      killSwitch := true } }

theorem disconnect_releases_guardedWorld :
    ((Moment.idle.process calmEnv).run guardedWorld).2.killSwitchIsEnabled = false := by
  have enabled : guardedWorld.killSwitchIsEnabled = true := by decide
  have works : ReleaseWorks calmEnv guardedWorld := by
    rw [ReleaseWorks]
    decide
  have idle : guardedWorld.kill.ks.toggleInProgress = false := by decide
  have cooled : guardedWorld.kill.ks.inCooldown guardedWorld.now = false := by
    decide
  have ends :
      Moment.idle.EndsByUser guardedWorld ((Moment.idle.process calmEnv).run guardedWorld).2 := by
    constructor
    · decide
    · decide
  exact (disconnect_releases_iff calmEnv .idle guardedWorld trivial enabled
    works idle cooled).mpr rfl ends

/-- The connection drops, and the user gives up while it is reconnected. -/
def givingUpEnv (connects : Bool) : Env :=
  { calmEnv with
    listed := fun _ => ["berlin"]
    connects := fun _ => connects
    arrivals := fun _ => if connects then [] else [.disconnect]
    polled := fun _ => some .disconnect }

/--
What is left of a lost connection whose reconnect is given up, where the
attempt on the way was asked for or not.
-/
def StaysBlocked (connects : Bool) : Prop :=
  let after :=
    LoopStep.after (givingUpEnv connects) guardedWorld (.dbusEvent (.vpnDeactivated "berlin"))
  after.machine.state = .disconnected ∧
    after.trace.any (·.isConnect) = connects ∧
    after.kill.ks.inCooldown guardedWorld.now = false ∧
    after.killSwitchIsEnabled = true

instance (connects : Bool) : Decidable (StaysBlocked connects) :=
  inferInstanceAs (Decidable (_ ∧ _ ∧ _ ∧ _))

/--
Whether the user disconnects in the backoff or while a new connection is
verified: the machine is disconnected and the network stays blocked.
-/
theorem cancelled_reconnect_stays_blocked :
    StaysBlocked false ∧ StaysBlocked true := by
  decide

def connectCalls (world : World) : List NmCall :=
  world.trace.filter (·.isConnect)

def LoopStep.isCommand : LoopStep → Bool
  | .loopEvent (.trayCommand _) => true
  | .loopEvent (.ipcCommand _) => true
  | _ => false

/-- The step is no command, and it starts no reconnect that is wanted. -/
structure LoopStep.Quiet (env : Env) (world : World) (step : LoopStep) :
    Prop where
  reacts : step.isCommand = false
  lossless : world.shared.autoReconnect = true → ¬ step.HearsLoss env world

/-- Every step of a run is quiet where it is made. -/
def QuietRun (env : Env) : List LoopStep → World → Prop
  | [], _ => True
  | step :: later, world =>
    step.Quiet env world ∧ QuietRun env later (step.after env world)

instance (env : Env) (world : World) (step : LoopStep) :
    Decidable (step.Quiet env world) :=
  decidable_of_iff
    (step.isCommand = false ∧ (world.shared.autoReconnect = true → ¬ step.HearsLoss env world))
    ⟨fun both => ⟨both.1, both.2⟩, fun quiet => ⟨quiet.reacts, quiet.lossless⟩⟩

instance (env : Env) :
    (run : List LoopStep) → (world : World) → Decidable (QuietRun env run world)
  | [], _ => inferInstanceAs (Decidable True)
  | _ :: later, _ =>
    have := instDecidableQuietRun env later
    inferInstanceAs (Decidable (_ ∧ _))

section Alone

variable (env : Env) (start : World)

theorem noConnect_of_same
    {α : Type}
    {program : StateM World α}
    (same : ∀ world, (program.run world).2.trace = world.trace) :
    Preserves (SameView connectCalls start) program := by
  intro world before
  rw [SameView, connectCalls, same world]
  exact before

theorem noConnect_steps :
    QuietSteps env (fun _ => True) (SameView connectCalls start) where
  answers := answers_any env
  tracked := fun _ _ _ _ => trivial
  sleep millis := noConnect_of_same start (fun _ => rfl)
  calls call count quiet _ := by
    intro world before
    change (world.trace ++ [call]).filter (·.isConnect) = _
    rw [List.filter_append, List.filter_cons_of_neg (by simp [quiet]),
      List.filter_nil, List.append_nil]
    exact before
  dispatches event _ _ := by
    apply noConnect_of_same
    intro world
    exact (noteConnected_same { world with machine := (world.machine.handleEvent event).2 }).2.trace
  forces next _ _ := noConnect_of_same start (fun _ => rfl)
  syncs := noConnect_of_same start (fun _ => rfl)
  times _ _ _ := noConnect_of_same start (fun _ => rfl)
  counts _ _ := noConnect_of_same start (fun _ => rfl)
  lists _ := noConnect_of_same start (fun _ => rfl)
  forgets := noConnect_of_same start (fun _ => rfl)

theorem beginHealthCheck_noConnect :
    Preserves (SameView connectCalls start) (beginHealthCheck env) := by
  apply Preserves.bind (noConnect_steps env start).syncStateFromNm
  intro corrected
  exact .either .pure (noConnect_of_same start (fun _ => rfl))

end Alone

theorem LoopStep.Quiet.after
    {env : Env}
    {world : World}
    {step : LoopStep}
    (quiet : step.Quiet env world) :
    connectCalls (step.after env world) = connectCalls world := by
  have steps := noConnect_steps env world
  have before : SameView connectCalls world world := rfl
  cases step with
  | loopEvent event =>
    cases event with
    | beginHealthCheck =>
      exact beginHealthCheck_noConnect env world world before
    | finishHealthCheck outcome =>
      exact steps.finishHealthCheck_at before
        (fun wanted lost => absurd lost (quiet.lossless wanted))
    | _ => exact Bool.noConfusion quiet.reacts
  | dbusEvent event =>
    exact steps.handleDbusEvent_at before (fun _ _ => trivial)
      (fun wanted lost => absurd lost (quiet.lossless wanted))
  | pollTick wallMillis =>
    have joins (name : String) (_ : True) :
        Forces (SameView connectCalls world) (.connecting name) :=
      noConnect_of_same world fun _ => rfl
    exact steps.pollTick_at before (fun _ => steps.wakeUp joins (fun _ same => same) world before)
      (fun wanted lost => absurd lost (quiet.lossless wanted))
  | pause millis => exact before

/--
In a run without commands of the user, NetworkManager is never asked to connect
as long as no step hears of a loss while reconnecting is switched on.  Whether
the user has disconnected, and how long ago, does not matter to the handlers.
-/
theorem disconnected_stays_disconnected
    (env : Env)
    (world : World)
    (run : List LoopStep)
    (quiet : QuietRun env run world) :
    connectCalls (runLoop env run world) = connectCalls world := by
  induction run generalizing world with
  | nil => rfl
  | cons step later ih => exact (ih _ quiet.2).trans quiet.1.after

/-- A supervisor that the user has disconnected. -/
def disconnectedWorld : World :=
  LoopStep.after (givingUpEnv false) guardedWorld (.loopEvent (.ipcCommand .disconnect))

/-- The end of the VPN is heard late; a wake-up and a poll follow. -/
def lateRun : List LoopStep :=
  [ .pause 6000,
    .dbusEvent (.vpnDeactivated "berlin"),
    .pollTick 30000,
    .pause 30000,
    .pollTick 30000,
    .loopEvent .beginHealthCheck,
    .dbusEvent (.connectivityChanged false) ]

theorem disconnected_stays_disconnected_lateRun :
    connectCalls (runLoop (givingUpEnv false) lateRun disconnectedWorld) = [] := by
  have quiet : QuietRun (givingUpEnv false) lateRun disconnectedWorld := by
    decide +kernel
  exact disconnected_stays_disconnected _ _ _ quiet

/-- Six seconds after a disconnect a failed VPN is connected again. -/
theorem failure_after_disconnect_connects :
    let after :=
      runLoop { givingUpEnv false with arrivals := fun _ => [] }
        [.pause 6000, .dbusEvent (.vpnFailed "berlin" "timeout")]
        disconnectedWorld
    disconnectedWorld.machine.state = .disconnected ∧
      connectCalls disconnectedWorld = [] ∧
      (.connect "berlin" false) ∈ connectCalls after := by
  decide +kernel

end Shroud.Supervisor
