import Shroud.LeakSignal

namespace Shroud.Supervisor

open StateProgram

/-!
# Results of probes that come too late

A probe runs on its own while the loop goes on, and its result carries nothing
that says which connection it measured.  When it arrives it is charged to the
server that is connected by then.
-/

def counters (world : World) : Nat × Nat :=
  (world.healthChecker.consecutiveFailures, world.healthChecker.consecutiveDegraded)

/-- A result is applied without effect on the machine and the counters, and no
reconnect is started for it. -/
structure Uncharged (env : Env) (outcome : ProbeOutcome) (world : World) : Prop where
  state : ((finishHealthCheck env outcome).run world).2.machine.state = world.machine.state
  counters : counters ((finishHealthCheck env outcome).run world).2 = counters world
  calm :
    ¬(world.shared.autoReconnect = true ∧
      LoopStep.HearsLoss env world (.loopEvent (.finishHealthCheck outcome)))

/-- The probe of one connection is answered in the time of another one. -/
structure Stale (env : Env) (world : World) (steps : List LoopStep) : Prop where
  launched : ((beginHealthCheck env).run world).1 ≠ none
  arrives : (runLoop env steps ((beginHealthCheck env).run world).2).machine.state.isUp = true
  other :
    ∃ earlier, earlier <+: steps ∧
      (runLoop env earlier ((beginHealthCheck env).run world).2).machine.state.serverName ≠
        ((beginHealthCheck env).run world).2.machine.state.serverName

section Arrival

variable
  {env : Env}
  {outcome : ProbeOutcome}
  {world : World}

/-- The supervisor when the verdict is applied. -/
def probed (env : Env) (outcome : ProbeOutcome) (world : World) : World :=
  ((evaluateProbe env outcome).run world).2

/-- The verdict says what the state says already, and the counters stay. -/
def Confirms (env : Env) (outcome : ProbeOutcome) (world : World) : Prop :=
  (verdict env world outcome = .healthy ∧ world.machine.state.isConnected = true ∨
      (∃ latencyMs, verdict env world outcome = .degraded latencyMs) ∧
        world.machine.state.isDegraded = true) ∧
    counters (probed env outcome world) = counters world

theorem uncharged_iff (up : world.machine.state.isUp = true) :
    Uncharged env outcome world ↔ Confirms env outcome world := by
  obtain ⟨server, isServer⟩ := VpnState.connected_or_degraded up
  have finished := finishHealthCheck_run env isServer outcome
  have asIs (same : (finishHealthCheck env outcome).run world = ((), probed env outcome world))
      (notDead : HealthResult.isDead (verdict env world outcome) = false) :
      Uncharged env outcome world ↔ counters (probed env outcome world) = counters world := by
    constructor
    · intro uncharged
      have kept := uncharged.counters
      rwa [same] at kept
    · intro kept
      refine ⟨by rw [same]; rfl, by rw [same]; exact kept, ?_⟩
      rintro ⟨-, -, dead⟩
      exact Bool.false_ne_true (notDead.symm.trans dead)
  have moved (event : Event)
      (same : ((finishHealthCheck env outcome).run world).2 =
        ((dispatchAndSync event).run (probed env outcome world)).2)
      (moves : world.machine.afterEvent event ≠ world.machine.state) :
      ¬Uncharged env outcome world := by
    intro uncharged
    have kept := uncharged.state
    rw [same, dispatchAndSync_machine] at kept
    exact moves kept
  have sameState : (probed env outcome world).machine.state = world.machine.state := rfl
  rw [Confirms]
  cases result : verdict env world outcome with
  | dead reason =>
    refine iff_of_false ?_ (by simp)
    intro uncharged
    cases wanted : world.shared.autoReconnect with
    | true => exact uncharged.calm ⟨wanted, up, congrArg HealthResult.isDead result⟩
    | false =>
      have off : (probed env outcome world).shared.autoReconnect = false := wanted
      have kept := uncharged.state
      rw [finished, result, applyVerdict, run_bind, run_get] at kept
      dsimp only at kept
      rw [← probed, off, if_neg Bool.false_ne_true] at kept
      rw [← show VpnState.disconnected = world.machine.state from kept] at up
      exact Bool.noConfusion up
  | healthy =>
    rw [result, applyVerdict, run_bind, run_get, ← probed] at finished
    dsimp only at finished
    rcases isServer with state | state
    · rw [sameState, state] at finished
      rw [asIs finished (by rw [result]; rfl), state]
      simp [VpnState.isConnected]
    · rw [sameState, state] at finished
      rw [state]
      refine iff_of_false (moved .healthOk (by rw [finished]; rfl) ?_)
        (by simp [VpnState.isConnected])
      rw [StateMachine.afterEvent_eq, StateMachine.stateRule, state]
      exact VpnState.noConfusion
  | degraded latencyMs =>
    rw [result, applyVerdict, run_bind, run_get, ← probed] at finished
    dsimp only at finished
    rcases isServer with state | state
    · rw [sameState, state] at finished
      rw [state]
      refine iff_of_false (moved .healthDegraded (by rw [finished]; rfl) ?_)
        (by simp [VpnState.isDegraded])
      rw [StateMachine.afterEvent_healthDegraded state, state]
      exact VpnState.noConfusion
    · rw [sameState, state] at finished
      rw [asIs finished (by rw [result]; rfl), state]
      simp [VpnState.isDegraded]

end Arrival

/-- The result says what the state and the counters say already. -/
def SaysNothingNew (env : Env) (outcome : ProbeOutcome) (world : World) : Prop :=
  ∃ hit,
    outcome.hit = some hit ∧
      HealthChecker.wrongExitIp? world.healthChecker.config hit = none ∧
      world.healthChecker.consecutiveFailures = 0 ∧
      if HealthChecker.leaksDns world.healthChecker.config
          (env.resolvConf world.asked.resolvConf) then
        world.machine.state.isDegraded = true
      else
        hit.latencyMs ≤ world.healthChecker.config.degradedThresholdMs ∧
          world.healthChecker.consecutiveDegraded = 0 ∧ world.machine.state.isConnected = true

theorem confirms_iff
    (env : Env)
    (outcome : ProbeOutcome)
    (world : World) :
    Confirms env outcome world ↔ SaysNothingNew env outcome world := by
  have isProbed :
      counters (probed env outcome world) =
        let checker :=
          (world.healthChecker.evaluate (env.resolvConf world.asked.resolvConf) outcome).2
        (checker.consecutiveFailures, checker.consecutiveDegraded) :=
    rfl
  rw [SaysNothingNew, Confirms, isProbed, counters, verdict, HealthChecker.evaluate]
  cases outcome.hit with
  | none =>
    refine iff_of_false ?_ (by simp)
    rintro ⟨-, kept⟩
    dsimp only at kept
    split at kept <;> simp at kept
  | some hit =>
    simp only [Option.some.injEq, exists_eq_left']
    cases HealthChecker.wrongExitIp? world.healthChecker.config hit with
    | some wrong => simp
    | none =>
      cases HealthChecker.leaksDns world.healthChecker.config
        (env.resolvConf world.asked.resolvConf) with
      | true =>
        simp only [if_true, Prod.mk.injEq, and_true, reduceCtorEq, false_and, false_or,
          HealthResult.degraded.injEq, exists_eq', true_and]
        exact ⟨fun same => ⟨same.2.symm, same.1⟩, fun same => ⟨same.2, same.1.symm⟩⟩
      | false =>
        by_cases slow : world.healthChecker.config.degradedThresholdMs < hit.latencyMs
        · have notFast :
              ¬hit.latencyMs ≤ world.healthChecker.config.degradedThresholdMs :=
            Nat.not_le.mpr slow
          simp only [slow, notFast, if_true, Bool.false_eq_true, if_false]
          split <;> simp
        · have fast : hit.latencyMs ≤ world.healthChecker.config.degradedThresholdMs :=
            Nat.le_of_not_lt slow
          simp only [slow, fast, if_false, Bool.false_eq_true, Prod.mk.injEq, true_and,
            reduceCtorEq, exists_false, false_and, or_false]
          exact ⟨fun same => ⟨same.2.1.symm, same.2.2.symm, same.1⟩,
            fun same => ⟨same.2.2, same.1.symm, same.2.1.symm⟩⟩

/--
A result that arrives while a VPN is up, be it another one than was probed,
leaves the machine and the counters alone and starts no reconnect, if and only
if it happens to say nothing new about that connection.
-/
theorem stale_probe_uncharged_iff
    (env : Env)
    (world : World)
    (steps : List LoopStep)
    (arrives : (runLoop env steps ((beginHealthCheck env).run world).2).machine.state.isUp = true)
    (outcome : ProbeOutcome) :
    Uncharged env outcome (runLoop env steps ((beginHealthCheck env).run world).2) ↔
      SaysNothingNew env outcome (runLoop env steps ((beginHealthCheck env).run world).2) := by
  rw [uncharged_iff arrives, confirms_iff]

/-- From one VPN to another one behind the back of the daemon. -/
def changeover : List LoopStep :=
  [.dbusEvent (.vpnDeactivated "berlin"), .dbusEvent (.vpnActivated "oslo")]

/-- The start of a probe on a daemon that does not reconnect. -/
def probing : World :=
  { worldIn (.connected "berlin") with
    shared := { (worldIn (.connected "berlin")).shared with autoReconnect := false } }

/-- NetworkManager knows both VPNs, and `berlin` is up at first. -/
def changeoverEnv : Env :=
  { calmEnv with active := fun _ => some "berlin" }

theorem changeover_is_stale :
    Stale changeoverEnv probing changeover where
  launched := by decide
  arrives := by decide
  other := ⟨changeover, List.prefix_refl _, by decide⟩

/-- The failed probe of `berlin` makes `oslo` degraded. -/
theorem stale_failure_degrades :
    Stale changeoverEnv probing changeover ∧
      ((finishHealthCheck changeoverEnv ⟨none⟩).run
        (runLoop changeoverEnv changeover
          ((beginHealthCheck changeoverEnv).run probing).2)).2.machine.state =
        .degraded "oslo" :=
  ⟨changeover_is_stale, by decide⟩

/-- A good answer that finds nothing counted changes nothing. -/
theorem stale_success_harmless :
    Stale changeoverEnv probing changeover ∧
      Uncharged changeoverEnv ⟨some ⟨"https://ifconfig.me/ip", 20, "203.0.113.1"⟩⟩
        (runLoop changeoverEnv changeover ((beginHealthCheck changeoverEnv).run probing).2) :=
  ⟨changeover_is_stale,
    (stale_probe_uncharged_iff _ _ _ changeover_is_stale.arrives _).mpr
      ⟨_, rfl, rfl, rfl, Nat.le_of_ble_eq_true rfl, rfl, rfl⟩⟩

end Shroud.Supervisor
