import Shroud.ExitPrompt

namespace Shroud

/-- The state already stands for a VPN that is down. -/
def VpnState.isDown : VpnState → Bool
  | .reconnecting _ _ _ => true
  | .failed _ _ => true
  | _ => false

namespace Supervisor

open StateProgram

/-!
# Signals about a VPN that is not the tracked one

The end of another VPN goes by, because the handler compares its name.  The
failure of another VPN is taken for one of the tracked VPN.
-/

/-- The signal is about no VPN, or about the end of the given one. -/
def NmEvent.EndsOrNone (name : String) : NmEvent → Prop
  | .vpnDeactivated ended => ended = name
  | .vpnFailed failed _ => failed = name
  | .connectivityChanged _ => True
  | _ => False

def NmEvent.isFailure : NmEvent → Bool
  | .vpnFailed _ _ => true
  | _ => false

/--
The machine stays as it is, and no reconnect is started, which would begin with
a question to NetworkManager.
-/
def LeftAlone (before after : World) : Prop :=
  after.machine.state = before.machine.state ∧ after.trace = before.trace

section Signals

variable
  (env : Env)
  {world : World}

/-- A lost VPN moves the machine unless it knows of one already. -/
theorem afterEvent_nmVpnDown_iff
    {machine : StateMachine}
    {tracked : String}
    (named : machine.state.serverName = some tracked) :
    machine.afterEvent .nmVpnDown = machine.state ↔ machine.state.isDown = true := by
  rw [StateMachine.afterEvent_eq, StateMachine.stateRule]
  cases state : machine.state with
  | disconnected => simp [state, VpnState.serverName] at named
  | connecting server =>
    simp only [StateMachine.fromConnecting, StateMachine.retry, VpnState.isDown, Option.some_or]
    split <;> simp
  | connected server =>
    simp [StateMachine.fromConnected, StateMachine.firstAttempt, VpnState.isDown]
  | degraded server =>
    simp [StateMachine.fromDegraded, StateMachine.firstAttempt, VpnState.isDown]
  | _ => exact iff_of_true rfl rfl

theorem attemptReconnect_debounced
    (name : String)
    (idle : Idle world)
    (debounced : isDebounced world = true) :
    LeftAlone world ((attemptReconnect env name).run world).2 := by
  let marked := markReconnect true world
  have after : reconnected env name world = markReconnect false marked := by
    rw [reconnected_eq, debounced, if_pos rfl]
    rfl
  have queue : (markReconnect false marked).deferredCommands = [] := idle.queue
  rw [attemptReconnect_run env name idle, after, queue]
  exact ⟨rfl, rfl⟩

theorem attemptReconnect_starts
    (name : String)
    (idle : Idle world)
    (notDebounced : isDebounced world = false) :
    ((attemptReconnect env name).run world).2.trace ≠ world.trace := by
  have asked : world.trace ++ [.getActiveVpn] <+: (reconnected env name world).trace := by
    rw [reconnected_eq, notDebounced, if_neg Bool.false_ne_true]
    exact startReconnect_asks env name (markReconnect true world)
  have grown :=
    asked.trans (drainDeferred_grows env (reconnected env name world).deferredCommands.length _)
  rw [attemptReconnect_run env name idle]
  intro same
  rw [same] at grown
  have longer := grown.length_le
  rw [List.length_append] at longer
  exact Nat.not_succ_le_self _ longer

variable
  {tracked other : String}
  (named : world.machine.state.serverName = some tracked)
  (differs : other ≠ tracked)

include named

include differs

theorem handleDeactivated_other :
    (handleDeactivated env other).run world = ((), world) := by
  have notOurs : world.machine.state.serverName ≠ some other := by
    rw [named]
    exact fun same => differs (Option.some.inj same).symm
  rw [handleDeactivated, run_get_bind]
  rw [if_neg notOurs]
  rfl

theorem handleFailed_undisturbed_iff
    (reason : String)
    (idle : Idle world)
    (unfiltered : isFiltered world = false) :
    LeftAlone world
        ((handleDbusEvent env (.vpnFailed other reason)).run world).2 ↔
      world.shared.autoReconnect = true ∧
        world.machine.state.isDown = true ∧ isDebounced world = true := by
  cases reconnects : world.shared.autoReconnect with
  | true =>
    rw [handleDbusEvent_failed env other reason unfiltered reconnects, and_iff_right rfl]
    have same := dispatchAndSync_eventOnly .nmVpnDown (admitted world)
    have debounced : isDebounced (failed world) = isDebounced world := by
      rw [failed, isDebounced, isDebounced, World.now, same.timing, same.kill]
      rfl
    have stillIdle : Idle (failed world) :=
      @Idle.proceeds (admitted world) _ ⟨idle.queue, idle.inProgress⟩ (dispatchAndSync_proceeds _ _)
    have state : (failed world).machine.state = world.machine.afterEvent .nmVpnDown := by
      rw [failed, dispatchAndSync_machine]
      rfl
    constructor
    · rintro ⟨sameState, sameTrace⟩
      have recent : isDebounced world = true := by
        by_contra notRecent
        rw [Bool.not_eq_true, ← debounced] at notRecent
        exact attemptReconnect_starts env other stillIdle notRecent
          (sameTrace.trans same.trace.symm)
      have quiet := attemptReconnect_debounced env other stillIdle (debounced.trans recent)
      refine ⟨(afterEvent_nmVpnDown_iff named).mp ?_, recent⟩
      rw [← state, ← quiet.1, sameState]
    · rintro ⟨isDown, recent⟩
      have quiet := attemptReconnect_debounced env other stillIdle (debounced.trans recent)
      refine ⟨quiet.1.trans ?_, quiet.2.trans same.trace⟩
      rw [state]
      exact (afterEvent_nmVpnDown_iff named).mpr isDown
  | false =>
    have still : (admitted world).shared.autoReconnect = false := reconnects
    refine iff_of_false ?_ fun stays => Bool.false_ne_true stays.1
    rintro ⟨sameState, -⟩
    have forced :
        ((handleDbusEvent env (.vpnFailed other reason)).run
          world).2.machine.state = .failed other reason := by
      rw [handleDbusEvent, run_bind, passFilters_admits unfiltered rfl]
      dsimp only
      rw [if_pos rfl, handleAdmitted, handleFailed, run_get_bind]
      rw [still, if_neg Bool.false_ne_true]
      rfl
    rw [← sameState, forced] at named
    exact differs (Option.some.inj named)

/--
A signal about the end of another VPN, or about no VPN, leaves the tracked one
alone if and only if it is no failure, or it is dropped by the filters, or the
loss is known already and the last reconnect is only seconds ago.
-/
theorem other_vpn_leaves_alone_iff
    (idle : Idle world)
    {event : NmEvent}
    (elsewhere : event.EndsOrNone other) :
    LeftAlone world ((handleDbusEvent env event).run world).2 ↔
      event.isFailure = false ∨ isFiltered world = true ∨
        world.shared.autoReconnect = true ∧
          world.machine.state.isDown = true ∧ isDebounced world = true := by
  obtain ⟨passes, timing, switchCtx, same⟩ := passFilters_spec event world
  let passed : World := { world with timing := timing, switchCtx := switchCtx }
  have opened :
      (handleDbusEvent env event).run world =
        (if ((passFilters event).run world).1 then handleAdmitted env event
        else pure () : StateM World Unit).run passed := by
    rw [handleDbusEvent, run_bind, same]
  have dropped :
      ((passFilters event).run world).1 = false →
        LeftAlone world ((handleDbusEvent env event).run world).2 := by
    intro drops
    rw [opened, drops, if_neg Bool.false_ne_true]
    exact ⟨rfl, rfl⟩
  cases event with
  | vpnDeactivated name =>
    obtain rfl : name = other := elsewhere
    refine iff_of_true ?_ (.inl rfl)
    cases drops : ((passFilters (.vpnDeactivated name)).run world).1 with
    | false => exact dropped drops
    | true =>
      rw [opened, drops, if_pos rfl, handleAdmitted,
        @handleDeactivated_other env passed tracked name named differs]
      exact ⟨rfl, rfl⟩
  | connectivityChanged connected =>
    refine iff_of_true ?_ (.inl rfl)
    rw [opened]
    cases ((passFilters (.connectivityChanged connected)).run world).1 <;>
      exact ⟨rfl, rfl⟩
  | vpnFailed name reason =>
    obtain rfl : name = other := elsewhere
    have isFailure : ¬ NmEvent.isFailure (.vpnFailed name reason) = false :=
      Bool.noConfusion
    rw [or_iff_right isFailure]
    cases filtered : isFiltered world with
    | true =>
      rw [filtered] at passes
      exact iff_of_true (dropped passes) (.inl rfl)
    | false =>
      rw [or_iff_right Bool.false_ne_true]
      exact handleFailed_undisturbed_iff env named differs reason idle filtered
  | _ => exact elsewhere.elim

end Signals

/-- Connected to `paris`, and no reconnect is wanted. -/
def onParis : World :=
  let started := deafStart fun _ => []
  { started with
    machine := started.machine.setState (.connected "paris")
    shared := { started.shared with autoReconnect := false } }

theorem other_vpn_leaves_alone_onParis :
    LeftAlone onParis
      ((handleDbusEvent (deafEnv fun _ => []) (.vpnDeactivated "berlin")).run onParis).2 := by
  have idle : Idle onParis := ⟨rfl, rfl⟩
  have spared :=
    @other_vpn_leaves_alone_iff (deafEnv fun _ => []) onParis "paris" "berlin"
      rfl (by decide) idle (.vpnDeactivated "berlin") rfl
  exact spared.mpr (.inl rfl)

/-- The failure of `berlin` is taken for one of `paris`. -/
theorem failure_elsewhere_moves :
    ¬ LeftAlone onParis
      ((handleDbusEvent (deafEnv fun _ => []) (.vpnFailed "berlin" "")).run onParis).2 := by
  rintro ⟨sameState, -⟩
  have failed :
      ((handleDbusEvent (deafEnv fun _ => []) (.vpnFailed "berlin" "")).run
        onParis).2.machine.state = .failed "berlin" "" :=
    rfl
  rw [failed] at sameState
  exact VpnState.noConfusion sameState

end Supervisor

end Shroud
