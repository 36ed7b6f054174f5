import Shroud.LeakSignal

namespace Shroud

open StateProgram

/-!
# What a reconnect leaves behind

Four handlers tell the machine that its VPN is gone and then call
`attempt_reconnect`.  The event moves the machine to `Reconnecting`, a state
that only the reconnect itself leaves again: whether it does depends on how far
the call gets.
-/

namespace VpnState

/-- The state is `Reconnecting`. -/
def isReconnecting : VpnState → Bool
  | .reconnecting _ _ _ => true
  | _ => false

/-- The state is `Connected`, `Disconnected` or `Failed`. -/
def isSettled : VpnState → Bool
  | .connected _ => true
  | .disconnected => true
  | .failed _ _ => true
  | _ => false

end VpnState

namespace Supervisor

/-- The places that call `attempt_reconnect`. -/
inductive ReconnectCaller where
  | deactivated (server : String)
  | failed (server reason : String)
  | dropped (server : String)
  | dead (server : String) (reason : String)

variable {world : World}

namespace ReconnectCaller

def server : ReconnectCaller → String
  | .deactivated server => server
  | .failed server _ => server
  | .dropped server => server
  | .dead server _ => server

def event : ReconnectCaller → Event
  | .dead _ _ => .healthDead
  | _ => .nmVpnDown

def program (env : Env) : ReconnectCaller → StateM World Unit
  | .deactivated server => handleDeactivated env server
  | .failed server reason => handleFailed env server reason
  | .dropped server => noteDropped env server
  | .dead server reason => applyVerdict env server (.dead reason)

/-- What the handler has found out about the machine when it gets to the call. -/
def Finds (state : VpnState) : ReconnectCaller → Prop
  | .deactivated server => state.serverName = some server ∧ state.isUp = true
  | .failed _ _ => True
  | .dropped server => state = .connected server
  | .dead server _ => state = .connected server ∨ state = .degraded server

/-- The handler gets to its call. -/
structure Calls (caller : ReconnectCaller) (world : World) : Prop where
  autoReconnect : world.shared.autoReconnect = true
  finds : caller.Finds world.machine.state

/-- The supervisor at the call, after the event. -/
def called (caller : ReconnectCaller) (world : World) : World :=
  ((dispatchAndSync caller.event).run world).2

theorem program_run
    (env : Env)
    {caller : ReconnectCaller}
    (calls : caller.Calls world) :
    (caller.program env).run world =
      (attemptReconnect env caller.server).run (caller.called world) := by
  have on := calls.autoReconnect
  cases caller with
  | deactivated server =>
    obtain ⟨named, up⟩ := calls.finds
    rw [program, handleDeactivated, run_get_bind]
    rw [if_pos named, on, up]
    rfl
  | failed server reason =>
    rw [program, handleFailed, run_get_bind]
    rw [if_pos on]
    rfl
  | dropped server =>
    rw [program, noteDropped, run_get_bind]
    rw [if_pos on]
    rfl
  | dead server reason =>
    rw [program, applyVerdict, run_get_bind]
    rw [if_pos on]
    rfl

end ReconnectCaller

theorem isSettled_afterEvent_nmVpnDown (machine : StateMachine) :
    (machine.afterEvent .nmVpnDown).isSettled =
      !(machine.afterEvent .nmVpnDown).isReconnecting := by
  rw [StateMachine.afterEvent_eq, StateMachine.stateRule]
  cases machine.state with
  | connecting server =>
    by_cases last : machine.maxRetries ≤ machine.retries + 1
    · simp [StateMachine.fromConnecting, StateMachine.retry, last,
        VpnState.isSettled, VpnState.isReconnecting]
    · simp [StateMachine.fromConnecting, StateMachine.retry, last,
        VpnState.isSettled, VpnState.isReconnecting]
  | _ => rfl

theorem ReconnectCaller.called_state
    {caller : ReconnectCaller}
    (finds : caller.Finds world.machine.state) :
    (caller.called world).machine.state.isSettled =
      !(caller.called world).machine.state.isReconnecting := by
  rw [called, dispatchAndSync_machine]
  cases caller with
  | dead server reason =>
    rcases finds with connected | degraded
    · have next := StateMachine.afterEvent_healthDead_connected connected
      rw [StateMachine.afterEvent] at next
      rw [event, next]
      rfl
    · have next := StateMachine.afterEvent_healthDead_degraded degraded
      rw [StateMachine.afterEvent] at next
      rw [event, next]
      rfl
  | _ => exact isSettled_afterEvent_nmVpnDown world.machine

/-- The machine is settled or reconnecting. -/
def Awaits (world : World) : Prop :=
  world.machine.state.isSettled = true ∨ world.machine.state.isReconnecting = true

/-- The machine is settled. -/
def Rests (world : World) : Prop :=
  world.machine.state.isSettled = true

/-- The states from which a reconnect starts, and those in which it ends. -/
structure Settling (awaits rests : VpnState → Prop) : Prop where
  tries : ∀ server attempt maxAttempts, awaits (.reconnecting server attempt maxAttempts)
  ends : rests .disconnected
  gives : ∀ server reason, rests (.failed server reason)
  up :
    ∀ machine : StateMachine, awaits machine.state →
      ∀ server, rests (machine.afterEvent (.nmVpnUp server))
  fails :
    ∀ machine : StateMachine, awaits machine.state →
      ∀ reason, rests (machine.afterEvent (.connectionFailed reason))

/-- The machine is in one of these states. -/
def Within (states : VpnState → Prop) (world : World) : Prop :=
  states world.machine.state

section Loop

variable
  {awaits rests : VpnState → Prop}
  (settling : Settling awaits rests)
  (env : Env)

include settling

theorem nmVpnUp_settles (server : String) :
    Ensures (Within awaits) (dispatchAndSync (.nmVpnUp server)) (fun _ => Within rests) := by
  intro world awaits
  rw [Within, dispatchAndSync_machine, ← StateMachine.afterEvent]
  exact settling.up world.machine awaits server

theorem shouldAttemptReconnect_settles :
    Ensures (Within awaits) (shouldAttemptReconnect env)
      (fun proceed world =>
        if proceed = true then Within awaits world else Within rests world) := by
  have asks : Ensures (Within awaits) (getActiveVpn env) (fun _ => Within awaits) :=
    fun _ awaits => awaits
  refine asks.bind ?_
  intro active
  cases active with
  | none => exact .pure (fun _ awaits => awaits)
  | some active =>
    refine (nmVpnUp_settles settling active).seq ?_
    exact .pure fun _ settled => settled

omit settling in
/-- How an attempt leaves the machine, by its end. -/
def Leaves (awaits rests : VpnState → Prop) (attemptEnd : AttemptEnd) (world : World) : Prop :=
  if attemptEnd = .failed then Within awaits world else Within rests world

variable (name : String)

theorem cancelReconnect_settles (world : World) :
    Within rests ((cancelReconnect env name).run world).2 :=
  settling.ends

omit settling in
theorem waitVerify_machine (polls : Nat) :
    Keeps (SameView World.machine) (waitVerify env polls) := by
  induction polls with
  | zero => exact .pure
  | succ polls ih =>
    refine .get ?_
    intro world
    refine .seq (fun _ => rfl) ?_
    refine .either .pure ?_
    exact .seq (fun _ => rfl) ih

theorem verifyConnection_leaves (name : String) :
    Ensures (Within awaits) (verifyConnection env name) (Leaves awaits rests) := by
  have waits : Ensures (Within awaits) (waitVerify env verifyPolls) (fun _ => Within awaits) := by
    intro world awaits
    rw [Within, waitVerify_machine env verifyPolls world]
    exact awaits
  have asks : Ensures (Within awaits) (getActiveVpn env) (fun _ => Within awaits) :=
    fun _ awaits => awaits
  refine waits.bind ?_
  intro seen
  refine .either ?_ ?_
  · intro world _
    exact cancelReconnect_settles settling env name world
  · refine asks.bind ?_
    intro active
    cases active with
    | none => exact .pure (fun _ awaits => awaits)
    | some active =>
      refine .either ?_ ?_
      · refine (nmVpnUp_settles settling name).seq ?_
        exact .pure fun _ settled => settled
      · exact .pure fun _ awaits => awaits

theorem reconnectOnce_leaves (attempt maxAttempts : Nat) :
    Ensures (Within awaits) (reconnectOnce env name attempt maxAttempts) (Leaves awaits rests) := by
  have marks :
      Ensures (Within awaits) (setStateAndSync (.reconnecting name attempt maxAttempts))
        (fun _ => Within awaits) :=
    fun _ _ => settling.tries name attempt maxAttempts
  have waits : Ensures (Within awaits) (waitBackoff env attempt) (fun _ => Within awaits) :=
    fun _ awaits => awaits
  have connects : Ensures (Within awaits) (nmConnect env name) (fun _ => Within awaits) :=
    fun _ awaits => awaits
  refine marks.seq ?_
  refine waits.bind ?_
  intro cancelled
  refine .either ?_ ?_
  · intro world _
    exact cancelReconnect_settles settling env name world
  · refine connects.bind ?_
    intro ok
    refine .either (verifyConnection_leaves settling env name) ?_
    exact .pure fun _ awaits => awaits

theorem reconnectAttempt_leaves (attempt maxAttempts : Nat) :
    Ensures (Within awaits) (reconnectAttempt env name attempt maxAttempts)
      (Leaves awaits rests) := by
  refine .get_any ?_
  intro current
  refine .either ?_ ?_
  · exact fun _ _ => settling.ends
  · refine (shouldAttemptReconnect_settles settling env).bind ?_
    intro proceed
    cases proceed with
    | true => exact reconnectOnce_leaves settling env name attempt maxAttempts
    | false => exact .pure (fun _ settled => settled)

theorem reconnectAttempts_leaves (maxAttempts attempt remaining : Nat) :
    Ensures (Within awaits) (reconnectAttempts env name maxAttempts attempt remaining)
      (Leaves awaits rests) := by
  induction remaining generalizing attempt with
  | zero => exact .pure (fun _ awaits => awaits)
  | succ remaining ih =>
    refine (reconnectAttempt_leaves settling env name attempt maxAttempts).bind ?_
    intro attemptEnd
    cases attemptEnd with
    | failed => exact ih (attempt + 1)
    | _ => exact .pure (fun _ settled => settled)

theorem reconnectLoop_settles (name : String) :
    Ensures (Within awaits) (reconnectLoop env name) (fun _ => Within rests) := by
  refine .get_any ?_
  intro current
  refine (reconnectAttempts_leaves settling env name _ 1 _).bind ?_
  intro attemptEnd
  cases attemptEnd with
  | failed => exact fun _ _ => settling.gives _ _
  | _ => exact .pure (fun _ settled => settled)

theorem startReconnect_settles (name : String) :
    Ensures (Within awaits) (startReconnect env name) (fun _ => Within rests) := by
  have lists : Ensures (Within awaits) (listVpnConnections env) (fun _ => Within awaits) :=
    fun _ awaits => awaits
  have refreshes : Ensures (Within rests) (refreshConnections env) (fun _ => Within rests) :=
    fun _ settled => settled
  refine .change (Within awaits) (fun _ awaits => awaits) ?_
  refine (shouldAttemptReconnect_settles settling env).bind ?_
  intro proceed
  cases proceed with
  | false => exact .pure (fun _ settled => settled)
  | true =>
    refine .bind lists ?_
    intro available
    refine .either (reconnectLoop_settles settling env name) ?_
    refine .bind ?_ fun _ => refreshes
    intro later awaits
    rw [Within, dispatchAndSync_machine, ← StateMachine.afterEvent]
    exact settling.fails later.machine awaits _

end Loop

theorem settling_awaits :
    Settling (fun state => state.isSettled = true ∨ state.isReconnecting = true)
      (fun state => state.isSettled = true) where
  tries _ _ _ := .inr rfl
  ends := rfl
  gives _ _ := rfl
  up machine awaits server := by
    rw [StateMachine.afterEvent_nmVpnUp]
    cases state : machine.state with
    | connecting target
    | degraded target => simp [state, VpnState.isSettled, VpnState.isReconnecting] at awaits
    | _ => rfl
  fails machine awaits reason := by
    rw [StateMachine.afterEvent_connectionFailed]
    cases state : machine.state with
    | connecting target
    | degraded target => simp [state, VpnState.isSettled, VpnState.isReconnecting] at awaits
    | _ => rfl

section Call

variable (env : Env)

/-- The commands that wait when the reconnect itself is done. -/
def leftWaiting (server : String) (world : World) : List VpnCommand :=
  if world.timing.reconnectInProgress then world.deferredCommands
  else (reconnected env server world).deferredCommands

/-- A call that does not return at once. -/
def TakesUp (world : World) : Prop :=
  world.timing.reconnectInProgress = false ∧ isDebounced world = false

variable {server : String}

theorem reconnected_of_debounced
    (running : world.timing.reconnectInProgress = false)
    (debounced : isDebounced world = true) :
    reconnected env server world = world := by
  rw [reconnected_eq, debounced, if_pos rfl, ← running]
  rfl

theorem isDebounced_of_refused
    (refused : ¬TakesUp world)
    (running : world.timing.reconnectInProgress = false) :
    isDebounced world = true := by
  rw [TakesUp, and_iff_right running] at refused
  exact eq_true_of_ne_false refused

theorem attemptReconnect_refused
    (refused : ¬TakesUp world)
    (empty : world.deferredCommands = []) :
    ((attemptReconnect env server).run world).2.machine = world.machine := by
  cases running : world.timing.reconnectInProgress with
  | true =>
    rw [attemptReconnect, run_get_bind]
    rw [running]
    rfl
  | false =>
    rw [attemptReconnect_run env server ⟨empty, running⟩,
      reconnected_of_debounced env running (isDebounced_of_refused refused running), empty]
    rfl

theorem leftWaiting_refused (refused : ¬TakesUp world) :
    leftWaiting env server world = world.deferredCommands := by
  rw [leftWaiting]
  cases running : world.timing.reconnectInProgress with
  | true => exact if_pos rfl
  | false =>
    rw [if_neg Bool.false_ne_true,
      reconnected_of_debounced env running (isDebounced_of_refused refused running)]

theorem reconnected_settled
    (takesUp : TakesUp world)
    (awaits : Awaits world) :
    Rests (reconnected env server world) := by
  rw [reconnected_eq, takesUp.2, if_neg Bool.false_ne_true]
  exact startReconnect_settles settling_awaits env server (markReconnect true world) awaits

theorem attemptReconnect_settles
    (takesUp : TakesUp world)
    (awaits : Awaits world)
    (empty : leftWaiting env server world = []) :
    Rests ((attemptReconnect env server).run world).2 := by
  have drained :
      (guardedReconnect env server).run world =
        (drainDeferred env
          (reconnected env server world).deferredCommands.length).run
            (reconnected env server world) :=
    rfl
  rw [leftWaiting, takesUp.1, if_neg Bool.false_ne_true] at empty
  rw [attemptReconnect, run_get_bind]
  rw [takesUp.1, if_neg Bool.false_ne_true, drained, empty]
  exact reconnected_settled env takesUp awaits

/--
A reconnect that leaves no command waiting settles the machine, unless it is
called in `Reconnecting` and returns at once.
-/
theorem reconnect_settles_iff
    (caller : ReconnectCaller)
    (world : World)
    (calls : caller.Calls world) :
    (leftWaiting env caller.server (caller.called world) = [] →
        ((caller.program env).run world).2.machine.state.isSettled = true) ↔
      ((caller.called world).machine.state.isReconnecting = true →
        (caller.called world).deferredCommands = [] → TakesUp (caller.called world)) := by
  have state := ReconnectCaller.called_state calls.finds
  rw [ReconnectCaller.program_run env calls]
  by_cases takesUp : TakesUp (caller.called world)
  · refine iff_of_true ?_ fun _ _ => takesUp
    intro empty
    refine attemptReconnect_settles env takesUp ?_ empty
    rw [Awaits, state, Bool.not_eq_true']
    exact (Bool.eq_false_or_eq_true _).symm
  · rw [leftWaiting_refused env takesUp]
    constructor
    · intro settles reconnecting empty
      have settled := settles empty
      rw [attemptReconnect_refused env takesUp empty, state, reconnecting] at settled
      exact Bool.noConfusion settled
    · intro taken empty
      rw [attemptReconnect_refused env takesUp empty, state, Bool.not_eq_true']
      exact eq_false_of_ne_true fun reconnecting => takesUp (taken reconnecting empty)

end Call

/-- A first drop finds no VPN, and the machine settles. -/
theorem reconnect_settles_firstDrop :
    (ReconnectCaller.deactivated "berlin").Calls
        (worldIn (.connected "berlin")) ∧
      ((handleDeactivated calmEnv "berlin").run
        (worldIn (.connected "berlin"))).2.machine.state.isSettled = true := by
  have calls : (ReconnectCaller.deactivated "berlin").Calls (worldIn (.connected "berlin")) :=
    ⟨rfl, rfl, rfl⟩
  exact ⟨calls,
    (reconnect_settles_iff calmEnv (.deactivated "berlin")
      (worldIn (.connected "berlin")) calls).mpr (fun _ _ => ⟨rfl, rfl⟩) rfl⟩

/-- NetworkManager has restored the VPN at the first look, but not later. -/
def flappingEnv : Env :=
  { calmEnv with
    active := fun number => if number = 0 then some "berlin" else none
    listed := fun _ => ["berlin"] }

/-- The supervisor after a drop that NetworkManager has repaired by itself. -/
def repairedWorld : World :=
  ((handleDbusEvent flappingEnv (.vpnDeactivated "berlin")).run (worldIn (.connected "berlin"))).2

/-- The next drop comes too soon, and the machine stays `Reconnecting`. -/
theorem second_drop_stays_reconnecting :
    repairedWorld.machine.state = .connected "berlin" ∧
      (ReconnectCaller.deactivated "berlin").Calls repairedWorld ∧
      leftWaiting flappingEnv "berlin"
          ((ReconnectCaller.deactivated "berlin").called repairedWorld) =
        [] ∧
      ((handleDbusEvent flappingEnv (.vpnDeactivated "berlin")).run
        repairedWorld).2.machine.state = .reconnecting "berlin" 1 10 ∧
      ((handleDbusEvent flappingEnv (.vpnDeactivated "berlin")).run
        repairedWorld).2.trace = repairedWorld.trace :=
  ⟨by decide, ⟨by decide, by decide, by decide⟩, by decide, by decide, by decide⟩

end Supervisor

end Shroud
