import Mathlib.Data.List.Basic

namespace Shroud

/-!
# The VPN state machine

`StateMachine` with its table of transitions, one function per source state.
The reasons of forced transitions are only logged and are left out.
-/

/-- `VpnState`. -/
inductive VpnState where
  | disconnected
  | connecting (server : String)
  | connected (server : String)
  | degraded (server : String)
  | reconnecting (server : String) (attempt maxAttempts : Nat)
  | failed (server reason : String)
  deriving Repr, DecidableEq

namespace VpnState

/-- `server_name`. -/
def serverName : VpnState → Option String
  | .disconnected => none
  | .connecting server => some server
  | .connected server => some server
  | .degraded server => some server
  | .reconnecting server _ _ => some server
  | .failed server _ => some server

/-- The state is `Connected`. -/
def isConnected : VpnState → Bool
  | .connected _ => true
  | _ => false

/-- The state is `Degraded`. -/
def isDegraded : VpnState → Bool
  | .degraded _ => true
  | _ => false

/-- The state is `Connected` or `Degraded`. -/
def isUp (state : VpnState) : Bool :=
  state.isConnected || state.isDegraded

/-- `is_busy`. -/
def isBusy : VpnState → Bool
  | .connecting _ => true
  | .reconnecting _ _ _ => true
  | _ => false

variable {state : VpnState}

theorem eq_of_isConnected (connected : state.isConnected = true) :
    ∃ server, state = .connected server := by
  cases state with
  | connected server => exact ⟨server, rfl⟩
  | _ => exact Bool.noConfusion connected

theorem serverName_of_isUp (up : state.isUp = true) :
    ∃ server, state.serverName = some server := by
  cases state with
  | disconnected => exact Bool.noConfusion up
  | _ => exact ⟨_, rfl⟩

theorem connected_or_degraded (up : state.isUp = true) :
    ∃ server, state = .connected server ∨ state = .degraded server := by
  cases state with
  | connected server => exact ⟨server, .inl rfl⟩
  | degraded server => exact ⟨server, .inr rfl⟩
  | _ => exact Bool.noConfusion up

theorem isConnected_of_down (down : state.isUp = false) :
    state.isConnected = false :=
  (Bool.or_eq_false_iff.mp down).1

end VpnState

/-- `Event`. -/
inductive Event where
  | userEnable (server : String)
  | userDisable
  | nmVpnUp (server : String)
  | nmVpnDown
  | nmVpnChanged (server : String)
  | nmDeviceChanged
  | healthOk
  | healthDegraded
  | healthDead
  | sleep
  | wake
  | timeout
  | connectionFailed (reason : String)
  | endpointFailed (reason : String)
  deriving Repr, DecidableEq

def Event.name? : Event → Option String
  | .userEnable server => some server
  | .nmVpnUp server => some server
  | .nmVpnChanged server => some server
  | _ => none

/-- `TransitionReason`, as far as events give one. -/
inductive TransitionReason where
  | userRequested
  | vpnEstablished
  | vpnLost
  | vpnReestablished
  | healthCheckFailed
  | healthCheckDead
  | retrying
  | retriesExhausted
  | connectionFailed
  | externalChange
  deriving Repr, DecidableEq

/-- `StateMachine`. -/
structure StateMachine where
  state : VpnState
  retries : Nat
  maxRetries : Nat
  deriving Repr, DecidableEq

/-- A transition: the next state, the retry counter and the reason. -/
structure Transition where
  next : VpnState
  retries : Nat
  reason : TransitionReason

namespace StateMachine

/-- `from_disconnected`. -/
def fromDisconnected : Event → Option Transition
  | .userEnable server => some ⟨.connecting server, 0, .userRequested⟩
  | .nmVpnUp server => some ⟨.connected server, 0, .externalChange⟩
  | _ => none

/-- One more attempt, or the end of the attempts. -/
def retry (machine : StateMachine) (server reason : String) : Transition :=
  if machine.maxRetries ≤ machine.retries + 1 then
    ⟨.failed server reason, machine.retries + 1, .retriesExhausted⟩
  else
    ⟨.reconnecting server (machine.retries + 1) machine.maxRetries, machine.retries + 1, .retrying⟩

/-- `from_connecting`. -/
def fromConnecting (machine : StateMachine) (server : String) :
    Event → Option Transition
  | .nmVpnUp newServer => some ⟨.connected newServer, 0, .vpnEstablished⟩
  | .connectionFailed _ => some ⟨.disconnected, 0, .connectionFailed⟩
  | .timeout => some (machine.retry server "Connection timeout")
  | .nmVpnDown => some (machine.retry server "Connection failed")
  | _ => none

def firstAttempt (machine : StateMachine) (server : String)
    (reason : TransitionReason) : Transition :=
  ⟨.reconnecting server 1 machine.maxRetries, 1, reason⟩

/-- `from_connected`. -/
def fromConnected (machine : StateMachine) (server : String) :
    Event → Option Transition
  | .healthDegraded =>
    some ⟨.degraded server, machine.retries, .healthCheckFailed⟩
  | .nmVpnDown => some (machine.firstAttempt server .vpnLost)
  | .nmVpnChanged newServer => some ⟨.connected newServer, 0, .externalChange⟩
  | _ => none

/-- `from_degraded`. -/
def fromDegraded (machine : StateMachine) (server : String) :
    Event → Option Transition
  | .healthDead => some (machine.firstAttempt server .healthCheckDead)
  | .healthOk => some ⟨.connected server, machine.retries, .vpnReestablished⟩
  | .nmVpnDown => some (machine.firstAttempt server .vpnLost)
  | _ => none

/-- `from_reconnecting`. -/
def fromReconnecting (machine : StateMachine) (server : String) :
    Event → Option Transition
  | .nmVpnUp newServer => some ⟨.connected newServer, 0, .vpnReestablished⟩
  | .connectionFailed _ => some ⟨.disconnected, 0, .connectionFailed⟩
  | .timeout =>
    some (machine.retry server
      ("Max reconnection attempts (" ++ toString machine.maxRetries ++ ") exceeded"))
  | _ => none

/-- `from_failed`. -/
def fromFailed : Event → Option Transition
  | .userEnable server => some ⟨.connecting server, 0, .userRequested⟩
  | .nmVpnUp server => some ⟨.connected server, 0, .externalChange⟩
  | _ => none

def stateRule (machine : StateMachine) (event : Event) : Option Transition :=
  match machine.state with
  | .disconnected => fromDisconnected event
  | .connecting server => machine.fromConnecting server event
  | .connected server => machine.fromConnected server event
  | .degraded server => machine.fromDegraded server event
  | .reconnecting server _ _ => machine.fromReconnecting server event
  | .failed _ _ => fromFailed event

/-- The rules that apply in every state. -/
def globalRule : Event → Option Transition
  | .userDisable => some ⟨.disconnected, 0, .userRequested⟩
  | _ => none

/-- `compute_transition`. -/
def computeTransition (machine : StateMachine) (event : Event) :
    Option Transition :=
  (machine.stateRule event).or (globalRule event)

/-- `handle_event`. -/
def handleEvent (machine : StateMachine) (event : Event) :
    Option TransitionReason × StateMachine :=
  match machine.computeTransition event with
  | some transition =>
    (some transition.reason,
      { machine with
        state := transition.next
        retries := transition.retries })
  | none => (none, machine)

/-- `set_state`. -/
def setState (machine : StateMachine) (next : VpnState) : StateMachine :=
  { machine with
    state := next
    retries := if next = .disconnected then 0 else machine.retries }

def afterEvent (machine : StateMachine) (event : Event) : VpnState :=
  (machine.handleEvent event).2.state

section

variable (machine : StateMachine)

theorem afterEvent_eq (event : Event) :
    machine.afterEvent event =
      match (machine.stateRule event).or (globalRule event) with
      | some transition => transition.next
      | none => machine.state := by
  rw [afterEvent, handleEvent, computeTransition]
  cases (machine.stateRule event).or (globalRule event) <;> rfl

@[simp] theorem handleEvent_maxRetries (event : Event) :
    (machine.handleEvent event).2.maxRetries = machine.maxRetries := by
  rw [handleEvent]
  cases machine.computeTransition event <;> rfl

theorem handleEvent_wake :
    machine.handleEvent .wake = (none, machine) := by
  rw [handleEvent, computeTransition, stateRule]
  cases machine.state <;> rfl

theorem afterEvent_userDisable :
    machine.afterEvent .userDisable = .disconnected := by
  rw [afterEvent_eq, stateRule]
  cases machine.state <;> rfl

end

variable {machine : StateMachine} {server : String}

theorem afterEvent_healthDegraded
    (connected : machine.state = .connected server) :
    machine.afterEvent .healthDegraded = .degraded server := by
  rw [afterEvent_eq, stateRule, connected]
  rfl

theorem afterEvent_healthDead_connected
    (connected : machine.state = .connected server) :
    machine.afterEvent .healthDead = .connected server := by
  rw [afterEvent_eq, stateRule, connected]
  rfl

theorem afterEvent_healthDead_degraded
    (degraded : machine.state = .degraded server) :
    machine.afterEvent .healthDead = .reconnecting server 1 machine.maxRetries := by
  rw [afterEvent_eq, stateRule, degraded]
  rfl

theorem afterEvent_nmVpnDown_connected
    (connected : machine.state = .connected server) :
    machine.afterEvent .nmVpnDown = .reconnecting server 1 machine.maxRetries := by
  rw [afterEvent_eq, stateRule, connected]
  rfl

theorem afterEvent_nmVpnUp
    (machine : StateMachine)
    (server : String) :
    machine.afterEvent (.nmVpnUp server) =
      if machine.state.isUp then machine.state else .connected server := by
  rw [afterEvent_eq, stateRule]
  cases machine.state <;> rfl

theorem afterEvent_nmVpnChanged
    {current : String}
    (connected : machine.state = .connected current)
    (server : String) :
    machine.afterEvent (.nmVpnChanged server) = .connected server := by
  rw [afterEvent_eq, stateRule, connected]
  rfl

theorem afterEvent_userEnable_of_isUp
    (up : machine.state.isUp = true)
    (server : String) :
    machine.afterEvent (.userEnable server) = machine.state := by
  rw [afterEvent_eq, stateRule]
  cases state : machine.state with
  | disconnected | failed current reason =>
    rw [state] at up
    exact Bool.noConfusion up
  | _ => rfl

/-- Any other state is busy with a connection after the request. -/
theorem isBusy_afterEvent_userEnable
    (notUp : machine.state.isUp = false)
    (server : String) :
    (machine.afterEvent (.userEnable server)).isBusy = true := by
  rw [afterEvent_eq, stateRule]
  cases state : machine.state with
  | connected current | degraded current =>
    rw [state] at notUp
    exact Bool.noConfusion notUp
  | _ => rfl

theorem afterEvent_connectionFailed
    (machine : StateMachine)
    (reason : String) :
    machine.afterEvent (.connectionFailed reason) =
      if machine.state.isBusy then .disconnected else machine.state := by
  rw [afterEvent_eq, stateRule]
  cases machine.state <;> rfl

theorem isConnected_afterEvent_nmVpnUp
    (server : String)
    (notDegraded : machine.state.isDegraded = false) :
    (machine.afterEvent (.nmVpnUp server)).isConnected = true := by
  rw [afterEvent_eq, stateRule]
  cases state : machine.state with
  | degraded current =>
    rw [state] at notDegraded
    exact Bool.noConfusion notDegraded
  | _ => rfl

theorem isConnected_afterEvent_userEnable
    (machine : StateMachine)
    (server : String) :
    (machine.afterEvent (.userEnable server)).isConnected = machine.state.isConnected := by
  rw [afterEvent_eq, stateRule]
  cases machine.state <;> rfl

theorem isConnected_afterEvent_connectionFailed
    (machine : StateMachine)
    (reason : String) :
    (machine.afterEvent (.connectionFailed reason)).isConnected = machine.state.isConnected := by
  rw [afterEvent_eq, stateRule]
  cases machine.state <;> rfl

end StateMachine

end Shroud
