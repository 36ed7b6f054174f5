import Shroud.Reconnect

namespace Shroud.Supervisor

open StateProgram

/-!
# The handlers of what NetworkManager says

NetworkManager is heard in three ways: its signals on D-Bus, a periodic poll,
and a full resync after the machine wakes up.  Each of them compares what it
hears with the state machine by a table of its own.
-/

/-- `POST_DISCONNECT_GRACE_SECS`. -/
def postDisconnectGraceSecs : Nat := 5

/-- `WAKE_RESYNC_GRACE_SECS`. -/
def wakeResyncGraceSecs : Nat := 2

/-- A time is noted, and fewer full seconds than given lie behind it. -/
def isWithin (secs : Nat) (noted : Option Nat) (world : World) : Bool :=
  match noted with
  | some time => decide ((world.now - time) / 1000 < secs)
  | none => false

def inDisconnectGrace (world : World) : Bool :=
  isWithin postDisconnectGraceSecs world.timing.lastDisconnectTime world

def inWakeGrace (world : World) : Bool :=
  isWithin wakeResyncGraceSecs world.timing.lastWakeResync world

variable (env : Env)

/-- Of several VPNs that are active at start-up the first is kept. -/
def dropExtrasAtStart (vpns : List ActiveVpnInfo) : StateM World Unit := do
  if 1 < vpns.length then do
    disconnectAll env vpns.tail
    sleep 1000
  else
    pure ()

/-- The event for the VPN that is found at start-up. -/
def noteInitialVpn : Option ActiveVpnInfo → StateM World Unit
  | some ⟨name, .activated⟩ => do
      let _ ← dispatch (.nmVpnUp name)
      pure ()
  | some ⟨name, .activating⟩ => do
      let _ ← dispatch (.userEnable name)
      pure ()
  | _ => pure ()

/-- `initial_nm_sync`. -/
def initialNmSync : StateM World Unit := do
  let vpns ← getAllActiveVpns env
  dropExtrasAtStart env vpns
  let info ← getActiveVpnWithState env
  noteInitialVpn info
  syncSharedState

/-- Of several active VPNs the poll keeps the tracked one, or the first. -/
def keepVpn (state : VpnState) (first : ActiveVpnInfo)
    (rest : List ActiveVpnInfo) : String :=
  match state.serverName with
  | some ourServer =>
    if (first :: rest).any (fun vpn => vpn.name == ourServer) then ourServer
    else first.name
  | none => first.name

/-- Track the VPN that was kept. -/
def trackKept (keep : String) : StateM World Unit := do
  let world ← get
  if world.machine.state.serverName = some keep then pure ()
  else dispatchAndSync (.nmVpnUp keep)

def dropExtras (first : ActiveVpnInfo) (rest : List ActiveVpnInfo) :
    StateM World Unit := do
  let world ← get
  let keep := keepVpn world.machine.state first rest
  disconnectAll env (otherVpns keep (first :: rest))
  trackKept keep

/-- A connection that is gone without having been asked to. -/
def noteDropped (server : String) : StateM World Unit := do
  let world ← get
  if world.shared.autoReconnect then do
    dispatchAndSync .nmVpnDown
    attemptReconnect env server
  else
    setStateAndSync .disconnected

/-- The table of the poll for at most one active VPN. -/
def compareWithNm (active : Option ActiveVpnInfo) : StateM World Unit := do
  let world ← get
  match world.machine.state, active with
  | .connected server, none => noteDropped env server
  | .connected ourServer, some info =>
    if info.state = .activated ∧ info.name ≠ ourServer then
      dispatchAndSync (.nmVpnChanged info.name)
    else
      pure ()
  | .disconnected, some info =>
    if info.state = .activated then dispatchAndSync (.nmVpnUp info.name)
    else if info.state = .activating then
      dispatchAndSync (.userEnable info.name)
    else
      pure ()
  | .connecting target, some info =>
    if info.state = .activated ∧ info.name = target then
      dispatchAndSync (.nmVpnUp info.name)
    else
      pure ()
  | .failed _ _, some info =>
    if info.state = .activated then dispatchAndSync (.nmVpnUp info.name)
    else pure ()
  | _, _ => pure ()

/-- What the poll does with the snapshot. -/
def reconcile : List ActiveVpnInfo × Option ActiveVpnInfo → StateM World Unit
  | (first :: second :: rest, _) => dropExtras env first (second :: rest)
  | (_, active) => compareWithNm env active

def pollNow : StateM World Unit := do
  modifyTiming fun timing => { timing with lastDisconnectTime := none }
  let snapshot ← getActiveVpnSnapshot env
  reconcile env snapshot

/-- The poll is put off during a switch and right after a disconnect. -/
def isPollSkipped (world : World) : Bool :=
  world.switchCtx.inProgress || inDisconnectGrace world

/-- `poll_nm_state`. -/
def pollNmState : StateM World Unit := do
  let world ← get
  if isPollSkipped world then pure () else pollNow env

/-- The state that a resync forces, if any. -/
def resyncedState (state : VpnState) : Option ActiveVpnInfo → Option VpnState
  | some ⟨name, .activated⟩ => some (.connected name)
  | some ⟨name, .activating⟩ => some (.connecting name)
  | some _ => some .disconnected
  | none => if state.isBusy then none else some .disconnected

/-- Force the state that the resync asks for. -/
def resyncState (active : Option ActiveVpnInfo) : StateM World Unit :=
  modify fun world =>
    match resyncedState world.machine.state active with
    | some next => { world with machine := world.machine.setState next }
    | none => world

/-- `force_state_resync`; the signals that it drops never reach a handler. -/
def forceStateResync : StateM World Unit := do
  modifyTiming fun timing => { timing with lastDisconnectTime := none }
  refreshConnections env
  let active ← getActiveVpnWithState env
  resyncState active
  syncSharedState
  modify fun world =>
    { world with
      timing := { world.timing with lastWakeResync := some world.now } }

/-- `NmEvent`. -/
inductive NmEvent where
  | vpnActivated (name : String)
  | vpnDeactivated (name : String)
  | vpnActivating (name : String)
  | vpnFailed (name reason : String)
  | connectivityChanged (connected : Bool)
  deriving Repr, DecidableEq

/-- The signal is the end of the VPN that was switched from. -/
def endsSwitchedFrom (event : NmEvent) (world : World) : Bool :=
  match event, world.switchCtx.fromServer with
  | .vpnDeactivated name, some fromServer => name == fromServer
  | _, _ => false

/-- The last filter: the grace period after an intentional disconnect. -/
def passGrace : StateM World Bool := do
  let world ← get
  if inDisconnectGrace world then pure false
  else do
    modifyTiming fun timing => { timing with lastDisconnectTime := none }
    pure true

/-- The filter for late signals of the VPN that was switched from. -/
def passSwitch (event : NmEvent) : StateM World Bool := do
  let world ← get
  if endsSwitchedFrom event world then
    if isWithin postDisconnectGraceSecs world.switchCtx.completedTime world
    then pure false
    else do
      modify fun world =>
        { world with
          switchCtx := { world.switchCtx with
            fromServer := none
            completedTime := none } }
      passGrace
  else
    passGrace

/-- The filters in front of every signal: whether it gets through. -/
def passFilters (event : NmEvent) : StateM World Bool := do
  let world ← get
  if world.switchCtx.inProgress then pure false
  else if inWakeGrace world then pure false
  else do
    modifyTiming fun timing => { timing with lastWakeResync := none }
    passSwitch event

/-- A signal is dropped during a switch and in the two grace periods. -/
def isFiltered (world : World) : Bool :=
  world.switchCtx.inProgress || inWakeGrace world || inDisconnectGrace world

/-- A late signal of the VPN that was switched from is dropped as well. -/
def isLateEnd (event : NmEvent) (world : World) : Bool :=
  endsSwitchedFrom event world &&
    isWithin postDisconnectGraceSecs world.switchCtx.completedTime world

/-- Only the clocks and the note about the switch were touched. -/
def FiltersOnly (before after : World) : Prop :=
  ∃ timing switchCtx, after = { before with timing := timing, switchCtx := switchCtx }

theorem passGrace_spec (world : World) :
    (passGrace.run world).1 = !inDisconnectGrace world ∧
      FiltersOnly world (passGrace.run world).2 := by
  rw [passGrace, run_get_bind]
  cases inDisconnectGrace world <;> exact ⟨rfl, _, _, rfl⟩

theorem passSwitch_spec
    (event : NmEvent)
    (world : World) :
    ((passSwitch event).run world).1 =
        !(isLateEnd event world || inDisconnectGrace world) ∧
      FiltersOnly world ((passSwitch event).run world).2 := by
  rw [passSwitch, run_bind, run_get, isLateEnd]
  dsimp only
  cases endsSwitchedFrom event world with
  | false => exact passGrace_spec world
  | true =>
    rw [if_pos rfl]
    cases isWithin postDisconnectGraceSecs world.switchCtx.completedTime world with
    | true => exact ⟨rfl, _, _, rfl⟩
    | false =>
      obtain ⟨passes, timing, switchCtx, same⟩ :=
        passGrace_spec
          { world with
            switchCtx := { world.switchCtx with
              fromServer := none
              completedTime := none } }
      exact ⟨passes, timing, switchCtx, same⟩

theorem passFilters_spec
    (event : NmEvent)
    (world : World) :
    ((passFilters event).run world).1 =
        !(isFiltered world || isLateEnd event world) ∧
      FiltersOnly world ((passFilters event).run world).2 := by
  rw [passFilters, run_bind, run_get, isFiltered]
  dsimp only
  cases world.switchCtx.inProgress with
  | true => exact ⟨rfl, _, _, rfl⟩
  | false =>
    cases inWakeGrace world with
    | true => exact ⟨rfl, _, _, rfl⟩
    | false =>
      obtain ⟨passes, timing, switchCtx, same⟩ :=
        passSwitch_spec event
          { world with
            timing := { world.timing with lastWakeResync := none } }
      refine ⟨passes.trans ?_, timing, switchCtx, same⟩
      rw [Bool.false_or, Bool.or_comm]
      rfl

/-- Of several active VPNs the one that was just activated is kept. -/
def dropOlder (name : String) (vpns : List ActiveVpnInfo) :
    StateM World Unit :=
  if 1 < vpns.length then disconnectAll env (otherVpns name vpns)
  else pure ()

/-- An activated VPN while no other one is tracked. -/
def joinActivated (name : String) : StateM World Unit := do
  let vpns ← getAllActiveVpns env
  dropOlder env name vpns
  dispatchAndSync (.nmVpnUp name)

/-- An activated VPN takes the place of the tracked one. -/
def replaceTracked (current name : String) : StateM World Unit := do
  dispatchAndSync (.nmVpnUp name)
  let _ ← nmDisconnect env current
  pure ()

/-- `NmEvent::VpnActivated`. -/
def handleActivated (name : String) : StateM World Unit := do
  let world ← get
  match world.machine.state.serverName with
  | some current =>
    if current ≠ name then replaceTracked env current name
    else joinActivated env name
  | none => joinActivated env name

/-- The state already stands for the VPN that is activating. -/
def isDominated (name : String) : VpnState → Bool
  | .connecting server => server == name
  | .connected server => server == name
  | _ => false

/-- `NmEvent::VpnActivating`. -/
def handleActivating (name : String) : StateM World Unit := do
  let world ← get
  if isDominated name world.machine.state then pure ()
  else dispatchAndSync (.userEnable name)

/-- `NmEvent::VpnDeactivated`. -/
def handleDeactivated (name : String) : StateM World Unit := do
  let world ← get
  if world.machine.state.serverName = some name then
    if world.shared.autoReconnect && world.machine.state.isUp then do
      dispatchAndSync .nmVpnDown
      attemptReconnect env name
    else
      setStateAndSync .disconnected
  else
    pure ()

/-- `NmEvent::VpnFailed`. -/
def handleFailed (name reason : String) : StateM World Unit := do
  let world ← get
  if world.shared.autoReconnect then do
    dispatchAndSync .nmVpnDown
    attemptReconnect env name
  else
    setStateAndSync (.failed name reason)

/-- A signal that got through the filters. -/
def handleAdmitted : NmEvent → StateM World Unit
  | .vpnActivated name => handleActivated env name
  | .vpnActivating name => handleActivating name
  | .vpnDeactivated name => handleDeactivated env name
  | .vpnFailed name reason => handleFailed env name reason
  | .connectivityChanged _ => pure ()

/-- `handle_dbus_event`. -/
def handleDbusEvent (event : NmEvent) : StateM World Unit := do
  if ← passFilters event then handleAdmitted env event else pure ()

end Shroud.Supervisor
