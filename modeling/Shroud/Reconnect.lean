import Shroud.SupervisorHandlers

namespace Shroud.Supervisor

open StateProgram

/-!
# Reconnecting, and the handlers of health checks

`attempt_reconnect` with its loop of attempts, the commands that reach it while
it waits, and the commands it has put off until it is done.
-/

/-- `RECONNECT_DEBOUNCE_SECS`. -/
def reconnectDebounceSecs : Nat := 5

/-- `linear_backoff_secs` with the constants of the loop, in milliseconds. -/
def backoffMs (attempt : Nat) : Nat :=
  min (2 * attempt) 30 * 1000

/-- Looks into the channel while a connection is verified: 5 s by 200 ms. -/
def verifyPolls : Nat := 25

variable (env : Env)

/-- `should_attempt_reconnect`, without what tells its two refusals apart. -/
def shouldAttemptReconnect : StateM World Bool := do
  match ← getActiveVpn env with
  | some active => do
      dispatchAndSync (.nmVpnUp active)
      pure false
  | none => pure true

/-- The last reconnect is less than five full seconds ago. -/
def isDebounced (world : World) : Bool :=
  match world.timing.lastReconnectTime with
  | some lastTime =>
    decide ((world.now - lastTime) / 1000 < reconnectDebounceSecs)
  | none => false

/-- The commands of a backoff that come before one to disconnect. -/
def deferredOf (commands : List VpnCommand) : List VpnCommand :=
  commands.takeWhile fun command => command ≠ .disconnect

/--
Wait out a backoff.  Commands are put off, except for one to disconnect, which
ends the wait: whether there was one.
-/
def waitBackoff (attempt : Nat) : StateM World Bool := do
  let world ← get
  let commands := env.arrivals world.asked.windows
  let cancelled := commands.contains .disconnect
  sleep (if cancelled then
    min (env.cancelMillis world.asked.windows) (backoffMs attempt)
  else backoffMs attempt)
  modify fun world =>
    { world with
      deferredCommands := world.deferredCommands ++ deferredOf commands
      asked := { world.asked with windows := world.asked.windows + 1 } }
  pure cancelled

/--
Wait until a new connection can be verified: whether a command to disconnect
was seen.  Any other command that a look finds is dropped.
-/
def waitVerify : Nat → StateM World Bool
  | 0 => pure false
  | polls + 1 => do
      let world ← get
      modify fun world =>
        { world with
          asked := { world.asked with polls := world.asked.polls + 1 } }
      if env.polled world.asked.polls = some .disconnect then pure true
      else do
        sleep 200
        waitVerify polls

/-- End the reconnect because the user wants to be disconnected. -/
def cancelReconnect (name : String) : StateM World Unit := do
  let _ ← nmDisconnect env name
  modify fun world =>
    { world with
      timing := { world.timing with
        lastDisconnectTime := some world.now } }
  setStateAndSync .disconnected

/-- How one attempt ends. -/
inductive AttemptEnd where
  | returned
  | succeeded
  | failed
  deriving Repr, DecidableEq

/-- Whether the VPN is up after a connection attempt that succeeded. -/
def verifyConnection (name : String) : StateM World AttemptEnd := do
  if ← waitVerify env verifyPolls then do
    cancelReconnect env name
    pure .returned
  else
    match ← getActiveVpn env with
    | some active =>
      if active = name then do
        dispatchAndSync (.nmVpnUp name)
        pure .succeeded
      else
        pure .failed
    | none => pure .failed

/-- The part of an attempt after NetworkManager reported no active VPN. -/
def reconnectOnce (name : String) (attempt maxAttempts : Nat) :
    StateM World AttemptEnd := do
  setStateAndSync (.reconnecting name attempt maxAttempts)
  if ← waitBackoff env attempt then do
    cancelReconnect env name
    pure .returned
  else if ← nmConnect env name then
    verifyConnection env name
  else
    pure .failed

def reconnectAttempt (name : String) (attempt maxAttempts : Nat) :
    StateM World AttemptEnd := do
  let world ← get
  if world.timing.reconnectCancelled then do
    setStateAndSync .disconnected
    pure .returned
  else if ← shouldAttemptReconnect env then
    reconnectOnce env name attempt maxAttempts
  else
    pure .succeeded

def reconnectAttempts (name : String) (maxAttempts : Nat) :
    (attempt remaining : Nat) → StateM World AttemptEnd
  | _, 0 => pure .failed
  | attempt, remaining + 1 => do
      match ← reconnectAttempt env name attempt maxAttempts with
      | .returned => pure .returned
      | .succeeded => pure .succeeded
      | .failed => reconnectAttempts name maxAttempts (attempt + 1) remaining

/-- The loop, and the end of a loop that ran out of attempts. -/
def reconnectLoop (name : String) : StateM World Unit := do
  let world ← get
  let maxAttempts := world.machine.maxRetries
  match ← reconnectAttempts env name maxAttempts 1 maxAttempts with
  | .failed =>
    setStateAndSync (.failed name ("Max attempts (" ++ toString maxAttempts ++ ") exceeded"))
  | _ => pure ()

/-- What is done for a connection that NetworkManager no longer knows. -/
def reconnectImpossible (name : String) : StateM World Unit := do
  dispatchAndSync (.connectionFailed ("VPN '" ++ name ++ "' no longer exists"))
  refreshConnections env

/-- The part of `attempt_reconnect_inner` behind the debounce. -/
def startReconnect (name : String) : StateM World Unit := do
  modify fun world =>
    { world with
      timing := { world.timing with
        lastReconnectTime := some world.now
        reconnectCancelled := false } }
  if ← shouldAttemptReconnect env then do
    let available ← listVpnConnections env
    if available.contains name then reconnectLoop env name
    else reconnectImpossible env name
  else
    pure ()

/-- `attempt_reconnect_inner`. -/
def attemptReconnectInner (name : String) : StateM World Unit := do
  let world ← get
  if isDebounced world then pure () else startReconnect env name

def handleCommand : VpnCommand → StateM World Unit
  | .connect server => handleConnect env server
  | .disconnect => handleDisconnect env
  | .toggleAutoReconnect => toggleAutoReconnect
  | .toggleKillSwitch => toggleKillSwitch env
  | .toggleAutostart => toggleAutostart env
  | .toggleDebugLogging => pure ()
  | .openLogFile => pure ()
  | .refreshConnections => refreshConnections env
  | .restart => handleRestart env
  | .quit => handleQuit env

/-- Take the commands that were put off, one by one. -/
def drainDeferred : Nat → StateM World Unit
  | 0 => pure ()
  | fuel + 1 => do
      let world ← get
      match world.deferredCommands with
      | [] => pure ()
      | command :: rest => do
          modify fun world => { world with deferredCommands := rest }
          handleCommand env command
          drainDeferred fuel

/-- The part of `attempt_reconnect` behind its guard. -/
def guardedReconnect (name : String) : StateM World Unit := do
  modifyTiming fun timing => { timing with reconnectInProgress := true }
  attemptReconnectInner env name
  modifyTiming fun timing => { timing with reconnectInProgress := false }
  let world ← get
  drainDeferred env world.deferredCommands.length

/-- `attempt_reconnect`. -/
def attemptReconnect (name : String) : StateM World Unit := do
  let world ← get
  if world.timing.reconnectInProgress then pure ()
  else guardedReconnect env name

/-- The configuration of a probe, if one is due. -/
def probeConfig? (world : World) : Option HealthConfig :=
  match world.machine.state with
  | .connected _ | .degraded _ =>
    if world.healthChecker.isSuspended world.now then none
    else some world.healthChecker.config
  | _ => none

/-- The part of `begin_health_check` for a state that needed no correction. -/
def prepareProbe : StateM World (Option HealthConfig) := do
  syncKillswitchState env
  let world ← get
  pure (probeConfig? world)

/-- `begin_health_check`. -/
def beginHealthCheck : StateM World (Option HealthConfig) := do
  if ← syncStateFromNm env then pure none
  else prepareProbe env

/-- `evaluate`, with the text of `resolv.conf` at this moment. -/
def evaluateProbe (outcome : ProbeOutcome) : StateM World HealthResult :=
  fun world =>
    let (result, checker) :=
      world.healthChecker.evaluate (env.resolvConf world.asked.resolvConf) outcome
    (result,
      { world with
        healthChecker := checker
        asked := { world.asked with
          resolvConf := world.asked.resolvConf + 1 } })

/-- What a verdict leads to. -/
def applyVerdict (server : String) : HealthResult → StateM World Unit
  | .healthy => do
      let world ← get
      if world.machine.state.isDegraded then dispatchAndSync .healthOk
      else pure ()
  | .degraded _ => do
      let world ← get
      if world.machine.state.isConnected then dispatchAndSync .healthDegraded
      else pure ()
  | .dead _ => do
      let world ← get
      if world.shared.autoReconnect then do
        dispatchAndSync .healthDead
        attemptReconnect env server
      else
        setStateAndSync .disconnected

/-- `finish_health_check` for a state that names a server. -/
def finishProbe (server : String) (outcome : ProbeOutcome) :
    StateM World Unit := do
  let result ← evaluateProbe env outcome
  applyVerdict env server result

/-- `finish_health_check`. -/
def finishHealthCheck (outcome : ProbeOutcome) : StateM World Unit := do
  let world ← get
  match world.machine.state with
  | .connected server => finishProbe env server outcome
  | .degraded server => finishProbe env server outcome
  | _ => pure ()

end Shroud.Supervisor
