import Shroud.NmHandlers
import Shroud.Reconnect

namespace Shroud.Supervisor

open StateProgram

/-!
# The event loop

`VpnSupervisor::run`: what it does before its loop, and the branches of the
loop.  The constructor of the supervisor belongs to the start, since it is
where rules of an earlier session are found.
-/

/-- `TIME_JUMP_THRESHOLD_SECS`, in milliseconds. -/
def timeJumpThresholdMs : Nat := 10000

/-- `TIME_JUMP_COOLDOWN_SECS`. -/
def timeJumpCooldownSecs : Nat := 5

/-- `detect_time_jump`, with the times in milliseconds. -/
def detectTimeJump (wallDelta monoDelta threshold : Nat) : Option Nat :=
  let skew := wallDelta - monoDelta
  if threshold < skew then some skew else none

/-- The events of the loop that the model has a handler for. -/
inductive LoopEvent where
  | trayCommand (command : VpnCommand)
  | ipcCommand (command : IpcCommand)
  | beginHealthCheck
  | finishHealthCheck (outcome : ProbeOutcome)

variable (env : Env)

def LoopEvent.after (world : World) : LoopEvent → World
  | .trayCommand command => ((handleCommand env command).run world).2
  | .ipcCommand command => ((handleIpcCommand env command).run world).2
  | .beginHealthCheck => ((Supervisor.beginHealthCheck env).run world).2
  | .finishHealthCheck outcome =>
    ((Supervisor.finishHealthCheck env outcome).run world).2

/-- The settings and the real state of the kill switch are shared. -/
def shareSettings : StateM World Unit :=
  modify fun world =>
    { world with
      shared := { world.shared with
        autoReconnect := world.config.autoReconnect
        killSwitch := world.killSwitchIsEnabled } }

def notePoll : StateM World Unit :=
  modify fun world =>
    { world with timing := { world.timing with lastPollTime := world.now } }

/--
The kill switch after the first look at NetworkManager.  Rules that are there
are kept, and wanted ones are restored if a VPN is connected; without a VPN
they are left for later.
-/
def reconcileKillSwitch : StateM World Unit := do
  let world ← get
  if world.killSwitchIsEnabled then
    modifyShared fun shared => { shared with killSwitch := true }
  else if world.config.killSwitchEnabled then
    if world.machine.state.isConnected then enableAndReport env else pure ()
  else
    pure ()

/-- An autostart from before there was `auto_connect` turns it on. -/
def migrateAutostart (autostarts : Bool) : StateM World Unit := do
  let world ← get
  if autostarts && !world.config.autoConnect then do
    modifyConfig fun config => { config with autoConnect := true }
    saveConfig
  else
    pure ()

/-- The last server if it is still listed, or else the first one. -/
def autoConnectTarget (lastServer : Option String) (connections : List String) :
    Option String :=
  (lastServer.filter fun server =>
    !server.isEmpty && connections.contains server).or connections.head?

def connectIfAny : Option String → StateM World Unit
  | some server => handleConnect env server
  | none => pure ()

/-- The connection that is made at start-up, after NetworkManager had time. -/
def autoConnect : StateM World Unit := do
  let world ← get
  if world.machine.state = .disconnected ∧ world.config.autoConnect = true
  then do
    sleep 3000
    refreshConnections env
    let world ← get
    connectIfAny env (autoConnectTarget world.config.lastServer world.shared.connections)
  else
    pure ()

/-- The part of `run` in front of its loop. -/
def beginRun (autostarts : Bool) : StateM World Unit := do
  shareSettings
  refreshConnections env
  initialNmSync env
  notePoll
  reconcileKillSwitch env
  migrateAutostart autostarts
  autoConnect env

/-- `VpnSupervisor::new`, which looks for rules, and the start of `run`. -/
def startUp (autostarts : Bool) : StateM World Unit := do
  onKillSwitch (KillSwitch.syncState env.fw)
  beginRun env autostarts

def mayWake (world : World) : Bool :=
  !isWithin timeJumpCooldownSecs world.timing.lastWakeEvent world

def wakeUp : StateM World Unit := do
  modify fun world =>
    { world with
      healthChecker := world.healthChecker.suspend world.now 10000
      timing := { world.timing with lastWakeEvent := some world.now } }
  let _ ← dispatch .wake
  forceStateResync env

/--
The reaction to a tick of the poll, given the time on the wall clock since the
last one.
-/
def reactToTick (wallMillis : Nat) : StateM World Unit := do
  let world ← get
  match detectTimeJump wallMillis (world.now - world.timing.lastPollTime)
      timeJumpThresholdMs with
  | some _ => if mayWake world then wakeUp env else pure ()
  | none => pollNmState env

def pollTick (wallMillis : Nat) : StateM World Unit := do
  reactToTick env wallMillis
  notePoll

/-- The branches of the loop, and the time that passes between them. -/
inductive LoopStep where
  | loopEvent (event : LoopEvent)
  | dbusEvent (event : NmEvent)
  | pollTick (wallMillis : Nat)
  | pause (millis : Nat)

def LoopStep.after (world : World) : LoopStep → World
  | .loopEvent event => event.after env world
  | .dbusEvent event => ((handleDbusEvent env event).run world).2
  | .pollTick wallMillis => ((Supervisor.pollTick env wallMillis).run world).2
  | .pause millis => world.elapse millis

def runLoop (steps : List LoopStep) (world : World) : World :=
  steps.foldl (fun world step => step.after env world) world

end Shroud.Supervisor
