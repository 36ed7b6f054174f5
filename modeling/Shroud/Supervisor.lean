import Shroud.StateMachine
import Shroud.NmClient
import Shroud.HealthChecker
import Shroud.KillSwitchCleanup

namespace Shroud

open StateProgram

/-!
# The supervisor

The state of `VpnSupervisor`, what it asks of NetworkManager and the user, and
the functions that keep its views of the state in step.  The tray and the
notifications are left out, and so is the lock around the shared state, which
only the supervisor writes.
-/

/-- `VpnCommand`: what the tray sends. -/
inductive VpnCommand where
  | connect (server : String)
  | disconnect
  | toggleAutoReconnect
  | toggleKillSwitch
  | toggleAutostart
  | toggleDebugLogging
  | openLogFile
  | refreshConnections
  | restart
  | quit
  deriving Repr, DecidableEq

/-- The part of `Config` that the handlers or its validation read or write. -/
structure Config where
  autoReconnect : Bool
  autoConnect : Bool
  lastServer : Option String
  healthCheckIntervalSecs : Nat
  healthDegradedThresholdMs : Nat
  healthCheckEndpoints : List String
  expectedExitIp : Option String
  maxReconnectAttempts : Nat
  killSwitchEnabled : Bool
  dnsMode : DnsMode
  blockDoh : Bool
  customDohBlocklist : List String
  ipv6Mode : Ipv6Mode
  preConnect : Bool
  deriving Repr, DecidableEq

/-- `Config::default`. -/
def Config.default : Config where
  autoReconnect := true
  autoConnect := false
  lastServer := none
  healthCheckIntervalSecs := 30
  healthDegradedThresholdMs := 5000
  healthCheckEndpoints := []
  expectedExitIp := none
  maxReconnectAttempts := 10
  killSwitchEnabled := false
  dnsMode := .tunnel
  blockDoh := true
  customDohBlocklist := []
  ipv6Mode := .block
  preConnect := true

/-- `SharedState`. -/
structure SharedState where
  state : VpnState
  autoReconnect : Bool
  killSwitch : Bool
  connections : List String
  deriving Repr, DecidableEq

/-- `TimingState`, as far as the modelled handlers use it. -/
structure TimingState where
  lastDisconnectTime : Option Nat
  lastPollTime : Nat
  lastWakeEvent : Option Nat
  lastWakeResync : Option Nat
  lastReconnectTime : Option Nat
  reconnectCancelled : Bool
  reconnectInProgress : Bool
  deriving Repr, DecidableEq

/-- `SwitchContext`. -/
structure SwitchContext where
  inProgress : Bool
  target : Option String
  fromServer : Option String
  completedTime : Option Nat
  deriving Repr, DecidableEq

/-- A call to NetworkManager, with its answer where that is a success flag. -/
inductive NmCall where
  | getActiveVpn
  | getActiveVpnWithState
  | getAllActiveVpns
  | getVpnState (name : String)
  | listVpnConnections
  | connect (name : String) (ok : Bool)
  | disconnect (name : String) (ok : Bool)
  | killOrphanOpenvpnProcesses
  deriving Repr, DecidableEq

/-- How often each question was asked. -/
structure Asked where
  active : Nat
  activeInfo : Nat
  allActive : Nat
  vpnState : Nat
  connect : Nat
  disconnect : Nat
  list : Nat
  /-- Backoff windows in which the tray could send commands. -/
  windows : Nat
  /-- Single looks into the channel of the tray. -/
  polls : Nat
  /-- Reads of `/etc/resolv.conf`. -/
  resolvConf : Nat
  autostart : Nat
  restart : Nat
  deriving Repr, DecidableEq

/-- The answers of the outside world, each by its running number. -/
structure Env where
  fw : FwEnv
  active : Nat → Option String
  activeInfo : Nat → Option ActiveVpnInfo
  allActive : Nat → List ActiveVpnInfo
  vpnState : Nat → Option NmVpnState
  /-- Whether `connect` and `disconnect` report success. -/
  connects : Nat → Bool
  disconnects : Nat → Bool
  listed : Nat → List String
  /-- How long a call takes, by the length of the trace. -/
  nmMillis : Nat → Nat
  /-- The commands that arrive during a backoff. -/
  arrivals : Nat → List VpnCommand
  /-- How far into a backoff the command to disconnect comes. -/
  cancelMillis : Nat → Nat
  polled : Nat → Option VpnCommand
  resolvConf : Nat → Option String
  /-- The result of toggling autostart, if that works. -/
  autostart : Nat → Option Bool
  /-- Whether a new instance can be spawned. -/
  restarts : Nat → Bool
  /-- The message of a restart that fails. -/
  restartFailure : Nat → String := fun _ => "Failed to spawn new instance: "

/-- The supervisor together with the world around it. -/
structure World where
  machine : StateMachine
  shared : SharedState
  healthChecker : HealthChecker
  config : Config
  /-- What was written to the configuration file. -/
  saves : List Config
  /-- The kill switch and its host. -/
  kill : KsWorld
  timing : TimingState
  switchCtx : SwitchContext
  /-- The reason of a requested exit. -/
  exitReason : Option String
  deferredCommands : List VpnCommand
  asked : Asked
  trace : List NmCall
  /-- Whether the kill switch was on at each call of the trace. -/
  guarded : List Bool

namespace World

/-- The supervisor as `with_nm` builds it, before it looks at the firewall. -/
def new (config : Config) (health : HealthConfig) (maxRetries : Nat)
    (host : Host) : World where
  machine := ⟨.disconnected, 0, maxRetries⟩
  shared := ⟨.disconnected, config.autoReconnect, false, []⟩
  healthChecker := .withConfig health
  config := config
  saves := []
  kill :=
    { ks := .withConfig config.dnsMode config.ipv6Mode config.blockDoh
        config.customDohBlocklist
      host := host }
  timing := ⟨none, host.now, none, none, none, false, false⟩
  switchCtx := ⟨false, none, none, none⟩
  exitReason := none
  deferredCommands := []
  asked := ⟨0, 0, 0, 0, 0, 0, 0, 0, 0, 0, 0, 0⟩
  trace := []
  guarded := []

def now (world : World) : Nat :=
  world.kill.host.now

def elapse (world : World) (millis : Nat) : World :=
  { world with
    kill := { world.kill with
      host := { world.kill.host with
        now := world.kill.host.now + millis } } }

/-- `KillSwitch::is_enabled`. -/
def killSwitchIsEnabled (world : World) : Bool :=
  world.kill.ks.enabled

end World

namespace Supervisor

variable (env : Env)

/-- Run an operation of the kill switch. -/
def onKillSwitch {α : Type} (program : StateM KsWorld α) : StateM World α :=
  fun world =>
    ((program.run world.kill).1, { world with kill := (program.run world.kill).2 })

/-- `sleep`. -/
def sleep (millis : Nat) : StateM World Unit :=
  modify fun world => world.elapse millis

/-- Note a call to NetworkManager and the time it took. -/
def noteCall (call : NmCall) (count : Asked → Asked) : StateM World Unit :=
  modify fun world =>
    { world.elapse (env.nmMillis world.trace.length) with
      asked := count world.asked
      trace := world.trace ++ [call]
      guarded := world.guarded ++ [world.killSwitchIsEnabled] }

/-- `get_active_vpn`. -/
def getActiveVpn : StateM World (Option String) := do
  let world ← get
  noteCall env .getActiveVpn fun asked => { asked with active := asked.active + 1 }
  pure (env.active world.asked.active)

/-- `get_active_vpn_with_state`. -/
def getActiveVpnWithState : StateM World (Option ActiveVpnInfo) := do
  let world ← get
  noteCall env .getActiveVpnWithState fun asked => { asked with activeInfo := asked.activeInfo + 1 }
  pure (env.activeInfo world.asked.activeInfo)

/-- `get_all_active_vpns`. -/
def getAllActiveVpns : StateM World (List ActiveVpnInfo) := do
  let world ← get
  noteCall env .getAllActiveVpns fun asked => { asked with allActive := asked.allActive + 1 }
  pure (env.allActive world.asked.allActive)

/-- `get_active_vpn_snapshot`: one query, and the best VPN of its answer. -/
def getActiveVpnSnapshot :
    StateM World (List ActiveVpnInfo × Option ActiveVpnInfo) := do
  let all ← getAllActiveVpns env
  pure (all, NmClient.selectBestVpn all)

/-- `get_vpn_state`. -/
def getVpnState (name : String) : StateM World (Option NmVpnState) := do
  let world ← get
  noteCall env (.getVpnState name) fun asked => { asked with vpnState := asked.vpnState + 1 }
  pure (env.vpnState world.asked.vpnState)

/-- `list_vpn_connections`. -/
def listVpnConnections : StateM World (List String) := do
  let world ← get
  noteCall env .listVpnConnections fun asked => { asked with list := asked.list + 1 }
  pure (env.listed world.asked.list)

/-- `connect`; the answer is whether it reported success. -/
def nmConnect (name : String) : StateM World Bool := do
  let world ← get
  noteCall env (.connect name (env.connects world.asked.connect))
    fun asked => { asked with connect := asked.connect + 1 }
  pure (env.connects world.asked.connect)

/-- `disconnect`; the answer is whether it reported success. -/
def nmDisconnect (name : String) : StateM World Bool := do
  let world ← get
  noteCall env (.disconnect name (env.disconnects world.asked.disconnect))
    fun asked => { asked with disconnect := asked.disconnect + 1 }
  pure (env.disconnects world.asked.disconnect)

/-- `kill_orphan_openvpn_processes`. -/
def killOrphanOpenvpnProcesses : StateM World Unit :=
  noteCall env .killOrphanOpenvpnProcesses id

/-- `ConfigStore::save`. -/
def saveConfig : StateM World Unit :=
  modify fun world => { world with saves := world.saves ++ [world.config] }

def modifyConfig (change : Config → Config) : StateM World Unit :=
  modify fun world => { world with config := change world.config }

def modifyShared (change : SharedState → SharedState) : StateM World Unit :=
  modify fun world => { world with shared := change world.shared }

def modifyTiming (change : TimingState → TimingState) : StateM World Unit :=
  modify fun world => { world with timing := change world.timing }

/-- `sync_shared_state`. -/
def syncSharedState : StateM World Unit :=
  modify fun world =>
    { world with
      shared := { world.shared with state := world.machine.state } }

/-- What `dispatch` does on top of the event when the state is `Connected`. -/
def noteConnected (world : World) : World :=
  match world.machine.state with
  | .connected server =>
    let world := { world with healthChecker := world.healthChecker.reset }
    if world.config.lastServer = some server then world
    else
      let config := { world.config with lastServer := some server }
      { world with config := config, saves := world.saves ++ [config] }
  | _ => world

/-- `dispatch`. -/
def dispatch (event : Event) : StateM World (Option TransitionReason) :=
  fun world =>
    let (reason, machine) := world.machine.handleEvent event
    let world := noteConnected { world with machine := machine }
    (reason,
      { world with
        shared := { world.shared with state := world.machine.state } })

def dispatchAndSync (event : Event) : StateM World Unit := do
  let _ ← dispatch event
  syncSharedState

def setStateAndSync (next : VpnState) : StateM World Unit := do
  modify fun world => { world with machine := world.machine.setState next }
  syncSharedState

/-- `refresh_connections`. -/
def refreshConnections : StateM World Unit := do
  let connections ← listVpnConnections env
  modifyShared fun shared => { shared with connections := connections }

/-- The correction that `sync_state_from_nm` makes, given the answer. -/
def correctState (active : Option String) : StateM World Bool := do
  let world ← get
  match world.machine.state, active with
  | .disconnected, some conn => do
      dispatchAndSync (.nmVpnUp conn)
      pure true
  | .connected _, none => do
      setStateAndSync .disconnected
      pure true
  | .connected server, some conn =>
    if server = conn then pure false
    else do
      dispatchAndSync (.nmVpnUp conn)
      pure true
  | .reconnecting _ _ _, some conn => do
      modifyTiming fun timing => { timing with reconnectCancelled := true }
      dispatchAndSync (.nmVpnUp conn)
      pure true
  | .failed _ _, some conn => do
      dispatchAndSync (.nmVpnUp conn)
      pure true
  | .degraded server, some conn =>
    if server = conn then pure false
    else do
      dispatchAndSync (.nmVpnUp conn)
      pure true
  | .degraded _, none => do
      setStateAndSync .disconnected
      pure true
  | .connecting _, none =>
    if world.shared.autoReconnect then pure false
    else do
      setStateAndSync .disconnected
      pure true
  | _, _ => pure false

/-- `sync_state_from_nm`: whether the state was corrected. -/
def syncStateFromNm : StateM World Bool := do
  let active ← getActiveVpn env
  correctState active

/-- Report the flag of the kill switch. -/
def reportKillSwitch : StateM World Unit :=
  modify fun world =>
    { world with
      shared := { world.shared with killSwitch := world.kill.ks.enabled } }

/-- `sync_killswitch_state`. -/
def syncKillswitchState : StateM World Unit := do
  onKillSwitch (KillSwitch.syncState env.fw)
  reportKillSwitch

end Supervisor

end Shroud
