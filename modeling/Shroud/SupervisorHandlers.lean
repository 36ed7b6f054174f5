import Shroud.Supervisor

namespace Shroud.Supervisor

open StateProgram

/-!
# The handlers of user commands

`handle_connect`, `handle_disconnect`, the toggles, the reload of the
configuration, and the commands of the socket that lead to them.
-/

/-- `DISCONNECT_VERIFY_MAX_ATTEMPTS`. -/
def disconnectVerifyMaxAttempts : Nat := 30

/-- `DISCONNECT_VERIFY_INTERVAL_MS`. -/
def disconnectVerifyIntervalMs : Nat := 500

/-- `POST_DISCONNECT_SETTLE_SECS`, in milliseconds. -/
def postDisconnectSettleMs : Nat := 3000

/-- `MAX_CONNECT_ATTEMPTS`. -/
def maxConnectAttempts : Nat := 3

/-- `CONNECT_RETRY_DELAY_SECS`, in milliseconds. -/
def connectRetryDelayMs : Nat := 2000

/-- `CONNECTION_MONITOR_MAX_ATTEMPTS`. -/
def connectionMonitorMaxAttempts : Nat := 60

/-- `CONNECTION_MONITOR_INTERVAL_MS`. -/
def connectionMonitorIntervalMs : Nat := 500

variable (env : Env)

/-- `resolve_pre_connect`. -/
def resolvePreConnect (preConnect : Bool) (target : String)
    (hostnameVpns : List String) : Bool :=
  preConnect && !hostnameVpns.contains target

/-- The ordering of kill switch and connection for one connect. -/
def effectivePreConnect (name : String) : StateM World Bool := do
  let world ← get
  if world.config.killSwitchEnabled && world.config.preConnect then do
    let scan ← onKillSwitch (KillSwitch.detectVpnEndpoints env.fw)
    pure (resolvePreConnect true name scan.hostnameVpns)
  else
    pure world.config.preConnect

/-- Enable the kill switch and report it enabled if that returned `Ok`. -/
def enableAndReport : StateM World Unit := do
  match ← onKillSwitch (KillSwitch.enable env.fw) with
  | some _ => pure ()
  | none => modifyShared fun shared => { shared with killSwitch := true }

/-- Disable the kill switch and report it disabled if that returned `Ok`. -/
def disableAndReport : StateM World Unit := do
  match ← onKillSwitch (KillSwitch.disable env.fw) with
  | some _ => pure ()
  | none => modifyShared fun shared => { shared with killSwitch := false }

/-- The kill switch block before the connection. -/
def prepareKillSwitch (preConnect : Bool) : StateM World Unit := do
  let world ← get
  if world.config.killSwitchEnabled then
    if preConnect then
      if world.killSwitchIsEnabled then pure () else enableAndReport env
    else
      if world.killSwitchIsEnabled then disableAndReport env else pure ()
  else
    pure ()

def beginSwitch (name : String) : StateM World Unit :=
  modify fun world =>
    { world with
      switchCtx := { world.switchCtx with
        inProgress := true
        target := some name
        fromServer :=
          match world.machine.state.serverName with
          | some current =>
            if current = name then world.switchCtx.fromServer
            else some current
          | none => world.switchCtx.fromServer }
      timing := { world.timing with
        lastDisconnectTime := some world.now } }

/-- The active VPNs other than the wanted one. -/
def otherVpns (name : String) (active : List ActiveVpnInfo) :
    List ActiveVpnInfo :=
  active.filter fun vpn => vpn.name ≠ name

/-- Note one of the other VPNs as the one that is switched from. -/
def noteSwitchedFrom (others : List ActiveVpnInfo) : StateM World Unit :=
  modify fun world =>
    { world with
      switchCtx := { world.switchCtx with
        fromServer :=
          world.switchCtx.fromServer.or (others.head?.map (·.name)) } }

def disconnectAll (vpns : List ActiveVpnInfo) : StateM World Unit :=
  vpns.forM fun vpn => do
    let _ ← nmDisconnect env vpn.name
    pure ()

/-- Wait until the other VPNs are gone; the last attempt uses force. -/
def waitForDisconnects (name : String) : Nat → StateM World Unit
  | 0 => pure ()
  | attempts + 1 => do
      sleep disconnectVerifyIntervalMs
      let remaining ← getAllActiveVpns env
      if otherVpns name remaining = [] then pure ()
      else if attempts = 0 then
        disconnectAll env (otherVpns name remaining)
      else
        waitForDisconnects name attempts

/-- Disconnect every other VPN and wait for that. -/
def disconnectOthers (name : String) (others : List ActiveVpnInfo) :
    StateM World Unit := do
  disconnectAll env others
  if others = [] then pure ()
  else do
    waitForDisconnects env name disconnectVerifyMaxAttempts
    killOrphanOpenvpnProcesses env
    sleep postDisconnectSettleMs

/-- Watch a connection until it is up or gives up: whether it is up. -/
def monitorConnection (name : String) : Nat → StateM World Bool
  | 0 => pure false
  | attempts + 1 => do
      sleep connectionMonitorIntervalMs
      match ← getVpnState env name with
      | some .activated => do
          dispatchAndSync (.nmVpnUp name)
          pure true
      | some .activating => monitorConnection name attempts
      | _ => pure false

/-- One attempt to connect: whether the connection is up. -/
def connectOnce (name : String) : StateM World Bool := do
  if ← nmConnect env name then
    monitorConnection env name connectionMonitorMaxAttempts
  else
    pure false

/-- The attempts to connect: whether one succeeded. -/
def connectAttempts (name : String) : Nat → StateM World Bool
  | 0 => pure false
  | attempts + 1 => do
      if ← connectOnce env name then pure true
      else if attempts = 0 then pure false
      else do
        sleep connectRetryDelayMs
        connectAttempts name attempts

/-- The kill switch block after the connection. -/
def rearmKillSwitch (succeeded : Bool) : StateM World Unit := do
  let world ← get
  if succeeded && world.config.killSwitchEnabled &&
      !world.killSwitchIsEnabled then
    enableAndReport env
  else
    pure ()

def finishSwitch : StateM World Unit :=
  modify fun world =>
    { world with
      switchCtx := { world.switchCtx with
        inProgress := false
        target := none
        completedTime := some world.now }
      timing := { world.timing with lastDisconnectTime := none } }

/-- What follows when every attempt has failed. -/
def giveUpSwitch : StateM World Unit := do
  modify fun world =>
    { world with
      switchCtx := { world.switchCtx with
        fromServer := none
        completedTime := none } }
  dispatchAndSync (.connectionFailed
    ("Failed to connect after " ++ toString maxConnectAttempts ++ " attempts"))

/-- Everything between the two kill switch blocks. -/
def switchConnection (name : String) : StateM World Bool := do
  let active ← getAllActiveVpns env
  noteSwitchedFrom (otherVpns name active)
  disconnectOthers env name (otherVpns name active)
  let _ ← getAllActiveVpns env
  dispatchAndSync (.userEnable name)
  connectAttempts env name maxConnectAttempts

/-- `handle_connect`. -/
def handleConnect (name : String) : StateM World Unit := do
  beginSwitch name
  let preConnect ← effectivePreConnect env name
  prepareKillSwitch env preConnect
  let succeeded ← switchConnection env name
  rearmKillSwitch env succeeded
  finishSwitch
  if succeeded then pure () else giveUpSwitch

/-- The kill switch block of a user disconnect. -/
def releaseKillSwitch : StateM World Unit := do
  let world ← get
  if world.killSwitchIsEnabled then do
    let _ ← onKillSwitch (KillSwitch.disable env.fw)
    modifyShared fun shared => { shared with killSwitch := false }
  else
    pure ()

/-- The part of `handle_disconnect` for a state that names a server. -/
def disconnectFrom (name : String) : StateM World Unit := do
  modify fun world =>
    { world with
      timing := { world.timing with
        lastDisconnectTime := some world.now } }
  if ← nmDisconnect env name then do
    releaseKillSwitch env
    dispatchAndSync .userDisable
  else
    pure ()

/-- `handle_disconnect`. -/
def handleDisconnect : StateM World Unit := do
  modifyTiming fun timing => { timing with reconnectCancelled := true }
  let world ← get
  match world.machine.state.serverName with
  | none => pure ()
  | some name => disconnectFrom env name

/-- `toggle_auto_reconnect`. -/
def toggleAutoReconnect : StateM World Unit := do
  let world ← get
  modifyShared fun shared =>
    { shared with autoReconnect := !world.shared.autoReconnect }
  modifyConfig fun config =>
    { config with autoReconnect := !world.shared.autoReconnect }
  saveConfig

/-- The messages for which a failed disable counts as best effort. -/
def bestEffortHints : List String :=
  [ "cache initialization failed",
    "netlink: error",
    "ip_tables",
    "can't initialize iptables table",
    "table does not exist" ]

/-- Whether a failed disable counts as best effort. -/
def isBestEffort : KillSwitchError → Bool
  | .command message => KillSwitch.mentions bestEffortHints message
  | _ => false

def switchKillSwitch (enable : Bool) :
    StateM World (Option KillSwitchError) :=
  onKillSwitch (if enable then KillSwitch.enable env.fw else KillSwitch.disable env.fw)

def storeKillSwitch (enabled : Bool) : StateM World Unit := do
  modifyConfig fun config => { config with killSwitchEnabled := enabled }
  saveConfig

/-- `toggle_kill_switch`. -/
def toggleKillSwitch : StateM World Unit := do
  let world ← get
  let newEnabled := !world.config.killSwitchEnabled
  let result ← switchKillSwitch env newEnabled
  reportKillSwitch
  let after ← get
  match result with
  | none =>
    if after.killSwitchIsEnabled = newEnabled then storeKillSwitch newEnabled
    else pure ()
  | some error =>
    if !newEnabled && isBestEffort error then
      modifyShared fun shared => { shared with killSwitch := false }
    else
      pure ()

/-- `toggle_autostart`. -/
def toggleAutostart : StateM World Unit := do
  let world ← get
  modify fun world =>
    { world with
      asked := { world.asked with autostart := world.asked.autostart + 1 } }
  match env.autostart world.asked.autostart with
  | some enabled => do
      modifyConfig fun config => { config with autoConnect := enabled }
      saveConfig
  | none => pure ()

/-- Ask the event loop to end. -/
def requestExit (reason : String) : StateM World Unit :=
  modify fun world => { world with exitReason := some reason }

/-- `handle_restart`; the kill switch is left alone on purpose. -/
def handleRestart : StateM World Unit := do
  let world ← get
  modify fun world =>
    { world with
      asked := { world.asked with restart := world.asked.restart + 1 } }
  if env.restarts world.asked.restart then do
    sleep 500
    requestExit "Restart"
  else
    pure ()

/-- The cleanup of an enabled kill switch on the way out. -/
def cleanupOnExit : StateM World Unit := do
  let world ← get
  if world.killSwitchIsEnabled then do
    let _ ← onKillSwitch (KillSwitch.cleanupWithFallback env.fw)
    onKillSwitch (KillSwitch.syncState env.fw)
  else
    pure ()

/-- `handle_quit`. -/
def handleQuit : StateM World Unit := do
  cleanupOnExit env
  sleep 300
  requestExit "User quit"

/-- `DnsMode::Tunnel | DnsMode::Strict`. -/
def isSecureDns : DnsMode → Bool
  | .tunnel | .strict => true
  | _ => false

def appliedDnsMode (old new : Config) : DnsMode :=
  if isSecureDns old.dnsMode && !isSecureDns new.dnsMode then old.dnsMode
  else new.dnsMode

def appliedIpv6Mode (old new : Config) : Ipv6Mode :=
  if old.ipv6Mode = .block ∧ new.ipv6Mode ≠ .block then old.ipv6Mode
  else new.ipv6Mode

/-- A flag that a reload must not switch off. -/
def appliedFlag (old new : Bool) : Bool :=
  if old && !new then old else new

/--
`reload_configuration`, given the configuration that is read from the file.
The old configuration is read after the store has been overwritten.
-/
def reloadConfiguration (loaded : Config) : StateM World Unit := do
  modifyConfig fun _ => loaded
  let newConfig := loaded
  let world ← get
  let oldConfig := world.config
  onKillSwitch (KillSwitch.modifyKs fun ks =>
    ks.setConfig (appliedDnsMode oldConfig newConfig)
      (appliedIpv6Mode oldConfig newConfig)
      (appliedFlag oldConfig.blockDoh newConfig.blockDoh)
      newConfig.customDohBlocklist)
  modifyShared fun shared =>
    { shared with
      autoReconnect := appliedFlag oldConfig.autoReconnect newConfig.autoReconnect
      killSwitch :=
        appliedFlag oldConfig.killSwitchEnabled newConfig.killSwitchEnabled }
  syncSharedState

/-- The part of `IpcCommand` that changes the supervisor. -/
inductive IpcCommand where
  | connect (name : String)
  | disconnect
  | switch (name : String)
  | reconnect
  | killSwitch (enable : Bool)
  | killSwitchToggle
  | autoReconnect (enable : Bool)
  | autoReconnectToggle
  | refresh
  | quit
  | restart
  | reload (loaded : Config)

/-- `IpcResponse`, as far as these commands answer. -/
inductive IpcResponse where
  | ok
  | okMessage (message : String)
  | error (message : String)
  deriving Repr, DecidableEq

def enabledText (enabled : Bool) : String :=
  if enabled then "enabled" else "disabled"

/-- `IpcCommand::Reconnect`. -/
def ipcReconnect : StateM World IpcResponse := do
  let world ← get
  match world.shared.state.serverName.or world.config.lastServer with
  | some server => do
      handleConnect env server
      pure .ok
  | none => pure (.error "No VPN to reconnect to")

/-- What `IpcCommand::KillSwitch` does with the result of the call. -/
def answerKillSwitch : Option KillSwitchError → StateM World IpcResponse
  | none => do
      reportKillSwitch
      let world ← get
      storeKillSwitch world.killSwitchIsEnabled
      syncSharedState
      pure (.okMessage ("Kill switch " ++ enabledText world.killSwitchIsEnabled))
  | some error => pure (.error error.text)

/-- `IpcCommand::KillSwitch`. -/
def ipcKillSwitch (enable : Bool) : StateM World IpcResponse := do
  let world ← get
  if world.killSwitchIsEnabled = enable then
    pure (.okMessage ("Kill switch already " ++ enabledText enable))
  else do
    let result ← switchKillSwitch env enable
    answerKillSwitch result

/-- `IpcCommand::Restart`; like `handle_restart`, but without the pause. -/
def ipcRestart : StateM World IpcResponse := do
  let world ← get
  modify fun world =>
    { world with
      asked := { world.asked with restart := world.asked.restart + 1 } }
  if env.restarts world.asked.restart then do
    requestExit "restart"
    pure (.okMessage "Restarting daemon...")
  else
    pure (.error (env.restartFailure world.asked.restart))

/-- `handle_ipc_command`. -/
def handleIpcCommand : IpcCommand → StateM World IpcResponse
  | .connect name => do
      handleConnect env name
      pure .ok
  | .disconnect => do
      handleDisconnect env
      pure .ok
  | .switch name => do
      handleConnect env name
      pure .ok
  | .reconnect => ipcReconnect env
  | .killSwitch enable => ipcKillSwitch env enable
  | .killSwitchToggle => do
      toggleKillSwitch env
      let world ← get
      pure (.okMessage ("Kill switch " ++ enabledText world.shared.killSwitch))
  | .autoReconnect enable => do
      modifyConfig fun config => { config with autoReconnect := enable }
      saveConfig
      syncSharedState
      pure .ok
  | .autoReconnectToggle => do
      toggleAutoReconnect
      let world ← get
      pure (.okMessage ("Auto-reconnect " ++ enabledText world.shared.autoReconnect))
  | .refresh => do
      refreshConnections env
      pure .ok
  | .quit => do
      handleQuit env
      pure .ok
  | .restart => ipcRestart env
  | .reload loaded => do
      reloadConfiguration loaded
      pure (.okMessage "Configuration reloaded successfully")

end Shroud.Supervisor
