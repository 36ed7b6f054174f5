import Shroud.FirewallHost

namespace Shroud

open Netfilter IptablesScript NftRuleset StateProgram

/-!
# The kill switch

The operations of `KillSwitch` as programs over its own state and the host.
Every privileged command goes through `runCommand`; nothing else touches the
firewall.
-/

/-- `KillSwitchError`. -/
inductive KillSwitchError where
  | notFound
  | permission
  | spawn (reason : String)
  | command (message : String)
  | write (reason : String)
  | wait (reason : String)
  deriving Repr, DecidableEq

def KillSwitchError.text : KillSwitchError → String
  | .notFound =>
    "iptables is not available. Install with: sudo apt install iptables"
  | .permission =>
    "Permission denied. Kill switch requires sudo access. " ++
      "Run: ./setup.sh --install-sudoers"
  | .spawn reason => "Failed to spawn iptables process: " ++ reason
  | .command message => "iptables command failed: " ++ message
  | .write reason => "Failed to write to process: " ++ reason
  | .wait reason => "Failed waiting for iptables process: " ++ reason

/-- `FirewallBackend`. -/
inductive FirewallBackend where
  | iptables
  | nftables
  deriving Repr, DecidableEq

/-- `KillSwitch`.  Times are in milliseconds of the host's clock. -/
structure KillSwitch where
  enabled : Bool
  settings : KillSwitchSettings
  backend : FirewallBackend
  useLegacy : Bool
  lastToggleTime : Option Nat
  toggleInProgress : Bool
  deriving Repr, DecidableEq

/-- `KillSwitch::with_config`. -/
def KillSwitch.withConfig
    (dnsMode : DnsMode)
    (ipv6Mode : Ipv6Mode)
    (blockDoh : Bool)
    (customDohBlocklist : List String) :
    KillSwitch where
  enabled := false
  settings := {
    vpnServerIp := none
    dnsMode := dnsMode
    blockDoh := blockDoh
    customDohBlocklist := customDohBlocklist
    ipv6Mode := ipv6Mode }
  backend := .iptables
  useLegacy := false
  lastToggleTime := none
  toggleInProgress := false

/-- `KillSwitch::set_config`. -/
def KillSwitch.setConfig
    (ks : KillSwitch)
    (dnsMode : DnsMode)
    (ipv6Mode : Ipv6Mode)
    (blockDoh : Bool)
    (customDohBlocklist : List String) :
    KillSwitch :=
  { ks with
    settings := {
      vpnServerIp := ks.settings.vpnServerIp
      dnsMode := dnsMode
      blockDoh := blockDoh
      customDohBlocklist := customDohBlocklist
      ipv6Mode := ipv6Mode } }

/-- The kill switch together with the host it runs on. -/
structure KsWorld where
  ks : KillSwitch
  host : Host

namespace KillSwitch

/-- `TOGGLE_COOLDOWN_MS`. -/
def toggleCooldownMs : Nat := 500

def inCooldown (ks : KillSwitch) (now : Nat) : Bool :=
  match ks.lastToggleTime with
  | none => false
  | some lastTime => decide (now - lastTime < toggleCooldownMs)

variable (env : FwEnv)

/-- Run one privileged command. -/
def runCommand (command : FwCommand) : StateM KsWorld Outcome :=
  fun world =>
    (world.host.outcomeOf env command, { world with host := world.host.after env command })

/-- Run a command of which only success matters. -/
def succeeds (command : FwCommand) : StateM KsWorld Bool := do
  let outcome ← runCommand env command
  pure outcome.succeeded

/-- `detect_vpn_endpoints`. -/
def detectVpnEndpoints : StateM KsWorld VpnEndpointScan :=
  fun world =>
    (env.scan world.host.scans,
      { world with
        host := { world.host with
          now := world.host.now + env.scanMillis world.host.scans
          scans := world.host.scans + 1 } })

def modifyKs (change : KillSwitch → KillSwitch) : StateM KsWorld Unit :=
  modify fun world => { world with ks := change world.ks }

/-- Whether a lower-cased text contains one of the patterns. -/
def mentions (patterns : List String) (text : String) : Bool :=
  let lower := Text.toLowercase text.toList
  patterns.any fun pattern => Text.contains pattern.toList lower

/-- `str::trim`. -/
def trimmed (text : String) : String :=
  String.ofList (Text.trim text.toList)

/-- The messages for which the script runner tries the legacy tool. -/
def legacyHints : List String :=
  [ "cache initialization failed",
    "netlink: error",
    "can't initialize iptables table",
    "ip_tables" ]

/-- The messages that `check_sudo_access` takes as an unusable tool. -/
def sudoHints : List String :=
  [ "ip_tables",
    "table does not exist",
    "can't initialize iptables table",
    "cache initialization failed",
    "netlink: error" ]

/-- `should_fallback_to_nft`. -/
def shouldFallbackToNft : KillSwitchError → Bool
  | .command message =>
    mentions
      [ "ip_tables",
        "table does not exist",
        "can't initialize iptables table",
        "cache initialization failed",
        "netlink: error",
        "exit 3",
        "does not exist" ] message
  | .spawn _ => true
  | .notFound => true
  | _ => false

/-- `legacy_variant`: whether the legacy tool can be called. -/
def legacyVariant (tool : Tool) : StateM KsWorld Bool := do
  if ← succeeds env (.legacyVersion tool 0) then pure true
  else succeeds env (.legacyVersion tool 1)

/-- The text of a script line, as it stands in an error. -/
def lineText (tool : Tool) (command : XCommand) : String :=
  env.path tool ++ " " ++ CommandText.commandText command

/-- Error output, or the line itself where there is none. -/
def errorDetail (stderr line : String) : String :=
  if (trimmed stderr).isEmpty then line else trimmed stderr

/-- `SUDO_CMD_TIMEOUT_SECS`. -/
def sudoCmdTimeoutSecs : Nat := 30

/-- The second attempt at a line, with the legacy tool. -/
def runLegacyLine
    (tool : Tool)
    (command : XCommand)
    (stderr : String) :
    StateM KsWorld (Option KillSwitchError) := do
  let line := lineText env tool command
  let failed := KillSwitchError.command
    (errorDetail stderr line ++ " (iptables-nft failed; install iptables-legacy or nftables)")
  if ← legacyVariant env tool then
    let outcome ← runCommand env (.xtables tool .legacy command)
    match outcome with
    | .io _ reason => pure (some (.spawn reason))
    | .timedOut =>
      pure (some (.command
        ("Legacy command timed out after " ++ toString sudoCmdTimeoutSecs ++ "s: " ++ line)))
    | .exited code _ => if code = 0 then pure none else pure (some failed)
  else
    pure (some failed)

/-- The variant with which a line is run at first. -/
def lineVariant (useLegacy : Bool) (tool : Tool) :
    StateM KsWorld Variant := do
  if useLegacy then
    if ← legacyVariant env tool then pure .legacy else pure .default
  else
    pure .default

/-- One line of the script; a result is the error that ends the script. -/
def runScriptLine :
    ScriptLine → StateM KsWorld (Option KillSwitchError)
  | .comment _ => pure none
  | .command tool command ignoreError => do
      let world ← get
      let variant ← lineVariant env world.ks.useLegacy tool
      let line := lineText env tool command
      let outcome ← runCommand env (.xtables tool variant command)
      match outcome with
      | .io _ reason => pure (some (.spawn reason))
      | .timedOut =>
        pure (some (.command
          ("Command timed out after " ++ toString sudoCmdTimeoutSecs ++
            "s (possible sudo prompt or frozen kernel module): " ++
            line)))
      | .exited code stderr =>
        if code = 0 ∨ ignoreError then pure none
        else if code = 126 ∨ code = 127 then pure (some .permission)
        else if mentions legacyHints stderr then
          runLegacyLine env tool command stderr
        else
          pure (some (.command
            ("Command failed (exit " ++ toString code ++ "): " ++ errorDetail stderr line)))

/-- `run_single_script`. -/
def runSingleScript
    (script : List ScriptLine) :
    StateM KsWorld (Option KillSwitchError) :=
  script.findSomeM? (runScriptLine env)

/-- How `check_sudo_access` reads the listing of all rules. -/
def sudoError? : Outcome → Option KillSwitchError
  | .io _ reason => some (.spawn reason)
  | .timedOut => some (.spawn "timed out")
  | .exited code stderr =>
    let failed := KillSwitchError.command ("Sudo check failed: " ++ trimmed stderr)
    if mentions sudoHints stderr then some failed
    else if code = 0 then none
    else if mentions ["permission denied", "password"] stderr then
      some .permission
    else
      some failed

/-- `check_sudo_access`. -/
def checkSudoAccess : StateM KsWorld (Option KillSwitchError) := do
  let outcome ← runCommand env (.listAll .default)
  pure (sudoError? outcome)

/-- `check_iptables_legacy_access`. -/
def checkIptablesLegacyAccess : StateM KsWorld Bool :=
  succeeds env (.listAll .legacy)

/-- `verify_rules_exist`. -/
def verifyRulesExist : StateM KsWorld Bool :=
  succeeds env (.xtables .iptables .default (.check .output jumpRule))

/-- Delete a rule from `OUTPUT`, over and over, until there is none. -/
def deleteDuplicates (tool : Tool) (rule : XRule) : StateM KsWorld Unit :=
  repeatWhile (succeeds env (.xtables tool .default (.delete .output rule))) 100

/-- Flush and delete the kill switch chain of one tool. -/
def removeChain (tool : Tool) : StateM KsWorld Unit := do
  let _ ← runCommand env (.xtables tool .default (.flush .killSwitch))
  let _ ← runCommand env (.xtables tool .default (.deleteChain .killSwitch))
  pure ()

/-- The cleanup after the jumps of `iptables` are gone. -/
def cleanupBehindJumps : StateM KsWorld Unit := do
  removeChain env .iptables
  ipv6OutputRules.forM (deleteDuplicates env .ip6tables)
  deleteDuplicates env .ip6tables jumpRule
  removeChain env .ip6tables
  let _ ← runCommand env .nftDelete
  pure ()

/-- `robust_iptables_cleanup`. -/
def robustIptablesCleanup : StateM KsWorld Unit := do
  deleteDuplicates env .iptables jumpRule
  cleanupBehindJumps env

/-- `nft_is_available`. -/
def nftIsAvailable : StateM KsWorld Bool := do
  if ← succeeds env (.nftVersion 0) then pure true
  else if ← succeeds env (.nftVersion 1) then pure true
  else succeeds env (.nftVersion 2)

/-- How `run_nft` reads the outcome of its command. -/
def nftError? : Outcome → Option KillSwitchError
  | .io .spawn reason => some (.spawn reason)
  | .io .write reason => some (.write reason)
  | .io .wait reason => some (.wait reason)
  | .timedOut => some (.command "nft command timed out after 30s")
  | .exited code stderr =>
    if code = 0 then none else some (.command (trimmed stderr))

/-- `run_nft`. -/
def runNft (command : FwCommand) : StateM KsWorld (Option KillSwitchError) := do
  let outcome ← runCommand env command
  pure (nftError? outcome)

/-- The messages that say that the table is not there. -/
def isAbsentMessage (message : String) : Bool :=
  Text.contains "No such file".toList message.toList ||
    Text.contains "does not exist".toList message.toList

/-- An error that only says that the table is not there is none. -/
def tolerateAbsent : Option KillSwitchError → Option KillSwitchError
  | some (.command message) =>
    if isAbsentMessage message then none else some (.command message)
  | other => other

/-- `cleanup_nft_table`. -/
def cleanupNftTable : StateM KsWorld (Option KillSwitchError) := do
  let result ← runNft env .nftDelete
  pure (tolerateAbsent result)

/-- `verify_nft_rules_exist`. -/
def verifyNftRulesExist : StateM KsWorld Bool :=
  succeeds env .nftList

/-- `enable_nft`. -/
def enableNft (vpnServerIps : List IpAddr) :
    StateM KsWorld (Option KillSwitchError) := do
  let _ ← cleanupNftTable env
  let world ← get
  let rules := buildNftRuleset world.ks.settings vpnServerIps (env.lanSubnets world.host.issued)
  match ← runNft env (.nftLoad rules) with
  | some error => pure (some error)
  | none => do
      modifyKs fun ks => { ks with enabled := true }
      pure none

/-- `disable_nft`. -/
def disableNft : StateM KsWorld (Option KillSwitchError) :=
  cleanupNftTable env

/-- `select_backend`. -/
def selectBackend : StateM KsWorld (Except KillSwitchError FirewallBackend) := do
  if ← nftIsAvailable env then pure (.ok .nftables)
  else
    match ← checkSudoAccess env with
    | none => pure (.ok .iptables)
    | some error =>
      if shouldFallbackToNft error then
        if ← checkIptablesLegacyAccess env then do
          modifyKs fun ks => { ks with useLegacy := true }
          pure (.ok .iptables)
        else
          pure (.error error)
      else
        pure (.error error)

def rulesExist (backend : FirewallBackend) : StateM KsWorld Bool :=
  match backend with
  | .iptables => verifyRulesExist env
  | .nftables => verifyNftRulesExist env

def currentScript (world : KsWorld) (vpnServerIps : List IpAddr) :
    List ScriptLine :=
  buildCompleteScript world.ks.settings vpnServerIps
    (env.lanSubnets world.host.issued)
    (env.lanSubnets6 world.host.issued)

/--
The iptables branch of `enable_inner`: a failed script is rolled back, and
the failure may lead over to nftables.
-/
def enableIptables (vpnServerIps : List IpAddr) :
    StateM KsWorld (Option KillSwitchError) := do
  let world ← get
  match ← runSingleScript env (currentScript env world vpnServerIps) with
  | none => pure none
  | some error =>
    if shouldFallbackToNft error then
      if ← nftIsAvailable env then do
        robustIptablesCleanup env
        modifyKs fun ks => { ks with backend := .nftables }
        enableNft env vpnServerIps
      else do
        robustIptablesCleanup env
        pure (some error)
    else do
      robustIptablesCleanup env
      pure (some error)

def enableBackend (backend : FirewallBackend) (vpnServerIps : List IpAddr) :
    StateM KsWorld (Option KillSwitchError) :=
  match backend with
  | .iptables => enableIptables env vpnServerIps
  | .nftables => enableNft env vpnServerIps

/-- The part of `enable_inner` that changes the firewall. -/
def install : StateM KsWorld (Option KillSwitchError) := do
  let world ← get
  modifyKs fun ks => { ks with lastToggleTime := some world.host.now }
  robustIptablesCleanup env
  let scan ← detectVpnEndpoints env
  match ← selectBackend env with
  | .error error => pure (some error)
  | .ok backend => do
      modifyKs fun ks => { ks with backend := backend }
      match ← enableBackend env backend scan.ips with
      | some error => pure (some error)
      | none => do
          modifyKs fun ks => { ks with enabled := true }
          pure none

/-- `enable_inner`. -/
def enableInner : StateM KsWorld (Option KillSwitchError) := do
  let world ← get
  if world.ks.inCooldown world.host.now then pure none
  else if world.ks.enabled then
    if ← rulesExist env world.ks.backend then pure none
    else install env
  else
    install env

/-- Run a toggle unless one is already going on. -/
def guardToggle
    (toggle : StateM KsWorld (Option KillSwitchError)) :
    StateM KsWorld (Option KillSwitchError) := do
  let world ← get
  if world.ks.toggleInProgress then pure none
  else do
    modifyKs fun ks => { ks with toggleInProgress := true }
    let result ← toggle
    modifyKs fun ks => { ks with toggleInProgress := false }
    pure result

/-- `enable`; a result is the error it returns. -/
def enable : StateM KsWorld (Option KillSwitchError) :=
  guardToggle (enableInner env)

/-- Remove the rules of the current backend and report them gone. -/
def removeRules : StateM KsWorld (Option KillSwitchError) := do
  let world ← get
  match world.ks.backend with
  | .iptables => do
      robustIptablesCleanup env
      modifyKs fun ks => { ks with enabled := false }
      pure none
  | .nftables =>
    match ← disableNft env with
    | some error => pure (some error)
    | none => do
        modifyKs fun ks => { ks with enabled := false }
        pure none

/-- What `disable_inner` does when `iptables` cannot be used. -/
def disableWithoutIptables (error : KillSwitchError) :
    StateM KsWorld (Option KillSwitchError) := do
  if error = .permission then pure (some error)
  else if shouldFallbackToNft error then
    if ← checkIptablesLegacyAccess env then do
      modifyKs fun ks => { ks with useLegacy := true }
      removeRules env
    else if ← nftIsAvailable env then do
      modifyKs fun ks => { ks with backend := .nftables }
      removeRules env
    else
      removeRules env
  else
    removeRules env

/-- The part of `disable_inner` that changes the firewall. -/
def uninstall : StateM KsWorld (Option KillSwitchError) := do
  let world ← get
  modifyKs fun ks => { ks with lastToggleTime := some world.host.now }
  match world.ks.backend with
  | .nftables => removeRules env
  | .iptables =>
    match ← checkSudoAccess env with
    | none => removeRules env
    | some error => disableWithoutIptables env error

/-- `disable_inner`. -/
def disableInner : StateM KsWorld (Option KillSwitchError) := do
  let world ← get
  if world.ks.inCooldown world.host.now then pure none
  else uninstall env

/-- `disable`; a result is the error it returns. -/
def disable : StateM KsWorld (Option KillSwitchError) :=
  guardToggle (disableInner env)

/-- `update`. -/
def update : StateM KsWorld (Option KillSwitchError) := do
  let world ← get
  if world.ks.enabled then
    match world.ks.backend with
    | .iptables =>
      match ← disable env with
      | some error => pure (some error)
      | none => enable env
    | .nftables => do
        let scan ← detectVpnEndpoints env
        enableNft env scan.ips
  else
    pure none

/-- `probe_order`. -/
def probeOrder (ks : KillSwitch) : List FirewallBackend :=
  match ks.backend with
  | .nftables => [.nftables, .iptables]
  | .iptables => [.iptables, .nftables]

/-- `detect_active_backend`. -/
def detectActiveBackend : StateM KsWorld (Option FirewallBackend) := do
  let world ← get
  (probeOrder world.ks).findSomeM? fun backend => do
    if ← rulesExist env backend then pure (some backend) else pure none

/-- `sync_state`. -/
def syncState : StateM KsWorld Unit := do
  match ← detectActiveBackend env with
  | some backend =>
    modifyKs fun ks => { ks with backend := backend, enabled := true }
  | none => modifyKs fun ks => { ks with enabled := false }

end KillSwitch

end Shroud
