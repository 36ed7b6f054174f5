import Shroud.Supervisor

namespace Shroud

/-!
# The configuration file

`Config::validate` with the check of VPN names that the command line has as
well, and the way a configuration is written and read back.  What the `toml`
library does with a text is left open, except that it reads what it has printed.
-/

/-- `ValidationError`. -/
structure ValidationError where
  field : String
  value : String
  message : String
  suggestion : Option String
  deriving Repr, DecidableEq

/-- How a `ValidationError` is printed. -/
def ValidationError.text (error : ValidationError) : String :=
  "Invalid " ++ error.field ++ ": " ++ error.message ++
    match error.suggestion with
    | some suggestion => "\n  Suggestion: " ++ suggestion
    | none => ""

/-- `MAX_VPN_NAME_LENGTH`. -/
def maxVpnNameLength : Nat := 256

/-- `DENIED_CHARS`. -/
def deniedChars : List Char :=
  ";|&$`\\<>!".toList

def vpnNameError {α : Type} (value message : String) :
    Except ValidationError α :=
  .error ⟨"VPN name", value, message, none⟩

/-- `validate_vpn_name`. -/
def validateVpnName (value : String) : Except ValidationError String :=
  let trimmed := Text.trim value.toList
  if trimmed = [] then
    .error ⟨"VPN name", value, "cannot be empty",
      some "Use 'shroud list' to see available VPN connections"⟩
  else if maxVpnNameLength < (String.ofList trimmed).utf8ByteSize then
    vpnNameError (String.ofList (value.toList.take 50) ++ "...")
      ("exceeds maximum length of " ++ toString maxVpnNameLength ++ " characters")
  else if trimmed.contains (Char.ofNat 0) then
    vpnNameError value "cannot contain null bytes"
  else if trimmed.contains '\n' || trimmed.contains '\r' ||
      trimmed.contains '\t' then
    vpnNameError value "cannot contain control characters (newline, carriage return, tab)"
  else if trimmed.any Text.isControl then
    vpnNameError value "cannot contain control characters"
  else if trimmed.contains (Char.ofNat 0x1b) ||
      trimmed.any (fun c => deniedChars.contains c) then
    vpnNameError value
      ("contains potentially dangerous characters (shell metacharacters " ++
        "or escape sequences are not allowed)")
  else
    .ok (String.ofList trimmed)

/-- A name that `validate_vpn_name` accepts. -/
def IsVpnName (name : String) : Prop :=
  (validateVpnName name).isOk = true

instance (name : String) : Decidable (IsVpnName name) :=
  inferInstanceAs (Decidable (_ = true))

namespace Config

def checkLastServer : Option String → Except String Unit
  | some server =>
    match validateVpnName server with
    | .ok _ => .ok ()
    | .error error => .error ("Invalid last_server in config: " ++ error.text)
  | none => .ok ()

def checkInterval (secs : Nat) : Except String Unit :=
  if 0 < secs ∧ secs < 10 then
    .error ("health_check_interval_secs must be 0 (disabled) or >= 10, got " ++ toString secs)
  else if 300 < secs then
    .error ("health_check_interval_secs must be <= 300, got " ++ toString secs)
  else
    .ok ()

def checkThreshold (millis : Nat) : Except String Unit :=
  if millis < 100 ∨ 30000 < millis then
    .error ("health_degraded_threshold_ms must be between 100 and 30000, got " ++ toString millis)
  else
    .ok ()

def checkAttempts (attempts : Nat) : Except String Unit :=
  if 100 < attempts then
    .error ("max_reconnect_attempts must be <= 100, got " ++ toString attempts)
  else
    .ok ()

def checkEndpointsFrom : Nat → List String → Except String Unit
  | _, [] => .ok ()
  | index, endpoint :: rest =>
    if 256 < endpoint.utf8ByteSize then
      .error ("health_check_endpoints[" ++ toString index ++ "] exceeds 256 characters")
    else if "https://".toList.isPrefixOf endpoint.toList then
      checkEndpointsFrom (index + 1) rest
    else
      .error ("health_check_endpoints[" ++ toString index ++
        "] must use https:// scheme: " ++ endpoint)

def checkEndpoints (endpoints : List String) : Except String Unit :=
  if 10 < endpoints.length then
    .error ("health_check_endpoints must have <= 10 entries, got " ++ toString endpoints.length)
  else
    checkEndpointsFrom 0 endpoints

def checkBlocklistFrom : Nat → List String → Except String Unit
  | _, [] => .ok ()
  | index, ip :: rest =>
    match AddressText.parseIpv4? ip with
    | some _ => checkBlocklistFrom (index + 1) rest
    | none =>
      .error ("custom_doh_blocklist[" ++ toString index ++ "] is not a valid IPv4 address: " ++ ip)

def checkExitIp : Option String → Except String Unit
  | some ip =>
    match AddressText.parseIp? ip with
    | some _ => .ok ()
    | none => .error ("expected_exit_ip is not a valid IP address: " ++ ip)
  | none => .ok ()

def validateLimits (config : Config) : Except String Unit := do
  checkInterval config.healthCheckIntervalSecs
  checkThreshold config.healthDegradedThresholdMs
  checkAttempts config.maxReconnectAttempts
  checkEndpoints config.healthCheckEndpoints
  checkBlocklistFrom 0 config.customDohBlocklist
  checkExitIp config.expectedExitIp

/-- `Config::validate`. -/
def validate (config : Config) : Except String Unit := do
  checkLastServer config.lastServer
  config.validateLimits

/-- Every setting but the last server is in its bounds. -/
def InLimits (config : Config) : Prop :=
  config.validateLimits = .ok ()

theorem checkLastServer_eq_ok_iff (lastServer : Option String) :
    checkLastServer lastServer = .ok () ↔
      ∀ server, lastServer = some server → IsVpnName server := by
  cases lastServer with
  | none => simp [checkLastServer]
  | some server =>
    rw [checkLastServer]
    cases checked : validateVpnName server with
    | ok trimmed => simp [IsVpnName, checked, Except.isOk, Except.toBool]
    | error error => simp [IsVpnName, checked, Except.isOk, Except.toBool]

theorem validate_eq_ok_iff (config : Config) :
    config.validate = .ok () ↔
      config.InLimits ∧ ∀ server, config.lastServer = some server → IsVpnName server := by
  rw [← checkLastServer_eq_ok_iff, validate, InLimits]
  cases checkLastServer config.lastServer with
  | error message => simp [bind, Except.bind]
  | ok => simp [bind, Except.bind]

theorem default_validate :
    Config.default.validate = .ok () := by
  decide

end Config

/-- `CONFIG_VERSION`. -/
def configVersion : Nat := 1

/--
The `toml` library, as far as the configuration uses it: a text is parsed to a
value, which has a version and may be migrated before it becomes a
configuration.  What was printed is parsed to what it was printed from.
-/
structure Toml (Text Value : Type) where
  print : Nat → Config → Text
  parse : Text → Option Value
  version : Value → Option Int
  migrate : Nat → Value → Value
  toConfig : Value → Option Config
  roundTrips :
    ∀ number config,
      ∃ value, parse (print number config) = some value ∧
        version value = some (number : Int) ∧ toConfig value = some config

/-- The file as `load` finds it. -/
inductive ConfigFile (Text : Type) where
  | missing
  | unreadable
  | contents (text : Text)

namespace Toml

variable {Text Value : Type} (toml : Toml Text Value)

/-- `save`: the text that is written to the file. -/
def save (config : Config) : Text :=
  toml.print configVersion config

/-- The version of a value; a missing one is 0, and `as u32` wraps around. -/
def valueVersion (value : Value) : Nat :=
  ((toml.version value).getD 0 % 2 ^ 32).toNat

/-- The value as it is converted, migrated if it is from an older version. -/
def migrated (value : Value) : Value :=
  if toml.valueVersion value < configVersion then
    toml.migrate (toml.valueVersion value) value
  else
    value

/-- `parse_and_migrate`: the configuration that it returns. -/
def parseAndMigrate (text : Text) : Config :=
  match toml.parse text with
  | none => .default
  | some value =>
    match toml.toConfig (toml.migrated value) with
    | none => .default
    | some config =>
      match config.validate with
      | .error _ => .default
      | .ok _ => config

/-- `load`. -/
def load : ConfigFile Text → Config
  | .missing => .default
  | .unreadable => .default
  | .contents text => toml.parseAndMigrate text

/-- `load_validated`. -/
def loadValidated (file : ConfigFile Text) : Config :=
  let config := toml.load file
  match config.validate with
  | .error _ => .default
  | .ok _ => config

theorem loadValidated_validate (file : ConfigFile Text) :
    (toml.loadValidated file).validate = .ok () := by
  rw [loadValidated]
  cases validated : (toml.load file).validate with
  | error message => exact Config.default_validate
  | ok => exact validated

theorem parseAndMigrate_save (config : Config) :
    toml.parseAndMigrate (toml.save config) =
      match config.validate with
      | .error _ => .default
      | .ok _ => config := by
  obtain ⟨value, parses, hasVersion, converts⟩ := toml.roundTrips configVersion config
  have current : toml.valueVersion value = configVersion := by
    rw [valueVersion, hasVersion]
    rfl
  have unmigrated : toml.migrated value = value := by
    rw [migrated, current, if_neg (Nat.lt_irrefl _)]
  rw [parseAndMigrate, save, parses]
  dsimp only
  rw [unmigrated, converts]

/-- A configuration that was saved is loaded unchanged exactly if it is valid. -/
theorem loadValidated_save_iff (config : Config) :
    toml.loadValidated (.contents (toml.save config)) = config ↔ config.validate = .ok () := by
  constructor
  · intro unchanged
    rw [← unchanged]
    exact toml.loadValidated_validate _
  · intro valid
    have loaded : toml.load (.contents (toml.save config)) = config := by
      rw [load, parseAndMigrate_save, valid]
    rw [loadValidated, loaded, valid]

end Toml

end Shroud
