import Shroud.Text

namespace Shroud

/-!
# The client of NetworkManager

Every question to NetworkManager is one run of `nmcli`.  A run that cannot be
started, overruns its time or exits with an error has no output, and each
question turns that into an answer of its own type: nothing, or an empty list.
-/

/-- `NmVpnState`. -/
inductive NmVpnState where
  | activating
  | activated
  | deactivating
  | inactive
  deriving Repr, DecidableEq

/-- `ActiveVpnInfo`. -/
structure ActiveVpnInfo where
  name : String
  state : NmVpnState
  deriving Repr, DecidableEq

namespace NmClient

/-- `is_vpn_connection_type`. -/
def isVpnConnectionType (connType : List Char) : Bool :=
  connType == "vpn".toList || connType == "wireguard".toList

/-- `parse_vpn_state`. -/
def parseVpnState (state : List Char) : Option NmVpnState :=
  if state = "activated".toList then some .activated
  else if state = "activating".toList then some .activating
  else if state = "deactivating".toList then some .deactivating
  else none

/-- The VPN of one line `NAME:TYPE:STATE`, whose name may contain colons. -/
def parseActiveLine (line : List Char) : Option ActiveVpnInfo := do
  let (rest, state) ← Text.rsplitOnce? ':' line
  let (name, connType) ← Text.rsplitOnce? ':' rest
  if isVpnConnectionType connType then
    let vpnState ← parseVpnState state
    pure ⟨String.ofList name, vpnState⟩
  else
    none

/-- `parse_active_vpns`. -/
def parseActiveVpns (stdout : String) : List ActiveVpnInfo :=
  (Text.lines stdout.toList).filterMap parseActiveLine

/-- `parse_vpn_connections`. -/
def parseVpnConnections (stdout : String) : List String :=
  (Text.lines stdout.toList).filterMap fun line =>
    match Text.rsplitOnce? ':' line with
    | some (name, connType) =>
      if isVpnConnectionType connType then some (String.ofList name)
      else none
    | none => none

def firstIn (state : NmVpnState) (vpns : List ActiveVpnInfo) :
    Option ActiveVpnInfo :=
  vpns.find? fun vpn => vpn.state == state

/-- `select_best_vpn`. -/
def selectBestVpn (vpns : List ActiveVpnInfo) : Option ActiveVpnInfo :=
  (firstIn .activated vpns).or ((firstIn .activating vpns).or (firstIn .deactivating vpns))

/-- How a run of `nmcli` ends. -/
inductive NmcliRun where
  | spawnFailed
  | timedOut
  | exited (success : Bool) (stdout : String)
  deriving Repr, DecidableEq

/-- The run could not be started, took too long or exited with an error. -/
def NmcliRun.failed : NmcliRun → Bool
  | .spawnFailed => true
  | .timedOut => true
  | .exited success _ => !success

/-- `run_nmcli`: the output of a run that exits with success. -/
def runNmcli : NmcliRun → Option String
  | .spawnFailed => none
  | .timedOut => none
  | .exited success stdout => if success then some stdout else none

/-- `get_active_vpn_with_state`. -/
def getActiveVpnWithState (run : NmcliRun) : Option ActiveVpnInfo :=
  (runNmcli run).bind fun stdout => selectBestVpn (parseActiveVpns stdout)

/-- `get_active_vpn`. -/
def getActiveVpn (run : NmcliRun) : Option String :=
  ((getActiveVpnWithState run).filter fun info =>
    info.state == .activated).map (·.name)

/-- `get_all_active_vpns`. -/
def getAllActiveVpns (run : NmcliRun) : List ActiveVpnInfo :=
  match runNmcli run with
  | some stdout => parseActiveVpns stdout
  | none => []

/-- `get_vpn_state`. -/
def getVpnState (run : NmcliRun) (name : String) : Option NmVpnState :=
  (runNmcli run).bind fun stdout =>
    ((parseActiveVpns stdout).find? fun vpn => vpn.name == name).map (·.state)

/-- `list_vpn_connections`. -/
def listVpnConnections (run : NmcliRun) : List String :=
  match runNmcli run with
  | some stdout => parseVpnConnections stdout
  | none => []

theorem runNmcli_eq_none_iff (run : NmcliRun) :
    runNmcli run = none ↔ run.failed = true := by
  cases run with
  | exited success stdout => cases success <;> simp [runNmcli, NmcliRun.failed]
  | _ => simp [runNmcli, NmcliRun.failed]

theorem getActiveVpnWithState_eq (run : NmcliRun) :
    getActiveVpnWithState run = selectBestVpn (getAllActiveVpns run) := by
  rw [getActiveVpnWithState, getAllActiveVpns]
  cases runNmcli run <;> rfl

theorem selectBestVpn_mem
    {vpns : List ActiveVpnInfo}
    {best : ActiveVpnInfo}
    (selected : selectBestVpn vpns = some best) :
    best ∈ vpns := by
  rw [selectBestVpn, Option.or_eq_some_iff, Option.or_eq_some_iff] at selected
  rcases selected with found | ⟨-, found | ⟨-, found⟩⟩
  · exact List.mem_of_find?_eq_some found
  · exact List.mem_of_find?_eq_some found
  · exact List.mem_of_find?_eq_some found

theorem selectBestVpn_of_activated
    {vpns : List ActiveVpnInfo}
    {name : String}
    (one : vpns.filter (fun vpn => vpn.state == .activated) = [⟨name, .activated⟩]) :
    selectBestVpn vpns = some ⟨name, .activated⟩ := by
  have first : firstIn .activated vpns = some ⟨name, .activated⟩ := by
    rw [firstIn, ← List.head?_filter, one]
    rfl
  rw [selectBestVpn, first]
  rfl

theorem getActiveVpn_of_activated
    {run : NmcliRun}
    {name : String}
    (best : selectBestVpn (getAllActiveVpns run) = some ⟨name, .activated⟩) :
    getActiveVpn run = some name := by
  rw [getActiveVpn, getActiveVpnWithState_eq, best]
  rfl

section Failed

variable {run : NmcliRun}

theorem getActiveVpnWithState_of_failed (failed : run.failed = true) :
    getActiveVpnWithState run = none := by
  rw [getActiveVpnWithState, (runNmcli_eq_none_iff run).mpr failed]
  rfl

theorem getActiveVpn_of_failed (failed : run.failed = true) :
    getActiveVpn run = none := by
  rw [getActiveVpn, getActiveVpnWithState_of_failed failed]
  rfl

theorem getAllActiveVpns_of_failed (failed : run.failed = true) :
    getAllActiveVpns run = [] := by
  rw [getAllActiveVpns, (runNmcli_eq_none_iff run).mpr failed]

end Failed

end NmClient

end Shroud
