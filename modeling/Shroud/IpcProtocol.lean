import Shroud.ConfigFile
import Shroud.ExitPrompt

namespace Shroud.Ipc

open Supervisor

/-!
# The commands of the socket and the answers that change nothing

A status is answered by the server of the socket itself, or by the supervisor.
A list of the connections is filtered by the supervisor, after the server has
checked the filter.
-/

/-- `IpcCommand`. -/
inductive Command where
  | hello (version : Nat)
  | version
  | connect (name : String)
  | disconnect
  | switch (name : String)
  | status
  | list (vpnType : Option String)
  | reconnect
  | killSwitch (enable : Bool)
  | killSwitchToggle
  | killSwitchStatus
  | autoReconnect (enable : Bool)
  | autoReconnectToggle
  | autoReconnectStatus
  | debug (enable : Bool)
  | debugLogPath
  | debugDump
  | ping
  | refresh
  | quit
  | restart
  | reload
  deriving Repr, DecidableEq

/-- `VpnConnectionInfo`. -/
structure ConnectionInfo where
  name : String
  vpnType : String
  status : String
  deriving Repr, DecidableEq

/-- The fields of `IpcResponse::Status`. -/
structure Status where
  connected : Bool
  vpnName : Option String
  vpnType : Option String
  state : String
  killSwitchEnabled : Bool
  deriving Repr, DecidableEq

/-- `IpcResponse`, as far as a status and a list are answered with it. -/
inductive Response where
  | status (status : Status)
  | connections (connections : List ConnectionInfo)
  | killSwitchStatus (enabled : Bool)
  | autoReconnectStatus (enabled : Bool)
  | pong
  deriving Repr, DecidableEq

/--
`to_lowercase`; outside of ASCII it yields none of the letters that a filter is
compared with.
-/
def toLowercase (text : String) : String :=
  String.ofList (Text.toLowercase text.toList)

def validateName (name : String) : Except String Unit :=
  match validateVpnName name with
  | .ok _ => .ok ()
  | .error error => .error error.text

/-- `IpcCommand::validate`. -/
def Command.validate : Command → Except String Unit
  | .connect name => validateName name
  | .switch name => validateName name
  | .list (some value) =>
    let normalized := toLowercase value
    if normalized ≠ "wireguard" ∧ normalized ≠ "openvpn" ∧
        normalized ≠ "all" then
      .error "Invalid VPN type filter"
    else .ok ()
  | .hello number =>
    if number = 0 then .error "Invalid protocol version" else .ok ()
  | _ => .ok ()

/-- `VpnType`. -/
inductive VpnType where
  | wireGuard
  | openVpn
  | unknown
  deriving Repr, DecidableEq

def VpnType.text : VpnType → String
  | .wireGuard => "wireguard"
  | .openVpn => "openvpn"
  | .unknown => "unknown"

/-- `VpnState::name`. -/
def stateName : VpnState → String
  | .disconnected => "Disconnected"
  | .connecting _ => "Connecting"
  | .connected _ => "Connected"
  | .degraded _ => "Degraded"
  | .reconnecting _ _ _ => "Reconnecting"
  | .failed _ _ => "Failed"

section Answers

variable (getVpnType : String → VpnType)

/-- `serve_read_only`: what the server of the socket answers itself. -/
def serveReadOnly (shared : SharedState) : Command → Option Response
  | .ping => some .pong
  | .killSwitchStatus => some (.killSwitchStatus shared.killSwitch)
  | .autoReconnectStatus => some (.autoReconnectStatus shared.autoReconnect)
  | .status =>
    let vpnName := shared.state.serverName
    let vpnType :=
      match vpnName with
      | some name => some (getVpnType name).text
      | none => none
    some (.status
      { connected := vpnName.isSome
        vpnName := vpnName
        vpnType := vpnType
        state := stateName shared.state
        killSwitchEnabled := shared.killSwitch })
  | _ => none

/-- The branch of `handle_ipc_command` for a status. -/
def ipcStatus (shared : SharedState) : Response :=
  .status
    { connected := shared.state.serverName.isSome
      vpnName := shared.state.serverName
      vpnType :=
        match shared.state.serverName with
        | some name => some (getVpnType name).text
        | none => none
      state := stateName shared.state
      killSwitchEnabled := shared.killSwitch }

/-- Both paths give one answer, and it is connected if the state is. -/
def StatusIsTrue (shared : SharedState) : Prop :=
  ∃ status,
    serveReadOnly getVpnType shared .status = some (.status status) ∧
      ipcStatus getVpnType shared = .status status ∧
        (status.connected = true ↔ shared.state.isUp = true)

/-- A server is named, and no VPN is up yet or any more. -/
def isPending (state : VpnState) : Bool :=
  state.serverName.isSome && !state.isUp

/-- The two paths agree, and tell the truth about every other state. -/
theorem status_is_true_iff (world : World) :
    StatusIsTrue getVpnType world.shared ↔ isPending world.shared.state = false := by
  have same :
      StatusIsTrue getVpnType world.shared ↔
        (world.shared.state.serverName.isSome = true ↔ world.shared.state.isUp = true) := by
    constructor
    · rintro ⟨status, served, -, truthful⟩
      obtain rfl := Response.status.inj (Option.some.inj served)
      exact truthful
    · exact fun truthful => ⟨_, rfl, rfl, truthful⟩
  rw [same, isPending]
  cases world.shared.state <;>
    simp [VpnState.serverName, VpnState.isUp, VpnState.isConnected, VpnState.isDegraded]

end Answers

/-- A failed connection is reported as connected, on both paths. -/
theorem failed_is_connected :
    ¬ StatusIsTrue (fun _ => .openVpn)
      (runLoop (deafEnv fun _ => [])
        [.loopEvent (.trayCommand .toggleAutoReconnect),
          .dbusEvent (.vpnFailed "berlin" "no route")]
        (deafStart fun _ => [])).shared := by
  rintro ⟨status, served, -, truthful⟩
  obtain rfl := Response.status.inj (Option.some.inj served)
  exact Bool.noConfusion (truthful.mp rfl)

/-- `VpnConnection`, without its UUID. -/
structure VpnConnection where
  name : String
  vpnType : VpnType
  deriving Repr, DecidableEq

section Lists

variable
  (filter : String)
  (active : List ActiveVpnInfo)
  (connections : List VpnConnection)

def entryOf (conn : VpnConnection) : ConnectionInfo where
  name := conn.name
  vpnType := conn.vpnType.text
  status :=
    if active.any (fun vpn => vpn.name == conn.name) then "connected"
    else "available"

/-- The branch of `handle_ipc_command` for a list. -/
def ipcList (vpnType : Option String) : Response :=
  .connections
    (connections.filterMap fun conn =>
      match vpnType with
      | some filter =>
        if filter ≠ conn.vpnType.text then none
        else some (entryOf active conn)
      | none => some (entryOf active conn))

/-- What a filter asks for, whatever its case. -/
def IsWanted (conn : VpnConnection) : Prop :=
  toLowercase filter = "all" ∨ toLowercase conn.vpnType.text = toLowercase filter

instance : DecidablePred (IsWanted filter) :=
  fun _ => inferInstanceAs (Decidable (_ ∨ _))

/-- The answer that a filter asks for. -/
def wantedList : Response :=
  .connections ((connections.filter fun conn => decide (IsWanted filter conn)).map (entryOf active))

variable {filter} {active} {connections}

theorem toLowercase_text (vpnType : VpnType) :
    toLowercase vpnType.text = vpnType.text := by
  cases vpnType <;> decide

/-- A filter that is a type, as types are written. -/
def isPlain (filter : String) : Prop :=
  filter = "wireguard" ∨ filter = "openvpn"

theorem ipcList_plain (plain : isPlain filter) :
    ipcList active connections (some filter) = wantedList filter active connections := by
  have lower : toLowercase filter = filter ∧ filter ≠ "all" := by
    rcases plain with rfl | rfl <;> decide
  have wanted (conn : VpnConnection) : IsWanted filter conn ↔ filter = conn.vpnType.text := by
    rw [IsWanted, lower.1, or_iff_right lower.2, toLowercase_text, eq_comm]
  rw [ipcList, wantedList, ← List.filterMap_eq_map, List.filterMap_filter]
  refine congrArg Response.connections (List.filterMap_congr ?_)
  intro conn _
  by_cases same : filter = conn.vpnType.text
  · rw [decide_eq_true ((wanted conn).mpr same), if_pos rfl]
    exact if_neg (not_not_intro same)
  · simp [wanted, same]

theorem ipcList_odd
    (accepted : (Command.list (some filter)).validate = .ok ())
    (odd : ¬ isPlain filter) :
    ipcList active connections (some filter) = .connections [] := by
  rw [ipcList, Response.connections.injEq, List.filterMap_eq_nil_iff]
  intro conn _
  refine if_pos ?_
  rintro rfl
  cases type : conn.vpnType with
  | wireGuard => exact odd (.inl (congrArg VpnType.text type))
  | openVpn => exact odd (.inr (congrArg VpnType.text type))
  | unknown =>
    rw [type] at accepted
    exact absurd accepted (by decide)

/--
A list honours an accepted filter if and only if the filter is spelled as the
types are, or there is nothing to list.
-/
theorem list_honours_filter_iff
    (accepted : (Command.list (some filter)).validate = .ok ()) :
    ipcList active connections (some filter) =
        wantedList filter active connections ↔
      isPlain filter ∨ ∀ conn ∈ connections, ¬ IsWanted filter conn := by
  by_cases plain : isPlain filter
  · exact iff_of_true (ipcList_plain plain) (.inl plain)
  · rw [ipcList_odd accepted plain, or_iff_right plain, wantedList,
      Response.connections.injEq, eq_comm, List.map_eq_nil_iff,
      List.filter_eq_nil_iff]
    simp only [decide_eq_true_eq]

end Lists

/-- A filter that asks for everything is accepted, and nothing is listed. -/
theorem all_lists_nothing :
    (Command.list (some "all")).validate = .ok () ∧
      ipcList [] [⟨"berlin", .openVpn⟩] (some "all") ≠
        wantedList "all" [] [⟨"berlin", .openVpn⟩] := by
  decide

theorem list_honours_filter_wireguard :
    ipcList [] [⟨"berlin", .openVpn⟩, ⟨"paris", .wireGuard⟩] (some "wireguard") =
      wantedList "wireguard" [] [⟨"berlin", .openVpn⟩, ⟨"paris", .wireGuard⟩] :=
  (list_honours_filter_iff (by decide)).mpr (.inl (.inl rfl))

end Shroud.Ipc
