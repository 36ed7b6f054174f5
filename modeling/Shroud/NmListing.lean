import Shroud.IpcProtocol
import Shroud.TextSearch

namespace Shroud.NmClient

/-!
# Listings of connections

`nmcli -t` prints one connection a line, with a colon between two fields.  The
daemon reads four listings of this kind, each split from the ends where the
fields without colons stand, so that all of them find the same printed names.
What `nmcli` prints for a colon or a backslash in a name is taken for the name
itself.
-/

/-- `str::rsplitn`: the last piece first, and at most `count` pieces. -/
def rsplitn (separator : Char) : Nat → List Char → List (List Char)
  | 0, _ => []
  | 1, text => [text]
  | count + 2, text =>
    match Text.rsplitOnce? separator text with
    | some (front, back) => back :: rsplitn separator (count + 1) front
    | none => [text]

/-- `VpnConnection`. -/
structure ListedVpn extends Ipc.VpnConnection where
  uuid : String
  deriving Repr, DecidableEq

/-- The VPN of one line `NAME:TYPE:UUID`. -/
def parseTypedLine (line : List Char) : Option ListedVpn :=
  match rsplitn ':' 3 line with
  | uuid :: connType :: name :: _ =>
    if connType = "wireguard".toList then
      some ⟨⟨String.ofList name, .wireGuard⟩, String.ofList uuid⟩
    else if connType = "vpn".toList then
      some ⟨⟨String.ofList name, .openVpn⟩, String.ofList uuid⟩
    else
      none
  | _ => none

/-- `list_vpn_connections_with_types`, from the output of `nmcli` on. -/
def listVpnConnectionsWithTypes (stdout : String) : List ListedVpn :=
  (Text.lines stdout.toList).filterMap parseTypedLine

/-- The UUID of one line `UUID:NAME:TYPE`, if it is that of the VPN. -/
def parseUuidLine (connectionName : String) (line : List Char) : Option String := do
  let (uuid, rest) ← Text.splitOnce? ':' line
  let (name, connType) ← Text.rsplitOnce? ':' rest
  if isVpnConnectionType connType && String.ofList name == connectionName then
    some (String.ofList uuid)
  else
    none

/-- `parse_vpn_uuid`. -/
def parseVpnUuid (stdout connectionName : String) : Option String :=
  (Text.lines stdout.toList).findSome? (parseUuidLine connectionName)

/-- A part of one line without a colon. -/
structure IsField (text : List Char) : Prop where
  noColon : ':' ∉ text
  oneLine : '\n' ∉ text
  noReturn : '\r' ∉ text

/-- A connection: a name of any characters on one line, and three fields. -/
structure Record where
  name : List Char
  connType : List Char
  state : List Char
  uuid : List Char
  oneLine : '\n' ∉ name
  typeField : IsField connType
  stateField : IsField state
  uuidField : IsField uuid

namespace Record

variable (record : Record)

def printedName : String := String.ofList record.name

def isVpn : Bool := isVpnConnectionType record.connType

/-- The state is one of those that `parse_vpn_state` knows. -/
def isActive : Bool := (parseVpnState record.state).isSome

/-- A line of `-f NAME,TYPE`. -/
def nameType : List Char := record.name ++ ':' :: record.connType

/-- A line of `-f NAME,TYPE,STATE`. -/
def nameTypeState : List Char := record.nameType ++ ':' :: record.state

/-- A line of `-f NAME,TYPE,UUID`. -/
def nameTypeUuid : List Char := record.nameType ++ ':' :: record.uuid

/-- A line of `-f UUID,NAME,TYPE`. -/
def uuidNameType : List Char := record.uuid ++ ':' :: record.nameType

end Record

/-- What `nmcli` prints for some connections. -/
def listing (line : Record → List Char) (records : List Record) : String :=
  String.ofList (Text.unlines (records.map line))

theorem nameType_oneLine (record : Record) :
    '\n' ∉ record.nameType := by
  simp [Record.nameType, record.oneLine, record.typeField.oneLine]

/-- A line that ends with a field is read as it is. -/
theorem lines_listing
    {front field : Record → List Char}
    (oneLine : ∀ record, '\n' ∉ front record)
    (isField : ∀ record, IsField (field record))
    (records : List Record) :
    Text.lines (listing (fun record => front record ++ ':' :: field record) records).toList =
      records.map fun record => front record ++ ':' :: field record := by
  rw [listing, String.toList_ofList]
  apply Text.lines_unlines
  intro line member
  obtain ⟨record, -, rfl⟩ := List.mem_map.mp member
  refine ⟨?_, ?_⟩
  · simp [oneLine, (isField record).oneLine]
  · intro last
    rw [List.getLast?_append_of_ne_nil _ (List.cons_ne_nil _ _)] at last
    have inField := List.mem_of_getLast? last
    simp [(isField record).noReturn] at inField

theorem parseActiveLine_nameTypeState (record : Record) :
    parseActiveLine record.nameTypeState =
      if record.isVpn then
        (parseVpnState record.state).map fun state => ⟨record.printedName, state⟩
      else none := by
  rw [parseActiveLine, Record.nameTypeState, Text.rsplitOnce?_append record.stateField.noColon]
  dsimp only [Option.bind_eq_bind, Option.bind_some]
  rw [Record.nameType, Text.rsplitOnce?_append record.typeField.noColon, Option.map_eq_bind]
  rfl

theorem isVpnConnectionType_iff {connType : List Char} :
    isVpnConnectionType connType = true ↔
      connType = "wireguard".toList ∨ connType = "vpn".toList := by
  rw [isVpnConnectionType, Bool.or_eq_true, beq_iff_eq, beq_iff_eq, or_comm]

theorem parseTypedLine_nameTypeUuid (record : Record) :
    (parseTypedLine record.nameTypeUuid).map (·.name) =
      if record.isVpn then some record.printedName else none := by
  have pieces :
      rsplitn ':' 3 record.nameTypeUuid = [record.uuid, record.connType, record.name] := by
    rw [rsplitn, Record.nameTypeUuid, Text.rsplitOnce?_append record.uuidField.noColon]
    dsimp only
    rw [rsplitn, Record.nameType, Text.rsplitOnce?_append record.typeField.noColon]
    rfl
  rw [parseTypedLine, pieces, Record.isVpn]
  dsimp only
  by_cases wireGuard : record.connType = "wireguard".toList
  · rw [if_pos wireGuard, if_pos (isVpnConnectionType_iff.mpr (.inl wireGuard))]
    rfl
  · rw [if_neg wireGuard]
    by_cases openVpn : record.connType = "vpn".toList
    · rw [if_pos openVpn, if_pos (isVpnConnectionType_iff.mpr (.inr openVpn))]
      rfl
    · rw [if_neg openVpn, if_neg (mt isVpnConnectionType_iff.mp (not_or.mpr ⟨wireGuard, openVpn⟩))]
      rfl

theorem parseUuidLine_uuidNameType
    (name : String)
    (record : Record) :
    parseUuidLine name record.uuidNameType =
      if record.isVpn && record.printedName == name then some (String.ofList record.uuid)
      else none := by
  rw [parseUuidLine, Record.uuidNameType, Text.splitOnce?_append record.uuidField.noColon]
  dsimp only [Option.bind_eq_bind, Option.bind_some]
  rw [Record.nameType, Text.rsplitOnce?_append record.typeField.noColon]
  rfl

section Guarded

variable {α β : Type} (isKept : α → Bool) (image : α → β) (list : List α)

theorem filterMap_guarded :
    (list.filterMap fun item => if isKept item then some (image item) else none) =
      (list.filter isKept).map image := by
  induction list with
  | nil => rfl
  | cons item list ih =>
    cases kept : isKept item with
    | true => simp [kept, ih]
    | false => simp [kept, ih]

theorem findSome?_guarded :
    (list.findSome? fun item => if isKept item then some (image item) else none) =
      (list.find? isKept).map image := by
  induction list with
  | nil => rfl
  | cons item list ih =>
    cases kept : isKept item with
    | true => simp [kept]
    | false => simp [kept, ih]

end Guarded

/-- What the four readers find, in terms of the printed connections. -/
structure ReadsVpns (records vpns : List Record) : Prop where
  names : parseVpnConnections (listing Record.nameType records) = vpns.map Record.printedName
  active :
    (parseActiveVpns (listing Record.nameTypeState records)).map (·.name) =
      (vpns.filter Record.isActive).map Record.printedName
  typed :
    (listVpnConnectionsWithTypes (listing Record.nameTypeUuid records)).map (·.name) =
      vpns.map Record.printedName
  uuids :
    ∀ name,
      parseVpnUuid (listing Record.uuidNameType records) name =
        (vpns.find? fun record => record.printedName == name).map fun record =>
          String.ofList record.uuid

theorem readsVpns (records : List Record) :
    ReadsVpns records (records.filter Record.isVpn) := by
  have namesRead := lines_listing Record.oneLine Record.typeField records
  have activeRead := lines_listing nameType_oneLine Record.stateField records
  have typedRead := lines_listing nameType_oneLine Record.uuidField records
  have uuidsRead :
      Text.lines (listing Record.uuidNameType records).toList =
        records.map Record.uuidNameType := by
    have joined :
        (fun record : Record => (record.uuid ++ ':' :: record.name) ++ ':' :: record.connType) =
          Record.uuidNameType :=
      funext fun record => List.append_assoc record.uuid (':' :: record.name) _
    rw [← joined]
    refine lines_listing (fun record => ?_) Record.typeField records
    simp [record.uuidField.oneLine, record.oneLine]
  refine ⟨?_, ?_, ?_, ?_⟩
  · rw [← filterMap_guarded]
    refine (congrArg (List.filterMap _) namesRead).trans ?_
    rw [List.filterMap_map]
    refine congrArg (List.filterMap · records) (funext fun record => ?_)
    simp only [Function.comp_apply, Text.rsplitOnce?_append record.typeField.noColon]
    rfl
  · rw [List.filter_filter, ← filterMap_guarded]
    refine (congrArg (fun lines => (List.filterMap _ lines).map _) activeRead).trans ?_
    rw [List.filterMap_map, List.map_filterMap]
    refine congrArg (List.filterMap · records) (funext fun record => ?_)
    refine (congrArg (Option.map _) (parseActiveLine_nameTypeState record)).trans ?_
    rw [Record.isActive]
    cases record.isVpn with
    | false => cases parseVpnState record.state <;> rfl
    | true => cases parseVpnState record.state <;> rfl
  · rw [← filterMap_guarded]
    refine (congrArg (fun lines => (List.filterMap _ lines).map _) typedRead).trans ?_
    rw [List.filterMap_map, List.map_filterMap]
    exact congrArg (List.filterMap · records) (funext parseTypedLine_nameTypeUuid)
  · intro name
    rw [List.find?_filter, parseVpnUuid, uuidsRead, List.findSome?_map, ← findSome?_guarded]
    refine congrArg (List.findSome? · records) (funext fun record => ?_)
    exact (parseUuidLine_uuidNameType name record).trans (by simp)

/--
The names that the four readers find are the same printed ones, for the same
connections, and each is found among the UUIDs.
-/
theorem listings_agree (records : List Record) :
    ReadsVpns records (records.filter Record.isVpn) ∧
      ∀ name ∈ parseVpnConnections (listing Record.nameType records),
        (parseVpnUuid (listing Record.uuidNameType records) name).isSome = true := by
  refine ⟨readsVpns records, ?_⟩
  intro name listed
  rw [(readsVpns records).names] at listed
  obtain ⟨record, member, rfl⟩ := List.mem_map.mp listed
  rw [(readsVpns records).uuids, Option.isSome_map, List.find?_isSome]
  exact ⟨record, member, beq_self_eq_true _⟩

/-- How `nmcli -t` prints a value. -/
def escape (value : List Char) : List Char :=
  value.flatMap fun c => if c = ':' ∨ c = '\\' then ['\\', c] else [c]

theorem length_escape (value : List Char) :
    (escape value).length = value.length + value.countP fun c => c = ':' ∨ c = '\\' := by
  induction value with
  | nil => rfl
  | cons c value ih =>
    rw [escape] at ih
    by_cases special : c = ':' ∨ c = '\\'
    · simp [escape, special, ih]
      omega
    · simp [escape, special, ih]
      omega

theorem escape_eq_self_iff {value : List Char} :
    escape value = value ↔ ':' ∉ value ∧ '\\' ∉ value := by
  constructor
  · intro same
    have length := length_escape value
    rw [same, Nat.left_eq_add, List.countP_eq_zero] at length
    exact ⟨fun member => length _ member (by simp), fun member => length _ member (by simp)⟩
  · rintro ⟨noColon, noBackslash⟩
    have plain : ∀ c ∈ value, (if c = ':' ∨ c = '\\' then ['\\', c] else [c]) = [c] := by
      intro c member
      rw [if_neg]
      rintro (rfl | rfl)
      · exact noColon member
      · exact noBackslash member
    rw [escape, List.flatMap_congr plain, List.flatMap_singleton']

theorem escape_oneLine
    {value : List Char}
    (oneLine : '\n' ∉ value) :
    '\n' ∉ escape value := by
  intro member
  obtain ⟨c, inValue, inPiece⟩ := List.mem_flatMap.mp member
  split at inPiece
  · next special =>
    rcases special with rfl | rfl <;> simp at inPiece
  · rw [← List.mem_singleton.mp inPiece] at inValue
    exact oneLine inValue

/-- A connection as it is printed.  The other fields have nothing to escape. -/
def Record.escaped (record : Record) : Record :=
  { record with
    name := escape record.name
    oneLine := escape_oneLine record.oneLine }

/--
Reading what is printed for some connections gives back their names, if and
only if no VPN among them has a colon or a backslash in its name.
-/
theorem names_round_trip_iff (records : List Record) :
    ReadsVpns (records.map Record.escaped) (records.filter Record.isVpn) ↔
      ∀ record ∈ records, record.isVpn = true → ':' ∉ record.name ∧ '\\' ∉ record.name := by
  have printed :
      (records.map Record.escaped).filter Record.isVpn =
        (records.filter Record.isVpn).map Record.escaped :=
    List.filter_map
  have reads := readsVpns (records.map Record.escaped)
  rw [printed] at reads
  constructor
  · intro recovered record member vpn
    have same := recovered.names.symm.trans reads.names
    rw [List.map_map] at same
    have kept := List.map_inj_left.mp same record (List.mem_filter.mpr ⟨member, vpn⟩)
    exact escape_eq_self_iff.mp (String.ofList_injective kept).symm
  · intro plain
    have unchanged :
        (records.filter Record.isVpn).map Record.escaped = records.filter Record.isVpn := by
      refine (List.map_congr_left fun record member => ?_).trans (List.map_id _)
      obtain ⟨listed, vpn⟩ := List.mem_filter.mp member
      have same := escape_eq_self_iff.mpr (plain record listed vpn)
      simp only [Record.escaped, same, id_eq]
    rwa [unchanged] at reads

theorem office_fields :
    '\n' ∉ "office:1".toList ∧ IsField "vpn".toList ∧ IsField "activated".toList ∧
      IsField "2c9a".toList := by
  refine ⟨by decide, ⟨?_, ?_, ?_⟩, ⟨?_, ?_, ?_⟩, ⟨?_, ?_, ?_⟩⟩ <;> decide

/-- A VPN with a colon in its name. -/
def office : Record :=
  ⟨"office:1".toList, "vpn".toList, "activated".toList, "2c9a".toList, office_fields.1,
    office_fields.2.1, office_fields.2.2.1, office_fields.2.2.2⟩

/-- It is listed under another name, and not found under its own. -/
theorem escaped_name_is_lost :
    parseVpnConnections (listing Record.nameType [office.escaped]) = ["office\\:1"] ∧
      parseVpnUuid (listing Record.uuidNameType [office.escaped]) "office:1" = none := by
  decide

end Shroud.NmClient
