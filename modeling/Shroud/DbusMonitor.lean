import Shroud.NmHandlers

namespace Shroud.DbusMonitor

open Supervisor (NmEvent)

/-!
# The D-Bus monitor

Signals of NetworkManager become events for the supervisor.  A signal that
follows another one of its kind too soon is taken for a duplicate, and a signal
about a connection that is no VPN is left out.
-/

/-- `EVENT_DEDUP_WINDOW_MS`. -/
def eventDedupWindowMs : Nat := 500

/-- `MAX_DEDUP_ENTRIES`. -/
def maxDedupEntries : Nat := 256

/-- The values of `event_type`. -/
inductive EventType where
  | activating
  | activated
  | failed
  | deactivated
  deriving Repr, DecidableEq

/-- `NmMonitor`.  `recent_events` is a map, so it has every key once. -/
structure NmMonitor where
  recentEvents : List ((String × EventType) × Nat)
  lastPrune : Option Nat
  distinct : (recentEvents.map (·.1)).Nodup

section Entries

variable {entries : List ((String × EventType) × Nat)}

theorem filter_distinct
    (isKept : (String × EventType) × Nat → Bool)
    (distinct : (entries.map (·.1)).Nodup) :
    ((entries.filter isKept).map (·.1)).Nodup :=
  distinct.sublist (List.filter_sublist.map _)

theorem insert_distinct
    (key : String × EventType)
    (now : Nat)
    (distinct : (entries.map (·.1)).Nodup) :
    (((key, now) :: entries.filter (·.1 ≠ key)).map (·.1)).Nodup := by
  rw [List.map_cons, List.nodup_cons]
  exact ⟨by simp, filter_distinct _ distinct⟩

theorem lookup_any
    (key : String × EventType)
    (test : Nat → Bool)
    (distinct : (entries.map (·.1)).Nodup) :
    (entries.lookup key).any test = true ↔ ∃ time, (key, time) ∈ entries ∧ test time = true := by
  induction entries with
  | nil => simp
  | cons entry entries ih =>
    obtain ⟨first, time⟩ := entry
    rw [List.map_cons, List.nodup_cons] at distinct
    by_cases same : key = first
    · subst same
      have absent : ∀ other, (key, other) ∉ entries :=
        fun other member => distinct.1 (List.mem_map.mpr ⟨(key, other), member, rfl⟩)
      simp [absent]
    · have passed : (key == first) = false := beq_eq_false_iff_ne.mpr same
      rw [List.lookup_cons, passed]
      dsimp only
      rw [ih distinct.2]
      simp [same]

end Entries

namespace NmMonitor

/-- `NmMonitor::new`. -/
def new : NmMonitor := ⟨[], none, List.nodup_nil⟩

variable (monitor : NmMonitor)

def isRecent (key : String × EventType) (now : Nat) : Bool :=
  (monitor.recentEvents.lookup key).any fun last => decide (now - last < eventDedupWindowMs)

/-- The last sweep is two windows ago, or there are too many entries. -/
def needsSweep (now : Nat) : Bool :=
  (monitor.lastPrune.all fun last => decide (eventDedupWindowMs * 2 ≤ now - last)) ||
    decide (maxDedupEntries < monitor.recentEvents.length)

def sweep (now : Nat) : NmMonitor :=
  if monitor.needsSweep now then
    { recentEvents := monitor.recentEvents.filter (now - ·.2 < eventDedupWindowMs * 2)
      lastPrune := some now
      distinct := filter_distinct _ monitor.distinct }
  else
    monitor

def record (key : String × EventType) (now : Nat) : NmMonitor :=
  { monitor with
    recentEvents := (key, now) :: monitor.recentEvents.filter (·.1 ≠ key)
    distinct := insert_distinct key now monitor.distinct }

/-- `should_process_event`. -/
def shouldProcessEvent (vpnName : String) (eventType : EventType) (now : Nat) :
    Bool × NmMonitor :=
  if vpnName = "unknown" then (false, monitor)
  else if monitor.isRecent (vpnName, eventType) now then (false, monitor)
  else (true, (monitor.sweep now).record (vpnName, eventType) now)

theorem isRecent_iff
    {key : String × EventType}
    {now : Nat} :
    monitor.isRecent key now = true ↔
      ∃ time, (key, time) ∈ monitor.recentEvents ∧ now < time + eventDedupWindowMs := by
  rw [isRecent, lookup_any _ _ monitor.distinct]
  refine exists_congr fun time => and_congr_right fun _ => ?_
  rw [decide_eq_true_iff, eventDedupWindowMs]
  omega

/-- A sweep forgets nothing that a later event would be compared with. -/
theorem isRecent_sweep
    {key : String × EventType}
    {now later : Nat}
    (after : now ≤ later) :
    (monitor.sweep now).isRecent key later = monitor.isRecent key later := by
  rw [Bool.eq_iff_iff, isRecent_iff, isRecent_iff, sweep]
  have positive : 0 < eventDedupWindowMs := by decide
  split
  · refine exists_congr fun time => and_congr_left fun recent => ?_
    rw [List.mem_filter, decide_eq_true_iff]
    refine and_iff_left ?_
    dsimp only
    omega
  · exact Iff.rfl

theorem isRecent_record
    {key other : String × EventType}
    {now later : Nat} :
    (monitor.record key now).isRecent other later = true ↔
      if other = key then later < now + eventDedupWindowMs
      else monitor.isRecent other later = true := by
  rw [isRecent_iff, isRecent_iff, record]
  by_cases same : other = key
  · simp [same]
  · simp [same]

end NmMonitor

/-- A name, a kind of event and the time of the call. -/
structure Query where
  vpnName : String
  eventType : EventType
  now : Nat

/-- `should_process_event` without pruning: the cache only grows. -/
def NmMonitor.shouldProcessUnpruned
    (monitor : NmMonitor)
    (vpnName : String)
    (eventType : EventType)
    (now : Nat) :
    Bool × NmMonitor :=
  if vpnName = "unknown" then (false, monitor)
  else if monitor.isRecent (vpnName, eventType) now then (false, monitor)
  else (true, monitor.record (vpnName, eventType) now)

/-- The decisions of a filter on one query after the other. -/
def decisions
    (filter : NmMonitor → String → EventType → Nat → Bool × NmMonitor) :
    NmMonitor → List Query → List Bool
  | _, [] => []
  | monitor, query :: later =>
    let (decision, next) := filter monitor query.vpnName query.eventType query.now
    decision :: decisions filter next later

/-- From a time on the two caches hold the same recent events. -/
def AgreeFrom (now : Nat) (pruned full : NmMonitor) : Prop :=
  ∀ key later, now ≤ later → pruned.isRecent key later = full.isRecent key later

section Pruning

variable {pruned full : NmMonitor}

theorem shouldProcessEvent_agrees
    {query : Query}
    (agree : AgreeFrom query.now pruned full) :
    let answer := pruned.shouldProcessEvent query.vpnName query.eventType query.now
    let unpruned := full.shouldProcessUnpruned query.vpnName query.eventType query.now
    answer.1 = unpruned.1 ∧ AgreeFrom query.now answer.2 unpruned.2 := by
  intro answer unpruned
  simp only [answer, unpruned, NmMonitor.shouldProcessEvent, NmMonitor.shouldProcessUnpruned,
    agree _ _ (Nat.le_refl query.now)]
  by_cases unknown : query.vpnName = "unknown"
  · rw [if_pos unknown, if_pos unknown]
    exact ⟨rfl, agree⟩
  rw [if_neg unknown, if_neg unknown]
  cases full.isRecent (query.vpnName, query.eventType) query.now with
  | true => exact ⟨rfl, agree⟩
  | false =>
    refine ⟨rfl, ?_⟩
    intro key later after
    rw [if_neg Bool.false_ne_true, if_neg Bool.false_ne_true, Bool.eq_iff_iff,
      NmMonitor.isRecent_record, NmMonitor.isRecent_record, NmMonitor.isRecent_sweep _ after,
      agree key later after]

theorem decisions_agree
    {queries : List Query}
    (ordered : queries.Pairwise fun first second => first.now ≤ second.now)
    (agree : ∀ query ∈ queries, AgreeFrom query.now pruned full) :
    decisions NmMonitor.shouldProcessEvent pruned queries =
      decisions NmMonitor.shouldProcessUnpruned full queries := by
  induction queries generalizing pruned full with
  | nil => rfl
  | cons query later ih =>
    obtain ⟨first, sorted⟩ := List.pairwise_cons.mp ordered
    obtain ⟨same, next⟩ := shouldProcessEvent_agrees (agree query List.mem_cons_self)
    refine List.cons_eq_cons.mpr ⟨same, ih sorted ?_⟩
    intro other member key time after
    exact next key time ((first other member).trans after)

/-- With times that do not decrease, the sweeps change no decision. -/
theorem pruning_is_invisible
    {queries : List Query}
    (ordered : queries.Pairwise fun first second => first.now ≤ second.now) :
    decisions NmMonitor.shouldProcessEvent .new queries =
      decisions NmMonitor.shouldProcessUnpruned .new queries :=
  decisions_agree ordered fun _ _ _ _ _ => rfl

/-- The sweep at the second query forgets the first one, and no decision shows it. -/
theorem pruning_is_invisible_swept :
    let queries : List Query :=
      [⟨"berlin", .activated, 0⟩, ⟨"paris", .activated, 1000⟩, ⟨"berlin", .activated, 1100⟩]
    let first := NmMonitor.new.shouldProcessEvent "berlin" .activated 0
    (first.2.shouldProcessEvent "paris" .activated 1000).2.recentEvents =
        [(("paris", .activated), 1000)] ∧
      decisions NmMonitor.shouldProcessEvent .new queries =
        decisions NmMonitor.shouldProcessUnpruned .new queries := by
  intro queries first
  exact ⟨by decide, pruning_is_invisible (by decide)⟩

end Pruning

/-- A state signal about one VPN. -/
structure Signal where
  eventType : EventType
  time : Nat
  deriving Repr, DecidableEq

section Signals

variable (name : String)

/-- The signals that were processed so far, and the monitor. -/
def receive (run : List Signal × NmMonitor) (signal : Signal) : List Signal × NmMonitor :=
  let (isProcessed, monitor) := run.2.shouldProcessEvent name signal.eventType signal.time
  (if isProcessed then run.1 ++ [signal] else run.1, monitor)

def processed (signals : List Signal) : List Signal :=
  (signals.foldl (receive name) ([], .new)).1

/-- The signal falls into the window that another one of its type has opened. -/
def Signal.fallsInto (signal window : Signal) : Bool :=
  decide (window.eventType = signal.eventType ∧ signal.time < window.time + eventDedupWindowMs)

/-- A signal opens a window if it does not fall into one. -/
def openWindow (windows : List Signal) (signal : Signal) : List Signal :=
  if windows.any signal.fallsInto then windows else windows ++ [signal]

/-- The signals that open a window for their type. -/
def windows (signals : List Signal) : List Signal :=
  signals.foldl openWindow []

/-- The monitor knows of the windows that a further signal can fall into. -/
def Agrees (earlier : List Signal) (run : List Signal × NmMonitor) : Prop :=
  ∀ signal : Signal,
    (∀ previous ∈ earlier, previous.time ≤ signal.time) →
      run.2.isRecent (name, signal.eventType) signal.time = run.1.any signal.fallsInto

variable {name} {earlier : List Signal}

theorem receive_agrees
    {run : List Signal × NmMonitor}
    {signal : Signal}
    (known : name ≠ "unknown")
    (agrees : Agrees name earlier run)
    (ordered : ∀ previous ∈ earlier, previous.time ≤ signal.time) :
    (receive name run signal).1 = openWindow run.1 signal ∧
      Agrees name (earlier ++ [signal]) (receive name run signal) := by
  have here := agrees signal ordered
  rw [receive, NmMonitor.shouldProcessEvent, if_neg known, here, openWindow]
  cases falls : run.1.any signal.fallsInto with
  | true =>
    refine ⟨rfl, ?_⟩
    intro next later
    exact agrees next fun previous member => later previous (List.mem_append_left _ member)
  | false =>
    refine ⟨rfl, ?_⟩
    intro next later
    have after := later signal (List.mem_append_right _ (List.mem_singleton_self _))
    have before :=
      agrees next fun previous member => later previous (List.mem_append_left _ member)
    simp only [Bool.false_eq_true, if_false, if_true]
    rw [Bool.eq_iff_iff, NmMonitor.isRecent_record, NmMonitor.isRecent_sweep _ after, before,
      List.any_append, Bool.or_eq_true, List.any_cons, List.any_nil, Bool.or_false]
    by_cases same : next.eventType = signal.eventType
    · -- The windows of this type are over, or the signal would fall into one.
      have closed : run.1.any next.fallsInto = false := by
        rw [List.any_eq_false] at falls ⊢
        intro window member
        have passed := falls window member
        simp only [Signal.fallsInto, decide_eq_true_eq, same] at passed ⊢
        rintro ⟨typed, soon⟩
        exact passed ⟨typed, Nat.lt_of_le_of_lt after soon⟩
      simp [same, closed, Signal.fallsInto]
    · have other : signal.eventType ≠ next.eventType := Ne.symm same
      simp [same, other, Signal.fallsInto]

/-- The monitor processes exactly the signals that open a window. -/
theorem processed_eq_windows
    {signals : List Signal}
    (known : name ≠ "unknown")
    (ordered : signals.Pairwise fun first second => first.time ≤ second.time) :
    processed name signals = windows signals ∧
      Agrees name signals (signals.foldl (receive name) ([], .new)) := by
  induction signals using List.reverseRecOn with
  | nil => exact ⟨rfl, fun signal _ => rfl⟩
  | append_singleton earlier last ih =>
    obtain ⟨sorted, -, before⟩ := List.pairwise_append.mp ordered
    obtain ⟨same, agrees⟩ := ih sorted
    have step :=
      receive_agrees known agrees fun previous member =>
        before previous member last (List.mem_singleton_self _)
    rw [processed] at same ⊢
    rw [windows, List.foldl_append, List.foldl_append]
    rw [same] at step
    exact step

theorem windows_append (last : Signal) :
    windows (earlier ++ [last]) = openWindow (windows earlier) last :=
  List.foldl_append

/-- Only signals that came in open windows, in the order in which they came. -/
theorem windows_sublist (signals : List Signal) :
    (windows signals).Sublist signals := by
  induction signals using List.reverseRecOn with
  | nil => exact .slnil
  | append_singleton earlier last ih =>
    rw [windows_append, openWindow]
    split
    · exact ih.trans (List.sublist_append_left _ _)
    · exact ih.append_right _

/--
Whatever follows a signal of the last one's type, less than a window before the
last one, is of that type as well.
-/
def Undisturbed (earlier : List Signal) (last : Signal) : Prop :=
  earlier.Pairwise fun first other =>
    first.eventType = last.eventType →
      last.time < first.time + eventDedupWindowMs →
      other.eventType = last.eventType

instance (earlier : List Signal) (last : Signal) : Decidable (Undisturbed earlier last) :=
  inferInstanceAs (Decidable (List.Pairwise _ _))

/-- The window that an undisturbed signal falls into is followed by its own type only. -/
theorem Undisturbed.lastWindow
    {last : Signal}
    (undisturbed : Undisturbed earlier last)
    (falls : (windows earlier).any last.fallsInto = true) :
    (windows earlier).getLast?.map (·.eventType) = some last.eventType := by
  have pairs := List.Pairwise.sublist (windows_sublist earlier) undisturbed
  obtain ⟨first, member, hit⟩ := List.any_eq_true.mp falls
  obtain ⟨typed, soon⟩ := of_decide_eq_true hit
  rcases List.eq_nil_or_concat (windows earlier) with none | ⟨front, final, ends⟩
  · rw [none] at member
    exact absurd member List.not_mem_nil
  rw [List.concat_eq_append] at ends
  rw [ends, List.getLast?_concat, Option.map_some]
  rw [ends] at member pairs
  rcases List.mem_append.mp member with inFront | isFinal
  · have later := (List.pairwise_append.mp pairs).2.2 first inFront final (by simp)
    rw [later typed soon]
  · rw [← List.mem_singleton.mp isFinal, typed]

/-- Of a signal, one of another type and one that falls into the first's window. -/
theorem windows_disturbed
    {first other last : Signal}
    (typed : first.eventType = last.eventType)
    (soon : last.time < first.time + eventDedupWindowMs)
    (differs : other.eventType ≠ last.eventType) :
    windows [first, other, last] = [first, other] := by
  have opens : other.fallsInto first = false :=
    decide_eq_false fun falls => differs (falls.1.symm.trans typed)
  have falls : last.fallsInto first = true := decide_eq_true ⟨typed, soon⟩
  simp [windows, openWindow, opens, falls]

/--
If nothing of another type lies between the last signal and an earlier one of
its type less than a window before it, the last signal that is processed is of
the type of the last one received.  Otherwise it is not, for these signals or
for some of them.
-/
theorem last_type_kept
    {last : Signal}
    (known : name ≠ "unknown")
    (ordered : (earlier ++ [last]).Pairwise fun first second => first.time ≤ second.time) :
    (Undisturbed earlier last →
        (processed name (earlier ++ [last])).getLast?.map (·.eventType) = some last.eventType) ∧
      (¬Undisturbed earlier last →
        ∃ kept, kept.Sublist earlier ∧
          (processed name (kept ++ [last])).getLast?.map (·.eventType) ≠ some last.eventType) := by
  constructor
  · intro undisturbed
    rw [(processed_eq_windows known ordered).1, windows_append, openWindow]
    split
    · next falls => exact undisturbed.lastWindow falls
    · rw [List.getLast?_concat, Option.map_some]
  · intro disturbed
    rw [Undisturbed, List.pairwise_iff_forall_sublist] at disturbed
    simp only [not_forall] at disturbed
    obtain ⟨first, other, kept, typed, soon, differs⟩ := disturbed
    refine ⟨[first, other], kept, ?_⟩
    have sorted := List.Pairwise.sublist (kept.append_right [last]) ordered
    rw [(processed_eq_windows known sorted).1]
    change (windows [first, other, last]).getLast?.map _ ≠ _
    rw [windows_disturbed typed soon differs]
    exact fun same => differs (Option.some.inj same)

end Signals

/-- A VPN that comes up again within a window is left as deactivated. -/
theorem reactivation_is_dropped :
    processed "berlin" [⟨.activated, 0⟩, ⟨.deactivated, 100⟩, ⟨.activated, 200⟩] =
      [⟨.activated, 0⟩, ⟨.deactivated, 100⟩] := by
  decide

/-- Repeated signals of a VPN that has come up after all are no loss. -/
theorem last_type_kept_repeated :
    (processed "berlin"
        ([⟨.deactivated, 0⟩, ⟨.activated, 100⟩, ⟨.activated, 300⟩] ++
          [⟨.activated, 400⟩])).getLast?.map (·.eventType) =
      some .activated :=
  (last_type_kept (by decide) (by decide)).1 (by decide)

/-- What NetworkManager answers about an active connection. -/
structure Bus where
  id? : String → Option String
  type? : String → Option String

/-- The monitor, and the names by path. -/
structure State where
  monitor : NmMonitor
  connectionNames : String → Option String

/-- `is_vpn_connection`; an error is taken for a connection that is no VPN. -/
def isVpnConnection (bus : Bus) (path : String) : Bool :=
  match bus.type? path with
  | some connType => connType == "vpn"
  | none => false

/-- The name of a connection, and the names known then. -/
def connectionName (bus : Bus) (path : String) (names : String → Option String) :
    Option (String × (String → Option String)) :=
  match names path with
  | some cached => some (cached, names)
  | none => (bus.id? path).map fun name => (name, Function.update names path (some name))

/-- The type and the event of a state of `Connection.Active`. -/
def activeEvent? (name : String) : Nat → Option (EventType × NmEvent)
  | 1 => some (.activating, .vpnActivating name)
  | 2 => some (.activated, .vpnActivated name)
  | 4 => some (.deactivated, .vpnDeactivated name)
  | _ => none

/-- `handle_active_state_changed`: the event that is sent. -/
def handleActiveStateChanged (bus : Bus) (path : String) (state now : Nat) (before : State) :
    Option NmEvent × State :=
  if isVpnConnection bus path then
    match connectionName bus path before.connectionNames with
    | none => (none, before)
    | some (name, names) =>
      match activeEvent? name state with
      | none => (none, ⟨before.monitor, names⟩)
      | some (eventType, event) =>
        match before.monitor.shouldProcessEvent name eventType now with
        | (false, monitor) => (none, ⟨monitor, names⟩)
        | (true, monitor) =>
          (some event, ⟨monitor, if state = 4 then Function.update names path none else names⟩)
  else
    (none, before)

/--
A signal that is no duplicate is reported exactly for what the listings take
for a VPN, unless the connection is of WireGuard.
-/
theorem reports_vpns_iff
    {bus : Bus}
    {path connType name : String}
    {state now : Nat}
    {before : State}
    {eventType : EventType}
    {event : NmEvent}
    (typed : bus.type? path = some connType)
    (named : (before.connectionNames path).or (bus.id? path) = some name)
    (known : name ≠ "unknown")
    (active : activeEvent? name state = some (eventType, event))
    (fresh : before.monitor.isRecent (name, eventType) now = false) :
    ((handleActiveStateChanged bus path state now before).1 = some event ↔
        NmClient.isVpnConnectionType connType.toList = true) ↔
      connType ≠ "wireguard" := by
  have found : ∃ names, connectionName bus path before.connectionNames = some (name, names) := by
    rw [connectionName]
    cases cached : before.connectionNames path with
    | some other =>
      rw [cached, Option.some_or, Option.some_inj] at named
      exact ⟨_, by rw [named]⟩
    | none =>
      rw [cached, Option.none_or] at named
      exact ⟨_, by rw [named, Option.map_some]⟩
  obtain ⟨names, lookedUp⟩ := found
  have sent :
      (handleActiveStateChanged bus path state now before).1 = some event ↔ connType = "vpn" := by
    rw [handleActiveStateChanged, isVpnConnection, typed]
    by_cases openVpn : connType = "vpn"
    · simp [openVpn, lookedUp, active, NmMonitor.shouldProcessEvent, known, fresh]
    · simp [openVpn]
  have listed :
      NmClient.isVpnConnectionType connType.toList = true ↔
        connType = "vpn" ∨ connType = "wireguard" := by
    rw [NmClient.isVpnConnectionType, Bool.or_eq_true, beq_iff_eq, beq_iff_eq, String.toList_inj,
      String.toList_inj]
  rw [sent, listed]
  constructor
  · rintro same rfl
    exact absurd (same.mpr (.inr rfl)) (by decide)
  · intro other
    exact (or_iff_left other).symm

def oneConnection (connType : String) : Bus :=
  ⟨fun _ => some "berlin", fun _ => some connType⟩

def fresh : State := ⟨.new, fun _ => none⟩

/-- A WireGuard connection that comes up is a VPN and is not reported. -/
theorem wireguard_not_reported :
    (handleActiveStateChanged (oneConnection "wireguard") "/1" 2 0 fresh).1 = none ∧
      NmClient.isVpnConnectionType "wireguard".toList = true := by
  decide

theorem openvpn_reported :
    (handleActiveStateChanged (oneConnection "vpn") "/1" 2 0 fresh).1 =
      some (.vpnActivated "berlin") :=
  ((@reports_vpns_iff (oneConnection "vpn") "/1" "vpn" "berlin" 2 0 fresh .activated _ rfl rfl
    (by decide) rfl rfl).mpr (by decide)).mpr (by decide)

end Shroud.DbusMonitor
