import Shroud.StateMachine
import Mathlib.Order.MinMax

namespace Shroud.StateMachine

/-!
# Whole histories of the state machine

What holds after any sequence of events: the retry counter fits the state, the
server of a state is the one of the last event that named one, and a machine
that starts over cannot be told from a new one.
-/

/-- `StateMachine::with_config`. -/
def withConfig (maxRetries : Nat) : StateMachine :=
  ⟨.disconnected, 0, maxRetries⟩

def afterEvents (machine : StateMachine) (events : List Event) : StateMachine :=
  events.foldl (fun machine event => (machine.handleEvent event).2) machine

theorem afterEvents_preserves
    {holds : StateMachine → Prop}
    (step : ∀ machine event, holds machine → holds (machine.handleEvent event).2)
    {machine : StateMachine}
    (start : holds machine)
    (events : List Event) :
    holds (machine.afterEvents events) := by
  induction events generalizing machine with
  | nil => exact start
  | cons event later ih => exact ih (step machine event start)

/-- The kinds of transitions, with what they do to the server and the counter. -/
inductive Moves (machine : StateMachine) (event : Event) : Transition → Prop where
  /-- The connection is given up. -/
  | ends (reason : TransitionReason) : Moves machine event ⟨.disconnected, 0, reason⟩
  /-- The event names a server to connect to. -/
  | connects {server : String} (reason : TransitionReason)
      (named : event.name? = some server) :
      Moves machine event ⟨.connecting server, 0, reason⟩
  /-- The event names a server that is connected. -/
  | joins {server : String} (reason : TransitionReason)
      (named : event.name? = some server) :
      Moves machine event ⟨.connected server, 0, reason⟩
  /-- The health of the connection has changed. -/
  | worsens {server : String} (reason : TransitionReason)
      (unnamed : event.name? = none)
      (connected : machine.state = .connected server) :
      Moves machine event ⟨.degraded server, machine.retries, reason⟩
  | recovers {server : String} (reason : TransitionReason)
      (unnamed : event.name? = none)
      (degraded : machine.state = .degraded server) :
      Moves machine event ⟨.connected server, machine.retries, reason⟩
  /-- The connection is lost. -/
  | drops {server : String} (reason : TransitionReason)
      (unnamed : event.name? = none)
      (named : machine.state.serverName = some server) :
      Moves machine event (machine.firstAttempt server reason)
  /-- An attempt has failed. -/
  | retries {server reason : String}
      (unnamed : event.name? = none)
      (named : machine.state.serverName = some server)
      (busy : machine.state.isBusy = true)
      (late : event = .timeout ∨ machine.state = .connecting server)
      (explained : reason ≠ "") :
      Moves machine event (machine.retry server reason)

theorem exceeded_ne_empty (limit : String) :
    "Max reconnection attempts (" ++ limit ++ ") exceeded" ≠ "" := by
  intro same
  have lengths := congrArg String.length same
  simp at lengths

variable {machine : StateMachine}

theorem moves_of_computeTransition
    {event : Event}
    {transition : Transition}
    (computed : machine.computeTransition event = some transition) :
    Moves machine event transition := by
  rcases Option.or_eq_some_iff.mp computed with rule | ⟨-, global⟩
  · rw [stateRule] at rule
    cases state : machine.state with
    | disconnected | failed server reason =>
      rw [state] at rule
      cases event <;> cases rule
      case userEnable.refl => exact .connects _ rfl
      case nmVpnUp.refl => exact .joins _ rfl
    | connected server =>
      rw [state] at rule
      have named : machine.state.serverName = some server := by rw [state]; rfl
      cases event <;> cases rule
      case healthDegraded.refl => exact .worsens _ rfl state
      case nmVpnDown.refl => exact .drops _ rfl named
      case nmVpnChanged.refl => exact .joins _ rfl
    | degraded server =>
      rw [state] at rule
      have named : machine.state.serverName = some server := by rw [state]; rfl
      cases event <;> cases rule
      case healthOk.refl => exact .recovers _ rfl state
      case healthDead.refl | nmVpnDown.refl => exact .drops _ rfl named
    | connecting server =>
      rw [state] at rule
      have named : machine.state.serverName = some server := by rw [state]; rfl
      have busy : machine.state.isBusy = true := by rw [state]; rfl
      cases event <;> cases rule
      case nmVpnUp.refl => exact .joins _ rfl
      case connectionFailed.refl => exact .ends _
      case timeout.refl => exact .retries rfl named busy (.inl rfl) (by decide)
      case nmVpnDown.refl => exact .retries rfl named busy (.inr state) (by decide)
    | reconnecting server attempt maxAttempts =>
      rw [state] at rule
      have named : machine.state.serverName = some server := by rw [state]; rfl
      have busy : machine.state.isBusy = true := by rw [state]; rfl
      cases event <;> cases rule
      case nmVpnUp.refl => exact .joins _ rfl
      case connectionFailed.refl => exact .ends _
      case timeout.refl => exact .retries rfl named busy (.inl rfl) (exceeded_ne_empty _)
  · cases event with
    | userDisable => exact Option.some.inj global ▸ .ends _
    | _ => exact (Option.some_ne_none _ global.symm).elim

/-- An event is ignored, or it makes a transition of one of these kinds. -/
theorem handleEvent_cases
    (machine : StateMachine)
    (event : Event) :
    machine.handleEvent event = (none, machine) ∨
      ∃ transition,
        Moves machine event transition ∧
          machine.handleEvent event =
            (some transition.reason,
              ⟨transition.next, transition.retries, machine.maxRetries⟩) := by
  rw [handleEvent]
  cases computed : machine.computeTransition event with
  | none => exact .inl rfl
  | some transition => exact .inr ⟨transition, moves_of_computeTransition computed, rfl⟩

/-- The counter fits the state. -/
def CountFits (machine : StateMachine) : Prop :=
  match machine.state with
  | .disconnected | .connecting _ | .connected _ | .degraded _ => machine.retries = 0
  | .reconnecting _ attempt maxAttempts =>
    attempt = machine.retries ∧ 1 ≤ machine.retries ∧ maxAttempts = machine.maxRetries
  | .failed _ reason => machine.maxRetries ≤ machine.retries ∧ reason ≠ ""

/-- The counter with its bound, which leaves room for one more attempt. -/
structure Counted (machine : StateMachine) : Prop where
  fits : machine.CountFits
  bounded : machine.retries ≤ max machine.maxRetries 2
  room : machine.state.isBusy = true → machine.retries < max machine.maxRetries 2

theorem Counted.retry
    (counted : machine.Counted)
    (busy : machine.state.isBusy = true)
    (server : String)
    {reason : String}
    (explained : reason ≠ "") :
    Counted ⟨(machine.retry server reason).next, (machine.retry server reason).retries,
      machine.maxRetries⟩ := by
  have room : machine.retries + 1 ≤ max machine.maxRetries 2 := counted.room busy
  rw [StateMachine.retry]
  by_cases exhausted : machine.maxRetries ≤ machine.retries + 1
  · rw [if_pos exhausted]
    exact ⟨⟨exhausted, explained⟩, room, fun notBusy => Bool.noConfusion notBusy⟩
  · rw [if_neg exhausted]
    have next : machine.retries + 1 < machine.maxRetries := Nat.lt_of_not_le exhausted
    exact ⟨⟨rfl, Nat.le_add_left _ _, rfl⟩, room, fun _ => lt_max_of_lt_left next⟩

theorem handleEvent_counted
    (machine : StateMachine)
    (event : Event)
    (counted : machine.Counted) :
    (machine.handleEvent event).2.Counted := by
  have positive : 0 < max machine.maxRetries 2 := lt_max_of_lt_right Nat.zero_lt_two
  have fits := counted.fits
  rcases handleEvent_cases machine event with ignored | ⟨transition, moves, handled⟩
  · rw [ignored]
    exact counted
  rw [handled]
  cases moves with
  | worsens reason unnamed connected =>
    rw [CountFits, connected] at fits
    exact ⟨fits, counted.bounded, fun notBusy => Bool.noConfusion notBusy⟩
  | recovers reason unnamed degraded =>
    rw [CountFits, degraded] at fits
    exact ⟨fits, counted.bounded, fun notBusy => Bool.noConfusion notBusy⟩
  | drops reason unnamed named =>
    have one : 1 < max machine.maxRetries 2 := lt_max_of_lt_right Nat.one_lt_two
    exact ⟨⟨rfl, Nat.le_refl 1, rfl⟩, one.le, fun _ => one⟩
  | retries unnamed named busy late explained => exact counted.retry busy _ explained
  | _ => exact ⟨rfl, Nat.zero_le _, fun _ => positive⟩

theorem withConfig_counted (maxRetries : Nat) :
    (withConfig maxRetries).Counted :=
  ⟨rfl, Nat.zero_le _, fun notBusy => Bool.noConfusion notBusy⟩

theorem afterEvents_maxRetries
    (machine : StateMachine)
    (events : List Event) :
    (machine.afterEvents events).maxRetries = machine.maxRetries :=
  @afterEvents_preserves (fun later => later.maxRetries = machine.maxRetries)
    (fun later event same => (later.handleEvent_maxRetries event).trans same) machine rfl events

/--
After every event the counter fits the state and stays within its bound, so an
increment never overflows, and an ignored event changes nothing.
-/
theorem retries_stay_sound
    (maxRetries : Nat)
    (events : List Event) :
    ((withConfig maxRetries).afterEvents events).CountFits ∧
      ((withConfig maxRetries).afterEvents events).retries ≤ max maxRetries 2 ∧
      (maxRetries < UInt32.size →
        ((withConfig maxRetries).afterEvents events).retries < UInt32.size) ∧
      ∀ event,
        (((withConfig maxRetries).afterEvents events).handleEvent event).1 = none →
          (((withConfig maxRetries).afterEvents events).handleEvent event).2 =
            (withConfig maxRetries).afterEvents events := by
  have counted : ((withConfig maxRetries).afterEvents events).Counted :=
    afterEvents_preserves handleEvent_counted (withConfig_counted maxRetries) events
  have bounded := counted.bounded
  rw [afterEvents_maxRetries] at bounded
  refine ⟨counted.fits, bounded, ?_, ?_⟩
  · intro fitsWord
    exact bounded.trans_lt (max_lt fitsWord (by decide))
  · intro event ignored
    rcases handleEvent_cases ((withConfig maxRetries).afterEvents events) event with
      same | ⟨transition, -, handled⟩
    · rw [same]
    · rw [handled] at ignored
      exact (Option.some_ne_none _ ignored).elim

/-- What can be seen while events are handled: the reasons and the states. -/
def observed (machine : StateMachine) :
    List Event → List (Option TransitionReason × VpnState)
  | [] => []
  | event :: later =>
    ((machine.handleEvent event).1, (machine.handleEvent event).2.state) ::
      (machine.handleEvent event).2.observed later

/-- Two machines cannot be told apart, now or after further events. -/
structure Alike (one other : StateMachine) : Prop where
  state : one.state = other.state
  later : ∀ events, one.observed events = other.observed events

/-- A request to disconnect leaves nothing of the machine but its limit. -/
theorem handleEvent_userDisable (machine : StateMachine) :
    machine.handleEvent .userDisable = (some .userRequested, withConfig machine.maxRetries) := by
  rw [handleEvent, computeTransition, stateRule]
  cases machine.state <;> rfl

/--
A machine that is forced to `Disconnected`, that the user disables, or that
accepts a request to connect in `Disconnected` or `Failed` behaves from then on
like a new one that was driven there.
-/
theorem new_attempt_is_fresh (machine : StateMachine) :
    Alike (machine.setState .disconnected) (withConfig machine.maxRetries) ∧
      Alike (machine.handleEvent .userDisable).2
        ((withConfig machine.maxRetries).handleEvent .userDisable).2 ∧
      ∀ server : String,
        (machine.state = .disconnected ∨ ∃ old reason, machine.state = .failed old reason) →
          (machine.handleEvent (.userEnable server)).1 = some .userRequested ∧
            Alike (machine.handleEvent (.userEnable server)).2
              ((withConfig machine.maxRetries).handleEvent (.userEnable server)).2 := by
  refine ⟨⟨rfl, fun _ => rfl⟩, ?_, ?_⟩
  · rw [handleEvent_userDisable, handleEvent_userDisable]
    exact ⟨rfl, fun _ => rfl⟩
  · intro server resting
    have same :
        machine.handleEvent (.userEnable server) =
          (withConfig machine.maxRetries).handleEvent (.userEnable server) := by
      rw [handleEvent, computeTransition, stateRule]
      rcases resting with disconnected | ⟨old, reason, failed⟩
      · rw [disconnected]
        rfl
      · rw [failed]
        rfl
    rw [same]
    exact ⟨rfl, rfl, fun _ => rfl⟩

def accepted (machine : StateMachine) : List Event → List Event
  | [] => []
  | event :: later =>
    if (machine.handleEvent event).1.isSome then
      event :: (machine.handleEvent event).2.accepted later
    else (machine.handleEvent event).2.accepted later

/-- The server of the last accepted event that names one. -/
def lastNamed (machine : StateMachine) (events : List Event) : Option String :=
  ((machine.accepted events).filterMap Event.name?).getLast?

theorem lastNamed_cons
    (machine : StateMachine)
    (event : Event)
    (later : List Event) :
    machine.lastNamed (event :: later) =
      ((machine.handleEvent event).2.lastNamed later).or
        (if (machine.handleEvent event).1.isSome then event.name? else none) := by
  rw [lastNamed, accepted]
  cases (machine.handleEvent event).1.isSome with
  | false => exact (Option.or_none).symm
  | true =>
    rw [if_pos rfl, if_pos rfl, lastNamed]
    cases named : event.name? with
    | none => rw [List.filterMap_cons_none named, Option.or_none]
    | some server =>
      rw [List.filterMap_cons_some named, List.getLast?_cons]
      cases (List.filterMap Event.name? _).getLast? <;> rfl

section

variable
  {origin : Option String}
  (from? : machine.state ≠ .disconnected → machine.state.serverName = origin)

include from?

theorem serverName_handleEvent_eq
    (event : Event)
    (tracks : (machine.handleEvent event).2.state ≠ .disconnected) :
    (machine.handleEvent event).2.state.serverName =
      (if (machine.handleEvent event).1.isSome then event.name? else none).or origin := by
  have known {server : String} (named : machine.state.serverName = some server) :
      some server = origin := by
    refine named.symm.trans (from? ?_)
    intro disconnected
    rw [disconnected] at named
    exact (Option.some_ne_none _ named.symm).elim
  rcases handleEvent_cases machine event with ignored | ⟨transition, moves, handled⟩
  · rw [ignored] at tracks ⊢
    exact from? tracks
  rw [handled] at tracks ⊢
  change transition.next.serverName = event.name?.or origin
  cases moves with
  | ends reason => exact absurd rfl tracks
  | connects reason named =>
    rw [named]
    rfl
  | joins reason named =>
    rw [named]
    rfl
  | worsens reason unnamed connected =>
    rw [unnamed]
    exact known (by rw [connected]; rfl)
  | recovers reason unnamed degraded =>
    rw [unnamed]
    exact known (by rw [degraded]; rfl)
  | drops reason unnamed named =>
    rw [unnamed]
    exact known named
  | retries unnamed named busy late explained =>
    rw [unnamed, StateMachine.retry]
    split
    · exact known named
    · exact known named

theorem serverName_afterEvents
    (events : List Event)
    (tracks : (machine.afterEvents events).state ≠ .disconnected) :
    (machine.afterEvents events).state.serverName = (machine.lastNamed events).or origin := by
  induction events generalizing machine origin with
  | nil => exact from? tracks
  | cons event later ih =>
    rw [lastNamed_cons, Option.or_assoc]
    exact ih (serverName_handleEvent_eq from? event) tracks

end

/--
A state other than `Disconnected` names the server of the last accepted event
that carried one; no other event changes the server, except to none.
-/
theorem server_has_provenance
    (maxRetries : Nat)
    (events : List Event) :
    (((withConfig maxRetries).afterEvents events).state ≠ .disconnected →
      ((withConfig maxRetries).afterEvents events).state.serverName =
        (withConfig maxRetries).lastNamed events) ∧
      ∀ event,
        event.name? = none ∨
            (((withConfig maxRetries).afterEvents events).handleEvent event).1 = none →
          (((withConfig maxRetries).afterEvents events).handleEvent event).2.state.serverName =
              ((withConfig maxRetries).afterEvents events).state.serverName ∨
            (((withConfig maxRetries).afterEvents events).handleEvent event).2.state =
              .disconnected := by
  constructor
  · intro tracks
    have named :=
      @serverName_afterEvents (withConfig maxRetries) none (fun moved => absurd rfl moved) events
        tracks
    rwa [Option.or_none] at named
  · intro event silent
    by_cases tracks :
        (((withConfig maxRetries).afterEvents events).handleEvent event).2.state = .disconnected
    · exact .inr tracks
    · left
      rw [serverName_handleEvent_eq (fun _ => rfl) event tracks]
      rcases silent with unnamed | ignored
      · rw [unnamed, ite_self]
        rfl
      · rw [ignored]
        rfl

end Shroud.StateMachine
