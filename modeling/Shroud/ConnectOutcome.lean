import Shroud.ConnectAnswers

namespace Shroud.Supervisor

open StateProgram

/-!
# The outcome of a connect

`handle_connect` learns from `get_vpn_state` whether the connection is up, and
tells the state machine with one of two events.  A state that has a VPN up
already ignores both of them, and also the request that precedes them.
-/

/--
What watching a connection makes of the answers from a given one on: whether
it comes up, and the number of the first answer that was not looked at.
-/
def watch (answers : Nat → Option NmVpnState) (number : Nat) :
    Nat → Bool × Nat
  | 0 => (false, number)
  | attempts + 1 =>
    match answers number with
    | some .activated => (true, number + 1)
    | some .activating => watch answers (number + 1) attempts
    | _ => (false, number + 1)

/-- Whether one of some attempts to connect comes up. -/
def comesUp (env : Env) (connect vpnState : Nat) : Nat → Bool
  | 0 => false
  | attempts + 1 =>
    if env.connects connect then
      (watch env.vpnState vpnState connectionMonitorMaxAttempts).1 ||
        comesUp env (connect + 1)
          (watch env.vpnState vpnState connectionMonitorMaxAttempts).2
          attempts
    else
      comesUp env (connect + 1) vpnState attempts

/-- The answers with numbers from a first to before a last one. -/
def answersIn (answers : Nat → Option NmVpnState) (first last : Nat) :
    List (Option NmVpnState) :=
  (List.range' first (last - first)).map answers

/-- The answers that `get_vpn_state` gave between two states. -/
def observed (env : Env) (before after : World) : List (Option NmVpnState) :=
  answersIn env.vpnState before.asked.vpnState after.asked.vpnState

/-- A stretch of answers ends with the first that says `activated`, if any. -/
structure Ends (answers : Nat → Option NmVpnState) (first last : Nat)
    (found : Bool) : Prop where
  ordered : first ≤ last
  up : found = true → first < last ∧ answers (last - 1) = some .activated
  down : found = false → ∀ number, first ≤ number → number < last → answers number ≠ some .activated

variable {up : Bool} {name : String} {before : World}

namespace Ends

variable {answers : Nat → Option NmVpnState}

theorem none (number : Nat) :
    Ends answers number number false where
  ordered := Nat.le_refl _
  up := nofun
  down := by
    intro _ other notBefore before
    omega

variable {first last : Nat}

theorem append
    {middle : Nat}
    (earlier : Ends answers first middle false)
    (later : Ends answers middle last up) :
    Ends answers first last up where
  ordered := earlier.ordered.trans later.ordered
  up := by
    intro isUp
    obtain ⟨nonempty, activated⟩ := later.up isUp
    exact ⟨lt_of_le_of_lt earlier.ordered nonempty, activated⟩
  down := by
    intro isDown number notBefore before
    by_cases early : number < middle
    · exact earlier.down rfl number notBefore early
    · exact later.down isDown number (Nat.le_of_not_lt early) before

theorem skip
    {number : Nat}
    (other : answers number ≠ some .activated)
    (later : Ends answers (number + 1) last up) :
    Ends answers number last up := by
  have one : Ends answers number (number + 1) false :=
    { ordered := Nat.le_succ _
      up := nofun
      down := by
        intro _ any notBefore before
        have same : any = number := by omega
        rw [same]
        exact other }
  exact one.append later

theorem hit
    {number : Nat}
    (activated : answers number = some .activated) :
    Ends answers number (number + 1) true where
  ordered := Nat.le_succ _
  up := fun _ => ⟨Nat.lt_succ_self _, activated⟩
  down := nofun

theorem getLast?_eq_iff (ends : Ends answers first last up) :
    (answersIn answers first last).getLast? = some (some .activated) ↔ up = true := by
  cases up with
  | true =>
    obtain ⟨nonempty, activated⟩ := ends.up rfl
    have length : last - first = (last - 1 - first) + 1 := by omega
    have latest : first + (last - 1 - first) = last - 1 := by omega
    rw [answersIn, length, List.range'_concat, List.map_append,
      List.map_singleton, List.getLast?_concat, Nat.one_mul, latest,
      activated]
    exact iff_of_true rfl rfl
  | false =>
    refine iff_of_false ?_ Bool.false_ne_true
    intro isLast
    have member := List.mem_of_getLast? isLast
    obtain ⟨number, inRange, answered⟩ := List.mem_map.mp member
    rw [List.mem_range'_1] at inRange
    exact ends.down rfl number inRange.1 (by omega) answered

theorem all_ne_iff (ends : Ends answers first last up) :
    (∀ answer ∈ answersIn answers first last, answer ≠ some .activated) ↔ up = false := by
  cases up with
  | true =>
    refine iff_of_false ?_ nofun
    intro all
    have isLast := ends.getLast?_eq_iff.mpr rfl
    exact all _ (List.mem_of_getLast? isLast) rfl
  | false =>
    refine iff_of_true ?_ rfl
    intro answer member
    obtain ⟨number, inRange, answered⟩ := List.mem_map.mp member
    rw [List.mem_range'_1] at inRange
    rw [← answered]
    exact ends.down rfl number inRange.1 (by omega)

end Ends

theorem ends_watch
    (answers : Nat → Option NmVpnState)
    (number attempts : Nat) :
    Ends answers number (watch answers number attempts).2 (watch answers number attempts).1 := by
  induction attempts generalizing number with
  | zero => exact .none number
  | succ attempts ih =>
    rw [watch]
    cases answer : answers number with
    | none => exact .skip (by simp [answer]) (.none _)
    | some state =>
      cases state with
      | activated => exact .hit answer
      | activating => exact .skip (by simp [answer]) (ih _)
      | _ => exact .skip (by simp [answer]) (.none _)

/-- The calls between two states disconnect other VPNs than one only. -/
def DropsOthers (name : String) (before after : World) : Prop :=
  ∃ calls, after.trace = before.trace ++ calls ∧
    ∀ server ok, NmCall.disconnect server ok ∈ calls → server ≠ name

instance (name : String) : IsPreorder World (DropsOthers name) where
  refl _ := ⟨[], (List.append_nil _).symm, by simp⟩
  trans _ _ _ first second := by
    obtain ⟨calls, grows, others⟩ := first
    obtain ⟨later, growsLater, othersLater⟩ := second
    refine ⟨calls ++ later, ?_, ?_⟩
    · rw [growsLater, grows, List.append_assoc]
    · intro server ok member
      rcases List.mem_append.mp member with early | late
      · exact others server ok early
      · exact othersLater server ok late

theorem DropsOthers.of_drop
    {server : String}
    {ok : Bool}
    {after : World}
    (drops : DropsOthers name before after)
    (called : NmCall.disconnect server ok ∈ after.trace.drop before.trace.length) :
    server ≠ name := by
  obtain ⟨calls, grows, others⟩ := drops
  rw [grows, List.drop_left] at called
  exact others server ok called

/-- Nothing that decides the outcome of a connect was touched. -/
structure Aside (name : String) (before after : World) : Prop where
  machine : after.machine = before.machine
  connect : after.asked.connect = before.asked.connect
  vpnState : after.asked.vpnState = before.asked.vpnState
  drops : DropsOthers name before after

instance (name : String) : IsPreorder World (Aside name) where
  refl world := ⟨rfl, rfl, rfl, Std.Refl.refl world⟩
  trans _ _ _ first second :=
    { machine := second.machine.trans first.machine
      connect := second.connect.trans first.connect
      vpnState := second.vpnState.trans first.vpnState
      drops := IsTrans.trans _ _ _ first.drops second.drops }

section Aside

variable (env : Env) (name : String)

theorem aside_of_same
    {change : World → World}
    (same :
      Keeps (SameView fun world : World => (world.machine, world.asked, world.trace))
        (modify change : StateM World PUnit)) :
    Keeps (Aside name) (modify change : StateM World PUnit) := by
  intro world
  obtain ⟨machine, rest⟩ := Prod.mk.inj (same world)
  obtain ⟨asked, trace⟩ := Prod.mk.inj rest
  exact
    { machine := machine
      connect := congrArg Asked.connect asked
      vpnState := congrArg Asked.vpnState asked
      drops := ⟨[], trace.trans (List.append_nil _).symm, by simp⟩ }

theorem sleep_aside (millis : Nat) :
    Keeps (Aside name) (sleep millis) :=
  aside_of_same name fun _ => rfl

theorem onKillSwitch_aside
    {α : Type}
    (program : StateM KsWorld α) :
    Keeps (Aside name) (onKillSwitch program) :=
  fun _ => ⟨rfl, rfl, rfl, [], (List.append_nil _).symm, by simp⟩

theorem noteCall_drops
    {call : NmCall}
    (count : Asked → Asked)
    (other : ∀ server ok, call = .disconnect server ok → server ≠ name) :
    Keeps (DropsOthers name) (noteCall env call count) := by
  intro world
  refine ⟨[call], rfl, ?_⟩
  intro server ok member
  exact other server ok (List.mem_singleton.mp member).symm

theorem noteCall_aside
    {call : NmCall}
    {count : Asked → Asked}
    (connect : ∀ asked, (count asked).connect = asked.connect)
    (vpnState : ∀ asked, (count asked).vpnState = asked.vpnState)
    (other : ∀ server ok, call = .disconnect server ok → server ≠ name) :
    Keeps (Aside name) (noteCall env call count) := by
  intro world
  exact
    { machine := rfl
      connect := connect world.asked
      vpnState := vpnState world.asked
      drops := noteCall_drops env name count other world }

theorem getAllActiveVpns_aside :
    Keeps (Aside name) (getAllActiveVpns env) :=
  @noteCall_aside env name .getAllActiveVpns
    (fun asked => { asked with allActive := asked.allActive + 1 })
    (fun _ => rfl) (fun _ => rfl) (by simp)

theorem nmDisconnect_aside
    {server : String}
    (other : server ≠ name) :
    Keeps (Aside name) (nmDisconnect env server) := by
  intro world
  refine @noteCall_aside env name
    (.disconnect server (env.disconnects world.asked.disconnect))
    (fun asked => { asked with disconnect := asked.disconnect + 1 })
    (fun _ => rfl) (fun _ => rfl) ?_ world
  intro dropped ok same
  rw [← (NmCall.disconnect.inj same).1]
  exact other

theorem disconnectAll_aside (vpns : List ActiveVpnInfo) :
    Keeps (Aside name) (disconnectAll env (otherVpns name vpns)) := by
  apply Keeps.forM
  intro vpn member
  have other : vpn.name ≠ name := by
    simpa [otherVpns] using (List.mem_filter.mp member).2
  exact (nmDisconnect_aside env name other).seq .pure

theorem waitForDisconnects_aside (attempts : Nat) :
    Keeps (Aside name) (waitForDisconnects env name attempts) := by
  induction attempts with
  | zero => exact .pure
  | succ attempts ih =>
    apply (sleep_aside name _).seq
    apply (getAllActiveVpns_aside env name).bind
    intro remaining
    refine .either .pure ?_
    exact .either (disconnectAll_aside env name remaining) ih

theorem disconnectOthers_aside (vpns : List ActiveVpnInfo) :
    Keeps (Aside name) (disconnectOthers env name (otherVpns name vpns)) := by
  apply (disconnectAll_aside env name vpns).seq
  refine .either .pure ?_
  apply (waitForDisconnects_aside env name _).seq
  have kills : Keeps (Aside name) (killOrphanOpenvpnProcesses env) :=
    noteCall_aside env name (fun _ => rfl) (fun _ => rfl) (by simp)
  apply kills.seq
  exact sleep_aside name _

theorem aside_guards :
    GuardsAlong (Aside name) where
  kill := onKillSwitch_aside name
  report _ := aside_of_same name fun _ => rfl

end Aside

/-- A machine that may have been told that a VPN is up. -/
def told (up : Bool) (name : String) (machine : StateMachine) :
    StateMachine :=
  if up then (machine.handleEvent (.nmVpnUp name)).2 else machine

/-- Some attempts to connect were watched to their end. -/
structure Tried (env : Env) (name : String) (before : World) (up : Bool)
    (after : World) : Prop where
  machine : after.machine = told up name before.machine
  ends : Ends env.vpnState before.asked.vpnState after.asked.vpnState up
  drops : DropsOthers name before after

theorem Tried.after
    {env : Env}
    {middle after : World}
    (earlier : Tried env name before false middle)
    (later : Tried env name middle up after) :
    Tried env name before up after where
  machine := by
    rw [later.machine, earlier.machine]
    rfl
  ends := earlier.ends.append later.ends
  drops := IsTrans.trans _ _ _ earlier.drops later.drops

theorem Aside.tried
    {env : Env}
    {after : World}
    (aside : Aside name before after) :
    Tried env name before false after where
  machine := aside.machine
  ends := by
    rw [aside.vpnState]
    exact .none _
  drops := aside.drops

section Attempts

variable (env : Env) (name : String)

abbrev asking (world : World) : World :=
  ((getVpnState env name).run ((sleep connectionMonitorIntervalMs).run world).2).2

theorem asked_drops (world : World) :
    DropsOthers name world (asking env name world) :=
  IsTrans.trans _ _ _ (sleep_aside name _ world).drops
    (noteCall_drops env name
      (fun asked => { asked with vpnState := asked.vpnState + 1 })
      (by simp) _)

theorem monitorConnection_succ
    (attempts : Nat)
    (world : World) :
    (monitorConnection env name (attempts + 1)).run world =
      match env.vpnState world.asked.vpnState with
      | some .activated =>
        (true, ((dispatchAndSync (.nmVpnUp name)).run (asking env name world)).2)
      | some .activating =>
        (monitorConnection env name attempts).run (asking env name world)
      | _ => (false, asking env name world) := by
  rw [monitorConnection, run_bind, run_bind]
  change
    StateT.run
      (match env.vpnState world.asked.vpnState with
      | some .activated => do
          dispatchAndSync (.nmVpnUp name)
          pure true
      | some .activating => monitorConnection env name attempts
      | _ => pure false : StateM World Bool) (asking env name world) = _
  cases env.vpnState world.asked.vpnState with
  | none => rfl
  | some state => cases state <;> rfl

theorem monitorConnection_watch
    (attempts : Nat)
    (world : World) :
    ((monitorConnection env name attempts).run world).1 =
        (watch env.vpnState world.asked.vpnState attempts).1 ∧
      ((monitorConnection env name attempts).run
          world).2.asked.vpnState =
        (watch env.vpnState world.asked.vpnState attempts).2 ∧
      ((monitorConnection env name attempts).run world).2.asked.connect = world.asked.connect ∧
      ((monitorConnection env name attempts).run world).2.machine =
        told (watch env.vpnState world.asked.vpnState attempts).1 name world.machine ∧
      DropsOthers name world ((monitorConnection env name attempts).run world).2 := by
  induction attempts generalizing world with
  | zero => exact ⟨rfl, rfl, rfl, rfl, Std.Refl.refl world⟩
  | succ attempts ih =>
    have drops := asked_drops env name world
    rw [monitorConnection_succ, watch]
    cases answer : env.vpnState world.asked.vpnState with
    | none => exact ⟨rfl, rfl, rfl, rfl, drops⟩
    | some state =>
      cases state with
      | activated =>
        have same := dispatchAndSync_eventOnly (.nmVpnUp name) (asking env name world)
        refine ⟨rfl, congrArg Asked.vpnState same.asked,
          (congrArg Asked.connect same.asked).trans rfl, ?_, ?_⟩
        · exact dispatchAndSync_machine _ _
        · obtain ⟨calls, grows, others⟩ := drops
          exact ⟨calls, same.trace.trans grows, others⟩
      | activating =>
        obtain ⟨result, number, connect, machine, later⟩ :=
          ih (asking env name world)
        exact ⟨result, number, connect, machine, IsTrans.trans _ _ _ drops later⟩
      | _ => exact ⟨rfl, rfl, rfl, rfl, drops⟩

abbrev requesting (world : World) : World :=
  ((nmConnect env name).run world).2

theorem requested_drops (world : World) :
    DropsOthers name world (requesting env name world) :=
  noteCall_drops env name (fun asked => { asked with connect := asked.connect + 1 }) (by simp) world

theorem connectOnce_tried (world : World) :
    Tried env name world ((connectOnce env name).run world).1
        ((connectOnce env name).run world).2 ∧
      ((connectOnce env name).run world).2.asked.connect = world.asked.connect + 1 ∧
      (((connectOnce env name).run world).1,
          ((connectOnce env name).run world).2.asked.vpnState) =
        if env.connects world.asked.connect then
          watch env.vpnState world.asked.vpnState connectionMonitorMaxAttempts
        else
          (false, world.asked.vpnState) := by
  have drops := requested_drops env name world
  rw [connectOnce, run_bind,
    show ((nmConnect env name).run world).1 = env.connects world.asked.connect from rfl]
  cases env.connects world.asked.connect with
  | false =>
    rw [if_neg Bool.false_ne_true, if_neg Bool.false_ne_true]
    exact ⟨⟨rfl, .none _, drops⟩, rfl, rfl⟩
  | true =>
    rw [if_pos rfl, if_pos rfl]
    obtain ⟨result, number, connect, machine, later⟩ :=
      monitorConnection_watch env name connectionMonitorMaxAttempts (requesting env name world)
    refine ⟨⟨?_, ?_, IsTrans.trans _ _ _ drops later⟩, connect, ?_⟩
    · rw [result]
      exact machine
    · rw [result, number]
      exact ends_watch env.vpnState world.asked.vpnState _
    · rw [result, number]
      rfl

theorem connectAttempts_tried
    (attempts : Nat)
    (world : World) :
    Tried env name world ((connectAttempts env name attempts).run world).1
        ((connectAttempts env name attempts).run world).2 ∧
      ((connectAttempts env name attempts).run world).1 =
        comesUp env world.asked.connect world.asked.vpnState attempts := by
  induction attempts generalizing world with
  | zero => exact ⟨(Std.Refl.refl world : Aside name world world).tried, rfl⟩
  | succ attempts ih =>
    obtain ⟨tried, connect, watched⟩ := connectOnce_tried env name world
    have isUp : comesUp env world.asked.connect world.asked.vpnState
        (attempts + 1) =
          (((connectOnce env name).run world).1 ||
            comesUp env
              ((connectOnce env name).run world).2.asked.connect
              ((connectOnce env name).run world).2.asked.vpnState
              attempts) := by
      rw [comesUp, connect]
      by_cases accepted : env.connects world.asked.connect = true
      · rw [if_pos accepted] at watched ⊢
        rw [← watched]
      · rw [if_neg accepted] at watched ⊢
        obtain ⟨down, number⟩ := Prod.mk.inj watched
        rw [down, number, Bool.false_or]
    rw [connectAttempts, run_bind, isUp]
    cases up : ((connectOnce env name).run world).1 with
    | true =>
      rw [up] at tried
      exact ⟨tried, rfl⟩
    | false =>
      rw [up] at tried
      rw [if_neg Bool.false_ne_true, Bool.false_or]
      by_cases last : attempts = 0
      · rw [if_pos last, last]
        exact ⟨tried, rfl⟩
      · rw [if_neg last]
        have slept := sleep_aside name connectRetryDelayMs ((connectOnce env name).run world).2
        obtain ⟨later, result⟩ :=
          ih
            ((sleep connectRetryDelayMs).run ((connectOnce env name).run world).2).2
        exact ⟨(tried.after slept.tried).after later, result⟩

end Attempts

section Connect

variable (env : Env) (name : String)

/-- What a connect is expected to leave behind. -/
structure Settled (before after : World) : Prop where
  up :
    (observed env before after).getLast? = some (some .activated) →
      after.machine.state = .connected name
  failed :
    (∀ answer ∈ observed env before after, answer ≠ some .activated) →
      after.machine.state = .disconnected
  dropped :
    ∀ server ok,
      NmCall.disconnect server ok ∈
          after.trace.drop before.trace.length →
        after.machine.state.serverName ≠ some server

/-- The state after a connect, given whether one of its attempts came up. -/
def stateAfterConnect (state : VpnState) (up : Bool) : VpnState :=
  if state.isUp then state
  else if up then .connected name
  else .disconnected

/-- Whether a connect that starts in a state comes up. -/
def connectComesUp (world : World) : Bool :=
  comesUp env world.asked.connect world.asked.vpnState maxConnectAttempts

abbrev requestedMachine (world : World) : StateMachine :=
  (world.machine.handleEvent (.userEnable name)).2

structure Answered (world : World) (up : Bool) (state : World) : Prop where
  result : up = connectComesUp env world
  machine : state.machine = told up name (requestedMachine name world)
  ends : Ends env.vpnState world.asked.vpnState state.asked.vpnState up
  drops : DropsOthers name world state

variable {world : World}

theorem Answered.aside
    {after : World}
    (answered : Answered env name world up before)
    (aside : Aside name before after) :
    Answered env name world up after where
  result := answered.result
  machine := aside.machine.trans answered.machine
  ends := by
    rw [aside.vpnState]
    exact answered.ends
  drops := IsTrans.trans _ _ _ answered.drops aside.drops

theorem dispatchAndSync_drops
    (event : Event)
    (world : World) :
    DropsOthers name world ((dispatchAndSync event).run world).2 := by
  have same := dispatchAndSync_eventOnly event world
  exact ⟨[], same.trace.trans (List.append_nil _).symm, by simp⟩

theorem connectAttempts_answered (world : World) :
    Ensures (Aside name world)
      (do
        dispatchAndSync (.userEnable name)
        connectAttempts env name maxConnectAttempts)
      (Answered env name world) := by
  intro before aside
  have asked := (dispatchAndSync_eventOnly (.userEnable name) before).asked
  obtain ⟨tried, result⟩ :=
    connectAttempts_tried env name maxConnectAttempts
      ((dispatchAndSync (.userEnable name)).run before).2
  rw [asked, aside.connect, aside.vpnState] at result
  have machine := tried.machine
  rw [dispatchAndSync_machine, aside.machine] at machine
  have ends := tried.ends
  rw [asked, aside.vpnState] at ends
  have drops :=
    IsTrans.trans _ _ _ aside.drops (dispatchAndSync_drops name (.userEnable name) before)
  exact ⟨result, machine, ends, IsTrans.trans _ _ _ drops tried.drops⟩

theorem switchConnection_answered (world : World) :
    Ensures (Aside name world) (switchConnection env name) (Answered env name world) := by
  refine ((getAllActiveVpns_aside env name).ensures world).bind ?_
  intro active
  have notes : Keeps (Aside name) (noteSwitchedFrom (otherVpns name active)) :=
    aside_of_same name fun _ => rfl
  refine (notes.ensures world).seq ?_
  refine ((disconnectOthers_aside env name active).ensures world).seq ?_
  refine ((getAllActiveVpns_aside env name).ensures world).seq ?_
  exact connectAttempts_answered env name world

/-- What the state of the supervisor is after a connect. -/
structure Connected (world after : World) : Prop where
  state :
    after.machine.state = stateAfterConnect name world.machine.state (connectComesUp env world)
  ends : Ends env.vpnState world.asked.vpnState after.asked.vpnState (connectComesUp env world)
  drops : DropsOthers name world after

theorem requestedMachine_state (world : World) :
    (world.machine.state.isUp = true ∧
        (requestedMachine name world).state = world.machine.state) ∨
      (world.machine.state.isUp = false ∧ (requestedMachine name world).state.isBusy = true) := by
  cases up : world.machine.state.isUp with
  | true => exact .inl ⟨rfl, StateMachine.afterEvent_userEnable_of_isUp up name⟩
  | false => exact .inr ⟨rfl, StateMachine.isBusy_afterEvent_userEnable up name⟩

theorem isUp_of_isBusy
    {state : VpnState}
    (busy : state.isBusy = true) :
    state.isUp = false := by
  cases state with
  | connecting server => rfl
  | reconnecting server attempt maxAttempts => rfl
  | _ => exact Bool.noConfusion busy

theorem isBusy_of_isUp
    {state : VpnState}
    (up : state.isUp = true) :
    state.isBusy = false := by
  cases busy : state.isBusy with
  | false => rfl
  | true => exact absurd (isUp_of_isBusy busy) (by simp [up])

theorem Answered.connected
    {state : World}
    (answered : Answered env name world true state) :
    Connected env name world state := by
  have result := answered.result
  refine ⟨?_, ?_, answered.drops⟩
  · have toldUp :
        state.machine.state = (requestedMachine name world).afterEvent (.nmVpnUp name) := by
      rw [answered.machine]
      rfl
    rw [toldUp, StateMachine.afterEvent_nmVpnUp, stateAfterConnect, ← result, if_pos rfl]
    rcases requestedMachine_state name world with
      ⟨up, same⟩ | ⟨notUp, busy⟩
    · rw [same, if_pos up]
    · rw [isUp_of_isBusy busy, notUp]
      rfl
  · rw [← result]
    exact answered.ends

theorem giveUpSwitch_connected
    {state : World}
    (answered : Answered env name world false state) :
    Connected env name world (giveUpSwitch.run state).2 := by
  have result := answered.result
  have told :
      (giveUpSwitch.run state).2.machine.state =
        (requestedMachine name world).afterEvent (.connectionFailed
          ("Failed to connect after " ++ toString maxConnectAttempts ++ " attempts")) := by
    rw [giveUpSwitch, run_bind, dispatchAndSync_machine]
    exact congrArg (fun machine : StateMachine => (machine.handleEvent _).2.state) answered.machine
  have cleared : (giveUpSwitch.run state).2.asked = state.asked := by
    rw [giveUpSwitch, run_bind]
    exact (dispatchAndSync_eventOnly _ _).asked
  refine ⟨?_, ?_, ?_⟩
  · rw [told, StateMachine.afterEvent_connectionFailed, stateAfterConnect, ← result]
    rcases requestedMachine_state name world with
      ⟨up, same⟩ | ⟨notUp, busy⟩
    · rw [same, isBusy_of_isUp up, if_pos up]
      rfl
    · rw [if_pos busy, notUp]
      rfl
  · rw [← result, cleared]
    exact answered.ends
  · exact IsTrans.trans _ _ _ answered.drops (dispatchAndSync_drops name _ _)

/-- The outcome of a connect, from the state and the answers alone. -/
theorem handleConnect_connected (world : World) :
    Connected env name world ((handleConnect env name).run world).2 := by
  have begins : Keeps (Aside name) (beginSwitch name) :=
    aside_of_same name fun _ => rfl
  have finishes : Keeps (Aside name) finishSwitch :=
    aside_of_same name fun _ => rfl
  have spec :
      Ensures (Aside name world) (handleConnect env name) (fun _ => Connected env name world) := by
    refine (begins.ensures world).seq ?_
    refine (((aside_guards name).effectivePreConnect env name).ensures world).bind ?_
    intro preConnect
    refine (((aside_guards name).prepareKillSwitch env preConnect).ensures world).seq ?_
    refine (switchConnection_answered env name world).bind ?_
    intro up
    have rearms :
        Ensures (Answered env name world up) (rearmKillSwitch env up)
          (fun _ => Answered env name world up) :=
      fun state answered =>
        answered.aside env name ((aside_guards name).rearmKillSwitch env up state)
    refine rearms.seq ?_
    have clears :
        Ensures (Answered env name world up) finishSwitch (fun _ => Answered env name world up) :=
      fun state answered => answered.aside env name (finishes state)
    refine clears.seq ?_
    cases up with
    | true => exact .pure (fun _ answered => answered.connected env name)
    | false => exact fun _ answered => giveUpSwitch_connected env name answered
  exact spec world (Std.Refl.refl world)

/--
A connect settles as expected exactly if no VPN is up in the state it starts
in, or the target itself is connected and comes up again.
-/
theorem handleConnect_settled_iff (world : World) :
    Settled env name world ((handleConnect env name).run world).2 ↔
      world.machine.state.isUp = false ∨
        (world.machine.state = .connected name ∧ connectComesUp env world = true) := by
  obtain ⟨state, ends, drops⟩ := handleConnect_connected env name world
  have lastUp :
      (observed env world
          ((handleConnect env name).run world).2).getLast? =
        some (some .activated) ↔ connectComesUp env world = true :=
    ends.getLast?_eq_iff
  have allDown :
      (∀ answer ∈ observed env world
          ((handleConnect env name).run world).2,
        answer ≠ some .activated) ↔ connectComesUp env world = false :=
    ends.all_ne_iff
  constructor
  · intro settled
    cases up : world.machine.state.isUp with
    | false => exact .inl rfl
    | true =>
      right
      rw [stateAfterConnect, if_pos up] at state
      cases comes : connectComesUp env world with
      | true =>
        rw [← state]
        exact ⟨settled.up (lastUp.mpr comes), rfl⟩
      | false =>
        have isDisconnected := settled.failed (allDown.mpr comes)
        rw [← state, isDisconnected] at up
        exact Bool.noConfusion up
  · intro condition
    have names :
        ∀ server,
          ((handleConnect env name).run world).2.machine.state.serverName =
              some server →
            server = name := by
      intro server isServer
      rw [state, stateAfterConnect] at isServer
      rcases condition with notUp | ⟨same, -⟩
      · rw [notUp, if_neg Bool.false_ne_true] at isServer
        cases comes : connectComesUp env world with
        | true =>
          rw [comes] at isServer
          exact (Option.some.inj isServer).symm
        | false =>
          rw [comes] at isServer
          exact absurd isServer nofun
      · rw [same] at isServer
        exact (Option.some.inj isServer).symm
    refine ⟨?_, ?_, ?_⟩
    · intro isLast
      rw [state, stateAfterConnect, lastUp.mp isLast, if_pos rfl]
      rcases condition with notUp | ⟨same, -⟩
      · rw [notUp, if_neg Bool.false_ne_true]
      · rw [same]
        rfl
    · intro noneUp
      have comes := allDown.mp noneUp
      rcases condition with notUp | ⟨-, isUp⟩
      · rw [state, stateAfterConnect, comes, notUp]
        rfl
      · exact absurd (isUp.symm.trans comes) nofun
    · intro server ok called isServer
      exact drops.of_drop called (names server isServer)

end Connect

/-- `paris` is active, and every connection that is asked for comes up. -/
def willingEnv : Env :=
  { calmEnv with
    allActive := fun number => if number = 0 then [⟨"paris", .activated⟩] else []
    vpnState := fun _ => some .activated
    connects := fun _ => true }

/-- A switch that works leaves the machine with the server it disconnected. -/
theorem connect_keeps_dropped_server :
    let before := worldIn (.connected "paris")
    let after := ((handleConnect willingEnv "berlin").run before).2
    (observed willingEnv before after).getLast? = some (some .activated) ∧
      NmCall.disconnect "paris" true ∈ after.trace ∧
      NmCall.connect "berlin" true ∈ after.trace ∧
      after.machine.state = .connected "paris" := by
  decide

end Shroud.Supervisor
