import Shroud.HandlerFrame

namespace Shroud.Supervisor

open StateProgram

/-!
# Handlers and the answers of `connect`

A handler reaches `Connected` by itself only after NetworkManager has reported
a successful `connect`.  As long as every `connect` fails, it leaves it at the
state being `Connected` or not.
-/

def TraceGrows (before after : World) : Prop :=
  before.trace <+: after.trace

instance : IsPreorder World TraceGrows where
  refl _ := List.prefix_refl _
  trans _ _ _ first second := first.trans second

/-- A handler went on: the queue of deferred commands is as it was. -/
structure Proceeds (before after : World) : Prop where
  grows : TraceGrows before after
  deferred : after.deferredCommands = before.deferredCommands
  inProgress : after.timing.reconnectInProgress = before.timing.reconnectInProgress

instance : IsPreorder World Proceeds where
  refl _ := ⟨List.prefix_refl _, rfl, rfl⟩
  trans _ _ _ first second :=
    ⟨first.grows.trans second.grows, second.deferred.trans first.deferred,
      second.inProgress.trans first.inProgress⟩

theorem proceeds_ignores (start : World) :
    Ignores (Proceeds start) :=
  fun _ _ rest before =>
    IsTrans.trans _ _ _ before ⟨rest.grows, rest.deferred, rest.running⟩

theorem grows_ignores (start : World) :
    Ignores (TraceGrows start) :=
  fun _ _ rest before => before.trans rest.grows

/-- A `connect` has succeeded since the trace had a given length. -/
def ConnectedSince (start : Nat) (world : World) : Prop :=
  ∃ name, NmCall.connect name true ∈ world.trace.drop start

variable {start first second : Nat} {before world middle : World}

theorem ConnectedSince.grows
    {after : World}
    (connected : ConnectedSince start before)
    (grows : TraceGrows before after) :
    ConnectedSince start after := by
  obtain ⟨name, member⟩ := connected
  exact ⟨name, (grows.drop start).subset member⟩

theorem ConnectedSince.since
    {later : Nat}
    (connected : ConnectedSince later world)
    (notLater : start ≤ later) :
    ConnectedSince start world := by
  obtain ⟨name, member⟩ := connected
  exact ⟨name, List.drop_subset_drop_left _ notLater member⟩

/--
A stretch in which NetworkManager was asked a number of times to connect and
refused each time: whether the state is `Connected` has not changed.
-/
structure Refused (times : Nat) (before after : World) : Prop where
  connected : after.machine.state.isConnected = before.machine.state.isConnected
  asked : after.asked.connect = before.asked.connect + times
  grows : TraceGrows before after
  refused :
    ∀ start, start ≤ before.trace.length →
      (ConnectedSince start after ↔ ConnectedSince start before)

/-- A stretch without any attempt to connect. -/
structure Unasked (before after : World) : Prop extends
    Refused 0 before after, Proceeds before after

theorem Refused.trans
    {after : World}
    (earlier : Refused first before middle)
    (later : Refused second middle after) :
    Refused (first + second) before after where
  connected := later.connected.trans earlier.connected
  asked := by rw [later.asked, earlier.asked, Nat.add_assoc]
  grows := earlier.grows.trans later.grows
  refused := by
    intro start longEnough
    have grown : before.trace.length ≤ middle.trace.length := earlier.grows.length_le
    rw [later.refused start (longEnough.trans grown), earlier.refused start longEnough]

instance : IsPreorder World Unasked where
  refl _ := ⟨⟨rfl, rfl, List.prefix_refl _, fun _ _ => Iff.rfl⟩, rfl, rfl⟩
  trans _ _ _ first second :=
    ⟨first.toRefused.trans second.toRefused,
      second.deferred.trans first.deferred,
      second.inProgress.trans first.inProgress⟩

theorem connectedSince_append
    {after : World}
    {call : NmCall}
    (longEnough : start ≤ before.trace.length)
    (trace : after.trace = before.trace ++ [call]) :
    ConnectedSince start after ↔
      ConnectedSince start before ∨ ∃ name, call = .connect name true := by
  rw [ConnectedSince, trace, List.drop_append_of_le_length longEnough]
  simp only [List.mem_append, List.mem_singleton, exists_or, ConnectedSince, eq_comm]

section Unasked

variable (env : Env)

/-- What a stretch without an attempt leaves alone. -/
def attemptView (world : World) : Bool × Nat × List VpnCommand × Bool × List NmCall :=
  (world.machine.state.isConnected, world.asked.connect, world.deferredCommands,
    world.timing.reconnectInProgress, world.trace)

theorem unasked_of_same
    {α : Type}
    {program : StateM World α}
    (same : Keeps (SameView attemptView) program) :
    Keeps Unasked program := by
  intro world
  have view := same world
  simp only [SameView, attemptView, Prod.mk.injEq] at view
  obtain ⟨connected, asked, deferred, inProgress, trace⟩ := view
  exact
    { connected := connected
      asked := asked
      deferred := deferred
      inProgress := inProgress
      grows := by rw [TraceGrows, trace]
      refused := by
        intro start _
        rw [ConnectedSince, trace]
        rfl }

theorem noteCall_unasked
    {call : NmCall}
    {count : Asked → Asked}
    (other : ∀ name, call ≠ .connect name true)
    (sameCount : ∀ asked, (count asked).connect = asked.connect) :
    Keeps Unasked (noteCall env call count) := by
  intro world
  exact
    { connected := rfl
      asked := sameCount world.asked
      deferred := rfl
      inProgress := rfl
      grows := List.prefix_append _ _
      refused := by
        intro start longEnough
        rw [connectedSince_append longEnough rfl]
        simp [other] }

theorem sleep_unasked (millis : Nat) :
    Keeps Unasked (sleep millis) :=
  unasked_of_same (fun _ => rfl)

theorem onKillSwitch_unasked
    {α : Type}
    (program : StateM KsWorld α) :
    Keeps Unasked (onKillSwitch program) :=
  fun _ => ⟨⟨rfl, rfl, List.prefix_refl _, fun _ _ => Iff.rfl⟩, rfl, rfl⟩

theorem getAllActiveVpns_unasked :
    Keeps Unasked (getAllActiveVpns env) :=
  .get fun _ => .bind (noteCall_unasked env nofun (fun _ => rfl)) fun _ => .pure

theorem getActiveVpn_unasked :
    Keeps Unasked (getActiveVpn env) :=
  .get fun _ => .bind (noteCall_unasked env nofun (fun _ => rfl)) fun _ => .pure

theorem getVpnState_unasked (name : String) :
    Keeps Unasked (getVpnState env name) :=
  .get fun _ => .bind (noteCall_unasked env nofun (fun _ => rfl)) fun _ => .pure

theorem nmDisconnect_unasked (name : String) :
    Keeps Unasked (nmDisconnect env name) :=
  .get fun _ => .bind (noteCall_unasked env nofun (fun _ => rfl)) fun _ => .pure

theorem listVpnConnections_unasked :
    Keeps Unasked (listVpnConnections env) :=
  .get fun _ => .bind (noteCall_unasked env nofun (fun _ => rfl)) fun _ => .pure

theorem dispatchAndSync_unasked
    {event : Event}
    (keepsConnected :
      ∀ machine : StateMachine,
        (machine.afterEvent event).isConnected = machine.state.isConnected) :
    Keeps Unasked (dispatchAndSync event) := by
  intro world
  have same := dispatchAndSync_eventOnly event world
  exact
    { connected := by
        rw [dispatchAndSync_machine]
        exact keepsConnected world.machine
      asked := congrArg Asked.connect same.asked
      deferred := same.deferred
      inProgress := congrArg TimingState.reconnectInProgress same.timing
      grows := by rw [TraceGrows, same.trace]
      refused := by
        intro start _
        rw [ConnectedSince, same.trace]
        rfl }

theorem modifyShared_unasked (change : SharedState → SharedState) :
    Keeps Unasked (modifyShared change) :=
  unasked_of_same (fun _ => rfl)

theorem storeKillSwitch_unasked (enabled : Bool) :
    Keeps Unasked (storeKillSwitch enabled) :=
  unasked_of_same (fun _ => rfl)

theorem requestExit_unasked (reason : String) :
    Keeps Unasked (requestExit reason) :=
  unasked_of_same (fun _ => rfl)

theorem killOrphans_unasked :
    Keeps Unasked (killOrphanOpenvpnProcesses env) :=
  noteCall_unasked env nofun fun _ => rfl

end Unasked

section Commands

variable (env : Env)

theorem toggleAutoReconnect_unasked :
    Keeps Unasked toggleAutoReconnect :=
  unasked_of_same (fun _ => rfl)

theorem unasked_guards :
    GuardsAlong Unasked where
  kill := onKillSwitch_unasked
  report _ := unasked_of_same (fun _ => rfl)

theorem toggleKillSwitch_unasked :
    Keeps Unasked (toggleKillSwitch env) :=
  unasked_guards.toggleKillSwitch env storeKillSwitch_unasked

theorem toggleAutostart_unasked :
    Keeps Unasked (toggleAutostart env) := by
  refine .get ?_
  intro world
  refine .seq (unasked_of_same (fun _ => rfl)) ?_
  cases env.autostart world.asked.autostart with
  | none => exact .pure
  | some enabled => exact unasked_of_same (fun _ => rfl)

theorem refreshConnections_unasked :
    Keeps Unasked (refreshConnections env) :=
  (listVpnConnections_unasked env).bind (fun _ => modifyShared_unasked _)

theorem handleRestart_unasked :
    Keeps Unasked (handleRestart env) := by
  refine .get ?_
  intro world
  refine .seq (unasked_of_same (fun _ => rfl)) ?_
  refine .either ?_ .pure
  exact (sleep_unasked _).seq (requestExit_unasked _)

theorem handleQuit_unasked :
    Keeps Unasked (handleQuit env) := by
  refine (unasked_guards.cleanupOnExit env).seq ?_
  exact (sleep_unasked _).seq (requestExit_unasked _)

end Commands

section Connecting

variable (env : Env)

/-- NetworkManager refuses the next attempts to connect. -/
def RefusesNext (times : Nat) (world : World) : Prop :=
  ∀ index < times, env.connects (world.asked.connect + index) = false

/--
A stretch that makes some attempts to connect as long as they are refused, and
ends with a successful one otherwise.
-/
structure Attempts (times : Nat) (before after : World) : Prop where
  grows : TraceGrows before after
  refused : RefusesNext env times before → Refused times before after
  accepted : ¬RefusesNext env times before → ConnectedSince before.trace.length after

theorem Refused.attempts
    {after : World}
    (unasked : Refused 0 before after) :
    Attempts env 0 before after where
  grows := unasked.grows
  refused _ := unasked
  accepted notRefused := absurd (fun _ below => absurd below (Nat.not_lt_zero _)) notRefused

theorem RefusesNext.split
    (refuses : RefusesNext env first before)
    (asked : middle.asked.connect = before.asked.connect + first) :
    RefusesNext env (first + second) before ↔ RefusesNext env second middle := by
  constructor
  · intro all index below
    rw [asked, Nat.add_assoc]
    exact all (first + index) (by omega)
  · intro later index below
    by_cases early : index < first
    · exact refuses index early
    · have isLater := later (index - first) (by omega)
      rw [asked] at isLater
      rw [show before.asked.connect + index =
        before.asked.connect + first + (index - first) by omega]
      exact isLater

theorem Attempts.andThen
    {after : World}
    (earlier : Attempts env first before middle)
    (grows : TraceGrows middle after)
    (later : RefusesNext env first before → Attempts env second middle after) :
    Attempts env (first + second) before after where
  grows := earlier.grows.trans grows
  refused := by
    intro refuses
    have refusesFirst : RefusesNext env first before := fun index below => refuses index (by omega)
    have stretch := earlier.refused refusesFirst
    have refusesSecond := (refusesFirst.split env stretch.asked).mp refuses
    exact stretch.trans ((later refusesFirst).refused refusesSecond)
  accepted := by
    intro notRefused
    by_cases refusesFirst : RefusesNext env first before
    · have stretch := earlier.refused refusesFirst
      rw [refusesFirst.split env stretch.asked] at notRefused
      have accepted := (later refusesFirst).accepted notRefused
      exact accepted.since earlier.grows.length_le
    · exact (earlier.accepted refusesFirst).grows grows

/-- The program makes a number of attempts as long as they are refused. -/
def Asks {α : Type} (times : Nat) (program : StateM World α) : Prop :=
  Keeps (Attempts env times) program

theorem asks_of_unasked
    {α : Type}
    {program : StateM World α}
    (unasked : Keeps Unasked program) :
    Asks env 0 program :=
  fun world => (unasked world).toRefused.attempts env

theorem Asks.bind
    {α β : Type}
    {first second : Nat}
    {program : StateM World α}
    {next : α → StateM World β}
    (earlier : Asks env first program)
    (later : ∀ value, Asks env second (next value)) :
    Asks env (first + second) (program >>= next) := by
  intro world
  have attempts := later (program.run world).1 (program.run world).2
  exact (earlier world).andThen env attempts.grows fun _ => attempts

variable {times : Nat}

section

variable {α β : Type} {program : StateM World α} {next : α → StateM World β}

theorem Asks.then
    (earlier : Asks env times program)
    (later : ∀ value, Keeps Unasked (next value)) :
    Asks env times (program >>= next) :=
  earlier.bind env fun value => asks_of_unasked env (later value)

theorem Asks.after
    (earlier : Keeps Unasked program)
    (later : ∀ value, Asks env times (next value)) :
    Asks env times (program >>= next) := by
  have asks := (asks_of_unasked env earlier).bind env later
  rw [Nat.zero_add] at asks
  exact asks

end

theorem nmConnect_refused
    (name : String)
    (refuses : env.connects world.asked.connect = false) :
    Refused 1 world ((nmConnect env name).run world).2 where
  connected := rfl
  asked := rfl
  grows := List.prefix_append _ _
  refused := by
    intro start longEnough
    rw [connectedSince_append longEnough rfl, refuses]
    simp

theorem nmConnect_accepted
    (name : String)
    (accepts : env.connects world.asked.connect = true) :
    ConnectedSince world.trace.length ((nmConnect env name).run world).2 := by
  rw [connectedSince_append (Nat.le_refl _) rfl, accepts]
  exact .inr ⟨name, rfl⟩

theorem dispatchAndSync_proceeds (event : Event) :
    Keeps Proceeds (dispatchAndSync event) := by
  intro world
  have same := dispatchAndSync_eventOnly event world
  refine ⟨?_, same.deferred, congrArg TimingState.reconnectInProgress same.timing⟩
  rw [TraceGrows, same.trace]

theorem asks_connect
    {α : Type}
    {name : String}
    {accepted refused : StateM World α}
    (afterwards : Keeps TraceGrows accepted)
    (later : Asks env times refused) :
    Asks env (1 + times) (do if ← nmConnect env name then accepted else refused) := by
  intro world
  have asked : TraceGrows world ((nmConnect env name).run world).2 := List.prefix_append _ _
  rw [run_bind, show ((nmConnect env name).run world).1 = env.connects world.asked.connect from rfl]
  cases answer : env.connects world.asked.connect with
  | true =>
    rw [if_pos rfl]
    have connected := nmConnect_accepted env name answer
    have grows := afterwards ((nmConnect env name).run world).2
    have accepts : ¬RefusesNext env (1 + times) world := by
      intro refuses
      have refusesFirst := refuses 0 (by omega)
      rw [Nat.add_zero, answer] at refusesFirst
      exact Bool.noConfusion refusesFirst
    exact
      { grows := asked.trans grows
        refused := fun refuses => absurd refuses accepts
        accepted := fun _ => connected.grows grows }
  | false =>
    rw [if_neg Bool.false_ne_true]
    have stretch := nmConnect_refused env name answer
    have refusesFirst : RefusesNext env 1 world := by
      intro index below
      rw [show index = 0 by omega]
      exact answer
    have first : Attempts env 1 world ((nmConnect env name).run world).2 :=
      { grows := stretch.grows
        refused := fun _ => stretch
        accepted := fun notRefused => absurd refusesFirst notRefused }
    have attempts := later ((nmConnect env name).run world).2
    exact first.andThen env attempts.grows fun _ => attempts

theorem connectOnce_bind
    {α : Type}
    (name : String)
    (next : Bool → StateM World α) :
    (connectOnce env name >>= next) =
      (do
        if ← nmConnect env name then
          monitorConnection env name connectionMonitorMaxAttempts >>= next
        else
          next false) := by
  funext world
  change
    ((if env.connects world.asked.connect then
        monitorConnection env name connectionMonitorMaxAttempts
      else pure false) >>= next).run ((nmConnect env name).run world).2 =
    (if env.connects world.asked.connect then
        monitorConnection env name connectionMonitorMaxAttempts >>= next
      else next false).run ((nmConnect env name).run world).2
  cases env.connects world.asked.connect <;> rfl

theorem connectAttempts_asks
    (name : String)
    (attempts : Nat) :
    Asks env attempts (connectAttempts env name attempts) := by
  induction attempts with
  | zero => exact asks_of_unasked env .pure
  | succ attempts ih =>
    rw [connectAttempts, connectOnce_bind, Nat.add_comm]
    refine asks_connect env ?_ ?_
    · refine .of_preserves fun start => ?_
      have steps := @(grows_ignores start).steps env
      refine .bind (steps.monitorConnection trivial _) ?_
      intro up
      refine .either .pure ?_
      refine .either .pure ?_
      exact .seq (steps.sleep _) (steps.connectAttempts trivial _)
    · rw [if_neg Bool.false_ne_true]
      by_cases last : attempts = 0
      · rw [if_pos last, last]
        exact asks_of_unasked env .pure
      · rw [if_neg last]
        exact .after env (sleep_unasked _) fun _ => ih

theorem unasked_waits :
    WaitsAlong env Unasked where
  sleep := sleep_unasked
  getAllActiveVpns := getAllActiveVpns_unasked env
  getVpnState := getVpnState_unasked env
  nmDisconnect := nmDisconnect_unasked env
  killOrphans := killOrphans_unasked env

theorem switchConnection_asks (name : String) :
    Asks env maxConnectAttempts (switchConnection env name) := by
  refine .after env (getAllActiveVpns_unasked env) ?_
  intro active
  have notes : Keeps Unasked (noteSwitchedFrom (otherVpns name active)) :=
    unasked_of_same (fun _ => rfl)
  refine .after env notes ?_
  intro _
  refine .after env ((unasked_waits env).disconnectOthers name _) ?_
  intro _
  refine .after env (getAllActiveVpns_unasked env) ?_
  intro _
  have requests : Keeps Unasked (dispatchAndSync (.userEnable name)) :=
    dispatchAndSync_unasked (fun machine => machine.isConnected_afterEvent_userEnable name)
  refine .after env requests ?_
  intro _
  exact connectAttempts_asks env name _

/-- A connect makes three attempts as long as they are refused. -/
theorem handleConnect_asks (name : String) :
    Asks env maxConnectAttempts (handleConnect env name) := by
  refine .after env (unasked_of_same (fun _ => rfl)) ?_
  intro _
  refine .after env (unasked_guards.effectivePreConnect env name) ?_
  intro preConnect
  refine .after env (unasked_guards.prepareKillSwitch env preConnect) ?_
  intro _
  refine (switchConnection_asks env name).then env ?_
  intro succeeded
  refine (unasked_guards.rearmKillSwitch env succeeded).seq ?_
  refine .seq (unasked_of_same (fun _ => rfl)) ?_
  refine .either .pure ?_
  refine .seq (unasked_of_same (fun _ => rfl)) ?_
  exact dispatchAndSync_unasked fun machine => machine.isConnected_afterEvent_connectionFailed _

/-- The attempts to connect that a deferred command may make. -/
def attemptsOf : VpnCommand → Nat
  | .connect _ => maxConnectAttempts
  | _ => 0

theorem handleCommand_asks
    {command : VpnCommand}
    (stays : command ≠ .disconnect) :
    Asks env (attemptsOf command) (handleCommand env command) := by
  cases command with
  | connect server => exact handleConnect_asks env server
  | disconnect => exact absurd rfl stays
  | toggleAutoReconnect => exact asks_of_unasked env toggleAutoReconnect_unasked
  | toggleKillSwitch => exact asks_of_unasked env (toggleKillSwitch_unasked env)
  | toggleAutostart => exact asks_of_unasked env (toggleAutostart_unasked env)
  | refreshConnections =>
    exact asks_of_unasked env (refreshConnections_unasked env)
  | restart => exact asks_of_unasked env (handleRestart_unasked env)
  | quit => exact asks_of_unasked env (handleQuit_unasked env)
  | _ => exact asks_of_unasked env .pure

theorem handleCommand_proceeds (command : VpnCommand) :
    Keeps Proceeds (handleCommand env command) := by
  refine .of_preserves fun start => ?_
  have ignores := proceeds_ignores start
  refine ignores.handleCommand (ignores.handleConnect ?_) ?_
  · exact fun _ _ mark world before =>
      ⟨before.grows, before.deferred, (congrArg Prod.fst (mark world)).trans before.inProgress⟩
  · exact fun _ _ _ before => ⟨before.grows, before.deferred, before.inProgress⟩

theorem drainDeferred_grows (fuel : Nat) :
    Keeps TraceGrows (drainDeferred env fuel) := by
  refine .of_preserves fun start => drainDeferred_preserves ?_ fuel
  intro world command rest before _
  exact before.trans
    (handleCommand_proceeds env command { world with deferredCommands := rest }).grows

theorem drainDeferred_cons
    {command : VpnCommand}
    {rest : List VpnCommand}
    (deferred : world.deferredCommands = command :: rest) :
    (drainDeferred env (command :: rest).length).run world =
      (drainDeferred env rest.length).run
        ((handleCommand env command).run { world with deferredCommands := rest }).2 := by
  rw [List.length_cons, drainDeferred, run_get_bind]
  rw [deferred]
  rfl

theorem drainDeferred_idle
    {commands : List VpnCommand}
    {world : World}
    (deferred : world.deferredCommands = commands)
    (notInProgress : world.timing.reconnectInProgress = false) :
    ((drainDeferred env commands.length).run world).2.deferredCommands =
        [] ∧
      ((drainDeferred env commands.length).run world).2.timing.reconnectInProgress = false := by
  induction commands generalizing world with
  | nil => exact ⟨deferred, notInProgress⟩
  | cons command rest ih =>
    have handled := handleCommand_proceeds env command { world with deferredCommands := rest }
    rw [drainDeferred_cons env deferred]
    exact ih handled.deferred (handled.inProgress.trans notInProgress)

def totalAttempts (commands : List VpnCommand) : Nat :=
  (commands.map attemptsOf).sum

theorem drainDeferred_attempts
    {commands : List VpnCommand}
    (stay : VpnCommand.disconnect ∉ commands)
    {world : World}
    (deferred : world.deferredCommands = commands) :
    Attempts env (totalAttempts commands) world
      ((drainDeferred env commands.length).run world).2 := by
  induction commands generalizing world with
  | nil =>
    exact Refused.attempts env ⟨rfl, rfl, List.prefix_refl _, fun _ _ => Iff.rfl⟩
  | cons command rest ih =>
    let popped : World := { world with deferredCommands := rest }
    have isOther : command ≠ .disconnect := by
      rintro rfl
      exact stay List.mem_cons_self
    have stayRest : VpnCommand.disconnect ∉ rest :=
      fun member => stay (List.mem_cons_of_mem _ member)
    have handled := handleCommand_asks env isOther popped
    have proceeds := handleCommand_proceeds env command popped
    have pops : Attempts env 0 world popped :=
      Refused.attempts env ⟨rfl, rfl, List.prefix_refl _, fun _ _ => Iff.rfl⟩
    have drains :
        Attempts env (attemptsOf command + totalAttempts rest) popped
          ((drainDeferred env rest.length).run ((handleCommand env command).run popped).2).2 := by
      refine handled.andThen env (drainDeferred_grows env _ _) ?_
      exact fun _ => ih stayRest proceeds.deferred
    have total := pops.andThen env drains.grows (fun _ => drains)
    rw [Nat.zero_add] at total
    rw [drainDeferred_cons env deferred, totalAttempts, List.map_cons, List.sum_cons]
    exact total

end Connecting

end Shroud.Supervisor
