import Shroud.HandlerInvariant

namespace Shroud.Supervisor

open StateProgram

/-!
# Invariants about what the handlers rarely touch

Almost everything a handler does is seen in the machine, the calls, the
settings and the times.  An invariant about the rest is kept by the handlers as
soon as it is kept by the few steps that are about it.
-/

/--
The rest is as it was: the limit of the machine, the switch that is going on,
the reconnect that is running, the last wake-up, the commands put off, the
backoffs and the exit.  The calls are only added to.
-/
structure RestKept (before after : World) : Prop where
  maxRetries : after.machine.maxRetries = before.machine.maxRetries
  running : after.timing.reconnectInProgress = before.timing.reconnectInProgress
  woken : after.timing.lastWakeEvent = before.timing.lastWakeEvent
  switching : after.switchCtx.inProgress = before.switchCtx.inProgress
  windows : after.asked.windows = before.asked.windows
  deferred : after.deferredCommands = before.deferredCommands
  exitReason : after.exitReason = before.exitReason
  grows : before.trace <+: after.trace

/-- An invariant about the rest. -/
def Ignores (inv : World → Prop) : Prop :=
  ∀ before after, RestKept before after → inv before → inv after

namespace Ignores

variable
  {env : Env}
  {inv : World → Prop}
  (ignores : Ignores inv)

include ignores

theorem dispatch (event : Event) :
    Preserves inv (dispatch event) := by
  intro world
  let moved : World := { world with machine := (world.machine.handleEvent event).2 }
  obtain ⟨machine, same⟩ := noteConnected_same moved
  have limit : (noteConnected moved).machine.maxRetries = world.machine.maxRetries := by
    rw [machine]
    exact world.machine.handleEvent_maxRetries event
  have grows : world.trace <+: (noteConnected moved).trace := by rw [same.trace]
  exact ignores world _
    { maxRetries := limit
      running := congrArg TimingState.reconnectInProgress same.timing
      woken := congrArg TimingState.lastWakeEvent same.timing
      switching := congrArg SwitchContext.inProgress same.switchCtx
      windows := congrArg Asked.windows same.asked
      deferred := same.deferred
      exitReason := same.exitReason
      grows := grows }

theorem change
    {change : World → World}
    (rest : ∀ world, RestKept world (change world)) :
    Preserves inv (modify change : StateM World PUnit) :=
  fun world => ignores world _ (rest world)

theorem forces (next : VpnState) :
    Forces inv next :=
  ignores.change fun _ => ⟨rfl, rfl, rfl, rfl, rfl, rfl, rfl, List.prefix_refl _⟩

theorem steps :
    Steps env (fun _ => True) inv where
  answers := answers_any env
  tracked _ _ _ _ := trivial
  sleep _ := ignores.change fun _ => ⟨rfl, rfl, rfl, rfl, rfl, rfl, rfl, List.prefix_refl _⟩
  calls _ _ _ questions world :=
    ignores world _ ⟨rfl, rfl, rfl, rfl, questions world.asked, rfl, rfl, List.prefix_append _ _⟩
  connects _ _ _ questions world :=
    ignores world _ ⟨rfl, rfl, rfl, rfl, questions world.asked, rfl, rfl, List.prefix_append _ _⟩
  dispatches event _ _ := ignores.dispatch event
  forces next _ _ := ignores.forces next
  syncs := ignores.change fun _ => ⟨rfl, rfl, rfl, rfl, rfl, rfl, rfl, List.prefix_refl _⟩
  times _ _ keepsMark :=
    ignores.change fun world =>
      ⟨rfl, congrArg Prod.fst (keepsMark world), congrArg Prod.snd (keepsMark world),
        rfl, rfl, rfl, rfl, List.prefix_refl _⟩
  counts _ windows :=
    ignores.change fun world =>
      ⟨rfl, rfl, rfl, rfl, windows world, rfl, rfl, List.prefix_refl _⟩
  lists _ := ignores.change fun _ => ⟨rfl, rfl, rfl, rfl, rfl, rfl, rfl, List.prefix_refl _⟩
  forgets := ignores.change fun _ => ⟨rfl, rfl, rfl, rfl, rfl, rfl, rfl, List.prefix_refl _⟩

theorem indifferent :
    Indifferent inv := by
  rintro before _ ⟨kill, reported, rfl⟩
  exact ignores before _ ⟨rfl, rfl, rfl, rfl, rfl, rfl, rfl, List.prefix_refl _⟩

theorem modifyConfig (change : Config → Config) :
    Preserves inv
      (do
        modifyConfig change
        saveConfig) :=
  fun world =>
    ignores world _ ⟨rfl, rfl, rfl, rfl, rfl, rfl, rfl, List.prefix_refl _⟩

theorem handleConnect
    (switches : NotesSwitch inv)
    (name : String) :
    Preserves inv (Supervisor.handleConnect env name) :=
  (ignores.indifferent.switchSteps ignores.steps).handleConnect switches trivial

section Commands

variable
  (connecting : ∀ name, Preserves inv (Supervisor.handleConnect env name))

include connecting

theorem traySteps :
    TraySteps env (fun _ => True) inv where
  toSwitchSteps := ignores.indifferent.switchSteps ignores.steps
  connecting name _ := connecting name
  remembered _ _ _ _ := trivial
  autoReconnects world := ignores world _ ⟨rfl, rfl, rfl, rfl, rfl, rfl, rfl, List.prefix_refl _⟩
  setsAutoConnect _ := ignores.modifyConfig _
  cleans := ignores.indifferent.preserves (switchOnly_guards.cleanupOnExit env)
  looks := ignores.indifferent.preserves (switchOnly_guards.kill _)
  reports flag := ignores.indifferent.preserves (switchOnly_guards.report flag)
  shares := ignores.change fun _ => ⟨rfl, rfl, rfl, rfl, rfl, rfl, rfl, List.prefix_refl _⟩

theorem handleCommand
    {command : VpnCommand}
    (exits : command.isFinal = true → ∀ reason, Preserves inv (requestExit reason)) :
    Preserves inv (handleCommand env command) :=
  ignores.indifferent.handleCommand (ignores.traySteps connecting)
    (fun _ => ignores.modifyConfig _) (fun _ _ => trivial) exits

theorem handleIpcCommand
    (exits : ∀ reason, Preserves inv (requestExit reason))
    (command : IpcCommand) :
    Preserves inv (handleIpcCommand env command) := by
  refine ignores.indifferent.handleIpcCommand (ignores.traySteps connecting)
    (fun _ => ignores.modifyConfig _) (fun _ _ => trivial) ?_ exits
    (fun _ _ => ignores.modifyConfig _)
  intro loaded _ world
  exact ignores world _ ⟨rfl, rfl, rfl, rfl, rfl, rfl, rfl, List.prefix_refl _⟩

/-- With the reconnects, all that a run of the loop is made of keeps the invariant. -/
theorem runLoop
    (exits : ∀ reason, Preserves inv (requestExit reason))
    (stamps : StampsWake inv)
    (reconnects : Reconnects env (fun _ => True) inv)
    (steps : List LoopStep)
    {world : World}
    (before : inv world) :
    inv (runLoop env steps world) := by
  induction steps generalizing world with
  | nil => exact before
  | cons step later ih =>
    refine ih (step.after_of_commands (ignores.traySteps connecting) reconnects
      ?_ ?_ ?_ (fun _ _ _ _ => trivial) before)
    · exact fun _ _ _ => ignores.steps.wakeUp (fun _ _ => ignores.forces _) stamps world before
    · exact fun _ _ => ignores.handleCommand connecting fun _ => exits
    · exact fun command _ => ignores.handleIpcCommand connecting exits command

end Commands

end Ignores

/-- Every command that was put off is such a command. -/
def Queued (commands : VpnCommand → Prop) (world : World) : Prop :=
  ∀ command ∈ world.deferredCommands, commands command

section Queue

variable {commands : VpnCommand → Prop}

theorem queued_ignores :
    Ignores (Queued commands) := by
  intro before after rest queued
  rw [Queued, rest.deferred]
  exact queued

theorem queue_steps (env : Env) :
    CommandSteps env (fun _ => True) (Queued commands) where
  toTraySteps :=
    queued_ignores.traySteps (queued_ignores.handleConnect fun _ _ _ _ queued => queued)
  exits _ _ queued := queued
  setsAutoReconnect _ := queued_ignores.modifyConfig _

theorem queue_defers
    {env : Env}
    (arrive : ∀ number, ∀ command ∈ env.arrivals number, commands command) :
    Preserves (Queued commands) (modify (deferArrivals env) : StateM World PUnit) := by
  intro world before command member
  rcases List.mem_append.mp member with earlier | arrived
  · exact before command earlier
  · exact arrive _ command ((List.takeWhile_prefix _).subset arrived)

end Queue

/-- The supervisor behind the filters of a signal. -/
def admitted (world : World) : World :=
  { world with
    timing := { world.timing with
      lastWakeResync := none
      lastDisconnectTime := none } }

theorem passFilters_admits
    {event : NmEvent}
    {world : World}
    (unfiltered : isFiltered world = false)
    (notEnds : endsSwitchedFrom event world = false) :
    (passFilters event).run world = (true, admitted world) := by
  rw [isFiltered, Bool.or_eq_false_iff, Bool.or_eq_false_iff] at unfiltered
  obtain ⟨⟨settled, awake⟩, calm⟩ := unfiltered
  let woken : World := { world with timing := { world.timing with lastWakeResync := none } }
  have passes : (passFilters event).run world = (passSwitch event).run woken := by
    rw [passFilters, run_get_bind]
    rw [settled, if_neg Bool.false_ne_true, awake, if_neg Bool.false_ne_true]
    rfl
  have notEndsWoken : endsSwitchedFrom event woken = false := notEnds
  have calmWoken : inDisconnectGrace woken = false := calm
  rw [passes, passSwitch, run_get_bind]
  rw [notEndsWoken, if_neg Bool.false_ne_true, passGrace, run_get_bind]
  rw [calmWoken, if_neg Bool.false_ne_true]
  rfl

/-- A connect leaves the switch behind, however it goes. -/
theorem handleConnect_finishes
    (env : Env)
    (name : String)
    (world : World) :
    ((handleConnect env name).run world).2.switchCtx.inProgress = false ∧
      ((handleConnect env name).run world).2.switchCtx.target = none := by
  have anything :
      ∀ {α : Type} (program : StateM World α), Ensures (fun _ => True) program (fun _ _ => True) :=
    fun _ _ _ => trivial
  have gone :
      Ensures (fun _ => True) (handleConnect env name)
        (fun _ world =>
          world.switchCtx.inProgress = false ∧ world.switchCtx.target = none) := by
    refine (anything _).seq ?_
    refine (anything _).bind ?_
    intro preConnect
    refine (anything _).seq ?_
    refine (anything _).bind ?_
    intro succeeded
    refine (anything _).seq ?_
    have finishes :
        Ensures (fun _ => True) finishSwitch
          (fun _ world =>
            world.switchCtx.inProgress = false ∧ world.switchCtx.target = none) :=
      fun _ _ => ⟨rfl, rfl⟩
    refine finishes.seq ?_
    refine .either (.pure (fun _ done => done)) ?_
    intro world done
    let given : World :=
      { world with
        switchCtx := { world.switchCtx with
          fromServer := none
          completedTime := none } }
    have same : (giveUpSwitch.run world).2.switchCtx = given.switchCtx :=
      (noteConnected_same { given with machine := (given.machine.handleEvent _).2 }).2.switchCtx
    rw [same]
    exact done
  exact gone world trivial

theorem settled_ignores :
    Ignores fun world => world.switchCtx.inProgress = false :=
  fun _ _ rest settled => rest.switching.trans settled

theorem handleCommand_settled
    (env : Env)
    (command : VpnCommand) :
    Preserves (fun world => world.switchCtx.inProgress = false) (handleCommand env command) :=
  settled_ignores.handleCommand
    (fun name world _ => (handleConnect_finishes env name world).1)
    (fun _ _ _ settled => settled)

end Shroud.Supervisor
