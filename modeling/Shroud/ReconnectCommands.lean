import Shroud.ReconnectBounds

namespace Shroud.Supervisor

open StateProgram Recorded

/-!
# The commands of the tray during a reconnect

A reconnect takes commands out of the channel in two ways.  A backoff puts them
off for later, and a look during the verification forgets them; only a command
to disconnect is carried out at once, in front of everything put off.
-/

namespace Happening

def defers : Happening → List VpnCommand
  | .waited _ received => received.filter fun command => command ≠ .disconnect
  | _ => []

def drops : Happening → List VpnCommand
  | .looked (some command) => [command].filter fun command => command ≠ .disconnect
  | _ => []

def cancels (happening : Happening) : List VpnCommand :=
  if VpnCommand.disconnect ∈ happening.receives then [.disconnect] else []

/-- What is received is put off or forgotten, up to the command that cancels. -/
def Sorted (happening : Happening) : Prop :=
  happening.receives = happening.defers ++ happening.drops ++ happening.cancels

end Happening

def receivedIn (record : List Happening) : List VpnCommand :=
  record.flatMap Happening.receives

theorem filter_receivedOf (commands : List VpnCommand) :
    (receivedOf commands).filter (fun command => command ≠ .disconnect) =
      deferredOf commands := by
  have stay :
      (deferredOf commands).filter (fun command => command ≠ .disconnect) =
        deferredOf commands := by
    refine List.filter_eq_self.mpr ?_
    intro command member
    apply decide_eq_true
    rintro rfl
    exact disconnect_notMem_deferredOf commands member
  rw [receivedOf, List.filter_append, stay]
  split
  · simp
  · simp

theorem disconnect_mem_receivedOf (commands : List VpnCommand) :
    VpnCommand.disconnect ∈ receivedOf commands ↔ commands.contains .disconnect = true := by
  rw [receivedOf, List.mem_append, or_iff_right (disconnect_notMem_deferredOf commands)]
  split
  · exact iff_of_true (List.mem_singleton.mpr rfl) ‹_›
  · exact iff_of_false List.not_mem_nil ‹_›

theorem sorted_waited
    (millis : Nat)
    (commands : List VpnCommand) :
    (Happening.waited millis (receivedOf commands)).Sorted := by
  have forgotten : (Happening.waited millis (receivedOf commands)).drops = [] :=
    rfl
  rw [Happening.Sorted, Happening.cancels, Happening.defers, forgotten,
    filter_receivedOf, Happening.receives, List.append_nil]
  by_cases contains : commands.contains .disconnect = true
  · rw [if_pos ((disconnect_mem_receivedOf commands).mpr contains), receivedOf, if_pos contains]
  · rw [if_neg (mt (disconnect_mem_receivedOf commands).mp contains), receivedOf, if_neg contains]

theorem sorted_looked (found : Option VpnCommand) :
    (Happening.looked found).Sorted := by
  cases found with
  | none => rfl
  | some command =>
    by_cases cancels : command = .disconnect
    · rw [cancels]
      rfl
    · simp [Happening.Sorted, Happening.receives, Happening.defers,
        Happening.drops, Happening.cancels, cancels, eq_comm]

/-- The queue grows by what is put off, and every entry is sorted. -/
structure Queues (before after : World) (record : List Happening) :
    Prop where
  queue : after.deferredCommands = before.deferredCommands ++ record.flatMap Happening.defers
  sorted : ∀ happening ∈ record, happening.Sorted

theorem queues_nil
    {before after : World}
    (same : after.deferredCommands = before.deferredCommands) :
    Queues before after [] :=
  ⟨same.trans (List.append_nil _).symm, fun _ member => absurd member List.not_mem_nil⟩

variable {happening : Happening}

theorem queues_singleton
    {before after : World}
    (queue : after.deferredCommands = before.deferredCommands ++ happening.defers)
    (sorted : happening.Sorted) :
    Queues before after [happening] := by
  refine ⟨?_, ?_⟩
  · rw [List.flatMap_singleton]
    exact queue
  · intro other member
    rw [List.mem_singleton.mp member]
    exact sorted

theorem queues_steps (env : Env) :
    RecordSteps env Queues := by
  have quiet :
      ∀ {before after : World} {happening : Happening},
        after.deferredCommands = before.deferredCommands →
        happening.defers = [] → happening.Sorted →
        Queues before after [happening] := by
    intro before after happening same none sorted
    refine queues_singleton ?_ sorted
    rw [none, List.append_nil]
    exact same
  exact
    { composes :=
        { nil := fun _ => queues_nil rfl
          append := by
            intro before middle after first second earlier later
            refine ⟨?_, List.forall_mem_append.mpr ⟨earlier.sorted, later.sorted⟩⟩
            rw [List.flatMap_append, ← List.append_assoc, ← earlier.queue]
            exact later.queue }
      event := fun event world =>
        queues_nil (dispatchAndSync_eventOnly event world).deferred
      state := fun _ _ => queues_nil rfl
      timing := fun _ _ => queues_nil rfl
      sleep := fun _ _ => queues_nil rfl
      query := fun _ => quiet rfl rfl rfl
      list := fun _ => quiet rfl rfl rfl
      refresh := fun _ => quiet rfl rfl rfl
      wait := by
        intro attempt world
        refine queues_singleton ?_ (sorted_waited _ _)
        rw [Happening.defers, filter_receivedOf]
        rfl
      look := fun world =>
        quiet rfl rfl (sorted_looked (env.polled world.asked.polls))
      connect := fun _ _ => quiet rfl rfl rfl
      disconnect := fun _ _ => quiet rfl rfl rfl
      begins := fun _ _ => quiet rfl rfl rfl
      cancels := fun _ => quiet rfl rfl rfl }

def deferredIn (record : List Happening) : List VpnCommand :=
  record.flatMap Happening.defers

def droppedIn (record : List Happening) : List VpnCommand :=
  record.flatMap Happening.drops

/-- Nothing is received once a command to disconnect was received. -/
def ReceivesUntilCancelled (record : List Happening) : Prop :=
  AtEach (fun earlier happening => happening.receives ≠ [] → Undisturbed earlier) record

section

variable {rest : List Happening} (untilCancelled : ReceivesUntilCancelled (happening :: rest))

include untilCancelled

theorem receives_nothing_after
    (cancels : VpnCommand.disconnect ∈ happening.receives) :
    ∀ later ∈ rest, later.receives = [] := by
  intro later member
  by_contra receives
  obtain ⟨earlier, others, rfl⟩ := List.append_of_mem member
  have undisturbed := untilCancelled (happening :: earlier) later others rfl receives
  exact undisturbed happening List.mem_cons_self cancels

theorem receivesUntilCancelled_tail :
    ReceivesUntilCancelled rest := by
  intro earlier later others split receives
  have undisturbed :=
    untilCancelled (happening :: earlier) later others (congrArg (happening :: ·) split) receives
  exact (undisturbed_cons.mp undisturbed).2

end

theorem sorted_receives_nothing
    (sorted : happening.Sorted)
    (nothing : happening.receives = []) :
    happening.defers = [] ∧ happening.drops = [] := by
  rw [Happening.Sorted, nothing] at sorted
  have parts := List.append_eq_nil_iff.mp sorted.symm
  exact List.append_eq_nil_iff.mp parts.1

theorem sorted_receives_undisturbed
    (sorted : happening.Sorted)
    (undisturbed : VpnCommand.disconnect ∉ happening.receives) :
    happening.receives = happening.defers ++ happening.drops := by
  rw [Happening.Sorted, Happening.cancels, if_neg undisturbed, List.append_nil] at sorted
  exact sorted

theorem sorted_receives_cancelled
    (sorted : happening.Sorted)
    (cancelled : VpnCommand.disconnect ∈ happening.receives) :
    happening.receives = happening.defers ++ happening.drops ++ [.disconnect] := by
  rw [Happening.Sorted, Happening.cancels, if_pos cancelled] at sorted
  exact sorted

/-- The command to disconnect that a record ends with, if it has one. -/
def cancelledBy (record : List Happening) : List VpnCommand :=
  if Undisturbed record then [] else [.disconnect]

theorem cancelledBy_cons_undisturbed
    (undisturbed : VpnCommand.disconnect ∉ happening.receives)
    (rest : List Happening) :
    cancelledBy (happening :: rest) = cancelledBy rest := by
  rw [cancelledBy, cancelledBy]
  by_cases calm : Undisturbed rest
  · rw [if_pos calm, if_pos (undisturbed_cons.mpr ⟨undisturbed, calm⟩)]
  · rw [if_neg calm, if_neg (fun both => calm (undisturbed_cons.mp both).2)]

/--
What is received and not forgotten is what is put off, and then the command
that cancels.
-/
theorem receivedIn_eq
    {record : List Happening}
    (sorted : ∀ happening ∈ record, happening.Sorted)
    (untilCancelled : ReceivesUntilCancelled record) :
    (receivedIn record).length =
        (deferredIn record).length + (droppedIn record).length + (cancelledBy record).length ∧
      (droppedIn record = [] → receivedIn record = deferredIn record ++ cancelledBy record) := by
  induction record with
  | nil => exact ⟨rfl, fun _ => rfl⟩
  | cons happening rest ih =>
    have sortedHere := sorted happening List.mem_cons_self
    have sortedRest : ∀ later ∈ rest, later.Sorted :=
      fun later member => sorted later (List.mem_cons_of_mem _ member)
    have split : receivedIn (happening :: rest) = happening.receives ++ receivedIn rest :=
      List.flatMap_cons
    have splitDeferred : deferredIn (happening :: rest) = happening.defers ++ deferredIn rest :=
      List.flatMap_cons
    have splitDropped : droppedIn (happening :: rest) = happening.drops ++ droppedIn rest :=
      List.flatMap_cons
    by_cases cancels : VpnCommand.disconnect ∈ happening.receives
    · have nothing := receives_nothing_after untilCancelled cancels
      have noneReceived : receivedIn rest = [] := List.flatMap_eq_nil_iff.mpr nothing
      have noneDeferred : deferredIn rest = [] :=
        List.flatMap_eq_nil_iff.mpr (fun later member =>
          (sorted_receives_nothing (sortedRest later member) (nothing later member)).1)
      have noneDropped : droppedIn rest = [] :=
        List.flatMap_eq_nil_iff.mpr (fun later member =>
          (sorted_receives_nothing (sortedRest later member) (nothing later member)).2)
      have cancelled : cancelledBy (happening :: rest) = [.disconnect] :=
        if_neg (fun calm => (undisturbed_cons.mp calm).1 cancels)
      rw [split, splitDeferred, splitDropped, noneReceived, noneDeferred,
        noneDropped, cancelled, List.append_nil, List.append_nil,
        List.append_nil, sorted_receives_cancelled sortedHere cancels]
      constructor
      · simp only [List.length_append]
      · intro noneForgotten
        rw [noneForgotten, List.append_nil]
    · obtain ⟨lengths, equal⟩ :=
        ih sortedRest (receivesUntilCancelled_tail untilCancelled)
      rw [split, splitDeferred, splitDropped,
        cancelledBy_cons_undisturbed cancels,
        sorted_receives_undisturbed sortedHere cancels]
      constructor
      · simp only [List.length_append, lengths]
        omega
      · intro noneForgotten
        obtain ⟨here, later⟩ := List.append_eq_nil_iff.mp noneForgotten
        rw [here, equal later, List.append_nil, List.append_assoc]

section Whole

variable (env : Env)

theorem Log.drainDeferred_cons
    {fuel : Nat}
    {world : World}
    {command : VpnCommand}
    {rest : List VpnCommand}
    (queue : world.deferredCommands = command :: rest) :
    Log.drainDeferred env (fuel + 1) world =
      (do
        Log.handleCommand env command
        Log.drainDeferred env fuel : Recorded World Happening Unit)
          { world with deferredCommands := rest } := by
  have got : (MonadState.get : StateM World World).run world = (world, world) :=
    rfl
  simp only [Log.drainDeferred, bind, silent, noting, got, queue]
  rfl

theorem Log.drainDeferred_log
    (fuel : Nat)
    (world : World)
    (enough : world.deferredCommands.length = fuel) :
    (Log.drainDeferred env fuel world).2.2 = world.deferredCommands.map Happening.applied := by
  induction fuel generalizing world with
  | zero =>
    rw [List.eq_nil_of_length_eq_zero enough]
    rfl
  | succ fuel ih =>
    cases queue : world.deferredCommands with
    | nil =>
      rw [queue] at enough
      exact absurd enough (Nat.succ_ne_zero fuel).symm
    | cons command rest =>
      let taken : World := { world with deferredCommands := rest }
      let handled := ((Supervisor.handleCommand env command).run taken).2
      have kept : handled.deferredCommands = rest :=
        (handleCommand_proceeds env command taken).deferred
      have shorter : handled.deferredCommands.length = fuel := by
        rw [queue, List.length_cons] at enough
        rw [kept]
        exact Nat.succ.inj enough
      have later := ih handled shorter
      rw [kept] at later
      rw [Log.drainDeferred_cons env queue, List.map_cons, ← later]
      rfl

/-- The record of a call of `attempt_reconnect`. -/
def commandRecord (server : String) (world : World) : List Happening :=
  (Log.attemptReconnect env server).log world

/-- The commands that the call finds waiting and takes up. -/
def takenUp (world : World) : List VpnCommand :=
  if world.timing.reconnectInProgress then [] else world.deferredCommands

/-- The record of the reconnect proper. -/
def innerRecord (server : String) (world : World) : List Happening :=
  reconnectRecord env server (markReconnect true world)

theorem attemptReconnect_log
    (env : Env)
    (server : String)
    (world : World) :
    Log.attemptReconnect env server world =
      (if world.timing.reconnectInProgress then pure ()
      else Log.guardedReconnect env server : Recorded World Happening Unit) world :=
  rfl

theorem commandRecord_eq
    (server : String)
    {world : World}
    (idle : world.timing.reconnectInProgress = false) :
    commandRecord env server world =
      innerRecord env server world ++
        (world.deferredCommands ++
          deferredIn (innerRecord env server world)).map Happening.applied := by
  let inner := Log.attemptReconnectInner env server (markReconnect true world)
  let ended := markReconnect false inner.2.1
  have queues : ended.deferredCommands = world.deferredCommands ++ deferredIn inner.2.2 :=
    ((queues_steps env).attemptReconnectInner server (markReconnect true world)).queue
  have guarded :
      (Log.guardedReconnect env server world).2.2 =
        inner.2.2 ++ (Log.drainDeferred env ended.deferredCommands.length ended).2.2 :=
    rfl
  rw [commandRecord, Recorded.log, attemptReconnect_log, idle,
    if_neg Bool.false_ne_true, guarded,
    Log.drainDeferred_log env _ ended rfl, queues]
  rfl

theorem receivedIn_applied (commands : List VpnCommand) :
    receivedIn (commands.map Happening.applied) = [] := by
  refine List.flatMap_eq_nil_iff.mpr ?_
  intro happening member
  obtain ⟨command, -, rfl⟩ := List.mem_map.mp member
  rfl

theorem appliedIn_applied (commands : List VpnCommand) :
    appliedIn (commands.map Happening.applied) = commands := by
  induction commands with
  | nil => rfl
  | cons command rest ih => exact congrArg (command :: ·) ih

theorem cons_eq_append_singleton_iff
    {command : VpnCommand}
    {commands : List VpnCommand} :
    command :: commands = commands ++ [command] ↔ ∀ other ∈ commands, other = command := by
  constructor
  · intro same
    induction commands with
    | nil => exact fun _ member => absurd member List.not_mem_nil
    | cons first rest ih =>
      obtain ⟨rfl, later⟩ := List.cons.inj same
      exact List.forall_mem_cons.mpr ⟨rfl, ih later⟩
  · intro all
    rw [List.eq_replicate_of_mem all, ← List.replicate_succ, ← List.replicate_succ']

theorem droppedIn_eq_nil_iff {record : List Happening} :
    droppedIn record = [] ↔
      ∀ command, Happening.looked (some command) ∈ record → command = .disconnect := by
  rw [droppedIn, List.flatMap_eq_nil_iff]
  constructor
  · intro none command member
    have forgotten := none _ member
    by_contra other
    simp [Happening.drops, other] at forgotten
  · intro cancels happening member
    cases happening with
    | looked found =>
      cases found with
      | none => rfl
      | some command =>
        rw [cancels command member]
        rfl
    | _ => rfl

/-- What the reconnect proper carries out is the command that cancels it. -/
theorem appliedIn_innerRecord
    (server : String)
    (world : World) :
    appliedIn (innerRecord env server world) = cancelledBy (innerRecord env server world) :=
  (Log.attemptReconnectInner_fair env server world.machine.maxRetries
    (markReconnect true world) rfl).applied

theorem innerRecord_receives
    (server : String)
    (world : World) :
    ReceivesUntilCancelled (innerRecord env server world) := by
  have fair :=
    Log.attemptReconnectInner_fair env server world.machine.maxRetries
      (markReconnect true world) rfl
  intro earlier happening later split
  exact (fair.lawful earlier happening later split).undisturbed

theorem disconnect_notMem_receivedIn_iff {record : List Happening} :
    VpnCommand.disconnect ∉ receivedIn record ↔ Undisturbed record := by
  rw [receivedIn, List.mem_flatMap]
  constructor
  · intro none happening member received
    exact none ⟨happening, member, received⟩
  · rintro undisturbed ⟨happening, member, received⟩
    exact undisturbed happening member received

theorem order_iff
    {waiting : List VpnCommand}
    {record : List Happening}
    (sorted : ∀ happening ∈ record, happening.Sorted)
    (untilCancelled : ReceivesUntilCancelled record) :
    cancelledBy record ++ (waiting ++ deferredIn record) =
        waiting ++ receivedIn record ↔
      droppedIn record = [] ∧
        (VpnCommand.disconnect ∈ receivedIn record →
          ∀ command ∈ waiting ++ receivedIn record, command = .disconnect) := by
  obtain ⟨lengths, equal⟩ := receivedIn_eq sorted untilCancelled
  have noneDropped :
      cancelledBy record ++ (waiting ++ deferredIn record) =
          waiting ++ receivedIn record →
        droppedIn record = [] := by
    intro same
    have sameLength := congrArg List.length same
    simp only [List.length_append, lengths] at sameLength
    refine List.eq_nil_of_length_eq_zero ?_
    omega
  by_cases undisturbed : Undisturbed record
  · have notCancelled : cancelledBy record = [] := if_pos undisturbed
    have absent := disconnect_notMem_receivedIn_iff.mpr undisturbed
    rw [notCancelled] at equal noneDropped ⊢
    constructor
    · intro same
      exact ⟨noneDropped same, fun received => absurd received absent⟩
    · rintro ⟨none, -⟩
      rw [equal none, List.append_nil, List.nil_append]
  · have cancelled : cancelledBy record = [.disconnect] := if_neg undisturbed
    have received : VpnCommand.disconnect ∈ receivedIn record := by
      by_contra absent
      exact undisturbed (disconnect_notMem_receivedIn_iff.mp absent)
    rw [cancelled] at equal noneDropped ⊢
    have all :
        droppedIn record = [] →
          (.disconnect :: (waiting ++ deferredIn record) =
              waiting ++ receivedIn record ↔
            ∀ command ∈ waiting ++ receivedIn record, command = .disconnect) := by
      intro none
      rw [equal none, ← List.append_assoc, cons_eq_append_singleton_iff]
      have last : ∀ command ∈ [VpnCommand.disconnect], command = .disconnect :=
        fun _ member => List.mem_singleton.mp member
      exact (and_iff_left last).symm.trans List.forall_mem_append.symm
    constructor
    · intro same
      have none := noneDropped same
      exact ⟨none, fun _ => (all none).mp same⟩
    · rintro ⟨none, only⟩
      exact (all none).mpr (only received)

/--
The commands of the tray are carried out once each, in the order in which they
were received, if no look during a verification finds another command than one
to disconnect, and such a command is received only where no other one waits.
-/
theorem commands_in_order_iff
    (server : String)
    (world : World) :
    appliedIn (commandRecord env server world) =
        takenUp world ++ receivedIn (commandRecord env server world) ↔
      (∀ command,
        Happening.looked (some command) ∈ commandRecord env server world → command = .disconnect) ∧
        (VpnCommand.disconnect ∈
            receivedIn (commandRecord env server world) →
          ∀ command ∈
            takenUp world ++ receivedIn (commandRecord env server world),
            command = .disconnect) := by
  cases running : world.timing.reconnectInProgress with
  | true =>
    have nothing : commandRecord env server world = [] := by
      rw [commandRecord, Recorded.log, attemptReconnect_log, running]
      rfl
    have none : takenUp world = [] := if_pos running
    rw [nothing, none]
    refine iff_of_true rfl ⟨?_, ?_⟩
    · exact fun _ member => absurd member List.not_mem_nil
    · exact fun received => absurd received List.not_mem_nil
  | false =>
    let inner := innerRecord env server world
    let queue := world.deferredCommands ++ deferredIn inner
    have isRecord : commandRecord env server world = inner ++ queue.map Happening.applied :=
      commandRecord_eq env server running
    have taken : takenUp world = world.deferredCommands := if_neg (ne_true_of_eq_false running)
    have applied : appliedIn (commandRecord env server world) = cancelledBy inner ++ queue := by
      rw [isRecord, appliedIn, List.flatMap_append]
      exact congrArg₂ (· ++ ·) (appliedIn_innerRecord env server world) (appliedIn_applied queue)
    have received : receivedIn (commandRecord env server world) = receivedIn inner := by
      rw [isRecord, receivedIn, List.flatMap_append]
      exact (congrArg (receivedIn inner ++ ·) (receivedIn_applied queue)).trans (List.append_nil _)
    have looks :
        ∀ command,
          Happening.looked (some command) ∈
              commandRecord env server world ↔
            Happening.looked (some command) ∈ inner := by
      intro command
      rw [isRecord, List.mem_append, or_iff_left]
      intro member
      obtain ⟨other, -, isLook⟩ := List.mem_map.mp member
      simp at isLook
    have sorted : ∀ happening ∈ inner, happening.Sorted :=
      ((queues_steps env).attemptReconnectInner server (markReconnect true world)).sorted
    simp only [applied, received, taken, looks]
    rw [← droppedIn_eq_nil_iff]
    exact order_iff sorted (innerRecord_receives env server world)

end Whole

/-- A supervisor that is about to reconnect, with a single attempt. -/
def reconnectingWorld : World :=
  { restingWorld with machine := ⟨.reconnecting "berlin" 1 1, 1, 1⟩ }

/-- The user toggles a setting while the new connection is verified. -/
def verifyingEnv : Env :=
  { calmEnv with
    listed := fun _ => ["berlin"]
    connects := fun _ => true
    polled := fun look =>
      if look = 3 then some .toggleAutoReconnect else none }

/-- The user toggles a setting during the backoff, and then disconnects. -/
def hastyEnv : Env :=
  { calmEnv with
    listed := fun _ => ["berlin"]
    arrivals := fun _ => [.toggleAutoReconnect, .disconnect] }

/-- The one command is lost, and the other two change places. -/
theorem commands_lost_and_reordered :
    receivedIn (commandRecord verifyingEnv "berlin" reconnectingWorld) =
        [.toggleAutoReconnect] ∧
      appliedIn (commandRecord verifyingEnv "berlin" reconnectingWorld) = [] ∧
      receivedIn (commandRecord hastyEnv "berlin" reconnectingWorld) =
        [.toggleAutoReconnect, .disconnect] ∧
      appliedIn (commandRecord hastyEnv "berlin" reconnectingWorld) =
        [.disconnect, .toggleAutoReconnect] := by
  decide

end Shroud.Supervisor
