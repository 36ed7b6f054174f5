import Shroud.ConnectGuard
import Shroud.ConnectOutcome

namespace Shroud.Supervisor

open StateProgram

/-!
# The wish for the kill switch

The configuration holds whether the kill switch is wanted, and it is saved as a
whole whenever any part of it changes.  Only the commands that are about the
kill switch, or that load another file, change the wish; everything else writes
it as it was.
-/

/-- The wish is as before, in memory and in whatever was saved meanwhile. -/
structure SameIntent (before after : World) : Prop where
  wanted : after.config.killSwitchEnabled = before.config.killSwitchEnabled
  saved :
    ∃ written, after.saves = before.saves ++ written ∧
      ∀ config ∈ written, config.killSwitchEnabled = before.config.killSwitchEnabled

instance : IsPreorder World SameIntent where
  refl _ := ⟨rfl, [], (List.append_nil _).symm, by simp⟩
  trans := by
    intro first second third before after
    obtain ⟨earlier, firstSaves, firstWish⟩ := before.saved
    obtain ⟨later, secondSaves, secondWish⟩ := after.saved
    refine ⟨after.wanted.trans before.wanted, earlier ++ later, ?_, ?_⟩
    · rw [secondSaves, firstSaves, List.append_assoc]
    · intro config member
      rcases List.mem_append.mp member with isEarlier | isLater
      · exact firstWish config isEarlier
      · exact (secondWish config isLater).trans before.wanted

theorem sameIntent_of_same
    {before after : World}
    (config : after.config = before.config)
    (saves : after.saves = before.saves) :
    SameIntent before after := by
  refine ⟨?_, [], ?_, by simp⟩
  · rw [config]
  · rw [saves, List.append_nil]

theorem sameIntent_of_saved
    {before after : World}
    (wanted : after.config.killSwitchEnabled = before.config.killSwitchEnabled)
    (saves : after.saves = before.saves ++ [after.config]) :
    SameIntent before after := by
  refine ⟨wanted, [after.config], saves, ?_⟩
  intro config member
  rw [List.mem_singleton.mp member]
  exact wanted

theorem noteConnected_sameIntent (world : World) :
    SameIntent world (noteConnected world) := by
  rw [noteConnected]
  cases world.machine.state with
  | connected server =>
    dsimp only
    split
    · exact sameIntent_of_same rfl rfl
    · exact sameIntent_of_saved rfl rfl
  | _ => exact Std.Refl.refl world

section Steps

variable (env : Env)

theorem dispatch_sameIntent (event : Event) :
    Keeps SameIntent (dispatch event) := by
  intro world
  have noted :=
    noteConnected_sameIntent { world with machine := (world.machine.handleEvent event).2 }
  exact ⟨noted.wanted, noted.saved⟩

section

variable {α : Type} {program : StateM World α} {start : World}

theorem preserves_of_same
    (same : Keeps (SameView fun world => (world.config, world.saves)) program) :
    Preserves (SameIntent start) program := by
  intro world before
  obtain ⟨config, saves⟩ := Prod.mk.inj (same world)
  exact IsTrans.trans _ _ _ before (sameIntent_of_same config saves)

theorem preserves_of_saved
    (wanted :
      ∀ world, (program.run world).2.config.killSwitchEnabled = world.config.killSwitchEnabled)
    (saves : ∀ world, (program.run world).2.saves = world.saves ++ [(program.run world).2.config]) :
    Preserves (SameIntent start) program :=
  fun world before =>
    IsTrans.trans _ _ _ before (sameIntent_of_saved (wanted world) (saves world))

end

theorem intent_notes (start : World) :
    NotesSwitch (SameIntent start) :=
  fun _ _ _ => preserves_of_same fun _ => rfl

theorem intent_steps (start : World) :
    CommandSteps env (fun _ => True) (SameIntent start) := by
  have steps : Steps env (fun _ => True) (SameIntent start) := by
    refine .of_stored (fun keeps => preserves_of_same (fun world => ?_))
      (fun event => (dispatch_sameIntent event).preserves start)
    exact congrArg (fun stored => (stored.1, stored.2.1)) (keeps world)
  have indifferent : Indifferent (SameIntent start) := by
    rintro before _ ⟨kill, reported, rfl⟩ same
    exact ⟨same.wanted, same.saved⟩
  exact
    { toTraySteps :=
        indifferent.traySteps steps (intent_notes start)
          (fun _ _ _ _ => trivial)
          (preserves_of_saved (fun _ => rfl) (fun _ => rfl))
          (fun enable => preserves_of_saved (fun _ => rfl) (fun _ => rfl))
          (preserves_of_same (fun _ => rfl))
      exits := fun _ => preserves_of_same (fun _ => rfl)
      setsAutoReconnect := fun enable =>
        preserves_of_saved (fun _ => rfl) (fun _ => rfl) }

end Steps

section Runs

variable
  {env : Env}
  (arrive : ∀ number, ∀ command ∈ env.arrivals number, command.isExplicit = false)

include arrive

omit arrive in
/-- The wish is kept, and no explicit command is put off. -/
theorem intent_queue_steps (start : World) :
    CommandSteps env (fun _ => True)
      (fun world =>
        SameIntent start world ∧ Queued (fun command => command.isExplicit = false) world) :=
  (intent_steps env start).and (queue_steps env)

theorem intent_loop (start : World) :
    LoopSteps env (fun _ => True)
      (fun world =>
        SameIntent start world ∧ Queued (fun command => command.isExplicit = false) world) where
  toSteps := (intent_queue_steps start).toSteps
  busies _ _ :=
    preserves_and (preserves_of_same (fun _ => rfl)) fun _ queued => queued
  defers := preserves_and (preserves_of_same (fun _ => rfl)) (queue_defers arrive)
  marks _ :=
    preserves_and (preserves_of_same (fun _ => rfl)) fun _ queued => queued
  drains := by
    rintro world command rest ⟨intent, queued⟩ isQueue
    have allowed : ∀ other ∈ command :: rest, other.isExplicit = false := by
      rw [← isQueue]
      exact queued
    exact (intent_queue_steps start).handleCommand (allowed command List.mem_cons_self)
      (fun _ _ => trivial) _
      ⟨⟨intent.wanted, intent.saved⟩,
        fun other member => allowed other (List.mem_cons_of_mem _ member)⟩

end Runs

/--
Neither the start nor any run without a command about the kill switch or the
file changes the wish, in memory or in a saved file, whatever the firewall and
NetworkManager answer.
-/
theorem intent_is_kept
    (env : Env)
    (arrive : ∀ number, ∀ command ∈ env.arrivals number, command.isExplicit = false)
    (world : World)
    (queued : ∀ command ∈ world.deferredCommands, command.isExplicit = false)
    (autostarts : Bool)
    (run : List LoopStep)
    (implicit : ∀ step ∈ run, step.isExplicit = false) :
    SameIntent world (runLoop env run world) ∧
      SameIntent world (runLoop env run ((startUp env autostarts).run world).2) := by
  have steps := @intent_queue_steps env world
  have loop := intent_loop arrive world
  have begun := steps.startUp autostarts world ⟨Std.Refl.refl world, queued⟩
  have kept {begun : World} :=
    @runLoop_preserves env _ _ begun steps loop
      (preserves_and (preserves_of_same (fun _ => rfl)) (fun _ queued => queued))
      run implicit (fun _ _ _ _ => trivial)
  exact ⟨(kept ⟨Std.Refl.refl world, queued⟩).1, (kept begun).1⟩

/-- A run with a connect, a drop that is reconnected and a disconnect. -/
def busyRun : List LoopStep :=
  [ .loopEvent (.trayCommand (.connect "berlin")),
    .dbusEvent (.vpnDeactivated "berlin"),
    .loopEvent (.ipcCommand .autoReconnectToggle),
    .pollTick 2000,
    .loopEvent (.ipcCommand .disconnect) ]

theorem intent_is_kept_busyRun :
    SameIntent wantingWorld
      (runLoop willingEnv busyRun ((startUp willingEnv false).run wantingWorld).2) := by
  have noArrivals : ∀ number, willingEnv.arrivals number = [] := fun _ => rfl
  have empty : wantingWorld.deferredCommands = [] := rfl
  have implicit : ∀ step ∈ busyRun, step.isExplicit = false := by decide
  have arrive : ∀ number, ∀ command ∈ willingEnv.arrivals number, command.isExplicit = false := by
    simp [noArrivals]
  have queued : ∀ command ∈ wantingWorld.deferredCommands, command.isExplicit = false := by
    simp [empty]
  exact (intent_is_kept willingEnv arrive wantingWorld queued false busyRun implicit).2

end Shroud.Supervisor
