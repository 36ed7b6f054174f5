import Shroud.BootRemoval
import Shroud.HandlerFrame
import Shroud.Restart

namespace Shroud

open Netfilter IptablesScript StateProgram

/-!
# The boot kill switch of a headless daemon

`run_headless` enables the boot kill switch, starts a supervisor and then
connects by itself.  When NetworkManager has verified a VPN it takes the boot
kill switch down ("Transition from boot kill switch to runtime kill switch"),
and it does not ask whether the supervisor has put its own rules in place.

The supervisor is another task.  The two tasks share nothing but the firewall,
and a command of the one may come between any two commands of the other.  What
a task does without a firewall command is one step here, and every command is a
step of its own.
-/

namespace Headless

open KillSwitch Supervisor

/-- `HeadlessConfig`, as far as it is read before the shutdown. -/
structure HeadlessConfig where
  autoConnect : Bool
  startupServer : Option String
  killSwitchOnBoot : Bool
  requireKillSwitch : Bool
  maxReconnectAttempts : Nat
  deriving Repr, DecidableEq

/-- The first step of `run_headless`; a result is the error that ends it. -/
def bootKillSwitch (fw : FwEnv) (headless : HeadlessConfig) (allowLan : Bool) :
    StateM KsWorld (Option KillSwitchError) := do
  if headless.killSwitchOnBoot then
    match ← enableBootKillswitch fw allowLan with
    | none => pure none
    | some error =>
      if headless.requireKillSwitch then pure (some error) else pure none
  else
    pure none

/-- What NetworkManager answers to `auto_connect_nmcli`, by attempt. -/
structure AutoConnectAnswers where
  connects : Nat → Bool
  active : Nat → Option String

/-- Where the task of `run_headless` is. -/
inductive Phase where
  /-- In an attempt of `auto_connect_nmcli`. -/
  | connecting (attempt : Nat)
  /-- In `disable_boot_killswitch`. -/
  | handingOver
  | ready
  deriving Repr, DecidableEq

/-- The daemon between its steps. -/
structure State where
  world : World
  phase : Phase
  /-- The supervisor is in a stage that uses the kill switch. -/
  toggling : Bool

/-- Reactions of the supervisor; in headless mode there is no tray. -/
inductive Reaction where
  | dbusEvent (event : NmEvent)
  | pollTick (wallMillis : Nat)
  | beginHealthCheck
  | finishHealthCheck (outcome : ProbeOutcome)
  | pause (millis : Nat)

def Reaction.loopStep : Reaction → LoopStep
  | .dbusEvent event => .dbusEvent event
  | .pollTick wallMillis => .pollTick wallMillis
  | .beginHealthCheck => .loopEvent .beginHealthCheck
  | .finishHealthCheck outcome => .loopEvent (.finishHealthCheck outcome)
  | .pause millis => .pause millis

/-- The stages of the supervisor's start that may use the kill switch. -/
inductive Stage where
  | reconcile
  | autoConnect (autostarts : Bool)

/-- The steps of the daemon: its own, and those of its supervisor. -/
inductive Step where
  /-- One attempt of `auto_connect_nmcli`. -/
  | attempt
  /-- A command of `disable_boot_killswitch`. -/
  | remove (command : FwCommand)
  /-- `disable_boot_killswitch` returns. -/
  | removed
  /-- `VpnSupervisor::new` looks for rules. -/
  | construct
  /-- The first look at NetworkManager. -/
  | lookAround
  | begin (stage : Stage)
  /-- A command of a stage that uses the kill switch. -/
  | toggle (command : FwCommand)
  /-- The end of such a stage, with what it has made of the supervisor. -/
  | finish (result : World)
  | react (reaction : Reaction)

/-- The tray channel of a headless supervisor has no sender. -/
def withoutTray (env : Env) : Env :=
  { env with arrivals := fun _ => [] }

section Running

variable
  (env : Env)
  (headless : HeadlessConfig)
  (answers : AutoConnectAnswers)

/-- No limit stands for as many attempts as an `u32` can count. -/
def maxAttempts : Nat :=
  if headless.maxReconnectAttempts = 0 then 2 ^ 32 - 1
  else headless.maxReconnectAttempts

/-- The configured server, or the last one. -/
def serverName (config : Config) : Option String :=
  headless.startupServer.or config.lastServer

def firstPhase (config : Config) : Phase :=
  if headless.autoConnect && (serverName headless config).isSome then
    .connecting 1
  else
    .ready

/-- Whether an attempt ends with an active VPN; it may be another one. -/
def verified (attempt : Nat) : Bool :=
  answers.connects attempt && (answers.active attempt).isSome

/-- Whether the next attempt starts to take the boot kill switch down. -/
def handsOver (state : State) : Bool :=
  match state.phase with
  | .connecting attempt => headless.killSwitchOnBoot && verified answers attempt
  | _ => false

/-- One attempt of `auto_connect_nmcli`. -/
def connectOnce (state : State) : State :=
  match state.phase with
  | .connecting attempt =>
    if verified answers attempt then
      { state with phase := if headless.killSwitchOnBoot then .handingOver else .ready }
    else if attempt < maxAttempts headless then
      { state with phase := .connecting (attempt + 1) }
    else
      { state with phase := .ready }
  | _ => state

/-- The supervisor looks at NetworkManager for the first time. -/
def lookAround : StateM World Unit := do
  shareSettings
  refreshConnections env
  initialNmSync env
  notePoll

/-- The supervisor connects by itself, if it is told to. -/
def connectByItself (autostarts : Bool) : StateM World Unit := do
  migrateAutostart autostarts
  Supervisor.autoConnect env

def Stage.run : Stage → StateM World Unit
  | .reconcile => reconcileKillSwitch env
  | .autoConnect autostarts => connectByItself env autostarts

/-- A stage that finds nothing to do with the kill switch. -/
def Stage.sparesSwitch (world : World) : Stage → Bool
  | .reconcile =>
    world.killSwitchIsEnabled || !world.config.killSwitchEnabled ||
      !world.machine.state.isConnected
  | .autoConnect autostarts =>
    !world.config.killSwitchEnabled || decide (world.machine.state ≠ .disconnected) ||
      !(world.config.autoConnect || autostarts)

/-- The world after a command. -/
def issue (world : World) (command : FwCommand) : World :=
  ((onKillSwitch (runCommand env.fw command)).run world).2

/-- The result of a stage, with the firewall that its commands have left. -/
def finished (result world : World) : World :=
  { result with
    kill := { result.kill with
      host := { result.kill.host with
        firewall := world.kill.host.firewall
        issued := world.kill.host.issued
        log := world.kill.host.log } }
    deferredCommands := [] }

/--
One step.  The supervisor does one thing after the other, so while a stage uses
the kill switch nothing else of the supervisor happens.  Such a stage may issue
any commands that spare the boot chain, and may come to any result.
-/
def Step.after (state : State) : Step → State
  | .attempt => connectOnce headless answers state
  | .remove command =>
    if state.phase = .handingOver ∧ editsBootChain command = true then
      { state with world := issue env state.world command }
    else state
  | .removed =>
    if state.phase = .handingOver then { state with phase := .ready } else state
  | .toggle command =>
    if state.toggling && command.sparesBoot then
      { state with world := issue env state.world command }
    else state
  | .finish result =>
    if state.toggling then
      { state with world := finished result state.world, toggling := false }
    else state
  | .begin stage =>
    if state.toggling then state
    else if stage.sparesSwitch state.world then
      { state with world := ((stage.run (withoutTray env)).run state.world).2 }
    else { state with toggling := true }
  | .construct =>
    if state.toggling then state
    else
      { state with
        world := ((onKillSwitch (KillSwitch.syncState env.fw)).run state.world).2 }
  | .lookAround =>
    if state.toggling then state
    else { state with world := ((Headless.lookAround (withoutTray env)).run state.world).2 }
  | .react reaction =>
    if state.toggling then state
    else { state with world := reaction.loopStep.after (withoutTray env) state.world }

def run (steps : List Step) (state : State) : State :=
  steps.foldl (fun state step => step.after env headless answers state) state

end Running

variable {world : World}

section Supervisor

variable {env : Env} {holds : Firewall → Prop} {start : World}

/-- The firewall has held since the start, and no command was put off. -/
def Held (holds : Firewall → Prop) (start world : World) : Prop :=
  Throughout holds start.kill world.kill ∧ Queued (fun _ => False) world

theorem throughout_of_nmOnly
    {before after : World}
    (only : NmOnly before after)
    (held : Throughout holds start.kill before.kill) :
    Throughout holds start.kill after.kill :=
  IsTrans.trans _ _ _ held (.of_same only.log only.firewall)

theorem held_steps
    (env : Env)
    (holds : Firewall → Prop)
    (start : World) :
    Steps (withoutTray env) (fun _ => True) (Held holds start) := by
  have first : Steps (withoutTray env) (fun _ => True)
      (fun world => Throughout holds start.kill world.kill) :=
    .of_nmOnly (fun _ _ only held => throughout_of_nmOnly only held)
  have second : Steps (withoutTray env) (fun _ => True)
      (Queued fun _ => False) :=
    (queue_steps (withoutTray env)).toSteps
  exact first.and second

theorem onKillSwitch_held
    {α : Type}
    {program : StateM KsWorld α}
    (keeps : Keeps (Throughout holds) program) :
    Preserves (Held holds start) (onKillSwitch program) := by
  intro world held
  exact ⟨IsTrans.trans _ _ _ held.1 (keeps world.kill), held.2⟩

theorem report_held (flag : World → Bool) :
    Preserves (Held holds start)
      (modify fun world =>
        { world with
          shared := { world.shared with killSwitch := flag world } } :
        StateM World PUnit) :=
  fun _ held => held

theorem reaction_held
    (reaction : Reaction)
    (held : Held holds start world) :
    Held holds start (reaction.loopStep.after (withoutTray env) world) := by
  have steps := held_steps env holds start
  have loop : LoopSteps (withoutTray env) (fun _ => True) (Held holds start) :=
    { toSteps := steps
      busies := fun _ _ _ held => held
      defers :=
        preserves_and (fun _ held => held)
          (queue_defers fun _ _ member => absurd member List.not_mem_nil)
      marks := fun _ _ held => held
      drains := by
        intro world command rest held queue
        have impossible := held.2 command
        rw [queue] at impossible
        exact (impossible List.mem_cons_self).elim }
  cases reaction with
  | dbusEvent event =>
    exact loop.handleDbusEvent (fun _ _ => trivial) world held
  | pollTick wallMillis => exact loop.pollTick (fun _ held => held) wallMillis world held
  | beginHealthCheck =>
    exact steps.toQuietSteps.beginHealthCheck
      (onKillSwitch_held syncState_throughout) report_held world held
  | finishHealthCheck outcome => exact loop.finishHealthCheck outcome world held
  | pause millis => exact steps.sleep millis world held

theorem lookAround_held :
    Preserves (Held holds start) (lookAround (withoutTray env)) := by
  have steps := held_steps env holds start
  refine .seq (fun _ held => held) ?_
  refine .seq steps.refreshConnections ?_
  refine .seq steps.initialNmSync ?_
  exact steps.note (by intro _; rfl)

theorem migrateAutostart_held (autostarts : Bool) :
    Preserves (Held holds start) (migrateAutostart autostarts) := by
  refine .get fun world _ => ?_
  refine .either ?_ .pure
  exact .bind (fun _ held => held) fun _ _ held => held

theorem connectIfAny_held
    (unwanted : world.config.killSwitchEnabled = false)
    (target : Option String)
    (held : Held holds start world) :
    Held holds start ((connectIfAny (withoutTray env) target).run world).2 := by
  have queue := @queue_steps (fun _ => False) (withoutTray env)
  cases target with
  | none => exact held
  | some server =>
    exact ⟨throughout_of_nmOnly
        (handleConnect_nmOnly (withoutTray env) (.inl unwanted) (.inl unwanted)) held.1,
      queue.connecting server trivial world held.2⟩

theorem autoConnect_settled
    (settled :
      world.config.killSwitchEnabled = false ∨
        ¬(world.machine.state = .disconnected ∧ world.config.autoConnect = true))
    (held : Held holds start world) :
    Held holds start ((Supervisor.autoConnect (withoutTray env)).run world).2 := by
  have steps := held_steps env holds start
  rw [Supervisor.autoConnect, run_get_bind]
  by_cases connects : world.machine.state = .disconnected ∧ world.config.autoConnect = true
  · rw [if_pos connects]
    have unwanted := settled.resolve_right (not_not_intro connects)
    have waited := Preserves.seq (steps.sleep 3000) steps.refreshConnections world held
    have only := nmOnly_steps (withoutTray env) world
    have only :=
      Preserves.seq (only.sleep 3000) only.refreshConnections world (Std.Refl.refl world)
    exact connectIfAny_held (only.wanted.trans unwanted) _ waited
  · rw [if_neg connects]
    exact held

/-- A stage that finds nothing to do issues no command. -/
theorem Stage.run_spares
    {stage : Stage}
    (spares : stage.sparesSwitch world = true)
    (held : Held holds start world) :
    Held holds start ((stage.run (withoutTray env)).run world).2 := by
  cases stage with
  | reconcile =>
    rw [Stage.run, reconcileKillSwitch, run_get_bind]
    rw [Stage.sparesSwitch] at spares
    cases enabled : world.killSwitchIsEnabled with
    | true => exact report_held (fun _ => true) world held
    | false =>
      cases wanted : world.config.killSwitchEnabled with
      | false => exact held
      | true =>
        have down : world.machine.state.isConnected = false := by
          simpa [enabled, wanted] using spares
        rw [down]
        exact held
  | autoConnect autostarts =>
    rw [Stage.run, connectByItself, run_bind]
    refine autoConnect_settled ?_ (migrateAutostart_held autostarts world held)
    simp only [Stage.sparesSwitch, Bool.or_eq_true, Bool.not_eq_true', decide_eq_true_iff,
      Bool.or_eq_false_iff] at spares
    rw [migrateAutostart, run_get_bind]
    rcases spares with (unwanted | up) | ⟨off, stays⟩
    · refine .inl ?_
      split
      · exact unwanted
      · exact unwanted
    · refine .inr fun both => up ?_
      split at both
      · exact both.1
      · exact both.1
    · rw [stays, Bool.false_and, if_neg Bool.false_ne_true]
      exact .inr fun both => Bool.false_ne_true (off.symm.trans both.2)

end Supervisor

section Steps

variable
  {env : Env}
  {headless : HeadlessConfig}
  {answers : AutoConnectAnswers}
  {holds : Firewall → Prop}
  {start : World}
  {state : State}

theorem issue_held
    {command : FwCommand}
    (keeps : Keeps (Throughout holds) (runCommand env.fw command))
    (held : Held holds start world) :
    Held holds start (issue env world command) :=
  onKillSwitch_held keeps world held

theorem finished_held
    (result : World)
    (held : Held holds start world) :
    Held holds start (finished result world) :=
  ⟨IsTrans.trans _ _ _ held.1 (.of_same rfl rfl), fun _ member => absurd member List.not_mem_nil⟩

/-- The world keeps a fact if the commands of the two tasks do. -/
theorem Step.after_held
    {step : Step}
    (removes :
      ∀ command, state.phase = .handingOver → editsBootChain command = true →
        Keeps (Throughout holds) (runCommand env.fw command))
    (toggles :
      ∀ command : FwCommand, state.toggling = true → command.sparesBoot = true →
        Keeps (Throughout holds) (runCommand env.fw command))
    (held : Held holds start state.world) :
    Held holds start (step.after env headless answers state).world := by
  cases step with
  | attempt =>
    rw [Step.after, connectOnce]
    split
    · split
      · exact held
      · split
        · exact held
        · exact held
    · exact held
  | remove command =>
    rw [Step.after]
    split
    · next both => exact issue_held (removes command both.1 both.2) held
    · exact held
  | removed =>
    rw [Step.after]
    split
    · exact held
    · exact held
  | toggle command =>
    rw [Step.after]
    split
    · next both =>
        rw [Bool.and_eq_true] at both
        exact issue_held (toggles command both.1 both.2) held
    · exact held
  | finish result =>
    rw [Step.after]
    split
    · exact finished_held result held
    · exact held
  | begin stage =>
    rw [Step.after]
    split
    · exact held
    · split
      · next spares => exact stage.run_spares spares held
      · exact held
  | construct =>
    rw [Step.after]
    split
    · exact held
    · exact onKillSwitch_held syncState_throughout _ held
  | lookAround =>
    rw [Step.after]
    split
    · exact held
    · exact lookAround_held _ held
  | react reaction =>
    rw [Step.after]
    split
    · exact held
    · exact reaction_held reaction held

/-- Only an attempt that is verified starts a hand-over. -/
def Step.handsOver (headless : HeadlessConfig) (answers : AutoConnectAnswers) (state : State) :
    Step → Bool
  | .attempt => Headless.handsOver headless answers state
  | _ => false

theorem Step.after_phase
    {step : Step}
    (keeps : step.handsOver headless answers state = false)
    (before : state.phase ≠ .handingOver) :
    (step.after env headless answers state).phase ≠ .handingOver := by
  cases step with
  | attempt =>
    rw [Step.handsOver, Headless.handsOver] at keeps
    rw [Step.after, connectOnce]
    cases phase : state.phase with
    | connecting attempt =>
      rw [phase] at keeps
      dsimp only at keeps ⊢
      cases isVerified : verified answers attempt with
      | true =>
        rw [isVerified, Bool.and_true] at keeps
        rw [keeps]
        exact Phase.noConfusion
      | false =>
        rw [if_neg Bool.false_ne_true]
        split
        · exact Phase.noConfusion
        · exact Phase.noConfusion
    | handingOver => exact absurd phase before
    | ready =>
      dsimp only
      rw [phase]
      exact Phase.noConfusion
  | removed =>
    rw [Step.after, if_neg before]
    exact before
  | _ =>
    rw [Step.after]
    repeat' split
    all_goals exact before

theorem connectOnce_handsOver
    (hands : handsOver headless answers state = true) :
    connectOnce headless answers state = { state with phase := .handingOver } := by
  rw [handsOver] at hands
  rw [connectOnce]
  cases phase : state.phase with
  | connecting attempt =>
    rw [phase] at hands
    obtain ⟨onBoot, isVerified⟩ := (Bool.and_eq_true _ _).mp hands
    dsimp only
    rw [if_pos isVerified, if_pos onBoot]
  | _ =>
    rw [phase] at hands
    exact Bool.noConfusion hands

end Steps

section Commands

variable {fw : FwEnv} {allowed : FwCommand → Bool}

/-- The firewall and what was asked of it are the same. -/
structure SameTrace (first second : Host) : Prop where
  firewall : second.firewall = first.firewall
  issued : second.issued = first.issued
  log : second.log = first.log

def issueAll (fw : FwEnv) (commands : List FwCommand) (host : Host) : Host :=
  commands.foldl (fun host command => host.after fw command) host

theorem SameTrace.issued_all
    {first second : Host}
    (same : SameTrace first second)
    (fw : FwEnv)
    (commands : List FwCommand) :
    SameTrace (issueAll fw commands first) (issueAll fw commands second) := by
  induction commands generalizing first second with
  | nil => exact same
  | cons command rest ih =>
    refine ih ⟨?_, ?_, ?_⟩
    · simp only [Host.after, same.firewall, same.issued]
    · simp only [Host.after, same.issued]
    · simp only [Host.after, Host.effectOf, same.firewall, same.issued, same.log]

/-- What happens to the firewall is the work of commands of one kind. -/
def Issues (fw : FwEnv) (allowed : FwCommand → Bool) (before after : KsWorld) : Prop :=
  ∃ commands, (∀ command ∈ commands, allowed command = true) ∧
    SameTrace (issueAll fw commands before.host) after.host

theorem Issues.of_same
    {before after : KsWorld}
    (same : SameTrace before.host after.host) :
    Issues fw allowed before after :=
  ⟨[], by simp, same⟩

instance : IsPreorder KsWorld (Issues fw allowed) where
  refl _ := .of_same ⟨rfl, rfl, rfl⟩
  trans := by
    rintro first second third ⟨early, earlyAllowed, toSecond⟩ ⟨late, lateAllowed, toThird⟩
    refine ⟨early ++ late, ?_, ?_⟩
    · intro command member
      rcases List.mem_append.mp member with isEarly | isLate
      · exact earlyAllowed command isEarly
      · exact lateAllowed command isLate
    · have both := toSecond.issued_all fw late
      rw [issueAll, List.foldl_append]
      exact ⟨toThird.firewall.trans both.firewall, toThird.issued.trans both.issued,
        toThird.log.trans both.log⟩

theorem runCommand_issues
    {command : FwCommand}
    (isAllowed : allowed command = true) :
    Keeps (Issues fw allowed) (runCommand fw command) :=
  fun _ => ⟨[command], by simpa using isAllowed, ⟨rfl, rfl, rfl⟩⟩

theorem disableBootKillswitch_issues (fw : FwEnv) :
    Keeps (Issues fw editsBootChain) (disableBootKillswitch fw) :=
  disableBootKillswitch_follows fun _ _ edits => runCommand_issues edits

variable {env : Env} {start : World}

theorem onKillSwitch_issues
    {α : Type}
    {program : StateM KsWorld α}
    (keeps : Keeps (Issues env.fw allowed) program) :
    Preserves (fun world => Issues env.fw allowed start.kill world.kill) (onKillSwitch program) :=
  fun world issues => IsTrans.trans _ _ _ issues (keeps world.kill)

/-- The runtime kill switch goes past the boot chain. -/
theorem sparing_switchSteps
    (env : Env)
    (start : World) :
    SwitchSteps (withoutTray env) (fun _ => True)
      (fun world => Issues env.fw FwCommand.sparesBoot start.kill world.kill) := by
  have scans : Keeps (Issues env.fw FwCommand.sparesBoot) (detectVpnEndpoints env.fw) :=
    fun _ => .of_same ⟨rfl, rfl, rfl⟩
  have toggles :=
    sparing_steps (fun _ spares => runCommand_issues spares)
      (fun _ _ => .of_same ⟨rfl, rfl, rfl⟩) scans
  have enables :
      Preserves (fun world => Issues env.fw FwCommand.sparesBoot start.kill world.kill)
        (onKillSwitch (KillSwitch.enable env.fw)) :=
    onKillSwitch_issues (.of_preserves fun before => (toggles before).enable)
  have disables :
      Preserves (fun world => Issues env.fw FwCommand.sparesBoot start.kill world.kill)
        (onKillSwitch (KillSwitch.disable env.fw)) :=
    onKillSwitch_issues (.of_preserves fun before => (toggles before).disable)
  exact
    { toSteps :=
        .of_nmOnly fun _ _ only issues =>
          IsTrans.trans _ _ _ issues (.of_same ⟨only.firewall, only.issued, only.log⟩)
      enables := by
        refine .bind enables fun result => ?_
        cases result with
        | some error => exact .pure
        | none => exact fun _ issues => issues
      disables := by
        refine .bind disables fun result => ?_
        cases result with
        | some error => exact .pure
        | none => exact fun _ issues => issues
      releases :=
        .get fun _ _ => .either (Preserves.seq disables fun _ issues => issues) .pure
      scans := onKillSwitch_issues scans }

theorem Stage.run_issues
    (stage : Stage)
    (world : World) :
    Issues env.fw FwCommand.sparesBoot world.kill
      ((stage.run (withoutTray env)).run world).2.kill := by
  have steps := sparing_switchSteps env world
  cases stage with
  | reconcile =>
    exact steps.reconcileKillSwitch (fun _ _ issues => issues) world (Std.Refl.refl _)
  | autoConnect autostarts =>
    have migrates :
        Preserves (fun later => Issues env.fw FwCommand.sparesBoot world.kill later.kill)
          (migrateAutostart autostarts) :=
      .get fun _ _ => .either (fun _ issues => issues) .pure
    have connects := steps.autoConnect fun _ _ =>
      steps.handleConnect (fun _ _ _ _ issues => issues) trivial
    exact migrates.seq connects world (Std.Refl.refl _)

/-- A stage puts no command off. -/
theorem Stage.run_queue
    (stage : Stage)
    (fresh : world.deferredCommands = []) :
    ((stage.run (withoutTray env)).run world).2.deferredCommands = [] := by
  have steps := @queue_steps (fun _ => False) (withoutTray env)
  have before : Queued (fun _ => False) world := by
    rw [Queued, fresh]
    simp
  have after : Queued (fun _ => False) ((stage.run (withoutTray env)).run world).2 := by
    cases stage with
    | reconcile => exact steps.reconcileKillSwitch steps.reports world before
    | autoConnect autostarts =>
      exact (steps.migrateAutostart autostarts).seq
        (steps.autoConnect steps.connecting) world before
  exact List.eq_nil_iff_forall_not_mem.mpr after

variable
  {headless : HeadlessConfig}
  {answers : AutoConnectAnswers}
  {commands : List FwCommand}
  {phase : Phase}
  {toggling : Bool}

/-- Steps that each issue a command issue them in their order. -/
theorem run_issues
    {step : FwCommand → Step}
    (issues :
      ∀ command ∈ commands, ∀ world,
        (step command).after env headless answers ⟨world, phase, toggling⟩ =
          ⟨issue env world command, phase, toggling⟩)
    (world : World) :
    run env headless answers (commands.map step) ⟨world, phase, toggling⟩ =
      ⟨{ world with
          kill := { world.kill with host := issueAll env.fw commands world.kill.host } },
        phase, toggling⟩ := by
  induction commands generalizing world with
  | nil => rfl
  | cons command rest ih =>
    obtain ⟨first, others⟩ := List.forall_mem_cons.mp issues
    rw [List.map_cons, run, List.foldl_cons, first]
    exact ih others _

/-- A stage of the code is one of the ways in which a stage may go. -/
theorem stage_is_steps
    (stage : Stage)
    (fresh : world.deferredCommands = []) :
    ∃ commands : List FwCommand, (∀ command ∈ commands, command.sparesBoot = true) ∧
      let result := ((stage.run (withoutTray env)).run world).2
      run env headless answers (commands.map .toggle ++ [.finish result]) ⟨world, phase, true⟩ =
        ⟨result, phase, false⟩ := by
  obtain ⟨commands, spare, same⟩ := @Stage.run_issues env stage world
  refine ⟨commands, spare, ?_⟩
  intro result
  have queue : result.deferredCommands = [] := stage.run_queue fresh
  have ends (reached : World)
      (trace : SameTrace reached.kill.host result.kill.host) :
      finished result reached = result := by
    rw [finished, ← trace.firewall, ← trace.issued, ← trace.log, ← queue]
  have toggles :
      ∀ command ∈ commands, ∀ world,
        (Step.toggle command).after env headless answers ⟨world, phase, true⟩ =
          ⟨issue env world command, phase, true⟩ := by
    intro command member world
    rw [Step.after, spare command member]
    rfl
  rw [run, List.foldl_append]
  change (Step.finish result).after env headless answers
    (run env headless answers (commands.map .toggle) ⟨world, phase, true⟩) = _
  rw [run_issues toggles, Step.after, if_pos rfl, ends _ same]

/-- The hand-over of the code is one of the ways in which it may go. -/
theorem handOver_is_steps (world : World) :
    ∃ commands : List FwCommand, (∀ command ∈ commands, editsBootChain command = true) ∧
      SameTrace
        (run env headless answers (commands.map .remove)
          ⟨world, .handingOver, toggling⟩).world.kill.host
        ((disableBootKillswitch env.fw).run world.kill).2.host := by
  obtain ⟨commands, edit, same⟩ := disableBootKillswitch_issues env.fw world.kill
  refine ⟨commands, edit, ?_⟩
  have removes :
      ∀ command ∈ commands, ∀ world,
        (Step.remove command).after env headless answers ⟨world, .handingOver, toggling⟩ =
          ⟨issue env world command, .handingOver, toggling⟩ := by
    intro command member world
    rw [Step.after, if_pos ⟨rfl, edit command member⟩]
  rw [run_issues removes]
  exact same

end Commands

section Runs

variable
  (env : Env)
  (headless : HeadlessConfig)
  (answers : AutoConnectAnswers)

/-- The daemon after the call of `enable_boot_killswitch`. -/
def booted
    (config : Config)
    (allowLan : Bool)
    (world : World) :
    State where
  world :=
    { world with
      kill := ((bootKillSwitch env.fw headless allowLan).run world.kill).2 }
  phase := firstPhase headless config
  toggling := false

/-- The state before the hand-over, and the steps after the attempt that starts it. -/
def handOverAt? : List Step → State → Option (State × List Step)
  | [], _ => none
  | step :: rest, state =>
    if step.handsOver headless answers state then some (state, rest)
    else handOverAt? rest (step.after env headless answers state)

/--
When the boot kill switch begins to be taken down, the runtime rules are in
place, and the supervisor is not in a stage that uses the kill switch.
-/
def SafeHandOver (steps : List Step) (state : State) : Prop :=
  ∀ found rest,
    handOverAt? env headless answers steps state = some (found, rest) →
      RuntimeBlocks (firewallOf found.world.kill) ∧ found.toggling = false

/-- A stage that begins finds nothing to do with the kill switch. -/
def Step.sparesSwitch (world : World) : Step → Bool
  | .begin stage => stage.sparesSwitch world
  | _ => true

/-- So does every stage that begins in a run. -/
def sparesThroughout : List Step → State → Bool
  | [], _ => true
  | step :: rest, state =>
    step.sparesSwitch state.world &&
      sparesThroughout rest (step.after env headless answers state)

/-- So it is from the beginning of the hand-over on. -/
def SparingAfter (steps : List Step) (state : State) : Prop :=
  ∀ found rest,
    handOverAt? env headless answers steps state = some (found, rest) →
      sparesThroughout env headless answers rest (connectOnce headless answers found) = true

variable {env headless answers}

variable {state : State} {start : World}

/-- A run up to its hand-over, if it comes to one. -/
inductive Course
    (env : Env)
    (headless : HeadlessConfig)
    (answers : AutoConnectAnswers)
    (start : World)
    (result : State) :
    Option (State × List Step) → Prop where
  | kept
      (held : Held BootLinked start result.world) :
      Course env headless answers start result none
  | handedOver
      {found : State}
      {rest : List Step}
      (held : Held BootLinked start found.world)
      (hands : handsOver headless answers found = true)
      (remaining :
        result = run env headless answers rest (connectOnce headless answers found)) :
      Course env headless answers start result (some (found, rest))

/-- Up to the hand-over the boot chain stays in force. -/
theorem run_course
    (steps : List Step)
    {state : State}
    (before : state.phase ≠ .handingOver)
    (held : Held BootLinked start state.world) :
    Course env headless answers start
      (run env headless answers steps state)
      (handOverAt? env headless answers steps state) := by
  induction steps generalizing state with
  | nil => exact .kept held
  | cons step rest ih =>
    rw [handOverAt?]
    cases hands : step.handsOver headless answers state with
    | false =>
      rw [if_neg Bool.false_ne_true]
      refine ih (step.after_phase hands before) (step.after_held ?_ ?_ held)
      · exact fun _ phase => absurd phase before
      · exact fun _ _ spares => runCommand_bootLinked spares
    | true =>
      rw [if_pos rfl]
      cases step with
      | attempt => exact .handedOver held hands rfl
      | _ => exact Bool.noConfusion hands

/-- A step that is not the beginning of such a stage does not enter one. -/
theorem Step.after_toggling
    {step : Step}
    (spares : step.sparesSwitch state.world = true)
    (idle : state.toggling = false) :
    (step.after env headless answers state).toggling = false := by
  cases step with
  | begin stage =>
    have stageSpares : stage.sparesSwitch state.world = true := spares
    rw [Step.after, idle, if_neg Bool.false_ne_true, if_pos stageSpares]
  | attempt =>
    rw [Step.after, connectOnce]
    repeat' split
    all_goals exact idle
  | _ =>
    rw [Step.after]
    repeat' split
    all_goals first | exact idle | rfl

/-- From the hand-over on the runtime kill switch stays in force. -/
theorem run_sparing
    (steps : List Step)
    (idle : state.toggling = false)
    (sparing : sparesThroughout env headless answers steps state = true)
    (held : Held RuntimeBlocks start state.world) :
    Held RuntimeBlocks start (run env headless answers steps state).world := by
  induction steps generalizing state with
  | nil => exact held
  | cons step rest ih =>
    obtain ⟨now, later⟩ := (Bool.and_eq_true _ _).mp sparing
    refine ih (step.after_toggling now idle) later (step.after_held ?_ ?_ held)
    · exact fun _ _ edits => runCommand_runtimeBlocks edits
    · exact fun _ toggling => absurd (toggling.symm.trans idle) Bool.noConfusion

theorem booted_linked
    {config : Config}
    {allowLan : Bool}
    (onBoot : headless.killSwitchOnBoot = true)
    (enabled : ((enableBootKillswitch env.fw allowLan).run world.kill).1 = none) :
    BootLinked (firewallOf (booted env headless config allowLan world).world.kill) := by
  have same :
      (booted env headless config allowLan world).world.kill =
        ((enableBootKillswitch env.fw allowLan).run world.kill).2 := by
    rw [booted, bootKillSwitch, if_pos onBoot, run_bind, enabled]
    rfl
  rw [same]
  exact enableBootKillswitch_linked enabled

theorem booted_phase
    (config : Config)
    (allowLan : Bool) :
    (booted env headless config allowLan world).phase ≠ .handingOver := by
  rw [booted, firstPhase]
  split
  · exact Phase.noConfusion
  · exact Phase.noConfusion

end Runs

/--
A daemon with a boot kill switch is guarded at every step of every run in which
the runtime rules are in place when the boot kill switch begins to be taken
down, and the supervisor's start uses the kill switch neither then nor later.
-/
theorem headless_boot_guarded
    (env : Env)
    (headless : HeadlessConfig)
    (answers : AutoConnectAnswers)
    (config : Config)
    (allowLan : Bool)
    (world : World)
    (steps : List Step)
    (fresh : world.deferredCommands = [])
    (onBoot : headless.killSwitchOnBoot = true)
    (enabled : ((enableBootKillswitch env.fw allowLan).run world.kill).1 = none)
    (safe :
      SafeHandOver env headless answers steps (booted env headless config allowLan world))
    (sparing :
      SparingAfter env headless answers steps (booted env headless config allowLan world)) :
    let start := booted env headless config allowLan world
    AtEveryStep Guarded start.world.kill (run env headless answers steps start).world.kill := by
  intro start
  have nothingWaits : Queued (fun _ => False) start.world := by
    intro command member
    change command ∈ world.deferredCommands at member
    rw [fresh] at member
    exact List.not_mem_nil member
  have course :=
    @run_course env headless answers start.world steps start (booted_phase config allowLan)
      ⟨Std.Refl.refl _, nothingWaits⟩
  have linked : BootLinked (firewallOf start.world.kill) := booted_linked onBoot enabled
  rw [SafeHandOver] at safe
  rw [SparingAfter] at sparing
  generalize handOverAt? env headless answers steps start = handed at course safe sparing
  cases course with
  | kept held =>
    exact (held.1.weaken linked (fun _ linked => .inl linked)).atEveryStep (.inl linked)
  | @handedOver found rest held hands remaining =>
    obtain ⟨blocks, idle⟩ := safe found rest rfl
    have calm := sparing found rest rfl
    rw [connectOnce_handsOver hands] at calm remaining
    have early : Throughout Guarded start.world.kill found.world.kill :=
      held.1.weaken linked fun _ linked => .inl linked
    have late :
        Held RuntimeBlocks found.world (run env headless answers steps start).world := by
      rw [remaining]
      exact run_sparing rest idle calm ⟨Std.Refl.refl _, held.2⟩
    have guarded : Throughout Guarded found.world.kill _ :=
      late.1.weaken blocks fun _ blocks => .inr blocks
    exact (IsTrans.trans _ _ _ early guarded).atEveryStep (.inl linked)

/-- A server is configured, and both kill switches are asked for. -/
def guardedServer : HeadlessConfig where
  autoConnect := true
  startupServer := some "paris"
  killSwitchOnBoot := true
  requireKillSwitch := true
  maxReconnectAttempts := 3

def bootedHost : World :=
  .new { Config.default with killSwitchEnabled := true } .default 10 KillSwitch.freshWorld.host

def connectsAtOnce : AutoConnectAnswers where
  connects := fun _ => true
  active := fun _ => some "paris"

/-- The supervisor has started before the first attempt. -/
def plainStart : List Step :=
  [.construct, .lookAround, .begin .reconcile, .attempt]

/-- A host on which the rules of an earlier daemon are still in place. -/
def persistedHost : World :=
  .new bootedHost.config .default 10
    ((KillSwitch.enable Supervisor.calmEnv.fw).run KillSwitch.freshWorld).2.host

/-- The boot chain is taken down while the supervisor goes on with its start. -/
def interleavedHandOver : List Step :=
  [ .remove (.xtables .iptables .default (.delete .output (jumpTo .boot))),
    .begin (.autoConnect false),
    .remove (.xtables .iptables .default (.flush .boot)),
    .react (.pollTick 2000),
    .removed ]

theorem headless_boot_guarded_persisted :
    let start := booted Supervisor.calmEnv guardedServer persistedHost.config false persistedHost
    let handed := run Supervisor.calmEnv guardedServer connectsAtOnce plainStart start
    let ended := run Supervisor.calmEnv guardedServer connectsAtOnce interleavedHandOver handed
    handed.phase = .handingOver ∧ ended.phase = .ready ∧
      AtEveryStep Guarded start.world.kill ended.world.kill := by
  intro start handed ended
  have found :
      handOverAt? Supervisor.calmEnv guardedServer connectsAtOnce
          (plainStart ++ interleavedHandOver) start =
        some (run Supervisor.calmEnv guardedServer connectsAtOnce (plainStart.take 3) start,
          interleavedHandOver) :=
    rfl
  have computed :
      handed.phase = .handingOver ∧ ended.phase = .ready ∧
        handed.toggling = false ∧
        (firewallOf handed.world.kill).nft.map (·.output.policy) = some .drop ∧
        sparesThroughout Supervisor.calmEnv guardedServer connectsAtOnce interleavedHandOver
          handed = true := by
    decide +kernel
  obtain ⟨hands, ends, idle, policy, spares⟩ := computed
  refine ⟨hands, ends, headless_boot_guarded Supervisor.calmEnv guardedServer connectsAtOnce
    persistedHost.config false persistedHost (plainStart ++ interleavedHandOver) rfl rfl rfl ?_ ?_⟩
  · intro state rest same
    obtain ⟨rfl, rfl⟩ := Prod.mk.inj (Option.some.inj (found.symm.trans same))
    exact ⟨.inr (Option.map_eq_some_iff.mp policy), idle⟩
  · intro state rest same
    obtain ⟨rfl, rfl⟩ := Prod.mk.inj (Option.some.inj (found.symm.trans same))
    exact spares

/-- The daemon when a first attempt was verified on a host without rules. -/
def handedOver : State :=
  run Supervisor.calmEnv guardedServer connectsAtOnce plainStart
    (booted Supervisor.calmEnv guardedServer bootedHost.config false bootedHost)

/-- The firewall when `disable_boot_killswitch` has returned. -/
def connectedFirewall : Firewall :=
  firewallOf ((disableBootKillswitch Supervisor.calmEnv.fw).run handedOver.world.kill).2

theorem connectedFirewall_unguarded :
    ¬Guarded connectedFirewall := by
  have unlinked (variant : Variant) (chain : Chain) :
      jumpTo chain ∉ (connectedFirewall.table .iptables variant).output := by
    have empty : (connectedFirewall.table .iptables variant).output = [] := by
      cases variant <;> decide +kernel
    rw [empty]
    exact List.not_mem_nil
  rintro (⟨jump, -⟩ | ⟨variant, jump, -⟩ | ⟨table, installed, -⟩)
  · exact unlinked _ _ jump
  · exact unlinked _ _ jump
  · have absent : connectedFirewall.nft = none := by decide +kernel
    exact Option.some_ne_none table (installed.symm.trans absent)

/--
The boot kill switch is enabled, the connection comes up, the commands of
`disable_boot_killswitch` are carried out, and then there is no kill switch at
all.
-/
theorem handOver_leaves_nothing :
    ((enableBootKillswitch Supervisor.calmEnv.fw false).run bootedHost.kill).1 = none ∧
      ∃ removals : List FwCommand,
        let ended :=
          run Supervisor.calmEnv guardedServer connectsAtOnce (removals.map .remove) handedOver
        firewallOf ended.world.kill = connectedFirewall ∧
          ¬Guarded connectedFirewall ∧
          (connectedFirewall.table .iptables .default).verdict .quiet publicPacket = .accept := by
  refine ⟨rfl, ?_⟩
  have hands : handedOver.phase = .handingOver ∧ handedOver.toggling = false := by
    decide +kernel
  obtain ⟨removals, -, same⟩ :=
    @handOver_is_steps Supervisor.calmEnv guardedServer connectsAtOnce false handedOver.world
  have whole : handedOver = ⟨handedOver.world, .handingOver, false⟩ := by
    rw [← hands.1, ← hands.2]
  refine ⟨removals, ?_, connectedFirewall_unguarded, by decide +kernel⟩
  rw [whole]
  exact same.firewall.symm

end Headless

end Shroud
