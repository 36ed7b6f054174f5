import Shroud.EventLoop
import Shroud.SupervisorFrame

namespace Shroud

open StateProgram

/-!
# Invariants of the handlers

The handlers of the event loop are built from a few kinds of steps: they wait,
call NetworkManager, move the state machine, note something for themselves,
and use the kill switch.  An invariant that these steps keep is kept by every
handler.  An invariant may depend on the names of VPNs that can turn up; what
is asked of it is then asked for such names only.
-/

/-- The command of the tray that is about the kill switch itself. -/
def VpnCommand.isExplicit : VpnCommand → Bool
  | .toggleKillSwitch => true
  | _ => false

theorem VpnCommand.isExplicit_eq_false
    {command : VpnCommand}
    (other : command ≠ .toggleKillSwitch) :
    command.isExplicit = false := by
  cases command with
  | toggleKillSwitch => exact absurd rfl other
  | _ => rfl

def VpnCommand.isFinal (command : VpnCommand) : Bool :=
  command == .quit || command == .restart

/-- The supervisor sends the event without a name; `Timeout` is never sent. -/
def Event.isPlain : Event → Bool
  | .timeout => false
  | event => event.name?.isNone

def NmCall.isConnect : NmCall → Bool
  | .connect _ _ => true
  | _ => false

namespace Supervisor

def NmEvent.name? : NmEvent → Option String
  | .vpnActivated name => some name
  | .vpnDeactivated name => some name
  | .vpnActivating name => some name
  | .vpnFailed name _ => some name
  | .connectivityChanged _ => none

/-- A count that the backoffs are no part of. -/
def CountsQuestions (count : Asked → Asked) : Prop :=
  ∀ asked, (count asked).windows = asked.windows

/-- A note of times that is neither about a running reconnect nor a wake-up. -/
def KeepsMark (timing : World → TimingState) : Prop :=
  ∀ world,
    ((timing world).reconnectInProgress, (timing world).lastWakeEvent) =
      (world.timing.reconnectInProgress, world.timing.lastWakeEvent)

/-- Put off the commands that arrive in a backoff. -/
def deferArrivals (env : Env) (world : World) : World :=
  { world with
    deferredCommands := world.deferredCommands ++ deferredOf (env.arrivals world.asked.windows)
    asked := { world.asked with windows := world.asked.windows + 1 } }

/-- NetworkManager answers with such names only. -/
structure Answers (env : Env) (names : String → Prop) : Prop where
  active : ∀ number name, env.active number = some name → names name
  activeInfo : ∀ number info, env.activeInfo number = some info → names info.name
  allActive : ∀ number, ∀ info ∈ env.allActive number, names info.name
  listed : ∀ number, ∀ name ∈ env.listed number, names name

theorem answers_any (env : Env) :
    Answers env (fun _ => True) :=
  ⟨fun _ _ _ => trivial, fun _ _ _ => trivial, fun _ _ _ => trivial, fun _ _ _ => trivial⟩

/-- The tick finds that the computer was asleep, and reacts to it. -/
def Wakes (world : World) (wallMillis : Nat) : Prop :=
  (detectTimeJump wallMillis (world.now - world.timing.lastPollTime)
    timeJumpThresholdMs).isSome = true ∧ mayWake world = true

/-- Forcing the state keeps the invariant. -/
def Forces (inv : World → Prop) (next : VpnState) : Prop :=
  Preserves inv
    (modify fun world =>
      { world with machine := world.machine.setState next } :
      StateM World PUnit)

/-- The note of a wake-up keeps the invariant. -/
def StampsWake (inv : World → Prop) : Prop :=
  Preserves inv
    (modify fun world =>
      { world with
        healthChecker := world.healthChecker.suspend world.now 10000
        timing := { world.timing with lastWakeEvent := some world.now } } :
      StateM World PUnit)

/-- A report about the kill switch keeps the invariant. -/
def ReportsSwitch (inv : World → Prop) : Prop :=
  ∀ flag : World → Bool,
    Preserves inv
      (modify fun world =>
        { world with shared := { world.shared with killSwitch := flag world } } :
        StateM World PUnit)

/-- A change of the configuration that is written to the file keeps it. -/
def Stores (inv : World → Prop) (change : Config → Config) : Prop :=
  Preserves inv
    (do
      modifyConfig change
      saveConfig)

/-- An invariant is kept by what handlers that connect nothing are built from. -/
structure QuietSteps
    (env : Env)
    (names : String → Prop)
    (inv : World → Prop) : Prop where
  answers : Answers env names
  tracked : ∀ world, inv world → ∀ name, world.machine.state.serverName = some name → names name
  sleep : ∀ millis, Preserves inv (sleep millis)
  calls :
    ∀ call count, call.isConnect = false → CountsQuestions count →
      Preserves inv (noteCall env call count)
  dispatches :
    ∀ event : Event, event ≠ .timeout → (∀ name, event.name? = some name → names name) →
      Preserves inv (dispatch event)
  forces :
    ∀ next : VpnState, next.isBusy = false →
      (∀ name, next.serverName = some name → names name) → Forces inv next
  syncs : Preserves inv syncSharedState
  times :
    ∀ (timing : World → TimingState) (checker : World → HealthChecker),
      KeepsMark timing →
        Preserves inv
          (modify fun world =>
            { world with
              timing := timing world
              healthChecker := checker world } :
            StateM World PUnit)
  counts :
    ∀ count : World → Asked,
      (∀ world, (count world).windows = world.asked.windows) →
        Preserves inv (modify fun world => { world with asked := count world } :
            StateM World PUnit)
  lists :
    ∀ connections : List String,
      Preserves inv (modifyShared fun shared => { shared with connections := connections })
  forgets :
    Preserves inv
      (modify fun world =>
        { world with
          switchCtx := { world.switchCtx with
            fromServer := none
            completedTime := none } } :
        StateM World PUnit)

variable
  {env : Env}
  {names : String → Prop}
  {inv : World → Prop}
  {event : Event}
  {world : World}

namespace QuietSteps

variable (steps : QuietSteps env names inv)

include steps

theorem getActiveVpn :
    Ensures inv (getActiveVpn env)
      (fun active world =>
        inv world ∧ ∀ name, active = some name → names name) := by
  intro world before
  exact ⟨steps.calls .getActiveVpn
    (fun asked => { asked with active := asked.active + 1 }) rfl (fun _ => rfl)
    world before, steps.answers.active _⟩

theorem getActiveVpnWithState :
    Ensures inv (getActiveVpnWithState env)
      (fun active world =>
        inv world ∧ ∀ info, active = some info → names info.name) := by
  intro world before
  exact ⟨steps.calls .getActiveVpnWithState
    (fun asked => { asked with activeInfo := asked.activeInfo + 1 }) rfl
    (fun _ => rfl) world before, steps.answers.activeInfo _⟩

theorem getAllActiveVpns :
    Ensures inv (getAllActiveVpns env)
      (fun active world =>
        inv world ∧ ∀ info ∈ active, names info.name) := by
  intro world before
  exact ⟨steps.calls .getAllActiveVpns
    (fun asked => { asked with allActive := asked.allActive + 1 }) rfl
    (fun _ => rfl) world before, steps.answers.allActive _⟩

theorem getVpnState (name : String) :
    Preserves inv (getVpnState env name) :=
  .get (fun _ _ => .bind (steps.calls _ _ rfl (fun _ => rfl)) (fun _ => .pure))

theorem nmDisconnect (name : String) :
    Preserves inv (nmDisconnect env name) :=
  .get (fun _ _ => .bind (steps.calls _ _ rfl (fun _ => rfl)) (fun _ => .pure))

theorem listVpnConnections :
    Preserves inv (listVpnConnections env) :=
  .get (fun _ _ => .bind (steps.calls _ _ rfl (fun _ => rfl)) (fun _ => .pure))

theorem note
    {timing : World → TimingState}
    (keepsMark : KeepsMark timing) :
    Preserves inv (modify fun world => { world with timing := timing world } :
        StateM World PUnit) :=
  steps.times timing (fun world => world.healthChecker) keepsMark

theorem refreshConnections :
    Preserves inv (refreshConnections env) := by
  refine .bind steps.listVpnConnections ?_
  intro connections
  exact steps.lists connections

theorem tell (plain : event.isPlain = true) :
    Preserves inv (dispatchAndSync event) := by
  refine .seq (steps.dispatches event ?_ ?_) steps.syncs
  · rintro rfl
    exact Bool.noConfusion plain
  · intro name named
    cases event <;> first | exact Bool.noConfusion plain | exact nomatch named

section

variable {name : String} (named : event.name? = some name) (known : names name)

include named known

theorem dispatchNamed :
    Preserves inv (dispatch event) := by
  apply steps.dispatches event
  · rintro rfl
    exact (Option.some_ne_none name named.symm).elim
  · intro server same
    rw [← Option.some.inj (named.symm.trans same)]
    exact known

theorem report :
    Preserves inv (dispatchAndSync event) :=
  Preserves.seq (steps.dispatchNamed named known) steps.syncs

end

theorem nmVpnUp {name : String} :
    names name → Preserves inv (dispatchAndSync (.nmVpnUp name)) :=
  steps.report rfl

theorem setStateAndSync
    {next : VpnState}
    (idle : next.isBusy = false)
    (known : ∀ name, next.serverName = some name → names name) :
    Preserves inv (setStateAndSync next) := by
  refine .seq (steps.forces next idle known) ?_
  exact steps.syncs

theorem setDisconnected :
    Preserves inv (Supervisor.setStateAndSync .disconnected) :=
  steps.setStateAndSync rfl nofun

theorem correctState
    {active : Option String}
    (known : ∀ name, active = some name → names name) :
    Preserves inv (correctState active) := by
  have follows : Keeps (Along inv) (Supervisor.correctState active) :=
    correctState_follows (fun conn isConn => steps.nmVpnUp (known conn isConn))
      steps.setDisconnected (steps.note (fun _ => rfl))
  exact follows

theorem syncStateFromNm :
    Preserves inv (syncStateFromNm env) := by
  refine .bindResult steps.getActiveVpn ?_
  intro active known
  exact steps.correctState known

theorem beginHealthCheck
    (looks : Preserves inv (onKillSwitch (KillSwitch.syncState env.fw)))
    (reports : ReportsSwitch inv) :
    Preserves inv (beginHealthCheck env) := by
  refine .bind steps.syncStateFromNm ?_
  intro corrected
  refine .either .pure ?_
  refine .seq (.bind looks (fun _ => reports _)) ?_
  exact .get fun _ _ => .pure

theorem waits :
    WaitsAlong env (Along inv) where
  sleep := steps.sleep
  getAllActiveVpns world before := (steps.getAllActiveVpns world before).1
  getVpnState := steps.getVpnState
  nmDisconnect := steps.nmDisconnect
  killOrphans := steps.calls _ _ rfl (fun _ => rfl)

theorem disconnectAll (vpns : List ActiveVpnInfo) :
    Preserves inv (disconnectAll env vpns) :=
  steps.waits.disconnectAll vpns

theorem initialNmSync :
    Preserves inv (initialNmSync env) := by
  refine .bindResult steps.getAllActiveVpns ?_
  intro vpns _
  have drops : Preserves inv (dropExtrasAtStart env vpns) := by
    refine .either ?_ .pure
    exact .seq (steps.disconnectAll _) (steps.sleep _)
  refine .seq drops ?_
  refine .bindResult steps.getActiveVpnWithState ?_
  intro active known
  have notes : Preserves inv (noteInitialVpn active) := by
    cases active with
    | none => exact .pure
    | some info =>
      obtain ⟨name, state⟩ := info
      have tells :
          ∀ event : Event, event.name? = some name →
            Preserves inv
              (do
                let _ ← dispatch event
                pure () : StateM World Unit) := by
        intro event named
        exact .seq (steps.dispatchNamed named (known _ rfl)) .pure
      cases state with
      | activated => exact tells (.nmVpnUp name) rfl
      | activating => exact tells (.userEnable name) rfl
      | deactivating => exact .pure
      | inactive => exact .pure
  exact .seq notes steps.syncs

section Waking

variable (joins : ∀ name, names name → Forces inv (.connecting name))

include joins

theorem forceStateResync :
    Preserves inv (forceStateResync env) := by
  refine .seq (steps.note (fun _ => rfl)) ?_
  refine .seq steps.refreshConnections ?_
  refine .bindResult steps.getActiveVpnWithState ?_
  intro active known
  have resyncs : Preserves inv (resyncState active) := by
    intro world before
    have drops := steps.forces .disconnected rfl nofun world before
    rw [resyncState, run_modify]
    dsimp only
    cases active with
    | none =>
      rw [resyncedState]
      cases world.machine.state.isBusy with
      | true => exact before
      | false => exact drops
    | some info =>
      obtain ⟨server, state⟩ := info
      have isKnown : names server := known _ rfl
      cases state with
      | activating => exact joins server isKnown world before
      | activated =>
        refine steps.forces (.connected server) rfl ?_ world before
        intro name isName
        exact Option.some.inj isName ▸ isKnown
      | _ => exact drops
  refine .seq resyncs ?_
  refine .seq steps.syncs ?_
  exact steps.note (fun _ => rfl)

theorem wakeUp (stamps : StampsWake inv) :
    Preserves inv (wakeUp env) := by
  refine .seq stamps ?_
  refine .seq (steps.dispatches .wake nofun nofun) ?_
  exact steps.forceStateResync joins

end Waking

theorem passFilters (event : NmEvent) :
    Preserves inv (passFilters event) := by
  have grace : Preserves inv passGrace := by
    refine .get fun world _ => ?_
    refine .either .pure ?_
    exact .seq (steps.note (fun _ => rfl)) .pure
  have switch : Preserves inv (passSwitch event) := by
    refine .get fun world _ => ?_
    refine .either ?_ grace
    refine .either .pure ?_
    exact .seq steps.forgets grace
  refine .get fun world _ => ?_
  refine .either .pure ?_
  refine .either .pure ?_
  exact .seq (steps.note (fun _ => rfl)) switch

theorem handleActivated
    {name : String}
    (known : names name) :
    Preserves inv (handleActivated env name) := by
  have joins : Preserves inv (joinActivated env name) := by
    refine .bindResult steps.getAllActiveVpns ?_
    intro vpns _
    refine .seq (.either (steps.disconnectAll _) .pure) ?_
    exact steps.nmVpnUp known
  refine .get fun world _ => ?_
  cases world.machine.state.serverName with
  | none => exact joins
  | some current =>
    refine .either ?_ joins
    refine .seq (steps.nmVpnUp known) ?_
    exact .seq (steps.nmDisconnect current) .pure

end QuietSteps

/-- The signal says that a VPN is gone which may be reconnected. -/
def NmEvent.reportsLoss (world : World) : NmEvent → Bool
  | .vpnDeactivated name =>
    decide (world.machine.state.serverName = some name) && world.machine.state.isUp
  | .vpnFailed _ _ => true
  | _ => false

/-- The verdict is that the connection is dead. -/
def HealthResult.isDead : HealthResult → Bool
  | .dead _ => true
  | _ => false

/-- The step hears of a loss that is answered by a reconnect if one is wanted. -/
def LoopStep.HearsLoss (env : Env) (world : World) : LoopStep → Prop
  | .dbusEvent event =>
    isFiltered world = false ∧ event.reportsLoss world = true
  | .pollTick _ =>
    isPollSkipped world = false ∧ world.machine.state.isConnected = true ∧
      NmClient.selectBestVpn (env.allActive world.asked.allActive) = none
  | .loopEvent (.finishHealthCheck outcome) =>
    world.machine.state.isUp = true ∧
      HealthResult.isDead
        (world.healthChecker.evaluate (env.resolvConf world.asked.resolvConf) outcome).1 = true
  | _ => False

instance (env : Env) (world : World) :
    (step : LoopStep) → Decidable (step.HearsLoss env world)
  | .dbusEvent _ => inferInstanceAs (Decidable (_ ∧ _))
  | .pollTick _ => inferInstanceAs (Decidable (_ ∧ _ ∧ _))
  | .loopEvent (.finishHealthCheck _) => inferInstanceAs (Decidable (_ ∧ _))
  | .loopEvent (.trayCommand _) => inferInstanceAs (Decidable False)
  | .loopEvent (.ipcCommand _) => inferInstanceAs (Decidable False)
  | .loopEvent .beginHealthCheck => inferInstanceAs (Decidable False)
  | .pause _ => inferInstanceAs (Decidable False)

/-- Telling the machine of a loss and reconnecting keeps the invariant. -/
def Reconnects
    (env : Env)
    (names : String → Prop)
    (inv : World → Prop) : Prop :=
  ∀ event : Event, event.isPlain = true →
    ∀ name, names name →
      Preserves inv
        (do
          dispatchAndSync event
          attemptReconnect env name)

/-- A loss is answered by a reconnect only if that is wanted. -/
theorem answersLoss
    (before : inv world)
    (plain : event.isPlain = true)
    {name : String}
    (known : names name)
    {wanted : Bool}
    {otherwise : StateM World Unit}
    (reconnects : wanted = true → Reconnects env names inv)
    (other : Preserves inv otherwise) :
    inv
      ((if wanted then do
          dispatchAndSync event
          attemptReconnect env name
        else otherwise : StateM World Unit).run world).2 := by
  cases wanted with
  | true => exact reconnects rfl event plain name known world before
  | false => exact other world before

namespace QuietSteps

variable (steps : QuietSteps env names inv) (before : inv world)

include steps before

theorem compareWithNm_at
    {active : Option ActiveVpnInfo}
    (known : ∀ info, active = some info → names info.name)
    (reconnects :
      world.shared.autoReconnect = true →
        world.machine.state.isConnected = true → active = none → Reconnects env names inv) :
    inv ((compareWithNm env active).run world).2 := by
  rw [compareWithNm, run_get_bind]
  cases active with
  | none =>
    cases state : world.machine.state with
    | connected server =>
      have isKnown : names server := steps.tracked world before server (by rw [state]; rfl)
      have isConnected : world.machine.state.isConnected = true := by
        rw [state]
        rfl
      dsimp only
      rw [noteDropped, run_get_bind]
      exact answersLoss before rfl isKnown
        (fun wanted => reconnects wanted isConnected rfl)
        steps.setDisconnected
    | _ => exact before
  | some info =>
    have tells :
        ∀ (condition : Prop) [Decidable condition] (event : Event),
          event.name? = some info.name →
            Preserves inv
              (if condition then Supervisor.dispatchAndSync event
              else pure ()) := by
      intro condition _ event named
      exact .either (steps.report named (known info rfl)) .pure
    cases world.machine.state with
    | disconnected =>
      have follows :
          Preserves inv
            (if info.state = .activated then
              Supervisor.dispatchAndSync (.nmVpnUp info.name)
            else if info.state = .activating then
              Supervisor.dispatchAndSync (.userEnable info.name)
            else pure ()) :=
        .either (steps.nmVpnUp (known info rfl)) (tells _ _ rfl)
      exact follows world before
    | degraded server => exact before
    | reconnecting server attempt maxAttempts => exact before
    | _ => exact tells _ _ rfl world before

omit before in
theorem dropExtras
    {first : ActiveVpnInfo}
    {rest : List ActiveVpnInfo}
    (known : ∀ info ∈ first :: rest, names info.name) :
    Preserves inv (dropExtras env first rest) := by
  refine .get fun world before => ?_
  have keeps : names (keepVpn world.machine.state first rest) := by
    have isFirst := known first List.mem_cons_self
    rw [keepVpn]
    cases server : world.machine.state.serverName with
    | none => exact isFirst
    | some ourServer =>
      dsimp only
      split
      · exact steps.tracked world before ourServer server
      · exact isFirst
  refine .seq (steps.disconnectAll _) ?_
  refine .get fun later _ => ?_
  exact .either .pure (steps.nmVpnUp keeps)

/-- A poll reconnects only when a connected VPN is lost and it may. -/
theorem pollNmState_at
    (reconnects :
      world.shared.autoReconnect = true →
        isPollSkipped world = false →
          world.machine.state.isConnected = true →
            NmClient.selectBestVpn (env.allActive world.asked.allActive) =
                none →
              Reconnects env names inv) :
    inv ((pollNmState env).run world).2 := by
  rw [pollNmState, run_get_bind]
  cases skipped : isPollSkipped world with
  | true => exact before
  | false =>
    let all := env.allActive world.asked.allActive
    let noted : World :=
      { world with
        timing := { world.timing with lastDisconnectTime := none } }
    have listed : ∀ info ∈ all, names info.name := steps.answers.allActive world.asked.allActive
    have bestKnown : ∀ info, NmClient.selectBestVpn all = some info → names info.name :=
      fun info best => listed info (NmClient.selectBestVpn_mem best)
    have marked : inv noted :=
      @note env names inv steps
        (fun world => { world.timing with lastDisconnectTime := none })
        (fun _ => rfl) world before
    have asked : inv ((Supervisor.getAllActiveVpns env).run noted).2 :=
      (steps.getAllActiveVpns noted marked).1
    have compares :
        inv ((compareWithNm env (NmClient.selectBestVpn all)).run
          ((Supervisor.getAllActiveVpns env).run noted).2).2 :=
      steps.compareWithNm_at asked bestKnown
        (fun wanted isConnected => reconnects wanted skipped isConnected)
    have opened :
        ((if false = true then pure () else pollNow env).run world).2 =
          ((reconcile env (all, NmClient.selectBestVpn all)).run
            ((Supervisor.getAllActiveVpns env).run noted).2).2 :=
      rfl
    rw [opened]
    cases several : all with
    | nil =>
      rw [several] at compares
      exact compares
    | cons first rest =>
      cases rest with
      | nil =>
        rw [several] at compares
        exact compares
      | cons second rest =>
        rw [several] at listed
        exact steps.dropExtras listed _ asked

theorem pollTick_at
    {wallMillis : Nat}
    (wakes : Wakes world wallMillis → inv ((Supervisor.wakeUp env).run world).2)
    (reconnects :
      world.shared.autoReconnect = true →
        LoopStep.HearsLoss env world (.pollTick wallMillis) → Reconnects env names inv) :
    inv ((pollTick env wallMillis).run world).2 := by
  have reacts : inv ((reactToTick env wallMillis).run world).2 := by
    rw [reactToTick, run_get_bind]
    cases jump :
        detectTimeJump wallMillis (world.now - world.timing.lastPollTime) timeJumpThresholdMs with
    | some skew =>
      cases may : mayWake world with
      | true => exact wakes ⟨congrArg Option.isSome jump, may⟩
      | false => exact before
    | none =>
      exact steps.pollNmState_at before
        (fun wanted skipped isConnected none =>
          reconnects wanted ⟨skipped, isConnected, none⟩)
  exact steps.note (by intro _; rfl) _ reacts

section

variable {event : NmEvent} (known : ∀ name, event.name? = some name → names name)

include known

theorem handleAdmitted_at
    (reconnects :
      world.shared.autoReconnect = true → event.reportsLoss world = true →
        Reconnects env names inv) :
    inv ((handleAdmitted env event).run world).2 := by
  cases event with
  | vpnActivated name => exact steps.handleActivated (known name rfl) world before
  | vpnActivating name =>
    have follows : Preserves inv (handleActivating name) :=
      .get (fun _ _ => .either .pure (steps.report rfl (known name rfl)))
    exact follows world before
  | vpnDeactivated name =>
    rw [handleAdmitted, handleDeactivated, run_get_bind]
    by_cases ours : world.machine.state.serverName = some name
    · rw [if_pos ours]
      refine answersLoss before rfl (known name rfl) ?_ steps.setDisconnected
      intro lost
      rw [Bool.and_eq_true] at lost
      apply reconnects lost.1
      rw [NmEvent.reportsLoss, ours, lost.2]
      simp
    · rw [if_neg ours]
      exact before
  | vpnFailed name reason =>
    rw [handleAdmitted, handleFailed, run_get_bind]
    refine answersLoss before rfl (known name rfl) ?_ ?_
    · exact fun wanted => reconnects wanted rfl
    · apply steps.setStateAndSync rfl
      intro server same
      exact known server same
  | connectivityChanged connected => exact before

theorem handleDbusEvent_at
    (reconnects :
      world.shared.autoReconnect = true →
        LoopStep.HearsLoss env world (.dbusEvent event) → Reconnects env names inv) :
    inv ((handleDbusEvent env event).run world).2 := by
  obtain ⟨passes, timing, switchCtx, same⟩ := passFilters_spec event world
  have filtered := steps.passFilters event world before
  rw [handleDbusEvent, run_bind]
  cases passed : ((Supervisor.passFilters event).run world).1 with
  | false => exact filtered
  | true =>
    rw [if_pos rfl]
    refine steps.handleAdmitted_at filtered known ?_
    intro wanted lost
    rw [same] at wanted lost
    rw [passed, eq_comm, Bool.not_eq_true', Bool.or_eq_false_iff] at passes
    exact reconnects wanted ⟨passes.1, lost⟩

end

theorem finishHealthCheck_at
    {outcome : ProbeOutcome}
    (reconnects :
      world.shared.autoReconnect = true →
        LoopStep.HearsLoss env world
            (.loopEvent (.finishHealthCheck outcome)) →
          Reconnects env names inv) :
    inv ((finishHealthCheck env outcome).run world).2 := by
  let evaluated := world.healthChecker.evaluate (env.resolvConf world.asked.resolvConf) outcome
  have checked :=
    steps.times (fun later => later.timing) (fun _ => evaluated.2) (fun _ => rfl) world before
  have noted : inv ((evaluateProbe env outcome).run world).2 :=
    steps.counts
      (fun later =>
        { later.asked with resolvConf := later.asked.resolvConf + 1 })
      (fun _ => rfl) _ checked
  have finishes :
      ∀ server, names server → world.machine.state.isUp = true →
        inv ((finishProbe env server outcome).run world).2 := by
    intro server known isUp
    have tells :
        ∀ (flag : World → Bool) (event : Event), event.isPlain = true →
          Preserves inv
            (do
              let later ← get
              if flag later then Supervisor.dispatchAndSync event
              else pure () : StateM World Unit) :=
      fun flag event plain =>
        .get (fun _ _ => .either (steps.tell plain) .pure)
    change
      inv ((applyVerdict env server evaluated.1).run ((evaluateProbe env outcome).run world).2).2
    cases verdict : evaluated.1 with
    | dead reason =>
      rw [applyVerdict, run_get_bind]
      refine answersLoss noted rfl known ?_ steps.setDisconnected
      intro wanted
      refine reconnects wanted ⟨isUp, ?_⟩
      change HealthResult.isDead evaluated.1 = true
      rw [verdict]
      rfl
    | _ => exact tells _ _ rfl _ noted
  have known := steps.tracked world before
  rw [finishHealthCheck, run_get_bind]
  cases state : world.machine.state with
  | connected server | degraded server =>
    rw [state] at known finishes
    exact finishes server (known server rfl) rfl
  | _ => exact before

end QuietSteps

/-- What is noted about a switch keeps the invariant. -/
def NotesSwitch (inv : World → Prop) : Prop :=
  ∀ (switchCtx : World → SwitchContext) (timing : World → TimingState),
    KeepsMark timing →
      Preserves inv
        (modify fun world =>
          { world with
            switchCtx := switchCtx world
            timing := timing world } :
          StateM World PUnit)

theorem NotesSwitch.alone
    (switches : NotesSwitch inv)
    (switchCtx : World → SwitchContext) :
    Preserves inv (modify fun world => { world with switchCtx := switchCtx world } :
        StateM World PUnit) :=
  switches switchCtx (fun world => world.timing) fun _ => rfl

theorem NotesSwitch.beginSwitch
    (switches : NotesSwitch inv)
    (name : String) :
    Preserves inv (beginSwitch name) :=
  switches _ _ (fun _ => rfl)

/-- A call that asks NetworkManager to connect keeps it as well. -/
structure Steps
    (env : Env)
    (names : String → Prop)
    (inv : World → Prop) : Prop extends QuietSteps env names inv where
  connects :
    ∀ name ok count, CountsQuestions count → Preserves inv (noteCall env (.connect name ok) count)

namespace Steps

variable (steps : Steps env names inv)

include steps

theorem nmConnect (name : String) :
    Preserves inv (nmConnect env name) :=
  .get (fun _ _ =>
    .bind (steps.connects _ _ _ (fun _ => rfl)) (fun _ => .pure))

theorem disconnectOthers
    (name : String)
    (others : List ActiveVpnInfo) :
    Preserves inv (disconnectOthers env name others) :=
  steps.waits.disconnectOthers name others

variable {name : String}

theorem monitorConnection
    (known : names name)
    (attempts : Nat) :
    Preserves inv (monitorConnection env name attempts) :=
  steps.waits.monitorConnection (steps.nmVpnUp known) attempts

theorem connectOnce (known : names name) :
    Preserves inv (connectOnce env name) := by
  refine .bind (steps.nmConnect name) ?_
  intro ok
  exact .either (steps.monitorConnection known _) .pure

theorem connectAttempts
    (known : names name)
    (attempts : Nat) :
    Preserves inv (connectAttempts env name attempts) := by
  induction attempts with
  | zero => exact .pure
  | succ attempts ih =>
    refine .bind (steps.connectOnce known) ?_
    intro up
    refine .either .pure ?_
    refine .either .pure ?_
    exact .seq (steps.sleep _) ih

section Switching

variable (switches : NotesSwitch inv)

include switches

theorem switchConnection
    {name : String}
    (known : names name) :
    Preserves inv (switchConnection env name) := by
  refine .bindResult steps.getAllActiveVpns ?_
  intro active _
  refine .seq (switches.alone _) ?_
  refine .seq (steps.disconnectOthers name _) ?_
  refine .bindResult steps.getAllActiveVpns ?_
  intro _ _
  refine .seq (steps.report rfl known) ?_
  exact steps.connectAttempts known _

theorem giveUpSwitch :
    Preserves inv giveUpSwitch := by
  refine .seq (switches.alone _) ?_
  exact steps.tell rfl

end Switching

theorem shouldAttemptReconnect :
    Preserves inv (shouldAttemptReconnect env) := by
  refine .bindResult steps.getActiveVpn ?_
  intro active known
  cases active with
  | none => exact .pure
  | some name => exact .seq (steps.nmVpnUp (known name rfl)) .pure

theorem waitVerify (polls : Nat) :
    Preserves inv (waitVerify env polls) := by
  induction polls with
  | zero => exact .pure
  | succ polls ih =>
    refine .get fun world _ => ?_
    refine .seq (steps.counts _ (fun _ => rfl)) ?_
    refine .either .pure ?_
    exact .seq (steps.sleep _) ih

theorem cancelReconnect (name : String) :
    Preserves inv (cancelReconnect env name) := by
  refine .seq (steps.nmDisconnect name) ?_
  refine .seq (steps.note (fun _ => rfl)) ?_
  exact steps.setDisconnected

theorem verifyConnection (known : names name) :
    Preserves inv (verifyConnection env name) := by
  refine .bind (steps.waitVerify _) ?_
  intro cancelled
  refine .either ?_ ?_
  · exact .seq (steps.cancelReconnect name) .pure
  refine .bindResult steps.getActiveVpn ?_
  intro active _
  cases active with
  | none => exact .pure
  | some active =>
    refine .either ?_ .pure
    exact .seq (steps.nmVpnUp known) .pure

section Deferring

variable
  (defers : Preserves inv (modify (deferArrivals env) : StateM World PUnit))

include defers

omit steps in
theorem waitBackoff
    (sleeps : ∀ millis, Preserves inv (Supervisor.sleep millis))
    (attempt : Nat) :
    Preserves inv (waitBackoff env attempt) :=
  fun world before => defers _ (sleeps _ world before)

variable
  (retries :
    ∀ name attempt maxAttempts, names name → Forces inv (.reconnecting name attempt maxAttempts))

include retries

variable {name : String}

section

variable (known : names name)

include known

theorem reconnectOnce (attempt maxAttempts : Nat) :
    Preserves inv (reconnectOnce env name attempt maxAttempts) := by
  have marks := retries name attempt maxAttempts known
  refine .seq (marks.seq steps.syncs) ?_
  refine .bind (waitBackoff defers steps.sleep attempt) ?_
  intro cancelled
  refine .either ?_ ?_
  · exact Preserves.seq (steps.cancelReconnect name) .pure
  refine .bind (steps.nmConnect name) ?_
  intro ok
  exact .either (steps.verifyConnection known) .pure

theorem reconnectAttempt (attempt maxAttempts : Nat) :
    Preserves inv (reconnectAttempt env name attempt maxAttempts) := by
  refine .get fun world _ => ?_
  refine .either ?_ ?_
  · exact Preserves.bind steps.setDisconnected fun _ => .pure
  refine .bind steps.shouldAttemptReconnect ?_
  intro proceeds
  exact .either (steps.reconnectOnce defers retries known attempt maxAttempts) .pure

/-- By induction on the attempts that remain. -/
theorem reconnectAttempts (maxAttempts attempt remaining : Nat) :
    Preserves inv (reconnectAttempts env name maxAttempts attempt remaining) := by
  induction remaining generalizing attempt with
  | zero => exact .pure
  | succ remaining ih =>
    refine .bind (steps.reconnectAttempt defers retries known attempt maxAttempts) ?_
    intro result
    cases result with
    | returned => exact .pure
    | succeeded => exact .pure
    | failed => exact ih (attempt + 1)

theorem reconnectLoop :
    Preserves inv (reconnectLoop env name) := by
  refine .get fun world _ => ?_
  refine .bind (steps.reconnectAttempts defers retries known _ 1 _) ?_
  intro result
  cases result with
  | failed =>
    apply steps.setStateAndSync rfl
    intro server same
    rw [← Option.some.inj same]
    exact known
  | returned => exact .pure
  | succeeded => exact .pure

theorem attemptReconnectInner :
    Preserves inv (attemptReconnectInner env name) := by
  have gives : Preserves inv (reconnectImpossible env name) := by
    refine .seq (steps.tell rfl) ?_
    exact steps.refreshConnections
  refine .get fun world _ => ?_
  refine .either .pure ?_
  refine Preserves.seq (steps.note (fun _ => rfl)) ?_
  refine .bind steps.shouldAttemptReconnect ?_
  intro proceeds
  refine .either ?_ .pure
  refine .bind steps.listVpnConnections ?_
  intro available
  exact .either (steps.reconnectLoop defers retries known) gives

end

end Deferring

end Steps

section NmOnly

variable (closed : ∀ before after, NmOnly before after → inv before → inv after)

include closed

theorem preserves_of_nmOnly
    {α : Type}
    {program : StateM World α}
    (keeps : Keeps NmOnly program) :
    Preserves inv program :=
  fun world before => closed world _ (keeps world) before

theorem Steps.of_nmOnly :
    Steps env (fun _ => True) inv where
  answers := answers_any env
  tracked := fun _ _ _ _ => trivial
  sleep millis := preserves_of_nmOnly closed (sleep_keeps millis)
  calls call count _ _ := preserves_of_nmOnly closed (noteCall_keeps env call count)
  connects _ _ count _ := preserves_of_nmOnly closed (noteCall_keeps env _ count)
  dispatches event _ _ := preserves_of_nmOnly closed (dispatch_keeps event)
  forces _ _ _ := preserves_of_nmOnly closed (nmOnly_of_same fun _ => rfl)
  syncs := preserves_of_nmOnly closed syncSharedState_keeps
  times _ _ _ := preserves_of_nmOnly closed (nmOnly_of_same fun _ => rfl)
  counts _ _ := preserves_of_nmOnly closed (nmOnly_of_same fun _ => rfl)
  lists _ := preserves_of_nmOnly closed (nmOnly_of_same fun _ => rfl)
  forgets := preserves_of_nmOnly closed (nmOnly_of_same fun _ => rfl)

end NmOnly

theorem nmOnly_steps
    (env : Env)
    (start : World) :
    Steps env (fun _ => True) (NmOnly start) :=
  .of_nmOnly fun _ _ later before => IsTrans.trans _ _ _ before later

/-- The configuration with its saved versions, and the wish in force. -/
def stored (world : World) : Config × List Config × Bool :=
  (world.config, world.saves, world.shared.autoReconnect)

theorem Steps.of_stored
    (same :
      ∀ {α : Type} {program : StateM World α},
        Keeps (SameView stored) program → Preserves inv program)
    (dispatches : ∀ event, Preserves inv (dispatch event)) :
    Steps env (fun _ => True) inv where
  answers := answers_any env
  tracked _ _ _ _ := trivial
  sleep _ := same fun _ => rfl
  calls _ _ _ _ := same fun _ => rfl
  connects _ _ _ _ := same fun _ => rfl
  dispatches event _ _ := dispatches event
  forces _ _ _ := same fun _ => rfl
  syncs := same fun _ => rfl
  times _ _ _ := same fun _ => rfl
  counts _ _ := same fun _ => rfl
  lists _ := same fun _ => rfl
  forgets := same fun _ => rfl

theorem nmOnly_notes (start : World) :
    NotesSwitch (NmOnly start) := by
  intro switchCtx timing _
  refine Keeps.preserves ?_ start
  exact nmOnly_of_same fun _ => rfl

theorem detectVpnEndpoints_nmOnly (env : Env) :
    Keeps NmOnly (onKillSwitch (KillSwitch.detectVpnEndpoints env.fw)) :=
  fun _ => ⟨rfl, rfl, rfl, rfl, Nat.le_add_right _ _, rfl, rfl, rfl⟩

theorem nmOnly_forces
    (start : World)
    (next : VpnState) :
    Forces (NmOnly start) next := by
  refine Keeps.preserves ?_ start
  exact nmOnly_of_same fun _ => rfl

theorem nmOnly_defers
    (env : Env)
    (start : World) :
    Preserves (NmOnly start) (modify (deferArrivals env) : StateM World PUnit) := by
  refine Keeps.preserves ?_ start
  exact nmOnly_of_same fun _ => rfl

/-- The kill switch blocks of the commands keep the invariant as well. -/
structure SwitchSteps
    (env : Env)
    (names : String → Prop)
    (inv : World → Prop) : Prop extends Steps env names inv where
  enables : Preserves inv (enableAndReport env)
  disables : Preserves inv (disableAndReport env)
  releases : Preserves inv (releaseKillSwitch env)
  scans : Preserves inv (onKillSwitch (KillSwitch.detectVpnEndpoints env.fw))

namespace SwitchSteps

variable (steps : SwitchSteps env names inv)

include steps

theorem effectivePreConnect (name : String) :
    Preserves inv (effectivePreConnect env name) := by
  refine .get fun world _ => ?_
  refine .either ?_ .pure
  exact .bind steps.scans fun _ => .pure

theorem prepareKillSwitch (preConnect : Bool) :
    Preserves inv (prepareKillSwitch env preConnect) := by
  refine .get fun world _ => ?_
  refine .either ?_ .pure
  refine .either ?_ ?_
  · exact .either .pure steps.enables
  · exact .either steps.disables .pure

section Switching

variable (switches : NotesSwitch inv)

include switches

theorem prepares (name : String) :
    Preserves inv
      (do
        Supervisor.beginSwitch name
        let preConnect ← Supervisor.effectivePreConnect env name
        Supervisor.prepareKillSwitch env preConnect) :=
  Preserves.bind (switches.beginSwitch name)
    (fun _ =>
      Preserves.bind (steps.effectivePreConnect name)
        (fun preConnect => steps.prepareKillSwitch preConnect))

theorem handleConnect
    {name : String}
    (known : names name) :
    Preserves inv (handleConnect env name) := by
  have rearms : ∀ succeeded, Preserves inv (rearmKillSwitch env succeeded) := by
    intro succeeded
    refine .get fun world _ => ?_
    exact .either steps.enables .pure
  refine .seq (switches.beginSwitch name) ?_
  refine .bind (steps.effectivePreConnect name) ?_
  intro preConnect
  refine .seq (steps.prepareKillSwitch preConnect) ?_
  refine .bind (steps.switchConnection switches known) ?_
  intro succeeded
  refine .seq (rearms succeeded) ?_
  refine .seq (switches _ _ (fun _ => rfl)) ?_
  exact .either .pure (steps.giveUpSwitch switches)

end Switching

theorem handleDisconnect :
    Preserves inv (handleDisconnect env) := by
  refine .seq (steps.note (fun _ => rfl)) ?_
  refine .get fun world _ => ?_
  cases world.machine.state.serverName with
  | none => exact .pure
  | some name =>
    refine Preserves.seq (steps.note (fun _ => rfl)) ?_
    refine .bind (steps.nmDisconnect name) ?_
    intro ok
    refine .either ?_ .pure
    refine .seq steps.releases ?_
    exact steps.tell rfl

theorem reconcileKillSwitch
    (reports : ReportsSwitch inv) :
    Preserves inv (reconcileKillSwitch env) := by
  refine .get fun world _ => ?_
  refine .either (reports _) ?_
  refine .either ?_ .pure
  exact .either steps.enables .pure

theorem autoConnect
    (connecting : ∀ name, names name → Preserves inv (Supervisor.handleConnect env name)) :
    Preserves inv (autoConnect env) := by
  have refreshes :
      Ensures inv (Supervisor.refreshConnections env)
        (fun _ world =>
          inv world ∧ ∀ name ∈ world.shared.connections, names name) := by
    intro world before
    exact ⟨steps.refreshConnections world before, steps.answers.listed _⟩
  refine .get fun world _ => ?_
  refine .either ?_ .pure
  refine .seq (steps.sleep _) ?_
  refine Ensures.bind refreshes ?_
  rintro _ later ⟨after, listed⟩
  have known :
      ∀ server,
        autoConnectTarget later.config.lastServer later.shared.connections =
            some server →
          names server := by
    intro server isTarget
    rw [autoConnectTarget, Option.or_eq_some_iff] at isTarget
    rcases isTarget with isLast | ⟨-, isFirst⟩
    · have contained := (Option.filter_eq_some_iff.mp isLast).2
      rw [Bool.and_eq_true] at contained
      exact listed server (List.contains_iff_mem.mp contained.2)
    · exact listed server (List.mem_of_head? isFirst)
  change inv ((connectIfAny env (autoConnectTarget later.config.lastServer
    later.shared.connections)).run later).2
  cases target :
      autoConnectTarget later.config.lastServer later.shared.connections with
  | none => exact after
  | some server => exact connecting server (known server target) later after

end SwitchSteps

/-- So do the other commands. -/
structure HandlerSteps
    (env : Env)
    (names : String → Prop)
    (inv : World → Prop) : Prop extends SwitchSteps env names inv where
  connecting : ∀ name, names name → Preserves inv (handleConnect env name)
  remembered :
    ∀ world, inv world →
      ∀ name, world.shared.state.serverName.or world.config.lastServer = some name → names name
  autoReconnects : Preserves inv toggleAutoReconnect
  setsAutoConnect :
    ∀ enable, Stores inv fun config => { config with autoConnect := enable }
  cleans : Preserves inv (cleanupOnExit env)

/-- So do the health checks and the start. -/
structure TraySteps
    (env : Env)
    (names : String → Prop)
    (inv : World → Prop) : Prop extends HandlerSteps env names inv where
  looks : Preserves inv (onKillSwitch (KillSwitch.syncState env.fw))
  reports : ReportsSwitch inv
  shares : Preserves inv shareSettings

/-- So do an exit and the command of the socket that writes one setting. -/
structure CommandSteps
    (env : Env)
    (names : String → Prop)
    (inv : World → Prop) : Prop extends TraySteps env names inv where
  exits : ∀ reason, Preserves inv (requestExit reason)
  setsAutoReconnect :
    ∀ enable, Stores inv fun config => { config with autoReconnect := enable }

/-- Nothing but the kill switch and its report has changed. -/
def SwitchOnly (before after : World) : Prop :=
  ∃ kill reported,
    after =
      { before with
        kill := kill
        shared := { before.shared with killSwitch := reported } }

instance : IsPreorder World SwitchOnly where
  refl world := ⟨world.kill, world.shared.killSwitch, rfl⟩
  trans := by
    rintro first _ _ ⟨_, _, rfl⟩ ⟨kill, reported, rfl⟩
    exact ⟨kill, reported, rfl⟩

theorem switchOnly_guards :
    GuardsAlong SwitchOnly where
  kill program world := ⟨(program.run world.kill).2, world.shared.killSwitch, rfl⟩
  report flag world := ⟨world.kill, flag world, rfl⟩

/-- The invariant says nothing about the kill switch. -/
def Indifferent (inv : World → Prop) : Prop :=
  ∀ before after, SwitchOnly before after → inv before → inv after

namespace Indifferent

variable (indifferent : Indifferent inv)

include indifferent

theorem preserves
    {α : Type}
    {program : StateM World α}
    (keeps : Keeps SwitchOnly program) :
    Preserves inv program :=
  fun world before => indifferent world _ (keeps world) before

theorem switchSteps (steps : Steps env names inv) :
    SwitchSteps env names inv where
  toSteps := steps
  enables := indifferent.preserves (switchOnly_guards.enableAndReport env)
  disables := indifferent.preserves (switchOnly_guards.disableAndReport env)
  releases := indifferent.preserves (switchOnly_guards.releaseKillSwitch env)
  scans := indifferent.preserves (switchOnly_guards.kill _)

theorem traySteps
    (steps : Steps env names inv)
    (switches : NotesSwitch inv)
    (remembered :
      ∀ world, inv world →
        ∀ name, world.shared.state.serverName.or world.config.lastServer = some name → names name)
    (autoReconnects : Preserves inv toggleAutoReconnect)
    (setsAutoConnect :
      ∀ enable, Stores inv fun config => { config with autoConnect := enable })
    (shares : Preserves inv shareSettings) :
    TraySteps env names inv where
  toSwitchSteps := indifferent.switchSteps steps
  connecting _ known := (indifferent.switchSteps steps).handleConnect switches known
  remembered := remembered
  autoReconnects := autoReconnects
  setsAutoConnect := setsAutoConnect
  cleans := indifferent.preserves (switchOnly_guards.cleanupOnExit env)
  looks := indifferent.preserves (switchOnly_guards.kill _)
  reports flag := indifferent.preserves (switchOnly_guards.report flag)
  shares := shares

theorem guards :
    GuardsAlong (Along inv) where
  kill _ := indifferent.preserves (switchOnly_guards.kill _)
  report flag := indifferent.preserves (switchOnly_guards.report flag)

end Indifferent

/-- The commands of the socket that are about the kill switch or the file. -/
def IpcCommand.isExplicit : IpcCommand → Bool
  | .killSwitch _ => true
  | .killSwitchToggle => true
  | .reload _ => true
  | _ => false

namespace HandlerSteps

variable (steps : HandlerSteps env names inv)

include steps

theorem handleQuit (exits : ∀ reason, Preserves inv (requestExit reason)) :
    Preserves inv (handleQuit env) := by
  refine .seq steps.cleans ?_
  refine .seq (steps.sleep _) ?_
  exact exits _

theorem handleRestart (exits : ∀ reason, Preserves inv (requestExit reason)) :
    Preserves inv (handleRestart env) := by
  refine .get fun world _ => ?_
  refine .seq (steps.counts _ (fun _ => rfl)) ?_
  refine .either ?_ .pure
  refine .seq (steps.sleep _) ?_
  exact exits _

theorem toggleAutostart :
    Preserves inv (toggleAutostart env) := by
  refine .get fun world _ => ?_
  refine .seq (steps.counts _ (fun _ => rfl)) ?_
  cases env.autostart world.asked.autostart with
  | none => exact .pure
  | some enabled => exact steps.setsAutoConnect enabled

theorem migrateAutostart (autostarts : Bool) :
    Preserves inv (migrateAutostart autostarts) := by
  refine .get fun world _ => ?_
  exact .either (steps.setsAutoConnect true) .pure

theorem handleCommand
    {command : VpnCommand}
    (implicit : command.isExplicit = false)
    (known : ∀ server, command = .connect server → names server)
    (exits : command.isFinal = true → ∀ reason, Preserves inv (requestExit reason)) :
    Preserves inv (handleCommand env command) := by
  cases command with
  | connect server => exact steps.connecting server (known server rfl)
  | disconnect => exact steps.handleDisconnect
  | toggleAutoReconnect => exact steps.autoReconnects
  | toggleKillSwitch => exact Bool.noConfusion implicit
  | toggleAutostart => exact steps.toggleAutostart
  | toggleDebugLogging => exact .pure
  | openLogFile => exact .pure
  | refreshConnections => exact steps.refreshConnections
  | restart => exact steps.handleRestart (exits rfl)
  | quit => exact steps.handleQuit (exits rfl)

theorem handleIpcCommand
    {command : IpcCommand}
    (implicit : command.isExplicit = false)
    (known : ∀ server, command = .connect server ∨ command = .switch server → names server)
    (exits : ∀ reason, Preserves inv (requestExit reason))
    (setsAutoReconnect :
      ∀ enable, command = .autoReconnect enable →
        Stores inv fun config => { config with autoReconnect := enable }) :
    Preserves inv (handleIpcCommand env command) := by
  cases command with
  | connect name =>
    exact .bind (steps.connecting name (known name (.inl rfl))) fun _ => .pure
  | disconnect => exact .seq steps.handleDisconnect .pure
  | switch name =>
    exact .bind (steps.connecting name (known name (.inr rfl))) fun _ => .pure
  | reconnect =>
    refine .get fun world before => ?_
    have isKnown := steps.remembered world before
    cases target : world.shared.state.serverName.or world.config.lastServer with
    | none => exact .pure
    | some server =>
      exact .seq (steps.connecting server (isKnown server target)) .pure
  | autoReconnect enable =>
    -- the two writes of the configuration count as one
    intro world before
    have stored := setsAutoReconnect enable rfl world before
    exact steps.syncs _ stored
  | autoReconnectToggle =>
    refine .seq steps.autoReconnects ?_
    exact .get fun _ _ => .pure
  | refresh => exact .seq steps.refreshConnections .pure
  | quit => exact .seq (steps.handleQuit exits) .pure
  | restart =>
    refine .get fun world _ => ?_
    refine .seq (steps.counts _ (fun _ => rfl)) ?_
    refine .either ?_ .pure
    exact .seq (exits _) .pure
  | _ => exact Bool.noConfusion implicit

end HandlerSteps

namespace TraySteps

variable (steps : TraySteps env names inv)

include steps

theorem beginHealthCheck :
    Preserves inv (beginHealthCheck env) :=
  steps.toQuietSteps.beginHealthCheck steps.looks steps.reports

theorem startUp (autostarts : Bool) :
    Preserves inv (startUp env autostarts) := by
  refine .seq steps.looks ?_
  refine .seq steps.shares ?_
  refine .seq steps.refreshConnections ?_
  refine .seq steps.initialNmSync ?_
  refine .seq (steps.note (fun _ => rfl)) ?_
  refine .seq (steps.reconcileKillSwitch steps.reports) ?_
  refine .seq (steps.migrateAutostart autostarts) ?_
  exact steps.autoConnect steps.connecting

end TraySteps

namespace Indifferent

variable
  (indifferent : Indifferent inv)
  (steps : TraySteps env names inv)
  (stores : ∀ enabled, Preserves inv (storeKillSwitch enabled))

include indifferent steps stores

theorem handleCommand
    {command : VpnCommand}
    (known : ∀ server, command = .connect server → names server)
    (exits : command.isFinal = true → ∀ reason, Preserves inv (requestExit reason)) :
    Preserves inv (handleCommand env command) := by
  by_cases explicit : command = .toggleKillSwitch
  · rw [explicit]
    exact indifferent.guards.toggleKillSwitch env stores
  · exact steps.handleCommand (VpnCommand.isExplicit_eq_false explicit) known exits

theorem handleIpcCommand
    {command : IpcCommand}
    (known : ∀ server, command = .connect server ∨ command = .switch server → names server)
    (loads : ∀ loaded, command = .reload loaded → Preserves inv (reloadConfiguration loaded))
    (exits : ∀ reason, Preserves inv (requestExit reason))
    (setsAutoReconnect :
      ∀ enable, command = .autoReconnect enable →
        Stores inv fun config => { config with autoReconnect := enable }) :
    Preserves inv (handleIpcCommand env command) := by
  cases command with
  | killSwitch enable => exact indifferent.guards.ipcKillSwitch env stores steps.syncs enable
  | killSwitchToggle =>
    have toggles : Preserves inv (toggleKillSwitch env) :=
      indifferent.guards.toggleKillSwitch env stores
    exact toggles.seq (.get (fun _ _ => .pure))
  | reload loaded => exact .seq (loads loaded rfl) .pure
  | _ => exact steps.handleIpcCommand rfl known exits setsAutoReconnect

end Indifferent

theorem CommandSteps.handleCommand
    (steps : CommandSteps env names inv)
    {command : VpnCommand}
    (implicit : command.isExplicit = false)
    (known : ∀ server, command = .connect server → names server) :
    Preserves inv (handleCommand env command) :=
  steps.toTraySteps.handleCommand implicit known fun _ => steps.exits

theorem CommandSteps.handleIpcCommand
    (steps : CommandSteps env names inv)
    {command : IpcCommand}
    (implicit : command.isExplicit = false)
    (known : ∀ server, command = .connect server ∨ command = .switch server → names server) :
    Preserves inv (handleIpcCommand env command) :=
  steps.toTraySteps.handleIpcCommand implicit known steps.exits
    (fun enable _ => steps.setsAutoReconnect enable)

/-- The first command of the queue is taken off it and carried out. -/
def Drains (env : Env) (inv : World → Prop) : Prop :=
  ∀ world command rest, inv world →
    world.deferredCommands = command :: rest →
      inv ((handleCommand env command).run { world with deferredCommands := rest }).2

/-- The commands put off are handled one after the other. -/
theorem drainDeferred_preserves
    (drains : Drains env inv)
    (fuel : Nat) :
    Preserves inv (drainDeferred env fuel) := by
  induction fuel with
  | zero => exact .pure
  | succ fuel ih =>
    intro world before
    rw [drainDeferred, run_get_bind]
    cases queue : world.deferredCommands with
    | nil => exact before
    | cons command rest => exact ih _ (drains world command rest before queue)

theorem attemptReconnect_preserves
    {name : String}
    (marks :
      ∀ running,
        Preserves inv
          (modifyTiming fun timing =>
            { timing with reconnectInProgress := running }))
    (inner : Preserves inv (attemptReconnectInner env name))
    (drains : ∀ fuel, Preserves inv (drainDeferred env fuel)) :
    Preserves inv (attemptReconnect env name) := by
  refine .get fun world _ => ?_
  refine .either .pure ?_
  refine .seq (marks true) ?_
  refine .seq inner ?_
  refine .seq (marks false) ?_
  exact .get fun _ _ => drains _

/-- An invariant is kept by reconnects and by the commands that they put off. -/
structure LoopSteps
    (env : Env)
    (names : String → Prop)
    (inv : World → Prop) : Prop extends Steps env names inv where
  defers : Preserves inv (modify (deferArrivals env) : StateM World PUnit)
  busies : ∀ next : VpnState, (∀ name, next.serverName = some name → names name) → Forces inv next
  marks :
    ∀ running,
      Preserves inv
        (modifyTiming fun timing =>
          { timing with reconnectInProgress := running })
  drains : Drains env inv

namespace LoopSteps

variable (steps : LoopSteps env names inv)

include steps

theorem attemptReconnect
    {name : String}
    (known : names name) :
    Preserves inv (attemptReconnect env name) := by
  have retries (server : String) (attempt maxAttempts : Nat) (isKnown : names server) :
      Forces inv (.reconnecting server attempt maxAttempts) :=
    steps.busies _ fun _ isName => Option.some.inj isName ▸ isKnown
  exact attemptReconnect_preserves steps.marks
    (steps.attemptReconnectInner steps.defers retries known)
    (drainDeferred_preserves steps.drains)

theorem reconnects :
    Reconnects env names inv := by
  intro event plain name known
  refine .seq (steps.tell plain) ?_
  exact steps.attemptReconnect known

theorem joins
    (name : String)
    (known : names name) :
    Forces inv (.connecting name) :=
  steps.busies _ fun _ isName => Option.some.inj isName ▸ known

theorem wakeUp (stamps : StampsWake inv) :
    Preserves inv (wakeUp env) :=
  steps.toQuietSteps.wakeUp steps.joins stamps

theorem pollTick
    (stamps : StampsWake inv)
    (wallMillis : Nat) :
    Preserves inv (pollTick env wallMillis) :=
  fun world before =>
    steps.toQuietSteps.pollTick_at before (fun _ => steps.wakeUp stamps world before)
      (fun _ _ => steps.reconnects)

theorem handleDbusEvent
    {event : NmEvent}
    (known : ∀ name, event.name? = some name → names name) :
    Preserves inv (handleDbusEvent env event) :=
  fun _ before =>
    steps.toQuietSteps.handleDbusEvent_at before known (fun _ _ => steps.reconnects)

theorem finishHealthCheck (outcome : ProbeOutcome) :
    Preserves inv (finishHealthCheck env outcome) :=
  fun _ before =>
    steps.toQuietSteps.finishHealthCheck_at before (fun _ _ => steps.reconnects)

end LoopSteps

section Both

variable {first second : World → Prop}

theorem preserves_and
    {α : Type}
    {program : StateM World α}
    (one : Preserves first program)
    (other : Preserves second program) :
    Preserves (fun world => first world ∧ second world) program :=
  fun world before => ⟨one world before.1, other world before.2⟩

/-- What keeps every invariant of a family keeps one that follows from them. -/
theorem Steps.of_family
    {ι : Type}
    {family : ι → World → Prop}
    {namesOf : ι → String → Prop}
    (steps : ∀ index, Steps env (namesOf index) (family index))
    (known : ∀ index name, names name → namesOf index name)
    (answers : Answers env names)
    (tracked :
      ∀ world, inv world → ∀ name, world.machine.state.serverName = some name → names name)
    (kept :
      ∀ {α : Type} {program : StateM World α},
        (∀ index, Preserves (family index) program) → Preserves inv program) :
    Steps env names inv where
  answers := answers
  tracked := tracked
  sleep millis := kept fun index => (steps index).sleep millis
  calls call count quiet counts := kept fun index => (steps index).calls call count quiet counts
  connects name ok count counts := kept fun index => (steps index).connects name ok count counts
  dispatches event sent named :=
    kept fun index =>
      (steps index).dispatches event sent fun name isName => known index name (named name isName)
  forces next idle named :=
    kept fun index =>
      (steps index).forces next idle fun name isName => known index name (named name isName)
  syncs := kept fun index => (steps index).syncs
  times timing checker keepsMark := kept fun index => (steps index).times timing checker keepsMark
  counts count questions := kept fun index => (steps index).counts count questions
  lists connections := kept fun index => (steps index).lists connections
  forgets := kept fun index => (steps index).forgets

theorem Steps.and
    (one : Steps env names first)
    (other : Steps env (fun _ => True) second) :
    Steps env names (fun world => first world ∧ second world) := by
  refine @Steps.of_family env names _ Bool (fun isFirst => if isFirst then first else second)
    (fun isFirst => if isFirst then names else fun _ => True) ?_ ?_ one.answers
    (fun world before => one.tracked world before.1) ?_
  · rintro (_ | _)
    · exact other
    · exact one
  · rintro (_ | _) name known
    · trivial
    · exact known
  · exact fun kept => preserves_and (kept true) (kept false)

theorem CommandSteps.and
    (one : CommandSteps env names first)
    (other : CommandSteps env (fun _ => True) second) :
    CommandSteps env names (fun world => first world ∧ second world) where
  toSteps := one.toSteps.and other.toSteps
  connecting name known := preserves_and (one.connecting name known) (other.connecting name trivial)
  exits reason := preserves_and (one.exits reason) (other.exits reason)
  remembered world before := one.remembered world before.1
  enables := preserves_and one.enables other.enables
  disables := preserves_and one.disables other.disables
  releases := preserves_and one.releases other.releases
  scans := preserves_and one.scans other.scans
  autoReconnects := preserves_and one.autoReconnects other.autoReconnects
  setsAutoReconnect enable :=
    preserves_and (one.setsAutoReconnect enable) (other.setsAutoReconnect enable)
  setsAutoConnect enable :=
    preserves_and (one.setsAutoConnect enable) (other.setsAutoConnect enable)
  cleans := preserves_and one.cleans other.cleans
  looks := preserves_and one.looks other.looks
  reports flag := preserves_and (one.reports flag) (other.reports flag)
  shares := preserves_and one.shares other.shares

/-- What every step does to a state decides which invariants are kept. -/
theorem Steps.of_steps
    {relation : World → World → Prop}
    (steps : ∀ start, Steps env (fun _ => True) (relation start))
    (same : ∀ world, relation world world)
    (closed : ∀ before after, relation before after → first before → first after) :
    Steps env (fun _ => True) first :=
  .of_family steps (fun _ _ => id) (answers_any env) (fun _ _ _ _ => trivial)
    fun kept world before => closed world _ (kept world world (same world)) before

end Both

/-- The step is no command about the kill switch or the file. -/
def LoopStep.isExplicit : LoopStep → Bool
  | .loopEvent (.trayCommand command) => command.isExplicit
  | .loopEvent (.ipcCommand command) => command.isExplicit
  | _ => false

/-- The names that a step brings along. -/
def LoopStep.brings : LoopStep → Option String
  | .loopEvent (.trayCommand (.connect server)) => some server
  | .loopEvent (.ipcCommand (.connect server)) => some server
  | .loopEvent (.ipcCommand (.switch server)) => some server
  | .dbusEvent event => event.name?
  | _ => none

/-- A step keeps an invariant if the command that it may be does. -/
theorem LoopStep.after_of_commands
    (steps : TraySteps env names inv)
    (reconnects : Reconnects env names inv)
    {step : LoopStep}
    (wakes :
      ∀ wallMillis, step = .pollTick wallMillis → Wakes world wallMillis →
        inv ((wakeUp env).run world).2)
    (tray :
      ∀ command, step = .loopEvent (.trayCommand command) →
        Preserves inv (handleCommand env command))
    (socket :
      ∀ command, step = .loopEvent (.ipcCommand command) →
        Preserves inv (handleIpcCommand env command))
    (known : ∀ event, step = .dbusEvent event → ∀ name, event.name? = some name → names name)
    (before : inv world) :
    inv (step.after env world) := by
  cases step with
  | loopEvent event =>
    cases event with
    | trayCommand command => exact tray command rfl world before
    | ipcCommand command => exact socket command rfl world before
    | beginHealthCheck => exact steps.beginHealthCheck world before
    | finishHealthCheck outcome =>
      exact steps.toQuietSteps.finishHealthCheck_at before fun _ _ => reconnects
  | dbusEvent event =>
    exact steps.toQuietSteps.handleDbusEvent_at before (known event rfl) fun _ _ => reconnects
  | pollTick wallMillis =>
    exact steps.toQuietSteps.pollTick_at before (wakes wallMillis rfl) fun _ _ => reconnects
  | pause millis => exact steps.sleep millis world before

section Runs

variable
  (steps : CommandSteps env names inv)
  (loop : LoopSteps env names inv)
  (stamps : StampsWake inv)

include steps loop stamps

/-- One step of the loop that is no explicit command. -/
theorem LoopStep.after_preserves
    {step : LoopStep}
    (implicit : step.isExplicit = false)
    (known : ∀ name, step.brings = some name → names name)
    (before : inv world) :
    inv (step.after env world) := by
  refine after_of_commands steps.toTraySteps loop.reconnects
    (fun _ _ _ => loop.wakeUp stamps world before) ?_ ?_ ?_ before
  · rintro command rfl
    refine steps.handleCommand implicit ?_
    rintro server rfl
    exact known server rfl
  · rintro command rfl
    refine steps.handleIpcCommand implicit ?_
    rintro server (rfl | rfl)
    · exact known server rfl
    · exact known server rfl
  · rintro event rfl
    exact known

/-- And so every run of the loop. -/
theorem runLoop_preserves
    {run : List LoopStep}
    (implicit : ∀ step ∈ run, step.isExplicit = false)
    (known : ∀ step ∈ run, ∀ name, step.brings = some name → names name)
    (before : inv world) :
    inv (runLoop env run world) := by
  refine List.foldlRecOn run _ before ?_
  intro current holds step member
  exact LoopStep.after_preserves steps loop stamps (implicit step member) (known step member) holds

end Runs

end Supervisor

end Shroud
