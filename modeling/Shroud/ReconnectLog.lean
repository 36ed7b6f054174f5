import Shroud.Recording
import Shroud.Reconnect

namespace Shroud.Supervisor

open StateProgram

/-!
# The record of a reconnect

The reconnect once more, with a record of what it asks, how long it waits,
which commands it takes from the tray and when it carries them out.  Without
the record it is `attempt_reconnect`.
-/

/-- What happens during a reconnect. -/
inductive Happening where
  /-- The loop begins an attempt. -/
  | begins (attempt : Nat)
  /-- `get_active_vpn` and its answer. -/
  | query (active : Option String)
  /-- `list_vpn_connections`. -/
  | list
  /-- A backoff, how long it took and the commands received meanwhile. -/
  | waited (millis : Nat) (received : List VpnCommand)
  /-- A look into the channel and the command that it takes out. -/
  | looked (found : Option VpnCommand)
  | connect (name : String) (ok : Bool)
  | disconnect (name : String) (ok : Bool)
  /-- A command is carried out. -/
  | applied (command : VpnCommand)
  deriving Repr, DecidableEq

namespace Happening

def nmCall? : Happening → Option NmCall
  | .query _ => some .getActiveVpn
  | .list => some .listVpnConnections
  | .connect name ok => some (.connect name ok)
  | .disconnect name ok => some (.disconnect name ok)
  | _ => none

/-- The commands that are taken from the tray. -/
def receives : Happening → List VpnCommand
  | .waited _ received => received
  | .looked (some command) => [command]
  | _ => []

/-- The command that is carried out. -/
def applies : Happening → List VpnCommand
  | .applied command => [command]
  | _ => []

def isConnect : Happening → Bool
  | .connect _ _ => true
  | _ => false

def isBegin : Happening → Bool
  | .begins _ => true
  | _ => false

end Happening

/-- A backoff takes the commands up to the first one to disconnect. -/
def receivedOf (commands : List VpnCommand) : List VpnCommand :=
  deferredOf commands ++
    if commands.contains .disconnect then [.disconnect] else []

namespace Log

open Recorded

variable (env : Env)

def getActiveVpn : Recorded World Happening (Option String) :=
  noting (Supervisor.getActiveVpn env) fun _ active _ => [.query active]

def listVpnConnections : Recorded World Happening (List String) :=
  noting (Supervisor.listVpnConnections env) fun _ _ _ => [.list]

def nmConnect (name : String) : Recorded World Happening Bool :=
  noting (Supervisor.nmConnect env name) fun _ ok _ => [.connect name ok]

def nmDisconnect (name : String) : Recorded World Happening Bool :=
  noting (Supervisor.nmDisconnect env name) fun _ ok _ => [.disconnect name ok]

def waitBackoff (attempt : Nat) : Recorded World Happening Bool :=
  noting (Supervisor.waitBackoff env attempt) fun before _ after =>
    [.waited (after.now - before.now) (receivedOf (env.arrivals before.asked.windows))]

def look : Recorded World Happening Unit :=
  noting
    (modify fun world =>
      { world with
        asked := { world.asked with polls := world.asked.polls + 1 } })
    fun before _ _ => [.looked (env.polled before.asked.polls)]

def handleCommand (command : VpnCommand) : Recorded World Happening Unit :=
  noting (Supervisor.handleCommand env command) fun _ _ _ => [.applied command]

def shouldAttemptReconnect : Recorded World Happening Bool := do
  match ← getActiveVpn env with
  | some active => do
      silent (dispatchAndSync (.nmVpnUp active))
      pure false
  | none => pure true

def waitVerify : Nat → Recorded World Happening Bool
  | 0 => pure false
  | polls + 1 => do
      let world ← silent get
      look env
      if env.polled world.asked.polls = some .disconnect then pure true
      else do
        silent (sleep 200)
        waitVerify polls

def cancelReconnect (name : String) : Recorded World Happening Unit := do
  note (.applied .disconnect)
  let _ ← nmDisconnect env name
  silent (modify fun world =>
    { world with
      timing := { world.timing with
        lastDisconnectTime := some world.now } })
  silent (setStateAndSync .disconnected)

def verifyConnection (name : String) :
    Recorded World Happening AttemptEnd := do
  if ← waitVerify env verifyPolls then do
    cancelReconnect env name
    pure .returned
  else
    match ← getActiveVpn env with
    | some active =>
      if active = name then do
        silent (dispatchAndSync (.nmVpnUp name))
        pure .succeeded
      else
        pure .failed
    | none => pure .failed

def reconnectOnce (name : String) (attempt maxAttempts : Nat) :
    Recorded World Happening AttemptEnd := do
  silent (setStateAndSync (.reconnecting name attempt maxAttempts))
  if ← waitBackoff env attempt then do
    cancelReconnect env name
    pure .returned
  else if ← nmConnect env name then
    verifyConnection env name
  else
    pure .failed

def reconnectAttempt (name : String) (attempt maxAttempts : Nat) :
    Recorded World Happening AttemptEnd := do
  note (.begins attempt)
  let world ← silent get
  if world.timing.reconnectCancelled then do
    silent (setStateAndSync .disconnected)
    pure .returned
  else if ← shouldAttemptReconnect env then
    reconnectOnce env name attempt maxAttempts
  else
    pure .succeeded

def reconnectAttempts (name : String) (maxAttempts : Nat) :
    (attempt remaining : Nat) → Recorded World Happening AttemptEnd
  | _, 0 => pure .failed
  | attempt, remaining + 1 => do
      match ← reconnectAttempt env name attempt maxAttempts with
      | .returned => pure .returned
      | .succeeded => pure .succeeded
      | .failed => reconnectAttempts name maxAttempts (attempt + 1) remaining

def reconnectLoop (name : String) : Recorded World Happening Unit := do
  let world ← silent get
  let maxAttempts := world.machine.maxRetries
  match ← reconnectAttempts env name maxAttempts 1 maxAttempts with
  | .failed =>
    silent (setStateAndSync (.failed name
      ("Max attempts (" ++ toString maxAttempts ++ ") exceeded")))
  | _ => pure ()

def reconnectImpossible (name : String) : Recorded World Happening Unit := do
  silent (dispatchAndSync (.connectionFailed ("VPN '" ++ name ++ "' no longer exists")))
  noting (refreshConnections env) fun _ _ _ => [.list]

def startReconnect (name : String) : Recorded World Happening Unit := do
  silent (modify fun world =>
    { world with
      timing := { world.timing with
        lastReconnectTime := some world.now
        reconnectCancelled := false } })
  if ← shouldAttemptReconnect env then do
    let available ← listVpnConnections env
    if available.contains name then reconnectLoop env name
    else reconnectImpossible env name
  else
    pure ()

def attemptReconnectInner (name : String) :
    Recorded World Happening Unit := do
  let world ← silent get
  if isDebounced world then pure () else startReconnect env name

def drainDeferred : Nat → Recorded World Happening Unit
  | 0 => pure ()
  | fuel + 1 => do
      let world ← silent get
      match world.deferredCommands with
      | [] => pure ()
      | command :: rest => do
          silent (modify fun world =>
            { world with deferredCommands := rest })
          handleCommand env command
          drainDeferred fuel

def guardedReconnect (name : String) : Recorded World Happening Unit := do
  silent (modifyTiming fun timing =>
    { timing with reconnectInProgress := true })
  attemptReconnectInner env name
  silent (modifyTiming fun timing =>
    { timing with reconnectInProgress := false })
  let world ← silent get
  drainDeferred env world.deferredCommands.length

def attemptReconnect (name : String) : Recorded World Happening Unit := do
  let world ← silent get
  if world.timing.reconnectInProgress then pure ()
  else guardedReconnect env name

theorem shouldAttemptReconnect_erase :
    (shouldAttemptReconnect env).erase = Supervisor.shouldAttemptReconnect env := by
  rw [shouldAttemptReconnect, erase_bind]
  refine congrArg (Supervisor.getActiveVpn env >>= ·) (funext ?_)
  intro active
  cases active <;> rfl

theorem waitVerify_erase (polls : Nat) :
    (waitVerify env polls).erase = Supervisor.waitVerify env polls := by
  induction polls with
  | zero => rfl
  | succ polls ih =>
    rw [waitVerify, Supervisor.waitVerify, ← ih]
    simp only [look, erase_bind, erase_silent, erase_noting, erase_ite, erase_pure]

section

variable (name : String)

theorem cancelReconnect_erase :
    (cancelReconnect env name).erase = Supervisor.cancelReconnect env name :=
  rfl

theorem verifyConnection_erase :
    (verifyConnection env name).erase = Supervisor.verifyConnection env name := by
  rw [verifyConnection, Supervisor.verifyConnection, erase_bind, waitVerify_erase]
  refine congrArg (Supervisor.waitVerify env verifyPolls >>= ·) (funext ?_)
  intro seen
  rw [erase_ite]
  congr 1
  rw [erase_bind]
  refine congrArg (Supervisor.getActiveVpn env >>= ·) (funext ?_)
  intro active
  cases active with
  | none => rfl
  | some active => exact erase_ite _ _

theorem reconnectOnce_erase (attempt maxAttempts : Nat) :
    (reconnectOnce env name attempt maxAttempts).erase =
      Supervisor.reconnectOnce env name attempt maxAttempts := by
  rw [reconnectOnce, Supervisor.reconnectOnce]
  simp only [erase_bind, erase_silent, erase_ite, erase_pure,
    cancelReconnect_erase, verifyConnection_erase]
  rfl

theorem reconnectAttempt_erase (attempt maxAttempts : Nat) :
    (reconnectAttempt env name attempt maxAttempts).erase =
      Supervisor.reconnectAttempt env name attempt maxAttempts := by
  rw [reconnectAttempt, Supervisor.reconnectAttempt, erase_note_bind]
  simp only [erase_bind, erase_silent, erase_ite, erase_pure,
    shouldAttemptReconnect_erase, reconnectOnce_erase]

theorem reconnectAttempts_erase (maxAttempts attempt remaining : Nat) :
    (reconnectAttempts env name maxAttempts attempt remaining).erase =
      Supervisor.reconnectAttempts env name maxAttempts attempt remaining := by
  induction remaining generalizing attempt with
  | zero => rfl
  | succ remaining ih =>
    rw [reconnectAttempts, Supervisor.reconnectAttempts, erase_bind, reconnectAttempt_erase]
    refine congrArg (Supervisor.reconnectAttempt env name attempt maxAttempts >>= ·) (funext ?_)
    intro attemptEnd
    cases attemptEnd with
    | returned => rfl
    | succeeded => rfl
    | failed => exact ih (attempt + 1)

theorem reconnectLoop_erase :
    (reconnectLoop env name).erase = Supervisor.reconnectLoop env name := by
  rw [reconnectLoop, Supervisor.reconnectLoop, erase_bind]
  refine congrArg (get >>= ·) (funext ?_)
  intro world
  dsimp only
  rw [erase_bind, reconnectAttempts_erase]
  refine congrArg
    (Supervisor.reconnectAttempts env name world.machine.maxRetries 1
      world.machine.maxRetries >>= ·) (funext ?_)
  intro attemptEnd
  cases attemptEnd <;> rfl

theorem startReconnect_erase :
    (startReconnect env name).erase = Supervisor.startReconnect env name := by
  rw [startReconnect, Supervisor.startReconnect]
  simp only [erase_bind, erase_silent, erase_ite, erase_pure,
    shouldAttemptReconnect_erase, reconnectLoop_erase]
  rfl

theorem attemptReconnectInner_erase :
    (attemptReconnectInner env name).erase = Supervisor.attemptReconnectInner env name := by
  rw [attemptReconnectInner, Supervisor.attemptReconnectInner]
  simp only [erase_bind, erase_silent, erase_ite, erase_pure, startReconnect_erase]

end

theorem drainDeferred_erase (fuel : Nat) :
    (drainDeferred env fuel).erase = Supervisor.drainDeferred env fuel := by
  induction fuel with
  | zero => rfl
  | succ fuel ih =>
    rw [drainDeferred, Supervisor.drainDeferred, erase_bind]
    refine congrArg (get >>= ·) (funext ?_)
    intro world
    cases world.deferredCommands with
    | nil => rfl
    | cons command rest =>
      dsimp only
      rw [← ih]
      rfl

theorem attemptReconnect_erase (name : String) :
    (attemptReconnect env name).erase = Supervisor.attemptReconnect env name := by
  have guarded : (guardedReconnect env name).erase = Supervisor.guardedReconnect env name := by
    rw [guardedReconnect, Supervisor.guardedReconnect]
    simp only [erase_bind, erase_silent, attemptReconnectInner_erase, drainDeferred_erase]
  rw [attemptReconnect, Supervisor.attemptReconnect]
  simp only [erase_bind, erase_silent, erase_ite, erase_pure, guarded]

end Log

/-- A relation that every step of the reconnect is in. -/
structure RecordSteps (env : Env)
    (relation : World → World → List Happening → Prop) : Prop where
  composes : Composes relation
  event : ∀ event, Records relation (Recorded.silent (dispatchAndSync event))
  state : ∀ next, Records relation (Recorded.silent (setStateAndSync next))
  timing : ∀ world timing, relation world { world with timing := timing } []
  sleep : ∀ millis, Records relation (Recorded.silent (sleep millis))
  query : Records relation (Log.getActiveVpn env)
  list : Records relation (Log.listVpnConnections env)
  refresh : Records relation (Recorded.noting (refreshConnections env) fun _ _ _ => [.list])
  wait : ∀ attempt, Records relation (Log.waitBackoff env attempt)
  look : Records relation (Log.look env)
  connect : ∀ name, Records relation (Log.nmConnect env name)
  disconnect : ∀ name, Records relation (Log.nmDisconnect env name)
  begins : ∀ world attempt, relation world world [.begins attempt]
  cancels : ∀ world, relation world world [.applied .disconnect]

namespace RecordSteps

variable
  {env : Env}
  {relation : World → World → List Happening → Prop}
  (steps : RecordSteps env relation)

include steps

theorem get :
    Records relation (Recorded.silent MonadState.get : Recorded World Happening World) :=
  steps.composes.nil

theorem shouldAttemptReconnect :
    Records relation (Log.shouldAttemptReconnect env) := by
  refine .bind steps.composes steps.query ?_
  intro active
  cases active with
  | none => exact .pure steps.composes
  | some active =>
    exact .bind steps.composes (steps.event _) fun _ => .pure steps.composes

theorem waitVerify (polls : Nat) :
    Records relation (Log.waitVerify env polls) := by
  induction polls with
  | zero => exact .pure steps.composes
  | succ polls ih =>
    refine .bind steps.composes steps.get ?_
    intro world
    refine .bind steps.composes steps.look ?_
    intro _
    refine .ite (.pure steps.composes) ?_
    exact .bind steps.composes (steps.sleep 200) fun _ => ih

section

variable (name : String)

theorem cancelReconnect :
    Records relation (Log.cancelReconnect env name) := by
  refine .bind steps.composes steps.cancels ?_
  intro _
  refine .bind steps.composes (steps.disconnect name) ?_
  intro _
  refine .bind steps.composes (fun world => steps.timing world _) ?_
  intro _
  exact steps.state _

theorem cancelled :
    Records relation
      (do
        Log.cancelReconnect env name
        pure AttemptEnd.returned) :=
  .bind steps.composes (steps.cancelReconnect name) fun _ => .pure steps.composes

theorem verifyConnection :
    Records relation (Log.verifyConnection env name) := by
  refine .bind steps.composes (steps.waitVerify verifyPolls) ?_
  intro seen
  refine .ite (steps.cancelled name) ?_
  refine .bind steps.composes steps.query ?_
  intro active
  cases active with
  | none => exact .pure steps.composes
  | some active =>
    refine .ite ?_ (.pure steps.composes)
    exact .bind steps.composes (steps.event _) fun _ => .pure steps.composes

theorem reconnectOnce (attempt maxAttempts : Nat) :
    Records relation (Log.reconnectOnce env name attempt maxAttempts) := by
  refine .bind steps.composes (steps.state _) ?_
  intro _
  refine .bind steps.composes (steps.wait attempt) ?_
  intro isCancelled
  refine .ite (steps.cancelled name) ?_
  refine .bind steps.composes (steps.connect name) ?_
  intro ok
  exact .ite (steps.verifyConnection name) (.pure steps.composes)

theorem reconnectAttempt (attempt maxAttempts : Nat) :
    Records relation (Log.reconnectAttempt env name attempt maxAttempts) := by
  refine .bind steps.composes (fun world => steps.begins world attempt) ?_
  intro _
  refine .bind steps.composes steps.get ?_
  intro world
  refine .ite ?_ ?_
  · exact .bind steps.composes (steps.state _) fun _ => .pure steps.composes
  · refine .bind steps.composes steps.shouldAttemptReconnect ?_
    intro proceed
    exact .ite (steps.reconnectOnce name attempt maxAttempts) (.pure steps.composes)

theorem reconnectAttempts (maxAttempts attempt remaining : Nat) :
    Records relation (Log.reconnectAttempts env name maxAttempts attempt remaining) := by
  induction remaining generalizing attempt with
  | zero => exact .pure steps.composes
  | succ remaining ih =>
    refine .bind steps.composes (steps.reconnectAttempt name attempt maxAttempts) ?_
    intro attemptEnd
    cases attemptEnd with
    | returned => exact .pure steps.composes
    | succeeded => exact .pure steps.composes
    | failed => exact ih (attempt + 1)

theorem reconnectLoop :
    Records relation (Log.reconnectLoop env name) := by
  refine .bind steps.composes steps.get ?_
  intro world
  refine .bind steps.composes (steps.reconnectAttempts name _ 1 _) ?_
  intro attemptEnd
  cases attemptEnd with
  | returned => exact .pure steps.composes
  | succeeded => exact .pure steps.composes
  | failed => exact steps.state _

/-- What every step does holds of the whole reconnect. -/
theorem attemptReconnectInner :
    Records relation (Log.attemptReconnectInner env name) := by
  refine .bind steps.composes steps.get ?_
  intro world
  refine .ite (.pure steps.composes) ?_
  refine .bind steps.composes (fun world => steps.timing world _) ?_
  intro _
  refine .bind steps.composes steps.shouldAttemptReconnect ?_
  intro proceed
  refine .ite ?_ (.pure steps.composes)
  refine .bind steps.composes steps.list ?_
  intro available
  refine .ite (steps.reconnectLoop name) ?_
  exact .bind steps.composes (steps.event _) fun _ => steps.refresh

end

end RecordSteps

end Shroud.Supervisor
