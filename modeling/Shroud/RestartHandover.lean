import Shroud.InstanceLock

namespace Shroud.RestartHandover

open AdvisoryLock InstanceLock

/-!
# Handing over to a new daemon

A restart spawns the new daemon first.  The comment there says that "the child
will block on acquiring the lock until we exit", but the lock is tried once and
without waiting.  The old daemon drops its lock file when `run_daemon_mode`
returns, and its IPC server removes the socket path once more when the runtime
is dropped behind it.
-/

inductive Party where
  | old
  | new
  deriving Repr, DecidableEq

/-- What the old daemon does after the spawn; its pause is no step. -/
inductive OldStep where
  /-- `handle_restart`, or the IPC command. -/
  | removeSocket
  /-- `graceful_shutdown` looks whether the path exists. -/
  | look
  | removeFound
  /-- `run_daemon_mode` returns, and `_lock_file` is dropped. -/
  | dropLock
  /-- `IpcServer::drop`, if this server has bound the socket. -/
  | lookIfBound
  | removeFoundAgain
  | exit
  deriving Repr, DecidableEq

def oldSteps : List OldStep :=
  [.removeSocket, .look, .removeFound, .dropLock, .lookIfBound, .removeFoundAgain, .exit]

/-- Where the IPC server of the new daemon is. -/
inductive Server where
  | looking
  | clearing (found : Bool)
  | binding
  | listening
  | failed
  deriving Repr, DecidableEq

/-- The processes of the two daemons. -/
def oldDaemon : Fin 2 := Fin.mk 0 Nat.zero_lt_two

def newDaemon : Fin 2 := Fin.mk 1 Nat.one_lt_two

@[simp] theorem newDaemon_ne_old : newDaemon ≠ oldDaemon := by
  decide

@[simp] theorem oldDaemon_ne_new : oldDaemon ≠ newDaemon := by
  decide

structure State where
  lock : InstanceLock.State 2
  /-- Whether the socket path exists. -/
  socket : Bool
  /-- How many steps the old daemon has done. -/
  done : Nat
  /-- What the old daemon saw when it looked for the path. -/
  found : Bool
  server : Server

section Steps

variable
  (processes : Processes 2)
  /- Whether the old daemon had bound the socket. -/
  (bound : Bool)

def perform (state : State) : OldStep → State
  | .removeSocket => { state with socket := false }
  | .look => { state with found := state.socket }
  | .removeFound => { state with socket := state.socket && !state.found }
  | .dropLock => { state with lock := act processes state.lock oldDaemon .drop }
  | .lookIfBound => { state with found := bound && state.socket }
  | .removeFoundAgain => { state with socket := state.socket && !state.found }
  | .exit => { state with lock := act processes state.lock oldDaemon .exit }

def oldStep (state : State) : State :=
  match oldSteps[state.done]? with
  | none => state
  | some step =>
    { perform processes bound state step with done := state.done + 1 }

/-- `IpcServer::run`, up to the loop. -/
def serve (state : State) : State :=
  match state.server with
  | .looking => { state with server := .clearing state.socket }
  | .clearing true =>
    if state.socket then
      { state with socket := false, server := .binding }
    else
      { state with server := .failed }
  | .clearing false => { state with server := .binding }
  | .binding =>
    if state.socket then { state with server := .failed }
    else { state with socket := true, server := .listening }
  | .listening => state
  | .failed => state

/-- The next step of the new daemon: the lock, and then the server. -/
def newStep (state : State) : State :=
  match state.lock.phase newDaemon with
  | .holding _ => serve state
  | _ => { state with lock := act processes state.lock newDaemon (.operate none) }

def step (state : State) : Party → State
  | .old => oldStep processes bound state
  | .new => newStep processes state

def run (schedule : List Party) (state : State) : State :=
  schedule.foldl (step processes bound) state

/-- The old daemon has got the lock, whatever the lock file held before. -/
def start (text : Option (List Char)) (socket : Bool) : State where
  lock := InstanceLock.run processes (goesOn oldDaemon 7) (InstanceLock.start 2 text)
  socket := socket
  done := 0
  found := false
  server := .looking

end Steps

/-- Both daemons have done their steps. -/
def Complete (state : State) : Prop :=
  oldSteps.length ≤ state.done ∧
    ((∃ message, state.lock.phase newDaemon = .failed message) ∨
      state.server = .listening ∨ state.server = .failed)

/-- The new daemon has the lock, and the socket path exists. -/
def HandedOver (state : State) : Prop :=
  Holds state.lock newDaemon ∧ state.socket = true

/-- How many steps of the old daemon come before a step of the new one. -/
def oldBefore : Nat → List Party → Nat
  | _, [] => 0
  | number, .old :: rest => oldBefore number rest + 1
  | 0, .new :: _ => 0
  | number + 1, .new :: rest => oldBefore number rest

/-- The old daemon has done a step before a step of the new one. -/
def DoneBefore
    (schedule : List Party)
    (old : OldStep)
    (number : Nat) :
    Prop :=
  old ∈ oldSteps.take (oldBefore number schedule)

instance (schedule : List Party) (old : OldStep) (number : Nat) :
    Decidable (DoneBefore schedule old number) :=
  inferInstanceAs (Decidable (old ∈ oldSteps.take (oldBefore number schedule)))

/-- Where the new daemon is. -/
inductive Progress where
  | idle
  | opening
  | locking
  | reopening
  | reading
  | checking
  | removing
  | openingAgain
  | lockingAgain
  | truncating
  | seeking
  | stamping
  | syncing
  | looking
  | clearing
  | binding
  | listening
  | failed
  deriving Repr, DecidableEq

section View

variable (processes : Processes 2)

/-- The phases before the daemon knows whether it gets the lock. -/
def waitingPhase? (file : Inode) : Progress → Option Phase
  | .idle => some .idle
  | .opening => some (.opening 1)
  | .locking => some (.locking 1 file)
  | .reopening => some (.reopening 1 file)
  | .reading => some (.reading 1 file file)
  | .checking => some (.checking 1 file (processes.pid oldDaemon))
  | _ => none

/-- The phases with the lock. -/
def lockedPhase? (file : Inode) : Progress → Option Phase
  | .truncating => some (.truncating file)
  | .seeking => some (.seeking file)
  | .stamping => some (.stamping file)
  | .syncing => some (.syncing file)
  | .looking => some (.holding file)
  | .clearing => some (.holding file)
  | .binding => some (.holding file)
  | .listening => some (.holding file)
  | _ => none

def serverPhase : Progress → Server
  | .clearing => .clearing false
  | .binding => .binding
  | .listening => .listening
  | _ => .looking

/-- The phase of the old daemon after some steps. -/
def oldPhase (file : Inode) (done : Nat) : Phase :=
  if done < 4 then .holding file
  else if done < 7 then .released
  else .exited

/-- The path is gone as long as the new daemon has not bound the socket. -/
structure Unbound (state : State) : Prop where
  gone : 1 ≤ state.done → state.socket = false
  notFound : 2 ≤ state.done → state.found = false

/-- The lock file is as the old daemon has left it. -/
structure Untouched (file : Inode) (state : State) : Prop where
  old : state.lock.phase oldDaemon = oldPhase file state.done
  named : state.lock.files.named = some file
  written : state.lock.files.content file = pidText (processes.pid oldDaemon)
  holder : state.lock.files.holder file = if state.done < 4 then some oldDaemon else none
  fresh : state.lock.files.holder state.lock.files.fresh = none

/-- What is known of the state, by the progress of the new daemon. -/
inductive View (file : Inode) (state : State) : Progress → Prop where
  | waiting
      {progress : Progress}
      {phase : Phase}
      (listed : waitingPhase? processes file progress = some phase)
      (new : state.lock.phase newDaemon = phase)
      (untouched : Untouched processes file state)
      (server : state.server = .looking)
      (unbound : Unbound state) :
      View file state progress
  | removing
      (new : state.lock.phase newDaemon = .removing 1)
      (named : state.lock.files.named = some file)
      (fresh : state.lock.files.holder state.lock.files.fresh = none)
      (exited : 7 ≤ state.done)
      (server : state.server = .looking)
      (unbound : Unbound state) :
      View file state .removing
  | openingAgain
      (new : state.lock.phase newDaemon = .opening 0)
      (named : state.lock.files.named = none)
      (fresh : state.lock.files.holder state.lock.files.fresh = none)
      (exited : 7 ≤ state.done)
      (server : state.server = .looking)
      (unbound : Unbound state) :
      View file state .openingAgain
  | lockingAgain
      {again : Inode}
      (new : state.lock.phase newDaemon = .locking 0 again)
      (free : state.lock.files.holder again = none)
      (exited : 7 ≤ state.done)
      (server : state.server = .looking)
      (unbound : Unbound state) :
      View file state .lockingAgain
  | locked
      {progress : Progress}
      {owned : Inode}
      {phase : Phase}
      (listed : lockedPhase? owned progress = some phase)
      (new : state.lock.phase newDaemon = phase)
      (dropped : 4 ≤ state.done)
      (server : state.server = serverPhase progress)
      (unbound : progress ≠ .listening → Unbound state) :
      View file state progress
  | failed
      {message : String}
      (new : state.lock.phase newDaemon = .failed message)
      (server : state.server = .looking) :
      View file state .failed

end View

section Course

variable
  {processes : Processes 2}
  {bound : Bool}
  {file : Inode}
  {state : State}
  {progress : Progress}

/-- How far the old daemon is at a step of the new one. -/
def doneAt (state : State) (schedule : List Party) (number : Nat) : Nat :=
  state.done + oldBefore number schedule

/-- The server looks for its socket the last time before this one binds it. -/
def BindsAt
    (bound : Bool)
    (state : State)
    (schedule : List Party)
    (number : Nat) :
    Prop :=
  bound = true → 5 ≤ doneAt state schedule number

/-- The lock is free when it is tried, or its owner gone when it is checked. -/
def LocksAt
    (bound : Bool)
    (state : State)
    (schedule : List Party)
    (number : Nat) :
    Prop :=
  (4 ≤ doneAt state schedule number ∧
      BindsAt bound state schedule (number + 7)) ∨
    7 ≤ doneAt state schedule (number + 3)

/-- What the rest of the schedule has to bring. -/
def Succeeds
    (bound : Bool)
    (state : State)
    (schedule : List Party) :
    Progress → Prop
  | .idle => LocksAt bound state schedule 2
  | .opening => LocksAt bound state schedule 1
  | .locking => LocksAt bound state schedule 0
  | .reopening => 7 ≤ doneAt state schedule 2
  | .reading => 7 ≤ doneAt state schedule 1
  | .checking => 7 ≤ doneAt state schedule 0
  | .removing => True
  | .openingAgain => True
  | .lockingAgain => True
  | .truncating => BindsAt bound state schedule 6
  | .seeking => BindsAt bound state schedule 5
  | .stamping => BindsAt bound state schedule 4
  | .syncing => BindsAt bound state schedule 3
  | .looking => BindsAt bound state schedule 2
  | .clearing => BindsAt bound state schedule 1
  | .binding => BindsAt bound state schedule 0
  | .listening =>
    state.socket = true ∧ (bound = true → 5 ≤ state.done) ∧ (state.done = 5 → state.found = false)
  | .failed => False

theorem oldBefore_le_succ
    (number : Nat)
    (schedule : List Party) :
    oldBefore number schedule ≤ oldBefore (number + 1) schedule := by
  induction schedule generalizing number with
  | nil => exact Nat.le_refl 0
  | cons party rest ih =>
    cases party with
    | old => exact Nat.succ_le_succ (ih number)
    | new =>
      cases number with
      | zero => exact Nat.zero_le _
      | succ number => exact ih number

theorem oldBefore_mono (schedule : List Party) :
    Monotone fun number => oldBefore number schedule :=
  monotone_nat_of_le_succ fun number => oldBefore_le_succ number schedule

variable {after : State} {phase : Phase} {next : Progress}

theorem doneAt_old
    (counted : after.done = state.done + 1)
    (rest : List Party)
    (number : Nat) :
    doneAt state (.old :: rest) number = doneAt after rest number := by
  rw [doneAt, doneAt, oldBefore, counted]
  omega

theorem doneAt_now (rest : List Party) :
    doneAt state (.new :: rest) 0 = state.done := by
  rw [doneAt, oldBefore, Nat.add_zero]

theorem newStep_operates
    {files : Files (Fin 2)}
    (waits : ∀ file, state.lock.phase newDaemon ≠ .holding file)
    (operates : operate processes newDaemon none state.lock = (phase, files)) :
    newStep processes state =
      { state with
        lock := ⟨files, Function.update state.lock.phase newDaemon phase⟩ } := by
  rw [newStep]
  split
  · next file holds => exact absurd holds (waits file)
  · rw [act, operates]

theorem newStep_serves
    {file : Inode}
    (holds : state.lock.phase newDaemon = .holding file) :
    newStep processes state = serve state := by
  rw [newStep, holds]

theorem isProcessRunning_old
    (old : state.lock.phase oldDaemon = oldPhase file state.done) :
    isProcessRunning processes state.lock (processes.pid oldDaemon) = decide (state.done < 7) := by
  rw [isProcessRunning, processes.apart, Bool.false_or]
  have nonzero : (processes.pid oldDaemon != 0) = true := by
    simpa using (processes.positive oldDaemon).ne'
  rw [nonzero, Bool.true_and, decide_eq_decide]
  constructor
  · rintro ⟨process, same, live⟩
    obtain rfl := processes.distinct same
    by_contra exited
    rw [old, oldPhase, if_neg (by omega), if_neg exited] at live
    exact Bool.noConfusion live
  · intro here
    refine ⟨oldDaemon, rfl, ?_⟩
    rw [old, oldPhase]
    split
    · rfl
    · rfl

/-- A step leads to a place with the same prospects. -/
def Leads
    (processes : Processes 2)
    (bound : Bool)
    (file : Inode)
    (state after : State)
    (progress : Progress)
    (party : Party) :
    Prop :=
  ∃ next,
    View processes file after next ∧
      ∀ rest, Succeeds bound state (party :: rest) progress ↔ Succeeds bound after rest next

/-- The state after an operation of the new daemon. -/
def operated (state : State) (phase : Phase) (files : Files (Fin 2)) : State :=
  { state with lock := ⟨files, Function.update state.lock.phase newDaemon phase⟩ }

@[simp] theorem operated_new
    (phase : Phase)
    (files : Files (Fin 2)) :
    (operated state phase files).lock.phase newDaemon = phase := by
  simp [operated]

@[simp] theorem operated_old
    (phase : Phase)
    (files : Files (Fin 2)) :
    (operated state phase files).lock.phase oldDaemon = state.lock.phase oldDaemon := by
  simp [operated]

theorem Unbound.operated
    (unbound : Unbound state)
    (phase : Phase)
    (files : Files (Fin 2)) :
    Unbound (operated state phase files) :=
  ⟨unbound.gone, unbound.notFound⟩

theorem Untouched.operated
    (untouched : Untouched processes file state)
    (phase : Phase) :
    Untouched processes file (operated state phase state.lock.files) := by
  refine ⟨?_, untouched.named, untouched.written, untouched.holder, untouched.fresh⟩
  rw [operated_old]
  exact untouched.old

theorem leads_locked
    {nextPhase : Phase}
    {files : Files (Fin 2)}
    {owned : Inode}
    (next : Progress)
    (new : state.lock.phase newDaemon = phase)
    (waits : ∀ file, phase ≠ .holding file)
    (operates : operate processes newDaemon none state.lock = (nextPhase, files))
    (listed : lockedPhase? owned next = some nextPhase)
    (dropped : 4 ≤ state.done)
    (server : state.server = serverPhase next)
    (unbound : Unbound state)
    (succeeds :
      ∀ rest,
        Succeeds bound state (.new :: rest) progress ↔
          Succeeds bound (operated state nextPhase files) rest next) :
    Leads processes bound file state (newStep processes state) progress .new := by
  rw [newStep_operates (new ▸ waits) operates]
  exact ⟨next,
    .locked listed (operated_new ..) dropped server (fun _ => unbound.operated ..), succeeds⟩

theorem operate_locking
    {attempts : Nat}
    (new : state.lock.phase newDaemon = .locking attempts file)
    (free : state.lock.files.holder file = none) :
    operate processes newDaemon none state.lock =
      (.truncating file,
        { state.lock.files with
          holder := Function.update state.lock.files.holder file (some newDaemon) }) := by
  simp [operate, new, Files.lock?, free]

section Waiting

variable
  (untouched : Untouched processes file state)
  (server : state.server = .looking)
  (unbound : Unbound state)

include untouched server unbound

theorem leads_waiting
    {nextPhase : Phase}
    (next : Progress)
    (new : state.lock.phase newDaemon = phase)
    (waits : ∀ file, phase ≠ .holding file)
    (operates : operate processes newDaemon none state.lock = (nextPhase, state.lock.files))
    (listed : waitingPhase? processes file next = some nextPhase)
    (succeeds :
      ∀ rest,
        Succeeds bound state (.new :: rest) progress ↔
          Succeeds bound (operated state nextPhase state.lock.files) rest next) :
    Leads processes bound file state (newStep processes state) progress .new := by
  rw [newStep_operates (new ▸ waits) operates]
  exact ⟨next,
    .waiting listed (operated_new ..) (untouched.operated nextPhase) server
      (unbound.operated ..), succeeds⟩

theorem leads_locking (new : state.lock.phase newDaemon = .locking 1 file) :
    Leads processes bound file state (newStep processes state) .locking .new := by
  have waits : ∀ other, Phase.locking 1 file ≠ .holding other := by simp
  by_cases dropped : state.done < 4
  · have taken := untouched.holder
    rw [if_pos dropped] at taken
    refine leads_waiting untouched server unbound .reopening new waits ?_ rfl ?_
    · simp [operate, new, Files.lock?, taken]
    · intro rest
      have later : ¬4 ≤ doneAt state (.new :: rest) 0 := by
        rw [doneAt_now]
        omega
      exact or_iff_right fun both => later both.1
  · have free := untouched.holder
    rw [if_neg dropped] at free
    refine leads_locked .truncating new waits (operate_locking new free) rfl (by omega) server
      unbound ?_
    intro rest
    have now : 4 ≤ doneAt state (.new :: rest) 0 := by
      rw [doneAt_now]
      omega
    constructor
    · rintro (⟨-, binds⟩ | gone)
      · exact binds
      · intro _
        have later := oldBefore_mono rest (show 2 ≤ 6 by decide)
        change 7 ≤ state.done + oldBefore 2 rest at gone
        change 5 ≤ state.done + oldBefore 6 rest
        dsimp only at later
        omega
    · intro binds
      exact .inl ⟨now, binds⟩

theorem leads_checking
    (new : state.lock.phase newDaemon = .checking 1 file (processes.pid oldDaemon)) :
    Leads processes bound file state (newStep processes state) .checking .new := by
  have waits : ∀ other, state.lock.phase newDaemon ≠ .holding other := by
    simp [new]
  have running := @isProcessRunning_old processes file state untouched.old
  by_cases here : state.done < 7
  · rw [decide_eq_true here] at running
    have operates :
        operate processes newDaemon none state.lock =
          (.failed
            ("Another instance is already running (PID " ++
              toString (processes.pid oldDaemon) ++ ")"),
            state.lock.files) := by
      simp [operate, new, running]
    rw [newStep_operates waits operates]
    refine ⟨.failed, .failed (operated_new ..) server, ?_⟩
    intro rest
    refine iff_of_false ?_ not_false
    change ¬7 ≤ doneAt state (.new :: rest) 0
    rw [doneAt_now]
    omega
  · rw [decide_eq_false here] at running
    have operates :
        operate processes newDaemon none state.lock = (.removing 1, state.lock.files) := by
      simp [operate, new, running]
    rw [newStep_operates waits operates]
    refine ⟨.removing,
      .removing (operated_new ..) untouched.named untouched.fresh
        (Nat.le_of_not_lt here) server (unbound.operated ..), ?_⟩
    intro rest
    refine iff_of_true ?_ trivial
    change 7 ≤ doneAt state (.new :: rest) 0
    rw [doneAt_now]
    exact Nat.le_of_not_lt here

end Waiting

theorem leads_serving
    {owned : Inode}
    (next : Progress)
    (new : state.lock.phase newDaemon = .holding owned)
    (serves : serve state = after)
    (listed : lockedPhase? owned next = some (.holding owned))
    (lock : after.lock = state.lock)
    (dropped : 4 ≤ after.done)
    (server : after.server = serverPhase next)
    (unbound : next ≠ .listening → Unbound after)
    (succeeds :
      ∀ rest, Succeeds bound state (.new :: rest) progress ↔ Succeeds bound after rest next) :
    Leads processes bound file state (newStep processes state) progress .new := by
  rw [newStep_serves new, serves]
  exact ⟨next,
    .locked listed ((congrArg (·.phase newDaemon) lock).trans new) dropped server unbound, succeeds⟩

theorem View.news (view : View processes file state progress) :
    Leads processes bound file state (newStep processes state) progress .new := by
  cases view with
  | @waiting progress phase listed new untouched server unbound =>
    cases progress <;> cases listed
    case idle.refl =>
      exact leads_waiting untouched server unbound .opening new (by simp)
        (by simp [operate, new]) rfl (fun _ => Iff.rfl)
    case opening.refl =>
      exact leads_waiting untouched server unbound .locking new (by simp)
        (by simp [operate, new, openOrCreate_of_named untouched.named]) rfl (fun _ => Iff.rfl)
    case locking.refl => exact leads_locking untouched server unbound new
    case reopening.refl =>
      exact leads_waiting untouched server unbound .reading new (by simp)
        (by simp [operate, new, untouched.named]) rfl (fun _ => Iff.rfl)
    case reading.refl =>
      have pid := readPid?_pidText (processes.bounded oldDaemon)
      exact leads_waiting untouched server unbound .checking new (by simp)
        (by simp [operate, new, untouched.written, pid]) rfl (fun _ => Iff.rfl)
    case checking.refl => exact leads_checking untouched server unbound new
  | removing new named fresh exited server unbound =>
    have operates :
        operate processes newDaemon none state.lock = (.opening 0, state.lock.files.unlink) := by
      simp [operate, new, named]
    rw [newStep_operates (by simp [new]) operates]
    exact ⟨.openingAgain,
      .openingAgain (operated_new ..) rfl fresh exited server (unbound.operated ..),
      fun _ => Iff.rfl⟩
  | openingAgain new named fresh exited server unbound =>
    have operates :
        operate processes newDaemon none state.lock =
          (.locking 0 state.lock.files.fresh, state.lock.files.openOrCreate.2) := by
      simp [operate, new, Files.openOrCreate, named]
    rw [newStep_operates (by simp [new]) operates]
    refine ⟨.lockingAgain,
      .lockingAgain (operated_new ..) ?_ exited server (unbound.operated ..), fun _ => Iff.rfl⟩
    change state.lock.files.openOrCreate.2.holder _ = none
    rw [openOrCreate_holder]
    exact fresh
  | @lockingAgain again new free exited server unbound =>
    refine leads_locked .truncating new (by simp) (operate_locking new free) rfl (by omega) server
      unbound ?_
    intro rest
    refine iff_of_true trivial fun _ => ?_
    exact Nat.le_trans (by omega) (Nat.le_add_right state.done _)
  | @locked progress owned phase listed new dropped server unbound =>
    cases progress <;> cases listed
    case truncating.refl =>
      exact leads_locked .seeking new (by simp) (by rw [operate, new]) rfl dropped server
        (unbound (by decide)) (fun _ => Iff.rfl)
    case seeking.refl =>
      exact leads_locked .stamping new (by simp) (by rw [operate, new]) rfl dropped server
        (unbound (by decide)) (fun _ => Iff.rfl)
    case stamping.refl =>
      exact leads_locked .syncing new (by simp) (by rw [operate, new]) rfl dropped server
        (unbound (by decide)) (fun _ => Iff.rfl)
    case syncing.refl =>
      exact leads_locked .looking new (by simp) (by rw [operate, new]) rfl dropped server
        (unbound (by decide)) (fun _ => Iff.rfl)
    case looking.refl =>
      have quiet := unbound (by decide)
      have looks : state.server = .looking := server
      have serves : serve state = { state with server := .clearing false } := by
        rw [serve, looks, ← quiet.gone (by omega)]
      exact leads_serving .clearing new serves rfl rfl dropped rfl
        (fun _ => ⟨quiet.gone, quiet.notFound⟩) (fun _ => Iff.rfl)
    case clearing.refl =>
      have quiet := unbound (by decide)
      have serves : serve state = { state with server := .binding } := by
        rw [serve, server, serverPhase]
      exact leads_serving .binding new serves rfl rfl dropped rfl
        (fun _ => ⟨quiet.gone, quiet.notFound⟩) (fun _ => Iff.rfl)
    case binding.refl =>
      have quiet := unbound (by decide)
      have serves : serve state = { state with socket := true, server := .listening } := by
        rw [serve, server, serverPhase, quiet.gone (by omega)]
        rfl
      refine leads_serving .listening new serves rfl rfl dropped rfl
        (fun other => absurd rfl other) ?_
      intro rest
      have notFound := quiet.notFound (by omega)
      exact ⟨fun binds => ⟨rfl, binds, fun _ => notFound⟩, fun succeeds => succeeds.2.1⟩
    case listening.refl =>
      have serves : serve state = state := by rw [serve, server, serverPhase]
      exact leads_serving .listening new serves rfl rfl dropped server
        (fun other => absurd rfl other) (fun _ => Iff.rfl)
  | @failed message new server =>
    have operates :
        operate processes newDaemon none state.lock = (.failed message, state.lock.files) := by
      rw [operate, new]
    rw [newStep_operates (by simp [new]) operates]
    exact ⟨.failed, .failed (operated_new ..) server, fun _ => Iff.rfl⟩

theorem act_other
    (lock : InstanceLock.State 2)
    {action : Action}
    (ends : action = .drop ∨ action = .exit) :
    (act processes lock oldDaemon action).phase newDaemon = lock.phase newDaemon := by
  rcases ends with rfl | rfl
  · rw [act]
    split
    · exact Function.update_of_ne newDaemon_ne_old .released lock.phase
    · rfl
  · exact Function.update_of_ne newDaemon_ne_old .exited lock.phase

theorem oldStep_new :
    (oldStep processes bound state).lock.phase newDaemon = state.lock.phase newDaemon := by
  rw [oldStep]
  split
  · rfl
  · next step _ =>
      cases step with
      | dropLock => exact act_other _ (.inl rfl)
      | exit => exact @act_other processes _ _ (.inr rfl)
      | _ => rfl

theorem oldStep_server :
    (oldStep processes bound state).server = state.server := by
  rw [oldStep]
  split
  · rfl
  · next step _ => cases step <;> rfl

theorem oldStep_done (more : state.done < 7) :
    (oldStep processes bound state).done = state.done + 1 := by
  have listed : oldSteps[state.done]? = some (oldSteps[state.done]) := List.getElem?_eq_getElem more
  rw [oldStep, listed]

theorem oldStep_through (through : 7 ≤ state.done) :
    oldStep processes bound state = state := by
  have none : oldSteps[state.done]? = none := List.getElem?_eq_none through
  rw [oldStep, none]

theorem oldStep_eq
    {number : Nat}
    {step : OldStep}
    (done : state.done = number)
    (listed : oldSteps[number]? = some step) :
    oldStep processes bound state =
      { perform processes bound state step with done := number + 1 } := by
  rw [oldStep, done, listed]

theorem perform_gone
    (step : OldStep)
    (gone : state.socket = false) :
    (perform processes bound state step).socket = false := by
  cases step <;> simp [perform, gone]

theorem perform_notFound
    {step : OldStep}
    (gone : state.socket = false)
    (notFound : step = .look ∨ state.found = false) :
    (perform processes bound state step).found = false := by
  rcases notFound with rfl | notFound
  · exact gone
  · cases step <;> simp [perform, gone, notFound]

theorem Unbound.olds (unbound : Unbound state) :
    Unbound (oldStep processes bound state) := by
  cases listed : oldSteps[state.done]? with
  | none =>
    rw [oldStep, listed]
    exact unbound
  | some step =>
    rw [oldStep_eq rfl listed]
    by_cases first : state.done = 0
    · rw [first] at listed
      obtain rfl := Option.some.inj listed
      refine ⟨fun _ => rfl, fun late => ?_⟩
      change 2 ≤ state.done + 1 at late
      omega
    · have gone := unbound.gone (Nat.pos_of_ne_zero first)
      refine ⟨fun _ => perform_gone step gone, fun _ => ?_⟩
      refine perform_notFound gone ?_
      by_cases second : state.done = 1
      · rw [second] at listed
        exact .inl (Option.some.inj listed).symm
      · exact .inr (unbound.notFound (by omega))

theorem Untouched.gives
    (untouched : Untouched processes file state)
    (lock :
      after.lock =
        ⟨state.lock.files.release oldDaemon, Function.update state.lock.phase oldDaemon phase⟩)
    (old : phase = oldPhase file after.done)
    (late : 4 ≤ after.done) :
    Untouched processes file after := by
  have notHeld
      {inode : Inode}
      (own : ∀ other, state.lock.files.holder inode = some other → other = oldDaemon) :
      (state.lock.files.release oldDaemon).holder inode = none := by
    refine Option.eq_none_iff_forall_ne_some.mpr ?_
    intro other held
    obtain ⟨held, notOld⟩ := release_holder.mp held
    exact notOld (own other held)
  refine ⟨?_, ?_, ?_, ?_, ?_⟩
  · rw [lock, ← old]
    exact Function.update_self oldDaemon phase state.lock.phase
  · rw [lock]
    exact untouched.named
  · rw [lock]
    exact untouched.written
  · rw [lock, if_neg (by omega)]
    refine notHeld ?_
    intro other held
    rw [untouched.holder] at held
    split at held
    · exact (Option.some.inj held).symm
    · exact absurd held.symm (Option.some_ne_none other)
  · rw [lock]
    refine notHeld ?_
    intro other held
    rw [show (state.lock.files.release oldDaemon).fresh = state.lock.files.fresh
      from rfl, untouched.fresh] at held
    exact absurd held.symm (Option.some_ne_none other)

theorem oldPhase_succ
    (file : Inode)
    {done : Nat}
    (notDrop : done ≠ 3)
    (notExit : done ≠ 6) :
    oldPhase file (done + 1) = oldPhase file done := by
  have dropped : done + 1 < 4 ↔ done < 4 := by omega
  have exited : done + 1 < 7 ↔ done < 7 := by omega
  rw [oldPhase, oldPhase, if_congr dropped rfl rfl, if_congr exited rfl rfl]

theorem Untouched.olds (untouched : Untouched processes file state) :
    Untouched processes file (oldStep processes bound state) := by
  by_cases drops : state.done = 3
  · have holds : state.lock.phase oldDaemon = .holding file := by
      rw [untouched.old, drops]
      rfl
    rw [oldStep_eq drops rfl]
    refine untouched.gives ?_ rfl (Nat.le_refl 4)
    change act processes state.lock oldDaemon .drop = _
    rw [act, holds]
    rfl
  by_cases exits : state.done = 6
  · rw [oldStep_eq exits rfl]
    exact untouched.gives rfl rfl (show 4 ≤ 7 by decide)
  cases listed : oldSteps[state.done]? with
  | none =>
    rw [oldStep, listed]
    exact untouched
  | some step =>
    obtain ⟨more, -⟩ := List.getElem?_eq_some_iff.mp listed
    have other :
        ∀ number : Fin 7, number.val ≠ 3 → number.val ≠ 6 →
          oldSteps[number.val]? ≠ some .dropLock ∧ oldSteps[number.val]? ≠ some .exit := by
      decide
    obtain ⟨notDrop, notExit⟩ := other ⟨_, more⟩ drops exits
    have lock : (perform processes bound state step).lock = state.lock := by
      cases step with
      | dropLock => exact absurd listed notDrop
      | exit => exact absurd listed notExit
      | _ => rfl
    rw [oldStep_eq rfl listed]
    refine ⟨?_, ?_, ?_, ?_, ?_⟩
    · rw [lock, oldPhase_succ file drops exits]
      exact untouched.old
    · rw [lock]
      exact untouched.named
    · rw [lock]
      exact untouched.written
    · have held : state.done + 1 < 4 ↔ state.done < 4 := by omega
      rw [lock, untouched.holder, if_congr held rfl rfl]
    · rw [lock]
      exact untouched.fresh

theorem reaches_old
    {threshold : Nat}
    (low : threshold ≤ 7)
    (rest : List Party)
    (number : Nat) :
    threshold ≤ doneAt state (.old :: rest) number ↔
      threshold ≤ doneAt (oldStep processes bound state) rest number := by
  by_cases more : state.done < 7
  · rw [doneAt_old (oldStep_done more)]
  · rw [oldStep_through (Nat.le_of_not_lt more), doneAt, doneAt]
    omega

theorem bindsAt_old
    (rest : List Party)
    (number : Nat) :
    BindsAt bound state (.old :: rest) number ↔
      BindsAt bound (oldStep processes bound state) rest number :=
  imp_congr_right fun _ => reaches_old (by decide) rest number

theorem locksAt_old
    (rest : List Party)
    (number : Nat) :
    LocksAt bound state (.old :: rest) number ↔
      LocksAt bound (oldStep processes bound state) rest number :=
  or_congr
    (and_congr (reaches_old (by decide) rest number) (bindsAt_old rest (number + 7)))
    (reaches_old (Nat.le_refl 7) rest (number + 3))

theorem succeeds_old
    (silent : progress ≠ .listening)
    (rest : List Party) :
    Succeeds bound state (.old :: rest) progress ↔
      Succeeds bound (oldStep processes bound state) rest progress := by
  cases progress with
  | idle => exact locksAt_old rest 2
  | opening => exact locksAt_old rest 1
  | locking => exact locksAt_old rest 0
  | reopening => exact reaches_old (Nat.le_refl 7) rest 2
  | reading => exact reaches_old (Nat.le_refl 7) rest 1
  | checking => exact reaches_old (Nat.le_refl 7) rest 0
  | truncating => exact bindsAt_old rest 6
  | seeking => exact bindsAt_old rest 5
  | stamping => exact bindsAt_old rest 4
  | syncing => exact bindsAt_old rest 3
  | looking => exact bindsAt_old rest 2
  | clearing => exact bindsAt_old rest 1
  | binding => exact bindsAt_old rest 0
  | listening => exact absurd rfl silent
  | _ => exact Iff.rfl

/-- The old daemon may still remove the socket of the new one. -/
theorem succeeds_old_listening
    (dropped : 4 ≤ state.done)
    (rest : List Party) :
    Succeeds bound state (.old :: rest) .listening ↔
      Succeeds bound (oldStep processes bound state) rest .listening := by
  by_cases looks : state.done = 4
  · rw [oldStep_eq looks rfl]
    simp only [Succeeds, perform, looks]
    cases bound <;> simp
  by_cases removes : state.done = 5
  · rw [oldStep_eq removes rfl]
    simp only [Succeeds, perform, removes]
    simp
  by_cases exits : state.done = 6
  · rw [oldStep_eq exits rfl]
    simp only [Succeeds, perform, exits]
    simp
  · rw [oldStep_through (by omega)]
    exact Iff.rfl

theorem View.olds (view : View processes file state progress) :
    Leads processes bound file state (oldStep processes bound state) progress .old := by
  have late : state.done ≤ (oldStep processes bound state).done := by
    by_cases more : state.done < 7
    · rw [oldStep_done more]
      omega
    · rw [oldStep_through (Nat.le_of_not_lt more)]
  cases view with
  | waiting listed new untouched server unbound =>
    refine ⟨progress,
      .waiting listed (oldStep_new.trans new) untouched.olds
        (oldStep_server.trans server) unbound.olds,
      succeeds_old ?_⟩
    rintro rfl
    exact absurd listed.symm (Option.some_ne_none _)
  | removing new named fresh exited server unbound =>
    rw [oldStep_through exited]
    exact ⟨.removing, .removing new named fresh exited server unbound, fun _ => Iff.rfl⟩
  | openingAgain new named fresh exited server unbound =>
    rw [oldStep_through exited]
    exact ⟨.openingAgain, .openingAgain new named fresh exited server unbound, fun _ => Iff.rfl⟩
  | lockingAgain new free exited server unbound =>
    rw [oldStep_through exited]
    exact ⟨.lockingAgain, .lockingAgain new free exited server unbound, fun _ => Iff.rfl⟩
  | locked listed new dropped server unbound =>
    refine ⟨progress,
      .locked listed (oldStep_new.trans new) (dropped.trans late)
        (oldStep_server.trans server)
        (fun other => (unbound other).olds), ?_⟩
    by_cases listens : progress = .listening
    · subst listens
      exact succeeds_old_listening dropped
    · exact succeeds_old listens
  | failed new server =>
    exact ⟨.failed, .failed (oldStep_new.trans new) (oldStep_server.trans server), fun _ => Iff.rfl⟩

theorem View.handedOver_iff
    (view : View processes file state progress)
    (complete : Complete state) :
    HandedOver state ↔ Succeeds bound state [] progress := by
  obtain ⟨through, finished⟩ := complete
  have notFailed
      {phase : Phase}
      (new : state.lock.phase newDaemon = phase)
      (other : ∀ message, phase ≠ .failed message)
      (looks : state.server ≠ .listening)
      (works : state.server ≠ .failed) :
      False := by
    rcases finished with ⟨message, failed⟩ | listens | failed
    · exact other message (new.symm.trans failed)
    · exact looks listens
    · exact works failed
  cases view with
  | waiting listed new untouched server unbound =>
    refine (notFailed new ?_ (by simp [server]) (by simp [server])).elim
    rintro message rfl
    cases progress <;> simp [waitingPhase?] at listed
  | removing new named fresh exited server unbound
  | openingAgain new named fresh exited server unbound
  | lockingAgain new free exited server unbound =>
    exact (notFailed new (by simp) (by simp [server]) (by simp [server])).elim
  | @locked progress owned phase listed new dropped server unbound =>
    by_cases listens : progress = .listening
    · subst listens
      obtain rfl := Option.some.inj listed
      have late : 7 ≤ state.done := through
      constructor
      · rintro ⟨-, there⟩
        exact ⟨there, fun _ => by omega, fun early => by omega⟩
      · rintro ⟨there, -⟩
        exact ⟨⟨owned, new⟩, there⟩
    · refine (notFailed new ?_ ?_ ?_).elim
      · rintro message rfl
        cases progress <;> simp [lockedPhase?] at listed
      · rw [server]
        cases progress <;> simp [serverPhase] at listens ⊢
      · rw [server]
        cases progress <;> simp [serverPhase]
  | failed new server =>
    refine iff_of_false ?_ not_false
    rintro ⟨⟨owned, holds⟩, -⟩
    exact Phase.noConfusion (holds.symm.trans new)

theorem View.run_iff
    (schedule : List Party)
    (view : View processes file state progress)
    (complete : Complete (run processes bound schedule state)) :
    HandedOver (run processes bound schedule state) ↔ Succeeds bound state schedule progress := by
  induction schedule generalizing state progress with
  | nil => exact view.handedOver_iff complete
  | cons party rest ih =>
    have leads :
        Leads processes bound file state (step processes bound state party) progress party := by
      cases party with
      | old => exact view.olds
      | new => exact view.news
    obtain ⟨next, view, succeeds⟩ := leads
    exact (ih view complete).trans (succeeds rest).symm

theorem view_start
    (processes : Processes 2)
    (text : Option (List Char))
    (socket : Bool) :
    View processes (Files.start (Fin 2) text).openOrCreate.1
      (start processes text socket) .idle := by
  let started : InstanceLock.State 2 :=
    { files := .start (Fin 2) text
      phase := Function.update (fun _ => .idle) oldDaemon (.opening 1) }
  have opening : started.phase oldDaemon = .opening 1 :=
    Function.update_self oldDaemon _ fun _ => Phase.idle
  have starts :
      InstanceLock.run processes (goesOn oldDaemon 1) (InstanceLock.start 2 text) = started :=
    rfl
  have split : goesOn oldDaemon 7 = goesOn oldDaemon 1 ++ goesOn oldDaemon 6 := rfl
  have lock :
      (start processes text socket).lock =
        InstanceLock.run processes (goesOn oldDaemon 6) started := by
    rw [start, split, run_append, starts]
  rw [run_acquires opening rfl] at lock
  have old :
      (Files.start (Fin 2) text).openOrCreate.1 ≠
        (Files.start (Fin 2) text).openOrCreate.2.fresh := by
    cases text with
    | none => exact Nat.one_ne_zero ∘ Nat.succ.inj ∘ Eq.symm
    | some text => exact Nat.zero_ne_one
  refine .waiting rfl ?_ ⟨?_, ?_, ?_, ?_, ?_⟩ rfl ⟨?_, ?_⟩
  · rw [lock]
    simp [started]
  · rw [lock]
    exact Function.update_self oldDaemon _ started.phase
  · rw [lock]
    exact openOrCreate_named
  · rw [lock]
    exact Function.update_self ..
  · rw [lock]
    exact Function.update_self ..
  · rw [lock]
    exact Function.update_of_ne old.symm ..
  · exact fun late => absurd late (Nat.not_succ_le_zero 0)
  · exact fun late => absurd late (Nat.not_succ_le_zero 1)

theorem doneBefore_iff
    (schedule : List Party)
    (number : Nat) :
    (DoneBefore schedule .dropLock number ↔
        4 ≤ oldBefore number schedule) ∧
      (DoneBefore schedule .lookIfBound number ↔ 5 ≤ oldBefore number schedule) ∧
      (DoneBefore schedule .exit number ↔ 7 ≤ oldBefore number schedule) := by
  have few :
      ∀ count : Fin 8,
        (.dropLock ∈ oldSteps.take count.val ↔ 4 ≤ count.val) ∧
          (.lookIfBound ∈ oldSteps.take count.val ↔ 5 ≤ count.val) ∧
          (.exit ∈ oldSteps.take count.val ↔ 7 ≤ count.val) := by
    decide
  rw [DoneBefore, DoneBefore, DoneBefore]
  by_cases small : oldBefore number schedule < 8
  · exact few ⟨_, small⟩
  · have all : oldSteps.take (oldBefore number schedule) = oldSteps :=
      List.take_of_length_le (Nat.le_trans (show 7 ≤ 8 by decide) (Nat.le_of_not_lt small))
    rw [all]
    refine ⟨iff_of_true (by decide) ?_, iff_of_true (by decide) ?_,
      iff_of_true (by decide) ?_⟩ <;> omega

end Course

/--
A complete restart leaves the new daemon with the lock and a socket exactly
when the old daemon has dropped its lock file before the new one tries the
lock, and its server has looked for the socket the last time before the new
one binds it; or when the old process is gone by the time its PID is checked.
-/
theorem restart_hands_over_iff
    (processes : Processes 2)
    (bound : Bool)
    (text : Option (List Char))
    (socket : Bool)
    (schedule : List Party)
    (complete : Complete (run processes bound schedule (start processes text socket))) :
    HandedOver (run processes bound schedule (start processes text socket)) ↔
      (DoneBefore schedule .dropLock 2 ∧
          (bound = true → DoneBefore schedule .lookIfBound 9)) ∨
        DoneBefore schedule .exit 5 := by
  refine ((view_start processes text socket).run_iff schedule complete).trans ?_
  rw [(doneBefore_iff schedule 2).1, (doneBefore_iff schedule 9).2.1,
    (doneBefore_iff schedule 5).2.2, Succeeds, LocksAt, BindsAt, doneAt,
    doneAt, doneAt]
  simp [start]

/-- The new daemon starts when the old one is gone. -/
def oneAfterTheOther : List Party :=
  List.replicate 7 .old ++ List.replicate 10 .new

theorem restart_hands_over_iff_oneAfterTheOther :
    HandedOver (run twoDaemons true oneAfterTheOther (start twoDaemons none true)) :=
  (restart_hands_over_iff twoDaemons true none true oneAfterTheOther
    ⟨by decide, .inr (.inl (by decide))⟩).mpr (.inr (by decide))

/-- The new daemon is faster than the pause of the old one. -/
def fastChild : State :=
  run twoDaemons true (List.replicate 6 .new ++ List.replicate 7 .old) (start twoDaemons none true)

/-- It comes between the end of `run_daemon_mode` and that of the process. -/
def earlyChild : State :=
  run twoDaemons true
    (List.replicate 4 .old ++ List.replicate 10 .new ++ List.replicate 3 .old)
    (start twoDaemons none true)

/-- One does not get the lock, and the other one loses its socket. -/
theorem restart_loses :
    fastChild.done = 7 ∧
      fastChild.lock.phase newDaemon = .failed "Another instance is already running (PID 4242)" ∧
      earlyChild.done = 7 ∧
      earlyChild.lock.phase newDaemon = .holding 1 ∧
      earlyChild.server = .listening ∧
      earlyChild.socket = false := by
  decide +kernel

end Shroud.RestartHandover
