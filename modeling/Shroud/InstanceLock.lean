import Mathlib.Data.Fintype.Basic
import Shroud.AddressText
import Shroud.AdvisoryLock
import Shroud.TextSearch

namespace Shroud.InstanceLock

open AdvisoryLock

/-!
# One daemon at a time

`acquire_instance_lock` takes an exclusive lock on a file and writes the PID
into it.  When the lock is taken it reads the PID; if no such process runs it
unlinks the file and tries once more.  A lock is given up when its process
ends, so a lock that is taken has a living owner: the PID is that of somebody
else whenever the owner has not written its own yet.
-/

/-- Processes with the PIDs they run under, among others that keep running. -/
structure Processes (count : Nat) where
  pid : Fin count → Nat
  /-- What `kill` finds besides these processes. -/
  others : Nat → Bool
  positive : ∀ process, 0 < pid process
  bounded : ∀ process, pid process < 2 ^ 32
  distinct : Function.Injective pid
  apart : ∀ process, others (pid process) = false

/-- Where a process is in `acquire_instance_lock_inner`. -/
inductive Phase where
  | idle
  | opening (retriesLeft : Nat)
  | locking (retriesLeft : Nat) (file : Inode)
  /-- The lock is taken, and the file is opened by its name. -/
  | reopening (retriesLeft : Nat) (file : Inode)
  | reading (retriesLeft : Nat) (file opened : Inode)
  | checking (retriesLeft : Nat) (file : Inode) (pid : Nat)
  | removing (retriesLeft : Nat)
  | truncating (file : Inode)
  | seeking (file : Inode)
  | stamping (file : Inode)
  | syncing (file : Inode)
  | holding (file : Inode)
  | failed (message : String)
  /-- The file of a successful call has been dropped. -/
  | released
  | exited
  deriving Repr, DecidableEq

namespace Phase

def file? : Phase → Option Inode
  | locking _ file => some file
  | reopening _ file => some file
  | reading _ file _ => some file
  | checking _ file _ => some file
  | truncating file => some file
  | seeking file => some file
  | stamping file => some file
  | syncing file => some file
  | holding file => some file
  | _ => none

def locked? : Phase → Option Inode
  | truncating file => some file
  | seeking file => some file
  | stamping file => some file
  | syncing file => some file
  | holding file => some file
  | _ => none

/-- The process was refused the lock and looks for its owner. -/
def isRefused : Phase → Bool
  | reopening _ _ => true
  | reading _ _ _ => true
  | checking _ _ _ => true
  | _ => false

def isLive : Phase → Bool
  | idle => false
  | exited => false
  | _ => true

end Phase

/-- `contents.trim().parse::<u32>()`. -/
def readPid? (contents : List Char) : Option Nat :=
  AddressText.parseU32? (Text.trim contents)

/-- What a process writes into the file. -/
def pidText (pid : Nat) : List Char :=
  (toString pid).toList

variable {pid : Nat}

theorem readPid?_pidText (bounded : pid < 2 ^ 32) :
    readPid? (pidText pid) = some pid := by
  have visible : ∀ c ∈ pidText pid, Text.isWhitespace c = false := by
    intro c member
    rw [pidText, Nat.toString_eq_repr, Nat.toList_repr] at member
    exact Text.isWhitespace_of_isDigit (Nat.isDigit_of_mem_toDigits (by decide) (by decide) member)
  rw [readPid?, Text.trim_of_visible visible]
  exact AddressText.parseU32?_toString bounded

theorem readPid?_nil : readPid? [] = none :=
  rfl

section Acquire

variable
  {count : Nat}
  (processes : Processes count)

/-- The lock file, and where each process is. -/
structure State (count : Nat) where
  files : Files (Fin count)
  phase : Fin count → Phase

/-- `is_process_running`. -/
def isProcessRunning (state : State count) (pid : Nat) : Bool :=
  pid != 0 &&
    (processes.others pid ||
      decide (∃ process, processes.pid process = pid ∧ (state.phase process).isLive = true))

/--
The next operation of a process, which may end with an error of the operating
system: the phase after it and the files.
-/
def operate
    (process : Fin count)
    (error : Option String)
    (state : State count) :
    Phase × Files (Fin count) :=
  let files := state.files
  match state.phase process with
  | .idle => (.opening 1, files)
  | .opening retriesLeft =>
    match error with
    | some reason => (.failed ("Failed to open lock file: " ++ reason), files)
    | none =>
      let (file, opened) := files.openOrCreate
      (.locking retriesLeft file, opened)
  | .locking retriesLeft file =>
    match error with
    | some reason => (.failed ("Failed to acquire lock: " ++ reason), files)
    | none =>
      match files.lock? process file with
      | some locked => (.truncating file, locked)
      | none => (.reopening retriesLeft file, files)
  | .reopening retriesLeft file =>
    match error, files.named with
    | none, some opened => (.reading retriesLeft file opened, files)
    | _, _ => (.failed "Another instance is already running", files)
  | .reading retriesLeft file opened =>
    match readPid? (if error = none then files.content opened else []) with
    | some pid => (.checking retriesLeft file pid, files)
    | none => (.failed "Another instance is already running", files)
  | .checking retriesLeft _ pid =>
    if isProcessRunning processes state pid then
      (.failed ("Another instance is already running (PID " ++ toString pid ++ ")"), files)
    else if retriesLeft = 0 then
      (.failed "Stale lock file persists after retry", files)
    else
      (.removing retriesLeft, files)
  | .removing retriesLeft =>
    match error, files.named with
    | none, some _ => (.opening (retriesLeft - 1), files.unlink)
    | some reason, _ =>
      (.failed ("Failed to remove stale lock: " ++ reason), files)
    | none, none =>
      (.failed ("Failed to remove stale lock: No such file or directory " ++ "(os error 2)"), files)
  | .truncating file =>
    match error with
    | some reason =>
      (.failed ("Failed to truncate lock file: " ++ reason), files.release process)
    | none => (.seeking file, files.write file [])
  | .seeking file =>
    match error with
    | some reason =>
      (.failed ("Failed to seek: " ++ reason), files.release process)
    | none => (.stamping file, files)
  | .stamping file =>
    match error with
    | some reason =>
      (.failed ("Failed to write PID: " ++ reason), files.release process)
    | none =>
      (.syncing file, files.write file (pidText (processes.pid process)))
  | .syncing file =>
    match error with
    | some reason =>
      (.failed ("Failed to sync: " ++ reason), files.release process)
    | none => (.holding file, files)
  | .holding file => (.holding file, files)
  | .failed message => (.failed message, files)
  | .released => (.released, files)
  | .exited => (.exited, files)

/-- A process goes on, drops its file, or ends for whatever reason. -/
inductive Action where
  | operate (error : Option String)
  | drop
  | exit
  deriving Repr, DecidableEq

/-- The state after an action of a process. -/
def act (state : State count) (process : Fin count) : Action → State count
  | .operate error =>
    let (phase, files) := operate processes process error state
    { files := files, phase := Function.update state.phase process phase }
  | .drop =>
    match state.phase process with
    | .holding _ =>
      { files := state.files.release process
        phase := Function.update state.phase process .released }
    | _ => state
  | .exit =>
    { files := state.files.release process
      phase := Function.update state.phase process .exited }

def run (actions : List (Fin count × Action)) (state : State count) :
    State count :=
  actions.foldl (fun state action => act processes state action.1 action.2) state

/-- A lock file with some content, or none, and no process yet. -/
def start (count : Nat) (text : Option (List Char)) : State count where
  files := .start (Fin count) text
  phase := fun _ => .idle

/-- A process has got `Ok`, and lives. -/
def Holds (state : State count) (process : Fin count) : Prop :=
  ∃ file, state.phase process = .holding file

/-- At most one process has got `Ok`. -/
def AtMostOne (state : State count) : Prop :=
  ∀ first second, Holds state first → Holds state second → first = second

/-- The file at the start names a process that does not run. -/
def StaleAtStart (text : Option (List Char)) : Prop :=
  ∃ pid,
    text.bind readPid? = some pid ∧
      (pid = 0 ∨ processes.others pid = false ∧ ∀ process, processes.pid process ≠ pid)

variable {retriesLeft : Nat}

section Runs

variable {processes} {state : State count} {process : Fin count}

theorem run_append (first second : List (Fin count × Action)) :
    run processes (first ++ second) state = run processes second (run processes first state) :=
  List.foldl_append

/-- A process that goes on without errors. -/
def goesOn (process : Fin count) (times : Nat) :
    List (Fin count × Action) :=
  List.replicate times (process, .operate none)

theorem run_acquires
    (opening : state.phase process = .opening retriesLeft)
    (free : state.files.holder state.files.openOrCreate.1 = none) :
    run processes (goesOn process 6) state =
      { files :=
          { state.files.openOrCreate.2 with
            content :=
              Function.update state.files.openOrCreate.2.content
                state.files.openOrCreate.1
                (pidText (processes.pid process))
            holder :=
              Function.update state.files.holder
                state.files.openOrCreate.1 (some process) }
        phase :=
          Function.update state.phase process
            (.holding state.files.openOrCreate.1) } := by
  simp [goesOn, List.replicate, run, act, operate, opening, Files.lock?, free, Files.write]

/-- No process other than the given one answers to a PID. -/
def Unanswered
    (processes : Processes count)
    (state : State count)
    (process : Fin count)
    (pid : Nat) :
    Prop :=
  pid = 0 ∨
    processes.others pid = false ∧
      ∀ other, processes.pid other = pid → other ≠ process ∧ (state.phase other).isLive = false

theorem isProcessRunning_of_unanswered
    (unanswered : Unanswered processes state process pid)
    (phase : Phase)
    (files : Files (Fin count)) :
    isProcessRunning processes ⟨files, Function.update state.phase process phase⟩ pid = false := by
  rw [isProcessRunning]
  rcases unanswered with rfl | ⟨noOther, none⟩
  · rfl
  · have noOne :
        ¬∃ other,
          processes.pid other = pid ∧
            (Function.update state.phase process phase other).isLive = true := by
      rintro ⟨other, same, live⟩
      obtain ⟨apart, dead⟩ := none other same
      rw [Function.update_of_ne apart, dead] at live
      exact Bool.false_ne_true live
    rw [noOther, Bool.false_or]
    simp [noOne]

section

variable {file : Inode} (idle : state.phase process = .idle) (named : state.files.named = some file)

include idle named

/-- A process that is refused and reads a PID of nobody takes the name away. -/
theorem run_breaksIn
    {owner : Fin count}
    (taken : state.files.holder file = some owner)
    (read : readPid? (state.files.content file) = some pid)
    (unanswered : Unanswered processes state process pid) :
    run processes (goesOn process 7) state =
      { files := state.files.unlink
        phase := Function.update state.phase process (.opening 0) } := by
  have dead := isProcessRunning_of_unanswered unanswered
  simp [goesOn, List.replicate, run, act, operate, idle, named,
    openOrCreate_of_named named, Files.lock?, taken, read, dead]

theorem run_locks (free : state.files.holder file = none) :
    run processes (goesOn process 3) state =
      { files :=
          { state.files with
            holder :=
              Function.update state.files.holder file (some process) }
        phase := Function.update state.phase process (.truncating file) } := by
  simp [goesOn, List.replicate, run, act, operate, idle, named,
    openOrCreate_of_named named, Files.lock?, free]

end

theorem run_stamps
    {file : Inode}
    (truncating : state.phase process = .truncating file) :
    (run processes (goesOn process 4) state).phase =
      Function.update state.phase process (.holding file) := by
  simp [goesOn, List.replicate, run, act, operate, truncating]

/-- With a PID of nobody in the file, two processes get `Ok`. -/
theorem breaks_of_stale
    {first second : Fin count}
    (two : first ≠ second)
    {file : Inode}
    {pid : Nat}
    (idleFirst : state.phase first = .idle)
    (idleSecond : state.phase second = .idle)
    (named : state.files.named = some file)
    (old : file ≠ state.files.fresh)
    (free : ∀ inode, state.files.holder inode = none)
    (read : readPid? (state.files.content file) = some pid)
    (nobody :
      pid = 0 ∨
        processes.others pid = false ∧
          ∀ other, processes.pid other = pid →
            other ≠ first ∧ other ≠ second ∧ (state.phase other).isLive = false) :
    ∃ actions, ¬AtMostOne (run processes actions state) := by
  refine ⟨goesOn first 3 ++ (goesOn second 7 ++ (goesOn second 6 ++ goesOn first 4)), ?_⟩
  let locked : State count :=
    { files :=
        { state.files with
          holder := Function.update state.files.holder file (some first) }
      phase := Function.update state.phase first (.truncating file) }
  let unlinked : State count :=
    { files := locked.files.unlink
      phase := Function.update locked.phase second (.opening 0) }
  have unanswered : Unanswered processes locked second pid := by
    refine nobody.imp_right (And.imp_right fun none other same => ?_)
    obtain ⟨notFirst, notSecond, dead⟩ := none other same
    refine ⟨notSecond, ?_⟩
    rw [← dead]
    exact congrArg Phase.isLive (Function.update_of_ne notFirst _ _)
  have stillIdle : locked.phase second = .idle :=
    (Function.update_of_ne two.symm _ _).trans idleSecond
  have taken : locked.files.holder file = some first := Function.update_self ..
  have freshFree : unlinked.files.holder state.files.fresh = none :=
    (Function.update_of_ne old.symm _ _).trans (free _)
  have retries : unlinked.phase second = .opening 0 := Function.update_self ..
  rw [run_append, run_locks idleFirst named (free file), run_append]
  change ¬AtMostOne (run processes (goesOn second 6 ++ goesOn first 4)
    (run processes (goesOn second 7) locked))
  rw [run_breaksIn stillIdle named taken read unanswered, run_append]
  change ¬AtMostOne (run processes (goesOn first 4) (run processes (goesOn second 6) unlinked))
  rw [run_acquires retries freshFree]
  have waits :
      Function.update unlinked.phase second (.holding state.files.fresh)
        first = .truncating file := by
    rw [Function.update_of_ne two]
    exact (Function.update_of_ne two _ _).trans (Function.update_self ..)
  intro atMostOne
  refine two (atMostOne first second ⟨file, ?_⟩ ⟨state.files.fresh, ?_⟩)
  · rw [run_stamps waits]
    exact Function.update_self ..
  · rw [run_stamps waits, Function.update_of_ne two.symm]
    exact Function.update_self ..

theorem run_comesAndGoes
    (process : Fin count)
    (text : Option (List Char)) :
    let left := run processes (goesOn process 7 ++ [(process, .exit)]) (start count text)
    ∃ file,
      left.files.named = some file ∧
        file ≠ left.files.fresh ∧
        left.files.content file = pidText (processes.pid process) ∧
        (∀ inode, left.files.holder inode = none) ∧
        left.phase = Function.update (fun _ => .idle) process .exited := by
  let started : State count :=
    { files := .start (Fin count) text
      phase := Function.update (fun _ => .idle) process (.opening 1) }
  have opening : started.phase process = .opening 1 :=
    Function.update_self process _ fun _ => Phase.idle
  have starts : run processes (goesOn process 1) (start count text) = started :=
    rfl
  have split :
      goesOn process 7 ++ [(process, .exit)] =
        goesOn process 1 ++ (goesOn process 6 ++ [(process, .exit)]) :=
    rfl
  rw [split, run_append, starts, run_append, run_acquires opening rfl]
  refine ⟨(Files.start (Fin count) text).openOrCreate.1,
    openOrCreate_named, ?_, Function.update_self .., ?_, ?_⟩
  · cases text with
    | none => exact Nat.one_ne_zero ∘ Nat.succ.inj ∘ Eq.symm
    | some text => exact Nat.zero_ne_one
  · intro inode
    refine Option.eq_none_iff_forall_ne_some.mpr ?_
    intro owner held
    obtain ⟨held, other⟩ := release_holder.mp held
    change
      Function.update (fun _ => none)
        (Files.start (Fin count) text).openOrCreate.1 (some process) inode = some owner at held
    by_cases same : inode = (Files.start (Fin count) text).openOrCreate.1
    · rw [same, Function.update_self] at held
      exact other (Option.some.inj held).symm
    · rw [Function.update_of_ne same] at held
      exact Option.some_ne_none _ held.symm
  · change
      Function.update
        (Function.update (Function.update (fun _ => Phase.idle) process (.opening 1)) process _)
        process .exited = _
    rw [Function.update_idem, Function.update_idem]

theorem breaks_of_three
    {first second third : Fin count}
    (two : first ≠ second)
    (notFirst : third ≠ first)
    (notSecond : third ≠ second)
    (text : Option (List Char)) :
    ∃ actions, ¬AtMostOne (run processes actions (start count text)) := by
  obtain ⟨file, named, old, written, free, phases⟩ := @run_comesAndGoes count processes third text
  have idle
      {process : Fin count}
      (other : third ≠ process) :
      Function.update (fun _ => Phase.idle) third .exited process = .idle :=
    Function.update_of_ne other.symm ..
  obtain ⟨actions, two⟩ :=
    breaks_of_stale two (by rw [phases]; exact idle notFirst)
      (by rw [phases]; exact idle notSecond) named old free
      (by rw [written]; exact readPid?_pidText (processes.bounded third))
      (.inr ⟨processes.apart third, by
        intro other same
        obtain rfl := processes.distinct same
        refine ⟨notFirst, notSecond, ?_⟩
        rw [phases, Function.update_self]
        rfl⟩)
  refine ⟨goesOn third 7 ++ [(third, .exit)] ++ actions, ?_⟩
  rw [run_append]
  exact two

theorem breaks_of_staleAtStart
    {first second : Fin count}
    (two : first ≠ second)
    {text : Option (List Char)}
    (stale : StaleAtStart processes text) :
    ∃ actions, ¬AtMostOne (run processes actions (start count text)) := by
  obtain ⟨pid, read, nobody⟩ := stale
  obtain ⟨contents, rfl, parsed⟩ := Option.bind_eq_some_iff.mp read
  refine @breaks_of_stale count processes (start count (some contents)) first
    second two 0 pid rfl rfl rfl Nat.zero_ne_one (fun _ => rfl) parsed ?_
  refine nobody.imp_right (And.imp_right fun none other same => ?_)
  exact absurd same (none other)

end Runs

section Pair

variable {processes} {state : State count}

/-- A PID that belongs to somebody. -/
def Known (processes : Processes count) (pid : Nat) : Prop :=
  pid ≠ 0 ∧ (processes.others pid = true ∨ ∃ process, processes.pid process = pid)

/-- What two processes keep, as long as the file names somebody. -/
structure Paired (processes : Processes count) (state : State count) :
    Prop where
  holders :
    ∀ inode process,
      state.files.holder inode = some process ↔ (state.phase process).locked? = some inode
  written : ∀ inode pid, readPid? (state.files.content inode) = some pid → Known processes pid
  read :
    ∀ process retriesLeft file pid,
      state.phase process = .checking retriesLeft file pid → Known processes pid
  /-- Who was refused has seen somebody. -/
  refused :
    ∀ process,
      (state.phase process).isRefused = true → ∃ other, other ≠ process ∧ state.phase other ≠ .idle
  /-- Who takes the name away is alone. -/
  alone :
    ∀ process retriesLeft,
      state.phase process = .removing retriesLeft →
        ∃ other, other ≠ process ∧ state.phase other = .exited
  /-- As long as both are there, they have the same file. -/
  same :
    (∀ process, state.phase process ≠ .exited) →
      ∀ process file, (state.phase process).file? = some file → state.files.named = some file

variable {process : Fin count} {phase : Phase} {files : Files (Fin count)}

section Invariant

variable (paired : Paired processes state)

include paired

theorem Paired.moves
    (holders :
      ∀ inode other,
        files.holder inode = some other ↔
          (Function.update state.phase process phase other).locked? = some inode)
    (written : ∀ inode pid, readPid? (files.content inode) = some pid → Known processes pid)
    (started : phase ≠ .idle)
    (left : state.phase process = .exited → phase = .exited)
    (read : ∀ retriesLeft file pid, phase = .checking retriesLeft file pid → Known processes pid)
    (refused : phase.isRefused = true → ∃ other, other ≠ process ∧ state.phase other ≠ .idle)
    (alone :
      ∀ retriesLeft,
        phase = .removing retriesLeft → ∃ other, other ≠ process ∧ state.phase other = .exited)
    (same :
      (∀ other, Function.update state.phase process phase other ≠ .exited) →
        ∀ other file,
          (Function.update state.phase process phase other).file? =
              some file →
            files.named = some file) :
    Paired processes ⟨files, Function.update state.phase process phase⟩ := by
  have moved : Function.update state.phase process phase process = phase := Function.update_self ..
  have rests
      {other : Fin count}
      (elsewhere : other ≠ process) :
      Function.update state.phase process phase other = state.phase other :=
    Function.update_of_ne elsewhere ..
  refine ⟨holders, written, ?_, ?_, ?_, same⟩
  · intro other retriesLeft file pid checking
    by_cases own : other = process
    · subst own
      exact read _ _ _ (moved.symm.trans checking)
    · exact paired.read _ _ _ _ ((rests own).symm.trans checking)
  · intro other isRefused
    by_cases own : other = process
    · subst own
      obtain ⟨seen, elsewhere, here⟩ :=
        refused ((congrArg Phase.isRefused moved).symm.trans isRefused)
      exact ⟨seen, elsewhere, fun idle =>
        here ((rests elsewhere).symm.trans idle)⟩
    · obtain ⟨seen, elsewhere, here⟩ :=
        paired.refused other ((congrArg Phase.isRefused (rests own)).symm.trans isRefused)
      by_cases seenOwn : seen = process
      · subst seenOwn
        exact ⟨seen, elsewhere, fun idle => started (moved.symm.trans idle)⟩
      · exact ⟨seen, elsewhere, fun idle =>
          here ((rests seenOwn).symm.trans idle)⟩
  · intro other retriesLeft removing
    by_cases own : other = process
    · subst own
      obtain ⟨gone, elsewhere, exited⟩ := alone retriesLeft (moved.symm.trans removing)
      exact ⟨gone, elsewhere, (rests elsewhere).trans exited⟩
    · obtain ⟨gone, elsewhere, exited⟩ :=
        paired.alone other retriesLeft ((rests own).symm.trans removing)
      by_cases goneOwn : gone = process
      · subst goneOwn
        exact ⟨gone, elsewhere, moved.trans (left exited)⟩
      · exact ⟨gone, elsewhere, (rests goneOwn).trans exited⟩

theorem Paired.holders_of_same
    (locked : phase.locked? = (state.phase process).locked?)
    (inode : Inode)
    (other : Fin count) :
    state.files.holder inode = some other ↔
      (Function.update state.phase process phase other).locked? = some inode := by
  rw [paired.holders]
  by_cases own : other = process
  · rw [own, Function.update_self, locked]
  · rw [Function.update_of_ne own]

theorem Paired.holders_of_release
    (unlocked : phase.locked? = none)
    (inode : Inode)
    (other : Fin count) :
    (state.files.release process).holder inode = some other ↔
      (Function.update state.phase process phase other).locked? = some inode := by
  rw [release_holder, paired.holders]
  by_cases own : other = process
  · rw [own, Function.update_self, unlocked]
    simp
  · rw [Function.update_of_ne own]
    exact and_iff_left own

theorem Paired.same_of_same
    (here : state.phase process ≠ .exited)
    (named : files.named = state.files.named)
    (file : ∀ inode, phase.file? = some inode → (state.phase process).file? = some inode)
    (both : ∀ other, Function.update state.phase process phase other ≠ .exited)
    (other : Fin count)
    (inode : Inode)
    (opened : (Function.update state.phase process phase other).file? = some inode) :
    files.named = some inode := by
  have all : ∀ other, state.phase other ≠ .exited := by
    intro other
    by_cases own : other = process
    · exact own ▸ here
    · have stays := both other
      rw [Function.update_of_ne own] at stays
      exact stays
  rw [named]
  by_cases own : other = process
  · subst own
    rw [Function.update_self] at opened
    exact paired.same all _ _ (file _ opened)
  · rw [Function.update_of_ne own] at opened
    exact paired.same all _ _ opened

theorem Paired.closes
    (here : state.phase process ≠ .exited)
    (closed : phase = .released ∨ ∃ message, phase = .failed message) :
    Paired processes ⟨state.files.release process, Function.update state.phase process phase⟩ := by
  rcases closed with rfl | ⟨message, rfl⟩
  all_goals
    refine paired.moves (paired.holders_of_release rfl) paired.written
      (by simp) (fun gone => absurd gone here) (by simp)
      (by simp [Phase.isRefused]) (by simp) ?_
    exact paired.same_of_same here rfl (by simp [Phase.file?])

theorem Paired.exits :
    Paired processes
      ⟨state.files.release process, Function.update state.phase process .exited⟩ := by
  refine paired.moves (paired.holders_of_release rfl) paired.written
    (by simp) (fun _ => rfl) (by simp) (by simp [Phase.isRefused])
    (by simp) ?_
  intro both
  exact absurd (Function.update_self ..) (both process)

variable (phase) in
theorem Paired.goes
    (here : state.phase process ≠ .exited)
    (started : phase ≠ .idle)
    (locked : phase.locked? = (state.phase process).locked?)
    (file : ∀ inode, phase.file? = some inode → (state.phase process).file? = some inode)
    (read : ∀ retriesLeft file pid, phase = .checking retriesLeft file pid → Known processes pid)
    (refused : phase.isRefused = true → ∃ other, other ≠ process ∧ state.phase other ≠ .idle)
    (alone :
      ∀ retriesLeft,
        phase = .removing retriesLeft → ∃ other, other ≠ process ∧ state.phase other = .exited)
    {content : Inode → List Char}
    (written : ∀ inode pid, readPid? (content inode) = some pid → Known processes pid) :
    Paired processes
      ⟨{ state.files with content := content }, Function.update state.phase process phase⟩ :=
  paired.moves (paired.holders_of_same locked) written started
    (fun gone => absurd gone here) read refused alone
    (paired.same_of_same here rfl file)

theorem Paired.fails
    (was : state.phase process = phase)
    (here : phase ≠ .exited)
    (unlocked : phase.locked? = none)
    (message : String) :
    Paired processes ⟨state.files, Function.update state.phase process (.failed message)⟩ := by
  subst was
  exact paired.goes (.failed message) here (by simp) unlocked.symm
    (by simp [Phase.file?]) (by simp) (by simp [Phase.isRefused]) (by simp)
    paired.written

theorem Paired.alone_of_checked
    (pair : ∀ first second third : Fin count, second ≠ first → third ≠ first → second = third)
    {file : Inode}
    (checking : state.phase process = .checking retriesLeft file pid)
    (dead : isProcessRunning processes state pid = false) :
    ∃ other, other ≠ process ∧ state.phase other = .exited := by
  obtain ⟨notZero, owner⟩ := paired.read _ _ _ _ checking
  rw [isProcessRunning, Bool.and_eq_false_iff, Bool.or_eq_false_iff,
    decide_eq_false_iff_not] at dead
  obtain ⟨noOther, noOne⟩ := dead.resolve_left (by simpa using notZero)
  obtain ⟨other, same⟩ := owner.resolve_left (by simp [noOther])
  have notLive : (state.phase other).isLive = false := by
    refine Bool.eq_false_iff.mpr fun live => noOne ⟨other, same, live⟩
  have elsewhere : other ≠ process := by
    rintro rfl
    rw [checking] at notLive
    exact Bool.noConfusion notLive
  obtain ⟨seen, seenElsewhere, started⟩ := paired.refused process (by rw [checking]; rfl)
  obtain rfl := pair _ _ _ seenElsewhere elsewhere
  refine ⟨seen, elsewhere, ?_⟩
  cases phase : state.phase seen with
  | idle => exact absurd phase started
  | exited => rfl
  | _ =>
    rw [phase] at notLive
    exact Bool.noConfusion notLive

theorem Paired.locks
    {file : Inode}
    (locking : state.phase process = .locking retriesLeft file)
    (free : state.files.holder file = none) :
    Paired processes
      ⟨{ state.files with
          holder := Function.update state.files.holder file (some process) },
        Function.update state.phase process (.truncating file)⟩ := by
  have here : state.phase process ≠ .exited := by
    rw [locking]
    simp
  refine paired.moves ?_ paired.written (by simp)
    (fun gone => absurd gone here) (by simp) (by simp [Phase.isRefused])
    (by simp) (paired.same_of_same here rfl ?_)
  · intro inode other
    change Function.update state.files.holder file (some process) inode = some other ↔ _
    by_cases taken : inode = file
    · rw [taken, Function.update_self]
      by_cases own : other = process
      · rw [own, Function.update_self]
        simp [Phase.locked?]
      · rw [Function.update_of_ne own, ← paired.holders, free]
        simp [Ne.symm own]
    · rw [Function.update_of_ne taken, paired.holders]
      by_cases own : other = process
      · rw [own, Function.update_self, locking]
        simp [Phase.locked?, Ne.symm taken]
      · rw [Function.update_of_ne own]
  · intro inode opened
    rw [locking]
    exact opened

theorem Paired.opens (opening : state.phase process = .opening retriesLeft) :
    Paired processes
      ⟨state.files.openOrCreate.2,
        Function.update state.phase process (.locking retriesLeft state.files.openOrCreate.1)⟩ := by
  have here : state.phase process ≠ .exited := by
    rw [opening]
    simp
  refine paired.moves ?_ ?_ (by simp) (fun gone => absurd gone here)
    (by simp) (by simp [Phase.isRefused]) (by simp) ?_
  · intro inode other
    rw [openOrCreate_holder]
    refine paired.holders_of_same ?_ inode other
    rw [opening]
    rfl
  · intro inode
    refine openOrCreate_content
      (fun text => ∀ pid, readPid? text = some pid → Known processes pid)
      ?_ paired.written inode
    intro pid read
    rw [readPid?_nil] at read
    exact absurd read.symm (Option.some_ne_none pid)
  · intro both other file opened
    by_cases own : other = process
    · rw [own, Function.update_self] at opened
      rw [openOrCreate_named, ← opened]
      rfl
    · rw [Function.update_of_ne own] at opened
      have all : ∀ other, state.phase other ≠ .exited := by
        intro other
        by_cases own : other = process
        · exact own ▸ here
        · have stays := both other
          rw [Function.update_of_ne own] at stays
          exact stays
      have named := paired.same all _ _ opened
      rw [openOrCreate_of_named named]
      exact named

theorem Paired.refuses
    {file : Inode}
    (locking : state.phase process = .locking retriesLeft file)
    {owner : Fin count}
    (held : state.files.holder file = some owner) :
    Paired processes
      ⟨state.files, Function.update state.phase process (.reopening retriesLeft file)⟩ := by
  have has := (paired.holders file owner).mp held
  refine paired.goes (.reopening retriesLeft file) ?_ ?_ ?_ ?_ ?_ ?_ ?_ paired.written
  · simp [locking]
  · simp
  · rw [locking]
    rfl
  · rw [locking]
    exact fun _ opened => opened
  · simp
  · intro _
    refine ⟨owner, ?_, ?_⟩
    · rintro rfl
      rw [locking] at has
      exact Option.some_ne_none _ has.symm
    · intro idle
      rw [idle] at has
      exact Option.some_ne_none _ has.symm
  · simp

theorem Paired.looks
    (isRefused : (state.phase process).isRefused = true)
    (still : phase.isRefused = true)
    (file : phase.file? = (state.phase process).file?)
    (read : ∀ retriesLeft file pid, phase = .checking retriesLeft file pid → Known processes pid) :
    Paired processes ⟨state.files, Function.update state.phase process phase⟩ := by
  have unlocked
      {phase : Phase}
      (isRefused : phase.isRefused = true) :
      phase.locked? = none := by
    cases phase <;> first | rfl | exact Bool.noConfusion isRefused
  refine paired.goes phase ?_ ?_ ?_ ?_ read ?_ ?_ paired.written
  · intro exited
    rw [exited] at isRefused
    exact Bool.noConfusion isRefused
  · rintro rfl
    exact Bool.noConfusion still
  · rw [unlocked isRefused, unlocked still]
  · intro inode opened
    exact file ▸ opened
  · exact fun _ => paired.refused process isRefused
  · rintro retriesLeft rfl
    exact Bool.noConfusion still

theorem Paired.unlinks
    (removing : state.phase process = .removing retriesLeft) :
    Paired processes
      ⟨state.files.unlink, Function.update state.phase process (.opening (retriesLeft - 1))⟩ := by
  obtain ⟨gone, elsewhere, exited⟩ := paired.alone _ _ removing
  refine paired.moves (paired.holders_of_same ?_) paired.written (by simp)
    ?_ (by simp) (by simp [Phase.isRefused]) (by simp) ?_
  · rw [removing]
    rfl
  · intro exited
    rw [removing] at exited
    exact Phase.noConfusion exited
  · intro both
    have stays := both gone
    rw [Function.update_of_ne elsewhere] at stays
    exact absurd exited stays

theorem Paired.writes
    {file : Inode}
    (has : (state.phase process).locked? = some file)
    (keeps : phase.locked? = some file)
    {content : Inode → List Char}
    (written : ∀ inode pid, readPid? (content inode) = some pid → Known processes pid) :
    Paired processes
      ⟨{ state.files with content := content }, Function.update state.phase process phase⟩ := by
  have opened
      {phase : Phase}
      (locked : phase.locked? = some file) :
      phase.file? = some file := by
    cases phase <;>
      first | exact locked | exact absurd locked.symm (Option.some_ne_none _)
  have others
      {phase other : Phase}
      (locked : phase.locked? = some file)
      (unlocked : other.locked? = none) :
      phase ≠ other := by
    rintro rfl
    exact Option.some_ne_none _ (locked.symm.trans unlocked)
  refine paired.goes phase (others has rfl) (others keeps rfl) ?_ ?_ ?_ ?_ ?_ written
  · rw [has, keeps]
  · intro inode same
    rw [opened has, ← same, opened keeps]
  · intro _ _ _ checking
    exact absurd checking (others keeps rfl)
  · intro isRefused
    cases phase <;>
      first
      | exact Bool.noConfusion isRefused
      | exact absurd keeps.symm (Option.some_ne_none _)
  · intro _ removing
    exact absurd removing (others keeps rfl)

theorem Paired.rests (same : state.phase process = phase) :
    Paired processes ⟨state.files, Function.update state.phase process phase⟩ := by
  rw [← same, Function.update_eq_self]
  exact paired

section

variable (pair : ∀ first second third : Fin count, second ≠ first → third ≠ first → second = third)

include pair

/-- Every action keeps the pair. -/
theorem Paired.acts
    (process : Fin count)
    (action : Action) :
    Paired processes (act processes state process action) := by
  have knows
      {text : List Char}
      (written : ∀ pid, readPid? text = some pid → Known processes pid)
      (file inode : Inode)
      (pid : Nat)
      (read : readPid? ((state.files.write file text).content inode) = some pid) :
      Known processes pid :=
    write_content
      (fun text => ∀ pid, readPid? text = some pid → Known processes pid)
      written paired.written file inode pid read
  cases action with
  | exit => exact paired.exits
  | drop =>
    rw [act]
    split
    · next file phase =>
        exact paired.closes (by simp [phase]) (.inl rfl)
    · exact paired
  | operate error =>
    rw [act, operate]
    cases phase : state.phase process with
    | idle =>
      refine paired.goes (.opening 1) ?_ ?_ ?_ ?_ ?_ ?_ ?_ paired.written
      all_goals simp [phase, Phase.locked?, Phase.file?, Phase.isRefused]
    | opening retriesLeft =>
      cases error with
      | some reason => exact paired.fails phase nofun rfl _
      | none => exact paired.opens phase
    | locking retriesLeft file =>
      cases error with
      | some reason => exact paired.fails phase nofun rfl _
      | none =>
        dsimp only
        cases locked : state.files.lock? process file with
        | some after =>
          obtain ⟨free, rfl⟩ := lock?_eq_some.mp locked
          exact paired.locks phase free
        | none =>
          obtain ⟨owner, held⟩ := lock?_eq_none.mp locked
          exact paired.refuses phase held
    | reopening retriesLeft file =>
      dsimp only
      split
      · exact paired.looks (by rw [phase]; rfl) rfl (by rw [phase]; rfl) (by simp)
      · exact paired.fails phase nofun rfl _
    | reading retriesLeft file opened =>
      dsimp only
      cases read :
        readPid? (if error = none then state.files.content opened else []) with
      | none => exact paired.fails phase nofun rfl _
      | some pid =>
        refine paired.looks (by rw [phase]; rfl) rfl (by rw [phase]; rfl) ?_
        rintro _ _ _ ⟨⟩
        cases error with
        | none => exact paired.written opened pid read
        | some reason => exact absurd read (by simp [readPid?_nil])
    | checking retriesLeft file pid =>
      dsimp only
      split
      · exact paired.fails phase nofun rfl _
      · next running =>
        split
        · exact paired.fails phase nofun rfl _
        · have dead := Bool.eq_false_iff.mpr running
          refine paired.goes (.removing retriesLeft) ?_ ?_ ?_ ?_ ?_ ?_
            (fun _ _ => paired.alone_of_checked pair phase dead)
            paired.written
          all_goals simp [phase, Phase.locked?, Phase.file?, Phase.isRefused]
    | removing retriesLeft =>
      dsimp only
      split
      · exact paired.unlinks phase
      · exact paired.fails phase nofun rfl _
      · exact paired.fails phase nofun rfl _
    | truncating file =>
      cases error with
      | some reason => exact paired.closes (by simp [phase]) (.inr ⟨_, rfl⟩)
      | none =>
        refine paired.writes (by rw [phase]; rfl) rfl (knows ?_ file)
        exact fun _ read => absurd read (by simp [readPid?_nil])
    | stamping file =>
      cases error with
      | some reason => exact paired.closes (by simp [phase]) (.inr ⟨_, rfl⟩)
      | none =>
        refine paired.writes (by rw [phase]; rfl) rfl (knows ?_ file)
        intro pid read
        rw [readPid?_pidText (processes.bounded process)] at read
        obtain rfl := Option.some.inj read
        exact ⟨(processes.positive process).ne', .inr ⟨process, rfl⟩⟩
    | seeking file
    | syncing file =>
      cases error with
      | some reason => exact paired.closes (by simp [phase]) (.inr ⟨_, rfl⟩)
      | none => exact paired.writes (by rw [phase]; rfl) rfl paired.written
    | _ => exact paired.rests phase

theorem Paired.runs (actions : List (Fin count × Action)) :
    Paired processes (run processes actions state) := by
  induction actions generalizing state with
  | nil => exact paired
  | cons action rest ih => exact ih (paired.acts pair action.1 action.2)

theorem Paired.atMostOne :
    AtMostOne state := by
  rintro first second ⟨firstFile, holdsFirst⟩ ⟨secondFile, holdsSecond⟩
  by_contra two
  have all : ∀ process, state.phase process ≠ .exited := by
    intro process exited
    have notFirst : process ≠ first := by
      rintro rfl
      exact Phase.noConfusion (exited.symm.trans holdsFirst)
    obtain rfl := pair first second process (Ne.symm two) notFirst
    exact Phase.noConfusion (exited.symm.trans holdsSecond)
  have namedFirst := paired.same all first firstFile (by rw [holdsFirst]; rfl)
  have namedSecond := paired.same all second secondFile (by rw [holdsSecond]; rfl)
  obtain rfl := Option.some.inj (namedFirst.symm.trans namedSecond)
  have heldFirst := (paired.holders firstFile first).mpr (by rw [holdsFirst]; rfl)
  have heldSecond := (paired.holders firstFile second).mpr (by rw [holdsSecond]; rfl)
  exact two (Option.some.inj (heldFirst.symm.trans heldSecond))

end

end Invariant

theorem paired_start
    {text : Option (List Char)}
    (fine : ¬StaleAtStart processes text) :
    Paired processes (start count text) := by
  refine ⟨?_, ?_, ?_, ?_, ?_, ?_⟩
  · intro inode process
    simp [start, Files.start, Phase.locked?]
  · intro inode pid read
    cases text with
    | none => exact absurd read (by simp [start, Files.start, readPid?_nil])
    | some contents =>
      by_contra unknown
      refine fine ⟨pid, read, ?_⟩
      by_cases zero : pid = 0
      · exact .inl zero
      · refine .inr ⟨?_, fun process same => ?_⟩
        · refine Bool.eq_false_iff.mpr fun other => ?_
          exact unknown ⟨zero, .inl other⟩
        · exact unknown ⟨zero, .inr ⟨process, same⟩⟩
  all_goals simp [start, Phase.isRefused, Phase.file?]

end Pair

end Acquire

/--
Whatever the interleaving, at most one process gets `Ok`: exactly when there
is at most one process, or there are two and the lock file does not begin with
the PID of a process that does not run.
-/
theorem single_instance_iff
    {count : Nat}
    (processes : Processes count)
    (text : Option (List Char)) :
    (∀ actions, AtMostOne (run processes actions (start count text))) ↔
      count ≤ 1 ∨ (count = 2 ∧ ¬StaleAtStart processes text) := by
  constructor
  · intro safe
    by_contra neither
    obtain ⟨many, notFine⟩ := not_or.mp neither
    have breaks : ∃ actions, ¬AtMostOne (run processes actions (start count text)) := by
      let first : Fin count := ⟨0, by omega⟩
      let second : Fin count := ⟨1, by omega⟩
      have two : first ≠ second := by simp [first, second]
      by_cases pair : count = 2
      · have stale := not_not.mp (not_and.mp notFine pair)
        exact breaks_of_staleAtStart two stale
      · let third : Fin count := ⟨2, by omega⟩
        have notFirst : third ≠ first := by simp [first, third]
        have notSecond : third ≠ second := by simp [second, third]
        exact breaks_of_three two notFirst notSecond text
    obtain ⟨actions, broken⟩ := breaks
    exact broken (safe actions)
  · rintro (alone | ⟨rfl, fine⟩) actions
    · intro first second _ _
      exact Fin.ext (by omega)
    · have pair :
          ∀ first second third : Fin 2, second ≠ first → third ≠ first → second = third := by
        decide
      exact ((paired_start fine).runs pair actions).atMostOne pair

theorem twoDaemons_bounded (process : Fin 2) :
    4242 + process.val < 2 ^ 32 := by
  omega

/-- Two daemons that start at about the same time. -/
def twoDaemons : Processes 2 where
  pid := fun process => 4242 + process
  others := fun _ => false
  positive := fun process => Nat.add_pos_left (Nat.succ_pos 4241) process
  bounded := twoDaemons_bounded
  distinct := fun _ _ same => Fin.ext (Nat.add_left_cancel same)
  apart := fun _ => rfl

/--
The lock file holds the PID of an earlier daemon.  One process has the lock
and has not written yet, the other one takes it for a dead one's.
-/
theorem two_daemons_hold :
    let interleaving := goesOn 0 3 ++ goesOn 1 13 ++ goesOn 0 4
    let state := run twoDaemons interleaving (start 2 (some ['9', '9', '9']))
    state.phase 0 = .holding 0 ∧ state.phase 1 = .holding 1 := by
  decide +kernel

section Recovery

variable
  {count : Nat}
  {processes : Processes count}
  {state : State count}
  {process owner : Fin count}
  {inode : Inode}
  {error : Option String}

theorem operate_live (here : state.phase process ≠ .exited) :
    (operate processes process error state).1.isLive = true := by
  cases isPhase : state.phase process with
  | exited => exact absurd isPhase here
  | _ =>
    simp only [operate, isPhase]
    repeat' split
    all_goals rfl

theorem operate_holder
    (other : owner ≠ process)
    (held : (operate processes process error state).2.holder inode = some owner) :
    state.files.holder inode = some owner := by
  have locks {file locked} (isLocked : state.files.lock? process file = some locked)
      (held : locked.holder inode = some owner) : state.files.holder inode = some owner := by
    obtain ⟨-, rfl⟩ := lock?_eq_some.mp isLocked
    grind [Function.update_apply]
  simp only [operate] at held
  repeat' split at held
  all_goals
    first | exact held | exact (release_holder.mp held).1 | exact locks ‹_› held | simpa using held

/-- Whoever has the lock on a file lives. -/
def OwnersLive (state : State count) : Prop :=
  ∀ inode owner, state.files.holder inode = some owner → (state.phase owner).isLive = true

theorem OwnersLive.act
    (live : OwnersLive state)
    (process : Fin count)
    (action : Action) :
    OwnersLive (act processes state process action) := by
  intro inode owner held
  cases action with
  | exit =>
    obtain ⟨held, other⟩ := release_holder.mp held
    simpa [InstanceLock.act, other] using live inode owner held
  | drop =>
    rw [InstanceLock.act] at held ⊢
    split at held
    · obtain ⟨held, other⟩ := release_holder.mp held
      simpa [*] using live inode owner held
    · grind [OwnersLive]
  | operate error =>
    by_cases own : owner = process
    · subst own
      by_cases gone : state.phase owner = .exited
      · have still : state.files.holder inode = some owner := by
          simpa [InstanceLock.act, operate, gone] using held
        simpa [gone, Phase.isLive] using live inode owner still
      · simpa [InstanceLock.act] using operate_live gone
    · simpa [InstanceLock.act, own] using live inode owner (operate_holder own held)

/--
However the daemons before it have ended, and whatever they have left in the
file, a daemon that starts after them gets the lock.
-/
theorem lock_recovers
    {text : Option (List Char)}
    {actions : List (Fin count × Action)}
    (reached : run processes actions (start count text) = state)
    (idle : state.phase process = .idle)
    (gone : ∀ other, (state.phase other).isLive = false) :
    Holds (run processes (goesOn process 7) state) process := by
  have live : OwnersLive state := by
    rw [← reached]
    exact List.foldlRecOn actions _ (fun _ _ held => absurd held (by simp [start, Files.start]))
      fun _ live action _ => live.act action.1 action.2
  have free (inode : Inode) : state.files.holder inode = none := by
    refine Option.eq_none_iff_forall_ne_some.mpr fun owner held => ?_
    simpa [gone owner] using live inode owner held
  have split : goesOn process 7 = goesOn process 1 ++ goesOn process 6 := rfl
  have opening : (run processes (goesOn process 1) state).phase process = .opening 1 := by
    simp [goesOn, run, InstanceLock.act, operate, idle]
  rw [split, run_append, run_acquires opening]
  · exact ⟨_, Function.update_self ..⟩
  · simp [goesOn, run, InstanceLock.act, operate, idle, free]

end Recovery

theorem second_daemon_recovers :
    Holds (run twoDaemons (goesOn 1 7)
      (run twoDaemons (goesOn 0 4 ++ [(0, .exit)]) (start 2 none))) 1 :=
  lock_recovers rfl (by decide +kernel) (by decide +kernel)

end Shroud.InstanceLock
