import Shroud.LeakSignal
import Shroud.ReconnectLog

namespace Shroud.Supervisor

open StateProgram Recorded

/-!
# What a reconnect asks of NetworkManager

The record of a reconnect shows when it connects and disconnects: it connects
once in an attempt, after a look that found no VPN and after the whole backoff
of that attempt, and it disconnects only because it was told to.
-/

/-- The record shows every call to NetworkManager. -/
def Traced (before after : World) (record : List Happening) : Prop :=
  after.trace = before.trace ++ record.filterMap Happening.nmCall?

theorem traced_steps (env : Env) :
    RecordSteps env Traced where
  composes :=
    { nil := fun world => (List.append_nil world.trace).symm
      append := by
        intro before middle after first second earlier later
        rw [Traced] at earlier later
        rw [Traced, List.filterMap_append, ← List.append_assoc, ← earlier]
        exact later }
  event := fun event world =>
    (dispatchAndSync_eventOnly event world).trace.trans (List.append_nil world.trace).symm
  state := fun _ world => (List.append_nil world.trace).symm
  timing := fun world _ => (List.append_nil world.trace).symm
  sleep := fun _ world => (List.append_nil world.trace).symm
  query := fun _ => rfl
  list := fun _ => rfl
  refresh := fun _ => rfl
  wait := fun _ world => (List.append_nil world.trace).symm
  look := fun world => (List.append_nil world.trace).symm
  connect := fun _ _ => rfl
  disconnect := fun _ _ => rfl
  begins := fun world _ => (List.append_nil world.trace).symm
  cancels := fun world => (List.append_nil world.trace).symm

/-- No command to disconnect has been received. -/
def Undisturbed (record : List Happening) : Prop :=
  ∀ happening ∈ record, VpnCommand.disconnect ∉ happening.receives

/--
The entries right before a connection attempt: the attempt of the loop, a look
that found no VPN, and its backoff.
-/
def MayConnect (earlier : List Happening) : Prop :=
  ∃ before attempt received,
    attempt = before.countP Happening.isBegin + 1 ∧
      earlier =
        before ++ [.begins attempt, .query none, .waited (min (2 * attempt) 30 * 1000) received]

/-- What a reconnect may do after the entries in front. -/
def Permitted (server : String) (earlier : List Happening) : Happening → Prop
  | .connect name _ => name = server ∧ MayConnect earlier ∧ Undisturbed earlier
  | .disconnect name _ => name = server ∧ ¬Undisturbed earlier
  | _ => True

theorem undisturbed_nil :
    Undisturbed [] :=
  fun _ member => absurd member List.not_mem_nil

theorem undisturbed_append {first second : List Happening} :
    Undisturbed (first ++ second) ↔ Undisturbed first ∧ Undisturbed second :=
  List.forall_mem_append

theorem undisturbed_cons
    {happening : Happening}
    {record : List Happening} :
    Undisturbed (happening :: record) ↔
      VpnCommand.disconnect ∉ happening.receives ∧ Undisturbed record :=
  List.forall_mem_cons

theorem disconnect_mem_looked {found : Option VpnCommand} :
    VpnCommand.disconnect ∈ (Happening.looked found).receives ↔ found = some .disconnect := by
  cases found with
  | none => simp [Happening.receives]
  | some command => simp [Happening.receives, eq_comm]

instance : DecidablePred Undisturbed :=
  fun record =>
    inferInstanceAs (Decidable (∀ happening ∈ record, VpnCommand.disconnect ∉ happening.receives))

def begun (record : List Happening) : Nat :=
  record.countP Happening.isBegin

def connections (record : List Happening) : Nat :=
  record.countP Happening.isConnect

/-- The commands that are carried out, in their order. -/
def appliedIn (record : List Happening) : List VpnCommand :=
  record.flatMap Happening.applies

/-- An entry is permitted, and nothing is received after a disconnect. -/
structure Lawful (server : String) (earlier : List Happening)
    (happening : Happening) : Prop where
  permitted : Permitted server earlier happening
  undisturbed : happening.receives ≠ [] → Undisturbed earlier

theorem Lawful.of_permitted
    {server : String}
    {earlier : List Happening}
    {happening : Happening}
    (permitted : Permitted server earlier happening)
    (nothing : happening.receives = []) :
    Lawful server earlier happening :=
  ⟨permitted, fun some => absurd nothing some⟩

/--
The record of a part of an attempt, after some past: everything in it is
lawful, it begins and connects at most as often as given, it is undisturbed if
the loop goes on, and it carries out a command to disconnect that was received.
-/
structure Fair (server : String) (past : List Happening) (begins connects : Nat)
    (attemptEnd : AttemptEnd) (record : List Happening) : Prop where
  lawful : AtEach (fun earlier => Lawful server (past ++ earlier)) record
  begun : begun record = begins
  connections : connections record ≤ connects
  undisturbed : attemptEnd = .failed → Undisturbed record
  applied :
    appliedIn record =
      if Undisturbed (past ++ record) then [] else [.disconnect]

variable {past : List Happening}

theorem Fair.after
    {server : String}
    {noted later : List Happening}
    {begins connects : Nat}
    {attemptEnd : AttemptEnd}
    (lawful : AtEach (fun earlier => Lawful server (past ++ earlier)) noted)
    (undisturbed : attemptEnd = .failed → Undisturbed noted)
    (nothing : appliedIn noted = [])
    (fair : Fair server (past ++ noted) begins connects attemptEnd later) :
    Fair server past (Supervisor.begun noted + begins)
      (Supervisor.connections noted + connects) attemptEnd
      (noted ++ later) where
  lawful := by
    refine (atEach_append _ _ _).mpr ⟨lawful, ?_⟩
    simpa only [List.append_assoc] using fair.lawful
  begun := by
    rw [Supervisor.begun, List.countP_append]
    exact congrArg (Supervisor.begun noted + ·) fair.begun
  connections := by
    rw [Supervisor.connections, List.countP_append]
    exact Nat.add_le_add_left fair.connections _
  undisturbed := by
    intro failed
    exact undisturbed_append.mpr ⟨undisturbed failed, fair.undisturbed failed⟩
  applied := by
    rw [appliedIn, List.flatMap_append, ← List.append_assoc past]
    have later := fair.applied
    rw [appliedIn] at later nothing
    rw [nothing, later, List.nil_append]

theorem Fair.nothing
    {server : String}
    {past : List Happening}
    {attemptEnd : AttemptEnd}
    (connects : Nat)
    (undisturbed : Undisturbed past) :
    Fair server past 0 connects attemptEnd [] where
  lawful := atEach_nil _
  begun := rfl
  connections := Nat.zero_le connects
  undisturbed := fun _ => undisturbed_nil
  applied := by
    rw [List.append_nil, if_pos undisturbed]
    rfl

namespace Log

variable (env : Env)

theorem waitVerify_logs (polls : Nat) :
    Logs (fun _ => True) (waitVerify env polls)
      (fun seen _ record =>
        (∀ happening ∈ record, ∃ found, happening = .looked found) ∧
          (seen = false ↔ Undisturbed record) ∧
          AtEach (fun earlier _ => Undisturbed earlier) record) := by
  induction polls with
  | zero =>
    refine .pure fun _ _ => ⟨fun _ member => ?_, ?_, atEach_nil _⟩
    · exact absurd member List.not_mem_nil
    · exact iff_of_true rfl undisturbed_nil
  | succ polls ih =>
    refine Logs.get ?_
    intro current
    have looks :
        Logs (fun state => state = current ∧ True) (look env)
          (fun _ _ noted =>
            noted = [Happening.looked (env.polled current.asked.polls)]) :=
      .noting (fun state before => by rw [before.1])
    refine looks.bind ?_
    intro _ noted
    refine .ite (fun here => ?_) fun elsewhere => ?_
    · refine .pure fun _ isNoted => ?_
      rw [isNoted, here]
      refine ⟨fun happening member => ?_, iff_of_false (by simp) ?_, ?_⟩
      · exact ⟨_, List.mem_singleton.mp member⟩
      · intro undisturbed
        exact undisturbed _ (List.mem_singleton.mpr rfl) (disconnect_mem_looked.mpr rfl)
      · exact (atEach_singleton _ _).mpr undisturbed_nil
    · intro state isNoted
      obtain ⟨later, seen, order⟩ := ih (state.elapse 200) trivial
      have calm := mt disconnect_mem_looked.mp elsewhere
      rw [isNoted]
      refine ⟨?_, ?_, ?_⟩
      · intro happening member
        rcases List.mem_cons.mp member with isLook | inLater
        · exact ⟨_, isLook⟩
        · exact later happening inLater
      · exact seen.trans (undisturbed_cons.trans (and_iff_right calm)).symm
      · refine (atEach_cons _ _ _).mpr ⟨undisturbed_nil, ?_⟩
        intro earlier happening rest split
        exact undisturbed_cons.mpr ⟨calm, order earlier happening rest split⟩

theorem cancelReconnect_logs (name : String) :
    Logs (fun _ => True) (cancelReconnect env name)
      (fun _ _ record =>
        ∃ ok, record = [.applied .disconnect, .disconnect name ok]) :=
  fun world _ => ⟨env.disconnects world.asked.disconnect, rfl⟩

variable (name : String)

theorem cancelReconnect_fair (disturbed : ¬Undisturbed past) :
    Logs (fun _ => True)
      (do
        cancelReconnect env name
        pure AttemptEnd.returned)
      (fun attemptEnd _ record =>
        attemptEnd ≠ .failed ∧ Fair name past 0 0 attemptEnd record) := by
  have stays : ∀ {later : List Happening}, ¬Undisturbed (past ++ later) :=
    fun undisturbed => disturbed (undisturbed_append.mp undisturbed).1
  refine (cancelReconnect_logs env name).bind ?_
  intro _ noted
  refine .pure fun _ isNoted => ?_
  obtain ⟨ok, rfl⟩ := isNoted
  refine ⟨by simp, ?_, rfl, Nat.le_refl 0, by simp, ?_⟩
  · simp only [List.append_nil, atEach_cons, atEach_nil, and_true]
    exact ⟨.of_permitted trivial rfl, .of_permitted ⟨rfl, stays⟩ rfl⟩
  · rw [if_neg stays]
    rfl

theorem fair_query
    (undisturbed : Undisturbed past)
    (active : Option String)
    (attemptEnd : AttemptEnd) :
    Fair name past 0 0 attemptEnd [.query active] := by
  have calm : Undisturbed [.query active] := by
    simp [Undisturbed, Happening.receives]
  refine ⟨(atEach_singleton _ _).mpr (.of_permitted trivial rfl), rfl,
    Nat.le_refl 0, fun _ => calm, ?_⟩
  rw [if_pos (undisturbed_append.mpr ⟨undisturbed, calm⟩)]
  rfl

theorem getActiveVpn_logs :
    Logs (fun _ => True) (getActiveVpn env)
      (fun active _ noted => noted = [Happening.query active]) :=
  .noting (fun _ _ => rfl)

theorem verifyConnection_fair (undisturbed : Undisturbed past) :
    Logs (fun _ => True) (verifyConnection env name)
      (fun attemptEnd _ record =>
        Fair name past 0 0 attemptEnd record) := by
  refine (waitVerify_logs env verifyPolls).bind ?_
  intro seen looks
  refine Logs.assuming ?_
  rintro ⟨areLooks, seenIff, order⟩
  have lawful : AtEach (fun earlier => Lawful name (past ++ earlier)) looks := by
    rintro earlier happening later rfl
    obtain ⟨found, rfl⟩ := areLooks happening (by simp)
    refine ⟨trivial, fun _ => undisturbed_append.mpr ⟨undisturbed, ?_⟩⟩
    exact order earlier _ later rfl
  have uncounted
      {counted : Happening → Bool}
      (looksNot : ∀ found, counted (.looked found) = false) :
      looks.countP counted = 0 := by
    refine List.countP_eq_zero.mpr ?_
    intro happening member
    obtain ⟨found, rfl⟩ := areLooks happening member
    exact ne_true_of_eq_false (looksNot found)
  have appliedNone : appliedIn looks = [] := by
    refine List.flatMap_eq_nil_iff.mpr ?_
    intro happening member
    obtain ⟨found, rfl⟩ := areLooks happening member
    rfl
  have after :
      ∀ {attemptEnd : AttemptEnd} {later : List Happening},
        (attemptEnd = .failed → Undisturbed looks) →
        Fair name (past ++ looks) 0 0 attemptEnd later →
        Fair name past 0 0 attemptEnd (looks ++ later) := by
    intro attemptEnd later calm fair
    have whole := Fair.after lawful calm appliedNone fair
    rwa [begun, connections, uncounted (fun _ => rfl), uncounted (fun _ => rfl)] at whole
  refine .ite (fun isSeen => ?_) fun notSeen => ?_
  · have disturbed : ¬Undisturbed (past ++ looks) := by
      intro calm
      have unseen := seenIff.mpr (undisturbed_append.mp calm).2
      exact Bool.noConfusion (unseen.symm.trans isSeen)
    refine (cancelReconnect_fair env name disturbed).weaken ?_
    rintro attemptEnd _ later ⟨ended, fair⟩
    exact after (fun failed => absurd failed ended) fair
  · have calm : Undisturbed looks := seenIff.mp (eq_false_of_ne_true notSeen)
    have queried :
        ∀ (active : Option String) (attemptEnd : AttemptEnd)
          (noted : List Happening),
          noted = [.query active] →
          Fair name past 0 0 attemptEnd (looks ++ (noted ++ [])) := by
      rintro active attemptEnd noted rfl
      exact after (fun _ => calm)
        (fair_query name (undisturbed_append.mpr ⟨undisturbed, calm⟩) active attemptEnd)
    refine (getActiveVpn_logs env).bind ?_
    intro active noted
    refine Logs.assuming ?_
    intro isNoted
    cases active with
    | none => exact .pure (fun _ _ => queried none _ noted isNoted)
    | some active =>
      refine .ite (fun _ => ?_) fun _ => ?_
      · refine Logs.passing ?_
        intro _
        exact .pure fun _ _ => queried (some active) _ noted isNoted
      · exact .pure fun _ _ => queried (some active) _ noted isNoted

/-- A backoff lasts its full time, or a command to disconnect ends it. -/
theorem waitBackoff_logs (attempt : Nat) :
    Logs (fun _ => True) (waitBackoff env attempt)
      (fun cancelled _ noted =>
        ∃ millis received,
          noted = [Happening.waited millis received] ∧
            (cancelled = true → VpnCommand.disconnect ∈ received) ∧
            (cancelled = false →
              VpnCommand.disconnect ∉ received ∧ millis = min (2 * attempt) 30 * 1000)) := by
  intro world _
  let commands := env.arrivals world.asked.windows
  refine ⟨_, _, rfl, ?_, ?_⟩
  · intro cancelled
    have contains : commands.contains .disconnect = true := cancelled
    have member : VpnCommand.disconnect ∈ receivedOf commands := by
      rw [receivedOf, if_pos contains]
      exact List.mem_append_right _ (List.mem_singleton.mpr rfl)
    exact member
  · intro cancelled
    have contains : commands.contains .disconnect = false := cancelled
    have received : receivedOf commands = deferredOf commands := by
      rw [receivedOf, if_neg (ne_true_of_eq_false contains), List.append_nil]
    constructor
    · have notMember : VpnCommand.disconnect ∉ receivedOf commands := by
        rw [received]
        exact disconnect_notMem_deferredOf commands
      exact notMember
    · have slept :
          ((Supervisor.waitBackoff env attempt).run world).2.now =
            world.now +
              if commands.contains .disconnect then
                min (env.cancelMillis world.asked.windows) (backoffMs attempt)
              else backoffMs attempt :=
        rfl
      rw [slept, Nat.add_sub_cancel_left, if_neg (ne_true_of_eq_false contains)]
      rfl

variable {before : List Happening}

theorem reconnectOnce_fair
    (attempt maxAttempts : Nat)
    (isAttempt : attempt = begun before + 1)
    (undisturbed : Undisturbed before) :
    Logs (fun _ => True) (reconnectOnce env name attempt maxAttempts)
      (fun attemptEnd _ record =>
        Fair name (before ++ [.begins attempt, .query none]) 0 1 attemptEnd record) := by
  have calmPast : Undisturbed (before ++ [.begins attempt, .query none]) := by
    refine undisturbed_append.mpr ⟨undisturbed, ?_⟩
    simp [Undisturbed, Happening.receives]
  generalize isPast : before ++ [.begins attempt, .query none] = past at calmPast ⊢
  refine Logs.passing ?_
  intro _
  refine (waitBackoff_logs env attempt).bind ?_
  intro cancelled noted
  refine Logs.assuming ?_
  rintro ⟨millis, received, rfl, ends, lasts⟩
  have waits : AtEach (fun earlier => Lawful name (past ++ earlier)) [.waited millis received] := by
    refine (atEach_singleton _ _).mpr ⟨trivial, fun _ => ?_⟩
    rw [List.append_nil]
    exact calmPast
  refine .ite (fun isCancelled => ?_) fun notCancelled => ?_
  · have disturbed : ¬Undisturbed (past ++ [.waited millis received]) := by
      intro calm
      exact calm (.waited millis received) (by simp) (ends isCancelled)
    refine (cancelReconnect_fair env name disturbed).weaken ?_
    rintro attemptEnd _ later ⟨ended, fair⟩
    have whole := Fair.after waits (fun failed => absurd failed ended) rfl fair
    exact { whole with connections := whole.connections.trans (Nat.zero_le 1) }
  · obtain ⟨stays, isMillis⟩ := lasts (eq_false_of_ne_true notCancelled)
    have calm : Undisturbed [.waited millis received] := by
      intro happening member
      rw [List.mem_singleton.mp member]
      exact stays
    have connects :
        Logs (fun _ => True) (nmConnect env name)
          (fun ok _ noted => noted = [Happening.connect name ok]) :=
      .noting (fun _ _ => rfl)
    refine connects.bind ?_
    intro ok noted
    refine Logs.assuming ?_
    rintro rfl
    have mayConnect : MayConnect (past ++ [.waited millis received]) := by
      refine ⟨before, attempt, received, isAttempt, ?_⟩
      rw [isMillis, ← isPast, List.append_assoc]
      rfl
    have lawful :
        AtEach (fun earlier => Lawful name (past ++ earlier))
          ([.waited millis received] ++ [.connect name ok]) := by
      refine (atEach_append _ _ _).mpr ⟨waits, ?_⟩
      refine (atEach_singleton _ _).mpr (.of_permitted ⟨rfl, ?_, ?_⟩ rfl)
      · rw [List.append_nil]
        exact mayConnect
      · rw [List.append_nil]
        exact undisturbed_append.mpr ⟨calmPast, calm⟩
    have calmConnect : Undisturbed ([.waited millis received] ++ [.connect name ok]) := by
      refine undisturbed_append.mpr ⟨calm, ?_⟩
      simp [Undisturbed, Happening.receives]
    have after :
        ∀ {attemptEnd : AttemptEnd} {later : List Happening},
          Fair name (past ++ ([.waited millis received] ++ [.connect name ok])) 0 0
            attemptEnd later →
          Fair name past 0 1 attemptEnd
            ([.waited millis received] ++ ([.connect name ok] ++ later)) :=
      fun fair => Fair.after lawful (fun _ => calmConnect) rfl fair
    have calmAfter := undisturbed_append.mpr ⟨calmPast, calmConnect⟩
    refine .ite (fun _ => ?_) fun _ => ?_
    · exact (verifyConnection_fair env name calmAfter).weaken fun _ _ _ fair => after fair
    · exact .pure fun _ _ => after (.nothing 0 calmAfter)

theorem shouldAttemptReconnect_logs :
    Logs (fun _ => True) (shouldAttemptReconnect env)
      (fun proceed _ noted =>
        ∃ active, noted = [Happening.query active] ∧ (proceed = true → active = none)) := by
  refine (getActiveVpn_logs env).bind ?_
  intro active noted
  refine Logs.assuming ?_
  rintro rfl
  cases active with
  | none => exact .pure (fun _ _ => ⟨none, rfl, fun _ => rfl⟩)
  | some active =>
    refine Logs.passing ?_
    intro _
    exact .pure fun _ _ => ⟨some active, rfl, by simp⟩

theorem reconnectAttempt_fair
    (attempt maxAttempts : Nat)
    (isAttempt : attempt = begun before + 1)
    (undisturbed : Undisturbed before) :
    Logs (fun _ => True) (reconnectAttempt env name attempt maxAttempts)
      (fun attemptEnd _ record =>
        Fair name before 1 1 attemptEnd record) := by
  have begins :
      Logs (fun _ => True) (note (.begins attempt) :
          Recorded World Happening Unit)
        (fun _ _ noted => noted = [.begins attempt]) :=
    .noting (fun _ _ => rfl)
  have after :
      ∀ {active : Option String} {attemptEnd : AttemptEnd}
        {later : List Happening},
        Fair name (before ++ [.begins attempt, .query active]) 0 1 attemptEnd later →
        Fair name before 1 1 attemptEnd ([.begins attempt] ++ ([.query active] ++ later)) := by
    intro active attemptEnd later fair
    have lawful :
        AtEach (fun earlier => Lawful name (before ++ earlier))
          [.begins attempt, .query active] := by
      simp only [atEach_cons, atEach_nil, and_true]
      exact ⟨.of_permitted trivial rfl, .of_permitted trivial rfl⟩
    have calm : Undisturbed [.begins attempt, .query active] := by
      simp [Undisturbed, Happening.receives]
    exact Fair.after lawful (fun _ => calm) rfl fair
  refine begins.bind ?_
  intro _ noted
  refine Logs.assuming ?_
  rintro rfl
  refine Logs.passing ?_
  intro current
  refine .ite (fun _ => ?_) fun _ => ?_
  · -- the flag of a cancelled reconnect ends the loop before the look
    refine Logs.passing ?_
    intro _
    refine .pure fun _ _ => ?_
    refine ⟨(atEach_singleton _ _).mpr (.of_permitted trivial rfl), rfl, Nat.zero_le 1, by simp, ?_⟩
    have calm : Undisturbed [.begins attempt] := by
      simp [Undisturbed, Happening.receives]
    rw [List.append_nil, if_pos (undisturbed_append.mpr ⟨undisturbed, calm⟩)]
    rfl
  · refine (shouldAttemptReconnect_logs env).bind ?_
    intro proceed noted
    refine Logs.assuming ?_
    rintro ⟨active, rfl, inactive⟩
    refine .ite (fun proceeds => ?_) fun _ => ?_
    · obtain rfl := inactive proceeds
      exact (reconnectOnce_fair env name attempt maxAttempts isAttempt
        undisturbed).weaken (fun _ _ _ fair => after fair)
    · have calm : Undisturbed (before ++ [.begins attempt, .query active]) := by
        refine undisturbed_append.mpr ⟨undisturbed, ?_⟩
        simp [Undisturbed, Happening.receives]
      exact .pure fun _ _ => after (.nothing 1 calm)

/--
The record of attempts after some past, as the record of one: what is left of
it once the attempts are not told apart.
-/
structure FairLoop (server : String) (past : List Happening) (connects : Nat)
    (record : List Happening) : Prop where
  lawful : AtEach (fun earlier => Lawful server (past ++ earlier)) record
  connections : connections record ≤ connects
  applied :
    appliedIn record =
      if Undisturbed (past ++ record) then [] else [.disconnect]

/-- The loop connects at most once for every attempt it has left. -/
theorem reconnectAttempts_fair
    (maxAttempts attempt remaining : Nat)
    (isAttempt : attempt = begun before + 1)
    (undisturbed : Undisturbed before) :
    Logs (fun _ => True)
      (reconnectAttempts env name maxAttempts attempt remaining)
      (fun _ _ record => FairLoop name before remaining record) := by
  induction remaining generalizing attempt before with
  | zero =>
    have nothing := @Fair.nothing name before .failed 0 undisturbed
    exact .pure (fun _ _ =>
      ⟨nothing.lawful, nothing.connections, nothing.applied⟩)
  | succ remaining ih =>
    refine (reconnectAttempt_fair env name attempt maxAttempts isAttempt undisturbed).bind ?_
    intro attemptEnd noted
    refine Logs.assuming ?_
    intro fair
    have ended : FairLoop name before (remaining + 1) (noted ++ []) := by
      rw [List.append_nil]
      exact ⟨fair.lawful, fair.connections.trans (Nat.le_add_left 1 remaining), fair.applied⟩
    cases attemptEnd with
    | failed =>
      have next : attempt + 1 = begun (before ++ noted) + 1 := by
        rw [begun, List.countP_append]
        have one := fair.begun
        rw [begun] at one isAttempt
        omega
      have calm : Undisturbed (before ++ noted) :=
        undisturbed_append.mpr ⟨undisturbed, fair.undisturbed rfl⟩
      have nothing : appliedIn noted = [] := by rw [fair.applied, if_pos calm]
      refine (ih (attempt + 1) next calm).weaken ?_
      intro _ _ later rest
      refine ⟨?_, ?_, ?_⟩
      · refine (atEach_append _ _ _).mpr ⟨fair.lawful, ?_⟩
        simpa only [List.append_assoc] using rest.lawful
      · rw [connections, List.countP_append, Nat.add_comm remaining]
        exact Nat.add_le_add fair.connections rest.connections
      · rw [appliedIn] at nothing
        rw [appliedIn, List.flatMap_append, nothing, List.nil_append, ← List.append_assoc before]
        exact rest.applied
    | _ => exact .pure (fun _ _ => ended)

theorem reconnectLoop_fair
    (maxRetries : Nat)
    (noneBegun : begun before = 0)
    (undisturbed : Undisturbed before) :
    Logs (fun world => world.machine.maxRetries = maxRetries)
      (reconnectLoop env name)
      (fun _ _ record => FairLoop name before maxRetries record) := by
  refine Logs.get ?_
  intro current
  refine Logs.deducing (fun _ before => before.1 ▸ before.2) ?_
  rintro rfl
  refine (reconnectAttempts_fair env name _ 1 _
    (congrArg (· + 1) noneBegun).symm undisturbed).bind ?_
  intro attemptEnd noted
  refine Logs.assuming ?_
  intro fair
  rw [← List.append_nil noted] at fair
  cases attemptEnd with
  | returned => exact .pure (fun _ _ => fair)
  | succeeded => exact .pure (fun _ _ => fair)
  | failed => exact .noting (fun _ _ => fair)

/-- The limit of the machine, which no part of the reconnect changes. -/
def Allows (maxRetries : Nat) (world : World) : Prop :=
  world.machine.maxRetries = maxRetries

theorem dispatchAndSync_allows
    (event : Event)
    (maxRetries : Nat) :
    Ensures (Allows maxRetries) (dispatchAndSync event) (fun _ => Allows maxRetries) := by
  intro world allows
  rw [Allows, dispatchAndSync_machine, StateMachine.handleEvent_maxRetries]
  exact allows

theorem shouldAttemptReconnect_allows (maxRetries : Nat) :
    Logs (Allows maxRetries) (shouldAttemptReconnect env)
      (fun _ world noted =>
        Allows maxRetries world ∧ ∃ active, noted = [Happening.query active]) := by
  have asks :
      Logs (Allows maxRetries) (getActiveVpn env)
        (fun active world noted =>
          Allows maxRetries world ∧ noted = [Happening.query active]) :=
    .noting (fun _ allows => ⟨allows, rfl⟩)
  refine asks.bind ?_
  intro active noted
  refine Logs.knowing ?_
  rintro rfl
  cases active with
  | none => exact .pure (fun _ allows => ⟨allows, none, rfl⟩)
  | some active =>
    refine Logs.silent (dispatchAndSync_allows _ maxRetries) ?_
    intro _
    exact .pure fun _ allows => ⟨allows, some active, rfl⟩

theorem startReconnect_fair (maxRetries : Nat) :
    Logs (Allows maxRetries) (startReconnect env name)
      (fun _ _ record => FairLoop name [] maxRetries record) := by
  have lists :
      Logs (Allows maxRetries) (listVpnConnections env)
        (fun _ world noted =>
          Allows maxRetries world ∧ noted = [Happening.list]) :=
    .noting (fun _ allows => ⟨allows, rfl⟩)
  refine Logs.silent (show Ensures _ _ (fun _ => Allows maxRetries) from fun _ allows => allows) ?_
  intro _
  refine (shouldAttemptReconnect_allows env maxRetries).bind ?_
  intro proceed noted
  refine Logs.knowing ?_
  rintro ⟨active, rfl⟩
  refine .ite (fun _ => ?_) fun _ => ?_
  · refine lists.bind ?_
    intro available noted
    refine Logs.knowing ?_
    rintro rfl
    have calm : Undisturbed [.query active, .list] := by
      simp [Undisturbed, Happening.receives]
    refine .ite (fun _ => ?_) fun _ => ?_
    · refine (reconnectLoop_fair env name maxRetries rfl calm).weaken ?_
      intro _ _ record loop
      refine ⟨?_, loop.connections, loop.applied⟩
      simp only [List.singleton_append, atEach_cons]
      exact ⟨.of_permitted trivial rfl, .of_permitted trivial rfl, loop.lawful⟩
    · refine Logs.deducing (fun _ _ => trivial) fun _ : True => ?_
      refine Logs.passing ?_
      intro _
      refine .noting fun _ _ => ⟨?_, Nat.zero_le _, rfl⟩
      simp only [List.singleton_append, atEach_cons, atEach_nil, and_true]
      exact ⟨.of_permitted trivial rfl, .of_permitted trivial rfl, .of_permitted trivial rfl⟩
  · refine .pure fun _ _ => ⟨?_, Nat.zero_le _, rfl⟩
    exact (atEach_singleton _ _).mpr (.of_permitted trivial rfl)

theorem attemptReconnectInner_fair (maxRetries : Nat) :
    Logs (Allows maxRetries) (attemptReconnectInner env name)
      (fun _ _ record => FairLoop name [] maxRetries record) := by
  refine Logs.get ?_
  intro current
  refine .ite (fun _ => ?_) fun _ => ?_
  · exact .pure fun _ _ => ⟨atEach_nil _, Nat.zero_le _, rfl⟩
  · exact (startReconnect_fair env name maxRetries).consequence
      (fun _ before => before.2) (fun _ _ _ fair => fair)

end Log

def reconnectRecord (env : Env) (server : String) (world : World) :
    List Happening :=
  (Log.attemptReconnectInner env server).log world

/--
A reconnect connects at most `max_retries` times.  It connects and disconnects
only the server it is for, connects only in an attempt that found no VPN and
has waited out its backoff, disconnects only after it received the command to,
and does not connect any more from then on.
-/
theorem reconnect_bounded
    (env : Env)
    (server : String)
    (world : World) :
    ((attemptReconnectInner env server).run world).2.trace =
        world.trace ++ (reconnectRecord env server world).filterMap Happening.nmCall? ∧
      (reconnectRecord env server world).countP Happening.isConnect ≤ world.machine.maxRetries ∧
      AtEach (Permitted server) (reconnectRecord env server world) := by
  have erased :
      (attemptReconnectInner env server).run world =
        (Log.attemptReconnectInner env server).erase.run world := by
    rw [Log.attemptReconnectInner_erase]
  have fair := Log.attemptReconnectInner_fair env server world.machine.maxRetries world rfl
  refine ⟨?_, fair.connections, ?_⟩
  · rw [erased]
    exact (traced_steps env).attemptReconnectInner server world
  · intro earlier happening later split
    exact (fair.lawful earlier happening later split).permitted

/-- A server that does not answer, and a single attempt. -/
example :
    reconnectRecord { calmEnv with listed := fun _ => ["berlin"] } "berlin"
        { restingWorld with
          machine := ⟨.reconnecting "berlin" 1 1, 1, 1⟩ } =
      [.query none, .list, .begins 1, .query none, .waited 2000 [], .connect "berlin" false] := by
  decide

end Shroud.Supervisor
