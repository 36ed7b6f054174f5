import Mathlib.Data.List.TakeWhile
import Shroud.ConnectAnswers

namespace Shroud.Supervisor

open StateProgram

/-!
# What follows a leak signal

A dead verdict leads into `attempt_reconnect`, which first asks NetworkManager
whether a VPN is up.  Whenever it is, or the attempt is put off or given up
early, the state can end up `Connected` although no connection was made since
the verdict.
-/

variable (env : Env)

/-- One attempt of the loop, by its number, finds no VPN and makes none. -/
def Misses (asked : Asked) (attempt : Nat) : Prop :=
  env.active (asked.active + attempt) = none ∧
    VpnCommand.disconnect ∉ env.arrivals (asked.windows + attempt) ∧
    env.connects (asked.connect + attempt) = false

/-- The loop gets to an attempt that finds a VPN. -/
def ResolvesAt (asked : Asked) (attempt : Nat) : Prop :=
  (∀ earlier < attempt, Misses env asked earlier) ∧ env.active (asked.active + attempt) ≠ none

/-- The commands that arrive before an attempt. -/
def deferredBefore (asked : Asked) (attempt : Nat) : List VpnCommand :=
  (List.range attempt).flatMap fun earlier =>
    env.arrivals (asked.windows + earlier)

/-- An attempt finds a VPN, and no deferred command connects to one. -/
def LoopLeaks (asked : Asked) (maxRetries : Nat) : Prop :=
  ∃ attempt < maxRetries, ResolvesAt env asked attempt ∧
    ∀ index < totalAttempts (deferredBefore env asked attempt),
      env.connects (asked.connect + attempt + index) = false

/-- The counters after an attempt that misses. -/
def afterMiss (asked : Asked) : Asked :=
  { asked with
    active := asked.active + 1
    windows := asked.windows + 1
    connect := asked.connect + 1 }

section

variable (asked : Asked) (attempt : Nat)

theorem misses_succ :
    Misses env asked (attempt + 1) ↔ Misses env (afterMiss asked) attempt := by
  simp only [Misses, afterMiss, Nat.add_assoc, Nat.add_comm 1]

theorem resolvesAt_succ :
    ResolvesAt env asked (attempt + 1) ↔
      Misses env asked 0 ∧ ResolvesAt env (afterMiss asked) attempt := by
  rw [ResolvesAt, ResolvesAt, Nat.forall_lt_succ_left, and_assoc]
  simp only [misses_succ]
  simp only [afterMiss, Nat.add_assoc, Nat.add_comm 1]

theorem deferredBefore_succ :
    deferredBefore env asked (attempt + 1) =
      env.arrivals asked.windows ++ deferredBefore env (afterMiss asked) attempt := by
  simp only [deferredBefore, List.range_succ_eq_map, List.flatMap_cons,
    List.flatMap_map, afterMiss, Nat.add_zero, Nat.succ_eq_add_one,
    Nat.add_assoc, Nat.add_comm 1]

end

/-- NetworkManager had a VPN, and the state has become `Connected`. -/
structure Settles (before after : World) : Prop where
  connected : after.machine.state.isConnected = true
  asked : after.asked.connect = before.asked.connect
  deferred : after.deferredCommands = before.deferredCommands
  unconnected :
    ∀ start ≤ before.trace.length, (ConnectedSince start after ↔ ConnectedSince start before)

/-- An attempt found no VPN and made none. -/
structure Missed (before after : World) : Prop where
  notDegraded : after.machine.state.isDegraded = false
  notCancelled : after.timing.reconnectCancelled = false
  asked : after.asked = afterMiss before.asked
  deferred : after.deferredCommands = before.deferredCommands ++ env.arrivals before.asked.windows
  grows : TraceGrows before after
  unconnected :
    ∀ start ≤ before.trace.length, (ConnectedSince start after ↔ ConnectedSince start before)

section Attempt

variable {env} {world : World}

theorem shouldAttemptReconnect_none
    (inactive : env.active world.asked.active = none) :
    (shouldAttemptReconnect env).run world = (true, ((getActiveVpn env).run world).2) := by
  have asked : ((getActiveVpn env).run world).1 = env.active world.asked.active :=
    rfl
  rw [shouldAttemptReconnect, run_bind, asked, inactive]
  rfl

section

variable {active : String} (isActive : env.active world.asked.active = some active)

include isActive

theorem shouldAttemptReconnect_active :
    (shouldAttemptReconnect env).run world =
      (false, ((dispatchAndSync (.nmVpnUp active)).run ((getActiveVpn env).run world).2).2) := by
  have asked : ((getActiveVpn env).run world).1 = env.active world.asked.active :=
    rfl
  rw [shouldAttemptReconnect, run_bind, asked, isActive]
  rfl

theorem shouldAttemptReconnect_some
    (notDegraded : world.machine.state.isDegraded = false) :
    ((shouldAttemptReconnect env).run world).1 = false ∧
      Settles world ((shouldAttemptReconnect env).run world).2 := by
  let told := ((getActiveVpn env).run world).2
  have unasked : Unasked world told := getActiveVpn_unasked env world
  have same := dispatchAndSync_eventOnly (.nmVpnUp active) told
  rw [shouldAttemptReconnect_active isActive]
  refine ⟨rfl, ?_, ?_, ?_, ?_⟩
  · rw [dispatchAndSync_machine]
    exact told.machine.isConnected_afterEvent_nmVpnUp active notDegraded
  · exact (congrArg Asked.connect same.asked).trans unasked.asked
  · exact same.deferred.trans unasked.deferred
  · intro start longEnough
    rw [← unasked.refused start longEnough, ConnectedSince, same.trace]
    rfl

end

variable (name : String)

section

variable (attempt maxAttempts : Nat) (notCancelled : world.timing.reconnectCancelled = false)

include notCancelled

theorem reconnectAttempt_run :
    (reconnectAttempt env name attempt maxAttempts).run world =
      (if ((shouldAttemptReconnect env).run world).1 then
        reconnectOnce env name attempt maxAttempts
      else
        pure .succeeded : StateM World AttemptEnd).run
          ((shouldAttemptReconnect env).run world).2 := by
  rw [reconnectAttempt, run_get_bind]
  rw [notCancelled, if_neg Bool.false_ne_true, run_bind]

theorem reconnectAttempt_inactive
    (inactive : env.active world.asked.active = none) :
    (reconnectAttempt env name attempt maxAttempts).run world =
      (reconnectOnce env name attempt maxAttempts).run ((getActiveVpn env).run world).2 := by
  rw [reconnectAttempt_run name attempt maxAttempts notCancelled,
    shouldAttemptReconnect_none inactive, if_pos rfl]

theorem reconnectAttempt_active
    (notDegraded : world.machine.state.isDegraded = false)
    (isActive : env.active world.asked.active ≠ none) :
    ((reconnectAttempt env name attempt maxAttempts).run world).1 =
        .succeeded ∧
      Settles world ((reconnectAttempt env name attempt maxAttempts).run world).2 := by
  obtain ⟨active, isActive⟩ := Option.ne_none_iff_exists'.mp isActive
  obtain ⟨refuses, settles⟩ := shouldAttemptReconnect_some isActive notDegraded
  rw [reconnectAttempt_run name attempt maxAttempts notCancelled, refuses,
    if_neg Bool.false_ne_true]
  exact ⟨rfl, settles⟩

end

/-- The supervisor after the backoff of an attempt. -/
def backedOff (env : Env) (name : String) (attempt maxAttempts : Nat)
    (world : World) : World :=
  ((do
    setStateAndSync (.reconnecting name attempt maxAttempts)
    waitBackoff env attempt : StateM World Bool).run world).2

theorem reconnectOnce_run (attempt maxAttempts : Nat) :
    (reconnectOnce env name attempt maxAttempts).run world =
      (if (env.arrivals world.asked.windows).contains .disconnect then do
        cancelReconnect env name
        pure .returned
      else do
        if ← nmConnect env name then verifyConnection env name
        else pure .failed : StateM World AttemptEnd).run
          (backedOff env name attempt maxAttempts world) :=
  rfl

theorem reconnectOnce_cancelled
    (attempt maxAttempts : Nat)
    (cancelled : VpnCommand.disconnect ∈ env.arrivals world.asked.windows) :
    ((reconnectOnce env name attempt maxAttempts).run world).1 =
        .returned ∧
      ((reconnectOnce env name attempt maxAttempts).run world).2.machine.state.isConnected = false ∧
      ((reconnectOnce env name attempt maxAttempts).run
        world).2.deferredCommands =
          world.deferredCommands ++ deferredOf (env.arrivals world.asked.windows) := by
  rw [reconnectOnce_run, if_pos (List.contains_iff_mem.mpr cancelled)]
  exact ⟨rfl, rfl, rfl⟩

theorem deferredOf_eq
    {commands : List VpnCommand}
    (stay : VpnCommand.disconnect ∉ commands) :
    deferredOf commands = commands := by
  rw [deferredOf, List.takeWhile_eq_self_iff]
  intro command member
  apply decide_eq_true
  rintro rfl
  exact stay member

theorem disconnect_notMem_deferredOf (commands : List VpnCommand) :
    VpnCommand.disconnect ∉ deferredOf commands := by
  intro member
  have stays := List.mem_takeWhile_imp member
  simp at stays

theorem reconnectOnce_stays
    (attempt maxAttempts : Nat)
    (stay : VpnCommand.disconnect ∉ env.arrivals world.asked.windows) :
    (reconnectOnce env name attempt maxAttempts).run world =
      (do
        if ← nmConnect env name then verifyConnection env name
        else pure .failed : StateM World AttemptEnd).run
          (backedOff env name attempt maxAttempts world) := by
  have absent : (env.arrivals world.asked.windows).contains .disconnect = false := by
    rw [Bool.eq_false_iff]
    exact fun contained => stay (List.contains_iff_mem.mp contained)
  rw [reconnectOnce_run, absent, if_neg Bool.false_ne_true]

theorem verifyConnection_grows (name : String) :
    Keeps TraceGrows (verifyConnection env name) :=
  .of_preserves fun start =>
    (grows_ignores start).steps.verifyConnection trivial

/-- The supervisor when an attempt asks for the connection. -/
def backedOffFrom (env : Env) (name : String) (attempt maxAttempts : Nat)
    (world : World) : World :=
  backedOff env name attempt maxAttempts ((getActiveVpn env).run world).2

section

variable
  (attempt maxAttempts : Nat)
  (notCancelled : world.timing.reconnectCancelled = false)
  (inactive : env.active world.asked.active = none)
  (stay : VpnCommand.disconnect ∉ env.arrivals world.asked.windows)

include notCancelled inactive stay

theorem reconnectAttempt_connects :
    (reconnectAttempt env name attempt maxAttempts).run world =
      (if env.connects world.asked.connect then verifyConnection env name
        else pure .failed : StateM World AttemptEnd).run
          ((nmConnect env name).run (backedOffFrom env name attempt maxAttempts world)).2 := by
  have told : VpnCommand.disconnect ∉ env.arrivals ((getActiveVpn env).run world).2.asked.windows :=
    stay
  rw [reconnectAttempt_inactive name attempt maxAttempts notCancelled
    inactive, reconnectOnce_stays name attempt maxAttempts told]
  rfl

theorem reconnectAttempt_accepted
    (accepts : env.connects world.asked.connect = true) :
    ConnectedSince world.trace.length
      ((reconnectAttempt env name attempt maxAttempts).run world).2 := by
  let waited := backedOffFrom env name attempt maxAttempts world
  have connected : ConnectedSince waited.trace.length ((nmConnect env name).run waited).2 :=
    nmConnect_accepted env name accepts
  have longer : world.trace.length ≤ waited.trace.length :=
    (getActiveVpn_unasked env world).grows.length_le
  rw [reconnectAttempt_connects name attempt maxAttempts notCancelled
    inactive stay, accepts, if_pos rfl]
  exact (connected.grows (verifyConnection_grows name _)).since longer

end

theorem reconnectAttempt_missed
    (attempt maxAttempts : Nat)
    (notCancelled : world.timing.reconnectCancelled = false)
    (misses : Misses env world.asked 0) :
    ((reconnectAttempt env name attempt maxAttempts).run world).1 =
        .failed ∧
      Missed env world ((reconnectAttempt env name attempt maxAttempts).run world).2 := by
  obtain ⟨inactive, stay, refuses⟩ := misses
  rw [Nat.add_zero] at inactive stay refuses
  let waited := backedOffFrom env name attempt maxAttempts world
  have stretch : Refused 1 waited ((nmConnect env name).run waited).2 :=
    nmConnect_refused env name refuses
  have unasked : Unasked world ((getActiveVpn env).run world).2 := getActiveVpn_unasked env world
  rw [reconnectAttempt_connects name attempt maxAttempts notCancelled
    inactive stay, refuses, if_neg Bool.false_ne_true]
  refine ⟨rfl, rfl, notCancelled, rfl, ?_, ?_, ?_⟩
  · exact congrArg (world.deferredCommands ++ ·) (deferredOf_eq stay)
  · exact unasked.grows.trans stretch.grows
  · intro start longEnough
    have longer : start ≤ waited.trace.length := longEnough.trans unasked.grows.length_le
    exact (stretch.refused start longer).trans (unasked.refused start longEnough)

end Attempt

variable {before after world : World} {start : Nat} {server : String}

section Loop

variable {env} {world : World} (name : String) (maxAttempts : Nat)

theorem reconnectAttempts_succ (attempt remaining : Nat) :
    (reconnectAttempts env name maxAttempts attempt (remaining + 1)).run
        world =
      (match ((reconnectAttempt env name attempt maxAttempts).run
          world).1 with
      | .returned => pure .returned
      | .succeeded => pure .succeeded
      | .failed =>
        reconnectAttempts env name maxAttempts (attempt + 1) remaining :
        StateM World AttemptEnd).run
          ((reconnectAttempt env name attempt maxAttempts).run world).2 :=
  rfl

/-- The loop has missed some times and then found a VPN. -/
structure LoopSettles
    (env : Env)
    (misses : Nat)
    (before after : World) : Prop where
  connected : after.machine.state.isConnected = true
  asked : after.asked.connect = before.asked.connect + misses
  deferred :
    after.deferredCommands = before.deferredCommands ++ deferredBefore env before.asked misses
  unconnected :
    ∀ start ≤ before.trace.length, (ConnectedSince start after ↔ ConnectedSince start before)

theorem Settles.loop (settles : Settles before after) :
    LoopSettles env 0 before after where
  connected := settles.connected
  asked := settles.asked
  deferred := settles.deferred.trans (List.append_nil _).symm
  unconnected := settles.unconnected

theorem Missed.loop
    {misses : Nat}
    {middle : World}
    (missed : Missed env before middle)
    (settles : LoopSettles env misses middle after) :
    LoopSettles env (misses + 1) before after where
  connected := settles.connected
  asked := by
    rw [settles.asked, missed.asked]
    exact Nat.add_right_comm before.asked.connect 1 misses
  deferred := by
    rw [settles.deferred, missed.deferred, missed.asked, deferredBefore_succ, List.append_assoc]
  unconnected := by
    intro start longEnough
    have longer := longEnough.trans missed.grows.length_le
    rw [settles.unconnected start longer, missed.unconnected start longEnough]

theorem reconnectAttempts_resolves
    {misses : Nat}
    (attempt remaining : Nat)
    (notCancelled : world.timing.reconnectCancelled = false)
    (notDegraded : world.machine.state.isDegraded = false)
    (below : misses < remaining)
    (resolves : ResolvesAt env world.asked misses) :
    ((reconnectAttempts env name maxAttempts attempt remaining).run
        world).1 = .succeeded ∧
      LoopSettles env misses world
        ((reconnectAttempts env name maxAttempts attempt remaining).run world).2 := by
  induction remaining generalizing world attempt misses with
  | zero => exact absurd below (Nat.not_lt_zero _)
  | succ remaining ih =>
    cases misses with
    | zero =>
      obtain ⟨result, settles⟩ :=
        reconnectAttempt_active name attempt maxAttempts notCancelled notDegraded resolves.2
      rw [reconnectAttempts_succ, result]
      exact ⟨rfl, settles.loop⟩
    | succ misses =>
      rw [resolvesAt_succ] at resolves
      obtain ⟨result, missed⟩ :=
        reconnectAttempt_missed name attempt maxAttempts notCancelled resolves.1
      have later := resolves.2
      rw [← missed.asked] at later
      obtain ⟨laterResult, settles⟩ :=
        ih (attempt + 1) missed.notCancelled
          missed.notDegraded (Nat.lt_of_succ_lt_succ below) later
      rw [reconnectAttempts_succ, result]
      exact ⟨laterResult, missed.loop settles⟩

/-- The loop ended without a VPN. -/
structure LoopEnds
    (before : World)
    (result : AttemptEnd)
    (after : World) : Prop where
  ends : result = .failed ∨ after.machine.state.isConnected = false
  stay :
    VpnCommand.disconnect ∉ before.deferredCommands → VpnCommand.disconnect ∉ after.deferredCommands

theorem afterAttempt_grows
    (attempt remaining : Nat)
    (result : AttemptEnd) :
    Keeps TraceGrows
      (match result with
      | .returned => pure .returned
      | .succeeded => pure .succeeded
      | .failed =>
        reconnectAttempts env name maxAttempts attempt remaining :
        StateM World AttemptEnd) := by
  refine .of_preserves fun start => ?_
  cases result with
  | returned => exact .pure
  | succeeded => exact .pure
  | failed =>
    exact (grows_ignores start).steps.reconnectAttempts (fun _ before => before)
      (fun _ _ _ _ => (grows_ignores start).forces _) trivial maxAttempts attempt remaining

theorem reconnectAttempts_unresolved
    (attempt remaining : Nat)
    (notCancelled : world.timing.reconnectCancelled = false)
    (unresolved : ∀ misses < remaining, ¬ResolvesAt env world.asked misses) :
    ConnectedSince world.trace.length
        ((reconnectAttempts env name maxAttempts attempt remaining).run world).2 ∨
      LoopEnds world
        ((reconnectAttempts env name maxAttempts attempt remaining).run world).1
        ((reconnectAttempts env name maxAttempts attempt remaining).run world).2 := by
  induction remaining generalizing world attempt with
  | zero => exact .inr ⟨.inl rfl, fun stay => stay⟩
  | succ remaining ih =>
    have inactive : env.active world.asked.active = none := by
      by_contra isActive
      exact unresolved 0 (Nat.succ_pos _)
        ⟨fun _ below => absurd below (Nat.not_lt_zero _), isActive⟩
    by_cases stay : VpnCommand.disconnect ∈ env.arrivals world.asked.windows
    · obtain ⟨result, ends, deferred⟩ :=
        @reconnectOnce_cancelled env ((getActiveVpn env).run world).2 name attempt maxAttempts stay
      rw [reconnectAttempts_succ, reconnectAttempt_inactive name attempt
        maxAttempts notCancelled inactive, result]
      refine .inr ⟨.inr ends, ?_⟩
      intro none member
      have member' :
          VpnCommand.disconnect ∈
            world.deferredCommands ++ deferredOf (env.arrivals world.asked.windows) :=
        deferred ▸ member
      rcases List.mem_append.mp member' with old | new
      · exact none old
      · exact disconnect_notMem_deferredOf _ new
    · cases answer : env.connects world.asked.connect with
      | true =>
        have connected :=
          reconnectAttempt_accepted name attempt maxAttempts notCancelled inactive stay answer
        rw [reconnectAttempts_succ]
        exact .inl (connected.grows (afterAttempt_grows name maxAttempts _ _ _ _))
      | false =>
        have misses : Misses env world.asked 0 := ⟨inactive, stay, answer⟩
        obtain ⟨result, missed⟩ :=
          reconnectAttempt_missed name attempt maxAttempts notCancelled misses
        have later : ∀ count < remaining, ¬ResolvesAt env (afterMiss world.asked) count := by
          intro count below resolves
          exact unresolved (count + 1) (Nat.succ_lt_succ below)
            ((resolvesAt_succ env world.asked count).mpr ⟨misses, resolves⟩)
        rw [← missed.asked] at later
        have ends := ih (attempt + 1) missed.notCancelled later
        rw [reconnectAttempts_succ, result]
        rcases ends with connected | ends
        · exact .inl (connected.since missed.grows.length_le)
        · refine .inr ⟨ends.ends, ?_⟩
          intro none
          refine ends.stay ?_
          rw [missed.deferred, List.mem_append]
          exact fun member => member.elim none stay

end Loop

/-- The state is `Connected` although no `connect` succeeded in between. -/
def Leaks (start : Nat) (world : World) : Prop :=
  world.machine.state.isConnected = true ∧ ¬ConnectedSince start world

/-- The state is `Connected`, and the deferred commands will not help. -/
def LeaksOn (start : Nat) (world : World) : Prop :=
  Leaks start world ∧ RefusesNext env (totalAttempts world.deferredCommands) world

/-- The drain can make up for a leak only by a successful `connect`. -/
theorem drainDeferred_leaks_iff
    (longEnough : start ≤ world.trace.length)
    (stay : VpnCommand.disconnect ∉ world.deferredCommands ∨ ConnectedSince start world) :
    Leaks start
        ((drainDeferred env world.deferredCommands.length).run world).2 ↔
      LeaksOn env start world := by
  rcases stay with stay | connected
  · have drains := @drainDeferred_attempts env _ stay world rfl
    by_cases refuses : RefusesNext env (totalAttempts world.deferredCommands) world
    · have stretch := drains.refused refuses
      rw [LeaksOn, and_iff_left refuses, Leaks, stretch.connected,
        stretch.refused start longEnough, Leaks]
    · have connected := (drains.accepted refuses).since longEnough
      rw [LeaksOn, Leaks]
      constructor
      · exact fun leaks => absurd connected leaks.2
      · exact fun leaks => absurd leaks.2 refuses
  · have still := connected.grows (drainDeferred_grows env world.deferredCommands.length world)
    constructor
    · exact fun leaks => absurd still leaks.2
    · exact fun leaks => absurd connected leaks.1.2

theorem resolvesAt_unique
    {asked : Asked}
    {first second : Nat}
    (resolvesFirst : ResolvesAt env asked first)
    (resolvesSecond : ResolvesAt env asked second) :
    first = second := by
  rcases Nat.lt_trichotomy first second with earlier | same | later
  · exact absurd (resolvesSecond.1 first earlier).1 resolvesFirst.2
  · exact same
  · exact absurd (resolvesFirst.1 second later).1 resolvesSecond.2

/-- The end of a reconnect, before the deferred commands are drained. -/
structure EndsAs (start : Nat) (leaks : Prop) (after : World) : Prop where
  drainable : VpnCommand.disconnect ∉ after.deferredCommands ∨ ConnectedSince start after
  leaks_iff : LeaksOn env start after ↔ leaks

theorem endsAs_of_connected
    {leaks : Prop}
    (connected : ConnectedSince start after)
    (notLeaks : ¬leaks) :
    EndsAs env start leaks after where
  drainable := .inr connected
  leaks_iff := ⟨fun isLeak => absurd connected isLeak.1.2, fun isLeak => absurd isLeak notLeaks⟩

theorem endsAs_of_left
    {leaks : Prop}
    (left : after.machine.state.isConnected = false)
    (stay : VpnCommand.disconnect ∉ after.deferredCommands)
    (notLeaks : ¬leaks) :
    EndsAs env start leaks after where
  drainable := .inl stay
  leaks_iff :=
    ⟨fun isLeak => absurd (left.symm.trans isLeak.1.1) nofun, fun isLeak => absurd isLeak notLeaks⟩

theorem endsAs_of_empty
    (empty : after.deferredCommands = [])
    (unconnected : ¬ConnectedSince start after) :
    EndsAs env start (after.machine.state.isConnected = true) after where
  drainable := .inl (empty ▸ List.not_mem_nil)
  leaks_iff := by
    rw [LeaksOn, Leaks, empty, and_iff_left unconnected]
    refine and_iff_left ?_
    exact fun _ below => absurd below (Nat.not_lt_zero _)

theorem ResolvesAt.stay
    {asked : Asked}
    {attempt : Nat}
    (resolves : ResolvesAt env asked attempt) :
    VpnCommand.disconnect ∉ deferredBefore env asked attempt := by
  intro member
  obtain ⟨earlier, inRange, member⟩ := List.mem_flatMap.mp member
  exact (resolves.1 earlier (List.mem_range.mp inRange)).2.1 member

variable (name : String)

theorem reconnectLoop_ends
    {world : World}
    (notCancelled : world.timing.reconnectCancelled = false)
    (notDegraded : world.machine.state.isDegraded = false)
    (empty : world.deferredCommands = [])
    {start : Nat}
    (longEnough : start ≤ world.trace.length)
    (unconnected : ¬ConnectedSince start world) :
    EndsAs env start (LoopLeaks env world.asked world.machine.maxRetries)
      ((reconnectLoop env name).run world).2 := by
  let maxAttempts := world.machine.maxRetries
  let ended := (reconnectAttempts env name maxAttempts 1 maxAttempts).run world
  have looped :
      (reconnectAttempts env name world.machine.maxRetries 1
        world.machine.maxRetries).run world = ended :=
    rfl
  rw [reconnectLoop, run_get_bind]
  rw [run_bind, looped]
  by_cases resolved : ∃ misses < maxAttempts, ResolvesAt env world.asked misses
  · obtain ⟨misses, below, resolves⟩ := resolved
    obtain ⟨result, settles⟩ :=
      reconnectAttempts_resolves name maxAttempts 1 maxAttempts notCancelled
        notDegraded below resolves
    have deferred := settles.deferred
    rw [empty, List.nil_append] at deferred
    rw [show ended.1 = .succeeded from result]
    change EndsAs env start _ ended.2
    have leaks : Leaks start ended.2 := by
      refine ⟨settles.connected, ?_⟩
      rw [settles.unconnected start longEnough]
      exact unconnected
    refine ⟨.inl ?_, ?_⟩
    · rw [deferred]
      exact resolves.stay env
    · rw [LeaksOn, and_iff_right leaks, RefusesNext, deferred, settles.asked]
      constructor
      · intro refuses
        exact ⟨misses, below, resolves, refuses⟩
      · rintro ⟨other, -, resolvesOther, refuses⟩
        rw [resolvesAt_unique env resolves resolvesOther]
        exact refuses
  · have unresolved :
        ∀ misses < maxAttempts, ¬ResolvesAt env world.asked misses :=
      fun misses below resolves => resolved ⟨misses, below, resolves⟩
    have notLeaks : ¬LoopLeaks env world.asked maxAttempts :=
      fun leaks => leaks.elim fun misses holds => unresolved misses holds.1 holds.2.1
    rcases reconnectAttempts_unresolved name maxAttempts 1 maxAttempts
      notCancelled unresolved with connected | ends
    · refine endsAs_of_connected env ?_ notLeaks
      have connected : ConnectedSince start ended.2 := ConnectedSince.since connected longEnough
      cases ended.1 with
      | failed => exact connected.grows (List.prefix_refl _)
      | returned => exact connected
      | succeeded => exact connected
    · have stay : VpnCommand.disconnect ∉ ended.2.deferredCommands :=
        ends.stay (empty ▸ List.not_mem_nil)
      have left : ended.1 ≠ .failed → ended.2.machine.state.isConnected = false :=
        ends.ends.resolve_left
      cases result : ended.1 with
      | failed => exact endsAs_of_left env rfl stay notLeaks
      | _ =>
        rw [result] at left
        exact endsAs_of_left env (left nofun) stay notLeaks

/-- A reconnect that is not put off ends in `Connected` by itself. -/
def StartLeaks (name : String) (world : World) : Prop :=
  match env.active world.asked.active with
  | some _ => True
  | none =>
    if (env.listed world.asked.list).contains name then
      LoopLeaks env
        { world.asked with
          active := world.asked.active + 1
          list := world.asked.list + 1 }
        world.machine.maxRetries
    else
      world.machine.state.isConnected = true

/-- A reconnect ends in `Connected` by itself. -/
def ReconnectLeaks (name : String) (world : World) : Prop :=
  if isDebounced world then world.machine.state.isConnected = true
  else StartLeaks env name world

theorem EndsAs.congr
    {leaks leaks' : Prop}
    (ends : EndsAs env start leaks after)
    (same : leaks ↔ leaks') :
    EndsAs env start leaks' after :=
  ⟨ends.drainable, ends.leaks_iff.trans same⟩

theorem Unasked.endsAs
    (unasked : Unasked before after)
    (empty : before.deferredCommands = [])
    (longEnough : start ≤ before.trace.length)
    (unconnected : ¬ConnectedSince start before) :
    EndsAs env start (before.machine.state.isConnected = true) after := by
  rw [← unasked.connected]
  refine endsAs_of_empty env (unasked.deferred.trans empty) ?_
  rw [unasked.refused start longEnough]
  exact unconnected

theorem reconnectImpossible_unasked (name : String) :
    Keeps Unasked (reconnectImpossible env name) := by
  refine .bind ?_ fun _ => refreshConnections_unasked env
  exact dispatchAndSync_unasked fun machine => machine.isConnected_afterEvent_connectionFailed _

theorem startReconnect_asks (world : World) :
    world.trace ++ [.getActiveVpn] <+: ((startReconnect env name).run world).2.trace := by
  let begun : World :=
    { world with
      timing := { world.timing with
        lastReconnectTime := some world.now
        reconnectCancelled := false } }
  have decides :
      world.trace ++ [.getActiveVpn] <+: ((shouldAttemptReconnect env).run begun).2.trace := by
    cases active : env.active begun.asked.active with
    | none =>
      rw [shouldAttemptReconnect_none active]
      exact List.prefix_refl _
    | some conn =>
      rw [shouldAttemptReconnect_active active]
      exact (dispatchAndSync_proceeds (.nmVpnUp conn) ((getActiveVpn env).run begun).2).grows
  have continues :
      ∀ proceeds : Bool,
        Keeps TraceGrows
          (if proceeds then do
            let available ← listVpnConnections env
            if available.contains name then reconnectLoop env name
            else reconnectImpossible env name
          else pure ()) := by
    intro proceeds
    refine .of_preserves fun start => ?_
    have steps := @(grows_ignores start).steps env
    refine .either ?_ .pure
    refine .bind steps.listVpnConnections ?_
    intro available
    refine .either ?_ ?_
    · exact steps.reconnectLoop (fun _ before => before)
        (fun _ _ _ _ => (grows_ignores start).forces _) trivial
    · exact .seq (steps.tell rfl) steps.refreshConnections
  exact decides.trans (continues _ _)

theorem attemptReconnectInner_grows (name : String) :
    Keeps TraceGrows (attemptReconnectInner env name) := by
  refine .get ?_
  intro world
  refine .either .pure ?_
  intro begun
  exact (List.prefix_append _ _).trans (startReconnect_asks env name begun)

section Start

variable
  {world : World}
  {start : Nat}
  (notDegraded : world.machine.state.isDegraded = false)
  (empty : world.deferredCommands = [])
  (longEnough : start ≤ world.trace.length)
  (unconnected : ¬ConnectedSince start world)

include notDegraded empty longEnough unconnected

theorem proceed_ends
    (name : String)
    (notCancelled : world.timing.reconnectCancelled = false) :
    EndsAs env start
      (if (env.listed world.asked.list).contains name then
        LoopLeaks env { world.asked with list := world.asked.list + 1 } world.machine.maxRetries
      else world.machine.state.isConnected = true)
      ((do
        let available ← listVpnConnections env
        if available.contains name then reconnectLoop env name
        else reconnectImpossible env name : StateM World Unit).run
          world).2 := by
  let told := ((listVpnConnections env).run world).2
  have unasked : Unasked world told := listVpnConnections_unasked env world
  rw [run_bind]
  change EndsAs env start _ ((if (env.listed world.asked.list).contains name then
    reconnectLoop env name else reconnectImpossible env name).run told).2
  cases (env.listed world.asked.list).contains name with
  | true =>
    rw [if_pos rfl, if_pos rfl]
    have stillUnconnected : ¬ConnectedSince start told := by
      rw [unasked.refused start longEnough]
      exact unconnected
    exact @reconnectLoop_ends env name told notCancelled notDegraded empty
      start (longEnough.trans unasked.grows.length_le) stillUnconnected
  | false =>
    rw [if_neg Bool.false_ne_true, if_neg Bool.false_ne_true]
    have gives := reconnectImpossible_unasked env name told
    exact (IsTrans.trans _ _ _ unasked gives).endsAs env empty longEnough unconnected

theorem startReconnect_ends (name : String) :
    EndsAs env start (StartLeaks env name world) ((startReconnect env name).run world).2 := by
  let begun : World :=
    { world with
      timing := { world.timing with
        lastReconnectTime := some world.now
        reconnectCancelled := false } }
  have opened :
      (startReconnect env name).run world =
        (do
          if ← shouldAttemptReconnect env then do
            let available ← listVpnConnections env
            if available.contains name then reconnectLoop env name
            else reconnectImpossible env name
          else pure () : StateM World Unit).run begun :=
    rfl
  rw [opened, run_bind, StartLeaks]
  cases active : env.active world.asked.active with
  | some conn =>
    obtain ⟨refuses, settles⟩ := @shouldAttemptReconnect_some env begun conn active notDegraded
    rw [refuses, if_neg Bool.false_ne_true]
    have ends :=
      endsAs_of_empty env (settles.deferred.trans empty)
        (fun connected => unconnected ((settles.unconnected start longEnough).mp connected))
    exact ends.congr env (iff_of_true settles.connected trivial)
  | none =>
    have proceeds := @shouldAttemptReconnect_none env begun active
    rw [proceeds, if_pos rfl]
    let told := ((getActiveVpn env).run begun).2
    have unasked : Unasked begun told := getActiveVpn_unasked env begun
    have stillUnconnected : ¬ConnectedSince start told := by
      rw [unasked.refused start longEnough]
      exact unconnected
    exact @proceed_ends env told start notDegraded empty
      (longEnough.trans unasked.grows.length_le) stillUnconnected name rfl

theorem attemptReconnectInner_ends (name : String) :
    EndsAs env start (ReconnectLeaks env name world)
      ((attemptReconnectInner env name).run world).2 := by
  rw [attemptReconnectInner, run_get_bind]
  rw [ReconnectLeaks]
  cases isDebounced world with
  | true => exact endsAs_of_empty env empty unconnected
  | false =>
    exact startReconnect_ends env notDegraded empty longEnough unconnected name

end Start

/-- Between two events no reconnect is going on and no command waits. -/
structure Idle (world : World) : Prop where
  queue : world.deferredCommands = []
  inProgress : world.timing.reconnectInProgress = false

theorem Idle.proceeds
    {before after : World}
    (idle : Idle before)
    (proceeds : Proceeds before after) :
    Idle after :=
  ⟨proceeds.deferred.trans idle.queue, proceeds.inProgress.trans idle.inProgress⟩

/-- The flag of a running reconnect, set or cleared. -/
def markReconnect (running : Bool) (world : World) : World :=
  { world with
    timing := { world.timing with reconnectInProgress := running } }

/-- The supervisor after a reconnect, before the drain. -/
def reconnected (name : String) (world : World) : World :=
  markReconnect false ((attemptReconnectInner env name).run (markReconnect true world)).2

theorem reconnected_eq (world : World) :
    reconnected env name world =
      markReconnect false
        ((if isDebounced world then pure ()
          else startReconnect env name : StateM World Unit).run
            (markReconnect true world)).2 :=
  rfl

theorem attemptReconnect_run (idle : Idle world) :
    (attemptReconnect env name).run world =
      (drainDeferred env
        (reconnected env name world).deferredCommands.length).run (reconnected env name world) := by
  rw [attemptReconnect, run_get_bind]
  rw [idle.inProgress, if_neg Bool.false_ne_true]
  rfl

theorem attemptReconnect_idle (idle : Idle world) :
    Idle ((attemptReconnect env name).run world).2 := by
  rw [attemptReconnect_run env name idle]
  obtain ⟨queue, inProgress⟩ := @drainDeferred_idle env _ (reconnected env name world) rfl rfl
  exact ⟨queue, inProgress⟩

theorem idle_ignores :
    Ignores Idle :=
  fun _ _ rest idle =>
    ⟨rest.deferred.trans idle.queue, rest.running.trans idle.inProgress⟩

theorem idle_reconnects (env : Env) :
    Reconnects env (fun _ => True) Idle := by
  intro event plain name _
  apply Preserves.bind ((@idle_ignores.steps env).tell plain)
  intro _ world
  exact attemptReconnect_idle env name

/-- Every event of the loop is met in an idle state. -/
theorem idle_between_events
    {env : Env}
    (idle : Idle world)
    (steps : List LoopStep) :
    Idle (runLoop env steps world) := by
  have connecting : ∀ name, Preserves Idle (handleConnect env name) :=
    idle_ignores.handleConnect fun _ _ mark world idle =>
      ⟨idle.queue, (congrArg Prod.fst (mark world)).trans idle.inProgress⟩
  have exits : ∀ reason, Preserves Idle (requestExit reason) :=
    fun _ _ idle => ⟨idle.queue, idle.inProgress⟩
  exact idle_ignores.runLoop connecting exits
    (fun _ idle => ⟨idle.queue, idle.inProgress⟩) (idle_reconnects env) steps idle

theorem attemptReconnect_leaks_iff
    (idle : Idle world)
    (notDegraded : world.machine.state.isDegraded = false)
    (longEnough : start ≤ world.trace.length)
    (unconnected : ¬ConnectedSince start world) :
    Leaks start ((attemptReconnect env name).run world).2 ↔ ReconnectLeaks env name world := by
  have ends :=
    @attemptReconnectInner_ends env (markReconnect true world) start
      notDegraded idle.queue longEnough unconnected name
  have grows : world.trace.length ≤ (reconnected env name world).trace.length :=
    (attemptReconnectInner_grows env name (markReconnect true world)).length_le
  rw [attemptReconnect_run env name idle,
    drainDeferred_leaks_iff env (longEnough.trans grows) ends.drainable]
  exact ends.leaks_iff

/-- The verdict on the outcome of a probe. -/
def verdict (world : World) (outcome : ProbeOutcome) : HealthResult :=
  (world.healthChecker.evaluate (env.resolvConf world.asked.resolvConf) outcome).1

/-- A leak signal that the supervisor does not act upon. -/
def LeakStays (server : String) (world : World) (outcome : ProbeOutcome) :
    Prop :=
  (∃ reason, verdict env world outcome = .dead reason) ∧
    world.shared.autoReconnect = true ∧ ReconnectLeaks env server world

theorem healthDead_state
    {machine : StateMachine}
    (isServer : machine.state = .connected server ∨ machine.state = .degraded server) :
    (machine.afterEvent .healthDead).isDegraded = false ∧
      (machine.afterEvent .healthDead).isConnected = machine.state.isConnected := by
  rcases isServer with connected | degraded
  · rw [StateMachine.afterEvent_healthDead_connected connected, connected]
    exact ⟨rfl, rfl⟩
  · rw [StateMachine.afterEvent_healthDead_degraded degraded, degraded]
    exact ⟨rfl, rfl⟩

theorem finishHealthCheck_run
    (isServer : world.machine.state = .connected server ∨ world.machine.state = .degraded server)
    (outcome : ProbeOutcome) :
    (finishHealthCheck env outcome).run world =
      (applyVerdict env server (verdict env world outcome)).run
        ((evaluateProbe env outcome).run world).2 := by
  rw [finishHealthCheck, run_get_bind]
  rcases isServer with connected | degraded
  · rw [connected]
    rfl
  · rw [degraded]
    rfl

theorem reconnectLeaks_congr
    {world' : World}
    (timing : world'.timing = world.timing)
    (now : world'.now = world.now)
    (reads : Nat)
    (asked : world'.asked = { world.asked with resolvConf := reads })
    (maxRetries : world'.machine.maxRetries = world.machine.maxRetries)
    (connected : world'.machine.state.isConnected = world.machine.state.isConnected) :
    ReconnectLeaks env name world' ↔ ReconnectLeaks env name world := by
  have debounced : isDebounced world' = isDebounced world := by
    rw [isDebounced, isDebounced, timing, now]
  rw [ReconnectLeaks, ReconnectLeaks, StartLeaks, StartLeaks, debounced,
    connected, maxRetries, asked]
  rfl

theorem leaks_iff {world : World} :
    (world.machine.state.isConnected = false ∨ ConnectedSince start world) ↔
      ¬Leaks start world := by
  rw [Leaks, not_and, not_not]
  cases world.machine.state.isConnected <;> simp

theorem dead_leaks_iff
    (idle : Idle world)
    (isServer : world.machine.state = .connected server ∨ world.machine.state = .degraded server)
    (reads : Nat)
    (checker : HealthChecker) :
    let probed : World :=
      { world with
        healthChecker := checker
        asked := { world.asked with resolvConf := reads } }
    Leaks world.trace.length
        ((attemptReconnect env server).run ((dispatchAndSync .healthDead).run probed).2).2 ↔
      ReconnectLeaks env server world := by
  intro probed
  let fallen := ((dispatchAndSync .healthDead).run probed).2
  have machine : fallen.machine = (world.machine.handleEvent .healthDead).2 :=
    dispatchAndSync_machine .healthDead probed
  have same := dispatchAndSync_eventOnly .healthDead probed
  obtain ⟨notDegraded, connected⟩ := healthDead_state isServer
  have idleFallen : Idle fallen :=
    ⟨same.deferred.trans idle.queue,
      (congrArg TimingState.reconnectInProgress same.timing).trans idle.inProgress⟩
  have sameTrace : fallen.trace = world.trace := same.trace
  have unconnected : ¬ConnectedSince world.trace.length fallen := by
    rw [ConnectedSince, sameTrace, List.drop_length]
    simp
  have leaks :=
    attemptReconnect_leaks_iff env server idleFallen
      (by rw [machine]; exact notDegraded)
      (Nat.le_of_eq (congrArg List.length sameTrace.symm)) unconnected
  refine leaks.trans (reconnectLeaks_congr env server same.timing ?_ reads same.asked ?_ ?_)
  · exact congrArg (fun kill : KsWorld => kill.host.now) same.kill
  · rw [machine, StateMachine.handleEvent_maxRetries]
  · rw [machine]
    exact connected

theorem degraded_leaves
    {world : World}
    {server : String}
    (isServer : world.machine.state = .connected server ∨ world.machine.state = .degraded server)
    (latency : Nat) :
    ((applyVerdict env server (.degraded latency)).run
      world).2.machine.state.isConnected = false := by
  rw [applyVerdict, run_get_bind]
  rcases isServer with connected | degraded
  · have machine := dispatchAndSync_machine .healthDegraded world
    have next := StateMachine.afterEvent_healthDegraded connected
    rw [StateMachine.afterEvent] at next
    rw [connected, VpnState.isConnected, if_pos rfl, machine, next]
    rfl
  · have left : world.machine.state.isConnected = false := congrArg VpnState.isConnected degraded
    rw [left, if_neg Bool.false_ne_true]
    exact left

theorem leak_signal_leaves_connected_iff
    (world : World)
    (outcome : ProbeOutcome)
    (server : String)
    (idle : Idle world)
    (isServer : world.machine.state = .connected server ∨ world.machine.state = .degraded server)
    (signal : verdict env world outcome ≠ .healthy) :
    (((finishHealthCheck env outcome).run
          world).2.machine.state.isConnected = false ∨
        ConnectedSince world.trace.length ((finishHealthCheck env outcome).run world).2) ↔
      ¬LeakStays env server world outcome := by
  rw [leaks_iff, not_iff_not, finishHealthCheck_run env isServer outcome, LeakStays]
  let probed := ((evaluateProbe env outcome).run world).2
  cases isVerdict : verdict env world outcome with
  | healthy => exact absurd isVerdict signal
  | degraded latency =>
    refine iff_of_false ?_ ?_
    · intro leaks
      have left := @degraded_leaves env probed server isServer latency
      exact Bool.false_ne_true (left.symm.trans leaks.1)
    · rintro ⟨⟨reason, isDead⟩, -⟩
      exact HealthResult.noConfusion isDead
  | dead reason =>
    rw [applyVerdict, run_get_bind]
    rw [show probed.shared.autoReconnect = world.shared.autoReconnect from rfl]
    cases world.shared.autoReconnect with
    | false =>
      refine iff_of_false ?_ ?_
      · exact fun leaks => Bool.false_ne_true leaks.1
      · exact fun stays => Bool.false_ne_true stays.2.1
    | true =>
      rw [if_pos rfl, and_iff_right ⟨reason, rfl⟩, and_iff_right rfl]
      exact dead_leaks_iff env idle isServer _ _

def watchedWorld (state : VpnState) : World :=
  { restingWorld with
    machine := { restingWorld.machine with state := state }
    shared := { restingWorld.shared with state := state }
    healthChecker := .withConfig
      { HealthConfig.default with expectedExitIp := some "203.0.113.7" } }

def leakingProbe : ProbeOutcome where
  hit := some
    { endpoint := "https://api.ipify.org"
      latencyMs := 40
      body := "198.51.100.9" }

theorem watchedWorld_idle (state : VpnState) :
    Idle (watchedWorld state) :=
  ⟨rfl, rfl⟩

theorem idle_after_drop :
    Idle (runLoop calmEnv [.dbusEvent (.vpnDeactivated "berlin")]
      (watchedWorld (.connected "berlin"))) :=
  idle_between_events (watchedWorld_idle _) _

theorem verdict_leakingProbe (state : VpnState) :
    verdict calmEnv (watchedWorld state) leakingProbe =
      .dead "IP leak detected: expected 203.0.113.7, got 198.51.100.9" := by
  have same :
      verdict calmEnv (watchedWorld state) leakingProbe =
        verdict calmEnv (watchedWorld .disconnected) leakingProbe :=
    rfl
  rw [same]
  decide +kernel

theorem leak_signal_leaves_connected_degraded :
    ((finishHealthCheck calmEnv leakingProbe).run
          (watchedWorld (.degraded "berlin"))).2.machine.state.isConnected =
        false ∨
      ConnectedSince 0
        ((finishHealthCheck calmEnv leakingProbe).run (watchedWorld (.degraded "berlin"))).2 := by
  have signal : verdict calmEnv (watchedWorld (.degraded "berlin")) leakingProbe ≠ .healthy := by
    rw [verdict_leakingProbe]
    exact nofun
  refine (leak_signal_leaves_connected_iff calmEnv
    (watchedWorld (.degraded "berlin")) leakingProbe "berlin"
    (watchedWorld_idle _) (.inr rfl) signal).mpr ?_
  -- nothing is active, and the VPN is no longer known
  rintro ⟨-, -, leaks⟩
  have connected : (watchedWorld (.degraded "berlin")).machine.state.isConnected = true :=
    leaks
  exact Bool.noConfusion connected

/-- A host on which NetworkManager still reports the VPN. -/
def leakyEnv : Env :=
  { calmEnv with active := fun _ => some "berlin" }

/-- The exit address is wrong, and the state stays `Connected`. -/
theorem leak_signal_ignored :
    verdict leakyEnv (watchedWorld (.connected "berlin")) leakingProbe =
        .dead "IP leak detected: expected 203.0.113.7, got 198.51.100.9" ∧
      ((finishHealthCheck leakyEnv leakingProbe).run
        (watchedWorld (.connected "berlin"))).2.machine.state = .connected "berlin" ∧
      ((finishHealthCheck leakyEnv leakingProbe).run
        (watchedWorld (.connected "berlin"))).2.trace = [.getActiveVpn] := by
  refine ⟨verdict_leakingProbe _, ?_⟩
  decide +kernel

end Shroud.Supervisor
