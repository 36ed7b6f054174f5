import Shroud.NmTracking

namespace Shroud.Supervisor

open StateProgram

/-!
# Queries that fail

The client turns a failed run of `nmcli` into the answer that no VPN is active.
The handlers cannot tell the two apart, so a failed query looks to them like a
VPN that is gone.
-/

/-- The call asks and changes nothing. -/
def isQuery : NmCall → Bool
  | .connect _ _ => false
  | .disconnect _ _ => false
  | _ => true

/-- Since the trace had a given length there were only queries. -/
def AsksOnly (start : Nat) (world : World) : Prop :=
  ∀ call ∈ world.trace.drop start, isQuery call = true

/-- The state is as it was, and NetworkManager was only asked. -/
structure Untouched (before after : World) : Prop where
  state : after.machine.state = before.machine.state
  asksOnly : AsksOnly before.trace.length after

variable {start : Nat} {before after : World}

theorem AsksOnly.of_grows
    (asks : AsksOnly start after)
    (grows : TraceGrows before after) :
    AsksOnly start before :=
  fun call member => asks call ((grows.drop start).subset member)

theorem asksOnly_self (world : World) :
    AsksOnly world.trace.length world := by
  intro call member
  rw [List.drop_length] at member
  exact absurd member List.not_mem_nil

theorem AsksOnly.query
    {query : NmCall}
    (asks : AsksOnly start before)
    (longEnough : start ≤ before.trace.length)
    (extended : after.trace = before.trace ++ [query])
    (only : isQuery query = true) :
    AsksOnly start after := by
  intro call member
  rw [extended, List.drop_append_of_le_length longEnough] at member
  rcases List.mem_append.mp member with earlier | last
  · exact asks call earlier
  · rw [List.mem_singleton.mp last]
    exact only

theorem AsksOnly.congr
    (asks : AsksOnly start before)
    (same : after.trace = before.trace) :
    AsksOnly start after := by
  rw [AsksOnly, same]
  exact asks

/-- How a reconnect ends that may find the VPN up. -/
structure Returns (server : String) (start : Nat) (found : Prop)
    (after : World) : Prop where
  back :
    found →
      after.machine.state = .connected server ∧ AsksOnly start after ∧ after.deferredCommands = []
  away :
    ¬found →
      after.machine.state ≠ .connected server ∧ after.deferredCommands = [] ∨ ¬AsksOnly start after

section Reconnecting

variable {env : Env} {server : String} {start : Nat} {world : World}

theorem returns_of_settled
    {found : Prop}
    (empty : world.deferredCommands = [])
    (asks : AsksOnly start world)
    (isBack : world.machine.state = .connected server ↔ found) :
    Returns server start found world where
  back holds := ⟨isBack.mpr holds, asks, empty⟩
  away fails := .inl ⟨fun connected => fails (isBack.mp connected), empty⟩

theorem returns_of_called
    {found : Prop}
    (called : ¬AsksOnly start world)
    (fails : ¬found) :
    Returns server start found world where
  back holds := absurd holds fails
  away _ := .inr called

theorem Returns.congr
    {found other : Prop}
    (returns : Returns server start found world)
    (same : found ↔ other) :
    Returns server start other world where
  back holds := returns.back (same.mpr holds)
  away fails := returns.away (fun holds => fails (same.mp holds))

theorem told_returns
    {active : String}
    (notUp : world.machine.state.isUp = false)
    (empty : world.deferredCommands = [])
    (asks : AsksOnly start world) :
    Returns server start (active = server) ((dispatchAndSync (.nmVpnUp active)).run world).2 := by
  have same := dispatchAndSync_eventOnly (.nmVpnUp active) world
  apply returns_of_settled (same.deferred.trans empty) (asks.congr same.trace)
  rw [nmVpnUp_state, notUp, if_neg Bool.false_ne_true]
  simp

theorem reconnectOnce_calls
    (attempt maxAttempts : Nat)
    (longEnough : start ≤ world.trace.length) :
    ¬AsksOnly start ((reconnectOnce env server attempt maxAttempts).run world).2 := by
  rw [reconnectOnce_run]
  let backed := backedOff env server attempt maxAttempts world
  have sameTrace : backed.trace = world.trace := rfl
  have acted :
      ∀ {after call},
        after.trace = backed.trace ++ [call] → isQuery call = false → ¬AsksOnly start after := by
    intro after call extended acts asks
    have member : call ∈ after.trace.drop start := by
      rw [extended, sameTrace, List.drop_append_of_le_length longEnough]
      exact List.mem_append_right _ (List.mem_singleton_self _)
    rw [asks call member] at acts
    exact Bool.noConfusion acts
  cases (env.arrivals world.asked.windows).contains .disconnect with
  | true => exact acted rfl rfl
  | false =>
    have verifies :
        ∀ ok : Bool,
          Keeps TraceGrows
            (if ok then verifyConnection env server
              else pure .failed : StateM World AttemptEnd) :=
      fun ok => .either (verifyConnection_grows server) .pure
    rw [if_neg Bool.false_ne_true, run_bind]
    intro asks
    exact acted rfl rfl (asks.of_grows (verifies _ _))

/-- The loop finds the VPN up before it asks for it. -/
def LoopFinds (env : Env) (server : String) (world : World) : Prop :=
  0 < world.machine.maxRetries ∧ env.active world.asked.active = some server

theorem afterLoop_grows
    (server reason : String)
    (result : AttemptEnd) :
    Keeps TraceGrows
      (match result with
      | .failed => setStateAndSync (.failed server reason)
      | _ => pure () : StateM World Unit) := by
  cases result with
  | failed => exact fun _ => List.prefix_refl _
  | returned => exact .pure
  | succeeded => exact .pure

section Begun

variable
  (notUp : world.machine.state.isUp = false)
  (empty : world.deferredCommands = [])
  (longEnough : start ≤ world.trace.length)
  (asks : AsksOnly start world)

include notUp empty longEnough asks

theorem reconnectLoop_returns
    (notCancelled : world.timing.reconnectCancelled = false) :
    Returns server start (LoopFinds env server world) ((reconnectLoop env server).run world).2 := by
  rw [reconnectLoop, run_bind, run_get, LoopFinds]
  dsimp only
  rw [run_bind]
  cases world.machine.maxRetries with
  | zero =>
    refine returns_of_settled empty (asks.congr rfl) ?_
    refine iff_of_false ?_ fun finds => Nat.lt_irrefl 0 finds.1
    exact VpnState.noConfusion
  | succ remaining =>
    rw [reconnectAttempts_succ, and_iff_right (Nat.succ_pos remaining)]
    cases active : env.active world.asked.active with
    | some conn =>
      rw [reconnectAttempt_run server 1 (remaining + 1) notCancelled,
        shouldAttemptReconnect_active active]
      have told :=
        @told_returns server start ((getActiveVpn env).run world).2 conn
          notUp empty (asks.query longEnough rfl rfl)
      exact told.congr (by simp)
    | none =>
      rw [reconnectAttempt_inactive server 1 (remaining + 1) notCancelled active]
      refine returns_of_called ?_ (by simp)
      intro stillAsks
      have asked := stillAsks.of_grows (afterLoop_grows server _ _ _)
      exact reconnectOnce_calls 1 (remaining + 1)
        (longEnough.trans (List.prefix_append _ _).length_le)
        (asked.of_grows (afterAttempt_grows server (remaining + 1) 2 remaining _ _))

/-- A reconnect that is not put off finds the VPN up. -/
def StartFinds (env : Env) (server : String) (world : World) : Prop :=
  match env.active world.asked.active with
  | some active => active = server
  | none =>
    (env.listed world.asked.list).contains server = true ∧
      0 < world.machine.maxRetries ∧ env.active (world.asked.active + 1) = some server

theorem proceed_returns
    (notCancelled : world.timing.reconnectCancelled = false) :
    Returns server start
      ((env.listed world.asked.list).contains server = true ∧ LoopFinds env server world)
      ((do
        let available ← listVpnConnections env
        if available.contains server then reconnectLoop env server
        else reconnectImpossible env server : StateM World Unit).run
          world).2 := by
  let told := ((listVpnConnections env).run world).2
  have stillAsks : AsksOnly start told := asks.query longEnough rfl rfl
  have grown : start ≤ told.trace.length := longEnough.trans (List.prefix_append _ _).length_le
  have available : ((listVpnConnections env).run world).1 = env.listed world.asked.list :=
    rfl
  rw [run_bind, available]
  cases (env.listed world.asked.list).contains server with
  | true =>
    rw [if_pos rfl, and_iff_right rfl]
    exact @reconnectLoop_returns env server start told notUp empty grown stillAsks notCancelled
  | false =>
    rw [if_neg Bool.false_ne_true, reconnectImpossible, run_bind]
    let failed :=
      ((dispatchAndSync (.connectionFailed ("VPN '" ++ server ++ "' no longer exists"))).run told).2
    have same : EventOnly told failed := dispatchAndSync_eventOnly _ told
    have state : failed.machine.state ≠ .connected server := by
      rw [dispatchAndSync_machine]
      intro connected
      have kept :=
        told.machine.isConnected_afterEvent_connectionFailed
          ("VPN '" ++ server ++ "' no longer exists")
      have wasConnected : told.machine.state.isConnected = true := by
        rw [← kept, StateMachine.afterEvent, connected]
        rfl
      have up : told.machine.state.isUp = true := by
        rw [VpnState.isUp, wasConnected]
        rfl
      exact Bool.false_ne_true (notUp.symm.trans up)
    have longer : start ≤ failed.trace.length := by
      rw [same.trace]
      exact grown
    refine returns_of_settled (same.deferred.trans empty) ?_ (iff_of_false state (by simp))
    exact (stillAsks.congr same.trace).query longer rfl rfl

theorem startReconnect_returns :
    Returns server start (StartFinds env server world)
      ((startReconnect env server).run world).2 := by
  let begun : World :=
    { world with
      timing := { world.timing with
        lastReconnectTime := some world.now
        reconnectCancelled := false } }
  let told := ((getActiveVpn env).run begun).2
  have stillAsks : AsksOnly start told := asks.query longEnough rfl rfl
  have begins :
      ((modify fun world =>
        { world with
          timing := { world.timing with
            lastReconnectTime := some world.now
            reconnectCancelled := false } } : StateM World PUnit).run
              world).2 = begun :=
    rfl
  rw [startReconnect, run_bind, begins, run_bind, StartFinds]
  cases active : env.active world.asked.active with
  | some conn =>
    rw [@shouldAttemptReconnect_active env begun conn active, if_neg Bool.false_ne_true]
    exact told_returns notUp empty stillAsks
  | none =>
    rw [@shouldAttemptReconnect_none env begun active, if_pos rfl]
    exact @proceed_returns env server start told notUp empty
      (longEnough.trans (List.prefix_append _ _).length_le) stillAsks rfl

/-- A reconnect finds the VPN up where it was. -/
def ReconnectFinds (env : Env) (server : String) (world : World) : Prop :=
  isDebounced world = false ∧ StartFinds env server world

theorem attemptReconnectInner_returns :
    Returns server start (ReconnectFinds env server world)
      ((attemptReconnectInner env server).run world).2 := by
  rw [attemptReconnectInner, run_bind, run_get, ReconnectFinds]
  dsimp only
  cases isDebounced world with
  | true =>
    refine returns_of_settled empty asks (iff_of_false ?_ (fun finds => Bool.noConfusion finds.1))
    intro connected
    rw [if_pos rfl, run_pure] at connected
    rw [connected] at notUp
    exact Bool.noConfusion notUp
  | false =>
    rw [if_neg Bool.false_ne_true, and_iff_right rfl]
    exact startReconnect_returns notUp empty longEnough asks

end Begun

/-- A reconnect that leaves everything as it was before the VPN was lost. -/
theorem attemptReconnect_returns_iff
    (idle : Idle world)
    (notUp : world.machine.state.isUp = false)
    (longEnough : start ≤ world.trace.length)
    (asks : AsksOnly start world) :
    ((attemptReconnect env server).run world).2.machine.state =
          .connected server ∧
        AsksOnly start ((attemptReconnect env server).run world).2 ↔
      ReconnectFinds env server world := by
  have returns :=
    @attemptReconnectInner_returns env server start
      (markReconnect true world) notUp idle.queue longEnough asks
  have back := returns.back
  have away := returns.away
  let after := reconnected env server world
  rw [attemptReconnect_run env server idle]
  constructor
  · rintro ⟨connected, stillAsks⟩
    by_contra lost
    rcases away lost with ⟨other, empty⟩ | called
    · have queue : after.deferredCommands = [] := empty
      rw [queue] at connected
      exact other connected
    · have drained := drainDeferred_grows env after.deferredCommands.length after
      exact called (stillAsks.of_grows drained)
  · intro found
    obtain ⟨connected, stillAsks, empty⟩ := back found
    have queue : after.deferredCommands = [] := empty
    rw [queue]
    exact ⟨connected, stillAsks⟩

end Reconnecting

section Handlers

variable (env : Env) {world : World}

theorem compareWithNm_none_idle
    (notConnected : world.machine.state.isConnected = false) :
    (compareWithNm env none).run world = ((), world) := by
  rw [compareWithNm, run_get_bind]
  cases state : world.machine.state with
  | connected server =>
    rw [state] at notConnected
    exact Bool.noConfusion notConnected
  | _ => rfl

variable {server : String}

theorem compareWithNm_none_connected
    (connected : world.machine.state = .connected server) :
    (compareWithNm env none).run world = (noteDropped env server).run world := by
  rw [compareWithNm, run_get_bind]
  rw [connected]

theorem nmVpnDown_state (connected : world.machine.state = .connected server) :
    ((dispatchAndSync .nmVpnDown).run world).2.machine.state =
      .reconnecting server 1 world.machine.maxRetries := by
  rw [dispatchAndSync_machine]
  exact StateMachine.afterEvent_nmVpnDown_connected connected

theorem reconnectFinds_congr
    (same : EventOnly before after)
    (retries : after.machine.maxRetries = before.machine.maxRetries) :
    ReconnectFinds env server after ↔ ReconnectFinds env server before := by
  rw [ReconnectFinds, ReconnectFinds, isDebounced, isDebounced, StartFinds,
    StartFinds, World.now, World.now, same.timing, same.kill, same.asked,
    retries]

theorem noteDropped_untouched_iff
    {start : Nat}
    (idle : Idle world)
    (connected : world.machine.state = .connected server)
    (longEnough : start ≤ world.trace.length)
    (asks : AsksOnly start world) :
    ((noteDropped env server).run world).2.machine.state =
          .connected server ∧
        AsksOnly start ((noteDropped env server).run world).2 ↔
      world.shared.autoReconnect = true ∧ ReconnectFinds env server world := by
  rw [noteDropped, run_get_bind]
  cases world.shared.autoReconnect with
  | false =>
    refine iff_of_false ?_ fun both => Bool.false_ne_true both.1
    exact fun both => VpnState.noConfusion both.1
  | true =>
    rw [if_pos rfl, run_bind, and_iff_right rfl]
    let fallen := ((dispatchAndSync .nmVpnDown).run world).2
    have same : EventOnly world fallen := dispatchAndSync_eventOnly _ world
    have retries : fallen.machine.maxRetries = world.machine.maxRetries := by
      rw [dispatchAndSync_machine, StateMachine.handleEvent_maxRetries]
    have notUp : fallen.machine.state.isUp = false := by
      rw [nmVpnDown_state connected]
      rfl
    have stillIdle : Idle fallen := idle.proceeds (dispatchAndSync_proceeds .nmVpnDown world)
    rw [← reconnectFinds_congr env same retries]
    apply attemptReconnect_returns_iff stillIdle notUp
    · rw [same.trace]
      exact longEnough
    · exact asks.congr same.trace

theorem poll_untouched_iff
    (idle : Idle world)
    (failed : env.allActive world.asked.allActive = []) :
    Untouched world ((pollNmState env).run world).2 ↔
      isPollSkipped world = true ∨
        world.machine.state.isConnected = false ∨
        (world.shared.autoReconnect = true ∧
          ∃ server, world.machine.state = .connected server ∧
            ReconnectFinds env server (polling env world)) := by
  cases skipped : isPollSkipped world with
  | true =>
    rw [pollNmState_skipped env skipped]
    exact iff_of_true ⟨rfl, asksOnly_self world⟩ (.inl rfl)
  | false =>
    have asks : AsksOnly world.trace.length (polling env world) :=
      (asksOnly_self world).query (Nat.le_refl _) rfl rfl
    rw [pollNmState_run env skipped, failed, or_iff_right Bool.false_ne_true]
    change Untouched world ((compareWithNm env none).run (polling env world)).2 ↔ _
    cases connected : world.machine.state.isConnected with
    | false =>
      rw [@compareWithNm_none_idle env (polling env world) connected]
      exact iff_of_true ⟨rfl, asks⟩ (.inl rfl)
    | true =>
      obtain ⟨server, state⟩ := VpnState.eq_of_isConnected connected
      have dropped :=
        @noteDropped_untouched_iff env (polling env world) server
          world.trace.length ⟨idle.queue, idle.inProgress⟩ state
          (List.prefix_append _ _).length_le asks
      rw [@compareWithNm_none_connected env (polling env world) server state]
      constructor
      · rintro ⟨same, stillAsks⟩
        obtain ⟨auto, finds⟩ := dropped.mp ⟨same.trans state, stillAsks⟩
        exact .inr ⟨auto, server, state, finds⟩
      · rintro (down | ⟨auto, other, isOther, finds⟩)
        · exact Bool.noConfusion down
        · have sameServer : other = server := VpnState.connected.inj (isOther.symm.trans state)
          rw [sameServer] at finds
          obtain ⟨same, stillAsks⟩ := dropped.mpr ⟨auto, finds⟩
          exact ⟨same.trans state.symm, stillAsks⟩

theorem correctState_trace (active : Option String) :
    Keeps (SameView World.trace) (correctState active) := by
  apply correctState_follows
  · exact fun conn _ world =>
      (dispatchAndSync_eventOnly (.nmVpnUp conn) world).trace
  · exact fun _ => rfl
  · exact fun _ => rfl

theorem sync_untouched_iff (failed : env.active world.asked.active = none) :
    Untouched world ((syncStateFromNm env).run world).2 ↔
      world.machine.state.isUp = false ∧
        ((∃ server, world.machine.state = .connecting server) →
          world.shared.autoReconnect = true) := by
  let told := ((getActiveVpn env).run world).2
  have asks : AsksOnly world.trace.length told :=
    (asksOnly_self world).query (Nat.le_refl _) rfl rfl
  have stillAsks : AsksOnly world.trace.length ((syncStateFromNm env).run world).2 :=
    asks.congr (correctState_trace _ told)
  have state := (syncStateFromNm_table env world).2
  rw [failed] at state
  have untouched :
      Untouched world ((syncStateFromNm env).run world).2 ↔
        correctedState world.shared.autoReconnect world.machine.state none =
          world.machine.state := by
    rw [← state]
    exact ⟨Untouched.state, fun same => ⟨same, stillAsks⟩⟩
  rw [untouched]
  cases world.machine.state with
  | connecting server =>
    cases world.shared.autoReconnect <;>
      simp [correctedState, wantedState, VpnState.isUp, VpnState.isConnected, VpnState.isDegraded]
  | _ =>
    simp [correctedState, wantedState, VpnState.isUp, VpnState.isConnected, VpnState.isDegraded]

theorem resyncState_spec
    (active : Option ActiveVpnInfo)
    (world : World) :
    ((resyncState active).run world).2.machine.state =
        (resyncedState world.machine.state active).getD world.machine.state ∧
      ((resyncState active).run world).2.trace = world.trace := by
  rw [resyncState, run_modify]
  dsimp only
  cases resyncedState world.machine.state active <;> exact ⟨rfl, rfl⟩

/-- A resync without an answer forces `Disconnected` on an idle state. -/
theorem resync_untouched_iff
    (failed : env.activeInfo world.asked.activeInfo = none) :
    Untouched world ((forceStateResync env).run world).2 ↔
      world.machine.state.isBusy = true ∨ world.machine.state = .disconnected := by
  -- the supervisor when NetworkManager has answered
  let asked :=
    ((do
      modifyTiming fun timing => { timing with lastDisconnectTime := none }
      refreshConnections env
      getActiveVpnWithState env : StateM World (Option ActiveVpnInfo)).run world).2
  obtain ⟨forced, sameTrace⟩ := resyncState_spec none asked
  rw [← failed] at forced sameTrace
  have state :
      ((forceStateResync env).run world).2.machine.state =
        if world.machine.state.isBusy then world.machine.state
        else .disconnected := by
    refine Eq.trans forced ?_
    rw [failed, resyncedState]
    change (if world.machine.state.isBusy then none
      else some VpnState.disconnected).getD world.machine.state = _
    cases world.machine.state.isBusy <;> rfl
  have trace :
      ((forceStateResync env).run world).2.trace =
        world.trace ++ [.listVpnConnections, .getActiveVpnWithState] :=
    Eq.trans sameTrace (List.append_assoc _ _ _)
  have asks : AsksOnly world.trace.length ((forceStateResync env).run world).2 := by
    intro call member
    rw [trace, List.drop_left] at member
    simp at member
    rcases member with isList | isInfo
    · rw [isList]
      rfl
    · rw [isInfo]
      rfl
  have untouched :
      Untouched world ((forceStateResync env).run world).2 ↔
        (if world.machine.state.isBusy then world.machine.state
          else .disconnected) = world.machine.state := by
    rw [← state]
    exact ⟨Untouched.state, fun same => ⟨same, asks⟩⟩
  rw [untouched]
  cases world.machine.state.isBusy with
  | true => exact iff_of_true rfl (.inl rfl)
  | false =>
    rw [if_neg Bool.false_ne_true, or_iff_right Bool.false_ne_true]
    exact eq_comm

end Handlers

/--
A failed query is not a dropped VPN: the states in which each of the three
handlers leaves the machine alone when its own query has failed.
-/
theorem failed_query_changes_nothing_iff
    (env : Env)
    (world : World)
    (run : NmClient.NmcliRun)
    (failed : run.failed = true) :
    (Idle world →
      env.allActive world.asked.allActive = NmClient.getAllActiveVpns run →
      (Untouched world ((pollNmState env).run world).2 ↔
        isPollSkipped world = true ∨
          world.machine.state.isConnected = false ∨
          (world.shared.autoReconnect = true ∧
            ∃ server, world.machine.state = .connected server ∧
              ReconnectFinds env server (polling env world)))) ∧
    (env.active world.asked.active = NmClient.getActiveVpn run →
      (Untouched world ((syncStateFromNm env).run world).2 ↔
        world.machine.state.isUp = false ∧
          ((∃ server, world.machine.state = .connecting server) →
            world.shared.autoReconnect = true))) ∧
    (env.activeInfo world.asked.activeInfo =
        NmClient.getActiveVpnWithState run →
      (Untouched world ((forceStateResync env).run world).2 ↔
        world.machine.state.isBusy = true ∨ world.machine.state = .disconnected)) := by
  refine ⟨?_, ?_, ?_⟩
  · intro idle answers
    rw [NmClient.getAllActiveVpns_of_failed failed] at answers
    exact poll_untouched_iff env idle answers
  · intro answers
    rw [NmClient.getActiveVpn_of_failed failed] at answers
    exact sync_untouched_iff env answers
  · intro answers
    rw [NmClient.getActiveVpnWithState_of_failed failed] at answers
    exact resync_untouched_iff env answers

theorem failed_query_changes_nothing_connecting :
    Untouched (worldIn (.connecting "berlin"))
        ((pollNmState (answering .timedOut)).run (worldIn (.connecting "berlin"))).2 ∧
      Untouched (worldIn (.connecting "berlin"))
        ((syncStateFromNm (answering .timedOut)).run (worldIn (.connecting "berlin"))).2 ∧
      Untouched (worldIn (.connecting "berlin"))
        ((forceStateResync (answering .timedOut)).run (worldIn (.connecting "berlin"))).2 := by
  obtain ⟨polls, syncs, resyncs⟩ :=
    failed_query_changes_nothing_iff (answering .timedOut)
      (worldIn (.connecting "berlin")) .timedOut rfl
  exact ⟨(polls ⟨rfl, rfl⟩ rfl).mpr (.inr (.inl rfl)),
    (syncs rfl).mpr ⟨rfl, fun _ => rfl⟩, (resyncs rfl).mpr (.inl rfl)⟩

/-- A query that times out is taken for a VPN that is gone. -/
theorem failed_query_drops_vpn :
    let env := answering .timedOut
    let connected := worldIn (.connected "berlin")
    ((pollNmState env).run connected).2.machine.state = .disconnected ∧
      ((syncStateFromNm env).run connected).2.machine.state = .disconnected ∧
      ((forceStateResync env).run connected).2.machine.state = .disconnected := by
  decide +kernel

end Shroud.Supervisor
