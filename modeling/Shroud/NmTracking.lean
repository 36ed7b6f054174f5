import Shroud.ConnectOutcome
import Shroud.LeakSignal

namespace Shroud.Supervisor

open StateProgram

/-!
# How far the machine follows NetworkManager

The supervisor learns from NetworkManager in several places, and each of them
turns what it hears into an event.  A state that has a VPN up has no rule for
most of these events, so the machine keeps the server that it had.
-/

variable
  {world before after : World}
  {server : String}
  {first : ActiveVpnInfo}
  {rest : List ActiveVpnInfo}

section Tables

variable (env : Env)

/-- The state that `sync_state_from_nm` wants to be in, if not the current. -/
def wantedState (autoReconnect : Bool) :
    VpnState → Option String → Option VpnState
  | .disconnected, some conn => some (.connected conn)
  | .connected _, none => some .disconnected
  | .connected server, some conn =>
    if server = conn then none else some (.connected conn)
  | .reconnecting _ _ _, some conn => some (.connected conn)
  | .failed _ _, some conn => some (.connected conn)
  | .degraded server, some conn =>
    if server = conn then none else some (.connected conn)
  | .degraded _, none => some .disconnected
  | .connecting _, none => if autoReconnect then none else some .disconnected
  | _, _ => none

/-- The state that a correction ends in: one that is up is not replaced. -/
def correctedState (autoReconnect : Bool) (state : VpnState)
    (active : Option String) : VpnState :=
  match wantedState autoReconnect state active with
  | none => state
  | some wanted => if state.isUp && active.isSome then state else wanted

theorem nmVpnUp_state
    (name : String)
    (world : World) :
    ((dispatchAndSync (.nmVpnUp name)).run world).2.machine.state =
      if world.machine.state.isUp then world.machine.state
      else .connected name := by
  rw [dispatchAndSync_machine]
  exact world.machine.afterEvent_nmVpnUp name

theorem correctState_table
    (active : Option String)
    (world : World) :
    ((correctState active).run world).1 =
        (wantedState world.shared.autoReconnect world.machine.state active).isSome ∧
      ((correctState active).run world).2.machine.state =
        correctedState world.shared.autoReconnect world.machine.state active := by
  have raised := fun conn => nmVpnUp_state conn world
  rw [correctState, run_bind, run_get, correctedState]
  dsimp only
  cases state : world.machine.state with
  | connecting server =>
    cases active with
    | none =>
      cases world.shared.autoReconnect with
      | true => exact ⟨rfl, state⟩
      | false => exact ⟨rfl, rfl⟩
    | some conn => exact ⟨rfl, state⟩
  | connected server | degraded server =>
    cases active with
    | none => exact ⟨rfl, rfl⟩
    | some conn =>
      dsimp only [wantedState]
      by_cases same : server = conn
      · rw [if_pos same, if_pos same]
        exact ⟨rfl, state⟩
      · rw [if_neg same, if_neg same]
        refine ⟨rfl, (raised conn).trans ?_⟩
        rw [state]
        rfl
  | reconnecting server attempt maxAttempts =>
    cases active with
    | none => exact ⟨rfl, state⟩
    | some conn =>
      refine ⟨rfl, (nmVpnUp_state conn _).trans ?_⟩
      change (if world.machine.state.isUp then _ else _) = _
      rw [state]
      rfl
  | _ =>
    cases active with
    | none => exact ⟨rfl, state⟩
    | some conn =>
      refine ⟨rfl, (raised conn).trans ?_⟩
      rw [state]
      rfl

/-- The state after a poll that finds one VPN, and that one activated. -/
def comparedState (name : String) : VpnState → VpnState
  | .disconnected => .connected name
  | .connected _ => .connected name
  | .connecting target =>
    if target = name then .connected name else .connecting target
  | .failed _ _ => .connected name
  | state => state

theorem nmVpnChanged_state
    (connected : world.machine.state = .connected server)
    (name : String) :
    ((dispatchAndSync (.nmVpnChanged name)).run world).2.machine.state = .connected name := by
  rw [dispatchAndSync_machine]
  exact StateMachine.afterEvent_nmVpnChanged connected name

theorem compareWithNm_activated
    (name : String)
    (world : World) :
    ((compareWithNm env (some ⟨name, .activated⟩)).run
        world).2.machine.state =
      comparedState name world.machine.state := by
  have raised := nmVpnUp_state name world
  rw [compareWithNm, run_get_bind]
  cases state : world.machine.state with
  | connecting target =>
    rw [state] at raised
    dsimp only [comparedState]
    by_cases same : target = name
    · rw [if_pos ⟨rfl, same.symm⟩, if_pos same]
      exact raised
    · rw [if_neg (fun both => same both.2.symm), if_neg same]
      exact state
  | connected server =>
    dsimp only [comparedState]
    by_cases same : server = name
    · rw [if_neg (fun both => both.2 same.symm), ← same]
      exact state
    · rw [if_pos ⟨rfl, fun equal => same equal.symm⟩]
      exact nmVpnChanged_state state name
  | degraded server => exact state
  | reconnecting server attempt maxAttempts => exact state
  | _ =>
    rw [state] at raised
    exact raised

/-- The supervisor of a poll once NetworkManager has answered. -/
def polling (world : World) : World :=
  ((getAllActiveVpns env).run
    { world with
      timing := { world.timing with lastDisconnectTime := none } }).2

theorem pollNmState_skipped (skipped : isPollSkipped world = true) :
    (pollNmState env).run world = ((), world) := by
  rw [pollNmState, run_get_bind]
  rw [if_pos skipped, run_pure]

theorem pollNmState_run (notSkipped : isPollSkipped world = false) :
    (pollNmState env).run world =
      (reconcile env
        (env.allActive world.asked.allActive,
          NmClient.selectBestVpn
            (env.allActive world.asked.allActive))).run (polling env world) := by
  rw [pollNmState, run_get_bind]
  rw [if_neg (by rw [notSkipped]; exact Bool.false_ne_true)]
  rfl

theorem dropExtras_state
    (first : ActiveVpnInfo)
    (rest : List ActiveVpnInfo)
    (world : World) :
    ((dropExtras env first rest).run world).2.machine.state =
      if world.machine.state.serverName =
            some (keepVpn world.machine.state first rest) ∨
          world.machine.state.isUp = true then
        world.machine.state
      else .connected (keepVpn world.machine.state first rest) := by
  rw [dropExtras, run_get_bind]
  rw [run_bind]
  have aside :=
    disconnectAll_aside env (keepVpn world.machine.state first rest) (first :: rest) world
  rw [trackKept, run_get_bind]
  rw [aside.machine]
  by_cases tracked : world.machine.state.serverName = some (keepVpn world.machine.state first rest)
  · rw [if_pos tracked, if_pos (.inl tracked), run_pure, aside.machine]
  · rw [if_neg tracked, nmVpnUp_state, aside.machine]
    by_cases up : world.machine.state.isUp = true
    · rw [if_pos up, if_pos (.inr up)]
    · rw [if_neg up, if_neg (fun either => either.elim tracked up)]

end Tables

/-- The machine is on a given server, with or without good health. -/
def IsOn (name : String) (state : VpnState) : Prop :=
  state = .connected name ∨ state = .degraded name

/-- NetworkManager answers every question as one run of `nmcli` has it. -/
structure Reports (env : Env) (run : NmClient.NmcliRun) : Prop where
  active : ∀ number, env.active number = NmClient.getActiveVpn run
  activeInfo : ∀ number, env.activeInfo number = NmClient.getActiveVpnWithState run
  allActive : ∀ number, env.allActive number = NmClient.getAllActiveVpns run

/--
The states from which the machine gets to the activated VPN, given the list of
the active ones.
-/
def Follows (vpns : List ActiveVpnInfo) (name : String) : VpnState → Prop
  | .connected server => server = name ∨ vpns.length = 1
  | .degraded server => server = name
  | .connecting server =>
    if vpns.length = 1 then server = name
    else
      (∀ vpn ∈ vpns, vpn.name ≠ server) ∧ vpns.head?.map (·.name) = some name
  | _ => True

/-- What the time until a poll depends on is left alone. -/
structure Unhurried (before after : World) : Prop where
  switchCtx : after.switchCtx = before.switchCtx
  lastDisconnectTime : after.timing.lastDisconnectTime = before.timing.lastDisconnectTime
  clock : before.now ≤ after.now

instance : IsPreorder World Unhurried where
  refl _ := ⟨rfl, rfl, Nat.le_refl _⟩
  trans _ _ _ first second :=
    ⟨second.switchCtx.trans first.switchCtx,
      second.lastDisconnectTime.trans first.lastDisconnectTime,
      first.clock.trans second.clock⟩

theorem EventOnly.unhurried (same : EventOnly before after) :
    Unhurried before after where
  switchCtx := same.switchCtx
  lastDisconnectTime := congrArg TimingState.lastDisconnectTime same.timing
  clock := by rw [World.now, World.now, same.kill]

theorem isWithin_later
    {secs : Nat}
    {noted : Option Nat}
    (clock : before.now ≤ after.now)
    (passed : isWithin secs noted before = false) :
    isWithin secs noted after = false := by
  cases noted with
  | none => rfl
  | some time =>
    rw [isWithin, decide_eq_false_iff_not] at passed ⊢
    omega

theorem Unhurried.isPollSkipped
    (unhurried : Unhurried before after)
    (notSkipped : isPollSkipped before = false) :
    isPollSkipped after = false := by
  rw [Supervisor.isPollSkipped, Bool.or_eq_false_iff] at notSkipped ⊢
  rw [inDisconnectGrace, unhurried.switchCtx, unhurried.lastDisconnectTime]
  exact ⟨notSkipped.1, isWithin_later unhurried.clock notSkipped.2⟩

theorem syncStateFromNm_unhurried (env : Env) :
    Keeps Unhurried (syncStateFromNm env) := by
  have asks : Keeps Unhurried (getActiveVpn env) := fun _ => ⟨rfl, rfl, Nat.le_add_right _ _⟩
  apply asks.bind
  intro active
  apply correctState_follows
  · exact fun conn _ world =>
      (dispatchAndSync_eventOnly (.nmVpnUp conn) world).unhurried
  · exact fun world =>
      (setStateAndSync_eventOnly .disconnected world).unhurried
  · exact fun _ => ⟨rfl, rfl, Nat.le_refl _⟩

section Converging

variable {env : Env} {world : World}

theorem syncStateFromNm_table
    (env : Env)
    (world : World) :
    ((syncStateFromNm env).run world).1 =
        (wantedState world.shared.autoReconnect world.machine.state
          (env.active world.asked.active)).isSome ∧
      ((syncStateFromNm env).run world).2.machine.state =
        correctedState world.shared.autoReconnect world.machine.state
          (env.active world.asked.active) :=
  correctState_table _ _

variable {name : String}

theorem mem_of_only_activated
    {vpns : List ActiveVpnInfo}
    (one : vpns.filter (fun vpn => vpn.state == .activated) = [⟨name, .activated⟩]) :
    ⟨name, .activated⟩ ∈ vpns := by
  have member :
      (⟨name, .activated⟩ : ActiveVpnInfo) ∈ vpns.filter (fun vpn => vpn.state == .activated) := by
    rw [one]
    exact List.mem_singleton_self _
  exact (List.mem_filter.mp member).1

theorem keepVpn_of_mem
    {state : VpnState}
    (isServer : state.serverName = some server)
    (member : ∃ vpn ∈ first :: rest, vpn.name = server) :
    keepVpn state first rest = server := by
  have found : (first :: rest).any (fun vpn => vpn.name == server) = true := by
    simpa [List.any_eq_true] using member
  rw [keepVpn, isServer]
  dsimp only
  rw [if_pos found]

theorem keepVpn_of_notMem
    {state : VpnState}
    (isServer : state.serverName = some server)
    (absent : ∀ vpn ∈ first :: rest, vpn.name ≠ server) :
    keepVpn state first rest = first.name := by
  have missing : ¬(first :: rest).any (fun vpn => vpn.name == server) = true := by
    simpa [List.any_eq_true] using absent
  rw [keepVpn, isServer]
  dsimp only
  rw [if_neg missing]

variable (autoReconnect : Bool)

theorem correctedState_some
    (name : String)
    (state : VpnState) :
    correctedState autoReconnect state (some name) =
      match state with
      | .connected server => .connected server
      | .degraded server => .degraded server
      | .connecting server => .connecting server
      | _ => .connected name := by
  cases state with
  | connected server =>
    by_cases same : server = name <;>
      simp [correctedState, wantedState, same, VpnState.isUp, VpnState.isConnected]
  | degraded server =>
    by_cases same : server = name <;>
      simp [correctedState, wantedState, same, VpnState.isUp, VpnState.isDegraded]
  | _ => rfl

theorem isOn_single_iff
    (name : String)
    (state : VpnState) :
    IsOn name
        (comparedState name (correctedState autoReconnect state (some name))) ↔
      Follows [⟨name, .activated⟩] name state := by
  rw [correctedState_some]
  cases state with
  | connecting server =>
    by_cases same : server = name <;>
      simp [IsOn, comparedState, Follows, same]
  | _ => simp [IsOn, comparedState, Follows]

theorem isOn_several_iff
    {second : ActiveVpnInfo}
    (member : ∃ vpn ∈ first :: second :: rest, vpn.name = name)
    (world : World)
    (state : VpnState)
    (synced : world.machine.state = correctedState autoReconnect state (some name)) :
    IsOn name
        ((dropExtras env first (second :: rest)).run world).2.machine.state ↔
      Follows (first :: second :: rest) name state := by
  rw [dropExtras_state, synced, correctedState_some]
  have onConnected : keepVpn (.connected name) first (second :: rest) = name :=
    keepVpn_of_mem rfl member
  cases state with
  | connecting server =>
    have several : ¬(first :: second :: rest).length = 1 := by simp
    rw [Follows, if_neg several]
    by_cases present : ∃ vpn ∈ first :: second :: rest, vpn.name = server
    · have kept :
          keepVpn (.connecting server) first (second :: rest) = server :=
        keepVpn_of_mem rfl present
      rw [kept, if_pos (.inl rfl)]
      obtain ⟨vpn, listed, isServer⟩ := present
      refine iff_of_false ?_ fun both => both.1 vpn listed isServer
      rintro (connected | degraded)
      · exact VpnState.noConfusion connected
      · exact VpnState.noConfusion degraded
    · have absent : ∀ vpn ∈ first :: second :: rest, vpn.name ≠ server :=
        fun vpn listed isServer => present ⟨vpn, listed, isServer⟩
      have kept : keepVpn (.connecting server) first (second :: rest) = first.name :=
        keepVpn_of_notMem rfl absent
      have other : server ≠ first.name := fun same => absent first (List.mem_cons_self ..) same.symm
      rw [and_iff_right absent, kept]
      simp [VpnState.serverName, other, VpnState.isUp,
        VpnState.isConnected, VpnState.isDegraded, IsOn]
  | connected server =>
    simp [VpnState.isUp, VpnState.isConnected, IsOn, Follows]
  | degraded server => simp [VpnState.isUp, VpnState.isDegraded, IsOn, Follows]
  | _ => simp [onConnected, VpnState.serverName, IsOn, Follows]

theorem sync_then_poll_isOn_iff
    {run : NmClient.NmcliRun}
    (reports : Reports env run)
    (one :
      (NmClient.getAllActiveVpns run).filter
          (fun vpn => vpn.state == .activated) =
        [⟨name, .activated⟩])
    (notSkipped : isPollSkipped world = false) :
    IsOn name
        ((pollNmState env).run ((syncStateFromNm env).run world).2).2.machine.state ↔
      Follows (NmClient.getAllActiveVpns run) name world.machine.state := by
  have best := NmClient.selectBestVpn_of_activated one
  let synced := ((syncStateFromNm env).run world).2
  have isSynced :
      synced.machine.state =
        correctedState world.shared.autoReconnect world.machine.state (some name) := by
    rw [← NmClient.getActiveVpn_of_activated best, ← reports.active]
    exact (syncStateFromNm_table env world).2
  have polls := pollNmState_run env ((syncStateFromNm_unhurried env world).isPollSkipped notSkipped)
  rw [reports.allActive, best] at polls
  rw [polls]
  have member := mem_of_only_activated one
  cases vpns : NmClient.getAllActiveVpns run with
  | nil =>
    rw [vpns] at member
    exact absurd member List.not_mem_nil
  | cons first rest =>
    rw [vpns] at one member
    cases rest with
    | nil =>
      have isFirst : first = ⟨name, .activated⟩ := (List.mem_singleton.mp member).symm
      have compared := compareWithNm_activated env name (polling env synced)
      rw [isFirst]
      refine Iff.trans ?_ (isOn_single_iff world.shared.autoReconnect name _)
      rw [← isSynced]
      exact iff_of_eq (congrArg (IsOn name) compared)
    | cons second rest =>
      exact isOn_several_iff world.shared.autoReconnect
        ⟨_, member, rfl⟩ (polling env synced) _ isSynced

theorem corrected_names_active_iff
    (state : VpnState)
    (active : Option String) :
    ((wantedState autoReconnect state active).isSome = true →
        (correctedState autoReconnect state active).serverName = active) ↔
      (state.isUp = true → ∀ conn, active = some conn → state.serverName = some conn) := by
  cases active with
  | none =>
    cases state with
    | connecting server =>
      cases autoReconnect <;>
        simp [wantedState, correctedState, VpnState.serverName,
          VpnState.isUp, VpnState.isConnected, VpnState.isDegraded]
    | _ =>
      simp [wantedState, correctedState, VpnState.serverName,
        VpnState.isUp, VpnState.isConnected, VpnState.isDegraded]
  | some conn =>
    rw [correctedState_some]
    cases state with
    | connected server =>
      by_cases same : server = conn <;>
        simp [wantedState, same, VpnState.serverName, VpnState.isUp, VpnState.isConnected]
    | degraded server =>
      by_cases same : server = conn <;>
        simp [wantedState, same, VpnState.serverName, VpnState.isUp, VpnState.isDegraded]
    | _ =>
      simp [wantedState, VpnState.serverName, VpnState.isUp,
        VpnState.isConnected, VpnState.isDegraded]

end Converging

/--
Convergence, in both of its halves: a sync and a poll bring the machine to the
only activated VPN, and a sync that reports a correction has made it.
-/
theorem nm_is_followed_iff
    (env : Env)
    (world : World) :
    (∀ run name,
      Reports env run →
      (NmClient.getAllActiveVpns run).filter
          (fun vpn => vpn.state == .activated) =
        [⟨name, .activated⟩] →
      isPollSkipped world = false →
      (IsOn name
          ((pollNmState env).run ((syncStateFromNm env).run world).2).2.machine.state ↔
        Follows (NmClient.getAllActiveVpns run) name world.machine.state)) ∧
    ((((syncStateFromNm env).run world).1 = true →
        ((syncStateFromNm env).run world).2.machine.state.serverName =
          env.active world.asked.active) ↔
      (world.machine.state.isUp = true →
        ∀ conn, env.active world.asked.active = some conn →
          world.machine.state.serverName = some conn)) := by
  constructor
  · intro run name reports one notSkipped
    exact sync_then_poll_isOn_iff reports one notSkipped
  · obtain ⟨result, state⟩ := syncStateFromNm_table env world
    rw [result, state]
    exact corrected_names_active_iff _ _ _

/-- NetworkManager as one output of `nmcli` shows it. -/
def answering (run : NmClient.NmcliRun) : Env :=
  { calmEnv with
    active := fun _ => NmClient.getActiveVpn run
    activeInfo := fun _ => NmClient.getActiveVpnWithState run
    allActive := fun _ => NmClient.getAllActiveVpns run }

theorem answering_reports (run : NmClient.NmcliRun) :
    Reports (answering run) run :=
  ⟨fun _ => rfl, fun _ => rfl, fun _ => rfl⟩

/-- The output of `nmcli` with one active VPN. -/
def berlinIsActive : NmClient.NmcliRun :=
  .exited true "berlin:vpn:activated\nlo:loopback:activated\n"

theorem nm_is_followed_from_disconnected :
    IsOn "berlin"
      ((pollNmState (answering berlinIsActive)).run
        ((syncStateFromNm (answering berlinIsActive)).run
          (worldIn .disconnected)).2).2.machine.state := by
  have one :
      (NmClient.getAllActiveVpns berlinIsActive).filter
          (fun vpn => vpn.state == .activated) =
        [⟨"berlin", .activated⟩] := by
    decide +kernel
  exact ((nm_is_followed_iff _ _).1 berlinIsActive "berlin"
    (answering_reports _) one rfl).mpr trivial

/-- A sync reports a correction that neither it nor the poll makes. -/
theorem sync_reports_no_correction :
    let env := answering berlinIsActive
    let synced := (syncStateFromNm env).run (worldIn (.degraded "paris"))
    NmClient.getAllActiveVpns berlinIsActive = [⟨"berlin", .activated⟩] ∧
      synced.1 = true ∧
      synced.2.machine.state = .degraded "paris" ∧
      ((pollNmState env).run synced.2).2.machine.state = .degraded "paris" := by
  decide +kernel

/-- Whatever was disconnected, the machine is on the VPN that was kept. -/
def KeptIsTracked (kept : String) (before after : World) : Prop :=
  ∀ server ok,
    NmCall.disconnect server ok ∈ after.trace.drop before.trace.length →
      after.machine.state.serverName = some kept ∧ server ≠ kept

section Kept

variable (env : Env)

theorem replaceTracked_trace
    (current name : String)
    (world : World) :
    ∃ ok, ((replaceTracked env current name).run world).2.trace =
      world.trace ++ [.disconnect current ok] := by
  have same := dispatchAndSync_eventOnly (.nmVpnUp name) world
  refine ⟨env.disconnects ((dispatchAndSync (.nmVpnUp name)).run world).2.asked.disconnect, ?_⟩
  rw [← same.trace]
  rfl

theorem joinActivated_drops (name : String) :
    Keeps (DropsOthers name) (joinActivated env name) := by
  have asks : Keeps (DropsOthers name) (getAllActiveVpns env) :=
    fun world => (getAllActiveVpns_aside env name world).drops
  apply asks.bind
  intro vpns
  have dropped : Keeps (DropsOthers name) (dropOlder env name vpns) := by
    refine .either ?_ .pure
    exact fun world => (disconnectAll_aside env name vpns world).drops
  apply dropped.seq
  exact dispatchAndSync_drops name (.nmVpnUp name)

theorem joinActivated_state
    (name : String)
    (world : World) :
    ((joinActivated env name).run world).2.machine.state =
      if world.machine.state.isUp then world.machine.state
      else .connected name := by
  have dropped : ∀ vpns, Keeps (Aside name) (dropOlder env name vpns) := by
    intro vpns
    exact .either (disconnectAll_aside env name vpns) .pure
  have aside := ((getAllActiveVpns_aside env name).bind dropped) world
  rw [← aside.machine]
  exact nmVpnUp_state name _

theorem handleActivated_kept_iff
    (name : String)
    (world : World) :
    KeptIsTracked name world ((handleActivated env name).run world).2 ↔
      world.machine.state.isUp = false ∨ world.machine.state.serverName = some name := by
  rw [handleActivated, run_get_bind]
  have joined :
      (world.machine.state.isUp = false ∨
          world.machine.state.serverName = some name) →
        KeptIsTracked name world ((joinActivated env name).run world).2 := by
    intro condition server ok called
    refine ⟨?_, (joinActivated_drops env name world).of_drop called⟩
    rw [joinActivated_state]
    rcases condition with notUp | isName
    · rw [notUp]
      rfl
    · cases world.machine.state.isUp with
      | true => exact isName
      | false => rfl
  cases tracked : world.machine.state.serverName with
  | none =>
    dsimp only
    have notUp : world.machine.state.isUp = false := by
      cases state : world.machine.state with
      | disconnected => rfl
      | _ => rw [state] at tracked; exact absurd tracked nofun
    exact iff_of_true (joined (.inl notUp)) (.inl notUp)
  | some current =>
    dsimp only
    by_cases same : current = name
    · rw [if_neg (not_not.mpr same)]
      have condition : world.machine.state.serverName = some name := by
        rw [tracked, same]
      exact iff_of_true (joined (.inr condition)) (.inr (by rw [same]))
    · rw [if_pos same]
      obtain ⟨ok, trace⟩ := replaceTracked_trace env current name world
      have state :
          ((replaceTracked env current name).run world).2.machine.state =
            if world.machine.state.isUp then world.machine.state
            else .connected name :=
        nmVpnUp_state name world
      have calls :
          ((replaceTracked env current name).run world).2.trace.drop
              world.trace.length =
            [.disconnect current ok] := by
        rw [trace, List.drop_left]
      rw [KeptIsTracked, calls, state]
      cases up : world.machine.state.isUp with
      | false =>
        refine iff_of_true ?_ (.inl rfl)
        intro server answer called
        have isCurrent := List.mem_singleton.mp called
        rw [(NmCall.disconnect.inj isCurrent).1]
        exact ⟨rfl, same⟩
      | true =>
        refine iff_of_false ?_ ?_
        · intro kept
          have names := (kept current ok (List.mem_singleton_self _)).1
          rw [if_pos rfl, tracked] at names
          exact same (Option.some.inj names)
        · rintro (down | isName)
          · exact Bool.noConfusion down
          · exact same (Option.some.inj isName)

theorem dbus_kept_iff
    (name : String)
    (world : World) :
    KeptIsTracked name world
        ((handleDbusEvent env (.vpnActivated name)).run world).2 ↔
      isFiltered world = true ∨ world.machine.state.isUp = false ∨
        world.machine.state.serverName = some name := by
  obtain ⟨passes, timing, switchCtx, same⟩ := passFilters_spec (.vpnActivated name) world
  have timely : isLateEnd (.vpnActivated name) world = false := rfl
  rw [handleDbusEvent, run_bind, passes, timely, Bool.or_false]
  cases filtered : isFiltered world with
  | true =>
    refine iff_of_true ?_ (.inl rfl)
    intro server ok called
    rw [Bool.not_true, if_neg Bool.false_ne_true, run_pure, same, List.drop_length] at called
    exact absurd called List.not_mem_nil
  | false =>
    rw [Bool.not_false, if_pos rfl, handleAdmitted]
    have kept := handleActivated_kept_iff env name ((passFilters (.vpnActivated name)).run world).2
    rw [same] at kept ⊢
    rw [or_iff_right Bool.false_ne_true]
    exact kept

theorem disconnectAll_calls
    {vpns : List ActiveVpnInfo}
    {vpn : ActiveVpnInfo}
    (member : vpn ∈ vpns)
    (world : World) :
    ∃ ok, NmCall.disconnect vpn.name ok ∈
      ((disconnectAll env vpns).run world).2.trace.drop world.trace.length := by
  induction vpns generalizing world with
  | nil => exact absurd member List.not_mem_nil
  | cons first rest ih =>
    let asked := ((nmDisconnect env first.name).run world).2
    have later :
        ((disconnectAll env (first :: rest)).run world).2 =
          ((disconnectAll env rest).run asked).2 :=
      rfl
    have extended :
        asked.trace =
          world.trace ++ [.disconnect first.name (env.disconnects world.asked.disconnect)] :=
      rfl
    rw [later]
    rcases List.mem_cons.mp member with isFirst | inRest
    · refine ⟨env.disconnects world.asked.disconnect, ?_⟩
      have grows := ((unasked_waits env).disconnectAll rest asked).grows
      apply (grows.drop world.trace.length).subset
      rw [extended, List.drop_left, isFirst]
      exact List.mem_singleton_self _
    · obtain ⟨ok, called⟩ := ih inRest asked
      refine ⟨ok, List.drop_subset_drop_left _ ?_ called⟩
      rw [extended, List.length_append]
      exact Nat.le_add_right _ _

theorem trackKept_eventOnly (keep : String) :
    Keeps EventOnly (trackKept keep) := by
  apply Keeps.get
  intro world
  exact .either .pure (dispatchAndSync_eventOnly _)

section

variable (first : ActiveVpnInfo) (rest : List ActiveVpnInfo) (world : World)

theorem dropExtras_trace :
    ((dropExtras env first rest).run world).2.trace =
      ((disconnectAll env
        (otherVpns (keepVpn world.machine.state first rest) (first :: rest))).run world).2.trace :=
  (trackKept_eventOnly _ _).trace

theorem dropExtras_kept_iff :
    KeptIsTracked (keepVpn world.machine.state first rest) world
        ((dropExtras env first rest).run world).2 ↔
      world.machine.state.isUp = false ∨
        (∃ vpn ∈ first :: rest, world.machine.state.serverName = some vpn.name) ∨
        ∀ vpn ∈ first :: rest, vpn.name = first.name := by
  have drops :=
    (disconnectAll_aside env (keepVpn world.machine.state first rest) (first :: rest) world).drops
  have state := dropExtras_state env first rest world
  rw [KeptIsTracked, dropExtras_trace, state]
  cases up : world.machine.state.isUp with
  | false =>
    refine iff_of_true ?_ (.inl rfl)
    intro server ok called
    refine ⟨?_, drops.of_drop called⟩
    by_cases tracked :
        world.machine.state.serverName = some (keepVpn world.machine.state first rest)
    · rw [if_pos (.inl tracked)]
      exact tracked
    · rw [if_neg (by simp [tracked])]
      rfl
  | true =>
    rw [if_pos (.inr rfl)]
    obtain ⟨server, isServer⟩ := VpnState.serverName_of_isUp up
    by_cases present : ∃ vpn ∈ first :: rest, vpn.name = server
    · refine iff_of_true ?_ ?_
      · intro other ok called
        refine ⟨?_, drops.of_drop called⟩
        rw [isServer, keepVpn_of_mem isServer present]
      · obtain ⟨vpn, member, isName⟩ := present
        exact .inr (.inl ⟨vpn, member, by rw [isServer, isName]⟩)
    · have absent : ∀ vpn ∈ first :: rest, vpn.name ≠ server :=
        fun vpn member isName => present ⟨vpn, member, isName⟩
      have kept := keepVpn_of_notMem isServer absent
      rw [kept]
      constructor
      · intro tracked
        refine .inr (.inr ?_)
        intro vpn member
        by_contra other
        have extra : vpn ∈ otherVpns first.name (first :: rest) :=
          List.mem_filter.mpr ⟨member, decide_eq_true other⟩
        obtain ⟨ok, called⟩ := disconnectAll_calls env extra world
        have names := (tracked vpn.name ok called).1
        rw [isServer] at names
        exact absent first (List.mem_cons_self ..) (Option.some.inj names).symm
      · rintro (down | ⟨vpn, member, isName⟩ | same)
        · exact Bool.noConfusion down
        · rw [isServer] at isName
          exact absurd (Option.some.inj isName).symm (absent vpn member)
        · have none : otherVpns first.name (first :: rest) = [] := by
            rw [otherVpns, List.filter_eq_nil_iff]
            intro vpn member
            simp [same vpn member]
          have untouched : ((disconnectAll env []).run world).2 = world := rfl
          intro other ok called
          rw [none, untouched, List.drop_length] at called
          exact absurd called List.not_mem_nil

end

theorem keptIsTracked_query_iff
    {kept : String}
    {asked : World}
    {query : NmCall}
    (extended : asked.trace = before.trace ++ [query])
    (isQuery : ∀ server ok, NmCall.disconnect server ok ≠ query)
    (grows : TraceGrows asked after) :
    KeptIsTracked kept before after ↔ KeptIsTracked kept asked after := by
  obtain ⟨calls, isAfter⟩ := grows
  rw [KeptIsTracked, KeptIsTracked, ← isAfter, List.drop_left, extended,
    List.append_assoc, List.drop_left]
  apply forall_congr'
  intro server
  apply forall_congr'
  intro ok
  simp [isQuery server ok]

theorem dropExtras_grows
    (first : ActiveVpnInfo)
    (rest : List ActiveVpnInfo) :
    Keeps TraceGrows (dropExtras env first rest) := by
  intro world
  rw [TraceGrows, dropExtras_trace]
  exact ((unasked_waits env).disconnectAll _ world).grows

theorem poll_kept_iff
    {second : ActiveVpnInfo}
    (several : env.allActive world.asked.allActive = first :: second :: rest) :
    KeptIsTracked (keepVpn world.machine.state first (second :: rest))
        world ((pollNmState env).run world).2 ↔
      isPollSkipped world = true ∨ world.machine.state.isUp = false ∨
        (∃ vpn ∈ first :: second :: rest, world.machine.state.serverName = some vpn.name) ∨
        ∀ vpn ∈ first :: second :: rest, vpn.name = first.name := by
  cases skipped : isPollSkipped world with
  | true =>
    refine iff_of_true ?_ (.inl rfl)
    intro server ok called
    rw [pollNmState_skipped env skipped, List.drop_length] at called
    exact absurd called List.not_mem_nil
  | false =>
    rw [pollNmState_run env skipped, several, reconcile]
    have extended : (polling env world).trace = world.trace ++ [.getAllActiveVpns] :=
      rfl
    rw [keptIsTracked_query_iff extended (by simp) (dropExtras_grows env first (second :: rest) _)]
    have kept := dropExtras_kept_iff env first (second :: rest) (polling env world)
    have machine : (polling env world).machine = world.machine := rfl
    rw [machine] at kept
    rw [kept, or_iff_right Bool.false_ne_true]

end Kept

/--
The kept VPN is the tracked one, for the signal of an activated VPN and for
the poll that finds several.
-/
theorem kept_vpn_is_tracked_iff
    (env : Env)
    (world : World) :
    (∀ name,
      KeptIsTracked name world
          ((handleDbusEvent env (.vpnActivated name)).run world).2 ↔
        isFiltered world = true ∨ world.machine.state.isUp = false ∨
          world.machine.state.serverName = some name) ∧
    (∀ first second rest,
      env.allActive world.asked.allActive = first :: second :: rest →
      (KeptIsTracked (keepVpn world.machine.state first (second :: rest))
          world ((pollNmState env).run world).2 ↔
        isPollSkipped world = true ∨ world.machine.state.isUp = false ∨
          (∃ vpn ∈ first :: second :: rest, world.machine.state.serverName = some vpn.name) ∨
          ∀ vpn ∈ first :: second :: rest, vpn.name = first.name)) := by
  constructor
  · exact fun name => dbus_kept_iff env name world
  · exact fun _ _ _ several => poll_kept_iff env several

/-- Two VPNs are active, and none of them is the tracked one. -/
def twoAreActive : NmClient.NmcliRun :=
  .exited true "berlin:vpn:activated\noslo:wireguard:activated\n"

theorem kept_vpn_is_tracked_connecting :
    KeptIsTracked "berlin" (worldIn (.connecting "paris"))
      ((pollNmState (answering twoAreActive)).run (worldIn (.connecting "paris"))).2 := by
  have several :
      (answering twoAreActive).allActive 0 = [⟨"berlin", .activated⟩, ⟨"oslo", .activated⟩] := by
    decide +kernel
  exact ((kept_vpn_is_tracked_iff _ (worldIn (.connecting "paris"))).2
    _ _ _ several).mpr (.inr (.inl rfl))

/-- Both handlers disconnect a VPN and leave the machine on a wrong one. -/
theorem kept_vpn_is_not_tracked :
    let tracked := worldIn (.connected "paris")
    let signalled := ((handleDbusEvent calmEnv (.vpnActivated "berlin")).run tracked).2
    let polled := ((pollNmState (answering twoAreActive)).run tracked).2
    signalled.trace = [.disconnect "paris" true] ∧
      signalled.machine.state = .connected "paris" ∧
      polled.trace = [.getAllActiveVpns, .disconnect "oslo" true] ∧
      polled.machine.state = .connected "paris" := by
  decide +kernel

end Shroud.Supervisor
