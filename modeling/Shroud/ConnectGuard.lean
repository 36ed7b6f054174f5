import Shroud.ConnectAnswers
import Shroud.Ipv6Block
import Shroud.SwitchGap

namespace Shroud.Supervisor

open StateProgram

/-!
# The kill switch at the moment of a connect

With the ordering that enables the kill switch first, `handle_connect` asks the
kill switch to be enabled and goes on whatever the answer is.  Nothing between
that and the last attempt touches the kill switch, so every call to connect is
made under the same flag.
-/

/-- The calls between two states, each with the flag at that moment. -/
def callsBetween (before after : World) : List (NmCall × Bool) :=
  (after.trace.drop before.trace.length).zip (after.guarded.drop before.guarded.length)

/-- Every call to connect to a VPN was made with the kill switch on. -/
def ConnectsGuarded (name : String) (before after : World) : Prop :=
  ∀ ok guarded, (NmCall.connect name ok, guarded) ∈ callsBetween before after → guarded = true

/-- A stretch that leaves the flag alone: all its calls are made under it. -/
structure CallsUnder (before after : World) : Prop where
  enabled : after.killSwitchIsEnabled = before.killSwitchIsEnabled
  calls :
    ∃ calls, after.trace = before.trace ++ calls ∧
      after.guarded = before.guarded ++ List.replicate calls.length before.killSwitchIsEnabled

instance : IsPreorder World CallsUnder where
  refl _ := ⟨rfl, [], (List.append_nil _).symm, (List.append_nil _).symm⟩
  trans _ _ _ first second := by
    obtain ⟨calls, trace, guarded⟩ := first.calls
    obtain ⟨later, traceLater, guardedLater⟩ := second.calls
    refine ⟨second.enabled.trans first.enabled, calls ++ later, ?_, ?_⟩
    · rw [traceLater, trace, List.append_assoc]
    · rw [guardedLater, guarded, first.enabled, List.append_assoc,
        List.length_append, List.replicate_add]

theorem zip_replicate
    {α β : Type}
    (items : List α)
    (value : β) :
    items.zip (List.replicate items.length value) = items.map (fun item => (item, value)) := by
  induction items with
  | nil => rfl
  | cons item rest ih =>
    rw [List.length_cons, List.replicate_succ, List.zip_cons_cons,
      ih, List.map_cons]

/-- Of a stretch that contains a connect, the flag at its start decides. -/
theorem CallsUnder.connectsGuarded_iff
    {name : String}
    {ok : Bool}
    {before after : World}
    (under : CallsUnder before after)
    (called : NmCall.connect name ok ∈ after.trace.drop before.trace.length) :
    ConnectsGuarded name before after ↔ before.killSwitchIsEnabled = true := by
  obtain ⟨calls, trace, guarded⟩ := under.calls
  have between :
      callsBetween before after = calls.map (fun call => (call, before.killSwitchIsEnabled)) := by
    rw [callsBetween, trace, guarded, List.drop_left, List.drop_left, zip_replicate]
  rw [trace, List.drop_left] at called
  constructor
  · intro holds
    apply holds ok
    rw [between]
    exact List.mem_map.mpr ⟨_, called, rfl⟩
  · intro isOn other flag member
    rw [between] at member
    obtain ⟨call, -, same⟩ := List.mem_map.mp member
    rw [← (Prod.mk.inj same).2]
    exact isOn

section Calls

variable (env : Env) (name : String)

theorem callsUnder_of_same
    {change : World → World}
    (kill : ∀ world, (change world).kill = world.kill)
    (trace : ∀ world, (change world).trace = world.trace)
    (guarded : ∀ world, (change world).guarded = world.guarded) :
    Keeps CallsUnder (modify change : StateM World PUnit) := by
  intro world
  have enabled : (change world).killSwitchIsEnabled = world.killSwitchIsEnabled :=
    congrArg (fun kill : KsWorld => kill.ks.enabled) (kill world)
  exact ⟨enabled, [], (trace world).trans (List.append_nil _).symm,
    (guarded world).trans (List.append_nil _).symm⟩

theorem noteCall_callsUnder
    (call : NmCall)
    (count : Asked → Asked) :
    Keeps CallsUnder (noteCall env call count) :=
  fun _ => ⟨rfl, [call], rfl, rfl⟩

theorem EventOnly.callsUnder
    {before after : World}
    (same : EventOnly before after) :
    CallsUnder before after where
  enabled := congrArg (fun kill : KsWorld => kill.ks.enabled) same.kill
  calls :=
    ⟨[], same.trace.trans (List.append_nil _).symm, same.guarded.trans (List.append_nil _).symm⟩

theorem getAllActiveVpns_callsUnder :
    Keeps CallsUnder (getAllActiveVpns env) :=
  noteCall_callsUnder env _ fun asked => { asked with allActive := asked.allActive + 1 }

theorem nmConnect_callsUnder :
    Keeps CallsUnder (nmConnect env name) :=
  fun world =>
    noteCall_callsUnder env
      (.connect name (env.connects world.asked.connect))
      (fun asked => { asked with connect := asked.connect + 1 }) world

theorem nmDisconnect_callsUnder :
    Keeps CallsUnder (nmDisconnect env name) :=
  fun world =>
    noteCall_callsUnder env
      (.disconnect name (env.disconnects world.asked.disconnect))
      (fun asked => { asked with disconnect := asked.disconnect + 1 }) world

theorem callsUnder_waits :
    WaitsAlong env CallsUnder where
  sleep _ := fun _ => ⟨rfl, [], (List.append_nil _).symm, (List.append_nil _).symm⟩
  getAllActiveVpns := getAllActiveVpns_callsUnder env
  getVpnState _ := noteCall_callsUnder env _
    (fun asked => { asked with vpnState := asked.vpnState + 1 })
  nmDisconnect := nmDisconnect_callsUnder env
  killOrphans := noteCall_callsUnder env _ _

theorem dispatchAndSync_callsUnder (event : Event) :
    Keeps CallsUnder (dispatchAndSync event) :=
  fun world => (dispatchAndSync_eventOnly event world).callsUnder

theorem watch_callsUnder (accepted : Bool) :
    Keeps CallsUnder
      (if accepted then
        monitorConnection env name connectionMonitorMaxAttempts
      else pure false) := by
  refine .either ?_ .pure
  exact (callsUnder_waits env).monitorConnection (dispatchAndSync_callsUnder _) _

theorem connectOnce_callsUnder :
    Keeps CallsUnder (connectOnce env name) :=
  (nmConnect_callsUnder env name).bind (watch_callsUnder env name)

theorem connectAttempts_callsUnder (attempts : Nat) :
    Keeps CallsUnder (connectAttempts env name attempts) := by
  induction attempts with
  | zero => exact .pure
  | succ attempts ih =>
    apply (connectOnce_callsUnder env name).bind
    intro up
    refine .either .pure ?_
    refine .either .pure ?_
    exact ((callsUnder_waits env).sleep _).seq ih

theorem noteSwitchedFrom_callsUnder (others : List ActiveVpnInfo) :
    Keeps CallsUnder (noteSwitchedFrom others) :=
  callsUnder_of_same (fun _ => rfl) (fun _ => rfl) fun _ => rfl

theorem switchConnection_callsUnder :
    Keeps CallsUnder (switchConnection env name) := by
  apply (getAllActiveVpns_callsUnder env).bind
  intro active
  apply (noteSwitchedFrom_callsUnder _).seq
  apply ((callsUnder_waits env).disconnectOthers name _).seq
  apply (getAllActiveVpns_callsUnder env).seq
  apply (dispatchAndSync_callsUnder _).seq
  exact connectAttempts_callsUnder env name _

theorem CallsUnder.grows
    {before after : World}
    (under : CallsUnder before after) :
    TraceGrows before after := by
  obtain ⟨calls, trace, -⟩ := under.calls
  rw [TraceGrows, trace]
  exact List.prefix_append _ _

theorem connectAttempts_calls
    (attempts : Nat)
    (world : World) :
    ∃ ok, NmCall.connect name ok ∈
      ((connectAttempts env name (attempts + 1)).run world).2.trace.drop world.trace.length := by
  let asked := ((nmConnect env name).run world).2
  have retries :
      ∀ up : Bool,
        Keeps CallsUnder
          (if up then pure true
          else if attempts = 0 then pure false
          else do
            sleep connectRetryDelayMs
            connectAttempts env name attempts) := by
    intro up
    refine .either .pure ?_
    refine .either .pure ?_
    exact ((callsUnder_waits env).sleep _).bind
      (fun _ => connectAttempts_callsUnder env name attempts)
  have later : CallsUnder asked ((connectAttempts env name (attempts + 1)).run world).2 :=
    IsTrans.trans _ _ _ (watch_callsUnder env name _ asked) (retries _ _)
  refine ⟨env.connects world.asked.connect, ?_⟩
  apply (later.grows.drop world.trace.length).subset
  have extended : asked.trace = world.trace ++ [.connect name (env.connects world.asked.connect)] :=
    rfl
  rw [extended, List.drop_left]
  exact List.mem_singleton_self _

theorem switchConnection_calls (world : World) :
    ∃ ok, NmCall.connect name ok ∈
      ((switchConnection env name).run world).2.trace.drop world.trace.length := by
  have attempts :
      Ensures (CallsUnder world)
        (connectAttempts env name maxConnectAttempts)
        (fun _ after =>
          ∃ ok, NmCall.connect name ok ∈ after.trace.drop world.trace.length) := by
    intro before under
    obtain ⟨ok, called⟩ := connectAttempts_calls env name 2 before
    exact ⟨ok, List.drop_subset_drop_left _ under.grows.length_le called⟩
  have spec :
      Ensures (CallsUnder world) (switchConnection env name)
        (fun _ after =>
          ∃ ok, NmCall.connect name ok ∈ after.trace.drop world.trace.length) := by
    refine ((getAllActiveVpns_callsUnder env).ensures world).bind ?_
    intro active
    refine ((noteSwitchedFrom_callsUnder _).ensures world).seq ?_
    refine (((callsUnder_waits env).disconnectOthers name _).ensures world).seq ?_
    refine ((getAllActiveVpns_callsUnder env).ensures world).seq ?_
    refine ((dispatchAndSync_callsUnder _).ensures world).seq ?_
    exact attempts
  exact spec world (Std.Refl.refl world)

end Calls

/-- The recorded calls stay the same. -/
abbrev SameCalls : World → World → Prop :=
  SameView fun world => (world.trace, world.guarded)

theorem ConnectsGuarded.congr
    {name : String}
    {before before' after after' : World}
    (started : SameCalls before before')
    (ended : SameCalls after after') :
    ConnectsGuarded name before' after' ↔ ConnectsGuarded name before after := by
  have sameStart := Prod.mk.inj started
  have sameEnd := Prod.mk.inj ended
  rw [ConnectsGuarded, ConnectsGuarded, callsBetween, callsBetween,
    sameStart.1, sameStart.2, sameEnd.1, sameEnd.2]

section Blocks

variable (env : Env) (name : String)

omit env name in
theorem sameCalls_guards :
    GuardsAlong SameCalls where
  kill _ _ := rfl
  report _ _ := rfl

/-- The supervisor behind the first kill switch block of a connect. -/
def prepared (world : World) : World :=
  ((do
    beginSwitch name
    let preConnect ← effectivePreConnect env name
    prepareKillSwitch env preConnect : StateM World Unit).run world).2

theorem prepared_follows
    {relation : World → World → Prop}
    [IsPreorder World relation]
    (begins : Keeps relation (beginSwitch name))
    (guards : GuardsAlong relation)
    (world : World) :
    relation world (prepared env name world) := by
  have prepares :
      Keeps relation
        (do
          beginSwitch name
          let preConnect ← effectivePreConnect env name
          prepareKillSwitch env preConnect) := by
    refine begins.seq ?_
    refine (guards.effectivePreConnect env name).bind ?_
    intro preConnect
    exact guards.prepareKillSwitch env preConnect
  exact prepares world

theorem prepared_sameCalls (world : World) :
    SameCalls world (prepared env name world) := by
  have begins : Keeps SameCalls (beginSwitch name) := fun _ => rfl
  exact prepared_follows env name begins sameCalls_guards world

theorem finish_sameCalls (succeeded : Bool) :
    Keeps SameCalls
      (do
        rearmKillSwitch env succeeded
        finishSwitch
        if succeeded then pure () else giveUpSwitch) := by
  have rearms : Keeps SameCalls (rearmKillSwitch env succeeded) :=
    sameCalls_guards.rearmKillSwitch env succeeded
  have gives : Keeps SameCalls giveUpSwitch := by
    refine .bind (fun _ => rfl) ?_
    intro _ world
    have same :=
      dispatchAndSync_eventOnly
        (.connectionFailed
          ("Failed to connect after " ++ toString maxConnectAttempts ++ " attempts")) world
    exact Prod.ext same.trace same.guarded
  apply rearms.seq
  refine .seq (fun _ => rfl) ?_
  exact .either .pure gives

/-- What follows the first kill switch block. -/
def connectPrepared : StateM World Unit := do
  let succeeded ← switchConnection env name
  rearmKillSwitch env succeeded
  finishSwitch
  if succeeded then pure () else giveUpSwitch

theorem handleConnect_prepared (world : World) :
    (handleConnect env name).run world =
      (connectPrepared env name).run (prepared env name world) := by
  rw [handleConnect, connectPrepared, prepared]
  simp only [run_bind]

theorem connectPrepared_guarded_iff (start : World) :
    ConnectsGuarded name start ((connectPrepared env name).run start).2 ↔
      start.killSwitchIsEnabled = true := by
  have switches :
      Ensures (fun world => world = start) (switchConnection env name)
        (fun _ world =>
          ConnectsGuarded name start world ↔ start.killSwitchIsEnabled = true) := by
    intro world isStart
    rw [isStart]
    obtain ⟨ok, called⟩ := switchConnection_calls env name start
    exact (switchConnection_callsUnder env name start).connectsGuarded_iff called
  have finishes :
      ∀ succeeded,
        Ensures
          (fun world =>
            ConnectsGuarded name start world ↔ start.killSwitchIsEnabled = true)
          (do
            rearmKillSwitch env succeeded
            finishSwitch
            if succeeded then pure () else giveUpSwitch)
          (fun _ world =>
            ConnectsGuarded name start world ↔ start.killSwitchIsEnabled = true) := by
    intro succeeded world decided
    rw [ConnectsGuarded.congr rfl (finish_sameCalls env succeeded world)]
    exact decided
  exact (switches.bind finishes) start rfl

/-- The flag behind the first block decides for the whole connect. -/
theorem handleConnect_guarded_iff (world : World) :
    ConnectsGuarded name world ((handleConnect env name).run world).2 ↔
      (prepared env name world).killSwitchIsEnabled = true := by
  rw [handleConnect_prepared, ← connectPrepared_guarded_iff]
  exact ConnectsGuarded.congr (prepared_sameCalls env name world).symm rfl

/-- The kill switch and its host once the endpoints are known. -/
def scanned (world : World) : KsWorld :=
  ((KillSwitch.detectVpnEndpoints env.fw).run world.kill).2

theorem enableAndReport_kill (world : World) :
    ((enableAndReport env).run world).2.kill = ((KillSwitch.enable env.fw).run world.kill).2 := by
  have asked :
      ((onKillSwitch (KillSwitch.enable env.fw)).run world).1 =
        ((KillSwitch.enable env.fw).run world.kill).1 :=
    rfl
  rw [enableAndReport, run_bind, asked]
  cases ((KillSwitch.enable env.fw).run world.kill).1 <;> rfl

theorem prepared_enabled
    {world : World}
    (wanted : world.config.killSwitchEnabled = true)
    (preConnect : world.config.preConnect = true)
    (literal : name ∉ (env.fw.scan world.kill.host.scans).hostnameVpns) :
    (prepared env name world).killSwitchIsEnabled =
      (world.killSwitchIsEnabled ||
        ((KillSwitch.enable env.fw).run (scanned env world)).2.ks.enabled) := by
  let begun := ((beginSwitch name).run world).2
  let ordered := (effectivePreConnect env name).run begun
  have orders : KeepsOrder env name begun := .inr ⟨preConnect, literal⟩
  have first : ordered.1 = true := by
    rcases effectivePreConnect_of_keepsOrder env orders with unwanted | first
    · exact absurd (wanted.symm.trans unwanted) nofun
    · exact first
  have kill : ordered.2.kill = scanned env world := by
    have both : (begun.config.killSwitchEnabled && begun.config.preConnect) = true :=
      Bool.and_eq_true_iff.mpr ⟨wanted, preConnect⟩
    change ((effectivePreConnect env name).run begun).2.kill = _
    rw [effectivePreConnect, run_get_bind]
    rw [if_pos both]
    rfl
  have stillWanted : ordered.2.config.killSwitchEnabled = true := by
    rw [(effectivePreConnect_keeps env name begun).wanted]
    exact wanted
  have enabled : ordered.2.killSwitchIsEnabled = world.killSwitchIsEnabled :=
    (effectivePreConnect_keeps env name begun).enabled
  change ((prepareKillSwitch env ordered.1).run ordered.2).2.killSwitchIsEnabled = _
  rw [first, prepareKillSwitch, run_get_bind]
  rw [if_pos stillWanted, if_pos rfl, enabled]
  cases isOn : world.killSwitchIsEnabled with
  | true =>
    rw [if_pos rfl, run_pure]
    exact enabled.trans isOn
  | false =>
    rw [if_neg Bool.false_ne_true, World.killSwitchIsEnabled,
      enableAndReport_kill, kill, Bool.false_or]

end Blocks

def withFaults (env : Env) (fault : Nat → FwCommand → Option Fault) : Env :=
  { env with fw := { env.fw with fault := fault } }

/--
A connect that enables the kill switch first is guarded whatever commands
fail exactly if the switch is on already; and as long as enabling it reports
no error, exactly if it is on already or the block is reached outside the
cooldown.
-/
theorem connect_is_guarded_iff
    (env : Env)
    (name : String)
    (world : World)
    (wanted : world.config.killSwitchEnabled = true)
    (preConnect : world.config.preConnect = true)
    (literal : name ∉ (env.fw.scan world.kill.host.scans).hostnameVpns) :
    ((∀ fault,
        ConnectsGuarded name world ((handleConnect (withFaults env fault) name).run world).2) ↔
      world.killSwitchIsEnabled = true) ∧
    (KillSwitch.EnableWorks env.fw →
      (ConnectsGuarded name world ((handleConnect env name).run world).2 ↔
        world.killSwitchIsEnabled = true ∨
          (world.kill.ks.toggleInProgress = false ∧
            world.kill.ks.inCooldown
              (world.now + env.fw.scanMillis world.kill.host.scans) = false))) := by
  constructor
  · constructor
    · intro guarded
      let hanging := withFaults env fun _ _ => some .timeout
      have hangs : KillSwitch.Hangs hanging.fw := fun _ _ => rfl
      have guardedThere := guarded (fun _ _ => some .timeout)
      rw [handleConnect_guarded_iff,
        prepared_enabled hanging name wanted preConnect literal]
        at guardedThere
      by_contra off
      have isOff := Bool.eq_false_iff.mpr off
      have stillOff := @KillSwitch.Hangs.enable hanging.fw hangs (scanned hanging world) isOff
      rw [isOff, Bool.false_or, stillOff] at guardedThere
      exact Bool.noConfusion guardedThere
    · intro isOn fault
      rw [handleConnect_guarded_iff,
        prepared_enabled (withFaults env fault) name wanted preConnect literal, isOn, Bool.true_or]
  · intro works
    rw [handleConnect_guarded_iff, prepared_enabled env name wanted preConnect literal]
    cases isOn : world.killSwitchIsEnabled with
    | true => exact iff_of_true rfl (.inl rfl)
    | false =>
      rw [Bool.false_or, or_iff_right Bool.false_ne_true]
      exact KillSwitch.enable_enabled_iff env.fw isOn (works _)

def wantingWorld : World :=
  { restingWorld with
    config := { Config.default with killSwitchEnabled := true } }

theorem connect_is_guarded_calm :
    KillSwitch.EnableWorks calmEnv.fw ∧
      ConnectsGuarded "berlin" wantingWorld
        ((handleConnect calmEnv "berlin").run wantingWorld).2 := by
  have works : KillSwitch.EnableWorks calmEnv.fw := KillSwitch.calmEnv_working.enableWorks
  refine ⟨works, ?_⟩
  exact ((connect_is_guarded_iff calmEnv "berlin" wantingWorld rfl rfl
    List.not_mem_nil).2 works).mpr (.inr ⟨rfl, rfl⟩)

/-- The switch was turned off a moment ago. -/
def justReleasedWorld : World :=
  { wantingWorld with
    kill := { wantingWorld.kill with
      ks := { wantingWorld.kill.ks with
        lastToggleTime := some wantingWorld.now } } }

/-- Failed commands and the cooldown both let a connect through unguarded. -/
theorem connect_is_unguarded :
    let hanging := withFaults calmEnv fun _ _ => some .timeout
    (NmCall.connect "berlin" false, false) ∈
        callsBetween wantingWorld ((handleConnect hanging "berlin").run wantingWorld).2 ∧
      (NmCall.connect "berlin" false, false) ∈
        callsBetween justReleasedWorld
          ((handleConnect calmEnv "berlin").run justReleasedWorld).2 := by
  decide +kernel

end Shroud.Supervisor
