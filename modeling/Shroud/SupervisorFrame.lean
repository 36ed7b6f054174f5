import Shroud.ConfigReload

namespace Shroud.Supervisor

open StateProgram

/-!
# What the supervisor leaves alone

Between its kill switch blocks a handler talks to NetworkManager, moves the
state machine and waits.  None of that touches the kill switch, the firewall or
what is reported about them.
-/

/-! ## Programs that wait for NetworkManager

A program that only waits and asks moves along every preorder along which
waiting and asking move.
-/

/-- Waiting, asking and disconnecting move along a relation. -/
structure WaitsAlong
    (env : Env)
    (relation : World → World → Prop) : Prop where
  sleep : ∀ millis, Keeps relation (sleep millis)
  getAllActiveVpns : Keeps relation (getAllActiveVpns env)
  getVpnState : ∀ name, Keeps relation (getVpnState env name)
  nmDisconnect : ∀ name, Keeps relation (nmDisconnect env name)
  killOrphans : Keeps relation (killOrphanOpenvpnProcesses env)

namespace WaitsAlong

variable
  {env : Env}
  {relation : World → World → Prop}
  [IsPreorder World relation]

section

variable (waits : WaitsAlong env relation)

include waits

theorem disconnectAll (vpns : List ActiveVpnInfo) :
    Keeps relation (disconnectAll env vpns) := by
  refine .forM ?_
  intro vpn _
  exact (waits.nmDisconnect vpn.name).seq .pure

theorem waitForDisconnects
    (name : String)
    (attempts : Nat) :
    Keeps relation (waitForDisconnects env name attempts) := by
  induction attempts with
  | zero => exact .pure
  | succ attempts ih =>
    refine (waits.sleep _).seq ?_
    refine waits.getAllActiveVpns.bind ?_
    intro remaining
    refine .either .pure ?_
    exact .either (waits.disconnectAll _) ih

theorem disconnectOthers
    (name : String)
    (others : List ActiveVpnInfo) :
    Keeps relation (disconnectOthers env name others) := by
  refine (waits.disconnectAll others).seq ?_
  refine .either .pure ?_
  refine (waits.waitForDisconnects name _).seq ?_
  refine waits.killOrphans.seq ?_
  exact waits.sleep _

theorem monitorConnection
    {name : String}
    (notes : Keeps relation (dispatchAndSync (.nmVpnUp name)))
    (attempts : Nat) :
    Keeps relation (monitorConnection env name attempts) := by
  induction attempts with
  | zero => exact .pure
  | succ attempts ih =>
    refine (waits.sleep _).seq ?_
    refine (waits.getVpnState name).bind ?_
    intro answer
    cases answer with
    | none => exact .pure
    | some state =>
      cases state with
      | activated => exact notes.bind (fun _ => .pure)
      | activating => exact ih
      | deactivating => exact .pure
      | inactive => exact .pure

end

end WaitsAlong

/-- Operating and reporting the kill switch move along a relation. -/
structure GuardsAlong (relation : World → World → Prop) : Prop where
  kill :
    ∀ {α : Type} (program : StateM KsWorld α), Keeps relation (onKillSwitch program)
  report :
    ∀ flag : World → Bool,
      Keeps relation
        (modify fun world =>
          { world with
            shared := { world.shared with killSwitch := flag world } } :
          StateM World PUnit)

namespace GuardsAlong

variable
  {relation : World → World → Prop}
  [IsPreorder World relation]
  (guards : GuardsAlong relation)
  (env : Env)

include guards

theorem enableAndReport :
    Keeps relation (enableAndReport env) := by
  refine (guards.kill _).bind ?_
  intro result
  cases result with
  | none => exact guards.report (fun _ => true)
  | some error => exact .pure

theorem disableAndReport :
    Keeps relation (disableAndReport env) := by
  refine (guards.kill _).bind ?_
  intro result
  cases result with
  | none => exact guards.report (fun _ => false)
  | some error => exact .pure

theorem effectivePreConnect (name : String) :
    Keeps relation (effectivePreConnect env name) := by
  refine .get ?_
  intro world
  refine .either ?_ .pure
  exact (guards.kill _).bind fun _ => .pure

theorem prepareKillSwitch (preConnect : Bool) :
    Keeps relation (prepareKillSwitch env preConnect) := by
  refine .get ?_
  intro world
  refine .either ?_ .pure
  refine .either ?_ ?_
  · exact .either .pure (guards.enableAndReport env)
  · exact .either (guards.disableAndReport env) .pure

theorem rearmKillSwitch (succeeded : Bool) :
    Keeps relation (rearmKillSwitch env succeeded) := by
  refine .get ?_
  intro world
  exact .either (guards.enableAndReport env) .pure

theorem releaseKillSwitch :
    Keeps relation (releaseKillSwitch env) := by
  refine .get ?_
  intro world
  refine .either ?_ .pure
  exact (guards.kill _).seq (guards.report (fun _ => false))

theorem cleanupOnExit :
    Keeps relation (cleanupOnExit env) := by
  refine .get ?_
  intro world
  refine .either ?_ .pure
  exact (guards.kill _).seq (guards.kill _)

section Storing

variable (stores : ∀ enabled, Keeps relation (storeKillSwitch enabled))

include stores

theorem toggleKillSwitch :
    Keeps relation (toggleKillSwitch env) := by
  refine .get ?_
  intro world
  refine (guards.kill _).bind ?_
  intro result
  refine (guards.report _).seq ?_
  refine .get ?_
  intro after
  cases result with
  | none => exact .either (stores _) .pure
  | some error => exact .either (guards.report (fun _ => false)) .pure

theorem ipcKillSwitch
    (syncs : Keeps relation syncSharedState)
    (enable : Bool) :
    Keeps relation (ipcKillSwitch env enable) := by
  refine .get ?_
  intro world
  refine .either .pure ?_
  refine (guards.kill _).bind ?_
  intro result
  cases result with
  | none =>
    refine (guards.report _).seq ?_
    refine .get ?_
    intro after
    refine (stores _).seq ?_
    exact syncs.seq .pure
  | some error => exact .pure

end Storing

end GuardsAlong

theorem correctState_follows
    {relation : World → World → Prop}
    [IsPreorder World relation]
    {active : Option String}
    (raises : ∀ conn, active = some conn → Keeps relation (dispatchAndSync (.nmVpnUp conn)))
    (drops : Keeps relation (setStateAndSync .disconnected))
    (cancels :
      Keeps relation
        (modifyTiming fun timing =>
          { timing with reconnectCancelled := true })) :
    Keeps relation (correctState active) := by
  have raised :
      ∀ conn, active = some conn →
        Keeps relation
          (do
            dispatchAndSync (.nmVpnUp conn)
            pure true : StateM World Bool) :=
    fun conn isActive => (raises conn isActive).seq .pure
  have dropped :
      Keeps relation
        (do
          setStateAndSync .disconnected
          pure true : StateM World Bool) :=
    drops.seq .pure
  refine .get ?_
  intro world
  cases world.machine.state with
  | disconnected | failed server reason =>
    cases active with
    | none => exact .pure
    | some conn => exact raised conn rfl
  | connecting server =>
    cases active with
    | none => exact .either .pure dropped
    | some conn => exact .pure
  | reconnecting server attempt maxAttempts =>
    cases active with
    | none => exact .pure
    | some conn => exact cancels.seq (raised conn rfl)
  | _ =>
    cases active with
    | none => exact dropped
    | some conn => exact .either .pure (raised conn rfl)

/-- All but the machine and what is noted of a connection stays as it was. -/
structure EventOnly (before after : World) : Prop where
  asked : after.asked = before.asked
  deferred : after.deferredCommands = before.deferredCommands
  trace : after.trace = before.trace
  guarded : after.guarded = before.guarded
  timing : after.timing = before.timing
  switchCtx : after.switchCtx = before.switchCtx
  kill : after.kill = before.kill
  autoReconnect : after.shared.autoReconnect = before.shared.autoReconnect
  exitReason : after.exitReason = before.exitReason

instance : IsPreorder World EventOnly where
  refl _ := ⟨rfl, rfl, rfl, rfl, rfl, rfl, rfl, rfl, rfl⟩
  trans _ _ _ first second :=
    { asked := second.asked.trans first.asked
      deferred := second.deferred.trans first.deferred
      trace := second.trace.trans first.trace
      guarded := second.guarded.trans first.guarded
      timing := second.timing.trans first.timing
      switchCtx := second.switchCtx.trans first.switchCtx
      kill := second.kill.trans first.kill
      autoReconnect := second.autoReconnect.trans first.autoReconnect
      exitReason := second.exitReason.trans first.exitReason }

theorem noteConnected_same (world : World) :
    (noteConnected world).machine = world.machine ∧ EventOnly world (noteConnected world) := by
  rw [noteConnected]
  cases world.machine.state with
  | connected server =>
    dsimp only
    split <;> exact ⟨rfl, rfl, rfl, rfl, rfl, rfl, rfl, rfl, rfl, rfl⟩
  | _ => exact ⟨rfl, Std.Refl.refl world⟩

theorem dispatchAndSync_machine
    (event : Event)
    (world : World) :
    ((dispatchAndSync event).run world).2.machine = (world.machine.handleEvent event).2 :=
  (noteConnected_same { world with machine := (world.machine.handleEvent event).2 }).1

theorem dispatchAndSync_eventOnly (event : Event) :
    Keeps EventOnly (dispatchAndSync event) := by
  intro world
  have same := (noteConnected_same { world with machine := (world.machine.handleEvent event).2 }).2
  exact ⟨same.asked, same.deferred, same.trace, same.guarded, same.timing,
    same.switchCtx, same.kill, same.autoReconnect, same.exitReason⟩

theorem setStateAndSync_eventOnly (next : VpnState) :
    Keeps EventOnly (setStateAndSync next) :=
  fun _ => ⟨rfl, rfl, rfl, rfl, rfl, rfl, rfl, rfl, rfl⟩

/-- The kill switch, the firewall and the reports on them are as before. -/
structure NmOnly (before after : World) : Prop where
  ks : after.kill.ks = before.kill.ks
  firewall : after.kill.host.firewall = before.kill.host.firewall
  issued : after.kill.host.issued = before.kill.host.issued
  log : after.kill.host.log = before.kill.host.log
  clock : before.now ≤ after.now
  reported : after.shared.killSwitch = before.shared.killSwitch
  wanted : after.config.killSwitchEnabled = before.config.killSwitchEnabled
  ordering : after.config.preConnect = before.config.preConnect

instance : IsPreorder World NmOnly where
  refl _ := ⟨rfl, rfl, rfl, rfl, Nat.le_refl _, rfl, rfl, rfl⟩
  trans _ _ _ first second :=
    { ks := second.ks.trans first.ks
      firewall := second.firewall.trans first.firewall
      issued := second.issued.trans first.issued
      log := second.log.trans first.log
      clock := first.clock.trans second.clock
      reported := second.reported.trans first.reported
      wanted := second.wanted.trans first.wanted
      ordering := second.ordering.trans first.ordering }

theorem NmOnly.enabled
    {before after : World}
    (nmOnly : NmOnly before after) :
    after.killSwitchIsEnabled = before.killSwitchIsEnabled :=
  congrArg KillSwitch.enabled nmOnly.ks

theorem nmOnly_of_same
    {change : World → World}
    (same :
      Keeps (SameView fun world : World => (world.kill, world.shared.killSwitch, world.config))
        (modify change : StateM World PUnit)) :
    Keeps NmOnly (modify change : StateM World PUnit) := by
  intro world
  obtain ⟨kill, rest⟩ := Prod.mk.inj (same world)
  obtain ⟨reported, config⟩ := Prod.mk.inj rest
  exact
    { ks := congrArg KsWorld.ks kill
      firewall := congrArg (·.host.firewall) kill
      issued := congrArg (·.host.issued) kill
      log := congrArg (·.host.log) kill
      clock := Nat.le_of_eq (congrArg (·.host.now) kill).symm
      reported := reported
      wanted := congrArg Config.killSwitchEnabled config
      ordering := congrArg Config.preConnect config }

section Calls

variable (env : Env)

theorem sleep_keeps (millis : Nat) :
    Keeps NmOnly (sleep millis) :=
  fun _ => ⟨rfl, rfl, rfl, rfl, Nat.le_add_right _ _, rfl, rfl, rfl⟩

theorem noteCall_keeps
    (call : NmCall)
    (count : Asked → Asked) :
    Keeps NmOnly (noteCall env call count) :=
  fun _ => ⟨rfl, rfl, rfl, rfl, Nat.le_add_right _ _, rfl, rfl, rfl⟩

theorem syncSharedState_keeps :
    Keeps NmOnly syncSharedState :=
  nmOnly_of_same fun _ => rfl

theorem noteConnected_nmOnly (world : World) :
    NmOnly world (noteConnected world) := by
  rw [noteConnected]
  cases world.machine.state with
  | connected server =>
    dsimp only
    split
    · exact ⟨rfl, rfl, rfl, rfl, Nat.le_refl _, rfl, rfl, rfl⟩
    · exact ⟨rfl, rfl, rfl, rfl, Nat.le_refl _, rfl, rfl, rfl⟩
  | _ => exact Std.Refl.refl world

theorem dispatch_keeps (event : Event) :
    Keeps NmOnly (dispatch event) := by
  intro world
  have noted := noteConnected_nmOnly { world with machine := (world.machine.handleEvent event).2 }
  exact ⟨noted.ks, noted.firewall, noted.issued, noted.log, noted.clock,
    noted.reported, noted.wanted, noted.ordering⟩

theorem dispatchAndSync_keeps (event : Event) :
    Keeps NmOnly (dispatchAndSync event) :=
  (dispatch_keeps event).seq syncSharedState_keeps

end Calls

/-- A calm host on which NetworkManager knows no VPN. -/
def calmEnv : Env where
  fw := KillSwitch.calmEnv
  active _ := none
  activeInfo _ := none
  allActive _ := []
  vpnState _ := none
  connects _ := false
  disconnects _ := true
  listed _ := []
  nmMillis _ := 0
  arrivals _ := []
  cancelMillis _ := 0
  polled _ := none
  resolvConf _ := none
  autostart _ := none
  restarts _ := false

/-- A new supervisor in a given state. -/
def worldIn (state : VpnState) : World :=
  { restingWorld with
    machine := { restingWorld.machine with state := state }
    shared := { restingWorld.shared with state := state } }

end Shroud.Supervisor
