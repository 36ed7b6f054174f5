import Shroud.HandlerInvariant

namespace Shroud.Supervisor

open StateProgram

/-!
# Switching with the kill switch on

A connect opens the kill switch only if the setting or the address of the VPN
asks for it.  Everything else that a connect does leaves the kill switch, the
firewall and the reports on them alone.
-/

variable (env : Env)

theorem switchConnection_keeps (name : String) :
    Keeps NmOnly (switchConnection env name) :=
  .of_preserves fun start =>
    (nmOnly_steps env start).switchConnection (nmOnly_notes start) trivial

theorem effectivePreConnect_keeps (name : String) :
    Keeps NmOnly (effectivePreConnect env name) := by
  refine .get ?_
  intro current
  refine .either ?_ .pure
  exact (detectVpnEndpoints_nmOnly env).bind fun _ => .pure

/-- The kill switch need not be opened to connect to the target. -/
def KeepsOrder (target : String) (world : World) : Prop :=
  world.config.killSwitchEnabled = false ∨
    (world.config.preConnect = true ∧ target ∉ (env.fw.scan world.kill.host.scans).hostnameVpns)

instance (target : String) (world : World) :
    Decidable (KeepsOrder env target world) :=
  inferInstanceAs (Decidable (_ ∨ _))

variable {target : String} {world : World}

theorem effectivePreConnect_of_keepsOrder
    (order : KeepsOrder env target world) :
    world.config.killSwitchEnabled = false ∨
      ((effectivePreConnect env target).run world).1 = true := by
  rcases order with unwanted | ⟨preConnect, unlisted⟩
  · exact .inl unwanted
  cases wanted : world.config.killSwitchEnabled with
  | false => exact .inl rfl
  | true =>
    right
    have asked :
        (effectivePreConnect env target).run world =
          (if world.config.killSwitchEnabled && world.config.preConnect then
            do
              let scan ← onKillSwitch (KillSwitch.detectVpnEndpoints env.fw)
              pure (resolvePreConnect true target scan.hostnameVpns)
          else pure world.config.preConnect : StateM World Bool).run
            world :=
      rfl
    rw [asked, wanted, preConnect, Bool.and_true, if_pos rfl, run_bind]
    change resolvePreConnect true target (env.fw.scan world.kill.host.scans).hostnameVpns = true
    simp [resolvePreConnect, unlisted]

/-- The kill switch is not wanted, or it is on already. -/
def NeedsNoSwitch (world : World) : Prop :=
  world.config.killSwitchEnabled = false ∨ world.killSwitchIsEnabled = true

theorem NmOnly.needsNoSwitch
    {before after : World}
    (nmOnly : NmOnly before after)
    (needless : NeedsNoSwitch before) :
    NeedsNoSwitch after := by
  rw [NeedsNoSwitch, nmOnly.wanted, nmOnly.enabled]
  exact needless

theorem prepareKillSwitch_needless
    {preConnect : Bool}
    (needless : NeedsNoSwitch world)
    (order : world.config.killSwitchEnabled = false ∨ preConnect = true) :
    (prepareKillSwitch env preConnect).run world = ((), world) := by
  rw [prepareKillSwitch, run_get_bind]
  rcases order with unwanted | isPre
  · rw [if_neg (by simp [unwanted])]
    rfl
  · rcases needless with unwanted | enabled
    · rw [if_neg (by simp [unwanted])]
      rfl
    · rw [if_pos isPre, if_pos enabled, ite_self]
      rfl

theorem rearmKillSwitch_needless
    {succeeded : Bool}
    (needless : NeedsNoSwitch world) :
    (rearmKillSwitch env succeeded).run world = ((), world) := by
  rw [rearmKillSwitch, run_get_bind]
  rw [if_neg (by rcases needless with off | on <;> simp [*])]
  rfl

theorem handleConnect_nmOnly
    (needless : NeedsNoSwitch world)
    (order : KeepsOrder env target world) :
    NmOnly world ((handleConnect env target).run world).2 := by
  have steps := nmOnly_steps env world
  have notes := nmOnly_notes world
  have begins :
      Ensures (fun state => state = world) (beginSwitch target)
        (fun _ state =>
          NmOnly world state ∧ KeepsOrder env target state) := by
    rintro _ rfl
    exact ⟨notes.beginSwitch target _ (Std.Refl.refl _), order⟩
  have asks :
      Ensures (fun state => NmOnly world state ∧ KeepsOrder env target state)
        (effectivePreConnect env target)
        (fun preConnect state =>
          NmOnly world state ∧ (state.config.killSwitchEnabled = false ∨ preConnect = true)) := by
    intro state before
    have kept := effectivePreConnect_keeps env target state
    refine ⟨IsTrans.trans _ _ _ before.1 kept, ?_⟩
    rw [kept.wanted]
    exact effectivePreConnect_of_keepsOrder env before.2
  have prepares :
      ∀ preConnect,
        Ensures
          (fun state =>
            NmOnly world state ∧ (state.config.killSwitchEnabled = false ∨ preConnect = true))
          (prepareKillSwitch env preConnect) (fun _ => NmOnly world) := by
    intro preConnect state before
    rw [prepareKillSwitch_needless env (before.1.needsNoSwitch needless) before.2]
    exact before.1
  have rearms : ∀ succeeded, Preserves (NmOnly world) (rearmKillSwitch env succeeded) := by
    intro succeeded state before
    rw [rearmKillSwitch_needless env (before.needsNoSwitch needless)]
    exact before
  have spec :
      Ensures (fun state => state = world) (handleConnect env target) (fun _ => NmOnly world) := by
    refine begins.seq (asks.bind ?_)
    intro preConnect
    refine (prepares preConnect).seq ?_
    refine .bind (steps.switchConnection notes trivial) ?_
    intro succeeded
    refine .seq (rearms succeeded) ?_
    refine Preserves.seq (notes _ _ (by intro _; rfl)) ?_
    exact .either .pure (steps.giveUpSwitch notes)
  exact spec world rfl

/-- No firewall command was issued and the kill switch is still enabled. -/
structure GapFree (before after : World) : Prop where
  issued : after.kill.host.issued = before.kill.host.issued
  log : after.kill.host.log = before.kill.host.log
  firewall : after.kill.host.firewall = before.kill.host.firewall
  ks : after.kill.ks = before.kill.ks
  enabled : after.killSwitchIsEnabled = true

theorem NmOnly.gapFree
    {before after : World}
    (nmOnly : NmOnly before after)
    (enabled : before.killSwitchIsEnabled = true) :
    GapFree before after :=
  ⟨nmOnly.issued, nmOnly.log, nmOnly.firewall, nmOnly.ks, nmOnly.enabled.trans enabled⟩

/-- The VPN that a command of the socket connects to. -/
def connectTarget (world : World) : IpcCommand → Option String
  | .connect name => some name
  | .switch name => some name
  | .reconnect => world.shared.state.serverName.or world.config.lastServer
  | _ => none

theorem handleIpcCommand_connects
    {command : IpcCommand}
    (isTarget : connectTarget world command = some target) :
    ((handleIpcCommand env command).run world).2 = ((handleConnect env target).run world).2 := by
  cases command with
  | connect name | switch name =>
    rw [← Option.some.inj isTarget, handleIpcCommand, run_bind, run_pure]
  | reconnect =>
    have isServer : world.shared.state.serverName.or world.config.lastServer = some target :=
      isTarget
    rw [handleIpcCommand, ipcReconnect, run_get_bind]
    rw [isServer, run_bind, run_pure]
  | _ => exact absurd isTarget (by simp [connectTarget])

theorem switching_opens_no_gap
    (target : String)
    (world : World)
    (enabled : world.killSwitchIsEnabled = true)
    (order : KeepsOrder env target world) :
    GapFree world ((handleConnect env target).run world).2 ∧
      ∀ command, connectTarget world command = some target →
        GapFree world ((handleIpcCommand env command).run world).2 := by
  have gapFree := (handleConnect_nmOnly env (.inr enabled) order).gapFree enabled
  refine ⟨gapFree, ?_⟩
  intro command isTarget
  rw [handleIpcCommand_connects env isTarget]
  exact gapFree

/-- A new supervisor whose kill switch has just been switched on. -/
def armedWorld : World :=
  { restingWorld with
    config := { Config.default with killSwitchEnabled := true }
    kill := ((KillSwitch.enable KillSwitch.calmEnv).run restingWorld.kill).2 }

theorem switching_opens_no_gap_armedWorld :
    armedWorld.killSwitchIsEnabled = true ∧
      KeepsOrder calmEnv "berlin" armedWorld ∧
      GapFree armedWorld ((handleIpcCommand calmEnv (.switch "berlin")).run armedWorld).2 := by
  have enabled : armedWorld.killSwitchIsEnabled = true := by decide
  have order : KeepsOrder calmEnv "berlin" armedWorld := .inr ⟨rfl, List.not_mem_nil⟩
  exact ⟨enabled, order,
    (switching_opens_no_gap calmEnv "berlin" armedWorld enabled order).2 (.switch "berlin") rfl⟩

end Shroud.Supervisor
