import Mathlib.Algebra.Order.Monoid.Unbundled.Pow
import Shroud.ConnectGuard
import Shroud.LeakSignal
import Shroud.TraceLanguage

namespace Shroud

open StateProgram Computability

/-!
# The order of a switch

The calls of `handle_connect` to NetworkManager, as a regular expression: it
looks around, disconnects every VPN in its way, waits for that, and then asks
for the connection at most three times, watching each attempt.
-/

namespace Supervisor

/-- A call before the connection: no connect, and no disconnect of the target. -/
def ClearsFor (name : String) (call : NmCall) : Prop :=
  call.isConnect = false ∧ ∀ ok, call ≠ .disconnect name ok

/-- A call to disconnect one VPN. -/
def Disconnects (server : String) (call : NmCall) : Prop :=
  ∃ ok, call = .disconnect server ok

/-- A call to connect to the target. -/
def ConnectsTo (name : String) (call : NmCall) : Prop :=
  ∃ ok, call = .connect name ok

/-- A question about the state of the target. -/
def Watches (name : String) (call : NmCall) : Prop :=
  call = .getVpnState name

/-- The calls that clear the way. -/
abbrev clearing (name : String) : Language NmCall :=
  (entries (ClearsFor name))∗

/-- One call to disconnect for each of the VPNs, in their order. -/
def dropping (vpns : List ActiveVpnInfo) : Language NmCall :=
  (vpns.map fun vpn => entries (Disconnects vpn.name)).prod

/-- At most one request to connect, and the watch over it. -/
def attempting (name : String) : Language NmCall :=
  1 + entries (ConnectsTo name) * (entries (Watches name))∗

/-- The calls of a whole switch. -/
def switching (name : String) (others : List ActiveVpnInfo) :
    Language NmCall :=
  clearing name * dropping others * clearing name * attempting name ^ maxConnectAttempts

section Programs

variable (env : Env) (name : String)

theorem noteCall_clears
    {call : NmCall}
    (clears : ClearsFor name call)
    (count : Asked → Asked) :
    Keeps (Adds World.trace (clearing name)) (noteCall env call count) :=
  fun _ => (adds_entry clears rfl).mono le_kstar

theorem clears_of_same
    {α : Type}
    {program : StateM World α}
    (same : Keeps (SameView World.trace) program) :
    Keeps (Adds World.trace (clearing name)) program :=
  fun world => (adds_one (same world)).mono one_le_kstar

theorem sleep_clears (millis : Nat) :
    Keeps (Adds World.trace (clearing name)) (sleep millis) :=
  clears_of_same name fun _ => rfl

theorem getAllActiveVpns_clears :
    Keeps (Adds World.trace (clearing name)) (getAllActiveVpns env) := by
  have clears : ClearsFor name .getAllActiveVpns := ⟨rfl, by simp⟩
  exact noteCall_clears env name clears
    (fun asked => { asked with allActive := asked.allActive + 1 })

theorem disconnectAll_drops
    (vpns : List ActiveVpnInfo)
    (world : World) :
    Adds World.trace (dropping vpns) world ((disconnectAll env vpns).run world).2 := by
  induction vpns generalizing world with
  | nil => exact adds_one rfl
  | cons vpn rest ih =>
    let dropped := ((nmDisconnect env vpn.name).run world).2
    have later :
        ((disconnectAll env (vpn :: rest)).run world).2 =
          ((disconnectAll env rest).run dropped).2 :=
      rfl
    have drops : Adds World.trace (entries (Disconnects vpn.name)) world dropped :=
      adds_entry ⟨env.disconnects world.asked.disconnect, rfl⟩ rfl
    rw [later]
    exact drops.trans (ih dropped)

theorem dropping_le_clearing (vpns : List ActiveVpnInfo) :
    dropping (otherVpns name vpns) ≤ clearing name := by
  intro word member
  refine mem_entries_kstar.mpr ?_
  intro call inWord
  obtain ⟨vpn, inOthers, ok, rfl⟩ := exists_factor_of_mem_prod member inWord
  have other : vpn.name ≠ name := by
    simpa [otherVpns] using (List.mem_filter.mp inOthers).2
  refine ⟨rfl, ?_⟩
  intro dropped same
  exact other (NmCall.disconnect.inj same).1

theorem waitForDisconnects_clears (attempts : Nat) :
    Keeps (Adds World.trace (clearing name)) (waitForDisconnects env name attempts) := by
  induction attempts with
  | zero => exact clears_of_same name (fun _ => rfl)
  | succ attempts ih =>
    refine .seq (sleep_clears name _) ?_
    refine .bind (getAllActiveVpns_clears env name) ?_
    intro remaining
    refine .either .pure ?_
    refine .either ?_ ih
    intro world
    exact (disconnectAll_drops env _ world).mono (dropping_le_clearing name remaining)

theorem disconnectOthers_drops
    (vpns : List ActiveVpnInfo)
    (world : World) :
    Adds World.trace (dropping (otherVpns name vpns) * clearing name) world
      ((disconnectOthers env name (otherVpns name vpns)).run world).2 := by
  have waits :
      Keeps (Adds World.trace (clearing name))
        (if otherVpns name vpns = [] then pure ()
        else do
          waitForDisconnects env name disconnectVerifyMaxAttempts
          killOrphanOpenvpnProcesses env
          sleep postDisconnectSettleMs : StateM World Unit) := by
    refine .either .pure ?_
    refine .seq (waitForDisconnects_clears env name _) ?_
    have kills : ClearsFor name .killOrphanOpenvpnProcesses := ⟨rfl, by simp⟩
    refine .seq (noteCall_clears env name kills id) ?_
    exact sleep_clears name _
  rw [disconnectOthers, run_bind]
  exact (disconnectAll_drops env _ world).trans (waits _)

theorem monitorConnection_watches (attempts : Nat) :
    Keeps (Adds World.trace (entries (Watches name))∗) (monitorConnection env name attempts) := by
  induction attempts with
  | zero => exact .pure
  | succ attempts ih =>
    have sleeps :
        Keeps (Adds World.trace (entries (Watches name))∗) (sleep connectionMonitorIntervalMs) :=
      fun _ => (adds_one rfl).mono one_le_kstar
    have asks : Keeps (Adds World.trace (entries (Watches name))∗) (getVpnState env name) :=
      fun _ =>
        (adds_entry (show Watches name (.getVpnState name) from rfl) rfl).mono le_kstar
    refine sleeps.seq ?_
    refine asks.bind ?_
    intro answer
    cases answer with
    | none => exact .pure
    | some state =>
      cases state with
      | activated =>
        refine .bind ?_ fun _ => .pure
        intro world
        have same := dispatchAndSync_eventOnly (.nmVpnUp name) world
        exact (adds_one same.trace).mono one_le_kstar
      | activating => exact ih
      | deactivating => exact .pure
      | inactive => exact .pure

theorem connectOnce_attempts (world : World) :
    Adds World.trace (attempting name) world ((connectOnce env name).run world).2 := by
  let asked := ((nmConnect env name).run world).2
  have connects : Adds World.trace (entries (ConnectsTo name)) world asked :=
    adds_entry ⟨env.connects world.asked.connect, rfl⟩ rfl
  have watches :
      Keeps (Adds World.trace (entries (Watches name))∗)
        (if env.connects world.asked.connect then
          monitorConnection env name connectionMonitorMaxAttempts
        else pure false : StateM World Bool) :=
    .either (monitorConnection_watches env name _) .pure
  exact (connects.trans (watches asked)).mono le_add_self

theorem connectAttempts_attempts
    (attempts : Nat)
    (world : World) :
    Adds World.trace (attempting name ^ attempts) world
      ((connectAttempts env name attempts).run world).2 := by
  induction attempts generalizing world with
  | zero => exact adds_one rfl
  | succ attempts ih =>
    have first := connectOnce_attempts env name world
    have enough : (1 : Language NmCall) ≤ attempting name ^ attempts :=
      Left.one_le_pow_of_le le_self_add attempts
    rw [connectAttempts, run_bind, pow_succ']
    refine first.trans ?_
    split
    · exact (adds_one rfl).mono enough
    · split
      · exact (adds_one rfl).mono enough
      · exact (ih _).after_same rfl

/-- The VPNs in the way of a connect, as NetworkManager first reports them. -/
def inTheWay (world : World) : List ActiveVpnInfo :=
  otherVpns name (env.allActive world.asked.allActive)

theorem switchConnection_switches (world : World) :
    Adds World.trace (switching name (inTheWay env name world)) world
      ((switchConnection env name).run world).2 := by
  let looked := ((getAllActiveVpns env).run world).2
  let noted := ((noteSwitchedFrom (inTheWay env name world)).run looked).2
  let dropped := ((disconnectOthers env name (inTheWay env name world)).run noted).2
  let checked := ((getAllActiveVpns env).run dropped).2
  let requested := ((dispatchAndSync (.userEnable name)).run checked).2
  have opened :
      ((switchConnection env name).run world).2 =
        ((connectAttempts env name maxConnectAttempts).run requested).2 :=
    rfl
  have looks : Adds World.trace (clearing name) world noted :=
    getAllActiveVpns_clears env name world
  have drops := disconnectOthers_drops env name (env.allActive world.asked.allActive) noted
  have checks : Adds World.trace (clearing name) dropped requested := by
    have same := dispatchAndSync_eventOnly (.userEnable name) checked
    obtain ⟨word, member, grows⟩ := getAllActiveVpns_clears env name dropped
    exact ⟨word, member, same.trace.trans grows⟩
  have attempts := connectAttempts_attempts env name maxConnectAttempts requested
  rw [opened, switching]
  refine Adds.trans ?_ attempts
  refine ((looks.trans drops).trans checks).mono ?_
  rw [mul_assoc, mul_assoc, mul_assoc, kstar_mul_kstar]
  exact le_rfl

/-- The calls of a connect, in their order. -/
theorem handleConnect_switches (world : World) :
    Adds World.trace (switching name (inTheWay env name world)) world
      ((handleConnect env name).run world).2 := by
  have asked : (prepared env name world).asked = world.asked := by
    have begins : Keeps (SameView World.asked) (beginSwitch name) := fun _ => rfl
    have guards : GuardsAlong (SameView World.asked) := ⟨fun _ _ => rfl, fun _ _ => rfl⟩
    exact prepared_follows env name begins guards world
  have same := (Prod.mk.inj (prepared_sameCalls env name world)).1
  have switches := switchConnection_switches env name (prepared env name world)
  rw [inTheWay, asked] at switches
  rw [handleConnect_prepared, connectPrepared, run_bind]
  have finishes :=
    finish_sameCalls env
      ((switchConnection env name).run (prepared env name world)).1
      ((switchConnection env name).run (prepared env name world)).2
  obtain ⟨word, member, grows⟩ := switches.after_same same
  exact ⟨word, member, (Prod.mk.inj finishes).1.trans grows⟩

theorem attempting_le :
    attempting name ≤ (entries fun call => ConnectsTo name call ∨ Watches name call)∗ := by
  have connects :
      entries (ConnectsTo name) ≤ (entries fun call => ConnectsTo name call ∨ Watches name call)∗ :=
    (entries_mono fun _ => .inl).trans le_kstar
  have watches :
      (entries (Watches name))∗ ≤ (entries fun call => ConnectsTo name call ∨ Watches name call)∗ :=
    kstar_mono (entries_mono fun _ => .inr)
  refine add_le one_le_kstar ?_
  exact (mul_le_mul' connects watches).trans (kstar_mul_kstar _).le

theorem connectsTo_or_watches_of_mem_pow
    {attempts : Nat}
    {word : List NmCall}
    (member : word ∈ attempting name ^ attempts) :
    ∀ call ∈ word, ConnectsTo name call ∨ Watches name call := by
  have within :
      attempting name ^ attempts ≤
        (entries fun call => ConnectsTo name call ∨ Watches name call)∗ :=
    calc attempting name ^ attempts
      _ ≤ (attempting name)∗ := pow_le_kstar
      _ ≤ (entries fun call =>
            ConnectsTo name call ∨ Watches name call)∗∗ :=
          kstar_mono (attempting_le name)
      _ = (entries fun call => ConnectsTo name call ∨ Watches name call)∗ := kstar_idem _
  exact mem_entries_kstar.mp (within member)

theorem countP_isConnect_le_one
    {word : List NmCall}
    (member : word ∈ attempting name) :
    word.countP NmCall.isConnect ≤ 1 := by
  rcases member with empty | ⟨front, ⟨only, connects, rfl⟩, rest, inRest, rfl⟩
  · rw [(Language.mem_one word).mp empty]
    exact Nat.zero_le 1
  · have watched : rest.countP NmCall.isConnect = 0 := by
      rw [List.countP_eq_zero]
      intro call inWord
      rw [mem_entries_kstar.mp inRest call inWord]
      exact Bool.false_ne_true
    rw [List.countP_append, watched, List.countP_singleton]
    split
    · exact Nat.le_refl 1
    · exact Nat.zero_le 1

theorem mem_takeWhile_of_clearing
    {cleared attempts : List NmCall}
    (clears : ∀ call ∈ cleared, ClearsFor name call)
    {call : NmCall}
    (member : call ∈ cleared) :
    call ∈ (cleared ++ attempts).takeWhile fun call => !call.isConnect := by
  have passes : ∀ call ∈ cleared, (!call.isConnect) = true := by
    intro other inCleared
    rw [(clears other inCleared).1]
    rfl
  rw [List.takeWhile_append_of_pos passes]
  exact List.mem_append_left _ member

end Programs

/--
Every VPN in the way is asked to disconnect before the first request, the
target never is; only the target is asked to connect, at most three times; and
the switch is over when the call returns.
-/
theorem switch_order
    (env : Env)
    (name : String)
    (world : World) :
    ∃ calls,
      ((handleConnect env name).run world).2.trace = world.trace ++ calls ∧
        (∀ vpn ∈ env.allActive world.asked.allActive, vpn.name ≠ name →
          ∃ ok, NmCall.disconnect vpn.name ok ∈ calls.takeWhile fun call => !call.isConnect) ∧
        (∀ ok, NmCall.disconnect name ok ∉ calls) ∧
        (∀ server ok, NmCall.connect server ok ∈ calls → server = name) ∧
        calls.countP NmCall.isConnect ≤ maxConnectAttempts ∧
        ((handleConnect env name).run world).2.switchCtx.inProgress = false ∧
        ((handleConnect env name).run world).2.switchCtx.target = none := by
  obtain ⟨calls, member, grows⟩ := handleConnect_switches env name world
  obtain ⟨cleared, inCleared, attempts, inAttempts, rfl⟩ := Language.mem_mul.mp member
  have clears : ∀ call ∈ cleared, ClearsFor name call := by
    have within :
        clearing name * dropping (inTheWay env name world) * clearing name ≤ clearing name :=
      calc clearing name * dropping (inTheWay env name world) * clearing name
        _ ≤ clearing name * clearing name * clearing name :=
            mul_le_mul' (mul_le_mul' le_rfl (dropping_le_clearing name _)) le_rfl
        _ = clearing name := by rw [kstar_mul_kstar, kstar_mul_kstar]
    exact mem_entries_kstar.mp (within inCleared)
  have connects := connectsTo_or_watches_of_mem_pow name inAttempts
  refine ⟨cleared ++ attempts, grows, ?_, ?_, ?_, ?_, handleConnect_finishes env name world⟩
  · intro vpn active other
    obtain ⟨front, inFront, waits, _, rfl⟩ := Language.mem_mul.mp inCleared
    obtain ⟨looks, _, drops, inDrops, rfl⟩ := Language.mem_mul.mp inFront
    have inOthers : vpn ∈ inTheWay env name world :=
      List.mem_filter.mpr ⟨active, by simpa using other⟩
    obtain ⟨call, called, ok, rfl⟩ := exists_of_mem_prod inDrops inOthers
    refine ⟨ok, mem_takeWhile_of_clearing name clears ?_⟩
    exact List.mem_append_left _ (List.mem_append_right _ called)
  · intro ok called
    rcases List.mem_append.mp called with early | late
    · exact (clears _ early).2 ok rfl
    · rcases connects _ late with ⟨_, same⟩ | same
      · exact NmCall.noConfusion same
      · exact NmCall.noConfusion same
  · intro server ok called
    rcases List.mem_append.mp called with early | late
    · exact Bool.noConfusion (clears _ early).1
    · rcases connects _ late with ⟨_, same⟩ | same
      · exact (NmCall.connect.inj same).1
      · exact NmCall.noConfusion same
  · have none : cleared.countP NmCall.isConnect = 0 := by
      rw [List.countP_eq_zero]
      intro call early
      rw [(clears call early).1]
      exact Bool.false_ne_true
    rw [List.countP_append, none, Nat.zero_add]
    exact countP_le_of_mem_pow (fun _ => countP_isConnect_le_one name) inAttempts

/-- However a switch ends, its mark is gone before the next event. -/
theorem settled_between_events
    {env : Env}
    {world : World}
    (settled : world.switchCtx.inProgress = false)
    (steps : List LoopStep) :
    (runLoop env steps world).switchCtx.inProgress = false := by
  have connecting (name : String) :
      Preserves (fun world => world.switchCtx.inProgress = false) (handleConnect env name) :=
    fun world _ => (handleConnect_finishes env name world).1
  have drains : Drains env fun world => world.switchCtx.inProgress = false :=
    fun _ command _ settled _ => handleCommand_settled env command _ settled
  have reconnects : Reconnects env (fun _ => True) _ := fun _ plain name _ =>
    .seq ((@settled_ignores.steps env).tell plain)
      (attemptReconnect_preserves (fun _ _ settled => settled)
        (settled_ignores.steps.attemptReconnectInner (fun _ settled => settled)
          (fun _ _ _ _ => settled_ignores.forces _) trivial) (drainDeferred_preserves drains))
  exact settled_ignores.runLoop connecting (fun _ _ settled => settled)
    (fun _ settled => settled) reconnects steps settled

theorem settled_after_switch :
    (runLoop calmEnv [.loopEvent (.trayCommand (.connect "paris"))]
      (watchedWorld (.connected "berlin"))).switchCtx.inProgress = false :=
  settled_between_events rfl _

end Supervisor

end Shroud
