import Shroud.FirewallEffects

namespace Shroud

open Netfilter IptablesScript StateProgram

/-!
# What a script can add

A run of the script applies each of its lines at most once, by one variant of
its tool, and may end early.  So it adds to `OUTPUT` of a tool no more than the
rules that its lines insert there, and nothing to the legacy tables where no
legacy tool can be called.
-/

/-- The rule that a command puts into `OUTPUT`. -/
def Netfilter.XCommand.inserted? : XCommand → Option XRule
  | .append .output rule => some rule
  | .insert .output _ rule => some rule
  | _ => none

theorem Netfilter.XCommand.count_of_exec
    {command : XCommand}
    {tool : Tool}
    {before after : Table}
    (executed : command.exec tool before = some after)
    (rule : XRule) :
    after.output.count rule ≤ before.output.count rule + command.inserted?.toList.count rule := by
  by_cases elsewhere : command.editsOutput = false
  · rw [XCommand.output_of_exec elsewhere executed]
    exact Nat.le_add_right _ _
  · cases edit_of_exec executed with
    | @append chain added rules present =>
      cases chain with
      | user chain => exact absurd rfl elsewhere
      | output =>
        obtain rfl := Option.some.inj present
        exact Nat.le_of_eq List.count_append
    | @insert chain position added rules present inside =>
      cases chain with
      | user chain => exact absurd rfl elsewhere
      | output =>
        obtain rfl := Option.some.inj present
        have permuted := List.perm_insertIdx added before.output inside
        refine Nat.le_of_eq ((permuted.count_eq rule).trans ?_)
        exact (@List.count_append _ _ rule [added] before.output).trans (Nat.add_comm _ _)
    | @delete chain added rules present member =>
      cases chain with
      | user chain => exact absurd rfl elsewhere
      | output =>
        obtain rfl := Option.some.inj present
        exact List.erase_sublist.count_le rule
    | _ => exact absurd rfl elsewhere

namespace IptablesScript

/-- The rule that a line puts into `OUTPUT` of a tool. -/
def ScriptLine.inserted? (tool : Tool) : ScriptLine → Option XRule
  | .comment _ => none
  | .command other edit _ => if other = tool then edit.inserted? else none

/-- The rules that a script puts into `OUTPUT` of a tool. -/
def insertedRules (tool : Tool) (lines : List ScriptLine) : List XRule :=
  lines.filterMap (ScriptLine.inserted? tool)

theorem insertedRules_command
    (tool other : Tool)
    (command : XCommand)
    (ignoreError : Bool) :
    insertedRules other [.command tool command ignoreError] =
      if other = tool then command.inserted?.toList else [] := by
  rw [insertedRules, List.filterMap_cons, ScriptLine.inserted?]
  by_cases same : other = tool
  · rw [if_pos same, if_pos same.symm]
    cases command.inserted? <;> rfl
  · rw [if_neg same, if_neg (fun equal => same equal.symm)]
    rfl

theorem insertedRules_cons
    (tool : Tool)
    (line : ScriptLine)
    (lines : List ScriptLine) :
    insertedRules tool (line :: lines) = insertedRules tool [line] ++ insertedRules tool lines :=
  @List.filterMap_append _ _ [line] lines _

theorem insertedRules_of_appends
    {lines : List ScriptLine}
    (appends : ∀ line ∈ lines, line.appends = true)
    (tool : Tool) :
    insertedRules tool lines = [] := by
  refine List.filterMap_eq_nil_iff.mpr ?_
  intro line member
  have appended := appends line member
  unfold ScriptLine.appends at appended
  split at appended
  · rfl
  · cases tool <;> rfl
  · exact Bool.noConfusion appended

theorem insertedRules_buildLanRules6
    (position : Nat)
    (lanSubnets6 : List Cidr6) :
    insertedRules .ip6tables (buildLanRules6 position lanSubnets6) =
      (lanSubnets6.filter KillSwitchRules.isValidPrivateCidrV6).map
        (fun net => .rule [.dst (.v6 net)] .accept) := by
  induction lanSubnets6 generalizing position with
  | nil => rfl
  | cons net nets ih =>
    by_cases valid : KillSwitchRules.isValidPrivateCidrV6 net = true
    · rw [buildLanRules6, if_pos valid, List.filter_cons_of_pos valid,
        List.map_cons, ← ih (position + 1)]
      rfl
    · rw [buildLanRules6, if_neg valid, List.filter_cons_of_neg valid]
      exact ih position

section

variable
  (settings : KillSwitchSettings)
  (vpnIps : List IpAddr)
  (lanSubnets : List Cidr4)
  (lanSubnets6 : List Cidr6)

theorem insertedRules_ip6tables :
    insertedRules .ip6tables
        (buildCompleteScript settings vpnIps lanSubnets lanSubnets6) =
      ipv6FrontRules settings.ipv6Mode lanSubnets6 := by
  have chain : insertedRules .ip6tables (buildChainScript settings vpnIps lanSubnets) = [] := by
    have filled :=
      insertedRules_of_appends (buildChainRules_appends settings vpnIps lanSubnets) .ip6tables
    rw [insertedRules] at filled
    simp [insertedRules, buildChainScript, filled, ScriptLine.inserted?]
  have lan := insertedRules_buildLanRules6 4 lanSubnets6
  rw [insertedRules] at chain lan
  rw [insertedRules, buildCompleteScript, List.filterMap_append, chain, List.nil_append]
  cases settings.ipv6Mode with
  | block => rfl
  | off => rfl
  | tunnel =>
    simp [buildIpv6Script, ipv6FrontRules, lan, insertRule6,
      ScriptLine.inserted?, XCommand.inserted?]

theorem insertedRules_iptables :
    insertedRules .iptables
        (buildCompleteScript settings vpnIps lanSubnets lanSubnets6) =
      [jumpRule] := by
  have filled :=
    insertedRules_of_appends (buildChainRules_appends settings vpnIps lanSubnets) .iptables
  have ipv6 :
      insertedRules .iptables (buildIpv6Script settings.ipv6Mode true lanSubnets6) = [] := by
    refine List.filterMap_eq_nil_iff.mpr ?_
    intro line member
    obtain ⟨position, tests, target, -, rfl⟩ := buildIpv6Script_lines _ _ _ line member
    rfl
  rw [insertedRules] at filled ipv6
  simp [insertedRules, buildCompleteScript, buildChainScript, filled, ipv6,
    ScriptLine.inserted?, XCommand.inserted?]

end

end IptablesScript

namespace KillSwitch

section Script

variable (env : FwEnv)

/-- What a script may have added to a firewall. -/
structure Grown
    (lines : List ScriptLine)
    (before after : Firewall) : Prop where
  rules :
    ∀ tool variant rule,
      (after.table tool variant).output.count rule ≤
        (before.table tool variant).output.count rule + (insertedRules tool lines).count rule
  legacy : NoLegacy env → ∀ tool, after.table tool .legacy = before.table tool .legacy

theorem Grown.refl
    (lines : List ScriptLine)
    (firewall : Firewall) :
    Grown env lines firewall firewall where
  rules _ _ _ := Nat.le_add_right _ _
  legacy _ _ := rfl

theorem Grown.cons
    {line : ScriptLine}
    {lines : List ScriptLine}
    {before middle after : Firewall}
    (first : Grown env [line] before middle)
    (rest : Grown env lines middle after) :
    Grown env (line :: lines) before after where
  rules := by
    intro tool variant rule
    have one := first.rules tool variant rule
    have more := rest.rules tool variant rule
    rw [insertedRules_cons, List.count_append]
    omega
  legacy := by
    intro noLegacy tool
    rw [rest.legacy noLegacy, first.legacy noLegacy]

theorem LineRan.grown
    {env : FwEnv}
    {tool : Tool}
    {command : XCommand}
    {ignoreError : Bool}
    {start world : KsWorld}
    {result : Option KillSwitchError}
    (ran : LineRan env tool command ignoreError start result world) :
    Grown env [.command tool command ignoreError] (firewallOf start) (firewallOf world) := by
  rcases ran with ⟨-, used, usual, applied⟩ | ⟨-, kept⟩
  · obtain ⟨table, executed, changed⟩ := applied.executed
    constructor
    · intro other variant rule
      rw [changed]
      by_cases same : other = tool ∧ variant = used
      · obtain ⟨rfl, rfl⟩ := same
        rw [Firewall.setTable_same, insertedRules_command, if_pos rfl]
        exact XCommand.count_of_exec executed rule
      · rw [Firewall.setTable_other _ same]
        exact Nat.le_add_right _ _
    · intro noLegacy other
      rw [changed, usual noLegacy, Firewall.setTable_other _ (by simp)]
  · rw [kept.firewall]
    exact Grown.refl env _ _

theorem runScriptLine_grown
    (line : ScriptLine)
    (start : KsWorld) :
    Grown env [line] (firewallOf start) (firewallOf ((runScriptLine env line).run start).2) := by
  cases line with
  | comment text => exact Grown.refl env _ _
  | command tool command ignoreError =>
    exact (runScriptLine_ran env start tool command ignoreError start (Std.Refl.refl start)).grown

theorem runSingleScript_grown
    (lines : List ScriptLine)
    (start : KsWorld) :
    Grown env lines (firewallOf start) (firewallOf ((runSingleScript env lines).run start).2) := by
  induction lines generalizing start with
  | nil => exact Grown.refl env _ _
  | cons line rest ih =>
    have first := runScriptLine_grown env line start
    cases result : ((runScriptLine env line).run start).1 with
    | some error =>
      rw [runSingleScript_cons_some env result]
      exact first.cons env (Grown.refl env rest _)
    | none =>
      rw [runSingleScript_cons_none env result]
      exact first.cons env (ih _)

/-- A script adds at most one jump, whether or not it ends well. -/
theorem runSingleScript_jumpCount
    (settings : KillSwitchSettings)
    (vpnIps : List IpAddr)
    (lanSubnets : List Cidr4)
    (lanSubnets6 : List Cidr6)
    (start : KsWorld) :
    jumpCount ((runSingleScript env
        (buildCompleteScript settings vpnIps lanSubnets lanSubnets6)).run start).2 ≤
      jumpCount start + 1 := by
  have grown :=
    (runSingleScript_grown env (buildCompleteScript settings vpnIps lanSubnets lanSubnets6)
      start).rules .iptables .default jumpRule
  rw [insertedRules_iptables, List.count_singleton_self] at grown
  exact grown

end Script

end KillSwitch

end Shroud
