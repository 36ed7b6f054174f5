import Shroud.CleanupEffects
import Shroud.DisableComplete

namespace Shroud

open Netfilter IptablesScript StateProgram BoundedErase

/-!
# When the cleanup on the way out is complete

`cleanup_with_fallback` looks for the kill switch chain of the two default
tools and removes jumps, chains and the nft table only if it finds one;
`cleanup_all` removes them always.  Neither removes IPv6 rules that stand in
`OUTPUT` itself, and neither calls a legacy tool.
-/

namespace KillSwitch

/-- Nothing that Shroud put into the firewall is left. -/
structure NothingRemains (prior firewall : Firewall) : Prop extends
    NoShroud firewall where
  ipv6 :
    ∀ variant rule,
      (firewall.table .ip6tables variant).output.count rule ≤
        (prior.table .ip6tables variant).output.count rule

/-- What is in the firewall is what the cleanup knows how to remove. -/
structure WithinReach (prior firewall : Firewall) : Prop where
  legacyChains : ∀ tool chain, (firewall.table tool .legacy).user chain = none
  legacyJumps :
    ∀ tool, ∀ rule ∈ (firewall.table tool .legacy).output, ∀ chain, rule.jumpsTo chain = false
  legacyIpv6 :
    ∀ rule,
      (firewall.table .ip6tables .legacy).output.count rule ≤
        (prior.table .ip6tables .legacy).output.count rule
  ipv6 :
    ∀ rule, rule ∉ shroudJumps →
      (firewall.table .ip6tables .default).output.count rule ≤
        (prior.table .ip6tables .default).output.count rule

theorem NothingRemains.withinReach
    {prior firewall : Firewall}
    (nothing : NothingRemains prior firewall) :
    WithinReach prior firewall where
  legacyChains tool chain := nothing.chains tool .legacy chain
  legacyJumps tool := nothing.jumps tool .legacy
  legacyIpv6 := nothing.ipv6 .legacy
  ipv6 rule _ := nothing.ipv6 .default rule

theorem count_cleanedUp
    (firewall : Firewall)
    (tool : Tool)
    (rule : XRule) :
    ((cleanedUp firewall).table tool .default).output.count rule =
      if rule ∈ shroudJumps then
        (firewall.table tool .default).output.count rule - 100
      else (firewall.table tool .default).output.count rule := by
  rw [cleanedUp_default, Table.scrub_output, count_eraseEach 100 (show shroudJumps.Nodup by decide)]

section Reach

variable
  {prior firewall : Firewall}
  (within : JumpsWithin (fun _ => shroudJumps) firewall)

include within

theorem cleanedUp_noJumps (tool : Tool) :
    ∀ rule ∈ ((cleanedUp firewall).table tool .default).output,
      ∀ chain, rule.jumpsTo chain = false := by
  intro rule member chain
  by_contra isJump
  have bound := within tool rule chain (Bool.not_eq_false _ |>.mp isJump)
  have present := List.count_pos_iff.mpr member
  rw [count_cleanedUp] at present
  have few : shroudJumps.count rule ≤ 2 := List.count_le_length
  by_cases listed : rule ∈ shroudJumps
  · rw [if_pos listed] at present
    have bounded : (firewall.table tool .default).output.count rule ≤ 2 :=
      bound.trans few
    omega
  · rw [if_neg listed] at present
    have none : shroudJumps.count rule = 0 := List.count_eq_zero.mpr listed
    have absent : (firewall.table tool .default).output.count rule ≤ 0 :=
      bound.trans_eq none
    omega

theorem cleanedUp_noChains
    (tool : Tool)
    (chain : Chain) :
    ((cleanedUp firewall).table tool .default).user chain = none := by
  have unreferenced := cleanedUp_noJumps within tool
  rw [cleanedUp_default] at unreferenced ⊢
  refine Table.scrub_user_mem tool _ ?_ ?_
  · cases chain <;> decide
  · intro rule member
    rw [Table.scrub_output] at unreferenced
    exact unreferenced rule member chain

/-- The cleanup removes everything exactly if all is within its reach. -/
theorem cleanedUp_nothingRemains_iff :
    NothingRemains prior (cleanedUp firewall) ↔ WithinReach prior firewall := by
  constructor
  · intro nothing
    constructor
    · intro tool chain
      rw [← cleanedUp_legacy]
      exact nothing.chains tool .legacy chain
    · intro tool
      rw [← cleanedUp_legacy]
      exact nothing.jumps tool .legacy
    · intro rule
      rw [← cleanedUp_legacy]
      exact nothing.ipv6 .legacy rule
    · intro rule unlisted
      have count := nothing.ipv6 .default rule
      rw [count_cleanedUp, if_neg unlisted] at count
      exact count
  · intro reach
    refine ⟨⟨?_, ?_, rfl⟩, ?_⟩
    · intro tool variant chain
      cases variant with
      | default => exact cleanedUp_noChains within tool chain
      | legacy =>
        rw [cleanedUp_legacy]
        exact reach.legacyChains tool chain
    · intro tool variant
      cases variant with
      | default => exact cleanedUp_noJumps within tool
      | legacy =>
        rw [cleanedUp_legacy]
        exact reach.legacyJumps tool
    · intro variant rule
      cases variant with
      | legacy =>
        rw [cleanedUp_legacy]
        exact reach.legacyIpv6 rule
      | default =>
        by_cases listed : rule ∈ shroudJumps
        · have gone :
              ((cleanedUp firewall).table .ip6tables .default).output.count rule = 0 := by
            refine List.count_eq_zero.mpr ?_
            intro member
            have noJump := cleanedUp_noJumps within .ip6tables rule member
            have jumps :
                ∀ jump ∈ shroudJumps,
                  jump.jumpsTo .killSwitch = true ∨ jump.jumpsTo .boot = true := by
              decide
            rcases jumps rule listed with isJump | isJump
            · exact Bool.noConfusion ((noJump _).symm.trans isJump)
            · exact Bool.noConfusion ((noJump _).symm.trans isJump)
          rw [gone]
          exact Nat.zero_le _
        · rw [count_cleanedUp, if_neg listed]
          exact reach.ipv6 rule listed

end Reach

/-- Nothing came up that was not there before. -/
structure Subsides (before after : KsWorld) : Prop where
  chains :
    ∀ tool variant chain,
      ((firewallOf before).table tool variant).user chain = none →
        ((firewallOf after).table tool variant).user chain = none
  rules :
    ∀ tool variant rule,
      ((firewallOf after).table tool variant).output.count rule ≤
        ((firewallOf before).table tool variant).output.count rule
  nft : (firewallOf before).nft = none → (firewallOf after).nft = none

instance : IsPreorder KsWorld Subsides where
  refl _ := ⟨fun _ _ _ absent => absent, fun _ _ _ => Nat.le_refl _, fun absent => absent⟩
  trans _ _ _ first second :=
    ⟨fun tool variant chain absent =>
        second.chains tool variant chain (first.chains tool variant chain absent),
      fun tool variant rule =>
        (second.rules tool variant rule).trans (first.rules tool variant rule),
      fun absent => second.nft (first.nft absent)⟩

theorem FirewallKept.subsides
    {before after : KsWorld}
    (kept : FirewallKept before after) :
    Subsides before after := by
  have same := kept.firewall
  constructor
  · rw [same]
    exact fun _ _ _ absent => absent
  · rw [same]
    exact fun _ _ _ => Nat.le_refl _
  · rw [same]
    exact fun absent => absent

theorem noChain_of_setRules
    {table : Table}
    {target : ChainRef}
    {rules : List XRule}
    (present : table.rules? target = some rules)
    (written : List XRule)
    {chain : Chain}
    (absent : table.user chain = none) :
    (table.setRules written target).user chain = none := by
  cases target with
  | output => exact absent
  | user other =>
    have different : chain ≠ other := by
      rintro rfl
      exact absurd (present.symm.trans absent) nofun
    exact (Function.update_of_ne different _ _).trans absent

section

variable
  {tool : Tool}
  {variant : Variant}
  {command : XCommand}
  (removes : (FwCommand.xtables tool variant command).removes = true)

include removes

theorem noChain_of_removes
    {before after : Table}
    (executed : command.exec tool before = some after)
    {chain : Chain}
    (absent : before.user chain = none) :
    after.user chain = none := by
  cases XCommand.edit_of_exec executed with
  | delete present member => exact noChain_of_setRules present _ absent
  | @flush other rules present =>
    exact @noChain_of_setRules before (.user other) rules present [] chain absent
  | @deleteChain other =>
    by_cases removed : chain = other
    · subst removed
      exact Function.update_self _ _ _
    · exact (Function.update_of_ne removed _ _).trans absent
  | _ => exact Bool.noConfusion removes

theorem inserted?_of_removes :
    command.inserted? = none := by
  cases command with
  | append target rule => exact Bool.noConfusion removes
  | insert target position rule => exact Bool.noConfusion removes
  | _ => rfl

end

theorem runCommand_subsides
    {env : FwEnv}
    {command : FwCommand}
    (removes : command.removes = true) :
    Keeps Subsides (runCommand env command) := by
  intro world
  have advances := (runCommand_keeps env command world).toAdvances
  rcases runCommand_firewall env command world with
    ⟨executed, -, -⟩ | ⟨unchanged, -, -⟩
  · cases command with
    | xtables tool variant edit =>
      obtain ⟨table, ran, changed⟩ := Option.map_eq_some_iff.mp executed
      constructor
      · intro other otherVariant chain absent
        rw [← changed, Firewall.table_setTable]
        split
        · next same =>
            obtain ⟨rfl, rfl⟩ := same
            exact noChain_of_removes removes ran absent
        · exact absent
      · intro other otherVariant rule
        rw [← changed, Firewall.table_setTable]
        split
        · next same =>
            obtain ⟨rfl, rfl⟩ := same
            have count := XCommand.count_of_exec ran rule
            rw [inserted?_of_removes removes] at count
            exact count
        · exact Nat.le_refl _
      · intro absent
        rw [← changed]
        exact absent
    | nftDelete =>
      obtain ⟨-, same⟩ := Option.ite_none_right_eq_some.mp executed
      have changed := Option.some.inj same
      constructor
      · rw [← changed]
        exact fun _ _ _ absent => absent
      · rw [← changed]
        exact fun _ _ _ => Nat.le_refl _
      · rw [← changed]
        exact fun _ => rfl
    | _ => exact Bool.noConfusion removes
  · exact FirewallKept.subsides ⟨advances, unchanged⟩

theorem NothingRemains.subsided
    {prior : Firewall}
    {before after : KsWorld}
    (nothing : NothingRemains prior (firewallOf before))
    (subsides : Subsides before after) :
    NothingRemains prior (firewallOf after) := by
  refine ⟨⟨?_, ?_, subsides.nft nothing.nft⟩, ?_⟩
  · intro tool variant chain
    exact subsides.chains tool variant chain (nothing.chains tool variant chain)
  · intro tool variant rule member
    refine nothing.jumps tool variant rule ?_
    exact List.count_pos_iff.mp
      ((List.count_pos_iff.mpr member).trans_le (subsides.rules tool variant rule))
  · intro variant rule
    exact (subsides.rules .ip6tables variant rule).trans (nothing.ipv6 variant rule)

section Subsiding

variable (env : FwEnv)

theorem list_subsides
    (tool : Tool)
    (chain : Chain) :
    Keeps Subsides (runCommand env (.xtables tool .default (.list chain))) :=
  fun world => (runCommand_observes env rfl world).subsides

theorem cleanupWithFallback_subsides :
    Keeps Subsides (cleanupWithFallback env) :=
  cleanupWithFallback_follows
    (fun _ cleans =>
      runCommand_subsides (FwCommand.removes_of_cleans cleans))
    (list_subsides env)

theorem cleanupAll_subsides :
    Keeps Subsides (cleanupAll env) :=
  cleanupAll_follows
    (fun _ cleans =>
      runCommand_subsides (FwCommand.removes_of_cleans cleans))
    (list_subsides env)

end Subsiding

/-- The fallback cleanup is complete whenever it says so. -/
def FallbackComplete (env : FwEnv) (prior firewall : Firewall) : Prop :=
  ∀ world,
    firewallOf world = firewall →
    ¬Stuck ((cleanupWithFallback env).run world).2 →
    (((cleanupWithFallback env).run world).1 = .cleaned ∨
      ((cleanupWithFallback env).run world).1 = .nothingToClean) →
    NothingRemains prior (firewallOf ((cleanupWithFallback env).run world).2)

/-- `cleanup_all` is complete whenever it returns Ok. -/
def AllComplete (env : FwEnv) (prior firewall : Firewall) : Prop :=
  ∀ world,
    firewallOf world = firewall →
    ¬Stuck ((cleanupAll env).run world).2 →
    ((cleanupAll env).run world).1 = none →
    NothingRemains prior (firewallOf ((cleanupAll env).run world).2)

def quietWorld (firewall : Firewall) : KsWorld where
  ks := freshWorld.ks
  host :=
    { firewall := firewall
      now := 0
      issued := 0
      scans := 0
      log := [] }

theorem quietWorld_free (firewall : Firewall) :
    ¬Stuck (quietWorld firewall) := by
  rintro ⟨command, -, member⟩
  exact absurd member List.not_mem_nil

def blindEnv : FwEnv :=
  { calmEnv with
    fault := fun _ command =>
      match command with
      | .xtables _ _ (.list _) => some .timeout
      | _ => none }

theorem calmEnv_answers : Answers calmEnv where
  xtables _ _ _ := rfl
  nft _ := rfl

section Complete

variable {env : FwEnv} {prior firewall : Firewall}

theorem FallbackComplete.nothing
    (complete : FallbackComplete env prior firewall)
    (missed : ((chainsExist env).run (quietWorld firewall)).1 = false) :
    NothingRemains prior firewall := by
  have ended := cleanupWithFallback_missed missed
  have kept : Observes (chainsExist env) :=
    (chainExists_follows (runCommand_observes env rfl)).bind
      (fun _ => (chainExists_follows (runCommand_observes env rfl)).bind (fun _ => .pure))
  have free : Keeps StaysFree (chainsExist env) :=
    (chainExists_follows (list_staysFree _ _)).bind
      (fun _ => (chainExists_follows (list_staysFree _ _)).bind (fun _ => .pure))
  have remains := complete (quietWorld firewall) rfl
  rw [ended] at remains
  have nothing := remains (free _ (quietWorld_free firewall)) (.inr rfl)
  rw [(kept (quietWorld firewall)).firewall] at nothing
  exact nothing

theorem fallbackComplete_iff
    (within : JumpsWithin (fun _ => shroudJumps) firewall) :
    (∀ later, Answers later → FallbackComplete later prior firewall) ↔
      WithinReach prior firewall ∧
        ((∃ tool, (firewall.table tool .default).user .killSwitch ≠ none) ∨
          NothingRemains prior firewall) := by
  constructor
  · intro complete
    have calm := complete calmEnv calmEnv_answers
    by_cases present : ∃ tool, (firewall.table tool .default).user .killSwitch ≠ none
    · have free :=
        cleanupWithFallback_follows (cleans_staysFree calmEnv_answers)
          list_staysFree (quietWorld firewall) (quietWorld_free firewall)
      have cleaned :=
        cleanupWithFallback_cleaned calmEnv_answers (fun _ => rfl) present
          (fun tool => cleanedUp_noChains within tool _)
          (quietWorld firewall) ⟨rfl, quietWorld_free firewall⟩
      have done := (@cleanupWithFallback_spec calmEnv firewall (quietWorld firewall) rfl).1 cleaned
      have remains := calm (quietWorld firewall) rfl free (.inl cleaned)
      rw [done.resolve_right free] at remains
      exact ⟨(cleanedUp_nothingRemains_iff within).mp remains, .inl present⟩
    · have missed :
          ((chainsExist calmEnv).run (quietWorld firewall)).1 = false := by
        have spec := @chainsExist_spec calmEnv firewall (quietWorld firewall) rfl
        exact Bool.eq_false_iff.mpr fun found => present (spec.2.1 found)
      have nothing := calm.nothing missed
      exact ⟨nothing.withinReach, .inr nothing⟩
  · rintro ⟨reach, found⟩ later answers world same free good
    obtain ⟨cleaned, missed⟩ := cleanupWithFallback_spec world same
    rcases good with isCleaned | isNothing
    · rw [(cleaned isCleaned).resolve_right free]
      exact (cleanedUp_nothingRemains_iff within).mpr reach
    · obtain ⟨kept, absent⟩ := missed isNothing
      rw [kept]
      rcases found with ⟨tool, present⟩ | nothing
      · exact absurd (absent answers tool) present
      · exact nothing

theorem allComplete_iff (within : JumpsWithin (fun _ => shroudJumps) firewall) :
    (∀ later, Answers later → AllComplete later prior firewall) ↔ WithinReach prior firewall := by
  constructor
  · intro complete
    have free :=
      cleanupAll_follows (cleans_staysFree calmEnv_answers)
        list_staysFree (quietWorld firewall) (quietWorld_free firewall)
    have ok :=
      cleanupAll_done calmEnv_answers (cleanedUp_noChains within)
        (quietWorld firewall) ⟨rfl, quietWorld_free firewall⟩
    have done := @cleanupAll_spec calmEnv firewall calmEnv_answers (quietWorld firewall) rfl
    have remains := complete calmEnv calmEnv_answers (quietWorld firewall) rfl free ok
    rw [done.resolve_right free] at remains
    exact (cleanedUp_nothingRemains_iff within).mp remains
  · intro reach later answers world same free _
    rw [(cleanupAll_spec answers world same).resolve_right free]
    exact (cleanedUp_nothingRemains_iff within).mpr reach

theorem complete_iff_nothingRemains :
    (∀ later,
        FallbackComplete later prior firewall ∧ AllComplete later prior firewall) ↔
      NothingRemains prior firewall := by
  constructor
  · intro complete
    exact (complete blindEnv).1.nothing rfl
  · intro nothing later
    constructor
    · rintro world rfl _ _
      exact nothing.subsided (cleanupWithFallback_subsides later world)
    · rintro world rfl _ _
      exact nothing.subsided (cleanupAll_subsides later world)

end Complete

/--
When the two cleanups are complete, for a firewall to which installs and boot
installs have led.  With answers to every command, `cleanup_all` needs that
all is within its reach, and the fallback cleanup needs a kill switch chain
to find as well.  If listings may fail, nothing may be there at all.
-/
theorem cleanup_complete_iff
    {env : FwEnv}
    {prior : Firewall}
    (noShroud : NoShroud prior)
    {world : KsWorld}
    (reached : Reachable env prior world)
    (removals : ¬Stuck world) :
    ((∀ later,
        FallbackComplete later prior (firewallOf world) ∧
          AllComplete later prior (firewallOf world)) ↔
      NothingRemains prior (firewallOf world)) ∧
    ((∀ later, Answers later →
        FallbackComplete later prior (firewallOf world)) ↔
      WithinReach prior (firewallOf world) ∧
        ((∃ tool,
            ((firewallOf world).table tool .default).user .killSwitch ≠ none) ∨
          NothingRemains prior (firewallOf world))) ∧
    ((∀ later, Answers later →
        AllComplete later prior (firewallOf world)) ↔
      WithinReach prior (firewallOf world)) := by
  have within := (reached.contained noShroud).tables.resolve_right removals
  exact ⟨complete_iff_nothingRemains, fallbackComplete_iff within, allComplete_iff within⟩

theorem freshWorld_noShroud :
    NoShroud freshWorld.host.firewall where
  chains _ _ _ := rfl
  jumps _ _ _ member := absurd member List.not_mem_nil
  nft := rfl

def enabledWith (ipv6Mode : Ipv6Mode) : KsWorld :=
  ((enable (iptablesEnv [])).run ⟨.withConfig .tunnel ipv6Mode true [], freshWorld.host⟩).2

theorem enabledWith_reachable (ipv6Mode : Ipv6Mode) :
    Reachable (iptablesEnv []) freshWorld.host.firewall (enabledWith ipv6Mode) :=
  .step (.start rfl) .enable

theorem enabledWith_off_withinReach :
    WithinReach freshWorld.host.firewall (firewallOf (enabledWith .off)) := by
  have chains :
      ∀ tool chain, ((firewallOf (enabledWith .off)).table tool .legacy).user chain = none := by
    intro tool chain
    cases tool <;> cases chain <;> decide +kernel
  have legacy : ∀ tool, ((firewallOf (enabledWith .off)).table tool .legacy).output = [] := by
    intro tool
    cases tool <;> decide +kernel
  have ipv6 : ((firewallOf (enabledWith .off)).table .ip6tables .default).output = [] := by
    decide +kernel
  refine ⟨chains, ?_, ?_, ?_⟩
  · intro tool rule member
    rw [legacy] at member
    exact absurd member List.not_mem_nil
  · intro rule
    rw [legacy]
    exact Nat.zero_le _
  · intro rule _
    rw [ipv6]
    exact Nat.zero_le _

theorem cleanup_complete_ipv6_off :
    (∀ later, Answers later →
        FallbackComplete later freshWorld.host.firewall (firewallOf (enabledWith .off))) ∧
      ∀ later, Answers later →
        AllComplete later freshWorld.host.firewall (firewallOf (enabledWith .off)) := by
  have iffs :=
    cleanup_complete_iff freshWorld_noShroud (enabledWith_reachable .off)
      (not_stuck_of_log (by decide +kernel))
  exact
    ⟨iffs.2.1.mpr
        ⟨enabledWith_off_withinReach, .inl ⟨.iptables, by decide +kernel⟩⟩,
      iffs.2.2.mpr enabledWith_off_withinReach⟩

/--
In the Block mode both cleanups succeed and leave the two IPv6 rules; under
nftables the fallback cleanup finds nothing to clean.
-/
theorem cleanup_leaves_ipv6_rules :
    ((cleanupWithFallback (iptablesEnv [])).run (enabledWith .block)).1 =
        .cleaned ∧
      ((cleanupAll (iptablesEnv [])).run (enabledWith .block)).1 = none ∧
      (freshWorld.host.firewall.table .ip6tables .default).output = [] ∧
      ((firewallOf ((cleanupWithFallback (iptablesEnv [])).run
          (enabledWith .block)).2).table .ip6tables .default).output =
        [.rule [.out KillSwitchRules.lo] .accept, .rule [] .drop] ∧
      ((firewallOf ((cleanupAll (iptablesEnv [])).run
          (enabledWith .block)).2).table .ip6tables .default).output =
        [.rule [.out KillSwitchRules.lo] .accept, .rule [] .drop] ∧
      (((cleanupWithFallback (iptablesEnv [])).run
          (enabledWith .block)).2.host.log.all fun entry =>
        entry.effect != .faulted || !entry.command.removes) = true ∧
      ((cleanupWithFallback calmEnv).run ((enable calmEnv).run freshWorld).2).1 = .nothingToClean ∧
      (firewallOf ((cleanupWithFallback calmEnv).run
          ((enable calmEnv).run freshWorld).2).2).nft.isSome = true := by
  decide +kernel

end KillSwitch

end Shroud
