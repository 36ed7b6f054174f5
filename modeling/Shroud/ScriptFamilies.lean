import Shroud.ForeignRules

namespace Shroud.KillSwitch

open Netfilter IptablesScript KillSwitchRules

/-!
# Address families of the script

`iptables` refuses an IPv6 address.  The localhost mode hands it `::1`, so that
its script fails on every host; the scripts of the other modes are well typed.
-/

/-- A line names only addresses of the family of its tool. -/
def isWellTyped : ScriptLine → Bool
  | .command tool (.append _ rule) _ => rule.familyOk tool
  | .command tool (.insert _ _ rule) _ => rule.familyOk tool
  | _ => true

theorem isWellTyped_of_fillsChain
    {line : ScriptLine}
    (fills : line.fillsChain = true) :
    isWellTyped line = true := by
  unfold ScriptLine.fillsChain at fills
  split at fills
  · rfl
  · exact (Bool.and_eq_true_iff.mp fills).1
  · exact Bool.noConfusion fills

theorem buildCompleteScript_isWellTyped_iff
    (settings : KillSwitchSettings)
    (vpnIps : List IpAddr)
    (lanSubnets : List Cidr4)
    (lanSubnets6 : List Cidr6) :
    (∀ line ∈ buildCompleteScript settings vpnIps lanSubnets lanSubnets6,
        isWellTyped line = true) ↔
      settings.dnsMode ≠ .localhost := by
  constructor
  · intro typed localhost
    obtain ⟨rest, script⟩ := buildChainScript_localhost localhost vpnIps lanSubnets
    rw [buildCompleteScript, script] at typed
    have loopback :=
      typed (appendRule [.dst (.v6 (Cidr.host loopback6)), .proto .udp, .dport 53] .accept)
        (by simp)
    exact Bool.noConfusion loopback
  · intro notLocalhost line member
    simp only [buildCompleteScript, buildChainScript, List.mem_append, List.mem_singleton] at member
    rcases member with ((rfl | inChain) | rfl) | inIpv6
    · rfl
    · exact isWellTyped_of_fillsChain
        (buildChainRules_fill notLocalhost vpnIps lanSubnets line inChain)
    · rfl
    · obtain ⟨position, tests, target, family, rfl⟩ := buildIpv6Script_lines _ _ _ line inIpv6
      exact family

/--
Every line of the script names addresses of the family of its tool, and a new
switch can be enabled on every working host without nftables and artefacts,
exactly outside the localhost mode.
-/
theorem script_well_typed_iff
    (dnsMode : DnsMode)
    (ipv6Mode : Ipv6Mode)
    (blockDoh : Bool)
    (customDohBlocklist : List String)
    (vpnIps : List IpAddr)
    (lanSubnets : List Cidr4)
    (lanSubnets6 : List Cidr6) :
    let ks := KillSwitch.withConfig dnsMode ipv6Mode blockDoh customDohBlocklist
    ((∀ line ∈ buildCompleteScript ks.settings vpnIps lanSubnets lanSubnets6,
          isWellTyped line = true) ∧
        ∀ env host,
          AllSucceed env false → (∀ number, env.lanSubnets6 number = lanSubnets6) →
          host.log = [] → NoKillSwitch host.firewall → ((enable env).run ⟨ks, host⟩).1 = none) ↔
      dnsMode ≠ .localhost := by
  intro ks
  have typed := buildCompleteScript_isWellTyped_iff ks.settings vpnIps lanSubnets lanSubnets6
  constructor
  · exact fun both => typed.mp both.1
  · intro notLocalhost
    refine ⟨typed.mpr notLocalhost, ?_⟩
    intro env host working detected unused noKillSwitch
    have free : ¬Stuck ⟨ks, host⟩ := not_stuck_of_log (by simp [unused])
    exact (enable_here working noKillSwitch free (.inr notLocalhost) detected rfl rfl rfl rfl).1

/-- In the localhost mode `::1` is handed to `iptables`, which refuses it. -/
theorem localhost_script_refused :
    appendRule [.dst (.v6 (Cidr.host loopback6)), .proto .udp, .dport 53] .accept ∈
        buildCompleteScript (KillSwitch.withConfig .localhost .block true []).settings [] [] [] ∧
      ((enable plainEnv).run ⟨.withConfig .localhost .block true [], freshWorld.host⟩).1 ≠
        none := by
  decide +kernel

end Shroud.KillSwitch
