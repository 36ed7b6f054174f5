import Mathlib.Data.List.DropRight
import Shroud.HealthChecker

namespace Shroud.HealthChecker

/-!
# What a verdict of the health checker means

The counters of the checker are the lengths of runs at the end of the history
of probes, so a verdict can be read off that history.  The comparison of exit
addresses is one of texts, and an IPv6 address has many of them.
-/

/-- A probe, with the text of `resolv.conf` at the time of its evaluation. -/
structure Probe where
  outcome : ProbeOutcome
  resolvConf : Option String

/-- No endpoint has answered. -/
def Probe.failed (probe : Probe) : Bool :=
  probe.outcome.hit.isNone

/-- The answer took longer than it should. -/
def Probe.slow (config : HealthConfig) (probe : Probe) : Bool :=
  probe.outcome.hit.any fun hit => decide (config.degradedThresholdMs < hit.latencyMs)

def Probe.weak (config : HealthConfig) (probe : Probe) : Bool :=
  probe.failed || probe.slow config

/-- The probes of a kind at the end of a history, up to the first other one. -/
def trailing (kind : Probe → Bool) (probes : List Probe) : Nat :=
  (probes.rtakeWhile kind).length

theorem trailing_concat
    (kind : Probe → Bool)
    (probes : List Probe)
    (last : Probe) :
    trailing kind (probes ++ [last]) = if kind last then trailing kind probes + 1 else 0 := by
  rw [trailing, List.rtakeWhile_concat]
  cases kind last with
  | true => exact List.length_append
  | false => rfl

def afterProbes (checker : HealthChecker) (probes : List Probe) : HealthChecker :=
  probes.foldl (fun checker probe => (checker.evaluate probe.resolvConf probe.outcome).2) checker

/-- Neither the exit address nor the resolvers are checked. -/
structure Plain (config : HealthConfig) : Prop where
  noExitIp : config.expectedExitIp = none
  noDnsCheck : config.dnsLeakCheck = false

/-- The verdict on a probe, from the two counters with it. -/
def plainVerdict (config : HealthConfig) (failures degraded : Nat) (probe : Probe) :
    HealthResult :=
  match probe.outcome.hit with
  | some hit =>
    if probe.slow config && decide (config.degradedThreshold ≤ degraded) then
      .degraded hit.latencyMs
    else .healthy
  | none =>
    if config.failureThreshold ≤ failures then
      .dead (toString failures ++ " consecutive failures across all endpoints")
    else .degraded (config.timeoutSecs * 1000)

section History

variable
  {config : HealthConfig}
  (plain : Plain config)

include plain

theorem evaluate_plain
    (failures degraded : Nat)
    (suspended : Option Nat)
    (probe : Probe) :
    evaluate ⟨config, failures, degraded, suspended⟩ probe.resolvConf probe.outcome =
      (plainVerdict config (failures + 1) (degraded + 1) probe,
        ⟨config, if probe.failed then failures + 1 else 0,
          if probe.weak config then degraded + 1 else 0, suspended⟩) := by
  rw [evaluate, plainVerdict, Probe.weak, Probe.failed, Probe.slow]
  cases probe.outcome.hit with
  | none =>
    by_cases dead : config.failureThreshold ≤ failures + 1
    · simp only [dead, if_true]
      rfl
    · simp only [dead, if_false]
      rfl
  | some hit =>
    simp only [wrongExitIp?, plain.noExitIp, Option.bind_none, leaksDns, plain.noDnsCheck,
      Bool.false_and, Option.isNone_some, Bool.false_or, Option.any_some, decide_eq_true_eq,
      Bool.and_eq_true, Bool.false_eq_true, if_false]
    by_cases slow : config.degradedThresholdMs < hit.latencyMs
    · by_cases many : config.degradedThreshold ≤ degraded + 1
      · simp only [slow, many, if_true, and_self]
      · simp only [slow, many, if_true, if_false, and_false]
    · simp only [slow, if_false, false_and]

/-- The counters are the lengths of the runs at the end. -/
theorem afterProbes_counts (probes : List Probe) :
    (withConfig config).afterProbes probes =
      ⟨config, trailing Probe.failed probes, trailing (Probe.weak config) probes, none⟩ := by
  induction probes using List.reverseRecOn with
  | nil => rfl
  | append_singleton earlier last ih =>
    have extended :
        (withConfig config).afterProbes (earlier ++ [last]) =
          (((withConfig config).afterProbes earlier).evaluate last.resolvConf last.outcome).2 :=
      List.foldl_append
    rw [extended, ih, evaluate_plain plain, trailing_concat, trailing_concat]

/--
The verdict on the last of some probes: dead after enough failures in a row,
degraded after any other failure or enough weak answers in a row, healthy
otherwise.
-/
theorem verdict_of_history
    (threshold : 1 ≤ config.failureThreshold)
    (earlier : List Probe)
    (last : Probe) :
    let verdict :=
      (((withConfig config).afterProbes earlier).evaluate last.resolvConf last.outcome).1
    let dead := config.failureThreshold ≤ trailing Probe.failed (earlier ++ [last])
    let degraded :=
      (last.failed = true ∧ ¬dead) ∨
        (last.slow config = true ∧
          config.degradedThreshold ≤ trailing (Probe.weak config) (earlier ++ [last]))
    ((∃ reason, verdict = .dead reason) ↔ dead) ∧
      ((∃ latencyMs, verdict = .degraded latencyMs) ↔ degraded) ∧
      (verdict = .healthy ↔ ¬dead ∧ ¬degraded) := by
  intro verdict dead degraded
  have isVerdict :
      verdict =
        plainVerdict config (trailing Probe.failed earlier + 1)
          (trailing (Probe.weak config) earlier + 1) last := by
    rw [show verdict = (evaluate _ last.resolvConf last.outcome).1 from rfl,
      afterProbes_counts plain, evaluate_plain plain]
  rw [isVerdict, plainVerdict]
  simp only [dead, degraded, trailing_concat]
  cases answer : last.outcome.hit with
  | none =>
    have failed : last.failed = true := by rw [Probe.failed, answer]; rfl
    have notSlow : last.slow config = false := by rw [Probe.slow, answer]; rfl
    by_cases many : config.failureThreshold ≤ trailing Probe.failed earlier + 1
    · simp [failed, many, notSlow]
    · simp [failed, many, notSlow]
  | some hit =>
    have notFailed : last.failed = false := by rw [Probe.failed, answer]; rfl
    have alive : ¬config.failureThreshold ≤ 0 := Nat.not_le.mpr threshold
    have isWeak : last.weak config = last.slow config := by rw [Probe.weak, notFailed]; rfl
    rw [isWeak]
    cases slow : last.slow config with
    | false => simp [notFailed, alive]
    | true =>
      by_cases many : config.degradedThreshold ≤ trailing (Probe.weak config) earlier + 1
      · simp [notFailed, alive, many]
      · simp [notFailed, alive, many]

end History

/-- Three failures in a row under the default thresholds. -/
theorem three_failures_are_dead :
    let config := HealthConfig.default
    let probe : Probe := ⟨⟨none⟩, none⟩
    ∃ reason,
      (((withConfig config).afterProbes [probe, probe]).evaluate probe.resolvConf
        probe.outcome).1 = .dead reason :=
  (verdict_of_history ⟨rfl, rfl⟩ (by decide) [⟨⟨none⟩, none⟩, ⟨⟨none⟩, none⟩]
    ⟨⟨none⟩, none⟩).1.mpr (by decide)

/--
Exit addresses are compared as texts.  For an answer that shows an address this
reports a leak exactly if the addresses differ, if and only if the expected
address is one of IPv4, which has a single spelling, or the answer does not
spell the expected address in another way.
-/
theorem exit_ip_compared_iff
    (checker : HealthChecker)
    (resolvConf : Option String)
    {expected : String}
    (configured : checker.config.expectedExitIp = some expected)
    {expectedAddr : IpAddr}
    (valid : AddressText.parseIp? expected = some expectedAddr)
    (hit : EndpointHit)
    {actual : String}
    (extracted : extractIpFromResponse hit.body hit.endpoint = some actual)
    {actualAddr : IpAddr}
    (parsed : AddressText.parseIp? actual = some actualAddr) :
    ((checker.evaluate resolvConf ⟨some hit⟩).1 = .dead (leakReason expected actual) ↔
        actualAddr ≠ expectedAddr) ↔
      (∃ addr, expectedAddr = .v4 addr) ∨ ¬(actualAddr = expectedAddr ∧ actual ≠ expected) := by
  have wrong :
      wrongExitIp? checker.config hit =
        if actual = expected then none else some (expected, actual) := by
    rw [wrongExitIp?, configured, Option.bind_some, extracted, Option.bind_some]
  have reported :
      (checker.evaluate resolvConf ⟨some hit⟩).1 = .dead (leakReason expected actual) ↔
        actual ≠ expected := by
    rw [evaluate]
    simp only [wrong]
    by_cases same : actual = expected
    · simp only [same, if_true, ne_eq, not_true, iff_false]
      split_ifs <;> simp
    · simp only [same, if_false, ne_eq, not_false_eq_true]
  have sameAddr : actual = expected → actualAddr = expectedAddr := by
    intro same
    rw [same] at parsed
    exact Option.some.inj (parsed.symm.trans valid)
  rw [reported]
  constructor
  · intro correct
    right
    rintro ⟨isSame, differs⟩
    exact correct.mp differs isSame
  · intro spelled
    refine ⟨?_, fun differ same => differ (sameAddr same)⟩
    intro differs isSame
    rcases spelled with ⟨addr, rfl⟩ | notRespelled
    · rw [isSame] at parsed
      exact differs (AddressText.parseIp?_v4_unique parsed valid)
    · exact notRespelled ⟨isSame, differs⟩

/-- A checker for an address, with everything else as by default. -/
def expecting (expected : String) : HealthChecker :=
  withConfig { HealthConfig.default with expectedExitIp := some expected }

/-- An answer that spells the expected address in lower case is a leak. -/
theorem lower_case_is_a_leak :
    ((expecting "2001:DB8::1").evaluate none ⟨some ⟨"https://ifconfig.me", 20, "2001:db8::1"⟩⟩).1 =
        .dead (leakReason "2001:DB8::1" "2001:db8::1") ∧
      AddressText.parseIp? "2001:DB8::1" = AddressText.parseIp? "2001:db8::1" := by
  decide +kernel

/-- Another address of IPv4 is a leak. -/
theorem other_ipv4_is_a_leak :
    ((expecting "10.0.0.1").evaluate none ⟨some ⟨"https://ifconfig.me", 20, "10.0.0.2"⟩⟩).1 =
      .dead (leakReason "10.0.0.1" "10.0.0.2") :=
  ((@exit_ip_compared_iff (expecting "10.0.0.1") none "10.0.0.1" rfl (.v4 0x0a000001)
    (by decide +kernel) ⟨"https://ifconfig.me", 20, "10.0.0.2"⟩ "10.0.0.2" (by decide +kernel)
    (.v4 0x0a000002) (by decide +kernel)).mpr (.inl ⟨_, rfl⟩)).mpr (by decide +kernel)

end Shroud.HealthChecker
