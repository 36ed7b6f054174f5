import Shroud.FirewallEffects

namespace Shroud

open Netfilter StateProgram

/-!
# The firewall between commands

The log tells which commands took effect, so the firewall after each command
of a run can be read off the log and the firewall at the start.
-/

/-- What an entry of the log did to the firewall. -/
def LogEntry.replay (entry : LogEntry) (firewall : Firewall) : Firewall :=
  if entry.effect = .applied then
    (entry.command.exec firewall).getD firewall
  else
    firewall

/-- The firewall after some entries of the log. -/
def replay (entries : List LogEntry) (firewall : Firewall) : Firewall :=
  entries.foldl (fun current entry => entry.replay current) firewall

theorem replay_append
    (first second : List LogEntry)
    (firewall : Firewall) :
    replay (first ++ second) firewall = replay second (replay first firewall) :=
  List.foldl_append

/-- The entry of a command tells what became of the firewall. -/
theorem Host.after_replays
    (env : FwEnv)
    (host : Host)
    (command : FwCommand) :
    (host.after env command).firewall =
      LogEntry.replay ⟨command, host.effectOf env command⟩ host.firewall := by
  rw [LogEntry.replay]
  by_cases applied : host.effectOf env command = .applied
  · rw [if_pos applied, Host.exec_of_applied applied]
    rfl
  · rw [if_neg applied]
    exact Host.firewall_of_not_applied applied

namespace KillSwitch

/--
The log explains the firewall, and a fact that held at the start held after
every command.
-/
def Throughout
    (holds : Firewall → Prop)
    (before after : KsWorld) : Prop :=
  ∃ entries,
    after.host.log = before.host.log ++ entries ∧
    firewallOf after = replay entries (firewallOf before) ∧
    (holds (firewallOf before) → ∀ count, holds (replay (entries.take count) (firewallOf before)))

instance (holds : Firewall → Prop) :
    IsPreorder KsWorld (Throughout holds) where
  refl world := by
    refine ⟨[], (List.append_nil _).symm, rfl, ?_⟩
    intro start count
    rw [List.take_nil]
    exact start
  trans first second third := by
    rintro ⟨early, earlyLog, earlyEnd, earlyHolds⟩ ⟨late, lateLog, lateEnd, lateHolds⟩
    refine ⟨early ++ late, ?_, ?_, ?_⟩
    · rw [lateLog, earlyLog, List.append_assoc]
    · rw [lateEnd, earlyEnd, replay_append]
    · intro start count
      have between := earlyHolds start early.length
      rw [List.take_length, ← earlyEnd] at between
      rw [List.take_append, replay_append]
      by_cases inEarly : count ≤ early.length
      · rw [Nat.sub_eq_zero_of_le inEarly, List.take_zero]
        exact earlyHolds start count
      · rw [List.take_of_length_le (Nat.le_of_not_le inEarly), ← earlyEnd]
        exact lateHolds between _

variable {before after : KsWorld}

variable {holds : Firewall → Prop}

theorem Throughout.of_same
    (log : after.host.log = before.host.log)
    (firewall : firewallOf after = firewallOf before) :
    Throughout holds before after := by
  refine ⟨[], ?_, firewall, ?_⟩
  · rw [log, List.append_nil]
  · intro start count
    rw [List.take_nil]
    exact start

theorem Throughout.logged (throughout : Throughout holds before after) :
    Throughout (fun _ => True) before after := by
  obtain ⟨entries, log, ended, -⟩ := throughout
  exact ⟨entries, log, ended, fun _ _ => trivial⟩

theorem Throughout.ends
    (throughout : Throughout holds before after)
    (start : holds (firewallOf before)) :
    holds (firewallOf after) := by
  obtain ⟨entries, -, ended, kept⟩ := throughout
  have last := kept start entries.length
  rw [List.take_length, ← ended] at last
  exact last

/-- A stronger fact that held at the start gives a weaker one throughout. -/
theorem Throughout.weaken
    {holds weaker : Firewall → Prop}
    (throughout : Throughout holds before after)
    (start : holds (firewallOf before))
    (implies : ∀ firewall, holds firewall → weaker firewall) :
    Throughout weaker before after := by
  obtain ⟨entries, log, ended, kept⟩ := throughout
  exact ⟨entries, log, ended, fun _ count => implies _ (kept start count)⟩

/-- After every command of the run, the fact holds. -/
def AtEveryStep
    (holds : Firewall → Prop)
    (before after : KsWorld) : Prop :=
  ∀ entries,
    after.host.log = before.host.log ++ entries →
    ∀ count, holds (replay (entries.take count) (firewallOf before))

theorem Throughout.atEveryStep
    (throughout : Throughout holds before after)
    (start : holds (firewallOf before)) :
    AtEveryStep holds before after := by
  obtain ⟨entries, log, -, kept⟩ := throughout
  intro others otherLog
  have same : others = entries := List.append_cancel_left (otherLog.symm.trans log)
  rw [same]
  exact kept start

theorem AtEveryStep.mono
    {holds weaker : Firewall → Prop}
    (everywhere : AtEveryStep holds before after)
    (implies : ∀ firewall, holds firewall → weaker firewall) :
    AtEveryStep weaker before after := by
  intro entries log count
  exact implies _ (everywhere entries log count)

theorem AtEveryStep.holds_at
    {middle : KsWorld}
    (everywhere : AtEveryStep holds before after)
    (first : Throughout (fun _ => True) before middle)
    (second : Throughout (fun _ => True) middle after) :
    holds (firewallOf middle) := by
  obtain ⟨early, earlyLog, earlyEnd, -⟩ := first
  obtain ⟨late, lateLog, -, -⟩ := second
  have log : after.host.log = before.host.log ++ (early ++ late) := by
    rw [lateLog, earlyLog, List.append_assoc]
  have reached := everywhere _ log early.length
  rw [List.take_left, ← earlyEnd] at reached
  exact reached

theorem AtEveryStep.append
    {middle : KsWorld}
    (first : Throughout (fun _ => True) before middle)
    (second : Throughout (fun _ => True) middle after)
    (early : AtEveryStep holds before middle)
    (late : AtEveryStep holds middle after) :
    AtEveryStep holds before after := by
  obtain ⟨earlyEntries, earlyLog, earlyEnd, -⟩ := first
  obtain ⟨lateEntries, lateLog, -, -⟩ := second
  intro entries log count
  have both : entries = earlyEntries ++ lateEntries := by
    rw [lateLog, earlyLog, List.append_assoc] at log
    exact (List.append_cancel_left log).symm
  rw [both, List.take_append, replay_append]
  by_cases inEarly : count ≤ earlyEntries.length
  · rw [Nat.sub_eq_zero_of_le inEarly, List.take_zero]
    exact early _ earlyLog count
  · rw [List.take_of_length_le (Nat.le_of_not_le inEarly), ← earlyEnd]
    exact late _ lateLog _

section

variable {env : FwEnv} {command : FwCommand}

theorem runCommand_throughout_at
    {holds : Firewall → Prop}
    {world : KsWorld}
    (keeps : holds (firewallOf world) → holds (firewallOf ((runCommand env command).run world).2)) :
    Throughout holds world ((runCommand env command).run world).2 := by
  have log :
      ((runCommand env command).run world).2.host.log =
        world.host.log ++ [⟨command, world.host.effectOf env command⟩] :=
    rfl
  have replayed :
      firewallOf ((runCommand env command).run world).2 =
        replay [⟨command, world.host.effectOf env command⟩] (firewallOf world) :=
    Host.after_replays env world.host command
  refine ⟨_, log, replayed, ?_⟩
  intro start count
  cases count with
  | zero => exact start
  | succ count =>
    rw [List.take_succ_cons, List.take_nil, ← replayed]
    exact keeps start

theorem runCommand_throughout
    {holds : Firewall → Prop}
    (keeps : ∀ before after, holds before → command.exec before = some after → holds after) :
    Keeps (Throughout holds) (runCommand env command) := by
  intro world
  refine runCommand_throughout_at ?_
  intro start
  rcases runCommand_firewall env command world with
    ⟨executed, -, -⟩ | ⟨unchanged, -, -⟩
  · exact keeps _ _ start executed
  · rw [unchanged]
    exact start

theorem observed_throughout
    (observes : command.observes = true)
    (holds : Firewall → Prop) :
    Keeps (Throughout holds) (runCommand env command) := by
  apply runCommand_throughout
  intro before after start executed
  rw [FwCommand.exec_of_observes observes executed]
  exact start

end

end KillSwitch

end Shroud
