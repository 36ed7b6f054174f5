import Mathlib.Data.List.Basic

namespace Shroud.FirstMatch

/-!
# Ordered rule lists

A packet filter walks an ordered list of rules and stops at the first rule
that decides the packet.  A rule that only observes the packet decides
nothing, so the walk carries on behind it.

The module keeps rules, packets and verdicts abstract.  A rule list is read
through a `ruling`, which gives the verdict of one rule or nothing.
-/

variable {Rule Packet Verdict Item : Type}

/-- The verdict of the first rule that decides the packet. -/
def firstRuling
    (ruling : Rule → Packet → Option Verdict)
    (rules : List Rule)
    (packet : Packet) :
    Option Verdict :=
  rules.findSome? fun rule => ruling rule packet

/-- A verdict given under a guard, and nothing when the guard fails. -/
def guarded (guard : Bool) (verdict : Verdict) : Option Verdict :=
  if guard then some verdict else none

@[simp] theorem guarded_true (verdict : Verdict) :
    guarded true verdict = some verdict :=
  rfl

@[simp] theorem guarded_false (verdict : Verdict) :
    guarded false verdict = none :=
  rfl

/-- A guarded verdict takes precedence over whatever the later rules say. -/
theorem guarded_or
    (guard : Bool)
    (verdict : Verdict)
    (later : Option Verdict) :
    (guarded guard verdict).or later =
      if guard then some verdict else later := by
  cases guard <;> rfl

theorem guarded_or_same
    (first second : Bool)
    (verdict : Verdict)
    (later : Option Verdict) :
    (guarded first verdict).or ((guarded second verdict).or later) =
      (guarded (first || second) verdict).or later := by
  cases first <;> rfl

theorem guarded_eq_some
    {guard : Bool}
    {verdict result : Verdict} :
    guarded guard verdict = some result ↔ guard = true ∧ verdict = result := by
  cases guard <;> simp

@[simp] theorem firstRuling_nil
    (ruling : Rule → Packet → Option Verdict)
    (packet : Packet) :
    firstRuling ruling [] packet = none :=
  rfl

theorem firstRuling_cons
    (ruling : Rule → Packet → Option Verdict)
    (rule : Rule)
    (rest : List Rule)
    (packet : Packet) :
    firstRuling ruling (rule :: rest) packet =
      (ruling rule packet).or (firstRuling ruling rest packet) := by
  simp only [firstRuling, List.findSome?_cons]
  cases ruling rule packet <;> rfl

theorem firstRuling_append
    (ruling : Rule → Packet → Option Verdict)
    (first second : List Rule)
    (packet : Packet) :
    firstRuling ruling (first ++ second) packet =
      (firstRuling ruling first packet).or (firstRuling ruling second packet) := by
  simp only [firstRuling, List.findSome?_append]

/-- Behind a rule that decides the packet the walk does not get. -/
theorem firstRuling_takeWhile
    [DecidableEq Rule]
    {ruling : Rule → Packet → Option Verdict}
    {last : Rule}
    {packet : Packet}
    {verdict : Verdict}
    (decides : ruling last packet = some verdict)
    {rules : List Rule}
    (member : last ∈ rules) :
    firstRuling ruling rules packet =
      (firstRuling ruling (rules.takeWhile (· ≠ last)) packet).or (some verdict) := by
  induction rules with
  | nil => exact absurd member List.not_mem_nil
  | cons rule rest ih =>
    by_cases same : rule = last
    · subst same
      rw [List.takeWhile_cons_of_neg (by simp), firstRuling_cons, decides]
      rfl
    · have later : last ∈ rest := (List.mem_cons.mp member).resolve_left (Ne.symm same)
      rw [List.takeWhile_cons_of_pos (by simp [same]), firstRuling_cons,
        firstRuling_cons, ih later, Option.or_assoc]

/-- Rules that give one verdict or none, one after the other. -/
theorem firstRuling_none_or
    {ruling : Rule → Packet → Option Verdict}
    {rules : List Rule}
    {packet : Packet}
    {verdict : Verdict}
    (each : ∀ rule ∈ rules, ruling rule packet = none ∨ ruling rule packet = some verdict) :
    firstRuling ruling rules packet = none ∨ firstRuling ruling rules packet = some verdict := by
  induction rules with
  | nil => exact .inl rfl
  | cons rule rest ih =>
    obtain ⟨first, others⟩ := List.forall_mem_cons.mp each
    rw [firstRuling_cons]
    rcases first with silent | decides
    · rw [silent]
      exact ih others
    · rw [decides]
      exact .inr rfl

section

variable
  {ruling : Rule → Packet → Option Verdict}
  {rule : Rule}
  {packet : Packet}
  (silent : ruling rule packet = none)
  (rules : List Rule)

include silent

theorem firstRuling_insertIdx (index : Nat) :
    firstRuling ruling (rules.insertIdx index rule) packet = firstRuling ruling rules packet := by
  induction rules generalizing index with
  | nil =>
    cases index with
    | zero => rw [List.insertIdx_zero, firstRuling_cons, silent]; rfl
    | succ index => rfl
  | cons first rest ih =>
    cases index with
    | zero => rw [List.insertIdx_zero, firstRuling_cons, silent]; rfl
    | succ index =>
      rw [List.insertIdx_succ_cons, firstRuling_cons, firstRuling_cons, ih]

theorem firstRuling_erase [DecidableEq Rule] :
    firstRuling ruling (rules.erase rule) packet = firstRuling ruling rules packet := by
  induction rules with
  | nil => rfl
  | cons first rest ih =>
    by_cases same : first = rule
    · subst same
      rw [List.erase_cons_head, firstRuling_cons, silent]
      rfl
    · rw [List.erase_cons_tail (by simp [same]), firstRuling_cons,
        firstRuling_cons, ih]

end

/--
A verdict stands when rules that decided nothing come to give the same
verdict.
-/
theorem firstRuling_of_more
    {ruling more : Rule → Packet → Option Verdict}
    {packet : Packet}
    {verdict : Verdict}
    {rules : List Rule}
    (extended :
      ∀ rule ∈ rules, more rule packet = ruling rule packet ∨ more rule packet = some verdict)
    (decided : firstRuling ruling rules packet = some verdict) :
    firstRuling more rules packet = some verdict := by
  induction rules with
  | nil => exact decided
  | cons rule rest ih =>
    have later :=
      ih (fun other member => extended other (List.mem_cons_of_mem _ member))
    rw [firstRuling_cons]
    rcases extended rule List.mem_cons_self with same | decides
    · rw [firstRuling_cons, ← same] at decided
      cases ruled : more rule packet with
      | some other =>
        rw [ruled] at decided
        exact decided
      | none =>
        rw [ruled] at decided
        exact later decided
    · rw [decides]
      rfl

/--
A list whose rules all give one and the same verdict gives that verdict
exactly when one of its rules decides the packet.
-/
theorem firstRuling_map_guarded
    {ruling : Rule → Packet → Option Verdict}
    {build : Item → Rule}
    {packet : Packet}
    {test : Item → Bool}
    {verdict : Verdict}
    (uniform : ∀ item, ruling (build item) packet = guarded (test item) verdict)
    (items : List Item) :
    firstRuling ruling (items.map build) packet = guarded (items.any test) verdict := by
  induction items with
  | nil => rfl
  | cons item rest ih =>
    rw [List.map_cons, firstRuling_cons, ih, uniform, List.any_cons]
    cases test item <;> simp

end Shroud.FirstMatch
