import Mathlib.Computability.Language
import Mathlib.Order.CompletePartialOrder
import Shroud.StateProgram

namespace Shroud.StateProgram

open Computability

/-!
# The language of a trace

A program whose state has a trace adds a word to it.  Which words these are is
a language, and the languages of programs follow the programs: one after the
other is a product, a choice is a sum, a loop a power or a star.
-/

variable {σ ε : Type} (trace : σ → List ε)

/-- What a stretch adds to the trace is a word of the language. -/
def Adds (language : Language ε) (before after : σ) : Prop :=
  ∃ word ∈ language, trace after = trace before ++ word

/-- The words of a single entry. -/
def entries (allowed : ε → Prop) : Language ε :=
  { word | ∃ entry, allowed entry ∧ word = [entry] }

section Rules

variable {trace} {first second : Language ε} {before middle after : σ}

theorem Adds.mono
    (adds : Adds trace first before after)
    (within : first ≤ second) :
    Adds trace second before after := by
  obtain ⟨word, member, grows⟩ := adds
  exact ⟨word, within member, grows⟩

theorem Adds.trans
    (earlier : Adds trace first before middle)
    (later : Adds trace second middle after) :
    Adds trace (first * second) before after := by
  obtain ⟨word, member, grows⟩ := earlier
  obtain ⟨rest, restMember, growsLater⟩ := later
  refine ⟨word ++ rest, Language.append_mem_mul member restMember, ?_⟩
  rw [growsLater, grows, List.append_assoc]

theorem Adds.after_same
    (same : trace middle = trace before)
    (adds : Adds trace first middle after) :
    Adds trace first before after := by
  obtain ⟨word, member, grows⟩ := adds
  exact ⟨word, member, same ▸ grows⟩

theorem adds_one (same : trace after = trace before) :
    Adds trace 1 before after :=
  ⟨[], Language.nil_mem_one, same.trans (List.append_nil _).symm⟩

theorem adds_entry
    {allowed : ε → Prop}
    {entry : ε}
    (isAllowed : allowed entry)
    (grows : trace after = trace before ++ [entry]) :
    Adds trace (entries allowed) before after :=
  ⟨[entry], ⟨entry, isAllowed, rfl⟩, grows⟩

end Rules

/-- A star makes a preorder, so whole programs keep it if their steps do. -/
instance (language : Language ε) : IsPreorder σ (Adds trace language∗) where
  refl _ := (adds_one rfl).mono one_le_kstar
  trans _ _ _ earlier later := (earlier.trans later).mono (kstar_mul_kstar language).le

theorem entries_mono
    {allowed wider : ε → Prop}
    (within : ∀ entry, allowed entry → wider entry) :
    entries allowed ≤ entries wider := by
  rintro word ⟨entry, isAllowed, rfl⟩
  exact ⟨entry, within entry isAllowed, rfl⟩

theorem mem_entries_kstar
    {allowed : ε → Prop}
    {word : List ε} :
    word ∈ (entries allowed)∗ ↔ ∀ entry ∈ word, allowed entry := by
  constructor
  · intro member entry inWord
    obtain ⟨words, rfl, eachEntry⟩ := Language.mem_kstar.mp member
    obtain ⟨part, inWords, inPart⟩ := List.mem_flatten.mp inWord
    obtain ⟨only, isAllowed, rfl⟩ := eachEntry part inWords
    rw [List.mem_singleton.mp inPart]
    exact isAllowed
  · intro allAllowed
    refine Language.mem_kstar.mpr ⟨word.map fun entry => [entry], ?_, ?_⟩
    · rw [← List.flatMap_def, List.flatMap_singleton']
    · intro part inParts
      obtain ⟨entry, inWord, rfl⟩ := List.mem_map.mp inParts
      exact ⟨entry, allAllowed entry inWord, rfl⟩

section

variable {β : Type} {allowed : β → ε → Prop} {factors : List β} {word : List ε}

/-- A word of a product of entries has one entry for each factor. -/
theorem exists_of_mem_prod
    (member : word ∈ (factors.map fun factor => entries (allowed factor)).prod)
    {factor : β}
    (inFactors : factor ∈ factors) :
    ∃ entry ∈ word, allowed factor entry := by
  induction factors generalizing word with
  | nil => exact absurd inFactors List.not_mem_nil
  | cons head tail ih =>
    rw [List.map_cons, List.prod_cons] at member
    obtain ⟨front, ⟨entry, isAllowed, rfl⟩, rest, inRest, rfl⟩ := Language.mem_mul.mp member
    rcases List.mem_cons.mp inFactors with rfl | inTail
    · exact ⟨entry, List.mem_cons_self, isAllowed⟩
    · obtain ⟨later, laterMember, laterAllowed⟩ := ih inRest inTail
      exact ⟨later, List.mem_append_right _ laterMember, laterAllowed⟩

theorem exists_factor_of_mem_prod
    (member : word ∈ (factors.map fun factor => entries (allowed factor)).prod)
    {entry : ε}
    (inWord : entry ∈ word) :
    ∃ factor ∈ factors, allowed factor entry := by
  induction factors generalizing word with
  | nil =>
    rw [(Language.mem_one word).mp member] at inWord
    exact absurd inWord List.not_mem_nil
  | cons head tail ih =>
    rw [List.map_cons, List.prod_cons] at member
    obtain ⟨front, ⟨only, isAllowed, rfl⟩, rest, inRest, rfl⟩ := Language.mem_mul.mp member
    rcases List.mem_cons.mp inWord with rfl | inTail
    · exact ⟨head, List.mem_cons_self, isAllowed⟩
    · obtain ⟨factor, inFactors, laterAllowed⟩ := ih inRest inTail
      exact ⟨factor, List.mem_cons_of_mem _ inFactors, laterAllowed⟩

end

/-- A power repeats what every word of its base has at most once. -/
theorem countP_le_of_mem_pow
    {language : Language ε}
    {counts : ε → Bool}
    (once : ∀ word ∈ language, word.countP counts ≤ 1)
    {times : Nat}
    {word : List ε}
    (member : word ∈ language ^ times) :
    word.countP counts ≤ times := by
  induction times generalizing word with
  | zero =>
    rw [pow_zero] at member
    rw [(Language.mem_one word).mp member]
    exact Nat.le_refl 0
  | succ times ih =>
    rw [pow_succ] at member
    obtain ⟨front, inFront, last, inLast, rfl⟩ := Language.mem_mul.mp member
    rw [List.countP_append]
    exact Nat.add_le_add (ih inFront) (once last inLast)

end Shroud.StateProgram
