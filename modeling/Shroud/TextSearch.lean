import Mathlib.Data.List.TakeWhile
import Shroud.Text

namespace Shroud.Text

/-!
# Searching and splitting texts

Facts about substrings and about lines.  A pattern that does not hold a given
character cannot reach across it, so a search through a text that is put
together with separators is a search through its pieces.
-/

variable {α : Type}

theorem contains_iff_infix {pattern text : List Char} :
    contains pattern text = true ↔ pattern <:+: text := by
  induction text with
  | nil => simp [contains]
  | cons c text ih =>
    rw [contains, Bool.or_eq_true, List.isPrefixOf_iff_prefix,
      ih, List.infix_cons_iff]

/-- A pattern without a character stands on one side of it. -/
theorem infix_of_infix_append_cons
    {pattern front back : List α}
    {separator : α}
    (absent : separator ∉ pattern)
    (found : pattern <:+: front ++ separator :: back) :
    pattern <:+: front ∨ pattern <:+: back := by
  obtain ⟨before, after, whole⟩ := found
  rw [List.append_assoc] at whole
  rcases List.append_eq_append_iff.mp whole with
    ⟨middle, frontEq, rest⟩ | ⟨middle, beforeEq, rest⟩
  · -- the pattern starts in the front part
    rcases List.append_eq_append_iff.mp rest with
      ⟨gap, middleEq, -⟩ | ⟨gap, patternEq, backEq⟩
    · refine .inl ⟨before, gap, ?_⟩
      rw [frontEq, middleEq, List.append_assoc]
    · cases gap with
      | nil =>
        rw [List.append_nil] at patternEq
        refine .inl ⟨before, [], ?_⟩
        rw [frontEq, patternEq, List.append_nil]
      | cons first gap =>
        obtain ⟨rfl, -⟩ := List.cons.inj backEq
        refine absurd ?_ absent
        rw [patternEq]
        simp
  · -- the pattern starts at the separator or behind it
    cases middle with
    | nil =>
      rw [List.nil_append] at rest
      cases pattern with
      | nil => exact .inl (List.nil_infix)
      | cons first pattern =>
        obtain ⟨rfl, -⟩ := List.cons.inj rest
        exact absurd List.mem_cons_self absent
    | cons first middle =>
      rw [List.cons_append] at rest
      obtain ⟨-, backEq⟩ := List.cons.inj rest
      refine .inr ⟨middle, after, ?_⟩
      rw [backEq, List.append_assoc]

/-- Pieces put together with a separator hold nothing that none of them holds. -/
theorem infix_of_infix_intercalate
    {pattern : List α}
    {separator : α}
    (absent : separator ∉ pattern)
    (nonempty : pattern ≠ [])
    {pieces : List (List α)}
    (found : pattern <:+: [separator].intercalate pieces) :
    ∃ piece ∈ pieces, pattern <:+: piece := by
  induction pieces with
  | nil => exact absurd (List.eq_nil_of_infix_nil found) nonempty
  | cons first rest ih =>
    cases rest with
    | nil =>
      rw [List.intercalate_singleton] at found
      exact ⟨first, List.mem_cons_self, found⟩
    | cons second rest =>
      rw [List.intercalate_cons_cons, List.append_assoc, List.singleton_append] at found
      rcases infix_of_infix_append_cons absent found with here | later
      · exact ⟨first, List.mem_cons_self, here⟩
      · obtain ⟨piece, member, inside⟩ := ih later
        exact ⟨piece, List.mem_cons_of_mem _ member, inside⟩

variable {text line : List Char} {list : List (List Char)}

theorem strip?_eq_some_iff {pattern rest : List Char} :
    strip? pattern text = some rest ↔ text = pattern ++ rest := by
  induction pattern generalizing text with
  | nil => exact Option.some_inj
  | cons expected pattern ih =>
    cases text with
    | nil => exact iff_of_false (Option.some_ne_none rest).symm (List.cons_ne_nil _ _).symm
    | cons c text =>
      rw [strip?, Option.ite_none_right_eq_some, ih, List.cons_append,
        List.cons.injEq, eq_comm]

theorem infix_of_strip
    {pattern rest : List Char}
    (stripped : strip? pattern text = some rest) :
    pattern <:+: text := by
  rw [strip?_eq_some_iff.mp stripped]
  exact (List.prefix_append pattern rest).isInfix

theorem trim_ne_nil
    {c : Char}
    (member : c ∈ text)
    (visible : isWhitespace c = false) :
    trim text ≠ [] := by
  intro trimmed
  have blank : ∀ other ∈ text.dropWhile isWhitespace, isWhitespace other = true := by
    intro other inRest
    rw [trim, List.reverse_eq_nil_iff, List.dropWhile_eq_nil_iff] at trimmed
    exact trimmed other (List.mem_reverse.mpr inRest)
  cases rest : text.dropWhile isWhitespace with
  | nil =>
    rw [List.dropWhile_eq_nil_iff] at rest
    exact absurd (rest c member) (by simp [visible])
  | cons first others =>
    have stops := List.head?_dropWhile_not isWhitespace text
    rw [rest] at blank stops
    simp [blank first List.mem_cons_self] at stops

theorem trim_of_visible (visible : ∀ c ∈ text, isWhitespace c = false) :
    trim text = text := by
  have stays
      (list : List Char)
      (all : ∀ c ∈ list, isWhitespace c = false) :
      list.dropWhile isWhitespace = list := by
    cases list with
    | nil => rfl
    | cons c list =>
      rw [List.dropWhile_cons, all c List.mem_cons_self]
      rfl
  rw [trim, stays text visible, stays, List.reverse_reverse]
  intro c member
  exact visible c (List.mem_reverse.mp member)

theorem isWhitespace_of_isDigit
    {c : Char}
    (digit : c.isDigit = true) :
    isWhitespace c = false := by
  rw [Char.isDigit, Bool.and_eq_true, decide_eq_true_eq, decide_eq_true_eq] at digit
  have low : 48 ≤ c.toNat := digit.1
  have high : c.toNat ≤ 57 := digit.2
  simp [isWhitespace]
  omega

/-- Lines, each ended by a newline. -/
def unlines (list : List (List Char)) : List Char :=
  list.flatMap (· ++ ['\n'])

theorem unlines_cons
    (first : List Char)
    (rest : List (List Char)) :
    unlines (first :: rest) = first ++ '\n' :: unlines rest := by
  simp [unlines]

theorem infix_unlines (member : line ∈ list) :
    line <:+: unlines list := by
  rw [unlines, List.flatMap_def]
  have ended : line ++ ['\n'] ∈ list.map (· ++ ['\n']) := List.mem_map_of_mem member
  exact (List.prefix_append line ['\n']).isInfix.trans (List.infix_of_mem_flatten ended)

theorem infix_of_infix_unlines
    {pattern : List Char}
    (single : '\n' ∉ pattern)
    (nonempty : pattern ≠ [])
    (found : pattern <:+: unlines list) :
    ∃ line ∈ list, pattern <:+: line := by
  induction list with
  | nil => exact absurd (List.eq_nil_of_infix_nil found) nonempty
  | cons first rest ih =>
    rw [unlines_cons] at found
    rcases infix_of_infix_append_cons single found with here | later
    · exact ⟨first, List.mem_cons_self, here⟩
    · obtain ⟨line, member, inside⟩ := ih later
      exact ⟨line, List.mem_cons_of_mem _ member, inside⟩

theorem splitNewlines_ne_nil (text : List Char) :
    splitNewlines text ≠ [] := by
  unfold splitNewlines
  split
  · simp
  · simp
  · split <;> simp

theorem splitNewlines_append_cons (front text : List Char) :
    splitNewlines (front ++ '\n' :: text) = splitNewlines front ++ splitNewlines text := by
  induction front with
  | nil => rfl
  | cons c front ih =>
    by_cases newline : c = '\n'
    · subst newline
      rw [List.cons_append, splitNewlines, splitNewlines, ih, List.cons_append]
    · rw [List.cons_append, splitNewlines.eq_3 _ _ newline,
        splitNewlines.eq_3 _ _ newline, ih]
      cases pieces : splitNewlines front with
      | nil => exact absurd pieces (splitNewlines_ne_nil front)
      | cons first rest => rfl

theorem splitNewlines_of_notMem (single : '\n' ∉ line) :
    splitNewlines line = [line] := by
  induction line with
  | nil => rfl
  | cons c line ih =>
    have other : c ≠ '\n' := fun same => single (by simp [same])
    rw [splitNewlines.eq_3 _ _ other, ih (fun member => single (by simp [member]))]

theorem splitNewlines_intercalate
    (nonempty : list ≠ [])
    (single : ∀ line ∈ list, '\n' ∉ line) :
    splitNewlines (['\n'].intercalate list) = list := by
  induction list with
  | nil => exact (nonempty rfl).elim
  | cons first rest ih =>
    have firstSingle := single first List.mem_cons_self
    cases rest with
    | nil =>
      rw [List.intercalate_singleton]
      exact splitNewlines_of_notMem firstSingle
    | cons second rest =>
      have later :=
        ih (by simp)
          (fun line member => single line (List.mem_cons_of_mem _ member))
      rw [List.intercalate_cons_cons, List.append_assoc,
        List.singleton_append, splitNewlines_append_cons, later,
        splitNewlines_of_notMem firstSingle, List.singleton_append]

theorem splitNewlines_unlines (list : List (List Char)) :
    splitNewlines (unlines list) = list.flatMap splitNewlines ++ [[]] := by
  induction list with
  | nil => rfl
  | cons first rest ih =>
    rw [unlines_cons, splitNewlines_append_cons, ih,
      List.flatMap_cons, List.append_assoc]

theorem getLast?_ne_of_notMem
    {c : Char}
    (absent : c ∉ line) :
    line.getLast? ≠ some c :=
  fun last => absent (List.mem_of_getLast? last)

/-- The lines of ended lines, which may hold newlines of their own. -/
theorem lines_unlines_eq (list : List (List Char)) :
    lines (unlines list) = (list.flatMap splitNewlines).map dropCarriageReturn := by
  rw [lines, splitNewlines_unlines]
  simp

theorem mem_lines_unlines
    (member : line ∈ list)
    (single : '\n' ∉ line)
    (noReturn : '\r' ∉ line) :
    line ∈ lines (unlines list) := by
  rw [lines_unlines_eq]
  refine List.mem_map.mpr ⟨line, ?_, if_neg (getLast?_ne_of_notMem noReturn)⟩
  refine List.mem_flatMap.mpr ⟨line, member, ?_⟩
  rw [splitNewlines_of_notMem single]
  exact List.mem_singleton_self line

theorem lines_unlines_cons
    (single : '\n' ∉ line)
    (noReturn : line.getLast? ≠ some '\r')
    (list : List (List Char)) :
    lines (unlines (line :: list)) = line :: lines (unlines list) := by
  rw [lines_unlines_eq, lines_unlines_eq, List.flatMap_cons,
    splitNewlines_of_notMem single, List.map_append, List.map_singleton,
    dropCarriageReturn, if_neg noReturn, List.singleton_append]

theorem lines_unlines
    (single : ∀ line ∈ list, '\n' ∉ line ∧ line.getLast? ≠ some '\r') :
    lines (unlines list) = list := by
  induction list with
  | nil => rfl
  | cons line list ih =>
    obtain ⟨noNewline, noReturn⟩ := single line List.mem_cons_self
    rw [lines_unlines_cons noNewline noReturn, ih
      (fun other member => single other (List.mem_cons_of_mem _ member))]

theorem unlines_eq_intercalate
    {list : List (List Char)}
    (nonempty : list ≠ []) :
    unlines list = ['\n'].intercalate list ++ ['\n'] := by
  induction list with
  | nil => exact (nonempty rfl).elim
  | cons first rest ih =>
    cases rest with
    | nil => simp [unlines]
    | cons second rest =>
      rw [unlines_cons, ih (by simp), List.intercalate_cons_cons]
      simp

section Pieces

variable {separator : Char} {front back : List Char}

theorem others_of_notMem (absent : separator ∉ front) :
    ∀ c ∈ front, decide (c ≠ separator) = true := by
  intro c member
  exact decide_eq_true fun same => absent (same ▸ member)

theorem splitOnce?_append
    (absent : separator ∉ front)
    (back : List Char) :
    splitOnce? separator (front ++ separator :: back) = some (front, back) := by
  have others := others_of_notMem absent
  rw [splitOnce?, List.dropWhile_append_of_pos others, List.takeWhile_append_of_pos others]
  simp

theorem rsplitOnce?_append
    (absent : separator ∉ back)
    (front : List Char) :
    rsplitOnce? separator (front ++ separator :: back) = some (front, back) := by
  have others := others_of_notMem (mt List.mem_reverse.mp absent)
  rw [rsplitOnce?, List.reverse_append, List.reverse_cons, List.append_assoc,
    List.singleton_append, List.dropWhile_append_of_pos others,
    List.takeWhile_append_of_pos others]
  simp

end Pieces

end Shroud.Text
