import Mathlib.Data.List.Perm.Subperm

namespace Shroud.BoundedErase

/-!
# Erasing up to a limit

A removal that is repeated until it fails, but no more than a fixed number of
times, erases the first occurrences of an item.  The multiplicities after it
are the old ones less the limit; what stays keeps its order.
-/

variable {α : Type} [DecidableEq α]

def eraseUpTo (item : α) : Nat → List α → List α
  | 0, list => list
  | limit + 1, list => eraseUpTo item limit (list.erase item)

theorem count_eraseUpTo
    (item other : α)
    (limit : Nat)
    (list : List α) :
    (eraseUpTo item limit list).count other =
      if other = item then list.count other - limit
      else list.count other := by
  induction limit generalizing list with
  | zero => simp [eraseUpTo]
  | succ limit ih =>
    rw [eraseUpTo, ih]
    by_cases same : other = item
    · subst same
      rw [if_pos rfl, if_pos rfl, List.count_erase_self]
      omega
    · rw [if_neg same, if_neg same, List.count_erase_of_ne same]

theorem eraseUpTo_sublist
    (item : α)
    (limit : Nat)
    (list : List α) :
    (eraseUpTo item limit list).Sublist list := by
  induction limit generalizing list with
  | zero => exact List.Sublist.refl list
  | succ limit ih => exact (ih _).trans List.erase_sublist

theorem eraseUpTo_of_notMem
    {item : α}
    {list : List α}
    (absent : item ∉ list)
    (limit : Nat) :
    eraseUpTo item limit list = list := by
  induction limit with
  | zero => rfl
  | succ limit ih => rw [eraseUpTo, List.erase_of_not_mem absent, ih]

/-- Erase several items one after another, each up to the limit. -/
def eraseEach (limit : Nat) (items list : List α) : List α :=
  items.foldl (fun rest item => eraseUpTo item limit rest) list

theorem count_eraseEach
    (limit : Nat)
    {items : List α}
    (distinct : items.Nodup)
    (other : α)
    (list : List α) :
    (eraseEach limit items list).count other =
      if other ∈ items then list.count other - limit
      else list.count other := by
  induction items generalizing list with
  | nil => simp [eraseEach]
  | cons item rest ih =>
    obtain ⟨fresh, restDistinct⟩ := List.nodup_cons.mp distinct
    have later := ih restDistinct (eraseUpTo item limit list)
    have first := count_eraseUpTo item other limit list
    rw [eraseEach, List.foldl_cons]
    refine later.trans ?_
    by_cases same : other = item
    · subst same
      rw [if_neg fresh, if_pos List.mem_cons_self, first, if_pos rfl]
    · rw [first, if_neg same]
      simp [same]

theorem eraseEach_sublist
    (limit : Nat)
    (items list : List α) :
    (eraseEach limit items list).Sublist list := by
  induction items generalizing list with
  | nil => exact List.Sublist.refl list
  | cons item rest ih => exact (ih _).trans (eraseUpTo_sublist item limit list)

section

variable {limit : Nat} {items : List α}

/-- Items that are not too frequent are gone, and nothing else is. -/
theorem eraseEach_eq_filter
    (distinct : items.Nodup)
    {list : List α}
    (few : ∀ item ∈ items, list.count item ≤ limit) :
    eraseEach limit items list = list.filter (fun item => item ∉ items) := by
  have counts := fun other => count_eraseEach limit distinct other list
  have kept :
      (eraseEach limit items list).filter (fun item => item ∉ items) =
        eraseEach limit items list := by
    refine List.filter_eq_self.mpr ?_
    intro item member
    refine decide_eq_true ?_
    intro listed
    have present := List.count_pos_iff.mpr member
    have bound := few item listed
    rw [counts, if_pos listed] at present
    omega
  have shorter : (eraseEach limit items list).Sublist (list.filter (fun item => item ∉ items)) := by
    rw [← kept]
    exact (eraseEach_sublist limit items list).filter _
  -- The sublist has all the copies, so it is the whole list.
  refine shorter.eq_of_length_le ?_
  have subperm : (list.filter (fun item => item ∉ items)).Subperm (eraseEach limit items list) := by
    refine List.subperm_ext_iff.mpr ?_
    intro item member
    obtain ⟨-, unlisted⟩ := List.mem_filter.mp member
    rw [counts, if_neg (of_decide_eq_true unlisted)]
    exact List.filter_sublist.count_le item
  exact subperm.length_le

theorem eraseEach_eq_self_iff
    (positive : 0 < limit)
    (distinct : items.Nodup)
    (list : List α) :
    eraseEach limit items list = list ↔ ∀ item ∈ items, item ∉ list := by
  constructor
  · intro same item listed member
    have count := count_eraseEach limit distinct item list
    have present := List.count_pos_iff.mpr member
    rw [same, if_pos listed] at count
    omega
  · intro absent
    have few : ∀ item ∈ items, list.count item ≤ limit := by
      intro item listed
      rw [List.count_eq_zero.mpr (absent item listed)]
      exact Nat.zero_le limit
    rw [eraseEach_eq_filter distinct few]
    refine List.filter_eq_self.mpr ?_
    intro item member
    exact decide_eq_true fun listed => absent item listed member

/--
Erasing, putting something in front and erasing again gives the list back
exactly when the list has none of the items and the front has nothing else.
-/
theorem eraseEach_front_eq_iff
    (positive : 0 < limit)
    (distinct : items.Nodup)
    {front : List α}
    (fewInFront : ∀ item, front.count item ≤ limit)
    (list : List α) :
    eraseEach limit items (front ++ eraseEach limit items list) = list ↔
      (∀ item ∈ items, item ∉ list) ∧ ∀ item ∈ front, item ∈ items := by
  constructor
  · intro same
    have counts :
        ∀ item,
          (if item ∈ items then
            front.count item + (list.count item - limit) - limit
          else front.count item + list.count item) = list.count item := by
      intro item
      have count := count_eraseEach limit distinct item (front ++ eraseEach limit items list)
      rw [same, List.count_append, count_eraseEach limit distinct item list] at count
      by_cases listed : item ∈ items
      · rw [if_pos listed, if_pos listed] at count
        rw [if_pos listed]
        exact count.symm
      · rw [if_neg listed, if_neg listed] at count
        rw [if_neg listed]
        exact count.symm
    constructor
    · intro item listed member
      have count := counts item
      have present := List.count_pos_iff.mpr member
      have bound := fewInFront item
      rw [if_pos listed] at count
      omega
    · intro item member
      by_contra unlisted
      have count := counts item
      have present := List.count_pos_iff.mpr member
      rw [if_neg unlisted] at count
      omega
  · rintro ⟨absent, listed⟩
    rw [(eraseEach_eq_self_iff positive distinct list).mpr absent]
    have few : ∀ item ∈ items, (front ++ list).count item ≤ limit := by
      intro item isItem
      rw [List.count_append, List.count_eq_zero.mpr (absent item isItem)]
      exact fewInFront item
    rw [eraseEach_eq_filter distinct few, List.filter_append]
    have frontGone : front.filter (fun item => item ∉ items) = [] := by
      refine List.filter_eq_nil_iff.mpr ?_
      intro item member
      simp [listed item member]
    have listKept : list.filter (fun item => item ∉ items) = list := by
      refine List.filter_eq_self.mpr ?_
      intro item member
      exact decide_eq_true fun isItem => absent item isItem member
    rw [frontGone, listKept, List.nil_append]

end

end Shroud.BoundedErase
