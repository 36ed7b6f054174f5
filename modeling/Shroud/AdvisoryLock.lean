import Mathlib.Logic.Function.Basic
import Mathlib.Order.Basic

namespace Shroud.AdvisoryLock

/-!
# A file name with advisory locks

A name stands for an inode as long as it is not unlinked.  An exclusive lock
belongs to the inode that was opened: whoever opened it before the name was
unlinked keeps it, and whoever opens the name afterwards gets another inode.
-/


abbrev Inode := Nat

/-- The inodes behind one name; their numbers are not used twice. -/
structure Files (Owner : Type) where
  named : Option Inode
  content : Inode → List Char
  holder : Inode → Option Owner
  fresh : Inode

namespace Files

variable {Owner : Type} (files : Files Owner)

/-- Open the name, or create it with an inode that was never locked. -/
def openOrCreate : Inode × Files Owner :=
  match files.named with
  | some inode => (inode, files)
  | none =>
    (files.fresh,
      { files with
        named := some files.fresh
        content := Function.update files.content files.fresh []
        fresh := files.fresh + 1 })

def write (inode : Inode) (text : List Char) : Files Owner :=
  { files with content := Function.update files.content inode text }

/-- Take the name away; the inode stays for those who have opened it. -/
def unlink : Files Owner :=
  { files with named := none }

def lock? (owner : Owner) (inode : Inode) : Option (Files Owner) :=
  if files.holder inode = none then
    some
      { files with
        holder := Function.update files.holder inode (some owner) }
  else
    none

/-- Closing its descriptors gives up the locks of a process. -/
def release [DecidableEq Owner] (owner : Owner) : Files Owner :=
  { files with
    holder := fun inode =>
      if files.holder inode = some owner then none
      else files.holder inode }

end Files

/-- A name that exists or not, with nobody at it. -/
def Files.start (Owner : Type) (text : Option (List Char)) : Files Owner where
  named := text.map fun _ => 0
  content := fun _ => text.getD []
  holder := fun _ => none
  fresh := 1

section Lemmas

variable {Owner : Type} {files : Files Owner}

@[simp] theorem openOrCreate_named :
    files.openOrCreate.2.named = some files.openOrCreate.1 := by
  rw [Files.openOrCreate]
  cases named : files.named with
  | none => rfl
  | some inode => exact named

@[simp] theorem openOrCreate_holder :
    files.openOrCreate.2.holder = files.holder := by
  rw [Files.openOrCreate]
  cases files.named <;> rfl

theorem openOrCreate_of_named
    {inode : Inode}
    (named : files.named = some inode) :
    files.openOrCreate = (inode, files) := by
  rw [Files.openOrCreate, named]

theorem openOrCreate_content
    (fact : List Char → Prop)
    (empty : fact [])
    (all : ∀ inode, fact (files.content inode))
    (inode : Inode) :
    fact (files.openOrCreate.2.content inode) := by
  rw [Files.openOrCreate]
  cases files.named with
  | some named => exact all inode
  | none =>
    by_cases same : inode = files.fresh
    · subst same
      change fact (Function.update files.content files.fresh [] _)
      rw [Function.update_self]
      exact empty
    · change fact (Function.update files.content files.fresh [] _)
      rw [Function.update_of_ne same]
      exact all inode

theorem write_content
    (fact : List Char → Prop)
    {text : List Char}
    (written : fact text)
    (all : ∀ inode, fact (files.content inode))
    (target inode : Inode) :
    fact ((files.write target text).content inode) := by
  change fact (Function.update files.content target text inode)
  by_cases same : inode = target
  · rw [same, Function.update_self]
    exact written
  · rw [Function.update_of_ne same]
    exact all inode

theorem lock?_eq_some
    {owner : Owner}
    {inode : Inode}
    {after : Files Owner} :
    files.lock? owner inode = some after ↔
      files.holder inode = none ∧
        after =
          { files with
            holder := Function.update files.holder inode (some owner) } := by
  rw [Files.lock?, Option.ite_none_right_eq_some, Option.some.injEq]
  exact and_congr_right fun _ => eq_comm

theorem lock?_eq_none
    {owner : Owner}
    {inode : Inode} :
    files.lock? owner inode = none ↔ ∃ other, files.holder inode = some other := by
  rw [← Option.ne_none_iff_exists', Files.lock?]
  simp

theorem release_holder
    [DecidableEq Owner]
    {owner other : Owner}
    {inode : Inode} :
    (files.release owner).holder inode = some other ↔
      files.holder inode = some other ∧ other ≠ owner := by
  rw [Files.release]
  by_cases own : files.holder inode = some owner
  · simp only [own, ↓reduceIte, reduceCtorEq, Option.some.injEq, false_iff, not_and, not_not]
    exact Eq.symm
  · simp only [own, ↓reduceIte]
    constructor
    · intro held
      refine ⟨held, fun same => own ?_⟩
      rw [held, same]
    · exact And.left

end Lemmas

end Shroud.AdvisoryLock
