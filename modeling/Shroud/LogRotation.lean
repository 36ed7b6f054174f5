import Mathlib.Logic.Function.Basic

namespace Shroud.Logging

/-!
# Log rotation

Before a record would fill the debug log, the writer shifts its files by one.
After any sequence of records they hold the last pieces of what was logged,
whole and in order.
-/

abbrev Bytes := List UInt8

/-- The contents of `debug.log`, at 0, and of `debug.log.1`, `debug.log.2`, … -/
abbrev Files := Nat → Option Bytes

def maxLogSize : Nat := 10 * 1024 * 1024

def maxLogFiles : Nat := 3

/-- `fs::rename`, which fails for a missing file. -/
def rename (files : Files) (source target : Nat) : Files :=
  match files source with
  | some content => Function.update (Function.update files source none) target (some content)
  | none => files

/-- Opening `debug.log` to append creates it if it is missing. -/
def openLog (files : Files) : Files :=
  Function.update files 0 (some ((files 0).getD []))

/-- `RotatingWriter`; the file that it has open is `debug.log`. -/
structure RotatingWriter where
  files : Files
  bytesWritten : Nat

namespace RotatingWriter

def new (files : Files) : RotatingWriter :=
  ⟨openLog files, ((files 0).getD []).length⟩

def rotate (writer : RotatingWriter) : RotatingWriter :=
  let shifted :=
    (List.range' 1 (maxLogFiles - 1)).reverse.foldl
      (fun files i => rename files i (i + 1)) writer.files
  ⟨openLog (rename shifted 0 1), 0⟩

/-- The sum of two lengths always fits into the `u64`. -/
def writeInner (writer : RotatingWriter) (buf : Bytes) : RotatingWriter :=
  let writer := if maxLogSize ≤ writer.bytesWritten + buf.length then writer.rotate else writer
  ⟨Function.update writer.files 0 ((writer.files 0).map (· ++ buf)),
    writer.bytesWritten + buf.length⟩

def content (writer : RotatingWriter) (i : Nat) : Bytes :=
  (writer.files i).getD []

end RotatingWriter

/-- A rotation of the files puts a new one before the others. -/
def shifted {α : Type} (first : α) (rest : Nat → α) : Nat → α
  | 0 => first
  | i + 1 => rest i

/-- What the files hold, from the oldest to the current one. -/
def inOrder {α : Type} (held : Nat → List α) : List α :=
  (List.range (maxLogFiles + 1)).reverse.flatMap held

/-- The pieces that are left of all that were logged, file by file. -/
structure Holds
    (logged : List Bytes)
    (held : Nat → List Bytes)
    (writer : RotatingWriter) : Prop where
  suffix : inOrder held <:+ logged
  contents : ∀ i ≤ maxLogFiles, writer.content i = (held i).flatten
  bounded : ∀ i, maxLogSize ≤ (held i).flatten.length → ∃ piece, held i = [piece]
  isOpen : (writer.files 0).isSome = true
  gapless : ∀ i < maxLogFiles, writer.files i = none → writer.files (i + 1) = none
  counted : writer.bytesWritten = (held 0).flatten.length

variable
  {logged : List Bytes}
  {held : Nat → List Bytes}
  {writer : RotatingWriter}

theorem inOrder_eq
    {α : Type}
    (held : Nat → List α) :
    inOrder held = held 3 ++ (held 2 ++ (held 1 ++ held 0)) := by
  simp [inOrder, maxLogFiles, List.range_succ]

/-- As there is no gap, every file moves by one. -/
theorem Holds.rotate_files (holds : Holds logged held writer) :
    ∀ i ≤ maxLogFiles, writer.rotate.files i = shifted (some []) writer.files i := by
  obtain ⟨current, isCurrent⟩ := Option.isSome_iff_exists.mp holds.isOpen
  have first := holds.gapless 1 (by decide)
  have second := holds.gapless 2 (by decide)
  cases isSecond : writer.files 2 <;> cases isFirst : writer.files 1 <;>
    simp_all [RotatingWriter.rotate, rename, openLog, maxLogFiles, List.range'_succ, shifted,
      Nat.le_succ_iff, or_imp]

/-- A rotation loses at most the oldest file. -/
theorem Holds.rotate (holds : Holds logged held writer) :
    Holds logged (shifted [] held) writer.rotate := by
  have moved := holds.rotate_files
  refine ⟨?_, ?_, ?_, rfl, ?_, rfl⟩
  · obtain ⟨dropped, rfl⟩ := holds.suffix
    exact ⟨dropped ++ held 3, by simp [inOrder_eq, shifted]⟩
  · intro i below
    rw [RotatingWriter.content, moved i below]
    cases i with
    | zero => rfl
    | succ i => exact holds.contents i (Nat.le_of_lt below)
  · intro i
    cases i with
    | zero => simp [shifted, maxLogSize]
    | succ i => exact holds.bounded i
  · intro i below
    rw [moved i (Nat.le_of_lt below), moved (i + 1) below]
    cases i with
    | zero => simp [shifted]
    | succ i => exact holds.gapless i (Nat.lt_of_succ_lt below)

/-- The current file takes a record that leaves it small, or its first. -/
theorem Holds.append
    (holds : Holds logged held writer)
    {buf : Bytes}
    (fits : writer.bytesWritten + buf.length < maxLogSize ∨ held 0 = []) :
    Holds (logged ++ [buf]) (Function.update held 0 (held 0 ++ [buf]))
      ⟨Function.update writer.files 0 ((writer.files 0).map (· ++ buf)),
        writer.bytesWritten + buf.length⟩ := by
  obtain ⟨current, isCurrent⟩ := Option.isSome_iff_exists.mp holds.isOpen
  have contents := holds.contents 0 (Nat.zero_le _)
  simp only [RotatingWriter.content, isCurrent, Option.getD_some] at contents
  refine ⟨?_, ?_, ?_, by simp [isCurrent], ?_, by simp [holds.counted]⟩
  · obtain ⟨dropped, rfl⟩ := holds.suffix
    exact ⟨dropped, by simp [inOrder_eq]⟩
  · intro i below
    cases i with
    | zero => simp [RotatingWriter.content, isCurrent, contents]
    | succ i => simpa [RotatingWriter.content] using holds.contents (i + 1) below
  · intro i
    cases i with
    | zero =>
      rcases fits with small | fresh
      · simp [holds.counted] at small ⊢
        omega
      · simp [fresh]
    | succ i => simpa using holds.bounded (i + 1)
  · intro i below
    cases i with
    | zero => simp [isCurrent]
    | succ i => simpa using holds.gapless (i + 1) below

theorem Holds.writeInner
    (holds : Holds logged held writer)
    (buf : Bytes) :
    ∃ next, Holds (logged ++ [buf]) next (writer.writeInner buf) := by
  unfold RotatingWriter.writeInner
  split
  · exact ⟨_, holds.rotate.append (.inr rfl)⟩
  · exact ⟨_, holds.append (.inl (Nat.lt_of_not_le ‹_›))⟩

theorem Holds.foldl
    (holds : Holds logged held writer)
    (records : List Bytes) :
    ∃ next, Holds (logged ++ records) next (records.foldl .writeInner writer) := by
  induction records generalizing logged held writer with
  | nil => exact ⟨held, by rwa [List.append_nil]⟩
  | cons buf records ih =>
    obtain ⟨next, written⟩ := holds.writeInner buf
    rw [List.append_cons]
    exact ih written

theorem holds_new
    {files : Files}
    (unrotated : ∀ i, files (i + 1) = none) :
    Holds [(files 0).getD []] (shifted [(files 0).getD []] fun _ => [])
      (RotatingWriter.new files) := by
  refine ⟨⟨[], by simp [inOrder_eq, shifted]⟩, ?_, ?_, rfl, ?_, ?_⟩
  · intro i _
    cases i <;> simp [RotatingWriter.content, RotatingWriter.new, openLog, shifted, unrotated]
  · intro i
    cases i <;> simp [shifted, maxLogSize]
  · intro i _ _
    simp [RotatingWriter.new, openLog, unrotated]
  · simp [RotatingWriter.new, shifted]

/--
The files hold the end of what was logged, cut between two records. No record is
split, and a file that is not small is a single record.
-/
theorem rotation_keeps_suffix
    (files : Files)
    (unrotated : ∀ i, files (i + 1) = none)
    (small : ((files 0).getD []).length < maxLogSize)
    (records : List Bytes) :
    let writer := records.foldl .writeInner (RotatingWriter.new files)
    ∃ held : Nat → List Bytes,
      inOrder held <:+ (files 0).getD [] :: records ∧
        inOrder writer.content = (inOrder held).flatten ∧
        ∀ i ≤ maxLogFiles,
          writer.content i = (held i).flatten ∧
            (maxLogSize ≤ (writer.content i).length → ∃ record ∈ records, held i = [record]) := by
  obtain ⟨held, holds⟩ := (holds_new unrotated).foldl records
  refine ⟨held, holds.suffix, ?_, ?_⟩
  · have contents := holds.contents
    rw [inOrder_eq, inOrder_eq, contents 3 (by decide), contents 2 (by decide),
      contents 1 (by decide), contents 0 (by decide)]
    simp
  intro i below
  rw [holds.contents i below]
  refine ⟨rfl, fun large => ?_⟩
  obtain ⟨record, alone⟩ := holds.bounded i large
  have isLogged : record ∈ (files 0).getD [] :: records :=
    holds.suffix.subset
      (List.mem_flatMap.mpr ⟨i, by simpa [Nat.lt_succ_iff] using below, by simp [alone]⟩)
  rcases List.mem_cons.mp isLogged with rfl | member
  · simp [alone] at large
    omega
  · exact ⟨record, member, alone⟩

/-- A log with two bytes in it. -/
def shortLog : Files :=
  shifted (some [1, 2]) fun _ => none

/-- A record as large as the limit and a short one after it are each put in a new file. -/
theorem rotation_keeps_suffix_rotated :
    let records := [List.replicate maxLogSize 7, [8]]
    let writer := records.foldl .writeInner (RotatingWriter.new shortLog)
    (writer.content 2 = [1, 2] ∧
        writer.content 1 = List.replicate maxLogSize 7 ∧
        writer.content 0 = [8]) ∧
      ∃ held : Nat → List Bytes,
        inOrder held <:+ [[1, 2], List.replicate maxLogSize 7, [8]] ∧
          inOrder writer.content = (inOrder held).flatten ∧
          ∃ record ∈ records, held 1 = [record] := by
  intro records writer
  have contents :
      writer.content 2 = [1, 2] ∧
        writer.content 1 = List.replicate maxLogSize 7 ∧
        writer.content 0 = [8] := by
    simp [writer, records, RotatingWriter.writeInner, RotatingWriter.new, RotatingWriter.rotate,
      RotatingWriter.content, rename, openLog, shortLog, shifted, maxLogFiles, List.range'_succ]
  obtain ⟨held, isSuffix, isContent, files⟩ :=
    rotation_keeps_suffix shortLog (fun _ => rfl) (by decide) records
  refine ⟨contents, held, isSuffix, isContent, (files 1 (by decide)).2 ?_⟩
  change maxLogSize ≤ (writer.content 1).length
  rw [contents.2.1]
  exact Nat.le_of_eq List.length_replicate.symm

end Shroud.Logging
