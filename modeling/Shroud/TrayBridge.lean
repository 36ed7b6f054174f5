import Mathlib.Data.Multiset.Basic
import Shroud.Supervisor

namespace Shroud.TrayBridge

/-!
# The tray bridge

Each call of `update` clones the shared state and leaves the clone to a thread
of its own.  The threads compete for the lock of the tray handle, and whoever
holds it writes its clone to `cached_state`.
-/

section Bridge

variable {Snapshot : Type}

/-- The shared state, the threads that `update` has spawned, and the tray. -/
structure Bridge (Snapshot : Type) where
  shared : Snapshot
  /-- The clones of the threads that wait for the lock. -/
  waiting : Multiset Snapshot
  /-- The clone of the thread that holds the lock. -/
  holder : Option Snapshot
  cachedState : Snapshot

/-- The runs of a bridge, with the snapshots taken by the calls of `update` so far. -/
inductive Run (initial : Snapshot) : List Snapshot → Bridge Snapshot → Prop
  | start (shared : Snapshot) : Run initial [] ⟨shared, 0, none, initial⟩
  /-- The supervisor changes the shared state. -/
  | change {taken shared waiting holder cached} (new : Snapshot) :
    Run initial taken ⟨shared, waiting, holder, cached⟩ →
      Run initial taken ⟨new, waiting, holder, cached⟩
  | update {taken shared waiting holder cached} :
    Run initial taken ⟨shared, waiting, holder, cached⟩ →
      Run initial (taken ++ [shared]) ⟨shared, shared ::ₘ waiting, holder, cached⟩
  /-- A thread finds the lock free. -/
  | lock {taken shared waiting cached} (snapshot : Snapshot) :
    Run initial taken ⟨shared, snapshot ::ₘ waiting, none, cached⟩ →
      Run initial taken ⟨shared, waiting, some snapshot, cached⟩
  /-- The holder of the lock writes to the tray and ends. -/
  | write {taken shared waiting cached snapshot} :
    Run initial taken ⟨shared, waiting, some snapshot, cached⟩ →
      Run initial taken ⟨shared, waiting, none, snapshot⟩

/-- Every thread has ended. -/
def Bridge.Finished (bridge : Bridge Snapshot) : Prop :=
  bridge.waiting = 0 ∧ bridge.holder = none

variable {initial : Snapshot} {taken : List Snapshot} {bridge : Bridge Snapshot}

/-- What the threads carry was taken by a call, and so was what they leave. -/
structure Traced (taken : List Snapshot) (bridge : Bridge Snapshot) : Prop where
  waiting : ∀ snapshot ∈ bridge.waiting, snapshot ∈ taken
  holder : ∀ snapshot ∈ bridge.holder, snapshot ∈ taken
  cached : taken = [] ∨ ¬bridge.Finished ∨ bridge.cachedState ∈ taken

theorem Run.traced (run : Run initial taken bridge) :
    Traced taken bridge := by
  induction run with
  | start shared => exact ⟨by simp, by simp, .inl rfl⟩
  | change new _ ih => exact ⟨ih.waiting, ih.holder, ih.cached⟩
  | update _ ih =>
    refine ⟨?_, fun snapshot held => ?_, .inr (.inl fun done => Multiset.cons_ne_zero done.1)⟩
    · intro snapshot waits
      rcases Multiset.mem_cons.mp waits with rfl | before
      · simp
      · exact List.mem_append_left _ (ih.waiting snapshot before)
    · exact List.mem_append_left _ (ih.holder snapshot held)
  | lock snapshot _ ih =>
    refine ⟨fun other waits => ?_, ?_, .inr (.inl fun done => Option.some_ne_none _ done.2)⟩
    · exact ih.waiting other (Multiset.mem_cons_of_mem waits)
    · rintro _ ⟨⟩
      exact ih.waiting snapshot (Multiset.mem_cons_self _ _)
  | write _ ih =>
    refine ⟨ih.waiting, by simp, .inr (.inr ?_)⟩
    exact ih.holder _ rfl

/-- The threads may be kept waiting until every call is made. -/
theorem run_updates
    (initial : Snapshot)
    (snapshots : List Snapshot) :
    ∃ shared, Run initial snapshots ⟨shared, snapshots, none, initial⟩ := by
  induction snapshots using List.reverseRecOn with
  | nil => exact ⟨initial, .start initial⟩
  | append_singleton before last ih =>
    obtain ⟨shared, run⟩ := ih
    have updated := (run.change last).update
    rw [Multiset.cons_coe, Multiset.coe_eq_coe.mpr (List.perm_append_singleton last before).symm]
      at updated
    exact ⟨last, updated⟩

/-- All the others may end before a given thread gets the lock. -/
theorem Run.ends_with
    {shared cached : Snapshot}
    (snapshot : Snapshot)
    (others : Multiset Snapshot)
    (run : Run initial taken ⟨shared, snapshot ::ₘ others, none, cached⟩) :
    Run initial taken ⟨shared, 0, none, snapshot⟩ := by
  induction others using Multiset.induction_on generalizing cached with
  | empty => exact (run.lock snapshot).write
  | cons other rest ih =>
    rw [Multiset.cons_swap] at run
    exact ih (run.lock other).write

/--
Once all threads have ended, the tray shows the snapshot of the last call, for
every interleaving, exactly when no call has taken another snapshot.
-/
theorem tray_shows_last_iff
    (initial : Snapshot)
    (earlier : List Snapshot)
    (last : Snapshot) :
    (∀ bridge, Run initial (earlier ++ [last]) bridge → bridge.Finished →
        bridge.cachedState = last) ↔
      ∀ snapshot ∈ earlier, snapshot = last := by
  constructor
  · intro shows snapshot member
    obtain ⟨shared, run⟩ := run_updates initial (earlier ++ [last])
    have waits : snapshot ∈ ((earlier ++ [last] : List Snapshot) : Multiset Snapshot) :=
      Multiset.mem_coe.mpr (List.mem_append_left _ member)
    obtain ⟨others, split⟩ := Multiset.exists_cons_of_mem waits
    rw [split] at run
    exact shows _ (run.ends_with snapshot others) ⟨rfl, rfl⟩
  · intro same bridge run finished
    rcases run.traced.cached with none | running | taken
    · exact absurd none (by simp)
    · exact absurd finished running
    · rcases List.mem_append.mp taken with before | final
      · exact same _ before
      · exact List.mem_singleton.mp final

end Bridge

open Supervisor

def sharedIn (state : VpnState) : SharedState :=
  ⟨state, true, false, []⟩

/-- A connection is reported and lost; the older thread gets the lock last. -/
theorem tray_shows_connected :
    ∃ bridge : Bridge SharedState,
      Run (sharedIn .disconnected) [sharedIn (.connected "berlin"), sharedIn .disconnected] bridge ∧
        bridge.Finished ∧ bridge.cachedState = sharedIn (.connected "berlin") := by
  have called :=
    ((@Run.start _ (sharedIn .disconnected) (sharedIn (.connected "berlin"))).update.change
      (sharedIn .disconnected)).update
  exact ⟨_, ((called.lock _).write.lock _).write, ⟨rfl, rfl⟩, rfl⟩

end Shroud.TrayBridge
