import Mathlib

set_option autoImplicit false

namespace Tecs

variable {Tid : Type}

/-- `work_flow_locks`: the threads that have locked each workflow. -/
structure WorkflowLocks (Tid : Type) where
  tids : Std.TreeMap String (List Tid)
  kept : ∀ (id : String) (found : List Tid), tids[id]? = some found → found ≠ [] ∧ found.Nodup

namespace WorkflowLocks

def empty : WorkflowLocks Tid where
  tids := ∅
  kept := by simp

/-- The thread has locked the workflow. -/
def Holds (locks : WorkflowLocks Tid) (tid : Tid) (workflowId : String) : Prop :=
  ∃ found, locks.tids[workflowId]? = some found ∧ tid ∈ found

def isLocked (locks : WorkflowLocks Tid) (workflowId : String) : Bool :=
  locks.tids[workflowId]?.isSome

/-- The entry of one workflow, dropped when no thread is left in it. -/
def set (locks : WorkflowLocks Tid) (workflowId : String) (found : List Tid)
    (distinct : found.Nodup) : WorkflowLocks Tid where
  tids := if found.isEmpty then locks.tids.erase workflowId else locks.tids.insert workflowId found
  kept := by
    intro id stored read
    split at read
    · rw [Std.TreeMap.getElem?_erase] at read
      split at read
      · cases read
      · exact locks.kept id stored read
    · rename_i filled
      rw [Std.TreeMap.getElem?_insert] at read
      split at read
      · obtain rfl := Option.some.inj read
        exact ⟨fun empty => filled (List.isEmpty_iff.mpr empty), distinct⟩
      · exact locks.kept id stored read

theorem set_tids (locks : WorkflowLocks Tid) {workflowId : String} {found : List Tid}
    {distinct : found.Nodup} (id : String) :
    (locks.set workflowId found distinct).tids[id]? =
      if id = workflowId then if found.isEmpty then none else some found
      else locks.tids[id]? := by
  unfold set
  by_cases empty : found.isEmpty = true
  · by_cases same : workflowId = id
    · simp [empty, same]
    · simp [empty, same, Ne.symm same, Std.TreeMap.getElem?_erase]
  · by_cases same : workflowId = id
    · simp [empty, same]
    · simp [empty, same, Ne.symm same, Std.TreeMap.getElem?_insert]

theorem set_holds (locks : WorkflowLocks Tid) {workflowId : String} {found : List Tid}
    {distinct : found.Nodup} (tid : Tid) (id : String) :
    (locks.set workflowId found distinct).Holds tid id ↔
      if id = workflowId then tid ∈ found else locks.Holds tid id := by
  unfold Holds
  rw [set_tids]
  by_cases same : id = workflowId
  · by_cases empty : found = []
    · simp [same, empty]
    · simp [same, empty]
  · simp [same]

theorem isLocked_iff (locks : WorkflowLocks Tid) (workflowId : String) :
    locks.isLocked workflowId = true ↔ ∃ tid, locks.Holds tid workflowId := by
  unfold isLocked Holds
  rw [Option.isSome_iff_exists]
  constructor
  · rintro ⟨found, read⟩
    obtain ⟨tid, inside⟩ := List.exists_mem_of_ne_nil _ (locks.kept _ _ read).1
    exact ⟨tid, found, read, inside⟩
  · rintro ⟨tid, found, read, -⟩
    exact ⟨found, read⟩

theorem holds_of_read {locks : WorkflowLocks Tid} {tid : Tid} {workflowId : String}
    {found : List Tid} (read : locks.tids[workflowId]? = some found) :
    locks.Holds tid workflowId ↔ tid ∈ found := by
  simp [Holds, read]

variable [DecidableEq Tid]

/-- The map operations of `LockWorkflow`. -/
def lock (locks : WorkflowLocks Tid) (tid : Tid) (workflowId : String) : WorkflowLocks Tid :=
  match read : locks.tids[workflowId]? with
  | none => locks.set workflowId [tid] (by simp)
  | some found =>
      if present : tid ∈ found then locks
      else
        locks.set workflowId (found ++ [tid]) (by
          have distinct := (locks.kept _ _ read).2
          rw [List.nodup_append]
          refine ⟨distinct, by simp, fun other inside _ last same => ?_⟩
          rw [same, List.mem_singleton.mp last] at inside
          exact present inside)

/-- The map operations of `UnlockWorkflow`. -/
def unlock (locks : WorkflowLocks Tid) (tid : Tid) (workflowId : String) : WorkflowLocks Tid :=
  match read : locks.tids[workflowId]? with
  | none => locks
  | some found =>
      if tid ∈ found then
        locks.set workflowId (found.erase tid) ((locks.kept _ _ read).2.erase tid)
      else locks

theorem lock_holds (locks : WorkflowLocks Tid) (tid other : Tid) (workflowId id : String) :
    (locks.lock tid workflowId).Holds other id ↔
      locks.Holds other id ∨ other = tid ∧ id = workflowId := by
  unfold lock
  split
  · rename_i read
    rw [set_holds]
    by_cases same : id = workflowId
    · simp [same, Holds, read]
    · simp [same]
  · rename_i found read
    split
    · rename_i present
      refine ⟨.inl, ?_⟩
      rintro (holds | ⟨rfl, rfl⟩)
      · exact holds
      · exact (holds_of_read read).mpr present
    · rw [set_holds]
      by_cases same : id = workflowId
      · simp [same, holds_of_read read]
      · simp [same]

theorem unlock_holds (locks : WorkflowLocks Tid) (tid other : Tid) (workflowId id : String) :
    (locks.unlock tid workflowId).Holds other id ↔
      locks.Holds other id ∧ ¬(other = tid ∧ id = workflowId) := by
  unfold unlock
  split
  · rename_i read
    refine ⟨fun holds => ⟨holds, ?_⟩, And.left⟩
    rintro ⟨rfl, rfl⟩
    obtain ⟨found, stored, -⟩ := holds
    rw [read] at stored
    cases stored
  · rename_i found read
    split
    · rw [set_holds]
      by_cases same : id = workflowId
      · subst same
        simp [(locks.kept _ _ read).2.mem_erase_iff, holds_of_read read, and_comm]
      · simp [same]
    · rename_i absent
      refine ⟨fun holds => ⟨holds, ?_⟩, And.left⟩
      rintro ⟨rfl, rfl⟩
      exact absent ((holds_of_read read).mp holds)

end WorkflowLocks

end Tecs
