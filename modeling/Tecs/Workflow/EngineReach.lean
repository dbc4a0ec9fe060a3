import Tecs.Workflow.EngineOwnership
import Tecs.Workflow.PoolAlone

set_option autoImplicit false

namespace Tecs

open Effect Program TransactionContext ActionPool

namespace EngineOwnership

/-! Alone with a database that serves every call. -/

variable {env : Process} {engine : Int} {db : Database} {w : WorkflowRow} {a : Action}

/-- Restarting an unfinished action comes to the wake-up, with the engine as it is stored. -/
theorem engines_restartAction (hosted : Hosted env engine db w) (inside : a ∈ db.actionPool)
    (owned : a.workflowId = w.workflowId) (unfinished : a.finished = false)
    (tagged : isActionId a.actionId = true) (ctx : TransactionContext Statement) :
    engines (alone 0) (restartAction env a.actionId) (db, ctx) =
      if engine < 0 ∨ engine > env.numberOfEngines then [] else [engine] := by
  obtain ⟨next, ctx', executed, row, b, among, named, owns⟩ :=
    update_served Database.restart_checked hosted.row inside ctx a.actionId
  have restarted : (ActionPool.restartAction a.actionId).exec (S := pool) (alone 0) (db, ctx) =
      (Status.success, next, ctx') := by
    unfold ActionPool.restartAction
    rw [exec_bind, exec_isActionFinished inside, unfinished]
    exact executed
  unfold restartAction
  rw [tagged, if_neg (by decide), engines_bind (unaddressed_of_inner
    (ActionPool.inner_restartAction _)), restarted]
  dsimp only
  rw [if_neg (by decide), ← named,
    engines_bind (unaddressed_of_inner (reads_getEngineOfAction _).inner),
    exec_getEngineOfAction among row (owns.trans owned), hosted.engine]
  dsimp only
  rw [if_neg (Int.not_lt.mpr hosted.stored), engines_bind (unaddressed_of_inner
    (reads_getWorkflowIdOfAction _).inner),
    exec_getWorkflowIdOfAction among]
  dsimp only
  rw [owns, owned, if_neg (by simpa using hosted.nonempty), engines_wakeupEngine]

/-- Finishing an action that is not the last one comes to the wake-up as well. -/
theorem engines_finishAction (hosted : Hosted env engine db w) (inside : a ∈ db.actionPool)
    (owned : a.workflowId = w.workflowId) (more : 1 < (db.unfinished w.workflowId).length)
    (tagged : isActionId a.actionId = true) (ctx : TransactionContext Statement) :
    engines (alone 0) (finishAction env a.actionId) (db, ctx) =
      if engine < 0 ∨ engine > env.numberOfEngines then [] else [engine] := by
  obtain ⟨next, ctx', executed, row, b, among, named, owns⟩ :=
    update_served Database.finish_checked hosted.row inside ctx a.actionId
  have counted : (getUnfinishedActionsCount w.workflowId).exec (S := pool) (alone 0) (db, ctx) =
      (((db.unfinished w.workflowId).length : Int), db, ctx) := rfl
  have stored := hosted.stored
  unfold finishAction
  rw [tagged, if_neg (by decide), engines_bind (unaddressed_of_inner
    (reads_getWorkflowIdOfAction _).inner), exec_getWorkflowIdOfAction inside, owned]
  dsimp only
  rw [if_neg (by simpa using hosted.nonempty), engines_bind (unaddressed_of_inner
    (reads_getUnfinishedActionsCount _).inner), counted]
  dsimp only
  rw [if_neg (by omega), if_neg (by omega), ActionPool.finishAction, engines_bind
    (unaddressed_of_inner (inner_update _ rfl)), executed]
  dsimp only
  rw [if_neg (by decide), if_neg (by omega), ← named, engines_bind (unaddressed_of_inner
    (reads_getEngineOfAction _).inner), exec_getEngineOfAction among row (owns.trans owned),
    hosted.engine]
  dsimp only
  rw [if_neg (by omega), if_neg (by omega), engines_wakeupEngine]

theorem exec_getWorkflow {id : String} (hosted : Hosted env engine db w) (named : Names db w id)
    (ctx : TransactionContext Statement) :
    (getWorkflow id).exec (S := pool) (alone 0) (db, ctx) = (.ok w.workflowId, db, ctx) := by
  unfold getWorkflow
  rcases named with rfl | ⟨tagged, a, inside, rfl, owned⟩
  · rw [hosted.untagged]
    rfl
  · rw [tagged, if_pos rfl, exec_bind, exec_getWorkflowIdOfAction inside, owned]
    dsimp only
    rw [if_neg (by simpa using hosted.nonempty)]
    rfl

theorem exec_getWorkflowAndEngine {id : String} (hosted : Hosted env engine db w)
    (named : Names db w id) (ctx : TransactionContext Statement) :
    (getWorkflowAndEngine env id).exec (S := pool) (alone 0) (db, ctx) =
      (.ok (w.workflowId, owner env engine), db, ctx) := by
  have stored := hosted.stored
  unfold getWorkflowAndEngine owner
  rw [exec_bind, exec_getWorkflow hosted named]
  dsimp only
  rw [exec_bind, exec_getEngineOfWorkflow hosted.row, hosted.engine]
  dsimp only
  rw [if_neg (Int.not_lt.mpr stored)]
  split
  · rw [Int.min_eq_right (by omega)]
    rfl
  · rw [Int.min_eq_left (by omega)]
    rfl

/-- With the address known, the rest of a request is what goes to an engine. -/
theorem engines_addressed {id : String} (hosted : Hosted env engine db w) (named : Names db w id)
    (rest : Except Status (String × Int) → Pool Status) (ctx : TransactionContext Statement) :
    engines (alone 0) (getWorkflowAndEngine env id >>= rest) (db, ctx) =
      engines (alone 0) (rest (.ok (w.workflowId, owner env engine))) (db, ctx) := by
  rw [engines_bind (unaddressed_of_inner (reads_getWorkflowAndEngine env id).inner),
    exec_getWorkflowAndEngine hosted named]

theorem engines_resumeWorkflow {id : String} (hosted : Hosted env engine db w)
    (named : Names db w id) (ctx : TransactionContext Statement) :
    engines (alone 0) (resumeWorkflow env id) (db, ctx) = [owner env engine] :=
  engines_addressed hosted named _ ctx

theorem engines_deleteWorkflow {id : String} (hosted : Hosted env engine db w)
    (named : Names db w id) (ctx : TransactionContext Statement) :
    engines (alone 0) (deleteWorkflow env id) (db, ctx) = [owner env engine] :=
  engines_addressed hosted named _ ctx

theorem engines_rollbackWorkflow {id : String} (hosted : Hosted env engine db w)
    (named : Names db w id) (ctx : TransactionContext Statement)
    (supported : w.rollbackWorkflowId ≠ "") :
    engines (alone 0) (rollbackWorkflow env id) (db, ctx) = [owner env engine] := by
  have unlocked : (Pool.isLockWorkflow w.workflowId).exec (S := pool) (alone 0) (db, ctx) =
      (false, db, ctx) := rfl
  unfold rollbackWorkflow
  rw [engines_addressed hosted named]
  dsimp only
  rw [engines_bind (unaddressed_isLockWorkflow _), unlocked]
  dsimp only
  rw [if_neg (by decide), engines_bind (unaddressed_of_inner (reads_getRollbackWorkflow _).inner),
    exec_getRollbackWorkflow hosted.row]
  dsimp only
  rw [if_neg (by simpa using supported), engines_request]

end EngineOwnership

end Tecs
