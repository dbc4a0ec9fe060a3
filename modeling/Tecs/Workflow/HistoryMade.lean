import Tecs.Workflow.EngineRollback

set_option autoImplicit false

namespace Tecs

open Effect Program TransactionContext ActionPool EngineRollback

/-! The history of a workflow as a function of the tables. -/

/-- The history of a workflow that is failed or cancelled. -/
def Database.unfinishedHistory (db : Database) (workflowId : String) (history : WorkflowHistory) :
    WorkflowHistory :=
  match db.failedAction workflowId with
  | none => cancelledHistory { history with progress := db.workflowProgress workflowId }
  | some found => failedHistory { history with progress := db.workflowProgress workflowId } found

namespace HistoryMade

theorem unfinishedHistory_progress (db : Database) (workflowId : String)
    (history : WorkflowHistory) :
    (db.unfinishedHistory workflowId history).progress = db.workflowProgress workflowId := by
  unfold Database.unfinishedHistory
  split <;> rfl

theorem unfinishedHistory_workflowId (db : Database) (workflowId : String)
    (history : WorkflowHistory) :
    (db.unfinishedHistory workflowId history).workflowId = history.workflowId := by
  unfold Database.unfinishedHistory
  split <;> rfl

section Made

variable (serves : PoolCall → Bool) (db : Database) (workflowId : String)

/-- What `MakeWorkflowHistory` returns where no action waits in the transaction. -/
def made (history : WorkflowHistory) : Except Status WorkflowHistory :=
  if serves (.select (.unfinishedCount workflowId)) then
    if (db.unfinished workflowId).isEmpty then .ok (finishedHistory history)
    else if serves (.select (.workflowProgress workflowId)) &&
        serves (.select (.failedAction workflowId)) then
      .ok (db.unfinishedHistory workflowId history)
    else .error Status.errorDbSelectFail
  else .error Status.errorDbSelectFail

variable {db workflowId}

theorem made_ok {history result : WorkflowHistory}
    (equal : made serves db workflowId history = .ok result) :
    result.workflowId = history.workflowId ∧ 0 ≤ result.progress ∧ result.progress ≤ 100 := by
  unfold made at equal
  split at equal
  · split at equal
    · obtain rfl := Except.ok.inj equal
      exact ⟨rfl, show (0 : Int) ≤ 100 ∧ (100 : Int) ≤ 100 by decide⟩
    · split at equal
      · obtain rfl := Except.ok.inj equal
        rw [unfinishedHistory_progress, unfinishedHistory_workflowId]
        exact ⟨rfl, db.workflowProgress_bounds workflowId⟩
      · cases equal
  · cases equal

/-- It succeeds exactly when the reads it needs are served. -/
theorem made_ok_iff (history : WorkflowHistory) :
    (∃ result, made serves db workflowId history = .ok result) ↔
      HistoryRead serves db workflowId := by
  unfold made HistoryRead
  by_cases count : serves (.select (.unfinishedCount workflowId)) = true
  · by_cases none : db.unfinished workflowId = []
    · simp [count, none]
    · by_cases progress : serves (.select (.workflowProgress workflowId)) = true
      · by_cases failed : serves (.select (.failedAction workflowId)) = true
        · simp [count, none, progress, failed]
        · simp [count, none, progress, failed]
      · simp [count, none, progress]
  · simp [count]

variable (db workflowId) (ctx : TransactionContext Statement)

theorem exec_getUnfinishedActionsCount :
    (getUnfinishedActionsCount workflowId).exec (S := pool) (partly serves) (db, ctx) =
      (if serves (.select (.unfinishedCount workflowId)) then
        ((db.unfinished workflowId).length : Int) else -1, db, ctx) := by
  unfold getUnfinishedActionsCount
  rw [EngineRollback.exec_select_bind]
  cases serves (.select (.unfinishedCount workflowId)) <;> rfl

theorem exec_getWorkflowProgress (actions : db.actionsOf workflowId ≠ []) :
    (ActionPool.getWorkflowProgress workflowId).exec (S := pool) (partly serves) (db, ctx) =
      (if serves (.select (.workflowProgress workflowId)) then db.workflowProgress workflowId
        else -1, db, ctx) := by
  unfold ActionPool.getWorkflowProgress
  rw [EngineRollback.exec_select_bind]
  simp only [Database.select, List.isEmpty_iff, actions, if_false]
  cases serves (.select (.workflowProgress workflowId)) <;> rfl

/-- With an action left, the history is one of a failed or cancelled workflow. -/
theorem exec_makeUnfinishedHistory (history : WorkflowHistory)
    (some : db.unfinished workflowId ≠ []) :
    (makeUnfinishedHistory workflowId history).exec (S := pool) (partly serves) (db, ctx) =
      (if serves (.select (.workflowProgress workflowId)) &&
          serves (.select (.failedAction workflowId)) then
        .ok (db.unfinishedHistory workflowId history) else .error Status.errorDbSelectFail,
        db, ctx) := by
  have actions : db.actionsOf workflowId ≠ [] := by
    intro empty
    exact some (by simp [Database.unfinished, empty])
  have low := (db.workflowProgress_bounds workflowId).1
  unfold makeUnfinishedHistory
  rw [exec_bind, exec_getWorkflowProgress serves db workflowId ctx actions]
  dsimp only
  by_cases progress : serves (.select (.workflowProgress workflowId)) = true
  · rw [if_pos progress, if_neg (Int.not_lt.mpr low), EngineRollback.exec_select_bind, progress,
      Bool.true_and]
    by_cases failed : serves (.select (.failedAction workflowId)) = true
    · rw [if_pos failed, if_pos failed]
      unfold Database.unfinishedHistory
      simp only [Database.select]
      cases db.failedAction workflowId <;> rfl
    · rw [if_neg failed, if_neg failed]
      rfl
  · rw [if_neg progress, if_pos (by decide), Bool.eq_false_of_not_eq_true progress,
      Bool.false_and]
    rfl

/-- Outside a transaction, or in one in which no action is finished. -/
theorem exec_makeWorkflowHistory (history : WorkflowHistory)
    (plain : ctx.isOn = false ∨ ctx.keyvalue.toList = []) :
    (makeWorkflowHistory workflowId history).exec (S := pool) (partly serves) (db, ctx) =
      (made serves db workflowId history, db, ctx) := by
  unfold makeWorkflowHistory made
  rw [exec_bind, exec_getUnfinishedActionsCount serves db workflowId ctx]
  dsimp only
  by_cases count : serves (.select (.unfinishedCount workflowId)) = true
  · rw [if_pos count, if_pos count, if_neg (by omega)]
    by_cases none : db.unfinished workflowId = []
    · rw [if_pos (by simp [none]), if_pos (by simp [none])]
      rfl
    · have left := exec_makeUnfinishedHistory serves db workflowId ctx history none
      have on : Pool.isOn.exec (S := pool) (partly serves) (db, ctx) = (ctx.isOn, db, ctx) := rfl
      rw [if_neg (by simpa using none), if_neg (by simpa using none), exec_bind, on]
      dsimp only
      rcases plain with off | cleared
      · rw [off, if_neg (by decide)]
        exact left
      · have kv : Pool.keyValue.exec (S := pool) (partly serves) (db, ctx) = ([], db, ctx) := by
          show (ctx.keyvalue.toList, db, ctx) = _
          rw [cleared]
        split
        · unfold makeTransactionHistory
          rw [exec_bind, kv]
          exact left
        · exact left
  · rw [if_neg count, if_neg count, if_pos (by decide)]
    rfl

end Made

/-! The statements that archive a workflow. -/

def archiving (history : WorkflowHistory) (workflowIds : List String) : List Statement :=
  [.insertHistory history, .insertLabelsHistory history.workflowId, .deleteWorkflow workflowIds]

theorem executeTransaction_archiving {db : Database} {history : WorkflowHistory}
    (workflowIds : List String)
    (fresh : history.workflowId ∉ db.workflowHistory.map WorkflowHistory.workflowId)
    (bounds : 0 ≤ history.progress ∧ history.progress ≤ 100) :
    ∃ later, db.executeTransaction (archiving history workflowIds) = some later ∧
      later.workflowHistory = db.workflowHistory ++ [history] ∧
      later.workflow = db.workflow.filter fun w => decide (w.workflowId ∉ workflowIds) := by
  have saved : ∃ next, db.insertHistory history = some next ∧
      next.workflowHistory = db.workflowHistory ++ [history] ∧ next.workflow = db.workflow := by
    unfold Database.insertHistory
    rw [dif_pos ⟨fresh, bounds⟩]
    exact ⟨_, rfl, rfl, rfl⟩
  obtain ⟨next, inserted, histories, workflows⟩ := saved
  refine ⟨next.deleteWorkflow workflowIds, ?_, histories, ?_⟩
  · simp only [archiving, Database.executeTransaction, Database.execute, inserted,
      Option.bind_some]
  · rw [← workflows]
    rfl

theorem executeTransaction_archived {db : Database} {history : WorkflowHistory}
    (workflowIds : List String)
    (stale : history.workflowId ∈ db.workflowHistory.map WorkflowHistory.workflowId)
    (rest : List Statement) :
    db.executeTransaction (archiving history workflowIds ++ rest) = none := by
  have refused : db.insertHistory history = none := by
    unfold Database.insertHistory
    rw [dif_neg fun check => check.1 stale]
  show (db.insertHistory history).bind _ = none
  rw [refused, Option.bind_none]

section Archive

variable (serves : PoolCall → Bool) (db : Database) (ctx : TransactionContext Statement)
variable (history : WorkflowHistory) (workflowIds : List String)

/-- The statements are issued inside the transaction; what remains is the commit. -/
theorem exec_archiveWorkflow :
    (archiveWorkflow history workflowIds).exec (S := pool) (partly serves) (db, ctx) =
      Pool.commit.exec (S := pool) (partly serves)
        (db, { ctx.begin with sql := ctx.begin.sql ++ archiving history workflowIds }) := by
  have opened : 0 < ctx.begin.beginCount := Nat.succ_pos _
  have saved : (saveWorkflowHistory history).exec (S := pool) (partly serves) (db, ctx.begin) =
      (Status.success, db, (ctx.begin.append (.insertHistory history)).append
        (.insertLabelsHistory history.workflowId)) := by
    unfold saveWorkflowHistory
    rw [exec_sql_bind_on _ _ _ _ _ opened, if_pos rfl,
      exec_sql_bind_on _ _ (ctx.begin.append _) _ _ opened]
    rfl
  unfold archiveWorkflow
  rw [exec_begin_bind, exec_bind, saved]
  dsimp only
  rw [if_pos rfl, exec_sql_bind_on _ _ ((ctx.begin.append _).append _) _ _ opened, if_pos rfl]
  simp [append, archiving]

variable {ctx}

theorem exec_archiveWorkflow_on (on : 0 < ctx.beginCount) :
    (archiveWorkflow history workflowIds).exec (S := pool) (partly serves) (db, ctx) =
      (Status.success, db, { ctx with sql := ctx.sql ++ archiving history workflowIds }) := by
  have nested : 1 < ctx.begin.beginCount := Nat.succ_lt_succ on
  rw [exec_archiveWorkflow, exec_commit_nested serves db
    { ctx.begin with sql := ctx.begin.sql ++ archiving history workflowIds } nested]
  simp [begin_nested on]

theorem exec_archiveWorkflow_off (off : ctx.beginCount = 0) :
    (archiveWorkflow history workflowIds).exec (S := pool) (partly serves) (db, ctx) =
      (if (transacted serves db (archiving history workflowIds)).1 then Status.success
        else Status.error, (transacted serves db (archiving history workflowIds)).2,
        ⟨0, archiving history workflowIds, ctx.keyvalue⟩) := by
  rw [exec_archiveWorkflow]
  have opened : ctx.begin = ⟨1, [], ctx.keyvalue⟩ := by
    simp [begin, off]
  rw [opened]
  exact EngineRollback.exec_commit_outermost serves db (.deleteWorkflow workflowIds)
    [.insertHistory history, .insertLabelsHistory history.workflowId] ctx.keyvalue

end Archive

end HistoryMade

end Tecs
