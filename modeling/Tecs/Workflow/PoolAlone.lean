import Tecs.Workflow.PoolQuiet

set_option autoImplicit false

namespace Tecs

open Effect Program TransactionContext ActionPool

/-- The answers to a thread that is alone with a database that serves it; `alternate` is
the value of `alternate_engine`. -/
def alone (alternate : Int) (c : PoolCall) (state : Database × TransactionContext Statement) :
    c.Reply × Database × TransactionContext Statement :=
  match c with
  | .alternateEngine => (alternate, state)
  | c => answer true state.1 state.2 c

section Alone

variable (alternate : Int) (db : Database) (ctx : TransactionContext Statement)

@[simp] theorem exec_begin : Pool.begin.exec (alone alternate) (db, ctx) =
    (Status.success, db, ctx.begin) := rfl

theorem exec_sql_on (statement : Statement) (on : 0 < ctx.beginCount) :
    (Pool.sql statement).exec (alone alternate) (db, ctx) =
      (sqldbOk, db, ctx.append statement) := by
  show answer true db ctx (.sql statement) = _
  simp only [answer, issue_on statement on]

theorem exec_commit_outermost (outermost : ctx.beginCount = 1) :
    (Pool.commit.exec (alone alternate) (db, ctx)).2 =
      ((db.executeTransaction ctx.sql).getD db, { ctx with beginCount := 0 }) := by
  show (answer true db ctx .transactionCommit).2 = _
  simp only [answer, commit_outermost outermost]
  cases sql : ctx.sql with
  | nil => rfl
  | cons s rest =>
      simp only [List.isEmpty_cons, Bool.false_eq_true, if_false]
      unfold Database.settle
      cases db.executeTransaction (s :: rest) <;> rfl

end Alone

section Reads

variable {db : Database} {w : WorkflowRow} {a : Action}

/-- After such an update the action and its workflow are still there. -/
theorem update_served {change : ActionChange}
    (checked : ∀ a : Action, a.Checked → (change.apply a).Checked) (row : w ∈ db.workflow)
    (inside : a ∈ db.actionPool) (ctx : TransactionContext Statement) (id : String) :
    ∃ next ctx', (update (.updateAction id change)).exec (S := pool) (alone 0) (db, ctx) =
        (Status.success, next, ctx') ∧
      w ∈ next.workflow ∧ ∃ b ∈ next.actionPool, b.actionId = a.actionId ∧
        b.workflowId = a.workflowId := by
  by_cases on : 0 < ctx.beginCount
  · refine ⟨db, ctx.append (.updateAction id change), ?_, row, a, inside, rfl, rfl⟩
    unfold update
    rw [exec_bind, exec_sql_on _ _ _ _ on]
    rfl
  · obtain ⟨next, done, actions, workflows⟩ := db.updateAction_done checked id
    refine ⟨next, ctx, ?_, by rwa [workflows], Database.updateRow id change a, ?_, ?_, ?_⟩
    · unfold update
      rw [exec_bind]
      have off := Nat.eq_zero_of_not_pos on
      have executed : (Pool.sql (.updateAction id change)).exec (S := pool) (alone 0) (db, ctx) =
          (sqldbOk, next, ctx) := by
        show answer true db ctx (.sql (.updateAction id change)) = _
        simp only [answer, issue_off _ _ off, Database.execute, done, Database.settle, if_true]
      rw [executed]
      rfl
    · rw [actions]
      exact List.mem_map_of_mem inside
    · exact Database.updateRow_actionId _ _ _
    · exact Database.updateRow_workflowId _ _ _

theorem exec_select_bind {α : Type} (query : Query) (rest : Found query.Value → Pool α)
    (ctx : TransactionContext Statement) :
    (Pool.select query >>= rest).exec (S := pool) (alone 0) (db, ctx) =
      (rest (db.select query)).exec (S := pool) (alone 0) (db, ctx) := rfl

theorem exec_getWorkflowIdOfAction (inside : a ∈ db.actionPool)
    (ctx : TransactionContext Statement) :
    (getWorkflowIdOfAction a.actionId).exec (S := pool) (alone 0) (db, ctx) =
      (a.workflowId, db, ctx) := by
  have read : db.select (.actionWorkflow a.actionId) = .value a.workflowId := by
    simp only [Database.select, Database.actionById_eq_some.mpr ⟨inside, rfl⟩, Option.map_some,
      Found.ofOption]
  unfold getWorkflowIdOfAction
  rw [exec_select_bind, read]
  rfl

theorem exec_isActionFinished (inside : a ∈ db.actionPool) (ctx : TransactionContext Statement) :
    (isActionFinished a.actionId).exec (S := pool) (alone 0) (db, ctx) = (a.finished, db, ctx) := by
  have read : db.select (.actionFinished a.actionId) = .value a.finished := by
    simp only [Database.select, Database.actionById_eq_some.mpr ⟨inside, rfl⟩, Option.map_some,
      Found.ofOption]
  unfold isActionFinished
  rw [exec_select_bind, read]
  rfl

theorem exec_getEngineOfAction (inside : a ∈ db.actionPool) (row : w ∈ db.workflow)
    (owned : a.workflowId = w.workflowId) (ctx : TransactionContext Statement) :
    (getEngineOfAction a.actionId).exec (S := pool) (alone 0) (db, ctx) = (w.engine, db, ctx) := by
  unfold getEngineOfAction
  rw [exec_select_bind, Database.select_actionEngine inside row owned]
  rfl

theorem exec_getEngineOfWorkflow (row : w ∈ db.workflow) (ctx : TransactionContext Statement) :
    (getEngineOfWorkflow w.workflowId).exec (S := pool) (alone 0) (db, ctx) =
      (w.engine, db, ctx) := by
  have read : db.select (.workflowEngine w.workflowId) = .value w.engine := by
    simp only [Database.select, Database.workflowById_eq_some.mpr ⟨row, rfl⟩, Option.map_some,
      Found.ofOption]
  unfold getEngineOfWorkflow
  rw [exec_select_bind, read]
  rfl

theorem exec_getRollbackWorkflow (row : w ∈ db.workflow) (ctx : TransactionContext Statement) :
    (getRollbackWorkflow w.workflowId).exec (S := pool) (alone 0) (db, ctx) =
      (w.rollbackWorkflowId, db, ctx) := by
  have read : db.select (.rollbackWorkflow w.workflowId) = .value w.rollbackWorkflowId := by
    simp only [Database.select, Database.workflowById_eq_some.mpr ⟨row, rfl⟩, Option.map_some,
      Found.ofOption]
  unfold getRollbackWorkflow
  rw [exec_select_bind, read]
  rfl

end Reads

end Tecs
