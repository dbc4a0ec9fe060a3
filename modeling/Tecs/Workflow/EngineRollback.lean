import Tecs.Workflow.StoredWorkflows

set_option autoImplicit false

namespace Tecs

open Effect Program TransactionContext ActionPool

namespace EngineRollback

/-- The answers of a database that serves some calls and fails the others. -/
def partly (serves : PoolCall → Bool) (c : PoolCall)
    (state : Database × TransactionContext Statement) :
    c.Reply × Database × TransactionContext Statement :=
  answer (serves c) state.1 state.2 c

/-- A stored workflow with the paused workflow that rolls it back. -/
structure Supports (db : Database) (forward rollback : WorkflowRow) : Prop where
  forwardRow : forward ∈ db.workflow
  rollbackRow : rollback ∈ db.workflow
  linked : forward.rollbackWorkflowId = rollback.workflowId
  forwardId : forward.workflowId ≠ ""
  rollbackId : rollback.workflowId ≠ ""
  apart : forward.workflowId ≠ rollback.workflowId
  paused : rollback.paused = true

/-- Both workflows are as they were. -/
structure Untouched (db later : Database) (forward rollback : WorkflowRow) : Prop where
  forwardRow : later.workflowById forward.workflowId = some forward
  rollbackRow : later.workflowById rollback.workflowId = some rollback
  forwardActions : later.actionsOf forward.workflowId = db.actionsOf forward.workflowId
  rollbackActions : later.actionsOf rollback.workflowId = db.actionsOf rollback.workflowId

/-- The forward workflow is gone and its rollback workflow runs. -/
structure Switched (later : Database) (forward rollback : WorkflowRow) : Prop where
  gone : later.workflowById forward.workflowId = none
  unpaused : ∃ row, later.workflowById rollback.workflowId = some row ∧ row.paused = false

/-- Exclusive and atomic, for a return value and the tables it leaves. -/
def Atomic (db : Database) (forward rollback : WorkflowRow) (ret : Status) (later : Database) :
    Prop :=
  (Untouched db later forward rollback ∨ Switched later forward rollback) ∧
    (ret ≠ Status.success → Untouched db later forward rollback)

/-- The reads that make a history; an unfinished workflow takes two more. -/
def HistoryRead (serves : PoolCall → Bool) (db : Database) (workflowId : String) : Prop :=
  serves (.select (.unfinishedCount workflowId)) = true ∧
    (db.unfinished workflowId ≠ [] → serves (.select (.workflowProgress workflowId)) = true ∧
      serves (.select (.failedAction workflowId)) = true)

/-- The reads of `DeleteWorkflow` are served. -/
def ArchiveRead (serves : PoolCall → Bool) (db : Database) (workflowId : String) : Prop :=
  serves (.select (.workflowById workflowId)) = true ∧ HistoryRead serves db workflowId

section Calls

variable (serves : PoolCall → Bool) (db : Database) (ctx : TransactionContext Statement)

theorem exec_select_bind {α : Type} (query : Query) (rest : Found query.Value → Pool α) :
    (Pool.select query >>= rest).exec (S := pool) (partly serves) (db, ctx) =
      (rest (if serves (.select query) then db.select query else .failed)).exec (S := pool)
        (partly serves) (db, ctx) := rfl

theorem exec_sql_bind_on {α : Type} (statement : Statement) (rest : Int → Pool α)
    (on : 0 < ctx.beginCount) :
    (Pool.sql statement >>= rest).exec (S := pool) (partly serves) (db, ctx) =
      (rest sqldbOk).exec (S := pool) (partly serves) (db, ctx.append statement) := by
  have answered : partly serves (.sql statement) (db, ctx) =
      (sqldbOk, db, ctx.append statement) := by
    simp only [partly, answer, issue_on statement on]
  unfold Pool.sql
  rw [perform_bind, exec_call, answered]

theorem exec_begin_bind {α : Type} (rest : Status → Pool α) :
    (Pool.begin >>= rest).exec (S := pool) (partly serves) (db, ctx) =
      (rest Status.success).exec (S := pool) (partly serves) (db, ctx.begin) := rfl

theorem exec_commit_nested (nested : 1 < ctx.beginCount) :
    Pool.commit.exec (S := pool) (partly serves) (db, ctx) =
      (Status.success, db, { ctx with beginCount := ctx.beginCount - 1 }) := by
  show answer (serves .transactionCommit) db ctx .transactionCommit = _
  simp only [answer, commit_nested nested]

/-- What making the history of the workflow comes to, by whether its reads are served. -/
def Made (workflowId : String) (read : Prop) (made : Except Status WorkflowHistory) : Prop :=
  (read → ∃ history, made = .ok history ∧ history.workflowId = workflowId) ∧
    (¬read → ∃ ret, made = .error ret)

theorem exec_makeUnfinishedHistory {workflowId : String} (history : WorkflowHistory)
    (actions : (db.actionsOf workflowId).isEmpty = false) :
    ∃ made, (makeUnfinishedHistory workflowId history).exec (S := pool) (partly serves)
        (db, ctx) = (made, db, ctx) ∧
      Made history.workflowId (serves (.select (.workflowProgress workflowId)) = true ∧
        serves (.select (.failedAction workflowId)) = true) made := by
  have progress : (getWorkflowProgress workflowId).exec (S := pool) (partly serves) (db, ctx) =
      (if serves (.select (.workflowProgress workflowId)) then db.workflowProgress workflowId
        else -1, db, ctx) := by
    unfold getWorkflowProgress
    rw [exec_select_bind]
    simp only [Database.select, actions, Bool.false_eq_true, if_false]
    cases serves (.select (.workflowProgress workflowId)) <;> rfl
  unfold makeUnfinishedHistory
  rw [exec_bind, progress]
  dsimp only
  by_cases first : serves (.select (.workflowProgress workflowId)) = true
  · rw [if_pos first, if_neg (Int.not_lt.mpr (db.workflowProgress_bounds workflowId).1),
      exec_select_bind]
    by_cases second : serves (.select (.failedAction workflowId)) = true
    · rw [if_pos second]
      simp only [Database.select]
      cases db.failedAction workflowId with
      | none => exact ⟨_, rfl, fun _ => ⟨_, rfl, rfl⟩, fun other => absurd ⟨first, second⟩ other⟩
      | some found =>
          exact ⟨_, rfl, fun _ => ⟨_, rfl, rfl⟩, fun other => absurd ⟨first, second⟩ other⟩
    · rw [if_neg second]
      exact ⟨_, rfl, fun both => absurd both.2 second, fun _ => ⟨_, rfl⟩⟩
  · rw [if_neg first, if_pos (by decide)]
    exact ⟨_, rfl, fun both => absurd both.1 first, fun _ => ⟨_, rfl⟩⟩

/-- Inside the rollback's transaction the thread has finished no action of its own. -/
theorem exec_makeWorkflowHistory (workflowId : String) (history : WorkflowHistory)
    (on : 0 < ctx.beginCount) (cleared : ctx.keyvalue.toList = []) :
    ∃ made, (makeWorkflowHistory workflowId history).exec (S := pool) (partly serves)
        (db, ctx) = (made, db, ctx) ∧
      Made history.workflowId (HistoryRead serves db workflowId) made := by
  have counted : (getUnfinishedActionsCount workflowId).exec (S := pool) (partly serves)
      (db, ctx) = (if serves (.select (.unfinishedCount workflowId)) then
        ((db.unfinished workflowId).length : Int) else -1, db, ctx) := by
    unfold getUnfinishedActionsCount
    rw [exec_select_bind]
    cases serves (.select (.unfinishedCount workflowId)) <;> rfl
  unfold makeWorkflowHistory
  rw [exec_bind, counted]
  dsimp only
  by_cases count : serves (.select (.unfinishedCount workflowId)) = true
  · rw [if_pos count, if_neg (by omega)]
    by_cases none : db.unfinished workflowId = []
    · have zero : ((db.unfinished workflowId).length : Int) = 0 := by simp [none]
      rw [if_pos zero]
      exact ⟨_, rfl, fun _ => ⟨_, rfl, rfl⟩,
        fun other => absurd ⟨count, fun some => absurd none some⟩ other⟩
    · have some : ((db.unfinished workflowId).length : Int) ≠ 0 := by simpa using none
      have actions : (db.actionsOf workflowId).isEmpty = false := by
        rw [List.isEmpty_eq_false_iff]
        intro empty
        exact none (by simp [Database.unfinished, empty])
      have inside : Pool.isOn.exec (S := pool) (partly serves) (db, ctx) = (true, db, ctx) := by
        show (ctx.isOn, db, ctx) = _
        rw [(isOn_eq_true ctx).mpr on]
      have empty : Pool.keyValue.exec (S := pool) (partly serves) (db, ctx) = ([], db, ctx) := by
        show (ctx.keyvalue.toList, db, ctx) = _
        rw [cleared]
      rw [if_neg some, exec_bind, inside, if_pos rfl]
      unfold makeTransactionHistory
      rw [exec_bind, empty]
      simp only [List.isEmpty_nil, if_true]
      obtain ⟨made, executed, read, unread⟩ := exec_makeUnfinishedHistory serves db ctx history
        actions
      refine ⟨made, executed, fun all => read (all.2 none), fun other => unread fun both => ?_⟩
      exact other ⟨count, fun _ => both⟩
  · rw [if_neg count, if_pos (by decide)]
    exact ⟨_, rfl, fun all => absurd all.1 count, fun _ => ⟨_, rfl⟩⟩

/-- What `DeleteWorkflow` adds to the transaction when its reads are served. -/
def archived (history : WorkflowHistory) (workflowId : String) : List Statement :=
  [.insertHistory history, .insertLabelsHistory history.workflowId, .deleteWorkflow [workflowId]]

theorem exec_archiveWorkflow (history : WorkflowHistory) (workflowId : String)
    (on : 0 < ctx.beginCount) :
    ((archiveWorkflow history [workflowId]).exec (S := pool) (partly serves) (db, ctx)).2 =
      (db, { ctx with sql := ctx.sql ++ archived history workflowId }) := by
  have opened : 0 < ctx.begin.beginCount := Nat.succ_pos _
  have saved : (saveWorkflowHistory history).exec (S := pool) (partly serves) (db, ctx.begin) =
      (Status.success, db, (ctx.begin.append (.insertHistory history)).append
        (.insertLabelsHistory history.workflowId)) := by
    unfold saveWorkflowHistory
    rw [exec_sql_bind_on _ _ _ _ _ opened, if_pos rfl,
      exec_sql_bind_on _ _ (ctx.begin.append _) _ _ opened]
    rfl
  unfold archiveWorkflow
  rw [exec_begin_bind, exec_bind, saved]
  dsimp only
  rw [if_pos rfl, exec_sql_bind_on _ _ ((ctx.begin.append _).append _) _ _ opened, if_pos rfl,
    exec_commit_nested _ _ (((ctx.begin.append _).append _).append _) (Nat.succ_lt_succ on)]
  simp [append, archived, begin_nested on]

theorem exec_deleteWorkflow {forward : WorkflowRow} (row : forward ∈ db.workflow)
    (on : 0 < ctx.beginCount) (cleared : ctx.keyvalue.toList = []) :
    ∃ batch, ((ActionPool.deleteWorkflow forward.workflowId false).exec (S := pool)
        (partly serves) (db, ctx)).2 = (db, { ctx with sql := ctx.sql ++ batch }) ∧
      (ArchiveRead serves db forward.workflowId → ∃ history : WorkflowHistory,
        history.workflowId = forward.workflowId ∧ batch = archived history forward.workflowId) ∧
      (¬ArchiveRead serves db forward.workflowId → batch = []) := by
  have unchanged : (db, ctx) = (db, { ctx with sql := ctx.sql ++ [] }) := by
    rw [List.append_nil]
  have found : (getWorkflowById forward.workflowId).exec (S := pool) (partly serves) (db, ctx) =
      (if serves (.select (.workflowById forward.workflowId)) then .ok forward
        else .error Status.errorDbSelectFail, db, ctx) := by
    unfold getWorkflowById
    rw [exec_select_bind]
    simp only [Database.select, Database.workflowById_eq_some.mpr ⟨row, rfl⟩, Found.ofOption]
    cases serves (.select (.workflowById forward.workflowId)) <;> rfl
  unfold ActionPool.deleteWorkflow
  rw [exec_bind, found]
  dsimp only
  by_cases present : serves (.select (.workflowById forward.workflowId)) = true
  · rw [if_pos present]
    dsimp only
    obtain ⟨made, executed, read, unread⟩ := exec_makeWorkflowHistory serves db ctx
      forward.workflowId (historyOf forward) on cleared
    rw [exec_bind, executed]
    dsimp only
    by_cases all : HistoryRead serves db forward.workflowId
    · obtain ⟨history, rfl, named⟩ := read all
      refine ⟨archived history forward.workflowId, ?_, fun _ => ⟨history, named, rfl⟩,
        fun other => absurd ⟨present, all⟩ other⟩
      exact exec_archiveWorkflow serves db ctx history forward.workflowId on
    · obtain ⟨ret, rfl⟩ := unread all
      exact ⟨[], unchanged, fun both => absurd both.2 all, fun _ => rfl⟩
  · rw [if_neg present]
    exact ⟨[], unchanged, fun both => absurd both.1 present, fun _ => rfl⟩

/-- The return value and the tables after `Rollback`. -/
def outcome (engine : EngineWhere) (workflowId : String) : Status × Database :=
  let ended := (WorkflowEngine.rollback engine workflowId).exec (S := pool)
    (partly serves) (db, ctx)
  (ended.1, ended.2.1)

/-- The transaction of the statements: whether it is done, and the tables after it. -/
def transacted (statements : List Statement) : Bool × Database :=
  db.settle (serves .transactionCommit) (db.executeTransaction statements)

theorem exec_commit_outermost (s : Statement) (sql : List Statement)
    (keyvalue : Std.TreeMap String String) :
    Pool.commit.exec (S := pool) (partly serves) (db, ⟨1, sql ++ [s], keyvalue⟩) =
      (if (transacted serves db (sql ++ [s])).1 then Status.success else Status.error,
        (transacted serves db (sql ++ [s])).2, ⟨0, sql ++ [s], keyvalue⟩) := by
  have some : (sql ++ [s]).isEmpty = false := by simp
  show answer (serves .transactionCommit) db _ .transactionCommit = _
  simp only [answer, commit_outermost (c := ⟨1, sql ++ [s], keyvalue⟩) rfl, some,
    Bool.false_eq_true, if_false]
  rfl

variable {ctx} {forward rollback : WorkflowRow}

/-- Without the id of the rollback workflow nothing happens. -/
theorem outcome_unread {engine : EngineWhere} (supports : Supports db forward rollback)
    (unread : serves (.select (.rollbackWorkflow forward.workflowId)) = false) :
    outcome serves db ctx engine forward.workflowId = (Status.errorNotSupport, db) := by
  have found : (getRollbackWorkflow forward.workflowId).exec (S := pool) (partly serves)
      (db, ctx) = ("", db, ctx) := by
    unfold getRollbackWorkflow
    rw [exec_select_bind, unread]
    rfl
  unfold outcome WorkflowEngine.rollback
  rw [if_neg (by simpa using supports.forwardId), exec_bind, found]
  rfl

/-- Otherwise one transaction decides; it archives the workflow if `DeleteWorkflow` could
read it, and unpauses the rollback workflow in any case. -/
theorem outcome_read (engine : EngineWhere) (supports : Supports db forward rollback)
    (off : ctx.beginCount = 0) (cleared : ctx.keyvalue.toList = [])
    (read : serves (.select (.rollbackWorkflow forward.workflowId)) = true) :
    ∃ batch, outcome serves db ctx engine forward.workflowId =
        (let done := transacted serves db (batch ++ [.updatePaused rollback.workflowId false])
        (if done.1 then Status.success else Status.error, done.2)) ∧
      (ArchiveRead serves db forward.workflowId → ∃ history : WorkflowHistory,
        history.workflowId = forward.workflowId ∧ batch = archived history forward.workflowId) ∧
      (¬ArchiveRead serves db forward.workflowId → batch = []) := by
  have found : (getRollbackWorkflow forward.workflowId).exec (S := pool) (partly serves)
      (db, ctx) = (rollback.workflowId, db, ctx) := by
    unfold getRollbackWorkflow
    rw [exec_select_bind, read]
    simp only [Database.select,
      Database.workflowById_eq_some.mpr ⟨supports.forwardRow, rfl⟩, Option.map_some, if_true,
      supports.linked]
    rfl
  have opened : ctx.begin = ⟨1, [], ctx.keyvalue⟩ := by
    simp [begin, off]
  obtain ⟨batch, deleted, archive, nothing⟩ := exec_deleteWorkflow serves db ctx.begin
    supports.forwardRow (Nat.succ_pos _) cleared
  refine ⟨batch, ?_, archive, nothing⟩
  rw [opened] at deleted
  have committed := exec_commit_outermost serves db (.updatePaused rollback.workflowId false)
    ([] ++ batch) ctx.keyvalue
  unfold outcome WorkflowEngine.rollback
  rw [if_neg (by simpa using supports.forwardId), exec_bind, found]
  dsimp only
  rw [if_neg (by simpa using supports.rollbackId), exec_begin_bind, opened, exec_bind, deleted]
  unfold setWorkflowPauseFlag update
  dsimp only
  rw [Program.bind_assoc, exec_sql_bind_on _ _ ⟨1, [] ++ batch, ctx.keyvalue⟩ _ _ Nat.one_pos,
    Program.pure_eq, ret_bind, exec_bind]
  unfold append
  dsimp only
  rw [committed, List.nil_append]
  dsimp only
  split
  · rfl
  · rfl

end Calls

/-! The tables after the transaction. -/

section Tables

variable {db : Database} {forward rollback : WorkflowRow}

theorem untouched_refl (supports : Supports db forward rollback) :
    Untouched db db forward rollback where
  forwardRow := Database.workflowById_eq_some.mpr ⟨supports.forwardRow, rfl⟩
  rollbackRow := Database.workflowById_eq_some.mpr ⟨supports.rollbackRow, rfl⟩
  forwardActions := rfl
  rollbackActions := rfl

/-- Archived and unpaused in one transaction. -/
theorem switched_of_archived (supports : Supports db forward rollback)
    {history : WorkflowHistory} {later : Database}
    (done : db.executeTransaction (archived history forward.workflowId ++
      [.updatePaused rollback.workflowId false]) = some later) :
    Switched later forward rollback := by
  have rows : later.workflow = (db.workflow.filter fun w =>
      decide (w.workflowId ∉ [forward.workflowId])).map
        (Database.pauseRow rollback.workflowId false) := by
    simp only [archived, List.cons_append, List.nil_append, Database.executeTransaction,
      Database.execute, Option.bind_some] at done
    obtain ⟨saved, inserted, rest⟩ := Option.bind_eq_some_iff.mp done
    have same : saved.workflow = db.workflow := by
      unfold Database.insertHistory at inserted
      split at inserted
      · obtain rfl := Option.some.inj inserted
        rfl
      · cases inserted
    obtain rfl := Option.some.inj rest
    rw [← same]
    rfl
  constructor
  · by_contra present
    obtain ⟨row, found⟩ := Option.ne_none_iff_exists'.mp present
    obtain ⟨inside, named⟩ := Database.workflowById_eq_some.mp found
    rw [rows] at inside
    obtain ⟨old, kept, rfl⟩ := List.mem_map.mp inside
    rw [Database.pauseRow_workflowId] at named
    exact absurd (by simp [named]) (of_decide_eq_true (List.mem_filter.mp kept).2)
  · refine ⟨Database.pauseRow rollback.workflowId false rollback,
      Database.workflowById_eq_some.mpr ⟨?_, Database.pauseRow_workflowId _ _ _⟩, ?_⟩
    · rw [rows]
      refine List.mem_map_of_mem (List.mem_filter.mpr ⟨supports.rollbackRow, ?_⟩)
      simpa using supports.apart.symm
    · simp [Database.pauseRow]

/-- Unpaused alone: both workflows are runnable. -/
theorem not_atomic_of_unpaused (supports : Supports db forward rollback) (ret : Status) :
    ¬Atomic db forward rollback ret (db.updatePaused rollback.workflowId false) := by
  have forwardRow : (db.updatePaused rollback.workflowId false).workflowById forward.workflowId =
      some forward := by
    refine Database.workflowById_eq_some.mpr ⟨?_, rfl⟩
    refine List.mem_map.mpr ⟨forward, supports.forwardRow, ?_⟩
    unfold Database.pauseRow
    rw [if_neg supports.apart]
  have rollbackRow : Database.pauseRow rollback.workflowId false rollback ∈
      (db.updatePaused rollback.workflowId false).workflow :=
    List.mem_map_of_mem supports.rollbackRow
  rintro ⟨untouched | switched, -⟩
  · obtain ⟨inside, -⟩ := Database.workflowById_eq_some.mp untouched.rollbackRow
    have equal : Database.pauseRow rollback.workflowId false rollback = rollback :=
      List.inj_on_of_nodup_map (Database.workflowKey _) rollbackRow inside
        (Database.pauseRow_workflowId _ _ _)
    have unpaused : (Database.pauseRow rollback.workflowId false rollback).paused = false := by
      simp [Database.pauseRow]
    rw [equal, supports.paused] at unpaused
    cases unpaused
  · have gone := switched.gone
    rw [forwardRow] at gone
    cases gone

end Tables

/-- `Rollback` is exclusive and atomic exactly when it stops at the first read, the
transaction fails, or `DeleteWorkflow` could read all it needs. Between two messages an
engine's thread has no open transaction and no key values. -/
theorem rollback_atomic_iff (engine : EngineWhere) (serves : PoolCall → Bool) {db : Database}
    {ctx : TransactionContext Statement} (off : ctx.beginCount = 0)
    (cleared : ctx.keyvalue.toList = []) {forward rollback : WorkflowRow}
    (supports : Supports db forward rollback) :
    Atomic db forward rollback (outcome serves db ctx engine forward.workflowId).1
        (outcome serves db ctx engine forward.workflowId).2 ↔
      serves (.select (.rollbackWorkflow forward.workflowId)) = false ∨
        serves .transactionCommit = false ∨ ArchiveRead serves db forward.workflowId := by
  have kept := untouched_refl supports
  cases read : serves (.select (.rollbackWorkflow forward.workflowId)) with
  | false =>
      rw [outcome_unread serves db supports read]
      exact ⟨fun _ => .inl rfl, fun _ => ⟨.inl kept, fun _ => kept⟩⟩
  | true =>
      obtain ⟨batch, ended, archive, nothing⟩ := outcome_read serves db engine
        supports off cleared read
      rw [ended]
      dsimp only
      unfold transacted
      cases committed : serves .transactionCommit with
      | false =>
          exact ⟨fun _ => .inr (.inl rfl), fun _ => ⟨.inl kept, fun _ => kept⟩⟩
      | true =>
          by_cases all : ArchiveRead serves db forward.workflowId
          · obtain ⟨history, -, rfl⟩ := archive all
            refine ⟨fun _ => .inr (.inr all), fun _ => ?_⟩
            cases done : db.executeTransaction (archived history forward.workflowId ++
              [.updatePaused rollback.workflowId false]) with
            | none => exact ⟨.inl kept, fun _ => kept⟩
            | some later =>
                exact ⟨.inr (switched_of_archived supports done), fun error => absurd rfl error⟩
          · rw [nothing all]
            refine ⟨fun atomic => absurd atomic (not_atomic_of_unpaused supports _), ?_⟩
            rintro (other | other | other)
            · cases other
            · cases other
            · exact absurd other all

/-! The two-step workflow with a workflow that undoes it. -/

def undo : Workflow :=
  let step : Action :=
    (Action.init "vm" "destroy" 1002 "sender" "agent" "a-destroy").setMessageReq ⟨"", false⟩
  (Workflow.init "vm" "undeploy" "w-undo").addAction { step with workflowId := "w-undo" }

def undoable : Database :=
  afterwards 0 (createWorkflowWithRollback ⟨"cc", "manager", 1⟩ chain undo) .empty

/-- Every statement is served except the first read of `DeleteWorkflow`. -/
def unreadRow (c : PoolCall) : Bool :=
  match c with
  | .select (.workflowById _) => false
  | _ => true

theorem undoable_supports : ∃ forward rollback, Supports undoable forward rollback ∧
    forward.workflowId = "w-chain" := by
  have rows : ∃ forward ∈ undoable.workflow, forward.workflowId = "w-chain" ∧
      forward.rollbackWorkflowId = "w-undo" := by decide
  have paused : ∃ rollback ∈ undoable.workflow, rollback.workflowId = "w-undo" ∧
      rollback.paused = true := by decide
  obtain ⟨forward, inside, named, linked⟩ := rows
  obtain ⟨rollback, among, other, paused⟩ := paused
  refine ⟨forward, rollback, ⟨inside, among, linked.trans other.symm, ?_, ?_, ?_, paused⟩, named⟩
  · rw [named]
    decide
  · rw [other]
    decide
  · rw [named, other]
    decide

/-- Both workflows are runnable after a failed read, and `Rollback` returns success. -/
theorem both_runnable : ∃ forward rollback, Supports undoable forward rollback ∧
    (outcome unreadRow undoable enable ⟨"cc", "manager", 0, true⟩ forward.workflowId).1 =
      Status.success ∧
    ¬Atomic undoable forward rollback
      (outcome unreadRow undoable enable ⟨"cc", "manager", 0, true⟩ forward.workflowId).1
      (outcome unreadRow undoable enable ⟨"cc", "manager", 0, true⟩ forward.workflowId).2 := by
  obtain ⟨forward, rollback, supports, -⟩ := undoable_supports
  have unread : ¬ArchiveRead unreadRow undoable forward.workflowId := fun all => by cases all.1
  obtain ⟨batch, ended, -, nothing⟩ := outcome_read unreadRow undoable
    ⟨"cc", "manager", 0, true⟩ supports (show enable.beginCount = 0 from rfl) (by decide) rfl
  rw [nothing unread] at ended
  refine ⟨forward, rollback, supports, ?_, ?_⟩
  · rw [ended]
    rfl
  · rw [ended]
    exact not_atomic_of_unpaused supports _

theorem rollback_atomic_undoable : ∃ forward rollback, Supports undoable forward rollback ∧
    Atomic undoable forward rollback
      (outcome (fun _ => true) undoable enable ⟨"cc", "manager", 0, true⟩ forward.workflowId).1
      (outcome (fun _ => true) undoable enable ⟨"cc", "manager", 0, true⟩
        forward.workflowId).2 := by
  obtain ⟨forward, rollback, supports, -⟩ := undoable_supports
  refine ⟨forward, rollback, supports, (rollback_atomic_iff ⟨"cc", "manager", 0, true⟩
    (fun _ => true) rfl (by decide) supports).mpr (.inr (.inr ⟨rfl, rfl, fun _ => ⟨rfl, rfl⟩⟩))⟩

end EngineRollback

end Tecs
