import Tecs.Workflow.WorkflowProgress

set_option autoImplicit false

namespace Tecs

open Effect Program TransactionContext ActionPool EngineRollback HistoryMade

namespace RollbackRefusal

/-- The calls of `RollbackWorkflow`; the engine carries out the request and answers it. -/
def handled (env : Process) (locked : Bool) (serves : PoolCall → Bool) (c : PoolCall)
    (state : Database × TransactionContext Statement) :
    c.Reply × Database × TransactionContext Statement :=
  match c with
  | .isLockWorkflow _ => (locked, state)
  | .request index .rollbackWorkflow workflowId =>
      let ended := outcome serves state.1 enable (WorkflowEngine.engineWhere env index) workflowId
      (ended.1, ended.2, state.2)
  | c => partly serves c state

/-- The return value of `RollbackWorkflow` and the tables after it. -/
def rolled (env : Process) (locked : Bool) (serves : PoolCall → Bool) (db : Database)
    (id : String) : Status × Database :=
  let ended := (rollbackWorkflow env id).exec (S := pool) (handled env locked serves) (db, enable)
  (ended.1, ended.2.1)

/-- The id of the workflow, or of one of its actions. -/
def Denotes (db : Database) (id : String) (w : WorkflowRow) : Prop :=
  (isActionId id = false ∧ id = w.workflowId) ∨
    (isActionId id = true ∧ ∃ a ∈ db.actionPool, a.actionId = id ∧ a.workflowId = w.workflowId)

/-- The workflow is none that rolls another one back, and the one that rolls it back is there. -/
def Eligible (db : Database) (w : WorkflowRow) : Prop :=
  isRollbackOf w.rollbackWorkflowId = false ∧ w.rollbackWorkflowId ≠ "" ∧
    ∃ v ∈ db.workflow, v.workflowId = w.rollbackWorkflowId

/-- Refused with the tables as they were, or after a success the rollback workflow runs. -/
structure Lawful (db : Database) (w : WorkflowRow) (ret : Status) (later : Database) : Prop where
  refused : ¬Eligible db w → ret ≠ Status.success ∧ later = db
  running : Eligible db w → ret = Status.success →
    ∃ v ∈ later.workflow, v.workflowId = w.rollbackWorkflowId ∧ v.paused = false

/-- The workflow is not locked, and its row can be read. -/
structure Read (locked : Bool) (serves : PoolCall → Bool) (id : String) (w : WorkflowRow) :
    Prop where
  owner : isActionId id = true → serves (.select (.actionWorkflow id)) = true
  engine : serves (.select (.workflowEngine w.workflowId)) = true
  unlocked : locked = false
  rollback : serves (.select (.rollbackWorkflow w.workflowId)) = true

/-- The engine's transaction is reached and done: what is archived is not in the history yet. -/
structure Through (locked : Bool) (serves : PoolCall → Bool) (db : Database) (id : String)
    (w : WorkflowRow) : Prop where
  read : Read locked serves id w
  commit : serves .transactionCommit = true
  archive : ArchiveRead serves db w.workflowId →
    w.workflowId ∉ db.workflowHistory.map WorkflowHistory.workflowId

section Engine

variable (serves : PoolCall → Bool) {db : Database} {w : WorkflowRow} (row : w ∈ db.workflow)

include row

/-- What `DeleteWorkflow` adds to the transaction of `Rollback`. -/
theorem exec_deleteWorkflow {ctx : TransactionContext Statement} (on : 0 < ctx.beginCount)
    (cleared : ctx.keyvalue.toList = []) :
    ∃ batch, ((ActionPool.deleteWorkflow w.workflowId false).exec (S := pool) (partly serves)
        (db, ctx)).2 = (db, { ctx with sql := ctx.sql ++ batch }) ∧
      (ArchiveRead serves db w.workflowId → ∃ history : WorkflowHistory,
        history.workflowId = w.workflowId ∧ (0 ≤ history.progress ∧ history.progress ≤ 100) ∧
        batch = archiving history [w.workflowId]) ∧
      (¬ArchiveRead serves db w.workflowId → batch = []) := by
  have unchanged : (db, ctx) = (db, { ctx with sql := ctx.sql ++ [] }) := by
    rw [List.append_nil]
  have found : (getWorkflowById w.workflowId).exec (S := pool) (partly serves) (db, ctx) =
      (if serves (.select (.workflowById w.workflowId)) then .ok w
        else .error Status.errorDbSelectFail, db, ctx) := by
    unfold getWorkflowById
    rw [EngineRollback.exec_select_bind]
    simp only [Database.select, Database.workflowById_eq_some.mpr ⟨row, rfl⟩, Found.ofOption]
    cases serves (.select (.workflowById w.workflowId)) <;> rfl
  unfold ActionPool.deleteWorkflow
  rw [exec_bind, found]
  dsimp only
  by_cases present : serves (.select (.workflowById w.workflowId)) = true
  · rw [if_pos present]
    dsimp only
    rw [exec_bind, exec_makeWorkflowHistory serves db w.workflowId ctx _ (.inr cleared)]
    dsimp only
    cases equal : made serves db w.workflowId (historyOf w) with
    | ok history =>
        have read := (made_ok_iff serves (historyOf w)).mp ⟨history, equal⟩
        obtain ⟨named, bounds⟩ := made_ok serves equal
        refine ⟨archiving history [w.workflowId], ?_, fun _ => ⟨history, named, bounds, rfl⟩,
          fun other => absurd ⟨present, read⟩ other⟩
        show ((archiveWorkflow history (deletedIds w.workflowId "")).exec (S := pool)
          (partly serves) (db, ctx)).2 = _
        rw [exec_archiveWorkflow_on serves db history _ on]
        rfl
    | error code =>
        refine ⟨[], unchanged, fun read => ?_, fun _ => rfl⟩
        obtain ⟨history, other⟩ := (made_ok_iff serves (historyOf w)).mpr read.2
        rw [equal] at other
        cases other
  · rw [if_neg present]
    exact ⟨[], unchanged, fun read => absurd read.1 present, fun _ => rfl⟩

theorem exec_getRollbackWorkflow (ctx : TransactionContext Statement) :
    (getRollbackWorkflow w.workflowId).exec (S := pool) (partly serves) (db, ctx) =
      (if serves (.select (.rollbackWorkflow w.workflowId)) then w.rollbackWorkflowId else "",
        db, ctx) := by
  unfold getRollbackWorkflow
  rw [EngineRollback.exec_select_bind]
  simp only [Database.select, Database.workflowById_eq_some.mpr ⟨row, rfl⟩, Option.map_some]
  cases serves (.select (.rollbackWorkflow w.workflowId)) <;> rfl

/-- The engine's `Rollback` of a workflow with any id in its column is one transaction. -/
theorem outcome_transacted (named : w.workflowId ≠ "") (column : w.rollbackWorkflowId ≠ "")
    (read : serves (.select (.rollbackWorkflow w.workflowId)) = true) (engine : EngineWhere) :
    ∃ batch, outcome serves db enable engine w.workflowId =
        (let done := transacted serves db (batch ++ [.updatePaused w.rollbackWorkflowId false])
        (if done.1 then Status.success else Status.error, done.2)) ∧
      (ArchiveRead serves db w.workflowId → ∃ history : WorkflowHistory,
        history.workflowId = w.workflowId ∧ (0 ≤ history.progress ∧ history.progress ≤ 100) ∧
        batch = archiving history [w.workflowId]) ∧
      (¬ArchiveRead serves db w.workflowId → batch = []) := by
  have opened : enable.begin = (⟨1, [], ∅⟩ : TransactionContext Statement) := rfl
  have column_ := exec_getRollbackWorkflow serves row enable
  rw [if_pos read] at column_
  obtain ⟨batch, deleted, archive, nothing⟩ := exec_deleteWorkflow serves row
    (show 0 < (⟨1, [], ∅⟩ : TransactionContext Statement).beginCount from Nat.one_pos) rfl
  refine ⟨batch, ?_, archive, nothing⟩
  have committed := EngineRollback.exec_commit_outermost serves db
    (.updatePaused w.rollbackWorkflowId false) ([] ++ batch) ∅
  unfold outcome WorkflowEngine.rollback
  rw [if_neg (by simpa using named), exec_bind, column_]
  dsimp only
  rw [if_neg (by simpa using column), exec_begin_bind, opened, exec_bind, deleted]
  unfold setWorkflowPauseFlag update
  dsimp only
  rw [Program.bind_assoc, exec_sql_bind_on _ _ ⟨1, [] ++ batch, ∅⟩ _ _ Nat.one_pos,
    Program.pure_eq, ret_bind, exec_bind]
  unfold append
  dsimp only
  rw [committed, List.nil_append]
  dsimp only
  split
  · rfl
  · rfl

end Engine

/-! The user's call, up to the request. -/

section Call

variable (env : Process) (locked : Bool) (serves : PoolCall → Bool) {db : Database}
variable {w : WorkflowRow} {id : String}

theorem exec_select_bind {α : Type} (query : Query) (rest : Found query.Value → Pool α) :
    (Pool.select query >>= rest).exec (S := pool) (handled env locked serves) (db, enable) =
      (rest (if serves (.select query) then db.select query else .failed)).exec (S := pool)
        (handled env locked serves) (db, enable) := rfl

theorem exec_getWorkflow (named : w.workflowId ≠ "")
    (denotes : Denotes db id w) :
    (getWorkflow id).exec (S := pool) (handled env locked serves) (db, enable) =
      (if isActionId id = true ∧ serves (.select (.actionWorkflow id)) = false then
        .error Status.errorInvalidArgument else .ok w.workflowId, db, enable) := by
  unfold getWorkflow
  rcases denotes with ⟨untagged, rfl⟩ | ⟨tagged, a, inside, rfl, owned⟩
  · rw [if_neg (by simp [untagged]), if_neg (by simp [untagged])]
    rfl
  · have found : db.select (.actionWorkflow a.actionId) = .value w.workflowId := by
      simp only [Database.select, Database.actionById_eq_some.mpr ⟨inside, rfl⟩, Option.map_some,
        Found.ofOption, owned]
    have stored : (getWorkflowIdOfAction a.actionId).exec (S := pool)
        (handled env locked serves) (db, enable) =
          (if serves (.select (.actionWorkflow a.actionId)) then w.workflowId else "", db, enable)
        := by
      unfold getWorkflowIdOfAction
      rw [exec_select_bind, found]
      cases serves (.select (.actionWorkflow a.actionId)) <;> rfl
    rw [if_pos tagged, exec_bind, stored]
    by_cases answered : serves (.select (.actionWorkflow a.actionId)) = true
    · simp [answered, named]
    · simp [answered, tagged]

/-- The index of the engine; there is one, as engines are numbered from 0. -/
theorem exec_getEngineOfWorkflow (row : w ∈ db.workflow) :
    (getEngineOfWorkflow w.workflowId).exec (S := pool) (handled env locked serves)
      (db, enable) = (if serves (.select (.workflowEngine w.workflowId)) then w.engine else -1,
        db, enable) := by
  unfold getEngineOfWorkflow
  rw [exec_select_bind]
  simp only [Database.select, Database.workflowById_eq_some.mpr ⟨row, rfl⟩, Option.map_some]
  cases serves (.select (.workflowEngine w.workflowId)) <;> rfl

/-- Only if the row can be read and names some workflow, the engine is asked to roll back. -/
theorem rolled_eq (row : w ∈ db.workflow) (named : w.workflowId ≠ "")
    (denotes : Denotes db id w) :
    (Read locked serves id w ∧ w.rollbackWorkflowId ≠ "" → ∃ engine,
        rolled env locked serves db id = outcome serves db enable engine w.workflowId) ∧
      (¬(Read locked serves id w ∧ w.rollbackWorkflowId ≠ "") →
        (rolled env locked serves db id).1 ≠ Status.success ∧
          (rolled env locked serves db id).2 = db) := by
  have low := db.engineCheck w row
  unfold rolled rollbackWorkflow getWorkflowAndEngine
  rw [Program.bind_assoc, exec_bind, exec_getWorkflow env locked serves named denotes]
  by_cases owner : isActionId id = true ∧ serves (.select (.actionWorkflow id)) = false
  · rw [if_pos owner]
    refine ⟨fun both => ?_, fun _ => ⟨show Status.errorInvalidArgument ≠ Status.success by decide,
      rfl⟩⟩
    have read := both.1.owner owner.1
    rw [owner.2] at read
    cases read
  · rw [if_neg owner]
    dsimp only
    rw [Program.bind_assoc, exec_bind, exec_getEngineOfWorkflow env locked serves row]
    by_cases engine : serves (.select (.workflowEngine w.workflowId)) = true
    · rw [if_pos engine, if_neg (Int.not_lt.mpr low)]
      have address : ∃ index, (if w.engine > env.numberOfEngines - 1 then
          .ok (w.workflowId, env.numberOfEngines - 1) else .ok (w.workflowId, w.engine) :
            Except Status (String × Int)) = .ok (w.workflowId, index) := by
        split
        · exact ⟨_, rfl⟩
        · exact ⟨_, rfl⟩
      obtain ⟨index, address⟩ := address
      rw [address, Program.pure_eq, ret_bind]
      dsimp only
      have asked : (Pool.isLockWorkflow w.workflowId).exec (S := pool) (handled env locked serves)
          (db, enable) = (locked, db, enable) := rfl
      rw [exec_bind, asked]
      dsimp only
      have column : (getRollbackWorkflow w.workflowId).exec (S := pool)
          (handled env locked serves) (db, enable) =
            (if serves (.select (.rollbackWorkflow w.workflowId)) then w.rollbackWorkflowId
              else "", db, enable) := by
        unfold getRollbackWorkflow
        rw [exec_select_bind]
        simp only [Database.select, Database.workflowById_eq_some.mpr ⟨row, rfl⟩, Option.map_some]
        cases serves (.select (.rollbackWorkflow w.workflowId)) <;> rfl
      cases locked with
      | true =>
          refine ⟨fun both => absurd both.1.unlocked (by decide), fun _ =>
            ⟨show Status.errorOpRunning ≠ Status.success by decide, rfl⟩⟩
      | false =>
          rw [if_neg (by decide), exec_bind, column]
          dsimp only
          by_cases rollback : serves (.select (.rollbackWorkflow w.workflowId)) = true
          · rw [if_pos rollback]
            by_cases none : w.rollbackWorkflowId = ""
            · rw [if_pos (by simpa using none)]
              exact ⟨fun both => absurd none both.2, fun _ =>
                ⟨show Status.errorNotSupport ≠ Status.success by decide, rfl⟩⟩
            · rw [if_neg (by simpa using none)]
              have read : Read false serves id w :=
                ⟨fun tagged => eq_true_of_ne_false fun unread => owner ⟨tagged, unread⟩, engine,
                  rfl, rollback⟩
              exact ⟨fun _ => ⟨WorkflowEngine.engineWhere env index, rfl⟩, fun other =>
                absurd ⟨read, none⟩ other⟩
          · rw [if_neg rollback]
            exact ⟨fun both => absurd both.1.rollback rollback, fun _ =>
              ⟨show Status.errorNotSupport ≠ Status.success by decide, rfl⟩⟩
    · rw [if_neg engine]
      refine ⟨fun both => absurd both.1.engine engine, fun _ =>
        ⟨show Status.error ≠ Status.success by decide, rfl⟩⟩

end Call

/-- Without a success and without a change every workflow is treated as it should be. -/
theorem lawful_refused {db : Database} {w : WorkflowRow} {ret : Status}
    (failed : ret ≠ Status.success) : Lawful db w ret db :=
  ⟨fun _ => ⟨failed, rfl⟩, fun _ success => absurd success failed⟩

/-- After a success the rollback workflow must be one, and must not be among the deleted. -/
theorem lawful_success {db later : Database} {w : WorkflowRow} {workflowIds : List String}
    (rows : later.workflow = (db.workflow.filter fun v => decide (v.workflowId ∉ workflowIds)).map
      (Database.pauseRow w.rollbackWorkflowId false)) :
    Lawful db w Status.success later ↔ Eligible db w ∧ w.rollbackWorkflowId ∉ workflowIds := by
  constructor
  · intro lawful
    have eligible : Eligible db w := by
      by_contra other
      exact (lawful.refused other).1 rfl
    obtain ⟨v, inside, named, -⟩ := lawful.running eligible rfl
    rw [rows] at inside
    obtain ⟨old, kept, rfl⟩ := List.mem_map.mp inside
    rw [Database.pauseRow_workflowId] at named
    have apart := of_decide_eq_true (List.mem_filter.mp kept).2
    rw [named] at apart
    exact ⟨eligible, apart⟩
  · rintro ⟨eligible, apart⟩
    obtain ⟨v, inside, named⟩ := eligible.2.2
    refine ⟨fun other => absurd eligible other, fun _ _ =>
      ⟨Database.pauseRow w.rollbackWorkflowId false v, ?_, ?_, ?_⟩⟩
    · rw [rows]
      refine List.mem_map_of_mem (List.mem_filter.mpr ⟨inside, decide_eq_true ?_⟩)
      rw [named]
      exact apart
    · rw [Database.pauseRow_workflowId, named]
    · simp [Database.pauseRow, named]

/-- `RollbackWorkflow` refuses what it should refuse, and leaves a running rollback workflow
otherwise, exactly when a call whose transaction is done concerns a workflow without a rollback
workflow in its column, or with the id of a stored workflow there that is no rollback workflow's
mark and not deleted in the same transaction. -/
theorem rollback_lawful_iff (env : Process) (locked : Bool) (serves : PoolCall → Bool)
    {db : Database} {w : WorkflowRow} {id : String} (row : w ∈ db.workflow)
    (named : w.workflowId ≠ "") (denotes : Denotes db id w) :
    Lawful db w (rolled env locked serves db id).1 (rolled env locked serves db id).2 ↔
      (Through locked serves db id w → w.rollbackWorkflowId = "" ∨
        (Eligible db w ∧
          (w.rollbackWorkflowId = w.workflowId → ¬ArchiveRead serves db w.workflowId))) := by
  obtain ⟨asked, stopped⟩ := rolled_eq env locked serves row named denotes
  by_cases requested : Read locked serves id w ∧ w.rollbackWorkflowId ≠ ""
  · obtain ⟨engine, equal⟩ := asked requested
    obtain ⟨batch, ended, archive, nothing⟩ :=
      outcome_transacted serves row named requested.2 requested.1.rollback engine
    rw [equal, ended]
    dsimp only
    unfold transacted
    have failed : Lawful db w Status.error db := lawful_refused (by decide)
    cases commit : serves .transactionCommit with
    | false =>
        refine ⟨fun _ through => ?_, fun _ => failed⟩
        have served := through.commit
        rw [commit] at served
        cases served
    | true =>
        by_cases all : ArchiveRead serves db w.workflowId
        · obtain ⟨history, same, bounds, rfl⟩ := archive all
          by_cases stale : w.workflowId ∈ db.workflowHistory.map WorkflowHistory.workflowId
          · rw [executeTransaction_archived _ (same.symm ▸ stale)]
            exact ⟨fun _ through => absurd stale (through.archive all), fun _ => failed⟩
          · have new : history.workflowId ∉
                db.workflowHistory.map WorkflowHistory.workflowId := same.symm ▸ stale
            obtain ⟨next, done, -, workflows⟩ :=
              executeTransaction_archiving [w.workflowId] new bounds
            have rows : (next.updatePaused w.rollbackWorkflowId false).workflow =
                (db.workflow.filter fun v => decide (v.workflowId ∉ [w.workflowId])).map
                  (Database.pauseRow w.rollbackWorkflowId false) := by
              rw [← workflows]
              rfl
            rw [Database.executeTransaction_append, done]
            show Lawful db w Status.success (next.updatePaused w.rollbackWorkflowId false) ↔ _
            rw [lawful_success rows, List.mem_singleton]
            have through : Through locked serves db id w := ⟨requested.1, commit, fun _ => stale⟩
            exact ⟨fun both _ => .inr ⟨both.1, fun self => absurd self both.2⟩, fun condition =>
              (condition through).elim (fun none => absurd none requested.2)
                fun both => ⟨both.1, fun self => both.2 self all⟩⟩
        · rw [nothing all]
          have rows : (db.updatePaused w.rollbackWorkflowId false).workflow =
              (db.workflow.filter fun v => decide (v.workflowId ∉ ([] : List String))).map
                (Database.pauseRow w.rollbackWorkflowId false) := by
            simp [Database.updatePaused]
          show Lawful db w Status.success (db.updatePaused w.rollbackWorkflowId false) ↔ _
          rw [lawful_success rows]
          have through : Through locked serves db id w :=
            ⟨requested.1, commit, fun read => absurd read all⟩
          exact ⟨fun both _ => .inr ⟨both.1, fun _ => all⟩, fun condition =>
            (condition through).elim (fun none => absurd none requested.2)
              fun both => ⟨both.1, List.not_mem_nil⟩⟩
  · obtain ⟨failed, unchanged⟩ := stopped requested
    rw [unchanged]
    refine ⟨fun _ through => .inl ?_, fun _ => lawful_refused failed⟩
    by_contra some
    exact requested ⟨through.read, some⟩

/-! The two-step workflow with the workflow that rolls it back. -/

theorem chain_lawful : ∃ w, Denotes undoable "a-start" w ∧ Eligible undoable w ∧
    Lawful undoable w (rolled ⟨"cc", "manager", 1⟩ false (fun _ => true) undoable "a-start").1
      (rolled ⟨"cc", "manager", 1⟩ false (fun _ => true) undoable "a-start").2 := by
  have stored : ∃ w ∈ undoable.workflow, w.workflowId = "w-chain" ∧
      w.rollbackWorkflowId = "w-undo" := by decide
  have owned : ∃ a ∈ undoable.actionPool, a.actionId = "a-start" ∧ a.workflowId = "w-chain" := by
    decide
  have undo : ∃ v ∈ undoable.workflow, v.workflowId = "w-undo" := by decide
  obtain ⟨w, row, named, column⟩ := stored
  rw [← column] at undo
  rw [← named] at owned
  have denotes : Denotes undoable "a-start" w := .inr ⟨by decide, owned⟩
  have eligible : Eligible undoable w := by
    refine ⟨?_, ?_, undo⟩
    · rw [column]
      decide
    · rw [column]
      decide
  have nonempty : w.workflowId ≠ "" := by
    rw [named]
    decide
  refine ⟨w, denotes, eligible, (rollback_lawful_iff ⟨"cc", "manager", 1⟩ false (fun _ => true) row
    nonempty denotes).mpr fun _ => .inr ⟨eligible, fun self => ?_⟩⟩
  rw [named, column] at self
  exact absurd self (by decide)

/-- A call for the rollback workflow itself succeeds, and deletes it. -/
theorem undo_rolled_back : ∃ w ∈ undoable.workflow, Denotes undoable "w-undo" w ∧
    isRollbackOf w.rollbackWorkflowId = true ∧
    (rolled ⟨"cc", "manager", 1⟩ false (fun _ => true) undoable "w-undo").1 = Status.success ∧
    (∀ v ∈ (rolled ⟨"cc", "manager", 1⟩ false (fun _ => true) undoable "w-undo").2.workflow,
      v.workflowId ≠ "w-undo") ∧
    ¬Lawful undoable w (rolled ⟨"cc", "manager", 1⟩ false (fun _ => true) undoable "w-undo").1
      (rolled ⟨"cc", "manager", 1⟩ false (fun _ => true) undoable "w-undo").2 := by
  have stored : ∃ w ∈ undoable.workflow, w.workflowId = "w-undo" ∧
      isRollbackOf w.rollbackWorkflowId = true := by decide
  have success : (rolled ⟨"cc", "manager", 1⟩ false (fun _ => true) undoable "w-undo").1 =
      Status.success := by decide
  obtain ⟨w, row, named, marked⟩ := stored
  refine ⟨w, row, .inl ⟨by decide, named.symm⟩, marked, success, by decide, fun lawful => ?_⟩
  refine (lawful.refused fun eligible => ?_).1 success
  have unmarked := eligible.1
  rw [marked] at unmarked
  cases unmarked

end RollbackRefusal

end Tecs
