import Tecs.Workflow.HistoryMade

set_option autoImplicit false

namespace Tecs

open Effect Program TransactionContext ActionPool EngineRollback HistoryMade

namespace HistoryAgreement

/-- The database serves every call. -/
def served (_ : PoolCall) : Bool := true

/-- A function called inside so many transactions, one around the other. -/
def enclosed (p : Pool Status) : Nat → Pool Status
  | 0 => p
  | depth + 1 => do
      let _ ← Pool.begin
      let ret ← enclosed p depth
      let _ ← Pool.commit
      return ret

/-- The tables after `FinishAction`, called inside so many transactions. -/
def finishedIn (env : Process) (depth : Nat) (db : Database) (actionId : String) : Database :=
  ((enclosed (finishAction env actionId) depth).exec (S := pool) (partly served) (db, enable)).2.1

/-- The tables after these actions have been finished one after the other. -/
def finishedAll (env : Process) (db : Database) (order : List String) : Database :=
  order.foldl (finishedIn env 0) db

/-- The state and progress in the history. -/
def recorded (db : Database) (workflowId : String) : Option (Status × Int) :=
  (db.workflowHistory.find? fun h => h.workflowId == workflowId).map fun h => (h.state, h.progress)

/-- A stored workflow that is not in the history yet, with its unfinished actions in any order. -/
structure Open (db : Database) (w : WorkflowRow) (order : List String) : Prop where
  row : w ∈ db.workflow
  named : w.workflowId ≠ ""
  new : w.workflowId ∉ db.workflowHistory.map WorkflowHistory.workflowId
  tagged : ∀ id ∈ order, isActionId id = true
  order : order.Perm ((db.unfinished w.workflowId).map Action.actionId)

def AllSucceeded (db : Database) (workflowId : String) : Prop :=
  ∀ a ∈ db.actionsOf workflowId, a.state = Status.success

/-! The tables after an action is finished. -/

theorem unfinished_updateRow (id workflowId : String) (rows : List Action) :
    (((rows.map (Database.updateRow id .finish)).filter fun a =>
      a.workflowId == workflowId).filter fun a => !a.finished).map Action.actionId =
    (((rows.filter fun a => a.workflowId == workflowId).filter fun a => !a.finished).map
      Action.actionId).filter fun other => other != id := by
  induction rows with
  | nil => rfl
  | cons a rest ih =>
      by_cases same : a.actionId = id
      · have updated : Database.updateRow id .finish a =
          { a with finished := true, progress := 100 } :=
          if_pos same
        rw [List.map_cons, updated]
        by_cases owned : a.workflowId = workflowId
        · by_cases finished : a.finished = true
          · simpa [owned, finished] using ih
          · simpa [owned, finished, same] using ih
        · simpa [owned] using ih
      · have kept : Database.updateRow id .finish a = a := if_neg same
        rw [List.map_cons, kept]
        by_cases owned : a.workflowId = workflowId
        · by_cases finished : a.finished = true
          · simpa [owned, finished] using ih
          · simpa [owned, finished, same] using ih
        · simpa [owned] using ih

/-- The rows after the action with this id is finished. -/
structure Finished (db next : Database) (id : String) : Prop where
  done : db.updateAction id .finish = some next
  workflow : next.workflow = db.workflow
  history : next.workflowHistory = db.workflowHistory
  actions : next.actionPool = db.actionPool.map (Database.updateRow id .finish)

theorem finish_done (db : Database) (id : String) : ∃ next, Finished db next id := by
  obtain ⟨next, done, actions, workflow⟩ := db.updateAction_done Database.finish_checked id
  refine ⟨next, done, workflow, ?_, actions⟩
  unfold Database.updateAction at done
  split at done
  · obtain rfl := Option.some.inj done
    rfl
  · cases done

namespace Finished

variable {db next : Database} {id : String}

theorem unfinished (finished : Finished db next id) (workflowId : String) :
    (next.unfinished workflowId).map Action.actionId =
      ((db.unfinished workflowId).map Action.actionId).filter fun other => other != id := by
  unfold Database.unfinished Database.actionsOf
  rw [finished.actions]
  exact unfinished_updateRow id workflowId db.actionPool

/-- The states stay as they are. -/
theorem allSucceeded (finished : Finished db next id) (workflowId : String) :
    AllSucceeded next workflowId ↔ AllSucceeded db workflowId := by
  have state : ∀ a, (Database.updateRow id .finish a).state = a.state := by
    intro a
    unfold Database.updateRow
    split <;> rfl
  constructor
  · intro all a inside
    obtain ⟨row, owned⟩ := Database.mem_actionsOf.mp inside
    rw [← state a]
    refine all _ (Database.mem_actionsOf.mpr ⟨?_, ?_⟩)
    · rw [finished.actions]
      exact List.mem_map_of_mem row
    · rw [Database.updateRow_workflowId]
      exact owned
  · intro all a inside
    obtain ⟨row, owned⟩ := Database.mem_actionsOf.mp inside
    rw [finished.actions] at row
    obtain ⟨old, among, rfl⟩ := List.mem_map.mp row
    rw [Database.updateRow_workflowId] at owned
    rw [state]
    exact all old (Database.mem_actionsOf.mpr ⟨among, owned⟩)

theorem unfinishedIds_nodup (db : Database) (workflowId : String) :
    ((db.unfinished workflowId).map Action.actionId).Nodup :=
  db.actionKey.sublist ((List.filter_sublist.trans List.filter_sublist).map _)

/-- The next action of the order is no longer unfinished, the others are. -/
theorem opened {w : WorkflowRow} {rest : List String} (finished : Finished db next id)
    (opened : Open db w (id :: rest)) : Open next w rest where
  row := by
    rw [finished.workflow]
    exact opened.row
  named := opened.named
  new := by
    rw [finished.history]
    exact opened.new
  tagged := fun other inside => opened.tagged other (List.mem_cons_of_mem _ inside)
  order := by
    have nodup := unfinishedIds_nodup db w.workflowId
    have erased : rest.Perm (((db.unfinished w.workflowId).map Action.actionId).erase id) := by
      simpa using opened.order.erase id
    rw [nodup.erase_eq_filter] at erased
    rw [finished.unfinished]
    exact erased

end Finished

/-! What one call of `FinishAction` does. -/

theorem alone_zero : alone 0 = partly served := by
  funext c state
  cases c <;> rfl

section Calls

variable (env : Process) {db : Database} {w : WorkflowRow} {a : Action}

/-- An unfinished action of the stored workflow. -/
structure Left (db : Database) (w : WorkflowRow) (a : Action) : Prop where
  row : w ∈ db.workflow
  named : w.workflowId ≠ ""
  inside : a ∈ db.actionPool
  owned : a.workflowId = w.workflowId
  tagged : isActionId a.actionId = true
  unfinished : db.unfinished w.workflowId ≠ []

theorem Open.left {id : String} {rest : List String} (opened : Open db w (id :: rest)) :
    ∃ a, a.actionId = id ∧ Left db w a := by
  have among : id ∈ (db.unfinished w.workflowId).map Action.actionId :=
    opened.order.mem_iff.mp List.mem_cons_self
  obtain ⟨a, inside, rfl⟩ := List.mem_map.mp among
  obtain ⟨row, owned, -⟩ := Database.mem_unfinished.mp inside
  exact ⟨a, rfl, opened.row, opened.named, row, owned, opened.tagged _ List.mem_cons_self,
    List.ne_nil_of_mem inside⟩

/-- What `FinishAction` does with the number of unfinished actions. -/
def counted (actionId workflowId : String) (count : Int) : Pool Status := do
  let ret ← ActionPool.finishAction actionId
  if ret ≠ Status.success then return ret
  else if count = 1 then do
    Pool.keyValueClear
    Pool.keyValueInsert actionId workflowId
    let ret ← ActionPool.deleteWorkflow workflowId true
    Pool.keyValueClear
    return ret
  else do
    let engine ← ActionPool.getEngineOfAction actionId
    if engine = -2 then return Status.success
    else if engine < 0 then return Status.errorDbSelectFail
    else wakeupEngine env engine workflowId

theorem exec_finishAction (left : Left db w a) (ctx : TransactionContext Statement) :
    (Tecs.finishAction env a.actionId).exec (S := pool) (partly served) (db, ctx) =
      (counted env a.actionId w.workflowId (db.unfinished w.workflowId).length).exec (S := pool)
        (partly served) (db, ctx) := by
  have found : (getWorkflowIdOfAction a.actionId).exec (S := pool) (partly served) (db, ctx) =
      (w.workflowId, db, ctx) := by
    rw [← alone_zero, exec_getWorkflowIdOfAction left.inside, left.owned]
  have count : (getUnfinishedActionsCount w.workflowId).exec (S := pool) (partly served)
      (db, ctx) = (((db.unfinished w.workflowId).length : Int), db, ctx) :=
    exec_getUnfinishedActionsCount served db w.workflowId ctx
  have some : (db.unfinished w.workflowId).length ≠ 0 :=
    fun none => left.unfinished (List.length_eq_zero_iff.mp none)
  unfold Tecs.finishAction
  rw [if_neg (by simp [left.tagged]), exec_bind, found]
  dsimp only
  rw [if_neg (by simpa using left.named), exec_bind, count]
  dsimp only
  rw [if_neg (by omega), if_neg (by omega)]
  rfl

/-- Outside a transaction the action is finished at once. -/
theorem exec_finish_off {next : Database} {id : String} (finished : Finished db next id)
    {ctx : TransactionContext Statement} (off : ctx.beginCount = 0) :
    (ActionPool.finishAction id).exec (S := pool) (partly served) (db, ctx) =
      (Status.success, next, ctx) := by
  have executed : (Pool.sql (.updateAction id .finish)).exec (S := pool) (partly served) (db, ctx) =
      (sqldbOk, next, ctx) := by
    show answer true db ctx (.sql (.updateAction id .finish)) = _
    simp only [answer, issue_off _ _ off, Database.execute, finished.done, Database.settle,
      if_true]
  unfold ActionPool.finishAction update
  rw [exec_bind, executed]
  rfl

/-- Before the last action, `FinishAction` finishes the action and wakes the engine. -/
theorem finishedIn_zero {next : Database} {id other : String} {rest : List String}
    (opened : Open db w (id :: other :: rest)) (finished : Finished db next id) :
    finishedIn env 0 db id = next := by
  obtain ⟨a, rfl, left⟩ := opened.left
  have several : ((db.unfinished w.workflowId).length : Int) ≠ 1 := by
    have length := opened.order.length_eq
    simp only [List.length_cons, List.length_map] at length
    omega
  have reads : ∀ id, ((ActionPool.getEngineOfAction id).exec (S := pool) (partly served)
      (next, enable)).2 = (next, enable) := by
    intro id
    unfold ActionPool.getEngineOfAction
    rw [EngineRollback.exec_select_bind]
    cases (if served (.select (.actionEngine id)) then next.select (.actionEngine id)
      else .failed) <;> rfl
  unfold finishedIn enclosed
  rw [exec_finishAction env left]
  unfold counted
  rw [exec_bind, exec_finish_off finished rfl]
  dsimp only
  rw [if_neg (by decide), if_neg several, exec_bind, reads]
  split
  · rfl
  · split
    · rfl
    · unfold wakeupEngine
      split <;> rfl

end Calls

/-- Finishing all but the last action leaves the last one, and the states as they were. -/
theorem finishedAll_opened (env : Process) {w : WorkflowRow} {last : String}
    {front : List String} : ∀ {db : Database}, Open db w (front ++ [last]) →
      Open (finishedAll env db front) w [last] ∧
        (AllSucceeded (finishedAll env db front) w.workflowId ↔ AllSucceeded db w.workflowId) := by
  induction front with
  | nil => exact fun opened => ⟨opened, Iff.rfl⟩
  | cons id rest ih =>
      intro db opened
      obtain ⟨next, finished⟩ := finish_done db id
      have first : finishedIn env 0 db id = next := by
        cases rest with
        | nil => exact finishedIn_zero env opened finished
        | cons other rest => exact finishedIn_zero env opened finished
      have after := ih (finished.opened opened)
      rw [finished.allSucceeded] at after
      show Open (finishedAll env (finishedIn env 0 db id) rest) w [last] ∧ _
      rw [first]
      unfold finishedAll
      rw [List.foldl_cons, first]
      exact after

/-! The last action. -/

theorem recorded_archived {db later : Database} {workflowId : String} {history : WorkflowHistory}
    (new : workflowId ∉ db.workflowHistory.map WorkflowHistory.workflowId)
    (histories : later.workflowHistory = db.workflowHistory ++ [history])
    (named : history.workflowId = workflowId) :
    recorded later workflowId = some (history.state, history.progress) := by
  have old : (db.workflowHistory.find? fun h => h.workflowId == workflowId) = none := by
    refine List.find?_eq_none.mpr fun h inside same => new ?_
    exact List.mem_map.mpr ⟨h, inside, beq_iff_eq.mp same⟩
  unfold recorded
  rw [histories, List.find?_append, old]
  simp [named]

section Last

variable (env : Process) {db : Database} {w : WorkflowRow} {a : Action}

/-- `DeleteWorkflow` with the history it could make. -/
theorem exec_deleteWorkflow {ctx : TransactionContext Statement} {history : WorkflowHistory}
    (row : w ∈ db.workflow)
    (made : (makeWorkflowHistory w.workflowId (historyOf w)).exec (S := pool) (partly served)
      (db, ctx) = (.ok history, db, ctx)) :
    (ActionPool.deleteWorkflow w.workflowId true).exec (S := pool) (partly served) (db, ctx) =
      (archiveWorkflow history (deletedIds w.workflowId w.rollbackWorkflowId)).exec (S := pool)
        (partly served) (db, ctx) := by
  have found : (getWorkflowById w.workflowId).exec (S := pool) (partly served) (db, ctx) =
      (.ok w, db, ctx) := by
    unfold getWorkflowById
    rw [EngineRollback.exec_select_bind]
    simp only [served, if_true, Database.select,
      Database.workflowById_eq_some.mpr ⟨row, rfl⟩, Found.ofOption]
    rfl
  have rollback : (rollbackToDelete w.workflowId true).exec (S := pool) (partly served)
      (db, ctx) = (w.rollbackWorkflowId, db, ctx) := by
    unfold rollbackToDelete
    rw [if_pos rfl, ← alone_zero, exec_getRollbackWorkflow row]
  unfold ActionPool.deleteWorkflow
  rw [exec_bind, found]
  dsimp only
  rw [exec_bind, made]
  dsimp only
  rw [exec_bind, rollback]

/-- Outside a transaction the last action is finished when the history is made. -/
theorem recorded_direct {id : String} (opened : Open db w [id]) :
    recorded (finishedIn env 0 db id) w.workflowId = some (Status.success, 100) := by
  obtain ⟨a, rfl, left⟩ := opened.left
  obtain ⟨next, finished⟩ := finish_done db a.actionId
  have closed := finished.opened opened
  have one : ((db.unfinished w.workflowId).length : Int) = 1 := by
    have length := opened.order.length_eq
    simp only [List.length_singleton, List.length_map] at length
    omega
  have none : next.unfinished w.workflowId = [] := by
    have empty := closed.order.length_eq
    simp only [List.length_nil, List.length_map] at empty
    exact List.length_eq_zero_iff.mp empty.symm
  let kept : TransactionContext Statement :=
    { enable with keyvalue := (∅ : Std.TreeMap String String).insertIfNew a.actionId w.workflowId }
  have made_ : (makeWorkflowHistory w.workflowId (historyOf w)).exec (S := pool) (partly served)
      (next, kept) = (.ok (finishedHistory (historyOf w)), next, kept) := by
    rw [exec_makeWorkflowHistory served next w.workflowId kept _ (.inl rfl)]
    simp only [made, served, if_true, none, List.isEmpty_nil]
  obtain ⟨later, done, histories, -⟩ := executeTransaction_archiving
    (deletedIds w.workflowId w.rollbackWorkflowId)
    (show (finishedHistory (historyOf w)).workflowId ∉ _ from closed.new)
    (show (0 : Int) ≤ 100 ∧ (100 : Int) ≤ 100 by decide)
  have ended : finishedIn env 0 db a.actionId = later := by
    unfold finishedIn enclosed
    rw [exec_finishAction env left]
    unfold counted
    rw [exec_bind, exec_finish_off finished rfl]
    dsimp only
    rw [if_neg (by decide), if_pos one]
    show (((ActionPool.deleteWorkflow w.workflowId true >>= _).exec (S := pool) (partly served)
      (next, kept)).2.1 = later)
    rw [exec_bind, exec_deleteWorkflow closed.row made_,
      exec_archiveWorkflow_off served next _ _ rfl]
    show (transacted served next _).2 = later
    unfold transacted
    rw [done]
    rfl
  rw [ended, recorded_archived closed.new histories rfl]
  rfl

/-- The history that is made while the last action is finished in the transaction only. -/
def nestedHistory (db : Database) (w : WorkflowRow) (a : Action) : WorkflowHistory :=
  if a.state = Status.success then finishedHistory (historyOf w)
  else db.unfinishedHistory w.workflowId (historyOf w)

theorem nestedHistory_workflowId : (nestedHistory db w a).workflowId = w.workflowId := by
  unfold nestedHistory
  split
  · rfl
  · exact unfinishedHistory_workflowId db w.workflowId _

theorem nestedHistory_bounds :
    0 ≤ (nestedHistory db w a).progress ∧ (nestedHistory db w a).progress ≤ 100 := by
  unfold nestedHistory
  split
  · exact show (0 : Int) ≤ 100 ∧ (100 : Int) ≤ 100 by decide
  · rw [unfinishedHistory_progress]
    exact db.workflowProgress_bounds w.workflowId

theorem exec_makeWorkflowHistory_last (left : Left db w a) {ctx : TransactionContext Statement}
    (on : 0 < ctx.beginCount) (kv : ctx.keyvalue.toList = [(a.actionId, w.workflowId)]) :
    (makeWorkflowHistory w.workflowId (historyOf w)).exec (S := pool) (partly served) (db, ctx) =
      (.ok (nestedHistory db w a), db, ctx) := by
  have count : (getUnfinishedActionsCount w.workflowId).exec (S := pool) (partly served)
      (db, ctx) = (((db.unfinished w.workflowId).length : Int), db, ctx) :=
    exec_getUnfinishedActionsCount served db w.workflowId ctx
  have some : (db.unfinished w.workflowId).length ≠ 0 :=
    fun none => left.unfinished (List.length_eq_zero_iff.mp none)
  have inside : Pool.isOn.exec (S := pool) (partly served) (db, ctx) = (true, db, ctx) := by
    show (ctx.isOn, db, ctx) = _
    rw [(isOn_eq_true ctx).mpr on]
  have stashed : Pool.keyValue.exec (S := pool) (partly served) (db, ctx) =
      ([(a.actionId, w.workflowId)], db, ctx) := by
    show (ctx.keyvalue.toList, db, ctx) = _
    rw [kv]
  have read : (getActionState a.actionId).exec (S := pool) (partly served) (db, ctx) =
      (.ok a.state, db, ctx) := by
    unfold getActionState
    rw [EngineRollback.exec_select_bind]
    simp only [served, if_true, Database.select,
      Database.actionById_eq_some.mpr ⟨left.inside, rfl⟩, Option.map_some]
    rfl
  have state : (stateOfFinished w.workflowId [(a.actionId, w.workflowId)]).exec (S := pool)
      (partly served) (db, ctx) = (.ok a.state, db, ctx) := by
    unfold stateOfFinished
    rw [if_pos (by simp), exec_bind, read]
    dsimp only
    split
    · rename_i success
      rw [success]
      rfl
    · rfl
  unfold makeWorkflowHistory
  rw [exec_bind, count]
  dsimp only
  rw [if_neg (by omega), if_neg (by omega), exec_bind, inside, if_pos rfl]
  unfold makeTransactionHistory
  rw [exec_bind, stashed]
  dsimp only
  rw [if_neg (by simp), exec_bind, state]
  dsimp only
  unfold nestedHistory
  split
  · rfl
  · rw [exec_makeUnfinishedHistory served db w.workflowId ctx _ left.unfinished]
    rfl

/-- What the last `FinishAction` adds to the transaction around it. -/
def concluding (db : Database) (w : WorkflowRow) (a : Action) : List Statement :=
  .updateAction a.actionId .finish ::
    archiving (nestedHistory db w a) (deletedIds w.workflowId w.rollbackWorkflowId)

theorem exec_finishAction_on (left : Left db w a)
    (one : ((db.unfinished w.workflowId).length : Int) = 1) {ctx : TransactionContext Statement}
    (on : 0 < ctx.beginCount) :
    (Tecs.finishAction env a.actionId).exec (S := pool) (partly served) (db, ctx) =
      (Status.success, db, ⟨ctx.beginCount, ctx.sql ++ concluding db w a, ∅⟩) := by
  have issued : (ActionPool.finishAction a.actionId).exec (S := pool) (partly served) (db, ctx) =
      (Status.success, db, ctx.append (.updateAction a.actionId .finish)) := by
    unfold ActionPool.finishAction update
    rw [exec_sql_bind_on served db ctx _ _ on]
    rfl
  let kept : TransactionContext Statement :=
    { ctx.append (.updateAction a.actionId .finish) with
      keyvalue := (∅ : Std.TreeMap String String).insertIfNew a.actionId w.workflowId }
  rw [exec_finishAction env left]
  unfold counted
  rw [exec_bind, issued]
  dsimp only
  rw [if_neg (by decide), if_pos one]
  show ((ActionPool.deleteWorkflow w.workflowId true >>= _).exec (S := pool) (partly served)
    (db, kept)) = _
  rw [exec_bind, exec_deleteWorkflow left.row
    (exec_makeWorkflowHistory_last left (show 0 < kept.beginCount from on) rfl),
    exec_archiveWorkflow_on served db _ _ (show 0 < kept.beginCount from on)]
  show (Status.success, db, _) = _
  simp [kept, append, concluding]

/-- However deep, the statements end up in the outermost transaction. -/
theorem exec_enclosed {p : Pool Status} {ret : Status} {statements : List Statement}
    (inner : ∀ ctx : TransactionContext Statement, 0 < ctx.beginCount →
      p.exec (S := pool) (partly served) (db, ctx) =
        (ret, db, ⟨ctx.beginCount, ctx.sql ++ statements, ∅⟩)) (depth : Nat) :
    ∀ ctx : TransactionContext Statement, 0 < ctx.beginCount →
      (enclosed p depth).exec (S := pool) (partly served) (db, ctx) =
        (ret, db, ⟨ctx.beginCount, ctx.sql ++ statements, ∅⟩) := by
  induction depth with
  | zero => exact inner
  | succ depth ih =>
      intro ctx on
      have opened : 0 < ctx.begin.beginCount := Nat.succ_pos _
      unfold enclosed
      rw [exec_begin_bind, exec_bind, ih ctx.begin opened]
      dsimp only
      rw [exec_bind, exec_commit_nested served db _ (Nat.succ_lt_succ on), begin_nested on]
      rfl

/-- Inside transactions the last action is still unfinished when the history is made. -/
theorem recorded_nested {id : String} (opened : Open db w [id]) (depth : Nat) :
    ∃ a, db.actionById id = some a ∧
      recorded (finishedIn env (depth + 1) db id) w.workflowId =
        some ((nestedHistory db w a).state, (nestedHistory db w a).progress) := by
  obtain ⟨a, rfl, left⟩ := opened.left
  obtain ⟨next, finished⟩ := finish_done db a.actionId
  have one : ((db.unfinished w.workflowId).length : Int) = 1 := by
    have length := opened.order.length_eq
    simp only [List.length_singleton, List.length_map] at length
    omega
  have new : (nestedHistory db w a).workflowId ∉
      next.workflowHistory.map WorkflowHistory.workflowId := by
    rw [nestedHistory_workflowId, finished.history]
    exact opened.new
  obtain ⟨later, done, histories, -⟩ := executeTransaction_archiving
    (deletedIds w.workflowId w.rollbackWorkflowId) new nestedHistory_bounds
  have executed : db.executeTransaction (concluding db w a) = some later := by
    show (db.updateAction a.actionId .finish).bind _ = _
    rw [finished.done]
    exact done
  have ended : finishedIn env (depth + 1) db a.actionId = later := by
    have inner := exec_enclosed (fun ctx on => exec_finishAction_on env left one on) depth
      ⟨1, [], ∅⟩ Nat.one_pos
    unfold finishedIn enclosed
    rw [exec_begin_bind]
    show (((enclosed (Tecs.finishAction env a.actionId) depth >>= _).exec (S := pool)
      (partly served) (db, ⟨1, [], ∅⟩)).2.1 = later)
    rw [exec_bind, inner]
    dsimp only
    rw [exec_bind]
    show (transacted served db _).2 = later
    unfold transacted
    rw [List.nil_append, executed]
    rfl
  refine ⟨a, Database.actionById_eq_some.mpr ⟨left.inside, rfl⟩, ?_⟩
  rw [ended]
  refine recorded_archived ?_ histories nestedHistory_workflowId
  rw [finished.history]
  exact opened.new

end Last

/-- The same state and progress are recorded with and without transactions around the last
call, and it is a success exactly when every action has succeeded. -/
def Agrees (env : Process) (db : Database) (w : WorkflowRow) (front : List String) (last : String)
    (depth : Nat) : Prop :=
  ∃ outcome : Status × Int,
    recorded (finishedIn env 0 (finishedAll env db front) last) w.workflowId = some outcome ∧
    recorded (finishedIn env (depth + 1) (finishedAll env db front) last) w.workflowId =
      some outcome ∧
    (outcome.1 = Status.success ↔ AllSucceeded db w.workflowId)

/-- Whatever the order of the actions, the two histories agree exactly when every action has
succeeded: without a transaction they are not looked at, with one only the last is. -/
theorem histories_agree_iff (env : Process) {db : Database} {w : WorkflowRow} {front : List String}
    {last : String} (opened : Open db w (front ++ [last])) (depth : Nat) :
    Agrees env db w front last depth ↔ AllSucceeded db w.workflowId := by
  obtain ⟨before, same⟩ := finishedAll_opened env opened
  have direct := recorded_direct env before
  obtain ⟨a, read, nested⟩ := recorded_nested env before depth
  unfold Agrees
  rw [direct, nested]
  constructor
  · rintro ⟨outcome, equal, -, agrees⟩
    obtain rfl := Option.some.inj equal
    exact agrees.mp rfl
  · intro all
    obtain ⟨b, named, left⟩ := before.left
    have success : a.state = Status.success := by
      obtain ⟨inside, id⟩ := Database.actionById_eq_some.mp read
      have equal : a = b := List.inj_on_of_nodup_map (Database.actionKey _) inside left.inside
        (id.trans named.symm)
      rw [equal]
      exact same.mpr all b (Database.mem_actionsOf.mpr ⟨left.inside, left.owned⟩)
    refine ⟨(Status.success, 100), rfl, ?_, fun _ => all, fun _ => rfl⟩
    unfold nestedHistory
    rw [if_pos success]
    rfl

/-! The two-step workflow, with a last action that has failed or succeeded. -/

def reported (db : Database) (actionId : String) (ack : WorkAck) : Database :=
  (db.updateAction actionId (.ack ack)).getD db

/-- The first action has succeeded, the second one ends in this state. -/
def started (state : Status) (progress : Int) : Database :=
  reported (reported undoable "a-create" ⟨"a-create", Status.success, 100, ""⟩) "a-start"
    ⟨"a-start", state, progress, ""⟩

theorem started_opened (state : Status) (progress : Int)
    (facts : ∃ w ∈ (started state progress).workflow, w.workflowId = "w-chain" ∧
      w.workflowId ∉ (started state progress).workflowHistory.map WorkflowHistory.workflowId ∧
      ((started state progress).unfinished w.workflowId).map Action.actionId =
        ["a-create", "a-start"]) :
    ∃ w, w.workflowId = "w-chain" ∧
      Open (started state progress) w (["a-create"] ++ ["a-start"]) := by
  obtain ⟨w, row, named, new, order⟩ := facts
  refine ⟨w, named, row, ?_, new, by decide, ?_⟩
  · rw [named]
    decide
  · rw [order]
    exact .refl _

theorem agrees_succeeded : ∃ w, w.workflowId = "w-chain" ∧
    Agrees ⟨"cc", "manager", 1⟩ (started Status.success 100) w ["a-create"] "a-start" 0 := by
  obtain ⟨w, named, opened⟩ := started_opened Status.success 100 (by decide)
  refine ⟨w, named, (histories_agree_iff ⟨"cc", "manager", 1⟩ opened 0).mpr ?_⟩
  unfold AllSucceeded
  rw [named]
  decide

/-- The failure of the last action is recorded with a transaction around its `FinishAction`, and
as a success without one. -/
theorem failure_recorded_twice : ∃ w, w.workflowId = "w-chain" ∧
    Open (started Status.error 50) w (["a-create"] ++ ["a-start"]) ∧
    ¬Agrees ⟨"cc", "manager", 1⟩ (started Status.error 50) w ["a-create"] "a-start" 0 := by
  obtain ⟨w, named, opened⟩ := started_opened Status.error 50 (by decide)
  refine ⟨w, named, opened, ?_⟩
  have direct : recorded (finishedIn ⟨"cc", "manager", 1⟩ 0
      (finishedAll ⟨"cc", "manager", 1⟩ (started Status.error 50) ["a-create"]) "a-start")
      "w-chain" = some (Status.success, 100) := by decide
  have nested : recorded (finishedIn ⟨"cc", "manager", 1⟩ 1
      (finishedAll ⟨"cc", "manager", 1⟩ (started Status.error 50) ["a-create"]) "a-start")
      "w-chain" = some (Status.error, 75) := by decide
  unfold Agrees
  rw [named, direct, nested]
  rintro ⟨outcome, first, second, -⟩
  obtain rfl := Option.some.inj first
  exact absurd second (by decide)

end HistoryAgreement

end Tecs
