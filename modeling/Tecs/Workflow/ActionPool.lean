import Tecs.Dbs.Transaction
import Tecs.Library.Program
import Tecs.Workflow.PoolTables
import Tecs.Workflow.ValidateSequence

set_option autoImplicit false

namespace Tecs

open Effect

/-- The selection clause `_engine_where` of an engine. -/
structure EngineWhere where
  application : String
  process : String
  engine : Int
  last : Bool
deriving DecidableEq

def EngineWhere.covers (e : EngineWhere) (w : WorkflowRow) : Bool :=
  w.application == e.application && w.process == e.process &&
    if e.last then decide (e.engine ≤ w.engine) else w.engine == e.engine

/-- What `SelectFailedActionCallback` reads. -/
structure FailedAction where
  category : String
  name : String
  state : Status
  messageAck : WorkAck

/-- The SELECT statements of the modelled functions. -/
inductive Query
  | workflowById (workflowId : String)
  | rollbackWorkflow (workflowId : String)
  | workflowEngine (workflowId : String)
  | unfinishedCount (workflowId : String)
  | workflowProgress (workflowId : String)
  | historyProgress (workflowId : String)
  | failedAction (workflowId : String)
  | finishedWorkflows (engine : EngineWhere)
  | action (actionId : String)
  | actionState (actionId : String)
  | actionWorkflow (actionId : String)
  | actionEngine (actionId : String)
  | actionFinished (actionId : String)
  | runningActions (engine : EngineWhere) (workflowId : String)
  | runningAction (engine : EngineWhere) (actionId : String)
deriving DecidableEq

@[reducible] def Query.Value : Query → Type
  | workflowById _ => WorkflowRow
  | rollbackWorkflow _ => String
  | workflowEngine _ => Int
  | unfinishedCount _ => Int
  | workflowProgress _ => Int
  | historyProgress _ => Int
  | failedAction _ => FailedAction
  | finishedWorkflows _ => List String
  | action _ => Action
  | actionState _ => Status
  | actionWorkflow _ => String
  | actionEngine _ => Int
  | actionFinished _ => Bool
  | runningActions _ _ => List String
  | runningAction _ _ => List String

def sqldbOk : Int := 0
def sqldbError : Int := -1

/-- What a SELECT leaves: an SQL error, `SQLDB_RESULT_EMPTY`, or what the callback stored. -/
inductive Found (α : Type)
  | failed
  | empty
  | value (row : α)

def Found.ofOption {α : Type} : Option α → Found α
  | none => .empty
  | some row => .value row

def Found.ofRows {α : Type} (rows : List α) : Found (List α) :=
  if rows.isEmpty then .empty else .value rows

def Database.actionById (db : Database) (actionId : String) : Option Action :=
  db.actionPool.find? fun a => a.actionId == actionId

def Database.workflowById (db : Database) (workflowId : String) : Option WorkflowRow :=
  db.workflow.find? fun w => w.workflowId == workflowId

private theorem find?_key {α : Type} {key : α → String} {rows : List α} {id : String} {row : α}
    (keys : (rows.map key).Nodup) :
    (rows.find? fun x => key x == id) = some row ↔ row ∈ rows ∧ key row = id := by
  constructor
  · intro found
    exact ⟨List.mem_of_find?_eq_some found, by simpa using List.find?_some found⟩
  · rintro ⟨inside, named⟩
    have some : (rows.find? fun x => key x == id).isSome :=
      List.find?_isSome.mpr ⟨row, inside, by simpa using named⟩
    obtain ⟨other, found⟩ := Option.isSome_iff_exists.mp some
    have same : key other = id := by simpa using List.find?_some found
    rw [found, List.inj_on_of_nodup_map keys (List.mem_of_find?_eq_some found) inside
      (same.trans named.symm)]

theorem Database.actionById_eq_some {db : Database} {actionId : String} {a : Action} :
    db.actionById actionId = some a ↔ a ∈ db.actionPool ∧ a.actionId = actionId :=
  find?_key db.actionKey

theorem Database.workflowById_eq_some {db : Database} {workflowId : String} {w : WorkflowRow} :
    db.workflowById workflowId = some w ↔ w ∈ db.workflow ∧ w.workflowId = workflowId :=
  find?_key db.workflowKey

theorem Database.workflowOf_eq_some {db : Database} {a : Action} {w : WorkflowRow} :
    db.workflowOf a = some w ↔ w ∈ db.workflow ∧ w.workflowId = a.workflowId :=
  find?_key db.workflowKey

/-- The callback is called for every row, so the last one stays. -/
def Database.failedAction (db : Database) (workflowId : String) : Option FailedAction :=
  let failed := (db.unfinished workflowId).filter fun a =>
    a.state != Status.success && a.state != Status.errorActionReady &&
      a.state != Status.errorActionRunning
  failed.getLast?.map fun a => ⟨a.category, a.name, a.state, a.messageAck⟩

/-- A workflow with actions, all of them finished. -/
def Database.isFinished (db : Database) (workflowId : String) : Bool :=
  !(db.actionsOf workflowId).isEmpty && (db.unfinished workflowId).isEmpty

def Database.select (db : Database) : (q : Query) → Found q.Value
  | .workflowById workflowId => .ofOption (db.workflowById workflowId)
  | .rollbackWorkflow workflowId =>
      .ofOption ((db.workflowById workflowId).map WorkflowRow.rollbackWorkflowId)
  | .workflowEngine workflowId => .ofOption ((db.workflowById workflowId).map WorkflowRow.engine)
  | .unfinishedCount workflowId => .value ((db.unfinished workflowId).length : Int)
  | .workflowProgress workflowId =>
      if (db.actionsOf workflowId).isEmpty then .empty else .value (db.workflowProgress workflowId)
  | .historyProgress workflowId =>
      .ofOption ((db.workflowHistory.find? fun h => h.workflowId == workflowId).map
        WorkflowHistory.progress)
  | .failedAction workflowId => .ofOption (db.failedAction workflowId)
  | .finishedWorkflows engine =>
      .ofRows ((db.workflow.filter fun w => engine.covers w && db.isFinished w.workflowId).map
        WorkflowRow.workflowId)
  | .action actionId =>
      .ofOption ((db.workflowActions.find? fun row => row.1.actionId == actionId).map Prod.fst)
  | .actionState actionId => .ofOption ((db.actionById actionId).map Action.state)
  | .actionWorkflow actionId => .ofOption ((db.actionById actionId).map Action.workflowId)
  | .actionEngine actionId =>
      .ofOption ((db.workflowActions.find? fun row => row.1.actionId == actionId).map
        (WorkflowRow.engine ∘ Prod.snd))
  | .actionFinished actionId => .ofOption ((db.actionById actionId).map Action.finished)
  | .runningActions engine workflowId =>
      .ofRows ((db.runningActions.filter fun row => engine.covers row.2 &&
        (workflowId == "" || row.2.workflowId == workflowId)).map (Action.actionId ∘ Prod.fst))
  | .runningAction engine actionId =>
      .ofRows ((db.runningActions.filter fun row => engine.covers row.2 &&
        row.1.actionId == actionId).map (Action.actionId ∘ Prod.fst))

/-- The joined row of an action that is found by its id. -/
theorem Database.workflowActions_find {tables : Database} {id : String}
    {found : Action × WorkflowRow}
    (read : (tables.workflowActions.find? fun row => row.1.actionId == id) = some found) :
    ∃ row ∈ tables.actionPool, row.actionId = id ∧ found.2 ∈ tables.workflow ∧
      found.2.workflowId = row.workflowId := by
  have same := List.find?_some read
  obtain ⟨row, inside, joined⟩ := List.mem_filterMap.mp (List.mem_of_find?_eq_some read)
  obtain ⟨v, owner, rfl⟩ := Option.map_eq_some_iff.mp joined
  obtain ⟨stored, owns⟩ := Database.workflowOf_eq_some.mp owner
  exact ⟨row, inside, beq_iff_eq.mp same, stored, owns⟩

theorem Database.select_actionEngine {db : Database} {a : Action} {w : WorkflowRow}
    (inside : a ∈ db.actionPool)
    (row : w ∈ db.workflow) (owned : a.workflowId = w.workflowId) :
    db.select (.actionEngine a.actionId) = .value w.engine := by
  have joined : (Database.joined a w, w) ∈ db.workflowActions :=
    List.mem_filterMap.mpr ⟨a, inside, by
      rw [Database.workflowOf_eq_some.mpr ⟨row, owned.symm⟩]
      rfl⟩
  have some : (db.workflowActions.find? fun row => row.1.actionId == a.actionId).isSome :=
    List.find?_isSome.mpr ⟨_, joined, by simp [Database.joined]⟩
  obtain ⟨found, read⟩ := Option.isSome_iff_exists.mp some
  obtain ⟨b, among, named, stored, owns⟩ := Database.workflowActions_find read
  have same : b = a := List.inj_on_of_nodup_map db.actionKey among inside named
  have equal : found.2 = w := by
    refine List.inj_on_of_nodup_map db.workflowKey stored row ?_
    rw [owns, same, owned]
  simp only [Database.select, read, Option.map_some, Function.comp_apply, equal, Found.ofOption]

structure MessageOption where
  receiver : String
  id : Int
  priority : Int
  version : Int

/-- The messages an engine sends: the request of an action, the answer of its agent
passed on, or a timeout. -/
inductive Message
  | request (action : Action) (option : MessageOption)
  | feedback (action : Action) (option : MessageOption)
  | timeout (ack : WorkAck) (option : MessageOption)
  | result (ret : Status) (option : MessageOption)

/-- The messages an engine handles, acknowledgements of agents apart. -/
inductive EngineEvent
  | powerOn
  | wakeup
  | actionTimer
  | resumeWorkflow
  | pauseWorkflow
  | deleteWorkflow
  | rollbackWorkflow
deriving DecidableEq

/-- The calls of the workflow code: queries, `SqlCommand`s with the transaction option, the
thread's transaction, and messages. -/
inductive PoolCall
  | select (query : Query)
  | sql (statement : Statement)
  | transactionBegin
  | transactionOn
  | transactionCommit
  | transactionCancel
  | keyValue
  | keyValueClear
  | keyValueInsert (key value : String)
  | alternateEngine
  | wakeup (engine : Int) (workflowId : String)
  | request (engine : Int) (event : EngineEvent) (workflowId : String)
  | isLockWorkflow (workflowId : String)
  | send (message : Message)

@[reducible] def PoolCall.Reply : PoolCall → Type
  | select query => Found query.Value
  | sql _ => Int
  | transactionBegin => Status
  | transactionOn => Bool
  | transactionCommit => Status
  | transactionCancel => Status
  | keyValue => List (String × String)
  | keyValueClear => Unit
  | keyValueInsert _ _ => Unit
  | alternateEngine => Int
  | wakeup _ _ => Status
  | request _ _ _ => Status
  | isLockWorkflow _ => Bool
  | send _ => Unit

abbrev pool : Signature := ⟨PoolCall, PoolCall.Reply⟩

abbrev Pool := Program pool

namespace Pool

def select (query : Query) : Pool (Found query.Value) := Program.perform (S := pool) (.select query)
def sql (statement : Statement) : Pool Int := Program.perform (S := pool) (.sql statement)
def begin : Pool Status := Program.perform (S := pool) .transactionBegin
def isOn : Pool Bool := Program.perform (S := pool) .transactionOn
def commit : Pool Status := Program.perform (S := pool) .transactionCommit
def cancel : Pool Status := Program.perform (S := pool) .transactionCancel
def keyValue : Pool (List (String × String)) := Program.perform (S := pool) .keyValue
def keyValueClear : Pool Unit := Program.perform (S := pool) .keyValueClear
def keyValueInsert (key value : String) : Pool Unit :=
  Program.perform (S := pool) (.keyValueInsert key value)
def alternateEngine : Pool Int := Program.perform (S := pool) .alternateEngine
def wakeup (engine : Int) (workflowId : String) : Pool Status :=
  Program.perform (S := pool) (.wakeup engine workflowId)
/-- Send to an engine and wait for its answer. -/
def request (engine : Int) (event : EngineEvent) (workflowId : String) : Pool Status :=
  Program.perform (S := pool) (.request engine event workflowId)
def isLockWorkflow (workflowId : String) : Pool Bool :=
  Program.perform (S := pool) (.isLockWorkflow workflowId)
def send (message : Message) : Pool Unit := Program.perform (S := pool) (.send message)

end Pool

/-- A call that does not look at the return value. -/
def discard {α : Type} (p : Pool α) : Pool Unit := do
  let _ ← p
  return ()

/-- The application and process a pool was initialised with, and `number_of_engines`. -/
structure Process where
  application : String
  process : String
  numberOfEngines : Int

namespace ActionPool

open Pool

def getWorkflowIdOfAction (actionId : String) : Pool String := do
  match ← select (.actionWorkflow actionId) with
  | .value workflowId => return workflowId
  | _ => return ""

def getUnfinishedActionsCount (workflowId : String) : Pool Int := do
  match ← select (.unfinishedCount workflowId) with
  | .value count => return count
  | _ => return -1

def getActionState (actionId : String) : Pool (Except Status Status) := do
  match ← select (.actionState actionId) with
  | .failed => return .error Status.errorDbSelectFail
  | .empty => return .error Status.errorObjectNotExist
  | .value state => return .ok state

def getWorkflowProgress (workflowId : String) : Pool Int := do
  match ← select (.workflowProgress workflowId) with
  | .value progress => return progress
  | _ => return -1

/-- `GetRollbackWorkflow` of one argument: the column, also for a rollback workflow. -/
def getRollbackWorkflow (workflowId : String) : Pool String := do
  match ← select (.rollbackWorkflow workflowId) with
  | .value rollbackWorkflowId => return rollbackWorkflowId
  | _ => return ""

def getWorkflowById (workflowId : String) : Pool (Except Status WorkflowRow) := do
  match ← select (.workflowById workflowId) with
  | .failed => return .error Status.errorDbSelectFail
  | .empty => return .error Status.errorObjectNotExist
  | .value row => return .ok row

def getEngineOfAction (actionId : String) : Pool Int := do
  match ← select (.actionEngine actionId) with
  | .failed => return -1
  | .empty => return -2
  | .value engine => return engine

def getEngineOfWorkflow (workflowId : String) : Pool Int := do
  match ← select (.workflowEngine workflowId) with
  | .failed => return -1
  | .empty => return -2
  | .value engine => return engine

def getAction (actionId : String) : Pool (Except Status Action) :=
  if actionId == "" then return .error Status.errorInvalidArgument
  else do
    match ← select (.action actionId) with
    | .failed => return .error Status.errorDbSelectFail
    | .empty => return .error Status.errorObjectNotExist
    | .value action => return .ok action

def getRunningAction (engine : EngineWhere) (actionId : String) : Pool (Except Status Action) := do
  match ← select (.runningAction engine actionId) with
  | .failed => return .error Status.errorDbSelectFail
  | .empty => return .error Status.errorObjectNotExist
  | .value actions =>
      if actions.head? = some actionId then getAction actionId else return .error Status.error

def getRunningActions (engine : EngineWhere) (workflowId : String) :
    Pool (Except Status (List String)) := do
  match ← select (.runningActions engine workflowId) with
  | .failed => return .error Status.errorDbSelectFail
  | .empty => return .ok []
  | .value actions => return .ok actions

def isActionFinished (actionId : String) : Pool Bool := do
  match ← select (.actionFinished actionId) with
  | .empty => return true
  | .failed => return false
  | .value finished => return finished

/-- An UPDATE of `action_pool` or `workflow`. -/
def update (statement : Statement) : Pool Status := do
  let ret ← sql statement
  return if ret = sqldbOk then Status.success else Status.errorDbUpdateFail

def finishAction (actionId : String) : Pool Status := update (.updateAction actionId .finish)

def setSkippedFlag (actionId : String) (skipped : Bool) : Pool Status :=
  update (.updateAction actionId (.skipped skipped))

def setWorkflowPauseFlag (workflowId : String) (flag : Bool) : Pool Status :=
  update (.updatePaused workflowId flag)

def restartAction (actionId : String) : Pool Status := do
  if ← isActionFinished actionId then return Status.errorPermissionDenied
  else update (.updateAction actionId .restart)

def updateActionAck (actionId : String) (messageAck : WorkAck) : Pool Status :=
  update (.updateAction actionId (.ack messageAck))

def updateActionState (action : Action) : Pool Status := do
  match ← getAction action.actionId with
  | .error ret => return ret
  | .ok _ => update (.updateAction action.actionId (.state action))

/-- The action with one more repetition. -/
def repeated (action : Action) : Action :=
  { action with historyRepeatCount := action.historyRepeatCount + 1 }

def repeatAction (action : Action) : Pool Status :=
  update (.updateAction action.actionId (.historyRepeatCount (repeated action).historyRepeatCount))

/-! The history of a workflow. -/

def historyOf (w : WorkflowRow) : WorkflowHistory where
  workflowId := w.workflowId
  rollbackWorkflowId := w.rollbackWorkflowId
  category := w.category
  name := w.name
  application := w.application
  process := w.process
  state := Status.success
  detail := ""
  progress := 0
  failedActionCategory := ""
  failedActionName := ""
  upstreamSender := w.upstreamSender
  upstreamActionId := w.upstreamActionId
  originator := w.originator

def finishedHistory (history : WorkflowHistory) : WorkflowHistory :=
  { history with state := Status.success, detail := "workflow is finished.", progress := 100 }

/-- The loop over `kv`: it stops at the first action of the workflow that has not succeeded. -/
def stateOfFinished (workflowId : String) : List (String × String) → Pool (Except Status Status)
  | [] => return .ok Status.success
  | (actionId, owner) :: kv =>
      if owner == workflowId then do
        match ← getActionState actionId with
        | .error _ => return .error Status.errorDbSelectFail
        | .ok state =>
            if state = Status.success then stateOfFinished workflowId kv else return .ok state
      else stateOfFinished workflowId kv

def failedHistory (history : WorkflowHistory) (found : FailedAction) : WorkflowHistory :=
  { history with
    failedActionCategory := found.category
    failedActionName := found.name
    state := found.state
    detail :=
      if found.state = Status.errorActionTimeout then
        "action " ++ found.category ++ ":" ++ found.name ++ " timeout!"
      else found.messageAck.detail }

def cancelledHistory (history : WorkflowHistory) : WorkflowHistory :=
  { history with state := Status.errorActionCancelled, detail := "workflow is cancelled." }

/-- The part of `MakeWorkflowHistory` for a workflow that is failed or cancelled. -/
def makeUnfinishedHistory (workflowId : String) (history : WorkflowHistory) :
    Pool (Except Status WorkflowHistory) := do
  let progress ← getWorkflowProgress workflowId
  if progress < 0 then return .error Status.errorDbSelectFail
  else do
    match ← select (.failedAction workflowId) with
    | .failed => return .error Status.errorDbSelectFail
    | .empty => return .ok (cancelledHistory { history with progress := progress })
    | .value found => return .ok (failedHistory { history with progress := progress } found)

/-- Inside a transaction the last action may be finished without being stored yet. -/
def makeTransactionHistory (workflowId : String) (history : WorkflowHistory) :
    Pool (Except Status WorkflowHistory) := do
  let kv ← keyValue
  if kv.isEmpty then makeUnfinishedHistory workflowId history
  else do
    match ← stateOfFinished workflowId kv with
    | .error ret => return .error ret
    | .ok state =>
        if state = Status.success then return .ok (finishedHistory history)
        else makeUnfinishedHistory workflowId history

def makeWorkflowHistory (workflowId : String) (history : WorkflowHistory) :
    Pool (Except Status WorkflowHistory) := do
  let count ← getUnfinishedActionsCount workflowId
  if count < 0 then return .error Status.errorDbSelectFail
  else if count = 0 then return .ok (finishedHistory history)
  else do
    if ← isOn then makeTransactionHistory workflowId history
    else makeUnfinishedHistory workflowId history

def saveWorkflowHistory (history : WorkflowHistory) : Pool Status := do
  let ret ← sql (.insertHistory history)
  if ret = sqldbOk then do
    let ret ← sql (.insertLabelsHistory history.workflowId)
    return if ret = sqldbOk then Status.success else Status.errorDbInsertFail
  else return Status.errorDbInsertFail

/-- The ids the DELETE of `DeleteWorkflow` matches. -/
def deletedIds (workflowId rollbackWorkflowId : String) : List String :=
  if rollbackWorkflowId == "" then [workflowId] else [workflowId, rollbackWorkflowId]

/-- The transaction of `DeleteWorkflow`. -/
def archiveWorkflow (history : WorkflowHistory) (workflowIds : List String) : Pool Status := do
  let _ ← begin
  let saved ← saveWorkflowHistory history
  if saved = Status.success then do
    let ret ← sql (.deleteWorkflow workflowIds)
    if ret = sqldbOk then commit
    else do
      let _ ← cancel
      return Status.errorDbDeleteFail
  else do
    let _ ← cancel
    return saved

/-- The rollback workflow that is deleted as well. -/
def rollbackToDelete (workflowId : String) (withRollback : Bool) : Pool String :=
  if withRollback then getRollbackWorkflow workflowId else return ""

def deleteWorkflow (workflowId : String) (withRollback : Bool) : Pool Status := do
  match ← getWorkflowById workflowId with
  | .error _ => return Status.errorObjectNotExist
  | .ok row => do
      match ← makeWorkflowHistory workflowId (historyOf row) with
      | .error ret => return ret
      | .ok history => do
          let rollbackWorkflowId ← rollbackToDelete workflowId withRollback
          archiveWorkflow history (deletedIds workflowId rollbackWorkflowId)

def deleteAll : List String → Pool Unit
  | [] => return ()
  | workflowId :: rest => do
      let _ ← deleteWorkflow workflowId true
      deleteAll rest

def deleteFinishedWorkflow (engine : EngineWhere) : Pool Status := do
  match ← select (.finishedWorkflows engine) with
  | .empty => return Status.success
  | .failed => return Status.errorDbSelectFail
  | .value finished => do
      deleteAll finished
      return Status.success

end ActionPool

end Tecs
