import Tecs.Workflow.ActionPool

set_option autoImplicit false

namespace Tecs

open Effect

variable (env : Process)

/-! Engines are addressed by their index in `engines`. -/

def getAvailableEngine : Pool Int := do
  let alternate ← Pool.alternateEngine
  return alternate.tmod env.numberOfEngines

def wakeupEngine (engineIndex : Int) (workflowId : String) : Pool Status :=
  if engineIndex < 0 ∨ engineIndex > env.numberOfEngines then
    return Status.errorInvalidArgument
  else Pool.wakeup engineIndex workflowId

def getWorkflow (actionId : String) : Pool (Except Status String) :=
  if isActionId actionId then do
    let workflowId ← ActionPool.getWorkflowIdOfAction actionId
    return if workflowId == "" then .error Status.errorInvalidArgument else .ok workflowId
  else return .ok actionId

def getWorkflowAndEngine (actionId : String) : Pool (Except Status (String × Int)) := do
  match ← getWorkflow actionId with
  | .error ret => return .error ret
  | .ok workflowId => do
      let engineIndex ← ActionPool.getEngineOfWorkflow workflowId
      return if engineIndex < 0 then
        .error (if engineIndex = -2 then Status.errorObjectNotExist else Status.error)
      else if engineIndex > env.numberOfEngines - 1 then
        .ok (workflowId, env.numberOfEngines - 1)
      else .ok (workflowId, engineIndex)

/-! Storing workflows. -/

/-- What `CreateWorkflow` sets in a workflow and its actions before it validates them. -/
def Workflow.assign (w : Workflow) (engine : Int) : Workflow :=
  { w with
    engine := engine
    actions := w.actions.map fun a =>
      { a with workflowEngine := engine, workflowId := w.workflowId }
    distinct := by
      rw [List.map_map]
      exact w.distinct
    joined := by
      rw [List.map_map]
      exact w.joined }

def Workflow.row (w : Workflow) : WorkflowRow where
  workflowId := w.workflowId
  rollbackWorkflowId := w.rollbackWorkflowId
  category := w.category
  name := w.name
  application := env.application
  process := env.process
  engine := w.engine
  paused := w.paused
  upstreamSender := w.upstreamSender
  upstreamActionId := w.upstreamActionId
  originator := w.originator

/-- `InsertWorkflow` and one `InsertAction` for each action. -/
def Workflow.insertRows (w : Workflow) : List Statement :=
  .insertWorkflow (w.row env) :: w.actions.map .insertAction

def Workflow.insertSequences (w : Workflow) : List Statement :=
  w.sequences.map .insertSequence

/-- The inserts do not look at their return codes. -/
def insertAll : List Statement → Pool Unit
  | [] => return ()
  | statement :: rest => do
      let _ ← Pool.sql statement
      insertAll rest

/-- The transaction that stores workflows, and the wake-up of their engine. -/
def storeAndWakeup (statements : List Statement) (engine : Int) (workflowId : String) :
    Pool Status := do
  let _ ← Pool.begin
  insertAll statements
  let ret ← Pool.commit
  if ret = Status.success then wakeupEngine env engine workflowId else return ret

/-- `CreateWorkflow` of one action; the workflow around it gets a new id. -/
def createActionWorkflow (action : Action) (workflowId : String) : Pool Status := do
  let engine ← getAvailableEngine env
  let a := { action with workflowId := workflowId, workflowEngine := engine }
  let w := { (Workflow.init action.category action.name workflowId).addAction a with
    engine := engine }
  if a.validate then storeAndWakeup env (w.insertRows env) w.engine w.workflowId
  else return Status.errorInvalidArgument

def createWorkflow (workflow : Workflow) : Pool Status :=
  if workflow.actions.isEmpty then return Status.errorInvalidArgument
  else do
    let engine ← getAvailableEngine env
    let w := workflow.assign engine
    if w.actions.all Action.validate && w.validate then
      storeAndWakeup env (w.insertRows env ++ w.insertSequences) w.engine w.workflowId
    else return Status.errorInvalidArgument

/-- What `CreateWorkflow` sets in the rollback workflow. -/
def Workflow.asRollbackOf (rollback workflow : Workflow) : Workflow :=
  { rollback with
    paused := true
    rollbackWorkflowId := "rollbackof:" ++ workflow.workflowId
    upstreamActionId :=
      if rollback.upstreamActionId == "" then workflow.upstreamActionId
      else rollback.upstreamActionId
    upstreamSender :=
      if rollback.upstreamSender == "" then workflow.upstreamSender else rollback.upstreamSender
    originator := workflow.originator }

def Workflow.withRollback (workflow rollback : Workflow) : Workflow :=
  { workflow with rollbackWorkflowId := rollback.workflowId }

def createWorkflowWithRollback (workflow rollback : Workflow) : Pool Status :=
  if workflow.actions.isEmpty || rollback.actions.isEmpty then
    return Status.errorInvalidArgument
  else do
    let engine ← getAvailableEngine env
    let w := (workflow.withRollback rollback).assign engine
    let r := (rollback.asRollbackOf workflow).assign engine
    if r.actions.all Action.validate && r.validate && w.actions.all Action.validate &&
        w.validate then
      storeAndWakeup env
        (w.insertRows env ++ r.insertRows env ++ r.insertSequences ++ w.insertSequences)
        w.engine w.workflowId
    else return Status.errorInvalidArgument

/-! The functions users call on a stored workflow. -/

def finishAction (actionId : String) : Pool Status :=
  if !isActionId actionId then return Status.errorInvalidArgument
  else do
    let workflowId ← ActionPool.getWorkflowIdOfAction actionId
    if workflowId == "" then return Status.errorDbSelectFail
    else do
      -- the number of unfinished actions is read before this one is finished
      let count ← ActionPool.getUnfinishedActionsCount workflowId
      if count < 0 then return Status.errorDbSelectFail
      else if count = 0 then return Status.success
      else do
        let ret ← ActionPool.finishAction actionId
        if ret ≠ Status.success then return ret
        else if count = 1 then do
          Pool.keyValueClear
          Pool.keyValueInsert actionId workflowId
          let ret ← ActionPool.deleteWorkflow workflowId true
          Pool.keyValueClear
          return ret
        else do
          let engine ← ActionPool.getEngineOfAction actionId
          if engine = -2 then return Status.success
          else if engine < 0 then return Status.errorDbSelectFail
          else wakeupEngine env engine workflowId

def restartAction (actionId : String) : Pool Status :=
  if !isActionId actionId then return Status.errorInvalidArgument
  else do
    let ret ← ActionPool.restartAction actionId
    if ret ≠ Status.success then return ret
    else do
      let engine ← ActionPool.getEngineOfAction actionId
      if engine < 0 then return Status.errorDbSelectFail
      else do
        let workflowId ← ActionPool.getWorkflowIdOfAction actionId
        if workflowId == "" then return Status.errorDbSelectFail
        else wakeupEngine env engine workflowId

def updateActionAck (actionId : String) (messageAck : WorkAck) : Pool Status :=
  if !isActionId actionId then return Status.errorInvalidArgument
  else do
    if ← ActionPool.isActionFinished actionId then return Status.errorNotPermitted
    else ActionPool.updateActionAck actionId messageAck

def pauseWorkflow (actionId : String) : Pool Status := do
  match ← getWorkflowAndEngine env actionId with
  | .error ret => return ret
  | .ok (workflowId, engineIndex) => Pool.request engineIndex .pauseWorkflow workflowId

def resumeWorkflow (actionId : String) : Pool Status := do
  match ← getWorkflowAndEngine env actionId with
  | .error ret => return ret
  | .ok (workflowId, engineIndex) => Pool.request engineIndex .resumeWorkflow workflowId

def deleteWorkflow (actionId : String) : Pool Status := do
  match ← getWorkflowAndEngine env actionId with
  | .error ret => return ret
  | .ok (workflowId, engineIndex) => do
      if ← Pool.isLockWorkflow workflowId then return Status.errorOpRunning
      else Pool.request engineIndex .deleteWorkflow workflowId

def rollbackWorkflow (actionId : String) : Pool Status := do
  match ← getWorkflowAndEngine env actionId with
  | .error ret => return ret
  | .ok (workflowId, engineIndex) => do
      if ← Pool.isLockWorkflow workflowId then return Status.errorOpRunning
      else do
        let rollbackWorkflowId ← ActionPool.getRollbackWorkflow workflowId
        if rollbackWorkflowId == "" then return Status.errorNotSupport
        else Pool.request engineIndex .rollbackWorkflow workflowId

end Tecs
