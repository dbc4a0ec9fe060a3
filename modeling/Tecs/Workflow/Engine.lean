import Tecs.Workflow.WorkflowApi

set_option autoImplicit false

namespace Tecs

open Effect

namespace WorkflowEngine

inductive EngineRunMode
  | cycle
  | wakeup
  | ack
deriving DecidableEq

inductive ActionState
  | ready
  | running
  | timeout
  | success
  | failed
  | paused
  | finished
deriving DecidableEq

variable (env : Process) (engine : EngineWhere)

/-- `_engine_where` of the engine with this index: the last one takes the rest. -/
def engineWhere (index : Int) : EngineWhere where
  application := env.application
  process := env.process
  engine := index
  last := index == env.numberOfEngines - 1

/-- `WORKFLOW_ENGINE_CYCLE` is 5 seconds. -/
def getRepeatCount (seconds : Int) : Int :=
  if 0 < seconds then seconds.tdiv 5 + 1 else -1

def getActionState (action : Action) : ActionState :=
  if action.workflowPaused then .paused
  else if action.finished then .finished
  else if action.progress = 100 then .success
  else if !action.synchronous && action.state ≠ Status.errorActionReady then
    if action.state = Status.success ∨ action.state = Status.errorActionRunning then .success
    else .failed
  else if action.state = Status.errorActionTimeout then .timeout
  else if action.state ≠ Status.success ∧ action.state ≠ Status.errorActionReady ∧
      action.state ≠ Status.errorActionRunning then .failed
  else if 0 < action.timeout ∧ getRepeatCount action.timeout ≤ action.historyRepeatCount then
    .timeout
  else if action.state = Status.errorActionReady then .ready
  else .running

/-- The engine's own `Wakeup`. -/
def wakeup (workflowId : String) : Pool Status := Pool.wakeup engine.engine workflowId

def finishAndWakeup (action : Action) : Pool Unit := do
  let _ ← finishAction env action.actionId
  let _ ← wakeup engine action.workflowId
  return ()

/-- Count the repetition, then send the request. -/
def repeatAndSend (action : Action) : Pool Unit := do
  let _ ← ActionPool.repeatAction action
  Pool.send (.request (ActionPool.repeated action)
    ⟨action.receiver, action.messageId, action.messagePriority, action.messageVersion⟩)

def feedbackOrFinish (action : Action) (feedback : Int) : Pool Unit :=
  if feedback ≠ 0 then
    Pool.send (.feedback action
      ⟨action.sender, action.messageAckId, action.messageAckPriority, action.messageAckVersion⟩)
  else finishAndWakeup env engine action

def skyWorkflowIdBegin : Int := 100
def evActionTimeout : Int := skyWorkflowIdBegin + 3
def evResumeWorkflowAck : Int := skyWorkflowIdBegin + 5
def evPauseWorkflowAck : Int := skyWorkflowIdBegin + 7
def evDeleteWorkflowAck : Int := skyWorkflowIdBegin + 9
def evRollbackWorkflowAck : Int := skyWorkflowIdBegin + 11

def doReady (action : Action) : Pool Status :=
  if action.skipped then do
    finishAndWakeup env engine action
    return Status.success
  else if action.rollbackActionId ≠ "" then do
    let ret ← ActionPool.setSkippedFlag action.rollbackActionId false
    if ret ≠ Status.success then return Status.errorDbUpdateFail
    else do
      repeatAndSend action
      return Status.success
  else do
    repeatAndSend action
    return Status.success

def remind (action : Action) : Pool Unit :=
  if action.skipped then finishAndWakeup env engine action else repeatAndSend action

def doRunning (action : Action) : Pool Status := do
  remind env engine action
  return Status.success

def timedOut (action : Action) : Action :=
  { action with state := Status.errorActionTimeout }

def storeTimeout (action : Action) : Pool Status :=
  if action.state ≠ Status.errorActionTimeout then
    ActionPool.updateActionState (timedOut action)
  else return Status.success

def feedbackTimeout (action : Action) : Pool Unit :=
  if action.timeoutFeedback ≠ 0 then
    Pool.send (.timeout ⟨action.actionId, action.state, action.progress, ""⟩
      ⟨action.sender, evActionTimeout, 0, 0⟩)
  else finishAndWakeup env engine action

def doTimeout (action : Action) : Pool Status := do
  let _ ← storeTimeout action
  feedbackTimeout env engine (timedOut action)
  return Status.success

def doAction (action : Action) (runmode : EngineRunMode) : Pool Status :=
  let actionState := getActionState action
  -- a woken engine takes only ready actions, an acknowledgement never leads to a request
  if runmode = .wakeup ∧ actionState ≠ .ready then return Status.success
  else if runmode = .ack ∧ (actionState = .ready ∨ actionState = .running) then
    return Status.success
  else match actionState with
    | .ready => doReady env engine action
    | .running => doRunning env engine action
    | .success => do
        feedbackOrFinish env engine action action.successFeedback
        return Status.success
    | .failed => do
        feedbackOrFinish env engine action action.failureFeedback
        return Status.success
    | .timeout => doTimeout env engine action
    | .paused => return Status.success
    | .finished => return Status.success

def runAction (runmode : EngineRunMode) (actionId : String) : Pool Unit := do
  match ← ActionPool.getAction actionId with
  | .error _ => return ()
  | .ok action =>
      if action.workflowPaused ≠ true ∧ action.finished ≠ true then do
        let _ ← doAction env engine action runmode
        return ()
      else return ()

def runActions (runmode : EngineRunMode) : List String → Pool Unit
  | [] => return ()
  | actionId :: rest => do
      runAction env engine runmode actionId
      runActions runmode rest

def run (workflowId : String) : Pool Int := do
  match ← ActionPool.getRunningActions engine workflowId with
  | .error _ => return -1
  | .ok runningActions => do
      runActions env engine (if workflowId == "" then .cycle else .wakeup) runningActions
      return runningActions.length

def rollback (workflowId : String) : Pool Status :=
  if workflowId == "" then return Status.errorInvalidArgument
  else do
    let rollbackWorkflowId ← ActionPool.getRollbackWorkflow workflowId
    if rollbackWorkflowId == "" then return Status.errorNotSupport
    else do
      let _ ← Pool.begin
      let _ ← ActionPool.deleteWorkflow workflowId false
      let _ ← ActionPool.setWorkflowPauseFlag rollbackWorkflowId false
      let ret ← Pool.commit
      if ret ≠ Status.success then return ret
      else wakeup engine rollbackWorkflowId

/-- The action after an acknowledgement; a failure that is retried counts as running. -/
def acknowledged (action : Action) (ack : WorkAck) (option : MessageOption) : Action :=
  { action with
    messageAckId := option.id
    messageAckPriority := option.priority
    messageAckVersion := option.version
    progress := ack.progress
    messageAck := ack
    state :=
      if ack.state ≠ Status.success ∧ ack.state ≠ Status.errorActionRunning ∧
          action.messageReq.retry = true then Status.errorActionRunning
      else ack.state }

/-- The acknowledgement of an agent. -/
def acknowledge (ack : WorkAck) (option : MessageOption) : Pool Unit :=
  if !ack.validate then return ()
  else if (ack.progress ≠ 100 ∧ ack.state = Status.success) ∨
      (ack.progress = 100 ∧ ack.state ≠ Status.success) then return ()
  else do
    match ← ActionPool.getRunningAction engine ack.actionId with
    | .error _ => return ()
    | .ok action =>
        if getActionState action ≠ .running ∧ getActionState action ≠ .ready then return ()
        else do
          let _ ← ActionPool.updateActionState (acknowledged action ack option)
          let _ ← doAction env engine (acknowledged action ack option) .ack
          return ()

/-- `MessageEntry` for the messages the engine is sent by its users and by itself. -/
def messageEntry (event : EngineEvent) (workflowId sender : String) : Pool Unit := do
  match event with
  | .powerOn =>
      let _ ← ActionPool.deleteFinishedWorkflow engine
      let _ ← run env engine ""
      return ()
  | .wakeup =>
      let _ ← run env engine workflowId
      return ()
  | .actionTimer =>
      let _ ← run env engine ""
      return ()
  | .resumeWorkflow =>
      let ret ← ActionPool.setWorkflowPauseFlag workflowId false
      let _ ← wakeup engine workflowId
      Pool.send (.result ret ⟨sender, evResumeWorkflowAck, 0, 0⟩)
  | .pauseWorkflow =>
      let ret ← ActionPool.setWorkflowPauseFlag workflowId true
      Pool.send (.result ret ⟨sender, evPauseWorkflowAck, 0, 0⟩)
      let _ ← wakeup engine ""
      return ()
  | .deleteWorkflow =>
      let ret ← ActionPool.deleteWorkflow workflowId true
      Pool.send (.result ret ⟨sender, evDeleteWorkflowAck, 0, 0⟩)
      let _ ← wakeup engine ""
      return ()
  | .rollbackWorkflow =>
      let ret ← rollback engine workflowId
      Pool.send (.result ret ⟨sender, evRollbackWorkflowAck, 0, 0⟩)
      let _ ← wakeup engine ""
      return ()

end WorkflowEngine

end Tecs
