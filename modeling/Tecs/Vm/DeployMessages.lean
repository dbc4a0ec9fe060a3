import Tecs.Library.Run
import Tecs.Sky.Errcode

set_option autoImplicit false

/-! Deploy messages and what becomes of their machines. -/

namespace Tecs.Vm

open Transition

section Definitions

inductive VmWfName
  | deploy | cancel | other
deriving Repr, DecidableEq

/-- An unpaused workflow of a machine. -/
structure VmWfRow where
  vid : ℤ
  name : VmWfName
  isRollback : Bool
  upstreamActionId : String
deriving Repr, DecidableEq

structure VMDeployInfo where
  vid : ℤ
  actionId : String
deriving Repr, DecidableEq

structure DeployMessage where
  fromTc : Bool
  deploy : VMDeployInfo
deriving Repr, DecidableEq

structure VmOperationAck where
  actionId : String
  state : Status
  progress : ℤ
  detail : String
  vid : ℤ
deriving Repr, DecidableEq

/-- The tables that a deploy message is checked against; the last three fields are history. -/
structure VMManager where
  workflows : List VmWfRow
  vms : List ℤ
  uuidHistory : List String
  deployed : List VmWfRow
  answered : List (VMDeployInfo × VmOperationAck)
  dropped : List ℤ
deriving Repr, DecidableEq

/-- What the workflow tables answer: the progress that is asked for, the id of the action
`create_vm`, and the results of `CreateWorkflow` and of the insertion of a used id. -/
structure DeployContext where
  progress : ℤ
  createVmId : String
  createWorkflow : Status
  recorded : Bool
deriving Repr, DecidableEq

def VMManager.start (workflows : List VmWfRow) (vms : List ℤ) (uuidHistory : List String) :
    VMManager :=
  ⟨workflows, vms, uuidHistory, [], [], []⟩

def VMManager.getVmWorkFlowId (vmm : VMManager) (vid : ℤ) (name : VmWfName) : Option VmWfRow :=
  vmm.workflows.find? fun row => row.vid = vid && row.name = name

def VMManager.isUuidDeleted (vmm : VMManager) (id : String) : Bool := vmm.uuidHistory.contains id

/-- `if ((!id.empty()) && (!IsUuidDeleted(id))) DeleteUuid(id);` -/
def VMManager.deleteUuid (vmm : VMManager) (id : String) (recorded : Bool) : VMManager :=
  if id ≠ "" ∧ vmm.isUuidDeleted id = false ∧ recorded = true then
    { vmm with uuidHistory := vmm.uuidHistory ++ [id] }
  else vmm

def VMManager.answer (vmm : VMManager) (message : VMDeployInfo) (ack : VmOperationAck) :
    VMManager :=
  { vmm with answered := vmm.answered ++ [(message, ack)] }

/-- The builder of the workflow. It writes the id of each request it prepares into the message
object, which leaves with the id of the last one. -/
def VMManager.deployVM (vmm : VMManager) (deploy : VMDeployInfo) (context : DeployContext) :
    Status × VMDeployInfo × VMManager :=
  let row : VmWfRow := ⟨deploy.vid, .deploy, false, deploy.actionId⟩
  let built :=
    if context.createWorkflow = Status.success then
      { vmm with workflows := vmm.workflows ++ [row], deployed := vmm.deployed ++ [row] }
    else vmm
  (context.createWorkflow, { deploy with actionId := context.createVmId }, built)

/-- The answer where a workflow of the machine is found. -/
def runningState (progress : ℤ) : Status :=
  if progress = 100 then Status.success else Status.errorActionRunning

/-- The answer after the builder, from the message object as it left it. -/
def deployAck (deploy : VMDeployInfo) (ret : Status) : VmOperationAck :=
  if ret = Status.success then
    ⟨deploy.actionId, Status.errorActionRunning, 0, s!"VM {deploy.vid} is deploying.", deploy.vid⟩
  else ⟨deploy.actionId, ret, 100, "", deploy.vid⟩

/-- The branch that builds a workflow. -/
def VMManager.deployNew (vmm : VMManager) (message : VMDeployInfo) (context : DeployContext) :
    VMManager :=
  if message.actionId ≠ "" ∧ vmm.isUuidDeleted message.actionId = true then vmm
  else
    match vmm.deployVM message context with
    | (ret, deploy, built) =>
        (if ret = Status.success then built.deleteUuid deploy.actionId context.recorded
          else built).answer message (deployAck deploy ret)

/-- `DeployVM` on a message. -/
def VMManager.deployMessage (vmm : VMManager) (message : DeployMessage) (context : DeployContext) :
    VMManager :=
  let deploy := message.deploy
  if !message.fromTc then vmm
  else if (vmm.getVmWorkFlowId deploy.vid .deploy).isSome then
    vmm.answer deploy ⟨deploy.actionId, runningState context.progress, context.progress,
      s!"VM {deploy.vid} is deploying.", deploy.vid⟩
  else
    match vmm.getVmWorkFlowId deploy.vid .cancel with
    | some row =>
        if row.isRollback then
          vmm.answer deploy ⟨deploy.actionId, runningState context.progress, context.progress,
            s!"The action for deploy VM {deploy.vid} is rollbacking.", deploy.vid⟩
        else
          vmm.answer deploy ⟨deploy.actionId, Status.errorPermissionDenied, context.progress,
            s!"VM {deploy.vid} is canceling.", deploy.vid⟩
    | none =>
        if vmm.vms.contains deploy.vid then
          vmm.answer deploy ⟨deploy.actionId, Status.success, 100,
            s!"vm {deploy.vid} is already deployed in cluster!", deploy.vid⟩
        else vmm.deployNew deploy context

/-- What is answered to a cancellation: whether it is legal for a machine that exists, whether the
rollback is turned to, whether the workflow is made, whether the used id is inserted. -/
structure CancelContext where
  legal : Bool
  rolledBack : Bool
  created : Bool
  recorded : Bool
deriving Repr, DecidableEq

/-- `DeleteVMWorkflow`: the workflow that is found for the machine. -/
def VMManager.deleteVMWorkflow (vmm : VMManager) (vid : ℤ) : VMManager :=
  { vmm with workflows := vmm.workflows.eraseP (·.vid = vid) }

def VMManager.addWorkflow (vmm : VMManager) (row : VmWfRow) : VMManager :=
  { vmm with workflows := vmm.workflows ++ [row] }

/-- A deploy workflow gives way to its rollback; `upstreamActionId` is the one of who asked. -/
def VMManager.rollbackWorkflow (vmm : VMManager) (row : VmWfRow) (isRollback : Bool)
    (upstreamActionId : String) : VMManager :=
  { vmm with
    workflows := vmm.workflows.erase row ++ [⟨row.vid, .cancel, isRollback, upstreamActionId⟩] }

/-- `OperateCancelVM`, and whether it answers that the action runs. -/
def VMManager.operateCancelVM (vmm : VMManager) (vid : ℤ) (actionId : String)
    (context : CancelContext) : Bool × VMManager :=
  match vmm.getVmWorkFlowId vid .deploy with
  | some row =>
      if context.rolledBack then (true, vmm.rollbackWorkflow row false actionId) else (false, vmm)
  | none =>
      match vmm.getVmWorkFlowId vid .cancel with
      | some row =>
          if row.isRollback then (true, vmm.rollbackWorkflow row false actionId) else (true, vmm)
      | none =>
          if vmm.vms.contains vid then
            if context.created then
              (true, (vmm.deleteVMWorkflow vid).addWorkflow ⟨vid, .cancel, false, actionId⟩)
            else (false, vmm.deleteVMWorkflow vid)
          else (false, vmm)

/-- `OperateVM` for a cancellation. -/
def VMManager.cancelVm (vmm : VMManager) (vid : ℤ) (actionId : String) (context : CancelContext) :
    VMManager :=
  if vmm.vms.contains vid && !context.legal then vmm
  else
    match vmm.operateCancelVM vid actionId context with
    | (true, later) => later.deleteUuid actionId context.recorded
    | (false, later) => later

/-- What another operation does to the tables: it may take the workflow of the machine away, make
one of its own and record its id. -/
structure OperationContext where
  replaces : Bool
  created : Bool
  recorded : Bool
deriving Repr, DecidableEq

/-- `OperateVM` for the other operations, which are for machines that exist. -/
def VMManager.operateVM (vmm : VMManager) (vid : ℤ) (actionId : String)
    (context : OperationContext) : VMManager :=
  if vmm.vms.contains vid then
    let kept := if context.replaces then vmm.deleteVMWorkflow vid else vmm
    if context.created then
      (kept.addWorkflow ⟨vid, .other, false, actionId⟩).deleteUuid actionId context.recorded
    else kept
  else vmm

inductive VmmMove
  | deploy (message : DeployMessage) (context : DeployContext)
  | cancel (vid : ℤ) (actionId : String) (context : CancelContext)
  | operate (vid : ℤ) (actionId : String) (context : OperationContext)
  | hostSelected (row : VmWfRow)
  | deployDone (row : VmWfRow)
  | deployFailed (row : VmWfRow)
  | otherDone (row : VmWfRow)
  | cancelDone (row : VmWfRow)
deriving Repr, DecidableEq

/-- When a move can happen: ids are generated afresh, a workflow that moves is there, and a deploy
workflow is done only after its host was selected, which put the machine into the pool. -/
def VMManager.Possible (vmm : VMManager) : VmmMove → Prop
  | .deploy message context => context.createVmId ≠ message.deploy.actionId
  | .cancel _ _ _ => True
  | .operate _ _ _ => True
  | .hostSelected row => row ∈ vmm.workflows ∧ row.name = .deploy
  | .deployDone row => row ∈ vmm.workflows ∧ row.name = .deploy ∧ row.vid ∈ vmm.vms
  | .deployFailed row => row ∈ vmm.workflows ∧ row.name = .deploy
  | .otherDone row => row ∈ vmm.workflows ∧ row.name = .other
  | .cancelDone row => row ∈ vmm.workflows ∧ row.name = .cancel

def VMManager.next (vmm : VMManager) : VmmMove → VMManager
  | .deploy message context => vmm.deployMessage message context
  | .cancel vid actionId context => vmm.cancelVm vid actionId context
  | .operate vid actionId context => vmm.operateVM vid actionId context
  | .hostSelected row => { vmm with vms := vmm.vms ++ [row.vid] }
  | .deployDone row => { vmm with workflows := vmm.workflows.erase row }
  | .deployFailed row => vmm.rollbackWorkflow row true row.upstreamActionId
  | .otherDone row => { vmm with workflows := vmm.workflows.erase row }
  | .cancelDone row =>
      { vmm with
        workflows := vmm.workflows.erase row
        vms := vmm.vms.filter (· ≠ row.vid)
        dropped := vmm.dropped ++ [row.vid] }

instance (vmm : VMManager) : DecidablePred vmm.Possible
  | .deploy _ _ => inferInstanceAs (Decidable (_ ≠ _))
  | .cancel _ _ _ => inferInstanceAs (Decidable True)
  | .operate _ _ _ => inferInstanceAs (Decidable True)
  | .hostSelected _ => inferInstanceAs (Decidable (_ ∧ _))
  | .deployDone _ => inferInstanceAs (Decidable (_ ∧ _ ∧ _))
  | .deployFailed _ => inferInstanceAs (Decidable (_ ∧ _))
  | .otherDone _ => inferInstanceAs (Decidable (_ ∧ _))
  | .cancelDone _ => inferInstanceAs (Decidable (_ ∧ _))

def VmmStep (before : VMManager) (move : VmmMove) (after : VMManager) : Prop :=
  before.Possible move ∧ after = before.next move

/-- At most one deploy workflow for each action id. -/
def VMManager.AtMostOnce (vmm : VMManager) : Prop :=
  ∀ id, id ≠ "" → (vmm.deployed.filter (·.upstreamActionId = id)).length ≤ 1

/-- Every acknowledgement carries the id of its message. -/
def VMManager.AnswersOwn (vmm : VMManager) : Prop :=
  ∀ answer ∈ vmm.answered, answer.2.actionId = answer.1.actionId

/-- The machine has a workflow of deployment or cancellation, or is in the pool. -/
def VMManager.Known (vmm : VMManager) (vid : ℤ) : Prop :=
  (∃ row ∈ vmm.workflows, row.vid = vid ∧ (row.name = .deploy ∨ row.name = .cancel)) ∨
    vid ∈ vmm.vms

/-- No workflow is built for the message. -/
def VMManager.Recognised (vmm : VMManager) : VmmMove → Prop
  | .deploy message _ => message.fromTc = false ∨ vmm.Known message.deploy.vid ∨
      message.deploy.actionId ≠ "" ∧ message.deploy.actionId ∈ vmm.uuidHistory
  | _ => True

/-- A message whose id was used is for the same machine, which was not dropped. -/
def VMManager.StillThere (vmm : VMManager) : VmmMove → Prop
  | .deploy message _ => ∀ row ∈ vmm.deployed,
      row.upstreamActionId = message.deploy.actionId →
        row.vid = message.deploy.vid ∧ message.deploy.vid ∉ vmm.dropped
  | _ => True

end Definitions

section Messages

variable {vmm : VMManager} {message : DeployMessage} {context : DeployContext}

theorem mem_of_getVmWorkFlowId {vid : ℤ} {name : VmWfName} {row : VmWfRow}
    (found : vmm.getVmWorkFlowId vid name = some row) :
    row ∈ vmm.workflows ∧ row.vid = vid ∧ row.name = name := by
  have is := List.find?_some found
  simp only [Bool.and_eq_true, decide_eq_true_eq] at is
  exact ⟨List.mem_of_find?_eq_some found, is⟩

theorem not_mem_of_getVmWorkFlowId {vid : ℤ} {name : VmWfName}
    (none : vmm.getVmWorkFlowId vid name = none) {row : VmWfRow} (mem : row ∈ vmm.workflows) :
    ¬ (row.vid = vid ∧ row.name = name) := by
  intro is
  have differs := List.find?_eq_none.mp none row mem
  simp only [Bool.and_eq_true, decide_eq_true_eq] at differs
  exact differs is

/-- Only a message from the tenant controller for an unknown machine reaches the builder. -/
theorem deployMessage_known (seen : message.fromTc = false ∨ vmm.Known message.deploy.vid) :
    vmm.deployMessage message context = vmm ∨
      ∃ ack : VmOperationAck, ack.actionId = message.deploy.actionId ∧
        vmm.deployMessage message context = vmm.answer message.deploy ack := by
  simp only [VMManager.deployMessage]
  split
  · exact .inl rfl
  split
  · exact .inr ⟨_, rfl, rfl⟩
  next sender deploys =>
  split
  · split
    · exact .inr ⟨_, rfl, rfl⟩
    · exact .inr ⟨_, rfl, rfl⟩
  next cancels =>
  split
  · exact .inr ⟨_, rfl, rfl⟩
  next pooled =>
  rcases seen with outside | ⟨row, mem, same, deploy | cancel⟩ | inside
  · exact absurd (by rw [outside]; rfl) sender
  · have deploys := Option.not_isSome_iff_eq_none.mp deploys
    exact absurd ⟨same, deploy⟩ (not_mem_of_getVmWorkFlowId deploys mem)
  · exact absurd ⟨same, cancel⟩ (not_mem_of_getVmWorkFlowId cancels mem)
  · exact absurd (List.contains_iff_mem.mpr inside) pooled

theorem deployMessage_unknown (sender : message.fromTc = true)
    (unknown : ¬ vmm.Known message.deploy.vid) :
    vmm.deployMessage message context = vmm.deployNew message.deploy context := by
  have deploys : vmm.getVmWorkFlowId message.deploy.vid .deploy = none := by
    by_contra some_
    obtain ⟨row, found⟩ := Option.ne_none_iff_exists'.mp some_
    obtain ⟨mem, same, name⟩ := mem_of_getVmWorkFlowId found
    exact unknown (.inl ⟨row, mem, same, .inl name⟩)
  have cancels : vmm.getVmWorkFlowId message.deploy.vid .cancel = none := by
    by_contra some_
    obtain ⟨row, found⟩ := Option.ne_none_iff_exists'.mp some_
    obtain ⟨mem, same, name⟩ := mem_of_getVmWorkFlowId found
    exact unknown (.inl ⟨row, mem, same, .inr name⟩)
  have pooled : vmm.vms.contains message.deploy.vid = false :=
    Bool.eq_false_iff.mpr fun inside => unknown (.inr (List.contains_iff_mem.mp inside))
  simp only [VMManager.deployMessage, sender, deploys, cancels, pooled, Bool.not_true,
    Bool.false_eq_true, if_false, Option.isSome_none]

/-- What the builder leaves: an answer under the id of an action of its own, and a workflow where
`CreateWorkflow` succeeded. -/
theorem deployNew_built (vmm : VMManager) (deploy : VMDeployInfo) (context : DeployContext)
    (unused : ¬ (deploy.actionId ≠ "" ∧ vmm.isUuidDeleted deploy.actionId = true)) :
    ∃ ack : VmOperationAck, ack.actionId = context.createVmId ∧
      (vmm.deployNew deploy context).answered = vmm.answered ++ [(deploy, ack)] ∧
      (vmm.deployNew deploy context).vms = vmm.vms ∧
      (vmm.deployNew deploy context).dropped = vmm.dropped ∧
      ((vmm.deployNew deploy context).workflows = vmm.workflows ∧
          (vmm.deployNew deploy context).deployed = vmm.deployed ∨
        (vmm.deployNew deploy context).workflows =
            vmm.workflows ++ [⟨deploy.vid, .deploy, false, deploy.actionId⟩] ∧
          (vmm.deployNew deploy context).deployed =
            vmm.deployed ++ [⟨deploy.vid, .deploy, false, deploy.actionId⟩]) := by
  rw [VMManager.deployNew, if_neg unused]
  refine ⟨deployAck ⟨deploy.vid, context.createVmId⟩ context.createWorkflow, ?_, ?_⟩
  · rw [deployAck]
    split <;> rfl
  simp only [VMManager.deployVM]
  split
  · next created =>
    simp only [VMManager.answer, VMManager.deleteUuid]
    split
    · exact ⟨rfl, rfl, rfl, .inr ⟨rfl, rfl⟩⟩
    · exact ⟨rfl, rfl, rfl, .inr ⟨rfl, rfl⟩⟩
  · exact ⟨rfl, rfl, rfl, .inl ⟨rfl, rfl⟩⟩

theorem deployMessage_recognised (seen : vmm.Recognised (.deploy message context)) :
    vmm.deployMessage message context = vmm ∨
      ∃ ack : VmOperationAck, ack.actionId = message.deploy.actionId ∧
        vmm.deployMessage message context = vmm.answer message.deploy ack := by
  by_cases known : message.fromTc = false ∨ vmm.Known message.deploy.vid
  · exact deployMessage_known known
  · obtain ⟨sender, unknown⟩ := not_or.mp known
    have used : message.deploy.actionId ≠ "" ∧ message.deploy.actionId ∈ vmm.uuidHistory := by
      rcases seen with outside | inside | used
      · exact absurd outside sender
      · exact absurd inside unknown
      · exact used
    left
    rw [deployMessage_unknown ((Bool.not_eq_false _).mp sender) unknown, VMManager.deployNew,
      if_pos ⟨used.1, List.contains_iff_mem.mpr used.2⟩]

theorem not_recognised (unseen : ¬ vmm.Recognised (.deploy message context)) :
    message.fromTc = true ∧ ¬ vmm.Known message.deploy.vid ∧
      ¬ (message.deploy.actionId ≠ "" ∧ vmm.isUuidDeleted message.deploy.actionId = true) := by
  refine ⟨?_, fun known => unseen (.inr (.inl known)), fun used => unseen (.inr (.inr ?_))⟩
  · by_contra outside
    exact unseen (.inl (Bool.eq_false_iff.mpr outside))
  · exact ⟨used.1, List.contains_iff_mem.mp used.2⟩

end Messages

section Moves

variable {vmm later : VMManager} {move : VmmMove}

@[simp] theorem deleteUuid_answered (id : String) (recorded : Bool) :
    (vmm.deleteUuid id recorded).answered = vmm.answered := by
  rw [VMManager.deleteUuid]
  split <;> rfl

@[simp] theorem deleteUuid_deployed (id : String) (recorded : Bool) :
    (vmm.deleteUuid id recorded).deployed = vmm.deployed := by
  rw [VMManager.deleteUuid]
  split <;> rfl

@[simp] theorem deleteUuid_workflows (id : String) (recorded : Bool) :
    (vmm.deleteUuid id recorded).workflows = vmm.workflows := by
  rw [VMManager.deleteUuid]
  split <;> rfl

@[simp] theorem deleteUuid_vms (id : String) (recorded : Bool) :
    (vmm.deleteUuid id recorded).vms = vmm.vms := by
  rw [VMManager.deleteUuid]
  split <;> rfl

@[simp] theorem deleteUuid_dropped (id : String) (recorded : Bool) :
    (vmm.deleteUuid id recorded).dropped = vmm.dropped := by
  rw [VMManager.deleteUuid]
  split <;> rfl

/-- What a cancellation leaves alone. -/
theorem cancelVm_history (vmm : VMManager) (vid : ℤ) (actionId : String) (context : CancelContext) :
    (vmm.cancelVm vid actionId context).answered = vmm.answered ∧
      (vmm.cancelVm vid actionId context).deployed = vmm.deployed ∧
      (vmm.cancelVm vid actionId context).vms = vmm.vms ∧
      (vmm.cancelVm vid actionId context).dropped = vmm.dropped := by
  have inner : (vmm.operateCancelVM vid actionId context).2.answered = vmm.answered ∧
      (vmm.operateCancelVM vid actionId context).2.deployed = vmm.deployed ∧
      (vmm.operateCancelVM vid actionId context).2.vms = vmm.vms ∧
      (vmm.operateCancelVM vid actionId context).2.dropped = vmm.dropped := by
    rw [VMManager.operateCancelVM]
    split
    · split <;> exact ⟨rfl, rfl, rfl, rfl⟩
    split
    · split <;> exact ⟨rfl, rfl, rfl, rfl⟩
    split
    · split <;> exact ⟨rfl, rfl, rfl, rfl⟩
    · exact ⟨rfl, rfl, rfl, rfl⟩
  rw [VMManager.cancelVm]
  split
  · exact ⟨rfl, rfl, rfl, rfl⟩
  split
  · next later eq =>
    rw [eq] at inner
    simpa using inner
  · next later eq =>
    rw [eq] at inner
    exact inner

theorem operateVM_history (vmm : VMManager) (vid : ℤ) (actionId : String)
    (context : OperationContext) :
    (vmm.operateVM vid actionId context).answered = vmm.answered ∧
      (vmm.operateVM vid actionId context).deployed = vmm.deployed ∧
      (vmm.operateVM vid actionId context).vms = vmm.vms ∧
      (vmm.operateVM vid actionId context).dropped = vmm.dropped := by
  rw [VMManager.operateVM]
  split
  · simp only []
    split <;> split <;>
      simp [VMManager.addWorkflow, VMManager.deleteVMWorkflow]
  · exact ⟨rfl, rfl, rfl, rfl⟩

/-- Only deploy messages are answered here, and only they make deploy workflows. -/
theorem next_history (vmm : VMManager) (move : VmmMove)
    (other : ∀ message context, move ≠ .deploy message context) :
    (vmm.next move).answered = vmm.answered ∧ (vmm.next move).deployed = vmm.deployed := by
  cases move with
  | deploy message context => exact absurd rfl (other message context)
  | cancel vid actionId context =>
      obtain ⟨answered, deployed, -, -⟩ := cancelVm_history vmm vid actionId context
      exact ⟨answered, deployed⟩
  | operate vid actionId context =>
      obtain ⟨answered, deployed, -, -⟩ := operateVM_history vmm vid actionId context
      exact ⟨answered, deployed⟩
  | hostSelected row => exact ⟨rfl, rfl⟩
  | deployDone row => exact ⟨rfl, rfl⟩
  | deployFailed row => exact ⟨rfl, rfl⟩
  | otherDone row => exact ⟨rfl, rfl⟩
  | cancelDone row => exact ⟨rfl, rfl⟩

/-- No answer is taken back. -/
theorem answered_grows (vmm : VMManager) (move : VmmMove) : ∃ more, (vmm.next move).answered =
    vmm.answered ++ more := by
  cases move with
  | deploy message context =>
      by_cases seen : vmm.Recognised (.deploy message context)
      · rcases deployMessage_recognised seen with same | ⟨ack, -, own⟩
        · exact ⟨[], by rw [List.append_nil, VMManager.next, same]⟩
        · exact ⟨[(message.deploy, ack)], by rw [VMManager.next, own, VMManager.answer]⟩
      · obtain ⟨sender, unknown, unused⟩ := not_recognised seen
        obtain ⟨ack, -, answered, -⟩ := deployNew_built vmm _ context unused
        exact ⟨_, by rw [VMManager.next, deployMessage_unknown sender unknown, answered]⟩
  | _ => exact ⟨[], by rw [List.append_nil, (next_history vmm _ (by simp)).1]⟩

theorem answersOwn_before (taken : VmmStep vmm move later) (own : later.AnswersOwn) :
    vmm.AnswersOwn := by
  obtain ⟨-, rfl⟩ := taken
  obtain ⟨more, eq⟩ := answered_grows vmm move
  exact fun answer mem => own answer (eq ▸ List.mem_append_left _ mem)

/-- A message that reaches the builder is answered under another id. -/
theorem recognised_of_answersOwn (taken : VmmStep vmm move later) (own : later.AnswersOwn) :
    vmm.Recognised move := by
  obtain ⟨possible, rfl⟩ := taken
  by_contra unseen
  cases move with
  | deploy message context =>
      obtain ⟨sender, unknown, unused⟩ := not_recognised unseen
      obtain ⟨ack, other, answered, -⟩ := deployNew_built vmm _ context unused
      have mem : (message.deploy, ack) ∈ (vmm.next (.deploy message context)).answered := by
        rw [VMManager.next, deployMessage_unknown sender unknown, answered]
        exact List.mem_append_right _ (List.mem_singleton.mpr rfl)
      exact possible (other.symm.trans (own _ mem))
  | _ => exact unseen trivial

/-- Where no message reaches the builder, the answers are right and nothing is deployed. -/
theorem recognised_step (seen : vmm.Recognised move) (taken : VmmStep vmm move later)
    (holds : vmm.deployed = [] ∧ vmm.AnswersOwn) : later.deployed = [] ∧ later.AnswersOwn := by
  obtain ⟨-, rfl⟩ := taken
  by_cases deploys : ∃ message context, move = .deploy message context
  · obtain ⟨message, context, rfl⟩ := deploys
    rcases deployMessage_recognised seen with same | ⟨ack, own, answers⟩
    · rw [VMManager.next, same]
      exact holds
    · rw [VMManager.next, answers]
      refine ⟨holds.1, fun answer mem => ?_⟩
      rcases List.mem_append.mp mem with old | new
      · exact holds.2 answer old
      · rw [List.mem_singleton.mp new]
        exact own
  · obtain ⟨answered, deployed⟩ := next_history vmm move fun message context eq =>
      deploys ⟨message, context, eq⟩
    rw [VMManager.AnswersOwn, answered, deployed]
    exact holds

theorem atMostOnce_nil (none : vmm.deployed = []) : vmm.AtMostOnce := by
  intro id _
  rw [none]
  exact Nat.zero_le 1

/-- A machine that got a workflow for an id is known until it is dropped. -/
structure VMManager.Kept (vmm : VMManager) : Prop where
  once : vmm.AtMostOnce
  known : ∀ row ∈ vmm.deployed, row.vid ∉ vmm.dropped → vmm.Known row.vid

theorem known_of {vid : ℤ} (known : vmm.Known vid)
    (rows : ∀ row ∈ vmm.workflows, row.name = .deploy ∨ row.name = .cancel → later.Known row.vid)
    (pooled : ∀ v ∈ vmm.vms, later.Known v) : later.Known vid := by
  rcases known with ⟨row, mem, rfl, name⟩ | inside
  · exact rows row mem name
  · exact pooled vid inside

/-- A machine of a workflow that goes is known by what comes in its place. -/
theorem known_erase {gone : VmWfRow} {after : List VmWfRow} {vms : List ℤ}
    (workflows : later.workflows = vmm.workflows.erase gone ++ after) (pool : later.vms = vms)
    (kept : ∀ v ∈ vmm.vms, v ∈ vms)
    (instead : gone.vid ∈ vms ∨
      ∃ row ∈ after, row.vid = gone.vid ∧ (row.name = .deploy ∨ row.name = .cancel)) {vid : ℤ}
    (known : vmm.Known vid) : later.Known vid := by
  refine known_of known (fun row mem name => ?_) fun v inside => .inr (pool ▸ kept v inside)
  by_cases same : row = gone
  · rcases instead with inside | ⟨row', mem', same', name'⟩
    · exact .inr (by rw [pool, same]; exact inside)
    · exact .inl ⟨row', workflows ▸ List.mem_append_right _ mem', by rw [same', same], name'⟩
  · refine .inl ⟨row, ?_, rfl, name⟩
    rw [workflows]
    exact List.mem_append_left _ ((List.mem_erase_of_ne same).mpr mem)

theorem known_rollbackWorkflow (row : VmWfRow) (isRollback : Bool) (upstreamActionId : String)
    {vid : ℤ} (known : vmm.Known vid) :
    (vmm.rollbackWorkflow row isRollback upstreamActionId).Known vid := by
  have workflows : (vmm.rollbackWorkflow row isRollback upstreamActionId).workflows =
    vmm.workflows.erase row ++ [⟨row.vid, .cancel, isRollback, upstreamActionId⟩] := rfl
  exact known_erase workflows rfl (fun _ => id)
    (.inr ⟨_, List.mem_singleton.mpr rfl, rfl, .inr rfl⟩) known

theorem known_deleteVMWorkflow {v : ℤ} (pooled : v ∈ vmm.vms) {vid : ℤ} (known : vmm.Known vid) :
    (vmm.deleteVMWorkflow v).Known vid := by
  refine known_of known (fun row mem name => ?_) fun _ inside => .inr inside
  by_cases same : row.vid = v
  · exact .inr (same ▸ pooled)
  · refine .inl ⟨row, ?_, rfl, name⟩
    exact (List.mem_eraseP_of_neg (by simpa using same)).mpr mem

theorem known_addWorkflow (row : VmWfRow) {vid : ℤ} (known : vmm.Known vid) :
    (vmm.addWorkflow row).Known vid :=
  known_of known (fun row mem name => .inl ⟨row, List.mem_append_left _ mem, rfl, name⟩)
    fun _ inside => .inr inside

theorem known_deleteUuid (id : String) (recorded : Bool) {vid : ℤ} :
    (vmm.deleteUuid id recorded).Known vid ↔ vmm.Known vid := by
  rw [VMManager.Known, VMManager.Known, deleteUuid_workflows, deleteUuid_vms]

theorem known_cancelVm (v : ℤ) (actionId : String) (context : CancelContext) {vid : ℤ}
    (known : vmm.Known vid) : (vmm.cancelVm v actionId context).Known vid := by
  have inner : (vmm.operateCancelVM v actionId context).2.Known vid := by
    rw [VMManager.operateCancelVM]
    split
    · split
      · exact known_rollbackWorkflow _ _ _ known
      · exact known
    split
    · split
      · exact known_rollbackWorkflow _ _ _ known
      · exact known
    split
    · next pooled =>
      have deleted := known_deleteVMWorkflow (List.contains_iff_mem.mp pooled) known
      split
      · exact known_addWorkflow _ deleted
      · exact deleted
    · exact known
  rw [VMManager.cancelVm]
  split
  · exact known
  split
  · next later eq =>
    rw [eq] at inner
    exact (known_deleteUuid _ _).mpr inner
  · next later eq =>
    rw [eq] at inner
    exact inner

theorem known_operateVM (v : ℤ) (actionId : String) (context : OperationContext) {vid : ℤ}
    (known : vmm.Known vid) : (vmm.operateVM v actionId context).Known vid := by
  rw [VMManager.operateVM]
  split
  · next pooled =>
    have kept : (if context.replaces then vmm.deleteVMWorkflow v else vmm).Known vid := by
      split
      · exact known_deleteVMWorkflow (List.contains_iff_mem.mp pooled) known
      · exact known
    simp only []
    split
    · exact (known_deleteUuid _ _).mpr (known_addWorkflow _ kept)
    · exact kept
  · exact known

/-- A message for a machine that is not known is the first under its id. -/
theorem kept_deploy {message : DeployMessage} {context : DeployContext}
    (there : vmm.StillThere (.deploy message context)) (kept : vmm.Kept) :
    (vmm.deployMessage message context).Kept := by
  by_cases seen : vmm.Recognised (.deploy message context)
  · rcases deployMessage_recognised seen with same | ⟨ack, -, answers⟩
    · rw [same]
      exact kept
    · rw [answers]
      exact ⟨kept.once, kept.known⟩
  obtain ⟨sender, unknown, unused⟩ := not_recognised seen
  obtain ⟨ack, -, -, pool, dropped, built⟩ := deployNew_built vmm _ context unused
  rw [deployMessage_unknown sender unknown]
  have fresh : ∀ row ∈ vmm.deployed, row.upstreamActionId ≠ message.deploy.actionId := by
    intro row mem same
    obtain ⟨vid, present⟩ := there row mem same
    exact unknown (vid ▸ kept.known row mem (vid ▸ present))
  rcases built with ⟨workflows, deployed⟩ | ⟨workflows, deployed⟩
  · refine ⟨fun id some_ => ?_, fun row mem present => ?_⟩
    · rw [deployed]
      exact kept.once id some_
    · rw [deployed] at mem
      rw [dropped] at present
      rw [VMManager.Known, workflows, pool]
      exact kept.known row mem present
  · refine ⟨fun id some_ => ?_, fun row mem present => ?_⟩
    · rw [deployed, List.filter_append, List.length_append]
      by_cases own : message.deploy.actionId = id
      · have none : vmm.deployed.filter (·.upstreamActionId = id) = [] := by
          refine List.filter_eq_nil_iff.mpr fun row mem => ?_
          simpa only [decide_eq_true_eq, ← own] using fresh row mem
        rw [none, List.length_nil, Nat.zero_add]
        exact List.length_filter_le _ _
      · have none : [(⟨message.deploy.vid, .deploy, false, message.deploy.actionId⟩ :
            VmWfRow)].filter (·.upstreamActionId = id) = [] := by simp [own]
        rw [none, List.length_nil, Nat.add_zero]
        exact kept.once id some_
    · rw [dropped] at present
      rw [VMManager.Known, workflows, pool]
      rcases List.mem_append.mp (deployed ▸ mem) with old | new
      · rcases kept.known row old present with ⟨row', mem', same⟩ | inside
        · exact .inl ⟨row', List.mem_append_left _ mem', same⟩
        · exact .inr inside
      · obtain rfl := List.mem_singleton.mp new
        exact .inl ⟨_, List.mem_append_right _ new, rfl, .inl rfl⟩

/-- Moves that deploy nothing and drop nothing. -/
theorem VMManager.Kept.of_history (kept : vmm.Kept) (deployed : later.deployed = vmm.deployed)
    (dropped : later.dropped = vmm.dropped)
    (known : ∀ vid, vmm.Known vid → later.Known vid) : later.Kept := by
  refine ⟨?_, fun row mem present => ?_⟩
  · rw [VMManager.AtMostOnce, deployed]
    exact kept.once
  · rw [deployed] at mem
    rw [dropped] at present
    exact known _ (kept.known row mem present)

theorem kept_step (there : vmm.StillThere move) (taken : VmmStep vmm move later)
    (kept : vmm.Kept) : later.Kept := by
  obtain ⟨possible, rfl⟩ := taken
  cases move with
  | deploy message context => exact kept_deploy there kept
  | cancel vid actionId context =>
      obtain ⟨-, deployed, -, dropped⟩ := cancelVm_history vmm vid actionId context
      exact kept.of_history deployed dropped fun _ => known_cancelVm vid actionId context
  | operate vid actionId context =>
      obtain ⟨-, deployed, -, dropped⟩ := operateVM_history vmm vid actionId context
      exact kept.of_history deployed dropped fun _ => known_operateVM vid actionId context
  | hostSelected row =>
      refine kept.of_history rfl rfl fun vid known => ?_
      exact known_of known (fun row mem name => .inl ⟨row, mem, rfl, name⟩)
        fun _ inside => .inr (List.mem_append_left _ inside)
  | deployDone row =>
      refine kept.of_history rfl rfl fun vid known => ?_
      have workflows : (vmm.next (.deployDone row)).workflows = vmm.workflows.erase row ++ [] :=
        (List.append_nil _).symm
      exact known_erase workflows rfl (fun _ => id) (.inl possible.2.2) known
  | deployFailed row => exact kept.of_history rfl rfl fun _ => known_rollbackWorkflow row true _
  | otherDone row =>
      refine kept.of_history rfl rfl fun vid known => ?_
      refine known_of known (fun row' mem name => .inl ⟨row', ?_, rfl, name⟩)
        fun _ inside => .inr inside
      refine (List.mem_erase_of_ne ?_).mpr mem
      rintro rfl
      rcases name with name | name <;> cases possible.2.symm.trans name
  | cancelDone row =>
      refine ⟨kept.once, fun row' mem present => ?_⟩
      have apart : row'.vid ≠ row.vid := fun same =>
        present (List.mem_append_right _ (List.mem_singleton.mpr same))
      rcases kept.known row' mem (fun old => present (List.mem_append_left _ old)) with
        ⟨other, memOther, same, name⟩ | inside
      · refine .inl ⟨other, (List.mem_erase_of_ne ?_).mpr memOther, same, name⟩
        rintro rfl
        exact apart same.symm
      · exact .inr (List.mem_filter.mpr ⟨inside, by simpa using apart⟩)

end Moves

section Runs

variable {moves : List VmmMove} {last : VMManager}

theorem guarded_of_answersOwn {start : VMManager} (run : Run VmmStep start moves last)
    (own : last.AnswersOwn) : Run (Guarded VMManager.Recognised VmmStep) start moves last := by
  induction run with
  | refl => exact .refl
  | snoc before taken ih =>
      exact (ih (answersOwn_before taken own)).snoc ⟨recognised_of_answersOwn taken own, taken⟩

/-- Workflows and answers are as they should be exactly in the runs in which no message reaches the
builder. The workflows alone are also where no message comes again, or for another machine, once
the machine of its id was dropped. -/
theorem deploy_once_iff (workflows : List VmWfRow) (vms : List ℤ) (uuidHistory : List String)
    (moves : List VmmMove) (last : VMManager)
    (run : Run VmmStep (.start workflows vms uuidHistory) moves last) :
    (last.AtMostOnce ∧ last.AnswersOwn ↔
        Run (Guarded VMManager.Recognised VmmStep) (.start workflows vms uuidHistory) moves last) ∧
      (Run (Guarded VMManager.StillThere VmmStep) (.start workflows vms uuidHistory) moves last →
        last.AtMostOnce) := by
  refine ⟨⟨fun holds => guarded_of_answersOwn run holds.2, fun guarded => ?_⟩, fun guarded => ?_⟩
  · have empty : last.deployed = [] ∧ last.AnswersOwn :=
      guarded.invariant (P := fun vmm : VMManager => vmm.deployed = [] ∧ vmm.AnswersOwn)
        ⟨rfl, fun _ none => absurd none List.not_mem_nil⟩
        fun before move after holds step => recognised_step step.1 step.2 holds
    exact ⟨atMostOnce_nil empty.1, empty.2⟩
  · have start : (VMManager.start workflows vms uuidHistory).Kept :=
      ⟨atMostOnce_nil rfl, fun _ none => absurd none List.not_mem_nil⟩
    have kept : last.Kept :=
      guarded.invariant start fun before move after kept step => kept_step step.1 step.2 kept
    exact kept.once

def exampleMessage : DeployMessage := ⟨true, 1, "t"⟩

def exampleContext : DeployContext := ⟨0, "a", Status.success, true⟩

/-- A machine of the pool: its message may come again. A machine that is not known is deployed, and
its message may come again too. -/
theorem deploy_once_repeated :
    VMManager.AtMostOnce (((VMManager.start [] [1] []).next (.deploy exampleMessage
      exampleContext)).next (.deploy exampleMessage exampleContext)) ∧
    let deployed := (VMManager.start [] [] []).next (.deploy exampleMessage exampleContext)
    deployed.deployed.length = 1 ∧
      (deployed.next (.deploy exampleMessage exampleContext)).AtMostOnce := by
  constructor
  · have first : VmmStep (.start [] [1] []) (.deploy exampleMessage exampleContext) _ :=
      ⟨by decide, rfl⟩
    have second : VmmStep ((VMManager.start [] [1] []).next (.deploy exampleMessage
      exampleContext)) (.deploy exampleMessage exampleContext) _ := ⟨by decide, rfl⟩
    have run := (Run.single first).append (Run.single second)
    refine ((deploy_once_iff [] [1] [] _ _ run).1.mpr ?_).1
    have known (vmm : VMManager) (pooled : (1 : ℤ) ∈ vmm.vms) :
        vmm.Recognised (.deploy exampleMessage exampleContext) := .inr (.inl (.inr pooled))
    exact (Run.single ⟨known _ (by decide), first⟩).append
      (Run.single ⟨known _ (by decide), second⟩)
  · have first : VmmStep (.start [] [] []) (.deploy exampleMessage exampleContext) _ :=
      ⟨by decide, rfl⟩
    have second : VmmStep ((VMManager.start [] [] []).next (.deploy exampleMessage
      exampleContext)) (.deploy exampleMessage exampleContext) _ := ⟨by decide, rfl⟩
    have run := (Run.single first).append (Run.single second)
    have new : (VMManager.start [] [] []).StillThere (.deploy exampleMessage exampleContext) :=
      fun _ none => absurd none List.not_mem_nil
    have again : ((VMManager.start [] [] []).next (.deploy exampleMessage
        exampleContext)).StillThere (.deploy exampleMessage exampleContext) := by
      simp only [VMManager.StillThere]
      decide
    refine ⟨by decide, (deploy_once_iff [] [] [] _ _ run).2 ?_⟩
    exact (Run.single ⟨new, first⟩).append (Run.single ⟨again, second⟩)

def exampleRow : VmWfRow := ⟨1, .deploy, false, "t"⟩

def exampleCancel : VmWfRow := ⟨1, .cancel, false, "c"⟩

/-- Deployed, cancelled, and the message again. -/
def redeployMoves : List VmmMove :=
  [.deploy exampleMessage exampleContext, .hostSelected exampleRow, .deployDone exampleRow,
    .cancel 1 "c" ⟨true, true, true, true⟩, .cancelDone exampleCancel,
    .deploy exampleMessage ⟨0, "b", Status.success, true⟩]

theorem deployed_twice : ∃ last, Run VmmStep (.start [] [] []) redeployMoves last ∧
    ¬ last.AtMostOnce ∧ ¬ last.AnswersOwn := by
  have replays : Replays VmmStep VMManager.next (.start [] [] []) redeployMoves :=
    ⟨⟨by decide, rfl⟩, ⟨by decide, rfl⟩, ⟨by decide, rfl⟩, ⟨by decide, rfl⟩, ⟨by decide, rfl⟩,
      ⟨by decide, rfl⟩, trivial⟩
  refine ⟨_, .replay replays, fun once => ?_, fun own => ?_⟩
  · exact absurd (once "t" (by decide)) (by decide)
  · have first : (exampleMessage.deploy, deployAck ⟨1, "a"⟩ Status.success) ∈
        (redeployMoves.foldl VMManager.next (.start [] [] [])).answered := by decide
    exact absurd (own _ first) (by decide)

end Runs

end Tecs.Vm
