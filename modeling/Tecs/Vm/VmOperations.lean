import Tecs.Library.Run

set_option autoImplicit false

/-! Operations on one machine and the workflows that carry them out. -/

namespace Tecs.Vm

open Transition

section Definitions

inductive VmOperation
  | setup | delete | deploy | cancel
  | query | schedule | reschedule | applyRes
  | create | start | stop | reboot | pause | resume
  | prepM | migrate | reset | destroy | postM | sync | rr
  | uploadImg | cancelUploadImg
  | plugInUsb | plugOutUsb | outInUsb | plugInPdisk | plugOutPdisk
  | recoverImage | modifyImageBackup
  | liveMigrate | coldMigrate | restoreImageBackup | createImageBackup | deleteImageBackup
  | freeze | unfreeze | modifyVmcfg | unknownOp
deriving Repr, DecidableEq

inductive VmInstanceState
  | init | crashed | paused | running | shutoff | unknown | frozen | other
deriving Repr, DecidableEq

/-- An unpaused workflow of the machine; `undoneBy` is the operation of the paused one that was
made with it. The name of a workflow says no more than its operation. -/
structure VmWorkflow where
  id : ℕ
  operation : VmOperation
  isRollback : Bool
  undoneBy : Option VmOperation
deriving Repr, DecidableEq

/-- A request that turned to a workflow: what ran before it and what after. -/
structure Admission where
  operation : VmOperation
  before : List VmWorkflow
  after : List VmWorkflow
deriving Repr, DecidableEq

/-- The machine and its workflows; `admitted` is history. -/
structure VmOps where
  vmExists : Bool
  running : List VmWorkflow
  nextId : ℕ
  admitted : List Admission
deriving Repr, DecidableEq

/-- What a request finds and what the tables answer: the row that a selection takes among several,
the states of the machine, whether the id was used, whether the builder has a reason of its own to
refuse, the paused workflow that a modification makes, and the results of the statements. -/
structure OpContext where
  pick : ℕ
  logState : VmInstanceState
  state : VmInstanceState
  duplicated : Bool
  refused : Bool
  undoes : Bool
  deleted : Bool
  created : Bool
  rolledBack : Bool
deriving Repr, DecidableEq

/-- `LegalOperation` against the operation that is running. -/
def legalOperation (op lastOp : VmOperation) : Bool :=
  match op with
  | .cancel => lastOp ≠ .migrate && lastOp ≠ .coldMigrate && lastOp ≠ .liveMigrate &&
      lastOp ≠ .plugInPdisk && lastOp ≠ .modifyVmcfg
  | .reset => lastOp = .reboot
  | .stop => lastOp = .plugInPdisk || lastOp = .plugOutPdisk
  | .destroy => lastOp = .stop || lastOp = .plugInPdisk || lastOp = .plugOutPdisk
  | .cancelUploadImg => lastOp = .uploadImg
  | .restoreImageBackup => lastOp ≠ .recoverImage && lastOp ≠ .uploadImg &&
      lastOp ≠ .deleteImageBackup && lastOp ≠ .createImageBackup && lastOp ≠ .modifyVmcfg
  | _ => false

/-- `LegalOperation` against the state of the machine. -/
def legalOperationForState (op : VmOperation) (state : VmInstanceState) : Bool :=
  op = .cancel ||
    match state with
    | .init => op = .create
    | .crashed => [VmOperation.destroy, .reset, .plugInUsb, .plugOutUsb, .outInUsb,
        .modifyImageBackup].contains op
    | .paused => [VmOperation.resume, .destroy, .reset, .plugInUsb, .plugOutUsb, .outInUsb,
        .modifyImageBackup].contains op
    | .running => [VmOperation.stop, .reboot, .pause, .prepM, .migrate, .postM, .liveMigrate,
        .reset, .destroy, .plugInUsb, .plugOutUsb, .outInUsb, .plugInPdisk, .plugOutPdisk,
        .modifyImageBackup].contains op
    | .shutoff => [VmOperation.create, .start, .uploadImg, .cancelUploadImg, .plugInUsb,
        .plugOutUsb, .outInUsb, .plugInPdisk, .plugOutPdisk, .recoverImage, .modifyImageBackup,
        .coldMigrate, .createImageBackup, .deleteImageBackup, .restoreImageBackup, .freeze,
        .unfreeze, .modifyVmcfg].contains op
    | .unknown => op ≠ .freeze && op ≠ .unfreeze
    | _ => false

def legalOperationForLogState (op : VmOperation) (logState : VmInstanceState) : Bool :=
  op = .cancel ||
    match logState with
    | .init => op ≠ .unfreeze
    | .frozen => op = .unfreeze || op = .modifyVmcfg
    | _ => false

variable (vm : VmOps) (context : OpContext)

/-- `GetVmWorkFlowId(vid)`. -/
def VmOps.getVmWorkFlowId : Option VmWorkflow := vm.running[context.pick % vm.running.length]?

/-- `GetVmWorkFlowId(vid, name)`. -/
def VmOps.workflowOf (op : VmOperation) : Option VmWorkflow :=
  vm.running.find? (·.operation = op)

def VmOps.createWorkflow (op : VmOperation) (undoneBy : Option VmOperation) : VmOps :=
  if context.created then
    { vm with
      running := vm.running ++ [⟨vm.nextId, op, false, undoneBy⟩]
      nextId := vm.nextId + 1 }
  else vm

def VmOps.removeWorkflow (wf : VmWorkflow) : VmOps :=
  { vm with running := vm.running.filter (·.id ≠ wf.id) }

/-- `DeleteVMWorkflow`; whoever calls it goes on whatever it returns. -/
def VmOps.deleteVMWorkflow : VmOps :=
  match vm.getVmWorkFlowId context with
  | some wf => if context.deleted then vm.removeWorkflow wf else vm
  | none => vm

/-- The workflow gives way to the one that undoes it. -/
def VmOps.turnBack (wf : VmWorkflow) (op : VmOperation) : VmOps :=
  { vm with
    running := vm.running.filter (·.id ≠ wf.id) ++ [⟨vm.nextId, op, true, none⟩]
    nextId := vm.nextId + 1 }

def VmOps.rollbackWorkflow (wf : VmWorkflow) : VmOps :=
  match wf.undoneBy with
  | some op => if context.rolledBack then vm.turnBack wf op else vm
  | none => vm

def VmOps.addCommonWorkflow (op : VmOperation) : VmOps :=
  (vm.deleteVMWorkflow context).createWorkflow context op none

def VmOps.addCancelWorkFLow : VmOps :=
  (vm.deleteVMWorkflow context).createWorkflow context .cancel none

def VmOps.operateCancelVM : VmOps :=
  match vm.workflowOf .deploy with
  | some wf => vm.rollbackWorkflow context wf
  | none =>
      if (vm.workflowOf .cancel).isSome then vm
      else if vm.vmExists then vm.addCancelWorkFLow context
      else vm

/-- The builders that make a workflow unless one of the given operations is there. -/
def VmOps.createUnless (there : List VmOperation) (op : VmOperation)
    (undoneBy : Option VmOperation) : VmOps :=
  if there.any fun op' => (vm.workflowOf op').isSome then vm
  else if context.refused then vm
  else vm.createWorkflow context op undoneBy

def VmOps.operateAttachPdisk : VmOps :=
  vm.createUnless context [.plugInPdisk, .plugOutPdisk] .plugInPdisk (some .plugOutPdisk)

def VmOps.operateDetachPdisk : VmOps :=
  match vm.workflowOf .plugInPdisk with
  | some wf => vm.rollbackWorkflow context wf
  | none => vm.createUnless context [.plugOutPdisk] .plugOutPdisk none

def VmOps.operateBackupImg : VmOps :=
  vm.createUnless context [.createImageBackup, .deleteImageBackup] .createImageBackup
    (some .deleteImageBackup)

def VmOps.operateDeleteBackupImg : VmOps :=
  vm.createUnless context [.deleteImageBackup, .createImageBackup] .deleteImageBackup none

def VmOps.operateRestoreVM : VmOps :=
  vm.createUnless context [.restoreImageBackup] .restoreImageBackup none

def VmOps.migrateVM : VmOps := vm.createUnless context [] .liveMigrate (some .liveMigrate)

def VmOps.coldMigrate : VmOps := vm.createUnless context [] .coldMigrate (some .coldMigrate)

def VmOps.freeze : VmOps := vm.createWorkflow context .freeze none

def VmOps.unFreeze : VmOps := vm.createWorkflow context .unfreeze (some .unfreeze)

/-- The operations on USB devices and the recovery of an image look at their own tables first. -/
def VmOps.addUnlessRefused (op : VmOperation) : VmOps :=
  if context.refused then vm else vm.addCommonWorkflow context op

def VmOps.doOperation (op : VmOperation) : VmOps :=
  match op with
  | .cancel => vm.operateCancelVM context
  | .liveMigrate => vm.migrateVM context
  | .plugInUsb | .plugOutUsb | .outInUsb | .recoverImage => vm.addUnlessRefused context op
  | .plugInPdisk => vm.operateAttachPdisk context
  | .plugOutPdisk => vm.operateDetachPdisk context
  | .modifyImageBackup => vm
  | .createImageBackup => vm.operateBackupImg context
  | .deleteImageBackup => vm.operateDeleteBackupImg context
  | .restoreImageBackup => vm.operateRestoreVM context
  | .coldMigrate => vm.coldMigrate context
  | .freeze => vm.freeze context
  | .unfreeze => vm.unFreeze context
  | _ => vm.addCommonWorkflow context op

/-- The checks of `OperateVM` on a machine that exists. -/
def VmOps.permits (op : VmOperation) : Bool :=
  ((vm.getVmWorkFlowId context).all fun wf =>
      wf.operation ≠ op && legalOperation op wf.operation) &&
    legalOperationForLogState op context.logState && legalOperationForState op context.state &&
    !context.duplicated

/-- `ModifyVmcfg::Implement`: no other workflow of the machine, then the checks of its own. -/
def VmOps.modifyVmCfg : VmOps :=
  if !vm.vmExists || (vm.getVmWorkFlowId context).isSome || context.refused then vm
  else
    vm.createWorkflow context .modifyVmcfg (if context.undoes then some .modifyVmcfg else none)

def VmOps.operateVM (op : VmOperation) : VmOps :=
  if op = .modifyVmcfg then vm.modifyVmCfg context
  else if vm.vmExists then
    if vm.permits context op then vm.doOperation context op else vm
  else if op = .cancel then vm.operateCancelVM context
  else vm

/-- The request with its place in the history, where it turned to a workflow. -/
def VmOps.request (op : VmOperation) : VmOps :=
  let later := vm.operateVM context op
  if later.running = vm.running then later
  else { later with admitted := later.admitted ++ [⟨op, vm.running, later.running⟩] }

inductive VmOpsMove
  | request (op : VmOperation) (context : OpContext)
  | complete (wf : VmWorkflow)
  | rollback (wf : VmWorkflow) (op : VmOperation)
  | pool (vmExists : Bool)
deriving Repr, DecidableEq

def VmOps.Possible : VmOpsMove → Prop
  | .request _ _ => True
  | .complete wf => wf ∈ vm.running
  | .rollback wf op => wf ∈ vm.running ∧ wf.undoneBy = some op
  | .pool _ => True

def VmOps.next : VmOpsMove → VmOps
  | .request op context => vm.request context op
  | .complete wf => vm.removeWorkflow wf
  | .rollback wf op => vm.turnBack wf op
  | .pool vmExists => { vm with vmExists }

def VmOpsStep (before : VmOps) (move : VmOpsMove) (after : VmOps) : Prop :=
  before.Possible move ∧ after = before.next move

/-- The pairs of operations of which the first may take the place of the second. -/
def preempts : VmOperation → VmOperation → Bool
  | .cancel, last => !([VmOperation.migrate, .coldMigrate, .liveMigrate, .plugInPdisk,
      .modifyVmcfg].contains last)
  | .reset, .reboot => true
  | .stop, .plugInPdisk | .stop, .plugOutPdisk => true
  | .destroy, .stop | .destroy, .plugInPdisk | .destroy, .plugOutPdisk => true
  | .cancelUploadImg, .uploadImg => true
  | _, _ => false

/-- The request took the place of what ran. -/
def Admission.Replaces (admission : Admission) : Prop :=
  ∀ wf ∈ admission.before, wf.operation ≠ admission.operation ∧
    preempts admission.operation wf.operation = true ∧ wf ∉ admission.after

/-- One operation at a time. -/
structure VmOps.OneAtATime : Prop where
  one : vm.running.length ≤ 1
  replaces : ∀ admission ∈ vm.admitted, admission.Replaces

/-- The builders that delete the workflow they find. -/
def replacesWorkflow (op running : VmOperation) : Bool :=
  match op with
  | .cancel => running ≠ .deploy
  | .reset | .stop | .destroy | .cancelUploadImg => true
  | _ => false

/-- A request that is let through while a workflow runs is no restoration, and the workflow that it
is to replace can be deleted. -/
def VmOps.Careful : VmOpsMove → Prop
  | .request op context => ∀ wf ∈ vm.running, vm.vmExists = true →
      vm.permits context op = true → context.created = true →
        (op = .restoreImageBackup → context.refused = true) ∧
          (replacesWorkflow op wf.operation = true → context.deleted = true)
  | _ => True

/-- A machine with one workflow at most. -/
def VmOps.start (vmExists : Bool) (running : Option VmWorkflow) : VmOps :=
  ⟨vmExists, running.toList, running.elim 0 (·.id + 1), []⟩

end Definitions

section Tables

theorem preempts_of_legal {op last : VmOperation} (legal : legalOperation op last = true)
    (noRestore : op ≠ .restoreImageBackup) : preempts op last = true := by
  revert legal noRestore
  cases op <;> cases last <;> decide

theorem legal_cases {op last : VmOperation} (legal : legalOperation op last = true) :
    op = .cancel ∨ op = .restoreImageBackup ∨ op ∈ [VmOperation.reset, .stop, .destroy,
      .cancelUploadImg] := by
  revert legal
  cases op <;> cases last <;> decide

end Tables

section Operations

variable {vm : VmOps} {context : OpContext} {wf : VmWorkflow} {op : VmOperation}

theorem getVmWorkFlowId_single (single : vm.running = [wf]) :
    vm.getVmWorkFlowId context = some wf := by
  simp only [VmOps.getVmWorkFlowId, single, List.length_singleton, Nat.mod_one,
    List.getElem?_cons_zero]

theorem getVmWorkFlowId_nil (idle : vm.running = []) : vm.getVmWorkFlowId context = none := by
  simp only [VmOps.getVmWorkFlowId, idle, List.getElem?_nil]

theorem workflowOf_nil (idle : vm.running = []) : vm.workflowOf op = none := by
  simp only [VmOps.workflowOf, idle, List.find?_nil]

theorem workflowOf_same (single : vm.running = [wf]) (same : wf.operation = op) :
    vm.workflowOf op = some wf := by
  simp only [VmOps.workflowOf, single, same, decide_true, List.find?_cons_of_pos]

theorem workflowOf_other (single : vm.running = [wf]) (other : wf.operation ≠ op) :
    vm.workflowOf op = none := by
  simp [VmOps.workflowOf, single, other]

/-- What a builder can do on a machine with nothing running: at most one creation. -/
def Starts (vm : VmOps) (context : OpContext) (after : VmOps) : Prop :=
  after = vm ∨ ∃ op undoneBy, after = vm.createWorkflow context op undoneBy

theorem addCommonWorkflow_idle (idle : vm.running = []) :
    vm.addCommonWorkflow context op = vm.createWorkflow context op none := by
  simp only [VmOps.addCommonWorkflow, VmOps.deleteVMWorkflow, getVmWorkFlowId_nil idle]

theorem createUnless_starts (there : List VmOperation) (undoneBy : Option VmOperation) :
    Starts vm context (vm.createUnless context there op undoneBy) := by
  rw [VmOps.createUnless]
  split
  · exact .inl rfl
  · split
    · exact .inl rfl
    · exact .inr ⟨op, undoneBy, rfl⟩

theorem operateCancelVM_idle (idle : vm.running = []) :
    Starts vm context (vm.operateCancelVM context) := by
  simp only [VmOps.operateCancelVM, workflowOf_nil idle, Option.isSome_none, Bool.false_eq_true,
    if_false, VmOps.addCancelWorkFLow, VmOps.deleteVMWorkflow, getVmWorkFlowId_nil idle]
  split
  · exact .inr ⟨.cancel, none, rfl⟩
  · exact .inl rfl

theorem doOperation_idle (idle : vm.running = []) :
    Starts vm context (vm.doOperation context op) := by
  have common (op : VmOperation) : Starts vm context (vm.addCommonWorkflow context op) :=
    .inr ⟨op, none, addCommonWorkflow_idle idle⟩
  have unlessRefused (op : VmOperation) : Starts vm context (vm.addUnlessRefused context op) := by
    rw [VmOps.addUnlessRefused]
    split
    · exact .inl rfl
    · exact common op
  cases op with
  | cancel => exact operateCancelVM_idle idle
  | plugOutPdisk =>
      show Starts vm context (vm.operateDetachPdisk context)
      rw [VmOps.operateDetachPdisk, workflowOf_nil idle]
      exact createUnless_starts _ _
  | plugInUsb | plugOutUsb | outInUsb | recoverImage => exact unlessRefused _
  | liveMigrate =>
      show Starts vm context (vm.createUnless context [] .liveMigrate (some .liveMigrate))
      exact createUnless_starts _ _
  | coldMigrate =>
      show Starts vm context (vm.createUnless context [] .coldMigrate (some .coldMigrate))
      exact createUnless_starts _ _
  | plugInPdisk | createImageBackup | deleteImageBackup | restoreImageBackup =>
      exact createUnless_starts _ _
  | modifyImageBackup => exact .inl rfl
  | freeze => exact .inr ⟨.freeze, none, rfl⟩
  | unfreeze => exact .inr ⟨.unfreeze, some .unfreeze, rfl⟩
  | _ => exact common _

theorem operateVM_idle (idle : vm.running = []) :
    Starts vm context (vm.operateVM context op) := by
  rw [VmOps.operateVM]
  split
  · rw [VmOps.modifyVmCfg]
    split
    · exact .inl rfl
    · exact .inr ⟨_, _, rfl⟩
  · split
    · split
      · exact doOperation_idle idle
      · exact .inl rfl
    · split
      · exact operateCancelVM_idle idle
      · exact .inl rfl

theorem permits_single (single : vm.running = [wf]) (permitted : vm.permits context op = true) :
    wf.operation ≠ op ∧ legalOperation op wf.operation = true := by
  simp only [VmOps.permits, getVmWorkFlowId_single single, Option.all_some, Bool.and_eq_true,
    decide_eq_true_eq] at permitted
  exact permitted.1.1.1

/-- What a request can do while a workflow runs. -/
inductive Interrupts (vm : VmOps) (context : OpContext) (wf : VmWorkflow) (op : VmOperation) :
    VmOps → Prop
  | nothing : Interrupts vm context wf op vm
  | besides (isRestore : op = .restoreImageBackup) (present : vm.vmExists = true)
      (permitted : vm.permits context op = true) (accepted : context.refused = false) :
      Interrupts vm context wf op (vm.createWorkflow context op none)
  | replaced (replaces : replacesWorkflow op wf.operation = true) (present : vm.vmExists = true)
      (permitted : vm.permits context op = true) :
      Interrupts vm context wf op ((vm.deleteVMWorkflow context).createWorkflow context op none)
  | undone (isCancel : op = .cancel) (isDeploy : wf.operation = .deploy) :
      Interrupts vm context wf op (vm.rollbackWorkflow context wf)

theorem operateCancelVM_deploy (single : vm.running = [wf]) (isDeploy : wf.operation = .deploy) :
    vm.operateCancelVM context = vm.rollbackWorkflow context wf := by
  rw [VmOps.operateCancelVM, workflowOf_same single isDeploy]

theorem operateCancelVM_other (single : vm.running = [wf]) (other : wf.operation ≠ .deploy)
    (noCancel : wf.operation ≠ .cancel) (present : vm.vmExists = true) :
    vm.operateCancelVM context =
      (vm.deleteVMWorkflow context).createWorkflow context .cancel none := by
  simp only [VmOps.operateCancelVM, workflowOf_other single other,
    workflowOf_other single noCancel, present, VmOps.addCancelWorkFLow, Option.isSome_none,
    Bool.false_eq_true, if_false, if_true]

theorem operateCancelVM_absent (single : vm.running = [wf]) (absent : vm.vmExists = false) :
    Interrupts vm context wf .cancel (vm.operateCancelVM context) := by
  by_cases isDeploy : wf.operation = .deploy
  · rw [operateCancelVM_deploy single isDeploy]
    exact .undone rfl isDeploy
  · simp only [VmOps.operateCancelVM, workflowOf_other single isDeploy, absent,
      Bool.false_eq_true, if_false, ite_self]
    exact .nothing

theorem doOperation_replaces (single : vm.running = [wf]) (other : wf.operation ≠ op)
    (present : vm.vmExists = true) (replaces : replacesWorkflow op wf.operation = true) :
    vm.doOperation context op =
      (vm.deleteVMWorkflow context).createWorkflow context op none := by
  cases op with
  | cancel => exact operateCancelVM_other single (of_decide_eq_true replaces) other present
  | reset | stop | destroy | cancelUploadImg => rfl
  | _ => exact Bool.noConfusion replaces

theorem operateRestoreVM_single (single : vm.running = [wf])
    (other : wf.operation ≠ .restoreImageBackup) :
    vm.operateRestoreVM context =
      if context.refused then vm else vm.createWorkflow context .restoreImageBackup none := by
  simp only [VmOps.operateRestoreVM, VmOps.createUnless, List.any_cons, List.any_nil,
    workflowOf_other single other, Option.isSome_none, Bool.or_self, Bool.false_eq_true, if_false]

theorem doOperation_single (single : vm.running = [wf]) (present : vm.vmExists = true)
    (permitted : vm.permits context op = true) :
    Interrupts vm context wf op (vm.doOperation context op) := by
  have ⟨other, legal⟩ := permits_single single permitted
  by_cases replaces : replacesWorkflow op wf.operation = true
  · rw [doOperation_replaces single other present replaces]
    exact .replaced replaces present permitted
  rcases legal_cases legal with rfl | rfl | member
  · have isDeploy : wf.operation = .deploy := by
      simpa only [replacesWorkflow, decide_eq_true_eq, ne_eq, Decidable.not_not] using replaces
    show Interrupts vm context wf .cancel (vm.operateCancelVM context)
    rw [operateCancelVM_deploy single isDeploy]
    exact .undone rfl isDeploy
  · show Interrupts vm context wf .restoreImageBackup (vm.operateRestoreVM context)
    rw [operateRestoreVM_single single other]
    cases accepted : context.refused
    · exact .besides rfl present permitted accepted
    · exact .nothing
  · simp only [List.mem_cons, List.not_mem_nil, or_false] at member
    rcases member with rfl | rfl | rfl | rfl
    all_goals exact absurd rfl replaces

theorem operateVM_single (single : vm.running = [wf]) :
    Interrupts vm context wf op (vm.operateVM context op) := by
  rw [VmOps.operateVM]
  split
  · have busy : (vm.getVmWorkFlowId context).isSome = true := by
      rw [getVmWorkFlowId_single single]
      rfl
    rw [VmOps.modifyVmCfg, busy, Bool.or_true, Bool.true_or, if_pos rfl]
    exact .nothing
  · split
    case isTrue present =>
      split
      case isTrue permitted => exact doOperation_single single present permitted
      case isFalse => exact .nothing
    case isFalse absent =>
      split
      case isTrue isCancel =>
        rw [isCancel]
        exact operateCancelVM_absent single (Bool.eq_false_iff.mpr absent)
      case isFalse => exact .nothing

end Operations

section Outcomes

variable {vm : VmOps} {context : OpContext} {wf : VmWorkflow} {op : VmOperation}

/-- The ids in use were drawn before. -/
def VmOps.Fresh (vm : VmOps) : Prop := ∀ wf ∈ vm.running, wf.id < vm.nextId

/-- What may follow a request on a machine with the given workflows. -/
structure Follows (vm after : VmOps) : Prop where
  admitted : after.admitted = vm.admitted
  fresh : after.Fresh
  /-- Either nothing runs that ran before, or everything. -/
  running : after.running = vm.running ∨
    (after.running.length ≤ 1 ∧ ∀ wf ∈ vm.running, wf ∉ after.running)

theorem createWorkflow_fails (fails : context.created = false) (undoneBy : Option VmOperation) :
    vm.createWorkflow context op undoneBy = vm := by
  rw [VmOps.createWorkflow, fails]
  rfl

theorem createWorkflow_grows (created : context.created = true)
    (undoneBy : Option VmOperation) :
    (vm.createWorkflow context op undoneBy).running.length = vm.running.length + 1 := by
  simp only [VmOps.createWorkflow, created, if_true, List.length_append, List.length_singleton]

theorem follows_refl (fresh : vm.Fresh) : Follows vm vm := ⟨rfl, fresh, .inl rfl⟩

/-- A workflow with a new id where nothing runs of what ran. -/
theorem follows_alone {after : VmOps} (fresh : vm.Fresh) (admitted : after.admitted = vm.admitted)
    {started : VmWorkflow} (id : started.id = vm.nextId) (alone : after.running = [started])
    (nextId : after.nextId = vm.nextId + 1) : Follows vm after := by
  refine ⟨admitted, ?_, .inr ⟨?_, ?_⟩⟩
  · intro wf member
    rw [alone, List.mem_singleton] at member
    rw [member, id, nextId]
    omega
  · rw [alone]
    exact Nat.le_refl 1
  · intro wf member later
    rw [alone, List.mem_singleton] at later
    have := fresh wf member
    rw [later, id] at this
    omega

theorem follows_none {after : VmOps} (admitted : after.admitted = vm.admitted)
    (idle : after.running = []) : Follows vm after := by
  refine ⟨admitted, ?_, .inr ⟨?_, ?_⟩⟩
  · intro wf member
    rw [idle] at member
    exact absurd member List.not_mem_nil
  · rw [idle]
    exact Nat.zero_le 1
  · intro wf _ later
    rw [idle] at later
    exact absurd later List.not_mem_nil

theorem createWorkflow_follows (fresh : vm.Fresh) (idle : vm.running = [])
    (undoneBy : Option VmOperation) :
    Follows vm (vm.createWorkflow context op undoneBy) := by
  cases created : context.created
  · rw [createWorkflow_fails created]
    exact follows_refl fresh
  · rw [VmOps.createWorkflow, created, idle]
    exact follows_alone fresh rfl rfl rfl rfl

theorem deleteVMWorkflow_deletes (single : vm.running = [wf]) (deleted : context.deleted = true) :
    vm.deleteVMWorkflow context = { vm with running := [] } := by
  simp only [VmOps.deleteVMWorkflow, getVmWorkFlowId_single single, deleted, if_true,
    VmOps.removeWorkflow, single]
  simp

theorem deleteVMWorkflow_fails (fails : context.deleted = false) :
    vm.deleteVMWorkflow context = vm := by
  rw [VmOps.deleteVMWorkflow, fails]
  cases vm.getVmWorkFlowId context <;> rfl

theorem replaced_follows (fresh : vm.Fresh) (single : vm.running = [wf])
    (deleted : context.deleted = true) :
    Follows vm ((vm.deleteVMWorkflow context).createWorkflow context op none) := by
  rw [deleteVMWorkflow_deletes single deleted]
  cases created : context.created
  · rw [createWorkflow_fails created]
    exact follows_none rfl rfl
  · rw [VmOps.createWorkflow, created]
    exact follows_alone fresh rfl rfl rfl rfl

theorem turnBack_running (single : vm.running = [wf]) :
    (vm.turnBack wf op).running = [⟨vm.nextId, op, true, none⟩] := by
  simp [VmOps.turnBack, single]

theorem undone_follows (fresh : vm.Fresh) (single : vm.running = [wf]) :
    Follows vm (vm.rollbackWorkflow context wf) := by
  rw [VmOps.rollbackWorkflow]
  split
  · split
    · exact follows_alone fresh rfl rfl (turnBack_running single) rfl
    · exact follows_refl fresh
  · exact follows_refl fresh

theorem length_le_one_cases (one : vm.running.length ≤ 1) :
    vm.running = [] ∨ ∃ wf, vm.running = [wf] := by
  rcases Nat.le_one_iff_eq_zero_or_eq_one.mp one with zero | single
  · exact .inl (List.length_eq_zero_iff.mp zero)
  · exact .inr (List.length_eq_one_iff.mp single)

theorem running_single (one : vm.running.length ≤ 1) (running : wf ∈ vm.running) :
    vm.running = [wf] := by
  have ⟨other, single⟩ := (length_le_one_cases one).resolve_left (List.ne_nil_of_mem running)
  have same : wf = other := by
    rw [single] at running
    exact List.mem_singleton.mp running
  rw [same]
  exact single

/-- Two workflows run when a builder creates besides the one that is there. -/
theorem createWorkflow_crowds (created : context.created = true) (single : vm.running = [wf])
    (undoneBy : Option VmOperation) :
    ¬ (vm.createWorkflow context op undoneBy).running.length ≤ 1 := by
  rw [createWorkflow_grows created, single, List.length_singleton]
  omega

theorem interrupts_follows (fresh : vm.Fresh) (single : vm.running = [wf])
    (careful : vm.Careful (.request op context)) {after : VmOps}
    (outcome : Interrupts vm context wf op after) : Follows vm after := by
  have member : wf ∈ vm.running := by
    rw [single]
    exact List.mem_singleton.mpr rfl
  cases outcome with
  | nothing => exact follows_refl fresh
  | besides isRestore present permitted accepted =>
      cases created : context.created
      · rw [createWorkflow_fails created]
        exact follows_refl fresh
      · have refused := (careful wf member present permitted created).1 isRestore
        rw [accepted] at refused
        exact Bool.noConfusion refused
  | replaced replaces present permitted =>
      cases created : context.created
      · rw [createWorkflow_fails created]
        cases deleted : context.deleted
        · rw [deleteVMWorkflow_fails deleted]
          exact follows_refl fresh
        · rw [deleteVMWorkflow_deletes single deleted]
          exact follows_none rfl rfl
      · have deleted := (careful wf member present permitted created).2 replaces
        exact replaced_follows fresh single deleted
  | undone isCancel isDeploy => exact undone_follows fresh single

theorem careful_follows (fresh : vm.Fresh) (one : vm.running.length ≤ 1)
    (careful : vm.Careful (.request op context)) : Follows vm (vm.operateVM context op) := by
  rcases length_le_one_cases one with idle | ⟨wf, single⟩
  · have outcome : Starts vm context (vm.operateVM context op) := operateVM_idle idle
    rcases outcome with same | ⟨op', undoneBy, starts⟩
    · rw [same]
      exact follows_refl fresh
    · rw [starts]
      exact createWorkflow_follows fresh idle undoneBy
  · exact interrupts_follows fresh single careful (operateVM_single single)

/-- The request takes the place of a workflow that it may preempt, or nothing changes. -/
theorem interrupts_preempts (single : vm.running = [wf]) {after : VmOps}
    (outcome : Interrupts vm context wf op after) (changed : after.running ≠ vm.running)
    (one : after.running.length ≤ 1) :
    wf.operation ≠ op ∧ preempts op wf.operation = true := by
  cases outcome with
  | nothing => exact absurd rfl changed
  | besides isRestore present permitted accepted =>
      cases created : context.created
      · rw [createWorkflow_fails created] at changed
        exact absurd rfl changed
      · exact absurd one (createWorkflow_crowds created single none)
  | replaced replaces present permitted =>
      have ⟨other, legal⟩ := permits_single single permitted
      have noRestore : op ≠ .restoreImageBackup := by
        intro isRestore
        rw [isRestore] at replaces
        exact Bool.noConfusion replaces
      exact ⟨other, preempts_of_legal legal noRestore⟩
  | undone isCancel isDeploy =>
      rw [isCancel, isDeploy]
      decide

end Outcomes

section OneAtATime

variable {vm : VmOps} {context : OpContext} {op : VmOperation}

/-- What every step keeps. -/
structure VmOps.Kept (vm : VmOps) : Prop extends vm.OneAtATime where
  fresh : vm.Fresh

theorem request_running :
    (vm.request context op).running = (vm.operateVM context op).running := by
  rw [VmOps.request]
  split <;> rfl

theorem request_fresh (fresh : (vm.operateVM context op).Fresh) :
    (vm.request context op).Fresh := by
  rw [VmOps.request]
  split <;> exact fresh

theorem request_kept (kept : vm.Kept) (careful : vm.Careful (.request op context)) :
    (vm.request context op).Kept := by
  have follows := careful_follows kept.fresh kept.one careful
  have one : (vm.operateVM context op).running.length ≤ 1 := by
    rcases follows.running with same | ⟨one, _⟩
    · rw [same]
      exact kept.one
    · exact one
  refine ⟨⟨?_, ?_⟩, request_fresh follows.fresh⟩
  · rw [request_running]
    exact one
  · intro admission member
    rw [VmOps.request] at member
    split at member
    case isTrue =>
      rw [follows.admitted] at member
      exact kept.replaces admission member
    case isFalse changed =>
      simp only [follows.admitted, List.mem_append, List.mem_singleton] at member
      rcases member with before | rfl
      · exact kept.replaces admission before
      · intro wf running
        have single := running_single kept.one running
        have ⟨differs, may⟩ :=
          interrupts_preempts single (operateVM_single single) changed one
        refine ⟨differs, may, ?_⟩
        rcases follows.running with unchanged | ⟨_, gone⟩
        · exact absurd unchanged changed
        · exact gone wf running

/-- A request that leaves one workflow at most was a careful one. -/
theorem careful_of_one (kept : vm.Kept) (one : (vm.request context op).running.length ≤ 1) :
    vm.Careful (.request op context) := by
  intro wf running present permitted created
  have single := running_single kept.one running
  have ⟨differs, legal⟩ := permits_single single permitted
  have noModify : op ≠ .modifyVmcfg := by
    intro isModify
    rw [isModify] at legal
    exact Bool.noConfusion legal
  rw [request_running, VmOps.operateVM, if_neg noModify, if_pos present, if_pos permitted] at one
  constructor
  · intro isRestore
    subst isRestore
    cases accepted : context.refused
    · have restores : vm.doOperation context .restoreImageBackup =
          vm.createWorkflow context .restoreImageBackup none := by
        show vm.operateRestoreVM context = _
        rw [operateRestoreVM_single single differs, accepted]
        rfl
      rw [restores] at one
      exact absurd one (createWorkflow_crowds created single none)
    · rfl
  · intro replaces
    rw [doOperation_replaces single differs present replaces] at one
    cases deleted : context.deleted
    · rw [deleteVMWorkflow_fails deleted] at one
      exact absurd one (createWorkflow_crowds created single none)
    · rfl

theorem complete_kept (kept : vm.Kept) (wf : VmWorkflow) : (vm.removeWorkflow wf).Kept :=
  { one := Nat.le_trans (List.length_filter_le _ _) kept.one
    replaces := kept.replaces
    fresh := fun wf' member => kept.fresh wf' (List.mem_of_mem_filter member) }

theorem turnBack_kept (kept : vm.Kept) {wf : VmWorkflow} (running : wf ∈ vm.running) :
    (vm.turnBack wf op).Kept := by
  have single := running_single kept.one running
  have follows : Follows vm (vm.turnBack wf op) :=
    follows_alone kept.fresh rfl rfl (turnBack_running single) rfl
  refine ⟨⟨?_, kept.replaces⟩, follows.fresh⟩
  rw [turnBack_running single]
  exact Nat.le_refl 1

theorem next_kept (kept : vm.Kept) {move : VmOpsMove} (possible : vm.Possible move)
    (careful : vm.Careful move) : (vm.next move).Kept := by
  cases move with
  | request op context => exact request_kept kept careful
  | complete wf => exact complete_kept kept wf
  | rollback wf op => exact turnBack_kept kept possible.1
  | pool vmExists => exact ⟨⟨kept.one, kept.replaces⟩, kept.fresh⟩

theorem careful_of_next (kept : vm.Kept) {move : VmOpsMove}
    (one : (vm.next move).running.length ≤ 1) : vm.Careful move := by
  cases move with
  | request op context => exact careful_of_one kept one
  | complete | rollback | pool => trivial

theorem start_kept (vmExists : Bool) (running : Option VmWorkflow) :
    (VmOps.start vmExists running).Kept := by
  refine ⟨⟨?_, ?_⟩, ?_⟩
  · cases running <;> simp [VmOps.start]
  · intro admission member
    exact absurd member List.not_mem_nil
  · cases running <;> simp [VmOps.start, VmOps.Fresh]

/-- One operation at a time: in every state that a run reaches, as long as its steps are careful
and no longer. -/
theorem one_at_a_time_iff (vmExists : Bool) (running : Option VmWorkflow)
    (moves : List VmOpsMove) (last : VmOps) :
    Run (Reaching VmOps.OneAtATime VmOpsStep) (VmOps.start vmExists running) moves last ↔
      Run (Guarded VmOps.Careful VmOpsStep) (VmOps.start vmExists running) moves last := by
  constructor
  · refine Run.convert (start_kept vmExists running) ?_
    intro before move after kept ⟨step, reached⟩
    have careful : before.Careful move := by
      apply careful_of_next kept
      rw [← step.2]
      exact reached.one
    refine ⟨⟨careful, step⟩, ?_⟩
    rw [step.2]
    exact next_kept kept step.1 careful
  · refine Run.convert (start_kept vmExists running) ?_
    intro before move after kept ⟨careful, step⟩
    have kept' : after.Kept := by
      rw [step.2]
      exact next_kept kept step.1 careful
    exact ⟨⟨step, kept'.toOneAtATime⟩, kept'⟩

/-- A restoration of a machine that is being started. -/
def restoreWhileStarting : VmOpsMove :=
  .request .restoreImageBackup
    ⟨0, .init, .shutoff, false, false, false, true, true, true⟩

theorem restored_besides_start :
    ∃ last, Run VmOpsStep (VmOps.start true (some ⟨0, .start, false, none⟩))
      [restoreWhileStarting] last ∧ ¬ last.OneAtATime := by
  refine ⟨_, Run.single ⟨trivial, rfl⟩, ?_⟩
  intro holds
  have two : ¬ ((VmOps.start true (some ⟨0, .start, false, none⟩)).next
      restoreWhileStarting).running.length ≤ 1 := by decide
  exact two holds.one

end OneAtATime

end Tecs.Vm
