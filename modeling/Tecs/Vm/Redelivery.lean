import Tecs.Library.KeyedList
import Tecs.Vm.ImageBackups
import Tecs.Vm.UnfreezeVm

set_option autoImplicit false

/-! Acknowledgements that are delivered again, and the check for the VM of a message. -/

namespace Tecs.Vm.Redelivery

open Transition
open Unfreeze (FileUrl AuthBlockAck authBlockAck2FileUrl IMAGE_DEFAULT_FSTYPE)
open Backup (VmImgBackup VmImageBackupReq BackupState backupImgCreateSuccess
  backupImgDeleteSuccess)

section Data

structure VmDiskConfig where
  id : ℤ
  requestId : String
  target : String
  position : ℤ
  size : ℤ
  url : String
  shareUrl : FileUrl
  fstype : String
  isNeedRelease : Bool

def VmDiskConfig.invalid : VmDiskConfig where
  id := -1
  requestId := ""
  target := ""
  position := 0
  size := 0
  url := ""
  shareUrl := ⟨"", ⟨"", [], fun _ => none⟩⟩
  fstype := ""
  isNeedRelease := false

structure VmConfig where
  machine : VmDiskConfig
  initrd : VmDiskConfig
  kernel : VmDiskConfig
  disks : List VmDiskConfig

/-- A row of `vm_disk`. -/
structure DiskRow where
  vid : ℤ
  target : String
  size : ℤ
  position : ℤ
  requestId : String
  accessUrl : FileUrl
  isNeedRelease : Bool

def VmDiskConfig.row (vid : ℤ) (disk : VmDiskConfig) : DiskRow :=
  ⟨vid, disk.target, disk.size, disk.position, disk.requestId, disk.shareUrl, disk.isNeedRelease⟩

/-- The configurations in the pool, the rows of `vm_disk`, the keys of `vm_image` and the rows of
`vm_image_backup`; and how the address of a file is written in a column. -/
structure VmData where
  vms : ℤ → Option VmConfig
  vmDisk : List DiskRow
  vmImage : List (ℤ × String)
  imageBackup : List VmImgBackup
  urlText : FileUrl → String

def VmData.update (data : VmData) (vid : ℤ) (config : VmConfig) : VmData :=
  { data with vms := Function.update data.vms vid (some config) }

/-- The same virtual machines, disks and backups. -/
structure VmData.Same (data other : VmData) : Prop where
  vms : data.vms = other.vms
  vmDisk : data.vmDisk = other.vmDisk
  imageBackup : data.imageBackup = other.imageBackup

end Data

section Actions

/-- Further feedbacks are asserted not to be. -/
inductive Feedback
  | null | restartAction | rollbackWorkflow | deleteWorkflow | endVmop | updateVmlocalimage
  | updateVmshareimage | updateVmshareblock | migrateAddVmshareimage | coldmigrateAddVmshareimage
  | migrateAddVmshareblock | coldmigrateAddVmshareblock | deleteVmshareimage | deleteVmshareblock
  | pluginusbFailed | plugoutusbSuccessed | modifyPdiskreq | pluginPdisk | plugoutPdisk
  | modifyCreatesnapshot | migrateSuccess | createBackupimg | deleteBackupimg
  | ackvmopAndDeleteworkflow | ackvmopAndFinishaction | deleteMachine | insertMachine | other
deriving Repr, DecidableEq

structure ImageUrlPrepareAck where
  requestId : String
  url : String

/-- What the request of an action is when it is read as a request of each kind. -/
structure MessageReq where
  iscsiname : String
  deauthRequestId : String
  diskcfg : VmDiskConfig
  imageBackup : VmImageBackupReq

/-- And its acknowledgement; the last is the image that the labels of its workflow and the
acknowledgements there make. -/
structure MessageAck where
  prepare : ImageUrlPrepareAck
  authBlock : AuthBlockAck
  deauthRequestId : String
  machine : VmDiskConfig

structure VmAction where
  actionId : String
  workflowId : String
  vid : ℤ
  finished : Bool
  successFeedback : Feedback
  timeoutFeedback : Feedback
  failureFeedback : Feedback
  messageReq : MessageReq
  messageAck : MessageAck

structure ActionPool where
  rows : List VmAction
  keyed : (rows.map (·.actionId)).Nodup

variable (pool : ActionPool)

def ActionPool.getActionById (actionId : String) : Option VmAction :=
  pool.rows.find? (·.actionId = actionId)

def ActionPool.getUnfinishedActionsCount (workflowId : String) : ℕ :=
  pool.rows.countP fun action => action.workflowId = workflowId && !action.finished

def ActionPool.deleteWorkflow (workflowId : String) : ActionPool where
  rows := pool.rows.filter (·.workflowId ≠ workflowId)
  keyed := pool.keyed.sublist (List.filter_sublist.map _)

def VmAction.finish (actionId : String) (action : VmAction) : VmAction :=
  if action.actionId = actionId then { action with finished := true } else action

theorem finish_actionId (actionId : String) (action : VmAction) :
    (action.finish actionId).actionId = action.actionId := by
  unfold VmAction.finish
  split <;> rfl

def ActionPool.finishAction (action : VmAction) : ActionPool :=
  let count := pool.getUnfinishedActionsCount action.workflowId
  if count = 0 then pool
  else if count = 1 then pool.deleteWorkflow action.workflowId
  else
    { rows := pool.rows.map (VmAction.finish action.actionId)
      keyed := by
        rw [List.map_map, show (·.actionId) ∘ VmAction.finish action.actionId = (·.actionId) from
          funext (finish_actionId action.actionId)]
        exact pool.keyed }

/-- What a handler does with the action it was called for. -/
inductive Ending
  | keep | finish | delete
deriving Repr, DecidableEq

def ActionPool.end (action : VmAction) : Ending → ActionPool
  | .keep => pool
  | .finish => pool.finishAction action
  | .delete => pool.deleteWorkflow action.workflowId

end Actions

section Handlers

variable (data : VmData)

/-- The loop that stops at the first disk with the request: the disks and that one, if there is
one. -/
def setFirst (requestId : String) (f : VmDiskConfig → VmDiskConfig) :
    List VmDiskConfig → Option (List VmDiskConfig × VmDiskConfig)
  | [] => none
  | disk :: disks =>
      if disk.requestId = requestId then some (f disk :: disks, f disk)
      else (setFirst requestId f disks).map fun found => (disk :: found.1, found.2)

def VmConfig.setDisk (config : VmConfig) (requestId : String) (f : VmDiskConfig → VmDiskConfig) :
    Option (VmConfig × VmDiskConfig) :=
  (setFirst requestId f config.disks).map fun found => ({ config with disks := found.1 }, found.2)

def VmConfig.setImage (config : VmConfig) (requestId : String)
    (f : VmDiskConfig → VmDiskConfig) : Option (VmConfig × VmDiskConfig) :=
  if config.machine.requestId = requestId then
    some ({ config with machine := f config.machine }, f config.machine)
  else if config.initrd.requestId = requestId then
    some ({ config with initrd := f config.initrd }, f config.initrd)
  else if config.kernel.requestId = requestId then
    some ({ config with kernel := f config.kernel }, f config.kernel)
  else config.setDisk requestId f

/-- No result where the VM is not in the pool, or there is no disk with the request. -/
def updateVMLocalImage (vid : ℤ) (ack : ImageUrlPrepareAck) : Option VmData :=
  (data.vms vid).bind fun config =>
    (config.setImage ack.requestId fun disk => { disk with url := ack.url }).map fun found =>
      data.update vid found.1

def shareUrl (iscsiName : String) (ack : AuthBlockAck) (add : Bool) (disk : VmDiskConfig) :
    VmDiskConfig :=
  { disk with shareUrl := authBlockAck2FileUrl disk.shareUrl iscsiName ack add }

def shareImage (iscsiName : String) (ack : AuthBlockAck) (add : Bool) (disk : VmDiskConfig) :
    VmDiskConfig :=
  { shareUrl iscsiName ack add disk with fstype := IMAGE_DEFAULT_FSTYPE }

/-- The row of `vm_image` that is updated has its key as before. -/
def updateVMShareImage (iscsiName : String) (vid : ℤ) (ack : AuthBlockAck) (add : Bool) :
    Option VmData :=
  (data.vms vid).bind fun config =>
    (config.setImage ack.requestId (shareImage iscsiName ack add)).map fun found =>
      data.update vid found.1

/-- What the columns of `vm_disk` take. -/
def VmData.takes (row : DiskRow) : Bool :=
  row.target.length ≤ 16 && (0 ≤ row.position && row.position ≤ 2) &&
    row.requestId.length ≤ 64 && (data.urlText row.accessUrl).length ≤ 2048

/-- And those of `vm_image`. -/
def VmDiskConfig.isImage (image : VmDiskConfig) : Bool :=
  image.target.length ≤ 16 && (0 ≤ image.position && image.position ≤ 2)

/-- A text stands in the condition of a statement as it is. -/
def hasQuote (text : String) : Bool := text.toList.contains (Char.ofNat 39)

def DiskRow.isFor (vid : ℤ) (target : String) (row : DiskRow) : Bool :=
  row.vid = vid && row.target = target

def VmData.updateDisk (vid : ℤ) (disk : VmDiskConfig) (rows : List DiskRow) : List DiskRow :=
  if data.takes (disk.row vid) && !hasQuote disk.target then
    rows.map fun row => if row.isFor vid disk.target then disk.row vid else row
  else rows

def updateVMShareDisk (iscsiName : String) (vid : ℤ) (ack : AuthBlockAck) (add : Bool) :
    Option VmData :=
  (data.vms vid).bind fun config =>
    (config.setDisk ack.requestId (shareUrl iscsiName ack add)).map fun found =>
      { data.update vid found.1 with vmDisk := data.updateDisk vid found.2 data.vmDisk }

/-- A disk can be inserted: the columns take it, and there is none under its key. -/
def VmData.insertable (vid : ℤ) (disk : VmDiskConfig) : Bool :=
  data.takes (disk.row vid) && !data.vmDisk.any (DiskRow.isFor vid disk.target)

/-- The object in the pool has the disk also where the transaction fails. -/
def plugInPDiskSuccess (action : VmAction) : Option (VmData × Ending) :=
  (data.vms action.vid).map fun config =>
    let disk := action.messageReq.diskcfg
    let pushed := data.update action.vid { config with disks := config.disks ++ [disk] }
    if data.insertable action.vid disk then
      ({ pushed with vmDisk := data.vmDisk ++ [disk.row action.vid] }, .finish)
    else (pushed, .keep)

/-- The disk under the request that is plugged out. -/
def VmAction.named (action : VmAction) (disk : VmDiskConfig) : Bool :=
  disk.requestId = action.messageReq.deauthRequestId

/-- The object in the pool has lost the disk also where the transaction fails. -/
def plugOutPDiskSuccess (action : VmAction) : Option (VmData × Ending) :=
  (data.vms action.vid).map fun config =>
    match config.disks.find? action.named with
    | none => (data, .finish)
    | some disk =>
        let erased :=
          data.update action.vid { config with disks := config.disks.eraseP action.named }
        if hasQuote disk.target then (erased, .keep)
        else
          ({ erased with
              vmDisk := data.vmDisk.filter fun row => !row.isFor action.vid disk.target }, .finish)

/-- What the handlers of backups see. -/
def VmData.backupState : BackupState where
  vms vid := some
    ⟨⟨⟨"", 0⟩, 0, 0, []⟩, (data.vmImage.filter (·.1 = vid)).map (·.2), true⟩
  imageBackup := data.imageBackup
  actions := []
  nextId := 0

/-- Every selection and every commit is carried out. -/
def executed : Backup.Context :=
  ⟨none, false, true, true, true, true, true, true, true, true, true, true, true, true⟩

def backedUp (served : Status × BackupState) : VmData × Ending :=
  ({ data with imageBackup := served.2.imageBackup },
    if served.1 = .success then .finish else .keep)

/-- A backup of the image stands in the way of its deletion, the object has lost it then too. -/
def deleteVmMachine (vid : ℤ) : Option (VmData × Ending) :=
  (data.vms vid).map fun config =>
    let dropped := data.update vid { config with machine := .invalid }
    if hasQuote config.machine.target ||
        data.imageBackup.any (·.isFor vid config.machine.target) then (dropped, .finish)
    else
      ({ dropped with vmImage := data.vmImage.filter (· ≠ (vid, config.machine.target)) }, .finish)

def insertVmMachine (vid : ℤ) (image : VmDiskConfig) : Option (VmData × Ending) :=
  (data.vms vid).map fun config =>
    let set := data.update vid { config with machine := image }
    if !image.isImage || data.vmImage.contains (vid, image.target) then (set, .finish)
    else ({ set with vmImage := data.vmImage ++ [(vid, image.target)] }, .finish)

/-- No result where the source uses a VM or a disk that is not there. -/
def responseFeedback (func : Feedback) (action : VmAction) : Option (VmData × Ending) :=
  let req := action.messageReq
  let ack := action.messageAck
  let deauth : AuthBlockAck := { requestId := ack.deauthRequestId }
  let finished := fun next : VmData => (next, Ending.finish)
  match func with
  | .null | .restartAction | .rollbackWorkflow | .other => some (data, .keep)
  | .deleteWorkflow | .ackvmopAndDeleteworkflow => some (data, .delete)
  | .endVmop | .pluginusbFailed | .plugoutusbSuccessed | .modifyPdiskreq | .modifyCreatesnapshot
  | .migrateSuccess | .ackvmopAndFinishaction => some (data, .finish)
  | .updateVmlocalimage => (updateVMLocalImage data action.vid ack.prepare).map finished
  | .updateVmshareimage | .migrateAddVmshareimage | .coldmigrateAddVmshareimage =>
      (updateVMShareImage data req.iscsiname action.vid ack.authBlock true).map finished
  | .deleteVmshareimage =>
      (updateVMShareImage data req.iscsiname action.vid deauth false).map finished
  | .updateVmshareblock | .migrateAddVmshareblock | .coldmigrateAddVmshareblock =>
      (updateVMShareDisk data req.iscsiname action.vid ack.authBlock true).map finished
  | .deleteVmshareblock =>
      (updateVMShareDisk data req.iscsiname action.vid deauth false).map finished
  | .pluginPdisk => plugInPDiskSuccess data action
  | .plugoutPdisk => plugOutPDiskSuccess data action
  | .createBackupimg =>
      some (backedUp data (backupImgCreateSuccess data.backupState 0 req.imageBackup executed))
  | .deleteBackupimg =>
      some (backedUp data (backupImgDeleteSuccess data.backupState 0 req.imageBackup executed))
  | .deleteMachine => deleteVmMachine data action.vid
  | .insertMachine => insertVmMachine data action.vid ack.machine

end Handlers

section Messages

inductive AckState
  | success | timeout | failure
deriving Repr, DecidableEq

structure WorkAck where
  actionId : String
  state : AckState
deriving Repr, DecidableEq

def VmAction.feedback (action : VmAction) : AckState → Feedback
  | .success => action.successFeedback
  | .timeout => action.timeoutFeedback
  | .failure => action.failureFeedback

structure LifecycleState where
  data : VmData
  actionPool : ActionPool
  checkVm : Bool

variable (s : LifecycleState)

/-- The macro: no action where it leaves the case, which it also does without the lock of the
workflow. -/
def LifecycleState.getActionInfo (locked : Bool) (actionId : String) : Option VmAction :=
  if actionId = "" || !locked then none
  else
    match s.actionPool.getActionById actionId with
    | none => none
    | some action =>
        if s.checkVm && (s.data.vms action.vid).isNone then none else some action

/-- The case of `MessageEntry` for the acknowledgements. -/
def LifecycleState.acknowledge (locked : Bool) (ack : WorkAck) : Option LifecycleState :=
  match s.getActionInfo locked ack.actionId with
  | none => some s
  | some action =>
      (responseFeedback s.data (action.feedback ack.state) action).map fun done =>
        { s with data := done.1, actionPool := s.actionPool.end action done.2 }

/-- The same message a number of times. -/
def LifecycleState.deliver (ack : WorkAck) : ℕ → LifecycleState → Option LifecycleState
  | 0, s => some s
  | n + 1, s => (s.acknowledge true ack).bind (LifecycleState.deliver ack n)

/-- The message that is about a VM that may not be in the pool, and other messages. -/
inductive LifecycleMessage
  | ack (locked : Bool) (ack : WorkAck)
  | unselectHost (locked : Bool) (actionId : String)
  | other
deriving Repr, DecidableEq

/-- Of `FinishVMCancel` and of what other messages do only the flag is said. -/
def LifecycleStep (before : LifecycleState) (message : LifecycleMessage)
    (after : LifecycleState) : Prop :=
  match message with
  | .ack locked ack => before.acknowledge locked ack = some after
  | .unselectHost locked actionId =>
      match ({ before with checkVm := false } : LifecycleState).getActionInfo locked actionId with
      | none => after = { before with checkVm := false }
      | some _ => after.checkVm = true
  | .other => after.checkVm = before.checkVm

/-- Any number of deliveries of a message that get the lock is like one of it. -/
def LifecycleState.Repeatable (ack : WorkAck) : Prop :=
  ∀ one, s.acknowledge true ack = some one → ∀ n, ∃ many, one.deliver ack n = some many ∧
    many.data.Same one.data

/-- The action is the last one of its workflow that is not finished. -/
def LifecycleState.Last (action : VmAction) : Prop :=
  s.actionPool.getUnfinishedActionsCount action.workflowId = 1

/-- The deletion of the disk that is plugged out is carried out. -/
def VmAction.Deletes (action : VmAction) (config : VmConfig) : Prop :=
  ∀ disk ∈ config.disks.find? action.named, hasQuote disk.target = false

/-- A disk that is plugged in has its row inserted by the last action of the workflow, and no other
disk is left under the request of one that is plugged out unless its deletion is carried out with
the last action. -/
def LifecycleState.Fits (ack : WorkAck) : Prop :=
  ∀ action ∈ s.getActionInfo true ack.actionId, ∀ config ∈ s.data.vms action.vid,
    (action.feedback ack.state = .pluginPdisk →
      s.data.insertable action.vid action.messageReq.diskcfg = true ∧ s.Last action) ∧
    (action.feedback ack.state = .plugoutPdisk →
      config.disks.countP action.named ≤ 1 ∨ s.Last action ∧ action.Deletes config)

/-- The macro does not leave the case of the message that switches the check off. -/
def LifecycleState.Passes : LifecycleMessage → Prop
  | .unselectHost locked actionId =>
      (({ s with checkVm := false } : LifecycleState).getActionInfo locked actionId).isSome = true
  | _ => True

end Messages

section Disks

variable {requestId : String} {f : VmDiskConfig → VmDiskConfig}

/-- A change that leaves the request as it is, and that changes nothing the second time. -/
structure Settles (f : VmDiskConfig → VmDiskConfig) : Prop where
  requestId : ∀ disk, (f disk).requestId = disk.requestId
  again : ∀ disk, f (f disk) = f disk

theorem authBlockAck2FileUrl_again (url : FileUrl) (iscsiName : String) (ack : AuthBlockAck)
    (add : Bool) :
    authBlockAck2FileUrl (authBlockAck2FileUrl url iscsiName ack add) iscsiName ack add =
      authBlockAck2FileUrl url iscsiName ack add := by
  unfold authBlockAck2FileUrl Unfreeze.AuthTable.addAuth Unfreeze.AuthTable.delAuth
  by_cases untyped : ack.type = ""
  · cases add with
    | true => simp [untyped]
    | false => simp [untyped]
  · cases add with
    | true => simp [untyped]
    | false => simp [untyped]

theorem shareUrl_settles (iscsiName : String) (ack : AuthBlockAck) (add : Bool) :
    Settles (shareUrl iscsiName ack add) where
  requestId _ := rfl
  again disk := by
    unfold shareUrl
    rw [authBlockAck2FileUrl_again]

theorem shareImage_settles (iscsiName : String) (ack : AuthBlockAck) (add : Bool) :
    Settles (shareImage iscsiName ack add) where
  requestId _ := rfl
  again disk := by
    unfold shareImage shareUrl
    rw [authBlockAck2FileUrl_again]

theorem setFirst_again (settles : Settles f) : ∀ {disks : List VmDiskConfig}
    {found : List VmDiskConfig × VmDiskConfig},
    setFirst requestId f disks = some found → setFirst requestId f found.1 = some found := by
  intro disks
  induction disks with
  | nil =>
      intro found there
      cases there
  | cons disk disks ih =>
      intro found there
      unfold setFirst at there
      split at there
      · rename_i named
        cases there
        unfold setFirst
        rw [if_pos ((settles.requestId disk).trans named), settles.again]
      · rename_i other
        have ⟨later, inside, same⟩ := Option.map_eq_some_iff.mp there
        subst same
        unfold setFirst
        rw [if_neg other, ih inside]
        rfl

theorem setDisk_again (settles : Settles f) {config : VmConfig} {found : VmConfig × VmDiskConfig}
    (there : config.setDisk requestId f = some found) :
    found.1.setDisk requestId f = some found := by
  have ⟨disks, inside, same⟩ := Option.map_eq_some_iff.mp there
  subst same
  unfold VmConfig.setDisk
  rw [setFirst_again settles inside]
  rfl

/-- What is not the disk with the request stays so. -/
theorem setDisk_images {config : VmConfig} {found : VmConfig × VmDiskConfig}
    (there : config.setDisk requestId f = some found) :
    found.1.machine = config.machine ∧ found.1.initrd = config.initrd ∧
      found.1.kernel = config.kernel := by
  have ⟨disks, inside, same⟩ := Option.map_eq_some_iff.mp there
  subst same
  exact ⟨rfl, rfl, rfl⟩

theorem setImage_again (settles : Settles f) {config : VmConfig}
    {found : VmConfig × VmDiskConfig} (there : config.setImage requestId f = some found) :
    found.1.setImage requestId f = some found := by
  unfold VmConfig.setImage at there
  split at there
  · rename_i machine
    cases there
    unfold VmConfig.setImage
    rw [if_pos ((settles.requestId _).trans machine), settles.again]
  rename_i machine
  split at there
  · rename_i initrd
    cases there
    unfold VmConfig.setImage
    rw [if_neg machine, if_pos ((settles.requestId _).trans initrd), settles.again]
  rename_i initrd
  split at there
  · rename_i kernel
    cases there
    unfold VmConfig.setImage
    rw [if_neg machine, if_neg initrd, if_pos ((settles.requestId _).trans kernel),
      settles.again]
  · rename_i kernel
    have ⟨sameMachine, sameInitrd, sameKernel⟩ := setDisk_images there
    unfold VmConfig.setImage
    rw [sameMachine, if_neg machine, sameInitrd, if_neg initrd, sameKernel, if_neg kernel]
    exact setDisk_again settles there

theorem updateDisk_again (data : VmData) (vid : ℤ) (disk : VmDiskConfig) (rows : List DiskRow) :
    data.updateDisk vid disk (data.updateDisk vid disk rows) = data.updateDisk vid disk rows := by
  unfold VmData.updateDisk
  split
  · rw [List.map_map]
    apply List.map_congr_left
    intro row _
    rw [Function.comp_apply]
    by_cases named : row.isFor vid disk.target = true
    · rw [if_pos named, if_pos (by simp [DiskRow.isFor, VmDiskConfig.row])]
    · rw [if_neg named, if_neg named]
  · rfl

end Disks

section Handled

variable {data next : VmData} {vid : ℤ} {config : VmConfig}

@[simp] theorem update_vms (data : VmData) (vid : ℤ) (config : VmConfig) :
    (data.update vid config).vms vid = some config := Function.update_self ..

@[simp] theorem update_update (data : VmData) (vid : ℤ) (config : VmConfig) :
    (data.update vid config).update vid config = data.update vid config := by
  unfold VmData.update
  rw [Function.update_idem]

theorem VmData.Same.refl (data : VmData) : data.Same data := ⟨rfl, rfl, rfl⟩

theorem VmData.Same.trans {last : VmData} (first : last.Same next) (second : next.Same data) :
    last.Same data :=
  ⟨first.vms.trans second.vms, first.vmDisk.trans second.vmDisk,
    first.imageBackup.trans second.imageBackup⟩

theorem updateVMLocalImage_again {ack : ImageUrlPrepareAck}
    (done : updateVMLocalImage data vid ack = some next) :
    updateVMLocalImage next vid ack = some next := by
  have ⟨config, there, set⟩ := Option.bind_eq_some_iff.mp done
  have ⟨found, inside, same⟩ := Option.map_eq_some_iff.mp set
  subst same
  have settles : Settles fun disk => { disk with url := ack.url } := ⟨fun _ => rfl, fun _ => rfl⟩
  unfold updateVMLocalImage
  rw [update_vms, Option.bind_some, setImage_again settles inside, Option.map_some, update_update]

theorem updateVMShareImage_again {iscsiName : String} {ack : AuthBlockAck} {add : Bool}
    (done : updateVMShareImage data iscsiName vid ack add = some next) :
    updateVMShareImage next iscsiName vid ack add = some next := by
  have ⟨config, there, set⟩ := Option.bind_eq_some_iff.mp done
  have ⟨found, inside, same⟩ := Option.map_eq_some_iff.mp set
  subst same
  unfold updateVMShareImage
  rw [update_vms, Option.bind_some, setImage_again (shareImage_settles iscsiName ack add) inside,
    Option.map_some, update_update]

theorem updateVMShareDisk_again {iscsiName : String} {ack : AuthBlockAck} {add : Bool}
    (done : updateVMShareDisk data iscsiName vid ack add = some next) :
    updateVMShareDisk next iscsiName vid ack add = some next := by
  have ⟨config, there, set⟩ := Option.bind_eq_some_iff.mp done
  have ⟨found, inside, same⟩ := Option.map_eq_some_iff.mp set
  subst same
  unfold updateVMShareDisk
  change Option.bind (Function.update data.vms vid (some found.1) vid) _ = _
  rw [Function.update_self, Option.bind_some,
    setDisk_again (shareUrl_settles iscsiName ack add) inside, Option.map_some]
  change some ({ vms := _, vmDisk :=
    data.updateDisk vid found.2 (data.updateDisk vid found.2 _), .. }
    : VmData) = _
  unfold VmData.update
  rw [Function.update_idem, updateDisk_again]

theorem with_imageBackup (data : VmData) :
    ({ data with imageBackup := data.backupState.imageBackup } : VmData) = data := rfl

/-- A backup is there after its creation, or nothing was created. -/
theorem backupImgCreateSuccess_cases (s : BackupState) (req : VmImageBackupReq) :
    (backupImgCreateSuccess s 0 req executed).2.imageBackup = s.imageBackup ∨
      (backupImgCreateSuccess s 0 req executed).2.isImageBackupExist req.requestId = true := by
  unfold backupImgCreateSuccess
  split
  · exact Or.inl rfl
  split
  · exact Or.inl rfl
  split
  · exact Or.inl rfl
  cases inserted : (s.backed req.disk.target req.vid).insertImageBackup
      ⟨req.requestId, req.vid, req.disk.target, true, req.disk.requestId⟩ with
  | none => exact Or.inl rfl
  | some next =>
      have ⟨_, _, same⟩ := Backup.insertImageBackup_cases inserted
      subst same
      right
      rw [Backup.isImageBackupExist_iff]
      exact ⟨_, List.mem_append_right _ (List.mem_singleton.mpr rfl), rfl⟩

theorem backupImgDeleteSuccess_cases (s : BackupState) (req : VmImageBackupReq) :
    (backupImgDeleteSuccess s 0 req executed).2.imageBackup = s.imageBackup ∨
      (backupImgDeleteSuccess s 0 req executed).2.isImageBackupExist req.requestId = false := by
  unfold backupImgDeleteSuccess
  split
  · exact Or.inl rfl
  split
  · exact Or.inl rfl
  cases deleted : s.deleteImageBackup req.requestId executed with
  | error status => exact Or.inl rfl
  | ok next =>
      right
      unfold BackupState.deleteImageBackup at deleted
      rw [if_neg (by decide)] at deleted
      split at deleted
      · cases deleted
      rename_i row found
      rw [if_neg (by decide)] at deleted
      rw [if_neg (by decide)] at deleted
      cases deleted
      rw [Bool.eq_false_iff]
      intro there
      change BackupState.isImageBackupExist
        ((s.withoutRow row).moveSons row (s.getSonImageBackup req.requestId)) _ = true at there
      rw [Backup.isImageBackupExist_iff] at there
      have ⟨other, inside, named⟩ := there
      have ids := List.mem_map_of_mem (f := VmImgBackup.requestId) inside
      rw [Backup.moveSons_ids] at ids
      have ⟨old, left, unchanged⟩ := List.mem_map.mp ids
      have apart := of_decide_eq_true (List.mem_filter.mp left).2
      have same : row.requestId = req.requestId := by simpa using List.find?_some found
      exact apart (unchanged.trans (named.trans same.symm))

theorem create_again (data : VmData) (req : VmImageBackupReq) :
    let next := (backedUp data (backupImgCreateSuccess data.backupState 0 req executed)).1
    (backupImgCreateSuccess next.backupState 0 req executed).2.imageBackup = next.imageBackup := by
  dsimp only
  cases backupImgCreateSuccess_cases data.backupState req with
  | inl same =>
      unfold backedUp
      dsimp only
      rw [same, with_imageBackup, same]
  | inr there =>
      unfold backupImgCreateSuccess
      rw [if_pos]
      · rfl
      · exact there

theorem delete_again (data : VmData) (req : VmImageBackupReq) :
    let next := (backedUp data (backupImgDeleteSuccess data.backupState 0 req executed)).1
    (backupImgDeleteSuccess next.backupState 0 req executed).2.imageBackup = next.imageBackup := by
  dsimp only
  cases backupImgDeleteSuccess_cases data.backupState req with
  | inl same =>
      unfold backedUp
      dsimp only
      rw [same, with_imageBackup, same]
  | inr gone =>
      unfold backupImgDeleteSuccess
      rw [if_pos]
      · rfl
      · rw [Bool.not_eq_true']
        exact gone

theorem deleteVmMachine_again {ending : Ending}
    (done : deleteVmMachine data vid = some (next, ending)) :
    ∃ again ending', deleteVmMachine next vid = some (again, ending') ∧ again.Same next := by
  have ⟨config, there, set⟩ := Option.map_eq_some_iff.mp done
  dsimp only at set
  have machine : next.vms vid = some { config with machine := .invalid } := by
    split at set
    · cases set
      exact update_vms ..
    · cases set
      exact update_vms ..
  unfold deleteVmMachine
  rw [machine, Option.map_some]
  have same : Function.update next.vms vid (some { config with machine := .invalid }) = next.vms :=
    machine ▸ Function.update_eq_self vid next.vms
  dsimp only
  split
  · exact ⟨_, _, rfl, same, rfl, rfl⟩
  · exact ⟨_, _, rfl, same, rfl, rfl⟩

theorem insertVmMachine_again {image : VmDiskConfig} {ending : Ending}
    (done : insertVmMachine data vid image = some (next, ending)) :
    ∃ again ending', insertVmMachine next vid image = some (again, ending') ∧ again.Same next := by
  have ⟨config, there, set⟩ := Option.map_eq_some_iff.mp done
  dsimp only at set
  have machine : next.vms vid = some { config with machine := image } := by
    split at set
    · cases set
      exact update_vms ..
    · cases set
      exact update_vms ..
  unfold insertVmMachine
  rw [machine, Option.map_some]
  have same : Function.update next.vms vid (some { config with machine := image }) = next.vms :=
    machine ▸ Function.update_eq_self vid next.vms
  dsimp only
  split
  · exact ⟨_, _, rfl, same, rfl, rfl⟩
  · exact ⟨_, _, rfl, same, rfl, rfl⟩

variable {action : VmAction}

/-- The disks under the request that is plugged out. -/
def VmAction.requested (action : VmAction) (config : VmConfig) : ℕ :=
  config.disks.countP action.named

theorem eraseP_counts {α : Type} {p : α → Bool} {l : List α} {a : α} (inside : a ∈ l)
    (named : p a = true) :
    (l.eraseP p).length + 1 = l.length ∧ (l.eraseP p).countP p + 1 = l.countP p := by
  have ⟨b, front, back, _, first, whole, erased⟩ := List.exists_of_eraseP inside named
  rw [erased, whole]
  simp only [List.length_append, List.length_cons, List.countP_append, List.countP_cons, first,
    if_true]
  omega

theorem plugOut_cases {ending : Ending} (there : data.vms action.vid = some config)
    (done : plugOutPDiskSuccess data action = some (next, ending)) :
    (action.requested config = 0 ∧ next = data ∧ ending = .finish) ∨
      ∃ disk left, config.disks.find? action.named = some disk ∧
        next.vms action.vid = some left ∧ left.disks.length + 1 = config.disks.length ∧
        action.requested left + 1 = action.requested config ∧
        ending = if hasQuote disk.target then .keep else .finish := by
  unfold plugOutPDiskSuccess at done
  rw [there, Option.map_some, Option.some.injEq] at done
  dsimp only at done
  cases found : config.disks.find? action.named with
  | none =>
      rw [found] at done
      cases done
      exact Or.inl ⟨List.countP_eq_zero.mpr (List.find?_eq_none.mp found), rfl, rfl⟩
  | some disk =>
      rw [found] at done
      have counts := eraseP_counts (List.mem_of_find?_eq_some found) (List.find?_some found)
      refine Or.inr ⟨disk, { config with disks := config.disks.eraseP action.named }, rfl, ?_,
        counts.1, counts.2, ?_⟩
      · dsimp only at done
        split at done
        · cases done
          exact update_vms ..
        · cases done
          exact update_vms ..
      · dsimp only at done
        split at done
        · cases done
          rename_i quoted
          rw [if_pos quoted]
        · cases done
          rename_i plain
          rw [if_neg plain]

/-- At most one disk is under the request: afterwards none is, and nothing is left to do. -/
theorem plugOut_again {ending : Ending} (there : data.vms action.vid = some config)
    (single : action.requested config ≤ 1)
    (done : plugOutPDiskSuccess data action = some (next, ending)) :
    ∃ left, next.vms action.vid = some left ∧ action.requested left = 0 := by
  cases plugOut_cases there done with
  | inl none => exact ⟨config, none.2.1 ▸ there, none.1⟩
  | inr some =>
      have ⟨_, left, _, after, _, count, _⟩ := some
      exact ⟨left, after, by omega⟩

theorem plugOut_none (there : data.vms action.vid = some config)
    (none : action.requested config = 0) :
    plugOutPDiskSuccess data action = some (data, .finish) := by
  unfold plugOutPDiskSuccess
  have absent : config.disks.find? action.named = Option.none :=
    List.find?_eq_none.mpr (List.countP_eq_zero.mp none)
  rw [there, Option.map_some]
  dsimp only
  rw [absent]

end Handled

section Again

variable {data next : VmData} {action : VmAction} {ack : WorkAck}

/-- What stays of an action when it is finished. -/
def VmAction.done (action : VmAction) : VmAction := { action with finished := true }

theorem vid_done {other : VmAction} (same : other.done = action.done) :
    other.vid = action.vid := by
  change other.done.vid = action.done.vid
  rw [same]

theorem feedback_done {other : VmAction} (same : other.done = action.done) (state : AckState) :
    other.feedback state = action.feedback state := by
  change other.done.feedback state = action.done.feedback state
  rw [same]

theorem responseFeedback_done {other : VmAction} (same : other.done = action.done)
    (data : VmData) (func : Feedback) :
    responseFeedback data func other = responseFeedback data func action := by
  change responseFeedback data func other.done = responseFeedback data func action.done
  rw [same]

def Single (func : Feedback) (action : VmAction) (data : VmData) : Prop :=
  func = .plugoutPdisk → ∀ config ∈ data.vms action.vid, action.requested config ≤ 1

theorem single_of_ne {func : Feedback} (other : func ≠ .plugoutPdisk) :
    Single func action data := fun same => absurd same other

theorem again_of_settled (handler : VmData → Option VmData) {ending : Ending}
    (settled : ∀ next, handler data = some next → handler next = some next)
    (done : (handler data).map (fun next => (next, Ending.finish)) = some (next, ending)) :
    ∃ again ending',
      (handler next).map (fun next => (next, Ending.finish)) = some (again, ending') ∧
        again.Same next := by
  have ⟨found, there, same⟩ := Option.map_eq_some_iff.mp done
  cases same
  exact ⟨next, .finish, by rw [settled next there]; rfl, VmData.Same.refl next⟩

theorem shareImage_again {iscsiName : String} {vid : ℤ} {ack : AuthBlockAck} {add : Bool}
    {ending : Ending}
    (done : (updateVMShareImage data iscsiName vid ack add).map
      (fun next => (next, Ending.finish)) = some (next, ending)) :
    ∃ again ending', (updateVMShareImage next iscsiName vid ack add).map
      (fun next => (next, Ending.finish)) = some (again, ending') ∧ again.Same next :=
  again_of_settled (updateVMShareImage · iscsiName vid ack add)
    (fun _ => updateVMShareImage_again) done

theorem shareDisk_again {iscsiName : String} {vid : ℤ} {ack : AuthBlockAck} {add : Bool}
    {ending : Ending}
    (done : (updateVMShareDisk data iscsiName vid ack add).map
      (fun next => (next, Ending.finish)) = some (next, ending)) :
    ∃ again ending', (updateVMShareDisk next iscsiName vid ack add).map
      (fun next => (next, Ending.finish)) = some (again, ending') ∧ again.Same next :=
  again_of_settled (updateVMShareDisk · iscsiName vid ack add)
    (fun _ => updateVMShareDisk_again) done

/-- A handler that is called again finds nothing more to do, but for a disk that is plugged in. -/
theorem feedback_again {func : Feedback} {ending : Ending} (other : func ≠ .pluginPdisk)
    (single : Single func action data)
    (done : responseFeedback data func action = some (next, ending)) :
    (∃ again ending', responseFeedback next func action = some (again, ending') ∧
      again.Same next) ∧ Single func action next := by
  cases func with
  | pluginPdisk => exact absurd rfl other
  | plugoutPdisk =>
      have ⟨config, there, _⟩ := Option.map_eq_some_iff.mp done
      have ⟨left, after, gone⟩ := plugOut_again there (single rfl config there) done
      refine ⟨⟨next, .finish, plugOut_none after gone, VmData.Same.refl next⟩, fun _ => ?_⟩
      intro config' there'
      cases after.symm.trans there'
      omega
  | updateVmlocalimage =>
      exact ⟨again_of_settled (updateVMLocalImage · action.vid action.messageAck.prepare)
        (fun _ => updateVMLocalImage_again) done, single_of_ne (by decide)⟩
  | updateVmshareimage => exact ⟨shareImage_again done, single_of_ne (by decide)⟩
  | migrateAddVmshareimage => exact ⟨shareImage_again done, single_of_ne (by decide)⟩
  | coldmigrateAddVmshareimage => exact ⟨shareImage_again done, single_of_ne (by decide)⟩
  | deleteVmshareimage => exact ⟨shareImage_again done, single_of_ne (by decide)⟩
  | updateVmshareblock => exact ⟨shareDisk_again done, single_of_ne (by decide)⟩
  | migrateAddVmshareblock => exact ⟨shareDisk_again done, single_of_ne (by decide)⟩
  | coldmigrateAddVmshareblock => exact ⟨shareDisk_again done, single_of_ne (by decide)⟩
  | deleteVmshareblock => exact ⟨shareDisk_again done, single_of_ne (by decide)⟩
  | createBackupimg =>
      have same : next = (backedUp data (backupImgCreateSuccess data.backupState 0
          action.messageReq.imageBackup executed)).1 :=
        (congrArg Prod.fst (Option.some.inj done)).symm
      subst same
      exact ⟨⟨_, _, rfl, rfl, rfl, create_again data _⟩, single_of_ne (by decide)⟩
  | deleteBackupimg =>
      have same : next = (backedUp data (backupImgDeleteSuccess data.backupState 0
          action.messageReq.imageBackup executed)).1 :=
        (congrArg Prod.fst (Option.some.inj done)).symm
      subst same
      exact ⟨⟨_, _, rfl, rfl, rfl, delete_again data _⟩, single_of_ne (by decide)⟩
  | deleteMachine => exact ⟨deleteVmMachine_again done, single_of_ne (by decide)⟩
  | insertMachine => exact ⟨insertVmMachine_again done, single_of_ne (by decide)⟩
  | _ =>
      -- These handlers do nothing to the data.
      have same : next = data := (congrArg Prod.fst (Option.some.inj done)).symm
      exact ⟨⟨data, ending, same ▸ done, same ▸ VmData.Same.refl data⟩, single_of_ne (by decide)⟩

end Again

section Pool

variable {pool : ActionPool} {action other : VmAction} {actionId : String}

theorem getActionById_iff : pool.getActionById actionId = some action ↔
    action ∈ pool.rows ∧ action.actionId = actionId := by
  constructor
  · intro found
    exact ⟨List.mem_of_find?_eq_some found, by simpa using List.find?_some found⟩
  · rintro ⟨inside, rfl⟩
    exact @KeyedList.lookup_of_mem _ _ _ VmAction.actionId _ _ pool.keyed inside

/-- The action stays what it is, and may be finished. -/
theorem end_action {ending : Ending} (found : pool.getActionById actionId = some action)
    (after : (pool.end action ending).getActionById actionId = some other) :
    other.done = action.done := by
  have unique {row : VmAction} (inside : row ∈ pool.rows) (named : row.actionId = actionId) :
      row = action :=
    Option.some.inj ((getActionById_iff.mpr ⟨inside, named⟩).symm.trans found)
  have deleted (there : (pool.deleteWorkflow action.workflowId).getActionById actionId =
      some other) : other.done = action.done := by
    have ⟨inside, named⟩ := getActionById_iff.mp there
    rw [unique (List.mem_filter.mp inside).1 named]
  cases ending with
  | keep => exact congrArg VmAction.done (Option.some.inj (after.symm.trans found))
  | delete => exact deleted after
  | finish =>
      unfold ActionPool.end ActionPool.finishAction at after
      dsimp only at after
      split at after
      · exact congrArg VmAction.done (Option.some.inj (after.symm.trans found))
      split at after
      · exact deleted after
      · have ⟨inside, named⟩ := getActionById_iff.mp after
        have ⟨row, old, same⟩ := List.mem_map.mp inside
        subst same
        rw [finish_actionId] at named
        rw [unique old named]
        unfold VmAction.finish
        split <;> rfl

/-- With the last action the workflow is gone, and otherwise the action is still there. -/
theorem finishAction_last (found : pool.getActionById actionId = some action)
    (last : pool.getUnfinishedActionsCount action.workflowId = 1) :
    (pool.finishAction action).getActionById actionId = none := by
  unfold ActionPool.finishAction
  rw [last]
  cases after : (pool.deleteWorkflow action.workflowId).getActionById actionId with
  | none => exact after
  | some row =>
      have ⟨inside, named⟩ := getActionById_iff.mp after
      have ⟨old, kept⟩ := List.mem_filter.mp inside
      cases (getActionById_iff.mpr ⟨old, named⟩).symm.trans found
      exact absurd rfl (of_decide_eq_true kept)

theorem finishAction_stays (found : pool.getActionById actionId = some action)
    (more : pool.getUnfinishedActionsCount action.workflowId ≠ 1) :
    ∃ row, (pool.finishAction action).getActionById actionId = some row ∧
      row.done = action.done := by
  have there : ∃ row, (pool.finishAction action).getActionById actionId = some row := by
    unfold ActionPool.finishAction
    dsimp only
    split
    · exact ⟨action, found⟩
    have ⟨inside, named⟩ := getActionById_iff.mp found
    refine ⟨action.finish action.actionId, getActionById_iff.mpr ⟨?_, ?_⟩⟩
    · exact List.mem_map_of_mem inside
    · rw [finish_actionId, named]
  have ⟨row, after⟩ := there
  exact ⟨row, after, @end_action pool action row actionId .finish found after⟩

end Pool

section Deliveries

variable {s one : LifecycleState} {ack : WorkAck} {action : VmAction}

theorem getActionInfo_iff {actionId : String} :
    s.getActionInfo true actionId = some action ↔
      actionId ≠ "" ∧ s.actionPool.getActionById actionId = some action ∧
        (s.checkVm = true → (s.data.vms action.vid).isSome = true) := by
  unfold LifecycleState.getActionInfo
  rw [Bool.not_true, Bool.or_false]
  by_cases empty : actionId = ""
  · simp [empty]
  rw [if_neg (by simpa using empty)]
  cases found : s.actionPool.getActionById actionId with
  | none => simp
  | some row =>
      dsimp only
      split
      · rename_i missing
        rw [Bool.and_eq_true, Option.isNone_iff_eq_none] at missing
        constructor
        · intro equal
          cases equal
        · rintro ⟨_, same, exist⟩
          cases same
          have there := exist missing.1
          rw [missing.2] at there
          cases there
      · rename_i exist
        simp only [Option.some.injEq, empty, ne_eq, not_false_eq_true, true_and, iff_self_and]
        rintro rfl check
        rw [check, Bool.true_and, Option.isNone_iff_eq_none] at exist
        exact Option.isSome_iff_ne_none.mpr exist

theorem acknowledge_none {locked : Bool} (leaves : s.getActionInfo locked ack.actionId = none) :
    s.acknowledge locked ack = some s := by
  unfold LifecycleState.acknowledge
  rw [leaves]

theorem acknowledge_some {locked : Bool}
    (found : s.getActionInfo locked ack.actionId = some action) :
    s.acknowledge locked ack =
      (responseFeedback s.data (action.feedback ack.state) action).map fun done =>
        { s with data := done.1, actionPool := s.actionPool.end action done.2 } := by
  unfold LifecycleState.acknowledge
  rw [found]

theorem deliver_none (leaves : s.getActionInfo true ack.actionId = none) :
    ∀ n, s.deliver ack n = some s := by
  intro n
  induction n with
  | zero => rfl
  | succ n ih =>
      unfold LifecycleState.deliver
      rw [acknowledge_none leaves, Option.bind_some, ih]

/-- After a delivery whose handler can be called again. -/
theorem deliver_same (other : action.feedback ack.state ≠ .pluginPdisk) :
    ∀ {n : ℕ} {s : LifecycleState} {prev : VmData} {ending : Ending},
      Single (action.feedback ack.state) action prev →
      responseFeedback prev (action.feedback ack.state) action = some (s.data, ending) →
      (∀ row, s.getActionInfo true ack.actionId = some row → row.done = action.done) →
      ∃ many, s.deliver ack n = some many ∧ many.data.Same s.data := by
  intro n
  induction n with
  | zero => exact fun {s _ _} _ _ _ => ⟨s, rfl, VmData.Same.refl s.data⟩
  | succ n ih =>
      intro s prev ending single done only
      cases found : s.getActionInfo true ack.actionId with
      | none => exact ⟨s, deliver_none found (n + 1), VmData.Same.refl s.data⟩
      | some row =>
          have same := only row found
          have ⟨⟨again, ending', handled, equal⟩, single'⟩ := feedback_again other single done
          have served : responseFeedback s.data (row.feedback ack.state) row =
              some (again, ending') := by
            rw [feedback_done same, responseFeedback_done same, handled]
          have ⟨many, delivered, kept⟩ := @ih
            { s with data := again, actionPool := s.actionPool.end row ending' } s.data ending'
            single' handled (by
              intro later there
              have before := (getActionInfo_iff.mp found).2.1
              exact (end_action before (getActionInfo_iff.mp there).2.1).trans same)
          refine ⟨many, ?_, kept.trans equal⟩
          unfold LifecycleState.deliver
          rw [acknowledge_some found, served]
          exact delivered

/-- Where the action is still there a second delivery calls the handler again. -/
theorem second_same {row : VmAction} {again : VmData} {ending : Ending}
    (repeatable : s.Repeatable ack) (first : s.acknowledge true ack = some one)
    (found : one.getActionInfo true ack.actionId = some row) (same : row.done = action.done)
    (handled : responseFeedback one.data (action.feedback ack.state) action =
      some (again, ending)) : again.Same one.data := by
  have ⟨many, delivered, kept⟩ := repeatable one first 1
  unfold LifecycleState.deliver at delivered
  rw [acknowledge_some found, feedback_done same, responseFeedback_done same, handled] at delivered
  cases delivered
  exact kept

theorem plugIn_cases {data next : VmData} {config : VmConfig} {ending : Ending}
    (there : data.vms action.vid = some config)
    (done : plugInPDiskSuccess data action = some (next, ending)) :
    next.vms action.vid =
        some { config with disks := config.disks ++ [action.messageReq.diskcfg] } ∧
      ending = if data.insertable action.vid action.messageReq.diskcfg then .finish else .keep := by
  unfold plugInPDiskSuccess at done
  rw [there, Option.map_some, Option.some.injEq] at done
  dsimp only at done
  split at done
  · rename_i inserted
    cases done
    exact ⟨update_vms .., by rw [if_pos inserted]⟩
  · rename_i refused
    cases done
    exact ⟨update_vms .., by rw [if_neg refused]⟩

/-- The object in the pool has a disk more after each delivery. -/
theorem plugIn_repeatable {config : VmConfig} (repeatable : s.Repeatable ack)
    (found : s.getActionInfo true ack.actionId = some action)
    (there : s.data.vms action.vid = some config)
    (plugIn : action.feedback ack.state = .pluginPdisk) :
    s.data.insertable action.vid action.messageReq.diskcfg = true ∧ s.Last action := by
  have ⟨named, inPool, _⟩ := getActionInfo_iff.mp found
  have total (data : VmData) (config : VmConfig) (there : data.vms action.vid = some config) :
      ∃ next ending, plugInPDiskSuccess data action = some (next, ending) := by
    unfold plugInPDiskSuccess
    rw [there]
    exact ⟨_, _, rfl⟩
  have ⟨next, ending, done⟩ := total s.data config there
  have ⟨pushed, ended⟩ := plugIn_cases there done
  have ⟨again, ending', done'⟩ := total next _ pushed
  have ⟨pushed', _⟩ := plugIn_cases pushed done'
  have first : s.acknowledge true ack =
      some { s with data := next, actionPool := s.actionPool.end action ending } := by
    rw [acknowledge_some found, plugIn]
    change (plugInPDiskSuccess s.data action).map _ = _
    rw [done]
    rfl
  by_contra short
  have stays : ∃ row, (s.actionPool.end action ending).getActionById ack.actionId = some row ∧
      row.done = action.done := by
    by_cases inserted : s.data.insertable action.vid action.messageReq.diskcfg = true
    · rw [if_pos inserted] at ended
      subst ended
      exact finishAction_stays inPool fun last => short ⟨inserted, last⟩
    · rw [if_neg inserted] at ended
      subst ended
      exact ⟨action, inPool, rfl⟩
  have ⟨row, left, same⟩ := stays
  have vid := vid_done same
  have seen : LifecycleState.getActionInfo
      { s with data := next, actionPool := s.actionPool.end action ending } true ack.actionId =
      some row := by
    refine getActionInfo_iff.mpr ⟨named, left, fun _ => ?_⟩
    change (next.vms row.vid).isSome = true
    rw [vid, pushed]
    rfl
  have equal := second_same repeatable first seen same (by rw [plugIn]; exact done')
  have lists := congrFun equal.vms action.vid
  rw [pushed'] at lists
  have shorter := congrArg (fun config : Option VmConfig => config.map (·.disks.length))
    (lists.trans pushed)
  simp at shorter

/-- And a disk less where there is another one under the request. -/
theorem plugOut_repeatable {config : VmConfig} (repeatable : s.Repeatable ack)
    (found : s.getActionInfo true ack.actionId = some action)
    (there : s.data.vms action.vid = some config)
    (plugOut : action.feedback ack.state = .plugoutPdisk) :
    action.requested config ≤ 1 ∨ s.Last action ∧ action.Deletes config := by
  have ⟨named, inPool, _⟩ := getActionInfo_iff.mp found
  have total (data : VmData) (config : VmConfig) (there : data.vms action.vid = some config) :
      ∃ next ending, plugOutPDiskSuccess data action = some (next, ending) := by
    unfold plugOutPDiskSuccess
    rw [there]
    exact ⟨_, _, rfl⟩
  have ⟨next, ending, done⟩ := total s.data config there
  have first : s.acknowledge true ack =
      some { s with data := next, actionPool := s.actionPool.end action ending } := by
    rw [acknowledge_some found, plugOut]
    change (plugOutPDiskSuccess s.data action).map _ = _
    rw [done]
    rfl
  by_contra many
  rw [not_or, not_le] at many
  have ⟨disk, left, read, after, _, count, ended⟩ :=
    (plugOut_cases there done).resolve_left fun none => by omega
  have ⟨again, ending', done'⟩ := total next left after
  have ⟨_, rest, _, after', length, _, _⟩ :=
    (plugOut_cases after done').resolve_left fun none => by omega
  have stays : ∃ row, (s.actionPool.end action ending).getActionById ack.actionId = some row ∧
      row.done = action.done := by
    by_cases quoted : hasQuote disk.target = true
    · rw [if_pos quoted] at ended
      subst ended
      exact ⟨action, inPool, rfl⟩
    · rw [if_neg quoted] at ended
      subst ended
      refine finishAction_stays inPool fun last => many.2 ⟨last, fun other there => ?_⟩
      cases read.symm.trans there
      simpa using quoted
  have ⟨row, stays, same⟩ := stays
  have vid := vid_done same
  have seen : LifecycleState.getActionInfo
      { s with data := next, actionPool := s.actionPool.end action ending } true ack.actionId =
      some row := by
    refine getActionInfo_iff.mpr ⟨named, stays, fun _ => ?_⟩
    change (next.vms row.vid).isSome = true
    rw [vid, after]
    rfl
  have equal := second_same repeatable first seen same (by rw [plugOut]; exact done')
  have lists := congrFun equal.vms action.vid
  rw [after'] at lists
  cases lists.trans after
  omega

theorem repeatable_of_fits (fits : s.Fits ack) : s.Repeatable ack := by
  intro one first n
  cases found : s.getActionInfo true ack.actionId with
  | none =>
      rw [acknowledge_none found] at first
      cases first
      exact ⟨s, deliver_none found n, VmData.Same.refl s.data⟩
  | some action =>
      have ⟨named, inPool, _⟩ := getActionInfo_iff.mp found
      rw [acknowledge_some found] at first
      have ⟨done, handled, same⟩ := Option.map_eq_some_iff.mp first
      subst same
      have gone (last : s.Last action) (ended : done.2 = .finish) :
          ∃ many, LifecycleState.deliver ack n
            { s with data := done.1, actionPool := s.actionPool.end action done.2 } = some many ∧
              many.data.Same done.1 := by
        refine ⟨_, deliver_none ?_ n, VmData.Same.refl done.1⟩
        by_contra some
        have ⟨row, there⟩ := Option.ne_none_iff_exists'.mp some
        have later := (getActionInfo_iff.mp there).2.1
        rw [ended] at later
        exact absurd ((finishAction_last inPool last).symm.trans later) (by simp)
      by_cases plugIn : action.feedback ack.state = .pluginPdisk
      · rw [plugIn] at handled
        have ⟨config, there, _⟩ := Option.map_eq_some_iff.mp handled
        have ⟨inserted, last⟩ := (fits action found config there).1 plugIn
        have ended := (plugIn_cases there handled).2
        rw [if_pos inserted] at ended
        exact gone last ended
      by_cases single : Single (action.feedback ack.state) action s.data
      · apply deliver_same plugIn single handled
        intro row there
        exact end_action inPool (getActionInfo_iff.mp there).2.1
      · unfold Single at single
        push Not at single
        have ⟨plugOut, config, there, many⟩ := single
        rw [plugOut] at handled
        have ⟨last, deletes⟩ := ((fits action found config there).2 plugOut).resolve_left (by
          change ¬ action.requested config ≤ 1
          omega)
        apply gone last
        cases plugOut_cases there handled with
        | inl none => exact none.2.2
        | inr some =>
            have ⟨disk, _, read, _, _, _, ended⟩ := some
            rw [ended, deletes disk read]
            rfl

theorem repeatable_iff (s : LifecycleState) (ack : WorkAck) : s.Repeatable ack ↔ s.Fits ack := by
  constructor
  · intro repeatable action found config there
    exact ⟨plugIn_repeatable repeatable found there, plugOut_repeatable repeatable found there⟩
  · exact repeatable_of_fits

end Deliveries

section Check

variable {before after : LifecycleState} {message : LifecycleMessage}

/-- Only the message that switches the check off can leave it off. -/
theorem step_check (step : LifecycleStep before message after) (check : before.checkVm = true) :
    after.checkVm = true ↔ before.Passes message := by
  cases message with
  | ack locked ack =>
      have kept : after.checkVm = before.checkVm := by
        cases found : before.getActionInfo locked ack.actionId with
        | none =>
            rw [LifecycleStep, acknowledge_none found] at step
            cases step
            rfl
        | some action =>
            rw [LifecycleStep, acknowledge_some found] at step
            have ⟨_, _, same⟩ := Option.map_eq_some_iff.mp step
            subst same
            rfl
      exact iff_of_true (kept.trans check) trivial
  | unselectHost locked actionId =>
      unfold LifecycleStep at step
      unfold LifecycleState.Passes
      dsimp only at step ⊢
      cases found : LifecycleState.getActionInfo { before with checkVm := false } locked
          actionId with
      | none =>
          rw [found] at step
          subst step
          exact iff_of_false Bool.false_ne_true (by rw [Option.isSome_none]; decide)
      | some action =>
          rw [found] at step
          exact iff_of_true step rfl
  | other => exact iff_of_true (step.trans check) trivial

/-- The runs of messages in which the check is enabled in every state. -/
theorem check_iff {start last : LifecycleState} {messages : List LifecycleMessage}
    (check : start.checkVm = true) :
    Run (Reaching (·.checkVm = true) LifecycleStep) start messages last ↔
      Run (Guarded LifecycleState.Passes LifecycleStep) start messages last := by
  constructor
  · intro run
    apply Run.convert (P := fun s : LifecycleState => s.checkVm = true) check ?_ run
    intro before message after enabled step
    have ⟨taken, still⟩ := step
    exact ⟨⟨(step_check taken enabled).mp still, taken⟩, still⟩
  · intro run
    apply Run.convert (P := fun s : LifecycleState => s.checkVm = true) check ?_ run
    intro before message after enabled step
    have ⟨passes, taken⟩ := step
    have still := (step_check taken enabled).mpr passes
    exact ⟨⟨taken, still⟩, still⟩

/-- The flag as it is initialised. -/
def LifecycleState.enabled (s : LifecycleState) : LifecycleState := { s with checkVm := true }

/-- Which acknowledgements can be repeated, and in which runs the VM of every message is checked. -/
theorem lifecycle_right_iff (s : LifecycleState) :
    (∀ ack, s.Repeatable ack ↔ s.Fits ack) ∧
    ∀ messages last,
      Run (Reaching (·.checkVm = true) LifecycleStep) s.enabled messages last ↔
        Run (Guarded LifecycleState.Passes LifecycleStep) s.enabled messages last :=
  ⟨repeatable_iff s, fun _ _ => check_iff rfl⟩

/-- A disk under the key is there already, the machine has none in the pool. -/
def plugInState : LifecycleState where
  data :=
    { vms := fun vid => if vid = 1 then some ⟨.invalid, .invalid, .invalid, []⟩ else none
      vmDisk := [{ VmDiskConfig.invalid with target := "hdb" }.row 1]
      vmImage := []
      imageBackup := []
      urlText := fun url => url.accessType }
  actionPool :=
    { rows :=
        [⟨"attach", "wf", 1, false, .pluginPdisk, .null, .null,
          ⟨"", "", { VmDiskConfig.invalid with target := "hdb" }, ⟨0, 0, ⟨"", 0⟩, []⟩⟩,
          ⟨⟨"", ""⟩, ⟨"", "", [], "", 0⟩, "", .invalid⟩⟩]
      keyed := by decide }
  checkVm := true

/-- A disk that cannot be inserted is in the pool as often as its success is delivered, and a
message without an action switches the check off. -/
theorem repeated_and_unchecked :
    ¬ plugInState.Repeatable ⟨"attach", .success⟩ ∧
      LifecycleStep plugInState (.unselectHost true "") { plugInState with checkVm := false } := by
  constructor
  · intro repeatable
    have fits := (repeatable_iff plugInState ⟨"attach", .success⟩).mp repeatable
    have inserted := ((fits _ rfl _ rfl).1 rfl).1
    exact absurd inserted (by decide)
  · exact rfl

end Check


end Tecs.Vm.Redelivery
