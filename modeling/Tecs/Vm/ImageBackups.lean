import Tecs.Library.Run
import Tecs.Sky.Errcode

set_option autoImplicit false

/-! The backups of the disk images of virtual machines: a tree of records for each disk, at most
one of which is active. -/

namespace Tecs

namespace Vm.Backup

open Transition

section Definitions

structure VmDiskConfig where
  target : String
  requestId : ℕ
deriving Repr, DecidableEq

structure VmConfig where
  machine : VmDiskConfig
  kernel : ℕ
  initrd : ℕ
  disks : List VmDiskConfig
deriving Repr, DecidableEq

/-- A row of `vm_pool` with the targets of its rows in `vm_image`, and whether the cached object is
still valid. -/
structure VirtualMachine where
  config : VmConfig
  images : List String
  valid : Bool
deriving Repr, DecidableEq

/-- A row of `vm_image_backup`. -/
structure VmImgBackup where
  requestId : ℕ
  vid : ℤ
  target : String
  active : Bool
  parentRequestId : ℕ
deriving Repr, DecidableEq

/-- The request to the host: the backup, and the disk, with the parent in place of its own id where
a backup is made. -/
structure VmImageBackupReq where
  requestId : ℕ
  vid : ℤ
  disk : VmDiskConfig
  sonRequestId : List ℕ
deriving Repr, DecidableEq

structure VmImageBackupOp where
  vid : ℤ
  requestId : ℕ
  target : String
deriving Repr, DecidableEq

inductive MessageReq
  | create (req : VmImageBackupReq)
  | delete (req : VmImageBackupReq)
  | restore (op : VmImageBackupOp)
deriving Repr, DecidableEq

/-- An action that was stored; it stays in the list when it is finished and deleted. -/
structure VmAction where
  id : ℕ
  messageReq : MessageReq
  finished : Bool
deriving Repr, DecidableEq

structure BackupState where
  vms : ℤ → Option VirtualMachine
  imageBackup : List VmImgBackup
  actions : List VmAction
  nextId : ℕ

/-- Which statements of a handler are carried out: the selections of a record, of the active
record, of the parent and of the children, the two updates, the deletion, which does not wait for
the transaction, the transaction, and the end of the action in it; and the answer of the checks
before an operation. -/
structure Context where
  refused : Option Status
  noSpace : Bool
  finishedRead : Bool
  existRead : Bool
  activeRead : Bool
  parentRead : Bool
  sonsRead : Bool
  againRead : Bool
  first : Bool
  second : Bool
  deleted : Bool
  created : Bool
  ended : Bool
  committed : Bool
deriving Repr, DecidableEq

def VmConfig.disk (config : VmConfig) (target : String) : Option VmDiskConfig :=
  if config.machine.target = target then some config.machine
  else config.disks.find? (·.target = target)

/-- The ids that a base may have. -/
def VmConfig.requestIds (config : VmConfig) : List ℕ :=
  config.machine.requestId :: config.kernel :: config.initrd :: config.disks.map (·.requestId)

def VmImgBackup.isFor (vid : ℤ) (target : String) (row : VmImgBackup) : Bool :=
  row.vid = vid && row.target = target

variable (s : BackupState)

def BackupState.isImageBackupExist (requestId : ℕ) : Bool :=
  s.imageBackup.any (·.requestId = requestId)

/-- The value of the last row that is read. -/
def BackupState.getActiveImageBackup (target : String) (vid : ℤ) : Option ℕ :=
  (s.imageBackup.filter fun row => row.active && row.isFor vid target).getLast?.map (·.requestId)

def BackupState.getSonImageBackup (requestId : ℕ) : List ℕ :=
  (s.imageBackup.filter (·.parentRequestId = requestId)).map (·.requestId)

/-- A selection that fails is taken as one without a result. -/
def BackupState.isBaseImageBackup (op : VmImageBackupOp) (context : Context) : Bool :=
  !(context.existRead && s.isImageBackupExist op.requestId) &&
    (context.parentRead && s.imageBackup.any fun row =>
      row.parentRequestId = op.requestId && row.isFor op.vid op.target)

def deactivate (target : String) (vid : ℤ) (row : VmImgBackup) : VmImgBackup :=
  if row.active && row.isFor vid target then { row with active := false } else row

/-- `SetImageBackupState`. -/
def BackupState.setImageBackupState (target : String) (vid : ℤ) : BackupState :=
  { s with imageBackup := s.imageBackup.map (deactivate target vid) }

/-- `UpdateImageBackup` of the state of one record. -/
def BackupState.updateImageBackup (requestId : ℕ) (active : Bool) : BackupState :=
  { s with imageBackup := s.imageBackup.map fun row =>
      if row.requestId = requestId then { row with active } else row }

/-- The records after the active one of a disk was set back. -/
def BackupState.backed (target : String) (vid : ℤ) : BackupState :=
  match s.getActiveImageBackup target vid with
  | some requestId => s.updateImageBackup requestId false
  | none => s

def BackupState.addAction (messageReq : MessageReq) : BackupState :=
  { s with
    actions := s.actions ++ [⟨s.nextId, messageReq, false⟩]
    nextId := s.nextId + 1 }

def BackupState.finishAction (id : ℕ) (ended : Bool) : BackupState :=
  { s with actions := s.actions.map fun action =>
      if action.id = id && ended then { action with finished := true } else action }

/-- `BackupImgCreate`: the parent is the active backup, and the disk itself if there is none or it
cannot be read. -/
def backupImgCreate (vid : ℤ) (target : String) (config : VmConfig) (context : Context) :
    Status × BackupState :=
  if context.noSpace then (.errorNoSpace, s)
  else
  match config.disk target with
  | none => (.errorObjectNotExist, s)
  | some disk =>
      let active := if context.activeRead then s.getActiveImageBackup target vid else none
      let req : VmImageBackupReq :=
        ⟨s.nextId, vid, { disk with requestId := active.getD disk.requestId }, []⟩
      let generated := { s with nextId := s.nextId + 1 }
      if context.created then (.errorActionRunning, generated.addAction (.create req))
      else (.error, generated)

/-- `BackupImgDelete`; a record that does not exist is answered like a workflow that was made. -/
def backupImgDelete (vid : ℤ) (requestId : ℕ) (config : VmConfig) (context : Context) :
    Status × BackupState :=
  if !context.existRead then (.errorDbSelectFail, s)
  else
    match s.imageBackup.find? (·.requestId = requestId) with
    | none => (.errorActionRunning, s)
    | some row =>
        if !context.activeRead then (.errorDbSelectFail, s)
        else if s.getActiveImageBackup row.target vid = some requestId then
          (.errorImgBackupActived, s)
        else if !context.sonsRead then (.errorDbSelectFail, s)
        else
          match config.disk row.target with
          | none => (.errorObjectNotExist, s)
          | some disk =>
              let req : VmImageBackupReq := ⟨requestId, vid, disk, s.getSonImageBackup requestId⟩
              if context.created then (.errorActionRunning, s.addAction (.delete req))
              else (.error, s)

/-- `OperateRestoreVM`. -/
def operateRestoreVM (op : VmImageBackupOp) (config : VmConfig) (context : Context) :
    Status × BackupState :=
  let restore := if context.created then (Status.errorActionRunning, s.addAction (.restore op))
    else (.error, s)
  if !context.activeRead then (.errorDbSelectFail, s)
  else
    match s.imageBackup.find? fun row => row.requestId = op.requestId && row.isFor op.vid op.target
    with
    | some row => if row.active then (.success, s) else restore
    | none =>
        if config.requestIds.contains op.requestId && s.isBaseImageBackup op context then restore
        else (.errObjectNotExist, s)

inductive BackupOperation
  | create (target : String)
  | delete (requestId : ℕ)
  | restore (requestId : ℕ) (target : String)
deriving Repr, DecidableEq

def operateVM (vid : ℤ) (operation : BackupOperation) (context : Context) :
    Status × BackupState :=
  match s.vms vid with
  | none => (.errVmNotExist, s)
  | some pvm =>
      if !pvm.valid then (.errObjectGetFailed, s)
      else
        match context.refused with
        | some status => (status, s)
        | none =>
            match operation with
            | .create target => backupImgCreate s vid target pvm.config context
            | .delete requestId => backupImgDelete s vid requestId pvm.config context
            | .restore requestId target =>
                operateRestoreVM s ⟨vid, requestId, target⟩ pvm.config context

/-- A row is inserted under its keys: the image exists, and no other row has its id. -/
def BackupState.insertImageBackup (row : VmImgBackup) : Option BackupState :=
  if (s.vms row.vid).any (·.images.contains row.target) &&
      !s.isImageBackupExist row.requestId then
    some { s with imageBackup := s.imageBackup ++ [row] }
  else none

/-- The statements of a transaction, and the end of the action among them. -/
def BackupState.commit (statements : Option BackupState) (id : ℕ) (context : Context) :
    Status × BackupState :=
  match statements with
  | some next =>
      if context.committed then (.success, next.finishAction id context.ended) else (.error, s)
  | none => (.error, s)

def backupImgCreateSuccess (id : ℕ) (req : VmImageBackupReq) (context : Context) :
    Status × BackupState :=
  if context.existRead && s.isImageBackupExist req.requestId then s.commit (some s) id context
  else if req.disk.target = "" then (.error, s)
  else if !context.activeRead then (.errorDbSelectFail, s)
  else
    s.commit ((s.backed req.disk.target req.vid).insertImageBackup
      ⟨req.requestId, req.vid, req.disk.target, true, req.disk.requestId⟩) id context

/-- The deletion, which is executed at once. -/
def BackupState.withoutRow (row : VmImgBackup) : BackupState :=
  { s with imageBackup := s.imageBackup.filter (·.requestId ≠ row.requestId) }

/-- The update of the children, which is left to the transaction. -/
def BackupState.moveSons (row : VmImgBackup) (sons : List ℕ) : BackupState :=
  { s with imageBackup := s.imageBackup.map fun son =>
      if son.requestId ∈ sons then { son with parentRequestId := row.parentRequestId } else son }

/-- `DeleteImageBackup` of the pool: the records after the deletion, and those after the
transaction. -/
def BackupState.deleteImageBackup (requestId : ℕ) (context : Context) :
    Except Status (BackupState × BackupState) :=
  if !context.parentRead then .error .errorDbSelectFail
  else
    match s.imageBackup.find? (·.requestId = requestId) with
    | none => .error .errorObjectNotExist
    | some row =>
        if !context.sonsRead then .error .errorDbSelectFail
        else if !context.deleted then .error .error
        else
          let deleted := s.withoutRow row
          .ok (deleted, deleted.moveSons row (s.getSonImageBackup requestId))

def backupImgDeleteSuccess (id : ℕ) (req : VmImageBackupReq) (context : Context) :
    Status × BackupState :=
  if !(context.existRead && s.isImageBackupExist req.requestId) then s.commit (some s) id context
  else if req.disk.target = "" then (.error, s)
  else
    match s.deleteImageBackup req.requestId context with
    | .error status => (status, s)
    | .ok (deleted, next) => deleted.commit (some next) id context

/-- `DealVmRestoreReq`: each statement is executed by itself. -/
def dealVmRestoreReq (op : VmImageBackupOp) (context : Context) : Status × BackupState :=
  if s.isBaseImageBackup op context then
    if context.first then (.success, s.setImageBackupState op.target op.vid) else (.error, s)
  else if !(context.againRead && s.isImageBackupExist op.requestId) then (.error, s)
  else if !context.first then (.error, s)
  else
    let backed := s.setImageBackupState op.target op.vid
    if context.second then (.success, backed.updateImageBackup op.requestId true)
    else (.error, backed)

/-- The machine goes, with its images; a record of a backup stands in the way. -/
def BackupState.dropVm (vid : ℤ) : Option BackupState :=
  if s.imageBackup.any (·.vid = vid) then none
  else some { s with vms := Function.update s.vms vid none }

def BackupState.deleteImageBackupByVid (vid : ℤ) (target : String) : BackupState :=
  { s with imageBackup := s.imageBackup.filter (!·.isFor vid target) }

/-- `FinishVMCancel`: the cached object is invalid from the first statement on, and the records
are deleted before the transaction drops the machine. -/
def finishVMCancel (vid : ℤ) (context : Context) : BackupState :=
  match s.vms vid with
  | none => s
  | some pvm =>
      if !pvm.valid then s
      else
        let cleared :=
          if context.deleted then s.deleteImageBackupByVid vid pvm.config.machine.target else s
        match (cleared.dropVm vid).filter fun _ => context.committed with
        | some next => next
        | none =>
            { cleared with vms := Function.update s.vms vid (some { pvm with valid := false }) }

/-- A request, the success of the host, the request that a restore is made of, the end of a
restore, and the last action of a cancel. -/
inductive BackupLabel
  | operate (vid : ℤ) (operation : BackupOperation) (context : Context)
  | succeed (id : ℕ) (context : Context)
  | restore (id : ℕ) (context : Context)
  | restored (id : ℕ)
  | cancel (vid : ℤ) (context : Context)
deriving Repr, DecidableEq

/-- The action with its VM, as the handler of acknowledgements finds it. -/
def BackupState.unfinished (id : ℕ) : Option VmAction :=
  s.actions.find? fun action => action.id = id && !action.finished

def feedback (action : VmAction) (context : Context) : Status × BackupState :=
  match action.messageReq with
  | .create req =>
      if (s.vms req.vid).isSome then backupImgCreateSuccess s action.id req context
      else (.error, s)
  | .delete req =>
      if (s.vms req.vid).isSome then backupImgDeleteSuccess s action.id req context
      else (.error, s)
  | .restore _ => (.success, s)

/-- An action that cannot be read counts as unfinished. -/
def restoreOf (action : VmAction) (context : Context) : Status × BackupState :=
  match action.messageReq with
  | .restore op =>
      if context.finishedRead && action.finished then (.success, s)
      else dealVmRestoreReq s op context
  | .create _ | .delete _ => (.success, s)

/-- What is answered, and the state after it. -/
def BackupState.serve : BackupLabel → Status × BackupState
  | .operate vid operation context => operateVM s vid operation context
  | .succeed id context =>
      match s.unfinished id with
      | some action => feedback s action context
      | none => (.success, s)
  | .restore id context =>
      match s.actions.find? (·.id = id) with
      | some action => restoreOf s action context
      | none => (.success, s)
  | .restored id => (.success, s.finishAction id true)
  | .cancel vid context => (.success, finishVMCancel s vid context)

def BackupStep (s : BackupState) (label : BackupLabel) (next : BackupState) : Prop :=
  next = (s.serve label).2

end Definitions

section Specification

/-- What a record says beside its state. -/
def VmImgBackup.link (row : VmImgBackup) : ℕ × ℤ × String × ℕ :=
  (row.requestId, row.vid, row.target, row.parentRequestId)

def ParentOf (rows : List VmImgBackup) (id parent : ℕ) : Prop :=
  ∃ row ∈ rows, row.requestId = id ∧ row.parentRequestId = parent

/-- The id that the disk itself has in the configuration of its machine. -/
def BackupState.IsBase (s : BackupState) (vid : ℤ) (target : String) (id : ℕ) : Prop :=
  ∃ config disk, (s.vms vid).map (·.config) = some config ∧ config.disk target = some disk ∧
    disk.requestId = id

/-- A backup of the disk has this id, or the disk itself. -/
def BackupState.Known (s : BackupState) (vid : ℤ) (target : String) (id : ℕ) : Prop :=
  (∃ row ∈ s.imageBackup, row.requestId = id ∧ row.isFor vid target = true) ∨
    s.IsBase vid target id

/-- At most one record of each disk is active. -/
def Single (rows : List VmImgBackup) : Prop :=
  ∀ row ∈ rows, ∀ other ∈ rows, row.active = true → other.active = true →
    row.vid = other.vid → row.target = other.target → row.requestId = other.requestId

structure BackupState.Tree (s : BackupState) : Prop where
  single : Single s.imageBackup
  acyclic : ∀ id, ¬Relation.TransGen (ParentOf s.imageBackup) id id
  parents : ∀ row ∈ s.imageBackup, s.Known row.vid row.target row.parentRequestId
  owned : ∀ row ∈ s.imageBackup, (s.vms row.vid).isSome

/-- The steps after which the backups of each disk are a tree with one active record at most, and
that have changed no record if they failed. -/
def LawfulStep (s : BackupState) (label : BackupLabel) (next : BackupState) : Prop :=
  BackupStep s label next ∧ next.Tree ∧
    ((s.serve label).1 ≠ .success → next.imageBackup = s.imageBackup)

/-- The record of a new backup is inserted. -/
structure BackupState.Inserts (s : BackupState) (req : VmImageBackupReq) (context : Context) :
    Prop where
  named : req.disk.target ≠ ""
  read : context.activeRead = true
  image : (s.vms req.vid).any (·.images.contains req.disk.target) = true
  new : s.isImageBackupExist req.requestId = false
  committed : context.committed = true

/-- The first update of a restore is executed, and the second one is not. -/
structure BackupState.HalfRestores (s : BackupState) (op : VmImageBackupOp) (context : Context) :
    Prop where
  backup : s.isBaseImageBackup op context = false
  found : (context.againRead && s.isImageBackupExist op.requestId) = true
  first : context.first = true
  second : context.second = false

/-- The record of a backup is deleted. -/
structure BackupState.Deletes (s : BackupState) (req : VmImageBackupReq) (context : Context) :
    Prop where
  owner : (s.vms req.vid).isSome = true
  found : (context.existRead && s.isImageBackupExist req.requestId) = true
  named : req.disk.target ≠ ""
  parent : context.parentRead = true
  sons : context.sonsRead = true
  deleted : context.deleted = true

/-- The parent that was chosen when the backup was requested is still there when its record is
inserted, the transaction after a deletion is carried out, and a restore that stops halfway found no
active record. -/
def BackupState.CarriedOut (s : BackupState) : BackupLabel → Prop
  | .succeed id context => ∀ action, s.unfinished id = some action →
      (∀ req, action.messageReq = .create req → s.Inserts req context →
        s.Known req.vid req.disk.target req.disk.requestId) ∧
      (∀ req, action.messageReq = .delete req → s.Deletes req context →
        context.committed = true)
  | .restore id context => ∀ action op, s.actions.find? (·.id = id) = some action →
      action.messageReq = .restore op → (context.finishedRead && action.finished) = false →
      s.HalfRestores op context →
      ∀ row ∈ s.imageBackup, row.isFor op.vid op.target = true → row.active = false
  | .operate .. | .restored _ | .cancel .. => True

/-- A stored request is about the disk that its id was given out for. -/
def Fits (place : ℕ → Option (ℤ × String)) (nextId : ℕ) : MessageReq → Prop
  | .create req => place req.requestId = some (req.vid, req.disk.target) ∧
      req.disk.requestId < req.requestId
  | .restore op => op.requestId < nextId ∧
      ∀ disk, place op.requestId = some disk → disk = (op.vid, op.target)
  | .delete _ => True

/-- What the keys and the ids guarantee: an id of a backup is given out for one disk, after those
that are used, and no disk has it. -/
structure BackupState.Keyed (s : BackupState) (place : ℕ → Option (ℤ × String)) : Prop where
  below : ∀ id, (place id).isSome → id < s.nextId
  keys : (s.imageBackup.map VmImgBackup.requestId).Nodup
  placed : ∀ row ∈ s.imageBackup, place row.requestId = some (row.vid, row.target)
  ordered : ∀ row ∈ s.imageBackup, row.parentRequestId < row.requestId
  owned : ∀ row ∈ s.imageBackup, (s.vms row.vid).isSome
  bases : ∀ vid config, (s.vms vid).map (·.config) = some config →
    ∀ id ∈ config.requestIds, place id = none ∧ id < s.nextId
  fits : ∀ action ∈ s.actions, Fits place s.nextId action.messageReq

end Specification

section Links

variable {s next : BackupState} {place : ℕ → Option (ℤ × String)}

theorem isFor_iff {vid : ℤ} {target : String} {row : VmImgBackup} :
    row.isFor vid target = true ↔ row.vid = vid ∧ row.target = target := by
  simp [VmImgBackup.isFor]

theorem isImageBackupExist_iff {id : ℕ} :
    s.isImageBackupExist id = true ↔ ∃ row ∈ s.imageBackup, row.requestId = id := by
  simp [BackupState.isImageBackupExist]

/-- The configurations are the same, and so are the links of the records. -/
structure BackupState.SameLinks (s next : BackupState) : Prop where
  configs : ∀ vid, (next.vms vid).map (·.config) = (s.vms vid).map (·.config)
  links : next.imageBackup.map VmImgBackup.link = s.imageBackup.map VmImgBackup.link

theorem BackupState.SameLinks.symm (same : s.SameLinks next) : next.SameLinks s :=
  ⟨fun vid => (same.configs vid).symm, same.links.symm⟩

theorem BackupState.SameLinks.mem (same : s.SameLinks next) {row : VmImgBackup}
    (inside : row ∈ next.imageBackup) : ∃ old ∈ s.imageBackup, old.requestId = row.requestId ∧
      old.vid = row.vid ∧ old.target = row.target ∧
      old.parentRequestId = row.parentRequestId := by
  have linked := List.mem_map_of_mem (f := VmImgBackup.link) inside
  rw [same.links] at linked
  obtain ⟨old, there, equal⟩ := List.mem_map.mp linked
  simp only [VmImgBackup.link, Prod.mk.injEq] at equal
  exact ⟨old, there, equal⟩

theorem BackupState.SameLinks.isBase (same : s.SameLinks next) {vid : ℤ} {target : String}
    {id : ℕ} (base : next.IsBase vid target id) : s.IsBase vid target id := by
  obtain ⟨config, disk, found, rest⟩ := base
  exact ⟨config, disk, (same.configs vid).symm.trans found, rest⟩

theorem BackupState.SameLinks.known (same : s.SameLinks next) {vid : ℤ} {target : String}
    {id : ℕ} (known : next.Known vid target id) : s.Known vid target id := by
  rcases known with ⟨row, inside, named, owner⟩ | base
  · obtain ⟨old, there, id, ofVid, ofTarget, -⟩ := same.mem inside
    rw [isFor_iff] at owner
    exact .inl ⟨old, there, id.trans named,
      isFor_iff.mpr ⟨ofVid.trans owner.1, ofTarget.trans owner.2⟩⟩
  · exact .inr (same.isBase base)

theorem BackupState.SameLinks.isSome (same : s.SameLinks next) (vid : ℤ) :
    (next.vms vid).isSome = (s.vms vid).isSome := by
  have configs := congrArg Option.isSome (same.configs vid)
  simpa using configs

theorem acyclic_of_ordered {rows : List VmImgBackup}
    (ordered : ∀ row ∈ rows, row.parentRequestId < row.requestId) (id : ℕ) :
    ¬Relation.TransGen (ParentOf rows) id id := by
  have descends : ∀ a b, Relation.TransGen (ParentOf rows) a b → b < a := by
    intro a b path
    induction path with
    | single step =>
        obtain ⟨row, inside, rfl, rfl⟩ := step
        exact ordered row inside
    | tail _ step ih =>
        obtain ⟨row, inside, rfl, rfl⟩ := step
        exact (ordered row inside).trans ih
  exact fun path => lt_irrefl id (descends id id path)

/-- The links decide whether the records are a tree, up to the states. -/
theorem BackupState.SameLinks.tree (same : s.SameLinks next) (tree : s.Tree)
    (single : Single next.imageBackup) : next.Tree where
  single := single
  acyclic id path := by
    have older : ParentOf next.imageBackup ≤ ParentOf s.imageBackup := by
      rintro _ _ ⟨row, inside, rfl, rfl⟩
      obtain ⟨old, there, id, -, -, parent⟩ := same.mem inside
      exact ⟨old, there, id, parent⟩
    exact tree.acyclic id (Relation.TransGen.mono older id id path)
  parents row inside := by
    obtain ⟨old, there, -, vid, target, parent⟩ := same.mem inside
    rw [← vid, ← target, ← parent]
    exact same.symm.known (tree.parents old there)
  owned row inside := by
    obtain ⟨old, there, -, vid, -, -⟩ := same.mem inside
    rw [same.isSome, ← vid]
    exact tree.owned old there

theorem tree_of_same (configs : ∀ vid, (next.vms vid).map (·.config) = (s.vms vid).map (·.config))
    (rows : next.imageBackup = s.imageBackup) : next.Tree ↔ s.Tree := by
  have same : s.SameLinks next := ⟨configs, congrArg _ rows⟩
  constructor
  · intro tree
    refine same.symm.tree tree ?_
    rw [← rows]
    exact tree.single
  · intro tree
    refine same.tree tree ?_
    rw [rows]
    exact tree.single

/-- Ids, links and configurations that stay, and actions that fit them. -/
theorem BackupState.Keyed.transfer (keyed : s.Keyed place) (same : s.SameLinks next)
    (later : s.nextId ≤ next.nextId)
    (fits : ∀ action ∈ next.actions, Fits place next.nextId action.messageReq) :
    next.Keyed place where
  below id given := lt_of_lt_of_le (keyed.below id given) later
  keys := by
    have ids : ∀ rows : List VmImgBackup,
        rows.map VmImgBackup.requestId = (rows.map VmImgBackup.link).map Prod.fst := fun rows => by
      rw [List.map_map]
      rfl
    rw [ids, same.links, ← ids]
    exact keyed.keys
  placed row inside := by
    obtain ⟨old, there, id, vid, target, -⟩ := same.mem inside
    rw [← id, ← vid, ← target]
    exact keyed.placed old there
  ordered row inside := by
    obtain ⟨old, there, id, -, -, parent⟩ := same.mem inside
    rw [← id, ← parent]
    exact keyed.ordered old there
  owned row inside := by
    obtain ⟨old, there, -, vid, -, -⟩ := same.mem inside
    rw [same.isSome, ← vid]
    exact keyed.owned old there
  bases vid config found id inside := by
    have base := keyed.bases vid config ((same.configs vid).symm.trans found) id inside
    exact ⟨base.1, lt_of_lt_of_le base.2 later⟩
  fits := fits

theorem Fits.later {nextId nextId' : ℕ} {request : MessageReq} (fits : Fits place nextId request)
    (later : nextId ≤ nextId') : Fits place nextId' request := by
  cases request with
  | create req => exact fits
  | delete req => exact fits
  | restore op => exact ⟨lt_of_lt_of_le fits.1 later, fits.2⟩

end Links

section Updates

variable {s next : BackupState} {place : ℕ → Option (ℤ × String)}

/-- Active records that were active before. -/
theorem Single.sub {rows rows' : List VmImgBackup} (single : Single rows)
    (older : ∀ row ∈ rows', row.active = true → ∃ old ∈ rows, old.active = true ∧
      old.requestId = row.requestId ∧ old.vid = row.vid ∧ old.target = row.target) :
    Single rows' := by
  intro row inside other inside' active active' vid target
  obtain ⟨old, there, was, id, ofVid, ofTarget⟩ := older row inside active
  obtain ⟨old', there', was', id', ofVid', ofTarget'⟩ := older other inside' active'
  rw [← id, ← id']
  exact single old there old' there' was was' (ofVid.trans (vid.trans ofVid'.symm))
    (ofTarget.trans (target.trans ofTarget'.symm))

theorem deactivate_active {target : String} {vid : ℤ} {row : VmImgBackup}
    (active : (deactivate target vid row).active = true) :
    deactivate target vid row = row ∧ row.isFor vid target = false := by
  rw [deactivate] at active ⊢
  split at active
  · cases active
  next other =>
    rw [if_neg other]
    refine ⟨rfl, ?_⟩
    simpa [active] using other

theorem deactivate_link (target : String) (vid : ℤ) (row : VmImgBackup) :
    (deactivate target vid row).link = row.link := by
  rw [deactivate]
  split <;> rfl

theorem setImageBackupState_sameLinks (target : String) (vid : ℤ) :
    s.SameLinks (s.setImageBackupState target vid) := by
  refine ⟨fun _ => rfl, ?_⟩
  show (s.imageBackup.map _).map _ = _
  rw [List.map_map]
  exact List.map_congr_left fun row _ => deactivate_link target vid row

theorem updateImageBackup_sameLinks (requestId : ℕ) (active : Bool) :
    s.SameLinks (s.updateImageBackup requestId active) := by
  refine ⟨fun _ => rfl, ?_⟩
  show (s.imageBackup.map _).map _ = _
  rw [List.map_map]
  refine List.map_congr_left fun row _ => ?_
  rw [Function.comp_apply]
  split <;> rfl

theorem setImageBackupState_older (target : String) (vid : ℤ) :
    ∀ row ∈ (s.setImageBackupState target vid).imageBackup, row.active = true →
      row ∈ s.imageBackup ∧ row.isFor vid target = false := by
  intro row inside active
  obtain ⟨old, there, rfl⟩ := List.mem_map.mp inside
  obtain ⟨same, other⟩ := deactivate_active active
  rw [same]
  exact ⟨there, other⟩

theorem single_setImageBackupState (single : Single s.imageBackup) (target : String) (vid : ℤ) :
    Single (s.setImageBackupState target vid).imageBackup :=
  single.sub fun row inside active =>
    ⟨row, (setImageBackupState_older target vid row inside active).1, active, rfl, rfl, rfl⟩

/-- The records of the restore: the one of its id is the only active one of the disk. -/
theorem single_restored (keyed : s.Keyed place) (single : Single s.imageBackup)
    {op : VmImageBackupOp}
    (fits : ∀ disk, place op.requestId = some disk → disk = (op.vid, op.target)) :
    Single ((s.setImageBackupState op.target op.vid).updateImageBackup
      op.requestId true).imageBackup := by
  have kept := keyed.transfer (setImageBackupState_sameLinks op.target op.vid) le_rfl keyed.fits
  have cases : ∀ row ∈ ((s.setImageBackupState op.target op.vid).updateImageBackup
      op.requestId true).imageBackup, row.active = true →
      row.requestId = op.requestId ∧ row.vid = op.vid ∧ row.target = op.target ∨
        row ∈ s.imageBackup ∧ row.isFor op.vid op.target = false := by
    intro row inside active
    obtain ⟨old, there, rfl⟩ := List.mem_map.mp inside
    split
    next here =>
      have disk := fits _ (here ▸ kept.placed old there)
      rw [Prod.mk.injEq] at disk
      exact .inl ⟨here, disk⟩
    next other =>
      rw [if_neg other] at active
      exact .inr (setImageBackupState_older op.target op.vid old there active)
  intro row inside other inside' active active' vid target
  rcases cases row inside active with ⟨id, ofVid, ofTarget⟩ | ⟨there, apart⟩
  · rcases cases other inside' active' with ⟨id', -, -⟩ | ⟨-, apart⟩
    · exact id.trans id'.symm
    · have here := isFor_iff.mpr ⟨vid.symm.trans ofVid, target.symm.trans ofTarget⟩
      rw [apart] at here
      cases here
  · rcases cases other inside' active' with ⟨-, ofVid, ofTarget⟩ | ⟨there', -⟩
    · have here := isFor_iff.mpr ⟨vid.trans ofVid, target.trans ofTarget⟩
      rw [apart] at here
      cases here
    · exact single row there other there' active active' vid target

theorem backed_sameLinks (s : BackupState) (target : String) (vid : ℤ) :
    s.SameLinks (s.backed target vid) := by
  rw [BackupState.backed]
  split
  · exact updateImageBackup_sameLinks _ false
  · exact ⟨fun _ => rfl, rfl⟩

theorem backed_older (single : Single s.imageBackup) (target : String) (vid : ℤ) :
    ∀ row ∈ (s.backed target vid).imageBackup, row.active = true →
      row ∈ s.imageBackup ∧ row.isFor vid target = false := by
  intro row inside active
  rw [BackupState.backed] at inside
  cases read : s.getActiveImageBackup target vid with
  | none =>
      rw [read] at inside
      refine ⟨inside, ?_⟩
      rw [BackupState.getActiveImageBackup, Option.map_eq_none_iff, List.getLast?_eq_none_iff,
        List.filter_eq_nil_iff] at read
      simpa [active] using read row inside
  | some requestId =>
      rw [read] at inside
      obtain ⟨old, there, rfl⟩ := List.mem_map.mp inside
      rw [BackupState.getActiveImageBackup, Option.map_eq_some_iff] at read
      obtain ⟨current, last, id⟩ := read
      have selected := List.mem_filter.mp (List.mem_of_getLast? last)
      rw [Bool.and_eq_true, isFor_iff] at selected
      split at active
      · cases active
      next other =>
        rw [if_neg other]
        refine ⟨there, ?_⟩
        rw [← Bool.not_eq_true, isFor_iff]
        rintro ⟨ofVid, ofTarget⟩
        exact other ((single old there current selected.1 active selected.2.1
          (ofVid.trans selected.2.2.1.symm) (ofTarget.trans selected.2.2.2.symm)).trans id)

end Updates

section Records

variable {s next : BackupState} {place : ℕ → Option (ℤ × String)}

theorem disk_requestId {config : VmConfig} {target : String} {disk : VmDiskConfig}
    (found : config.disk target = some disk) :
    disk.requestId ∈ config.requestIds ∧ disk.target = target := by
  rw [VmConfig.disk] at found
  split at found
  next machine =>
    obtain rfl := Option.some.inj found
    exact ⟨List.mem_cons_self, machine⟩
  next =>
    have named := List.find?_some found
    refine ⟨?_, by simpa using named⟩
    have inside := List.mem_of_find?_eq_some found
    simp [VmConfig.requestIds, List.mem_map_of_mem inside]

/-- The id of a base is never one of a backup. -/
theorem BackupState.Keyed.base (keyed : s.Keyed place) {vid : ℤ} {target : String} {id : ℕ}
    (base : s.IsBase vid target id) : place id = none ∧ id < s.nextId := by
  obtain ⟨config, disk, found, selected, rfl⟩ := base
  exact keyed.bases vid config found _ (disk_requestId selected).1

theorem insertImageBackup_some {row : VmImgBackup}
    (image : (s.vms row.vid).any (·.images.contains row.target) = true)
    (new : s.isImageBackupExist row.requestId = false) :
    s.insertImageBackup row = some { s with imageBackup := s.imageBackup ++ [row] } := by
  rw [BackupState.insertImageBackup, image, new]
  rfl

theorem insertImageBackup_cases {row : VmImgBackup}
    (inserted : s.insertImageBackup row = some next) :
    (s.vms row.vid).any (·.images.contains row.target) = true ∧
      s.isImageBackupExist row.requestId = false ∧
      next = { s with imageBackup := s.imageBackup ++ [row] } := by
  rw [BackupState.insertImageBackup] at inserted
  split at inserted
  next both =>
    rw [Bool.and_eq_true, Bool.not_eq_true'] at both
    exact ⟨both.1, both.2, (Option.some.inj inserted).symm⟩
  next => cases inserted

theorem any_isSome {α : Type} {p : α → Bool} {o : Option α} (any : o.any p = true) :
    o.isSome := by
  cases o with
  | none => cases any
  | some a => rfl

theorem keyed_insert (keyed : s.Keyed place) {row : VmImgBackup}
    (inserted : s.insertImageBackup row = some next)
    (placed : place row.requestId = some (row.vid, row.target))
    (ordered : row.parentRequestId < row.requestId) : next.Keyed place := by
  obtain ⟨image, new, rfl⟩ := insertImageBackup_cases inserted
  have found := any_isSome image
  refine ⟨keyed.below, ?_, ?_, ?_, ?_, keyed.bases, keyed.fits⟩
  · rw [List.map_append, List.map_singleton, List.nodup_append]
    refine ⟨keyed.keys, List.nodup_singleton _, ?_⟩
    rintro id inside _ single rfl
    rw [List.mem_singleton.mp single] at inside
    obtain ⟨old, there, same⟩ := List.mem_map.mp inside
    rw [isImageBackupExist_iff.mpr ⟨old, there, same⟩] at new
    cases new
  all_goals
    intro other inside
    rcases List.mem_append.mp inside with there | single
  · exact keyed.placed other there
  · rw [List.mem_singleton.mp single]
    exact placed
  · exact keyed.ordered other there
  · rw [List.mem_singleton.mp single]
    exact ordered
  · exact keyed.owned other there
  · rw [List.mem_singleton.mp single]
    exact found

theorem backed_vms (s : BackupState) (target : String) (vid : ℤ) :
    (s.backed target vid).vms = s.vms := by
  rw [BackupState.backed]
  split <;> rfl

theorem backed_rest (s : BackupState) (target : String) (vid : ℤ) :
    (s.backed target vid).nextId = s.nextId ∧ (s.backed target vid).actions = s.actions := by
  rw [BackupState.backed]
  split
  · exact ⟨rfl, rfl⟩
  · exact ⟨rfl, rfl⟩

theorem exist_backed (target : String) (vid : ℤ) (requestId : ℕ) :
    (s.backed target vid).isImageBackupExist requestId = s.isImageBackupExist requestId := by
  have same := backed_sameLinks s target vid
  rw [Bool.eq_iff_iff, isImageBackupExist_iff, isImageBackupExist_iff]
  constructor
  · rintro ⟨row, inside, named⟩
    obtain ⟨old, there, id, -⟩ := same.mem inside
    exact ⟨old, there, id.trans named⟩
  · rintro ⟨row, inside, named⟩
    obtain ⟨old, there, id, -⟩ := same.symm.mem inside
    exact ⟨old, there, id.trans named⟩

theorem keyed_backed (keyed : s.Keyed place) (target : String) (vid : ℤ) :
    (s.backed target vid).Keyed place := by
  obtain ⟨ids, actions⟩ := backed_rest s target vid
  refine keyed.transfer (backed_sameLinks s target vid) ids.ge ?_
  rw [actions, ids]
  exact keyed.fits

/-- A new active record is in its place where its parent is known. -/
theorem insert_tree_iff (keyed : s.Keyed place) (tree : s.Tree) {row : VmImgBackup}
    (inserted : (s.backed row.target row.vid).insertImageBackup row = some next)
    (placed : place row.requestId = some (row.vid, row.target))
    (ordered : row.parentRequestId < row.requestId) :
    next.Tree ↔ s.Known row.vid row.target row.parentRequestId := by
  have same := backed_sameLinks s row.target row.vid
  have older := backed_older tree.single row.target row.vid
  have kept := keyed_insert (keyed_backed keyed row.target row.vid) inserted placed ordered
  have before : (s.backed row.target row.vid).Tree :=
    same.tree tree (tree.single.sub fun other inside active =>
      ⟨other, (older other inside active).1, active, rfl, rfl, rfl⟩)
  obtain ⟨image, new, rfl⟩ := insertImageBackup_cases inserted
  constructor
  · intro after
    rcases after.parents row (List.mem_append_right _ (List.mem_singleton_self row)) with
      ⟨parent, inside, named, owner⟩ | base
    · rcases List.mem_append.mp inside with there | single
      · exact same.known (.inl ⟨parent, there, named, owner⟩)
      · rw [List.mem_singleton.mp single] at named
        exact absurd named (Nat.ne_of_gt ordered)
    · exact .inr (same.isBase base)
  · intro known
    have wider : ∀ vid target id, (s.backed row.target row.vid).Known vid target id →
        BackupState.Known { s.backed row.target row.vid with
          imageBackup := (s.backed row.target row.vid).imageBackup ++ [row] } vid target id := by
      rintro vid target id (⟨parent, inside, rest⟩ | base)
      · exact .inl ⟨parent, List.mem_append_left _ inside, rest⟩
      · exact .inr base
    refine ⟨?_, acyclic_of_ordered kept.ordered, ?_, kept.owned⟩
    · intro one inside other inside' active active' vid target
      rcases List.mem_append.mp inside with there | single
      · rcases List.mem_append.mp inside' with there' | single'
        · exact before.single one there other there' active active' vid target
        · rw [List.mem_singleton.mp single'] at vid target
          have apart := (older one there active).2
          rw [isFor_iff.mpr ⟨vid, target⟩] at apart
          cases apart
      · rw [List.mem_singleton.mp single] at vid target ⊢
        rcases List.mem_append.mp inside' with there' | single'
        · have apart := (older other there' active').2
          rw [isFor_iff.mpr ⟨vid.symm, target.symm⟩] at apart
          cases apart
        · rw [List.mem_singleton.mp single']
    · intro other inside
      rcases List.mem_append.mp inside with there | single
      · exact wider _ _ _ (before.parents other there)
      · rw [List.mem_singleton.mp single]
        exact wider _ _ _ (same.symm.known known)

theorem mem_getSonImageBackup (keyed : s.Keyed place) (requestId : ℕ) {row : VmImgBackup}
    (inside : row ∈ s.imageBackup) :
    row.requestId ∈ s.getSonImageBackup requestId ↔ row.parentRequestId = requestId := by
  rw [BackupState.getSonImageBackup, List.mem_map]
  constructor
  · rintro ⟨other, there, same⟩
    rw [List.mem_filter, decide_eq_true_eq] at there
    rw [← List.inj_on_of_nodup_map keyed.keys there.1 inside same]
    exact there.2
  · intro parent
    exact ⟨row, List.mem_filter.mpr ⟨inside, by simpa using parent⟩, rfl⟩

theorem reparent_eq (keyed : s.Keyed place) (row : VmImgBackup) {old : VmImgBackup}
    (there : old ∈ s.imageBackup) :
    (if old.requestId ∈ s.getSonImageBackup row.requestId then
      { old with parentRequestId := row.parentRequestId } else old) =
    { old with parentRequestId :=
        if old.parentRequestId = row.requestId then row.parentRequestId
        else old.parentRequestId } := by
  have child := mem_getSonImageBackup keyed row.requestId there
  by_cases moves : old.parentRequestId = row.requestId
  · rw [if_pos (child.mpr moves), if_pos moves]
  · rw [if_neg (child.not.mpr moves), if_neg moves]

/-- The records that are left when some are deleted. -/
theorem keyed_filter (keyed : s.Keyed place) (p : VmImgBackup → Bool) :
    BackupState.Keyed { s with imageBackup := s.imageBackup.filter p } place where
  below := keyed.below
  keys := keyed.keys.sublist (List.filter_sublist.map _)
  placed row inside := keyed.placed row (List.mem_of_mem_filter inside)
  ordered row inside := keyed.ordered row (List.mem_of_mem_filter inside)
  owned row inside := keyed.owned row (List.mem_of_mem_filter inside)
  bases := keyed.bases
  fits := keyed.fits

/-- The rows after a deletion: those that were not deleted, the children under the parent. -/
theorem mem_deleted (keyed : s.Keyed place) {row other : VmImgBackup}
    (inside : other ∈
      ((s.withoutRow row).moveSons row (s.getSonImageBackup row.requestId)).imageBackup) :
    ∃ old ∈ s.imageBackup, old.requestId ≠ row.requestId ∧
      other = { old with parentRequestId :=
        if old.parentRequestId = row.requestId then row.parentRequestId
        else old.parentRequestId } := by
  obtain ⟨old, left, equal⟩ := List.mem_map.mp inside
  obtain ⟨there, different⟩ := List.mem_filter.mp left
  rw [reparent_eq keyed row there] at equal
  exact ⟨old, there, by simpa using different, equal.symm⟩

theorem deleted_mem (keyed : s.Keyed place) {row old : VmImgBackup}
    (there : old ∈ s.imageBackup) (other : old.requestId ≠ row.requestId) :
    { old with parentRequestId :=
        if old.parentRequestId = row.requestId then row.parentRequestId
        else old.parentRequestId } ∈
      ((s.withoutRow row).moveSons row (s.getSonImageBackup row.requestId)).imageBackup := by
  refine List.mem_map.mpr ⟨old, List.mem_filter.mpr ⟨there, by simpa using other⟩, ?_⟩
  exact reparent_eq keyed row there

theorem moveSons_ids (row : VmImgBackup) (sons : List ℕ) :
    (s.moveSons row sons).imageBackup.map VmImgBackup.requestId =
      s.imageBackup.map VmImgBackup.requestId := by
  rw [BackupState.moveSons, List.map_map]
  refine List.map_congr_left fun son _ => ?_
  rw [Function.comp_apply]
  split <;> rfl

theorem keyed_deleted (keyed : s.Keyed place) {row : VmImgBackup} (there : row ∈ s.imageBackup) :
    ((s.withoutRow row).moveSons row (s.getSonImageBackup row.requestId)).Keyed place := by
  refine ⟨keyed.below, ?_, ?_, ?_, ?_, keyed.bases, keyed.fits⟩
  · rw [moveSons_ids]
    exact (keyed_filter keyed _).keys
  all_goals
    intro other inside
    obtain ⟨old, was, -, rfl⟩ := mem_deleted keyed inside
  · exact keyed.placed old was
  · show (if old.parentRequestId = row.requestId then _ else _) < old.requestId
    split
    next child => exact (child ▸ keyed.ordered row there).trans (keyed.ordered old was)
    next => exact keyed.ordered old was
  · exact keyed.owned old was

/-- Taking a record out of the tree leaves a tree. -/
theorem tree_deleted (keyed : s.Keyed place) (tree : s.Tree) {row : VmImgBackup}
    (there : row ∈ s.imageBackup) :
    ((s.withoutRow row).moveSons row (s.getSonImageBackup row.requestId)).Tree := by
  have kept := keyed_deleted keyed there
  have known : ∀ vid target id, s.Known vid target id → id ≠ row.requestId →
      ((s.withoutRow row).moveSons row (s.getSonImageBackup row.requestId)).Known vid
        target id := by
    rintro vid target id (⟨parent, inside, named, owner⟩ | base) other
    · exact .inl ⟨_, deleted_mem keyed inside (named.symm ▸ other), named, owner⟩
    · exact .inr base
  refine ⟨tree.single.sub ?_, acyclic_of_ordered kept.ordered, ?_, kept.owned⟩
  · intro other inside active
    obtain ⟨old, was, -, rfl⟩ := mem_deleted keyed inside
    exact ⟨old, was, active, rfl, rfl, rfl⟩
  · intro other inside
    obtain ⟨old, was, different, rfl⟩ := mem_deleted keyed inside
    show BackupState.Known _ old.vid old.target
      (if old.parentRequestId = row.requestId then _ else _)
    split
    next child =>
      -- the parent of a child is the deleted record itself, since no base has its id
      have sameDisk : row.vid = old.vid ∧ row.target = old.target := by
        rcases tree.parents old was with ⟨parent, inside, named, owner⟩ | base
        · rw [List.inj_on_of_nodup_map keyed.keys inside there (named.trans child)] at owner
          exact isFor_iff.mp owner
        · have free := (keyed.base base).1
          rw [child, keyed.placed row there] at free
          cases free
      rw [← sameDisk.1, ← sameDisk.2]
      exact known _ _ _ (tree.parents row there) (Nat.ne_of_lt (keyed.ordered row there))
    next stays => exact known _ _ _ (tree.parents old was) stays

/-- Without the backups of one disk. -/
theorem tree_deleteImageBackupByVid (tree : s.Tree) (keyed : s.Keyed place) (vid : ℤ)
    (target : String) : (s.deleteImageBackupByVid vid target).Tree := by
  have kept := keyed_filter keyed (!·.isFor vid target)
  refine ⟨tree.single.sub fun row inside active =>
    ⟨row, List.mem_of_mem_filter inside, active, rfl, rfl, rfl⟩,
    acyclic_of_ordered kept.ordered, fun row inside => ?_, kept.owned⟩
  obtain ⟨there, other⟩ := List.mem_filter.mp inside
  rcases tree.parents row there with ⟨parent, above, named, owner⟩ | base
  · refine .inl ⟨parent, List.mem_filter.mpr ⟨above, ?_⟩, named, owner⟩
    -- the parent is a backup of the same disk, which is another one
    rw [isFor_iff] at owner
    rwa [VmImgBackup.isFor, owner.1, owner.2]
  · exact .inr base

theorem dropVm_free {vid : ℤ} (dropped : s.dropVm vid = some next) :
    ∀ row ∈ s.imageBackup, row.vid ≠ vid := by
  rw [BackupState.dropVm] at dropped
  split at dropped
  next => cases dropped
  next free =>
    rw [List.any_eq_true, not_exists] at free
    exact fun row inside same => free row ⟨inside, by simpa using same⟩

/-- A machine whose backups are gone. -/
theorem tree_dropVm (keyed : s.Keyed place) (tree : s.Tree) {vid : ℤ}
    (dropped : s.dropVm vid = some next) : next.Keyed place ∧ next.Tree ∧
      next.imageBackup = s.imageBackup := by
  have other := dropVm_free dropped
  rw [BackupState.dropVm] at dropped
  split at dropped
  next => cases dropped
  next free =>
  obtain rfl := (Option.some.inj dropped).symm
  have vms : ∀ v, v ≠ vid → Function.update s.vms vid none v = s.vms v := fun v different =>
    Function.update_of_ne different ..
  have owned : ∀ row ∈ s.imageBackup, (Function.update s.vms vid none row.vid).isSome :=
    fun row inside => by
      rw [vms _ (other row inside)]
      exact keyed.owned row inside
  refine ⟨⟨keyed.below, keyed.keys, keyed.placed, keyed.ordered, owned, ?_, keyed.fits⟩,
    ⟨tree.single, tree.acyclic, ?_, owned⟩, rfl⟩
  · intro v config found
    replace found : (Function.update s.vms vid none v).map (·.config) = some config := found
    by_cases same : v = vid
    · subst same
      simp at found
    · rw [vms v same] at found
      exact keyed.bases v config found
  · intro row inside
    rcases tree.parents row inside with backup | ⟨config, disk, found, rest⟩
    · exact .inl backup
    · refine .inr ⟨config, disk, ?_, rest⟩
      show (Function.update s.vms vid none row.vid).map _ = _
      rw [vms _ (other row inside)]
      exact found

end Records

end Vm.Backup

end Tecs
