import Tecs.Vm.VmWorkflow

set_option autoImplicit false

/-! The two workflows of a deployment: the actions forward and those that undo them. -/

namespace Tecs.Vm

open NodeGraph

section Definitions

def INVALID_FILEID : ℤ := -1
def IMAGE_POSITION_LOCAL : ℤ := 1
def VM_STORAGE_TO_SHARE : ℤ := 2
def IMAGE_USE_SNAPSHOT : String := "snapshot"

structure VmDiskConfig where
  id : ℤ
  position : ℤ
  requestId : String
  isNeedRelease : Bool
deriving Repr, DecidableEq

structure VMConfig where
  disks : List VmDiskConfig
  machine : VmDiskConfig
  nics : List String
  vmWdtime : ℤ
deriving Repr, DecidableEq

def isNeedVNet (config : VMConfig) : Bool := !(config.nics.isEmpty && config.vmWdtime == 0)

structure ImageStoreOption where
  shareImgUsage : String
deriving Repr, DecidableEq

/-- The variables of the builders; those of the loop carry its index. `GenerateUUID` gives each an
id of its own. -/
inductive VmActionId
  | unselectHost | selectHost | removeVm | modify | createVm
  | selectHostByNic | releaseNic | prepareNic
  | prepareImage (i : ℕ)
  | createSnapshot (i : ℕ) | deleteSnapshot (i : ℕ) | authSnapshot (i : ℕ) | deauthSnapshot (i : ℕ)
  | createBlock (i : ℕ) | deleteBlock (i : ℕ) | authBlock (i : ℕ) | deauthBlock (i : ℕ)
  | createShareBlock (i : ℕ) | deleteShareBlock (i : ℕ)
  | authShareBlock (i : ℕ) | deauthShareBlock (i : ℕ)
deriving Repr, DecidableEq

abbrev DeployAction := VmAction VmActionId

abbrev DeployCall := VmCall VmActionId

def unselectHost (skipped : Bool) : DeployAction :=
  { id := .unselectHost, message := .vmUnselectHost, skipped := skipped }

def removeVm (skipped : Bool) : DeployAction :=
  { id := .removeVm, message := .vmOp, skipped := skipped }

def selectHost : DeployAction :=
  { id := .selectHost, message := .vmScheduleSingle, rollbackActionId := some .unselectHost }

def modify : DeployAction := { id := .modify, message := .vmModifyCreateVm }

def createVm : DeployAction :=
  { id := .createVm, message := .vmOp, rollbackActionId := some .removeVm }

def selectHostByNic : DeployAction := { id := .selectHostByNic, message := .vnetlibSelectHc }

def releaseNic : DeployAction :=
  { id := .releaseNic, message := .vnetlibFreeresourceHc, skipped := true }

def prepareNic : DeployAction :=
  { id := .prepareNic, message := .vnetlibGetresourceHc, rollbackActionId := some .releaseNic }

def prepareImage (i : ℕ) (disk : VmDiskConfig) : DeployAction :=
  { id := .prepareImage i, message := .imageUrlPrepareReq, requestId := disk.requestId }

/-- The actions that make storage for one disk. -/
structure StorageActions where
  create : DeployAction
  auth : DeployAction

/-- The actions that give it back. -/
structure ReleaseActions where
  deauth : DeployAction
  delete : DeployAction

def snapshotActions (i : ℕ) (disk : VmDiskConfig) : StorageActions where
  create :=
    { id := .createSnapshot i, message := .storageCreateSnapshotReq, requestId := disk.requestId
      rollbackActionId := some (.deleteSnapshot i) }
  auth :=
    { id := .authSnapshot i, message := .storageAuthBlockReq, requestId := disk.requestId
      rollbackActionId := some (.deauthSnapshot i) }

def snapshotRelease (i : ℕ) (disk : VmDiskConfig) : ReleaseActions where
  deauth :=
    { id := .deauthSnapshot i, message := .storageDeauthBlockReq, requestId := disk.requestId }
  delete :=
    { id := .deleteSnapshot i, message := .storageDeleteSnapshotReq, requestId := disk.requestId }

def blockActions (i : ℕ) (disk : VmDiskConfig) : StorageActions where
  create :=
    { id := .createBlock i, message := .storageCreateBlockReq, requestId := disk.requestId
      rollbackActionId := some (.deleteBlock i) }
  auth :=
    { id := .authBlock i, message := .storageAuthBlockReq, requestId := disk.requestId
      rollbackActionId := some (.deauthBlock i) }

def blockRelease (i : ℕ) (disk : VmDiskConfig) : ReleaseActions where
  deauth :=
    { id := .deauthBlock i, message := .storageDeauthBlockReq, requestId := disk.requestId }
  delete :=
    { id := .deleteBlock i, message := .storageDeleteBlockReq, requestId := disk.requestId }

def shareBlockActions (i : ℕ) (disk : VmDiskConfig) : StorageActions where
  create :=
    { id := .createShareBlock i, message := .storageCreateBlockReq, requestId := disk.requestId
      rollbackActionId := some (.deleteShareBlock i) }
  auth :=
    { id := .authShareBlock i, message := .storageAuthBlockReq, requestId := disk.requestId
      rollbackActionId := some (.deauthShareBlock i) }

def shareBlockRelease (i : ℕ) (disk : VmDiskConfig) (skipDeauth skipDelete : Bool) :
    ReleaseActions where
  deauth :=
    { id := .deauthShareBlock i, message := .storageDeauthBlockReq, requestId := disk.requestId
      skipped := skipDeauth }
  delete :=
    { id := .deleteShareBlock i, message := .storageDeleteBlockReq, requestId := disk.requestId
      skipped := skipDelete }

def VMConfig.allDisks (config : VMConfig) : List VmDiskConfig := config.disks ++ [config.machine]

def VMConfig.indexedDisks (config : VMConfig) : List (VmDiskConfig × ℕ) := config.allDisks.zipIdx

/-- The actions that give the storage of a shared image back: a snapshot or a block. -/
def imageRelease (option : ImageStoreOption) (i : ℕ) (disk : VmDiskConfig) : ReleaseActions :=
  if option.shareImgUsage = IMAGE_USE_SNAPSHOT then snapshotRelease i disk else blockRelease i disk

def imageActions (option : ImageStoreOption) (i : ℕ) (disk : VmDiskConfig) : StorageActions :=
  if option.shareImgUsage = IMAGE_USE_SNAPSHOT then snapshotActions i disk else blockActions i disk

def releaseCalls (remove unselect : DeployAction) (release : ReleaseActions) : List DeployCall :=
  [.edge remove release.deauth, .edge release.deauth release.delete,
    .edge release.delete unselect]

/-- What the loop over the disks adds to `wf_rollback`. -/
def rollbackDiskCalls (option : ImageStoreOption) (disk : VmDiskConfig) (i : ℕ) : List DeployCall :=
  if disk.id ≠ INVALID_FILEID then
    if disk.position = IMAGE_POSITION_LOCAL then [.edge (removeVm true) (unselectHost true)]
    else releaseCalls (removeVm true) (unselectHost true) (imageRelease option i disk)
  else if disk.position = VM_STORAGE_TO_SHARE then
    releaseCalls (removeVm true) (unselectHost true) (shareBlockRelease i disk true true)
  else []

/-- What the loop over the disks adds to `wf_deploy`. -/
def deployDiskCalls (option : ImageStoreOption) (disk : VmDiskConfig) (i : ℕ) : List DeployCall :=
  if disk.id ≠ INVALID_FILEID then
    if disk.position = IMAGE_POSITION_LOCAL then
      [.edge selectHost (prepareImage i disk), .edge (prepareImage i disk) modify]
    else
      let image := imageActions option i disk
      [.edge selectHost (prepareImage i disk), .edge (prepareImage i disk) image.create,
        .edge image.create image.auth, .edge image.auth modify]
  else if disk.position = VM_STORAGE_TO_SHARE then
    let block := shareBlockActions i disk
    [.edge selectHost block.create, .edge block.create block.auth, .edge block.auth modify]
  else []

def rollbackNicCalls (config : VMConfig) : List DeployCall :=
  if isNeedVNet config then
    [.edge (removeVm true) releaseNic, .edge releaseNic (unselectHost true)]
  else []

def deployNicCalls (config : VMConfig) : List DeployCall :=
  if isNeedVNet config then
    [.edge selectHostByNic selectHost, .edge selectHost prepareNic, .edge prepareNic createVm]
  else []

/-- The calls of `DeployVM` on `wf_rollback`. -/
def rollbackCalls (config : VMConfig) (option : ImageStoreOption) : List DeployCall :=
  [.node (unselectHost true), .edge (removeVm true) (unselectHost true)] ++
    rollbackNicCalls config ++
    config.indexedDisks.flatMap fun d => rollbackDiskCalls option d.1 d.2

/-- The calls of `DeployVM` on `wf_deploy`. -/
def deployCalls (config : VMConfig) (option : ImageStoreOption) : List DeployCall :=
  [.node selectHost, .edge selectHost modify, .edge modify createVm] ++ deployNicCalls config ++
    config.indexedDisks.flatMap fun d => deployDiskCalls option d.1 d.2

def wfRollback (config : VMConfig) (option : ImageStoreOption) : VmWorkFlow VmActionId :=
  build VmAction.id (rollbackCalls config option)

def wfDeploy (config : VMConfig) (option : ImageStoreOption) : VmWorkFlow VmActionId :=
  build VmAction.id (deployCalls config option)

end Definitions

section Disks

variable {config : VMConfig} {option : ImageStoreOption} {disk : VmDiskConfig} {i : ℕ}

def VMConfig.diskAt (config : VMConfig) (i : ℕ) : VmDiskConfig :=
  config.allDisks.getD i config.machine

theorem mem_indexedDisks {d : VmDiskConfig × ℕ} :
    d ∈ config.indexedDisks ↔ config.allDisks[d.2]? = some d.1 := by
  rw [VMConfig.indexedDisks, List.mem_zipIdx_iff_getElem?]

theorem diskAt_of_mem {d : VmDiskConfig × ℕ} (mem : d ∈ config.indexedDisks) :
    config.diskAt d.2 = d.1 := by
  rw [VMConfig.diskAt, List.getD_eq_getElem?_getD, mem_indexedDisks.mp mem, Option.getD_some]

theorem mem_diskCalls {calls : VmDiskConfig → ℕ → List DeployCall} {call : DeployCall} :
    (call ∈ config.indexedDisks.flatMap fun d => calls d.1 d.2) ↔
      ∃ i disk, config.allDisks[i]? = some disk ∧ call ∈ calls disk i := by
  rw [List.mem_flatMap]
  constructor
  · rintro ⟨⟨disk, i⟩, mem, there⟩
    exact ⟨i, disk, mem_indexedDisks.mp mem, there⟩
  · rintro ⟨i, disk, at_, there⟩
    exact ⟨(disk, i), mem_indexedDisks.mpr at_, there⟩

end Disks

section Actions

variable {config : VMConfig} {option : ImageStoreOption} {skipped : VmActionId → Bool}

/-- The disk whose turn of the loop made the action. -/
def VmActionId.disk? : VmActionId → Option ℕ
  | .prepareImage i | .createSnapshot i | .deleteSnapshot i | .authSnapshot i | .deauthSnapshot i
  | .createBlock i | .deleteBlock i | .authBlock i | .deauthBlock i
  | .createShareBlock i | .deleteShareBlock i | .authShareBlock i | .deauthShareBlock i => some i
  | _ => none

def VmActionId.message : VmActionId → VmMessage
  | .unselectHost => .vmUnselectHost
  | .selectHost => .vmScheduleSingle
  | .removeVm | .createVm => .vmOp
  | .modify => .vmModifyCreateVm
  | .selectHostByNic => .vnetlibSelectHc
  | .releaseNic => .vnetlibFreeresourceHc
  | .prepareNic => .vnetlibGetresourceHc
  | .prepareImage _ => .imageUrlPrepareReq
  | .createSnapshot _ => .storageCreateSnapshotReq
  | .deleteSnapshot _ => .storageDeleteSnapshotReq
  | .createBlock _ | .createShareBlock _ => .storageCreateBlockReq
  | .deleteBlock _ | .deleteShareBlock _ => .storageDeleteBlockReq
  | .authSnapshot _ | .authBlock _ | .authShareBlock _ => .storageAuthBlockReq
  | .deauthSnapshot _ | .deauthBlock _ | .deauthShareBlock _ => .storageDeauthBlockReq

/-- The action that undoes an action. -/
def VmActionId.undo : VmActionId → Option VmActionId
  | .selectHost => some .unselectHost
  | .createVm => some .removeVm
  | .prepareNic => some .releaseNic
  | .createSnapshot i => some (.deleteSnapshot i)
  | .authSnapshot i => some (.deauthSnapshot i)
  | .createBlock i => some (.deleteBlock i)
  | .authBlock i => some (.deauthBlock i)
  | .createShareBlock i => some (.deleteShareBlock i)
  | .authShareBlock i => some (.deauthShareBlock i)
  | _ => none

/-- The actions of the rollback. -/
def VmActionId.isUndo : VmActionId → Bool
  | .unselectHost | .removeVm | .releaseNic | .deleteSnapshot _ | .deauthSnapshot _
  | .deleteBlock _ | .deauthBlock _ | .deleteShareBlock _ | .deauthShareBlock _ => true
  | _ => false

/-- How far along its workflow an action stands. -/
def VmActionId.level : VmActionId → ℕ
  | .selectHostByNic | .removeVm => 0
  | .selectHost | .releaseNic | .deauthSnapshot _ | .deauthBlock _ | .deauthShareBlock _ => 1
  | .prepareNic | .prepareImage _ | .deleteSnapshot _ | .deleteBlock _ | .deleteShareBlock _ => 2
  | .createSnapshot _ | .createBlock _ | .createShareBlock _ | .unselectHost => 3
  | .authSnapshot _ | .authBlock _ | .authShareBlock _ => 4
  | .modify => 5
  | .createVm => 6

def VMConfig.requestIdOf (config : VMConfig) (id : VmActionId) : String :=
  id.disk?.elim "" fun i => (config.diskAt i).requestId

def VMConfig.actionOf (config : VMConfig) (skipped : VmActionId → Bool) (id : VmActionId) :
    DeployAction where
  id := id
  message := id.message
  requestId := config.requestIdOf id
  rollbackActionId := id.undo
  skipped := skipped id

/-- A call about the actions of a configuration that goes up. -/
structure Proper (config : VMConfig) (skipped : VmActionId → Bool) (call : DeployCall) : Prop where
  nodes : ∀ a ∈ call.nodes, a = config.actionOf skipped a.id
  edges : ∀ e ∈ call.edges VmAction.id, e.1.level < e.2.level

theorem ordered_of_proper {calls : List DeployCall}
    (proper : ∀ call ∈ calls, Proper config skipped call) :
    Ordered VmAction.id VmActionId.level calls := by
  constructor
  · intro call mem a memA call' mem' b memB eq
    rw [(proper call mem).nodes a memA, (proper call' mem').nodes b memB, eq]
  · exact fun call mem => (proper call mem).edges

theorem action_of_proper {calls : List DeployCall} {wf : VmWorkFlow VmActionId}
    (proper : ∀ call ∈ calls, Proper config skipped call) (built : Built VmAction.id calls wf)
    {a : DeployAction} (mem : a ∈ wf.nodes) : a = config.actionOf skipped a.id := by
  obtain ⟨call, memCall, node⟩ := (built.nodes a).mp mem
  exact (proper call memCall).nodes a node

def rollbackSkipped : VmActionId → Bool
  | .unselectHost | .removeVm | .releaseNic | .deauthShareBlock _ | .deleteShareBlock _ => true
  | _ => false

def deploySkipped : VmActionId → Bool := fun _ => false

theorem diskAt_eq {disk : VmDiskConfig} {i : ℕ} (there : config.allDisks[i]? = some disk) :
    config.diskAt i = disk :=
  diskAt_of_mem (d := (disk, i)) (mem_indexedDisks.mpr there)

theorem proper_node {a : DeployAction} (same : a = config.actionOf skipped a.id) :
    Proper config skipped (.node a) := by
  constructor
  · simpa only [Call.nodes, List.mem_singleton, forall_eq] using same
  · simp only [Call.edges, List.not_mem_nil, false_implies, implies_true]

theorem proper_edge {a b : DeployAction} (first : a = config.actionOf skipped a.id)
    (second : b = config.actionOf skipped b.id) (up : a.id.level < b.id.level) :
    Proper config skipped (.edge a b) := by
  constructor
  · exact Call.forall_nodes_edge first second
  · simpa only [Call.edges, List.mem_singleton, forall_eq] using up

/-- An image whose storage is shared. -/
def VmDiskConfig.isSharedImage (disk : VmDiskConfig) : Prop :=
  disk.id ≠ INVALID_FILEID ∧ disk.position ≠ IMAGE_POSITION_LOCAL

/-- A shared disk without an image. -/
def VmDiskConfig.isShareDisk (disk : VmDiskConfig) : Prop :=
  disk.id = INVALID_FILEID ∧ disk.position = VM_STORAGE_TO_SHARE

/-- The storage that a deployment makes for a disk, and how its rollback gives it back. -/
def Acquired (config : VMConfig) (option : ImageStoreOption) (i : ℕ) (s : StorageActions)
    (r : ReleaseActions) : Prop :=
  ∃ disk, config.allDisks[i]? = some disk ∧
    (disk.isSharedImage ∧ s = imageActions option i disk ∧ r = imageRelease option i disk ∨
      disk.isShareDisk ∧ s = shareBlockActions i disk ∧ r = shareBlockRelease i disk true true)

/-- What the actions for a disk are. -/
structure StorageSpec (config : VMConfig) (i : ℕ) (s : StorageActions) (r : ReleaseActions) :
    Prop where
  create : s.create = config.actionOf deploySkipped s.create.id
  auth : s.auth = config.actionOf deploySkipped s.auth.id
  deauth : r.deauth = config.actionOf rollbackSkipped r.deauth.id
  delete : r.delete = config.actionOf rollbackSkipped r.delete.id
  undoCreate : s.create.id.undo = some r.delete.id
  undoAuth : s.auth.id.undo = some r.deauth.id
  levels : s.create.id.level = 3 ∧ s.auth.id.level = 4 ∧ r.deauth.id.level = 1 ∧
    r.delete.id.level = 2
  disks : s.create.id.disk? = some i ∧ s.auth.id.disk? = some i
  sides : s.create.id.isUndo = false ∧ s.auth.id.isUndo = false ∧ r.deauth.id.isUndo = true ∧
    r.delete.id.isUndo = true

theorem Acquired.spec {i : ℕ} {s : StorageActions} {r : ReleaseActions}
    (acquired : Acquired config option i s r) : StorageSpec config i s r := by
  obtain ⟨disk, there, ⟨-, rfl, rfl⟩ | ⟨-, rfl, rfl⟩⟩ := acquired
  · obtain rfl := diskAt_eq there
    rw [imageActions, imageRelease]
    split
    · exact ⟨rfl, rfl, rfl, rfl, rfl, rfl, ⟨rfl, rfl, rfl, rfl⟩, ⟨rfl, rfl⟩, ⟨rfl, rfl, rfl, rfl⟩⟩
    · exact ⟨rfl, rfl, rfl, rfl, rfl, rfl, ⟨rfl, rfl, rfl, rfl⟩, ⟨rfl, rfl⟩, ⟨rfl, rfl, rfl, rfl⟩⟩
  · obtain rfl := diskAt_eq there
    exact ⟨rfl, rfl, rfl, rfl, rfl, rfl, ⟨rfl, rfl, rfl, rfl⟩, ⟨rfl, rfl⟩, ⟨rfl, rfl, rfl, rfl⟩⟩

/-- The calls on `wf_deploy`, by what they are for. -/
inductive IsDeployCall (config : VMConfig) (option : ImageStoreOption) : DeployCall → Prop
  | start : IsDeployCall config option (.node selectHost)
  | modify : IsDeployCall config option (.edge selectHost modify)
  | createVm : IsDeployCall config option (.edge modify createVm)
  | selectByNic : IsDeployCall config option (.edge selectHostByNic selectHost)
  | prepareNic (nic : isNeedVNet config = true) :
      IsDeployCall config option (.edge selectHost prepareNic)
  | connect (nic : isNeedVNet config = true) :
      IsDeployCall config option (.edge prepareNic createVm)
  | prepareImage (i : ℕ) :
      IsDeployCall config option (.edge selectHost (prepareImage i (config.diskAt i)))
  | localImage (i : ℕ) :
      IsDeployCall config option (.edge (prepareImage i (config.diskAt i)) modify)
  | createImage {i : ℕ} {s : StorageActions} {r : ReleaseActions}
      (acquired : Acquired config option i s r) :
      IsDeployCall config option (.edge (prepareImage i (config.diskAt i)) s.create)
  | createShare {i : ℕ} {s : StorageActions} {r : ReleaseActions}
      (acquired : Acquired config option i s r) :
      IsDeployCall config option (.edge selectHost s.create)
  | auth {i : ℕ} {s : StorageActions} {r : ReleaseActions}
      (acquired : Acquired config option i s r) :
      IsDeployCall config option (.edge s.create s.auth)
  | authorised {i : ℕ} {s : StorageActions} {r : ReleaseActions}
      (acquired : Acquired config option i s r) :
      IsDeployCall config option (.edge s.auth modify)

theorem isDeployCall_of_mem {call : DeployCall} (mem : call ∈ deployCalls config option) :
    IsDeployCall config option call := by
  simp only [deployCalls, List.mem_append, mem_diskCalls, List.mem_cons, List.not_mem_nil,
    or_false] at mem
  rcases mem with ((rfl | rfl | rfl) | nic) | ⟨i, disk, there, mem⟩
  · exact .start
  · exact .modify
  · exact .createVm
  · rw [deployNicCalls] at nic
    split at nic
    · next needed =>
      simp only [List.mem_cons, List.not_mem_nil, or_false] at nic
      rcases nic with rfl | rfl | rfl
      · exact .selectByNic
      · exact .prepareNic needed
      · exact .connect needed
    · cases nic
  · obtain rfl := diskAt_eq there
    rw [deployDiskCalls] at mem
    split at mem
    · next image =>
      split at mem
      · simp only [List.mem_cons, List.not_mem_nil, or_false] at mem
        rcases mem with rfl | rfl
        · exact .prepareImage i
        · exact .localImage i
      · next shared =>
        have acquired : Acquired config option i (imageActions option i (config.diskAt i))
            (imageRelease option i (config.diskAt i)) :=
          ⟨_, there, .inl ⟨⟨image, shared⟩, rfl, rfl⟩⟩
        simp only [List.mem_cons, List.not_mem_nil, or_false] at mem
        rcases mem with rfl | rfl | rfl | rfl
        · exact .prepareImage i
        · exact .createImage acquired
        · exact .auth acquired
        · exact .authorised acquired
    · next noImage =>
      split at mem
      · next shared =>
        have acquired : Acquired config option i (shareBlockActions i (config.diskAt i))
            (shareBlockRelease i (config.diskAt i) true true) :=
          ⟨_, there, .inr ⟨⟨not_not.mp noImage, shared⟩, rfl, rfl⟩⟩
        simp only [List.mem_cons, List.not_mem_nil, or_false] at mem
        rcases mem with rfl | rfl | rfl
        · exact .createShare acquired
        · exact .auth acquired
        · exact .authorised acquired
      · cases mem

/-- The calls on `wf_rollback`. -/
inductive IsRollbackCall (config : VMConfig) (option : ImageStoreOption) : DeployCall → Prop
  | start : IsRollbackCall config option (.node (unselectHost true))
  | remove : IsRollbackCall config option (.edge (removeVm true) (unselectHost true))
  | releaseNic : IsRollbackCall config option (.edge (removeVm true) releaseNic)
  | released : IsRollbackCall config option (.edge releaseNic (unselectHost true))
  | storage {i : ℕ} {s : StorageActions} {r : ReleaseActions} {call : DeployCall}
      (acquired : Acquired config option i s r)
      (mem : call ∈ releaseCalls (removeVm true) (unselectHost true) r) :
      IsRollbackCall config option call

theorem isRollbackCall_of_mem {call : DeployCall} (mem : call ∈ rollbackCalls config option) :
    IsRollbackCall config option call := by
  simp only [rollbackCalls, List.mem_append, mem_diskCalls, List.mem_cons, List.not_mem_nil,
    or_false] at mem
  rcases mem with ((rfl | rfl) | nic) | ⟨i, disk, there, mem⟩
  · exact .start
  · exact .remove
  · rw [rollbackNicCalls] at nic
    split at nic
    · simp only [List.mem_cons, List.not_mem_nil, or_false] at nic
      rcases nic with rfl | rfl
      · exact .releaseNic
      · exact .released
    · cases nic
  · rw [rollbackDiskCalls] at mem
    split at mem
    · next image =>
      split at mem
      · obtain rfl := List.mem_singleton.mp mem
        exact .remove
      · next shared => exact .storage ⟨disk, there, .inl ⟨⟨image, shared⟩, rfl, rfl⟩⟩ mem
    · next noImage =>
      split at mem
      · next shared =>
        exact .storage ⟨disk, there, .inr ⟨⟨not_not.mp noImage, shared⟩, rfl, rfl⟩⟩ mem
      · cases mem

/-- Every storage that a deployment makes is given back in its rollback. -/
theorem mem_rollbackCalls_of_acquired {i : ℕ} {s : StorageActions} {r : ReleaseActions}
    (acquired : Acquired config option i s r) :
    ∀ call ∈ releaseCalls (removeVm true) (unselectHost true) r,
      call ∈ rollbackCalls config option := by
  intro call mem
  obtain ⟨disk, there, ⟨⟨image, shared⟩, -, rfl⟩ | ⟨⟨noImage, shared⟩, -, rfl⟩⟩ := acquired
  · refine List.mem_append_right _ (mem_diskCalls.mpr ⟨i, disk, there, ?_⟩)
    rw [rollbackDiskCalls, if_pos image, if_neg shared]
    exact mem
  · refine List.mem_append_right _ (mem_diskCalls.mpr ⟨i, disk, there, ?_⟩)
    rw [rollbackDiskCalls, if_neg (not_not.mpr noImage), if_pos shared]
    exact mem

theorem proper_release {remove unselect : DeployAction} {release : ReleaseActions}
    (removes : remove = config.actionOf skipped .removeVm)
    (unselects : unselect = config.actionOf skipped .unselectHost)
    (deauths : release.deauth = config.actionOf skipped release.deauth.id)
    (deletes : release.delete = config.actionOf skipped release.delete.id)
    (levels : release.deauth.id.level = 1 ∧ release.delete.id.level = 2) :
    ∀ call ∈ releaseCalls remove unselect release, Proper config skipped call := by
  subst removes unselects
  simp only [releaseCalls, List.mem_cons, List.not_mem_nil, or_false]
  rintro call (rfl | rfl | rfl)
  · exact proper_edge rfl deauths (levels.1 ▸ Nat.zero_lt_one)
  · exact proper_edge deauths deletes (by omega)
  · exact proper_edge deletes rfl (levels.2 ▸ Nat.lt_succ_self 2)

theorem imageRelease_proper (config : VMConfig) (option : ImageStoreOption) (i : ℕ)
    (skipped : VmActionId → Bool)
    (kept : skipped (.deauthSnapshot i) = false ∧ skipped (.deleteSnapshot i) = false ∧
      skipped (.deauthBlock i) = false ∧ skipped (.deleteBlock i) = false) :
    let image := imageRelease option i (config.diskAt i)
    image.deauth = config.actionOf skipped image.deauth.id ∧
      image.delete = config.actionOf skipped image.delete.id ∧
      image.deauth.id.level = 1 ∧ image.delete.id.level = 2 := by
  obtain ⟨deauthSnapshot, deleteSnapshot, deauthBlock, deleteBlock⟩ := kept
  rw [imageRelease]
  split
  · simp only [snapshotRelease, VMConfig.actionOf, deauthSnapshot, deleteSnapshot]
    exact ⟨rfl, rfl, rfl, rfl⟩
  · simp only [blockRelease, VMConfig.actionOf, deauthBlock, deleteBlock]
    exact ⟨rfl, rfl, rfl, rfl⟩

theorem rollback_proper : ∀ call ∈ rollbackCalls config option,
    Proper config rollbackSkipped call := by
  intro call mem
  have remove : removeVm true = config.actionOf rollbackSkipped .removeVm := rfl
  have unselect : unselectHost true = config.actionOf rollbackSkipped .unselectHost := rfl
  cases isRollbackCall_of_mem mem with
  | start => exact proper_node unselect
  | remove => exact proper_edge remove unselect (by decide)
  | releaseNic => exact proper_edge remove rfl (by decide)
  | released => exact proper_edge rfl unselect (by decide)
  | storage acquired mem =>
      have spec := acquired.spec
      exact proper_release remove unselect spec.deauth spec.delete spec.levels.2.2 call mem

theorem deploy_proper : ∀ call ∈ deployCalls config option,
    Proper config deploySkipped call := by
  intro call mem
  have prepare (i : ℕ) : prepareImage i (config.diskAt i) =
    config.actionOf deploySkipped (.prepareImage i) := rfl
  cases isDeployCall_of_mem mem with
  | start => exact proper_node rfl
  | modify => exact proper_edge rfl rfl (by decide)
  | createVm => exact proper_edge rfl rfl (by decide)
  | selectByNic => exact proper_edge rfl rfl (by decide)
  | prepareNic nic => exact proper_edge rfl rfl (by decide)
  | connect nic => exact proper_edge rfl rfl (by decide)
  | prepareImage i => exact proper_edge rfl (prepare i) (Nat.lt_succ_self 1)
  | localImage i => exact proper_edge (prepare i) rfl (show 2 < 5 by omega)
  | createImage acquired =>
      exact proper_edge (prepare _) acquired.spec.create
        (acquired.spec.levels.1 ▸ Nat.lt_succ_self 2)
  | createShare acquired =>
      exact proper_edge rfl acquired.spec.create
        (acquired.spec.levels.1 ▸ (show 1 < 3 by omega))
  | auth acquired =>
      have levels := acquired.spec.levels
      exact proper_edge acquired.spec.create acquired.spec.auth (by omega)
  | authorised acquired =>
      exact proper_edge acquired.spec.auth rfl
        (acquired.spec.levels.2.1 ▸ Nat.lt_succ_self 4)

theorem wfRollback_built :
    Built VmAction.id (rollbackCalls config option) (wfRollback config option) :=
  build_built (ordered_of_proper rollback_proper)

theorem wfDeploy_built : Built VmAction.id (deployCalls config option) (wfDeploy config option) :=
  build_built (ordered_of_proper deploy_proper)

end Actions

end Tecs.Vm
