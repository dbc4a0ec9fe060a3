import Tecs.Vm.DeployVm

set_option autoImplicit false

/-! The workflow of a cancellation against the rollback of the deployment. -/

namespace Tecs.Vm

open NodeGraph Relation

section Definitions

/-- The first pass over the disks. -/
def cancelImageCalls (option : ImageStoreOption) (skipHc : Bool) (disk : VmDiskConfig) (i : ℕ) :
    List DeployCall :=
  if disk.id ≠ INVALID_FILEID then
    if IMAGE_POSITION_LOCAL ≠ disk.position then
      releaseCalls (removeVm skipHc) (unselectHost false) (imageRelease option i disk)
    else []
  else []

/-- The second pass, over the same disks. -/
def cancelShareCalls (skipHc : Bool) (disk : VmDiskConfig) (i : ℕ) : List DeployCall :=
  if disk.position = VM_STORAGE_TO_SHARE then
    releaseCalls (removeVm skipHc) (unselectHost false)
      (shareBlockRelease i disk false (!disk.isNeedRelease))
  else []

def cancelCalls (config : VMConfig) (option : ImageStoreOption) (hid : ℤ) : List DeployCall :=
  let skipHc := decide (hid = -1)
  [.node (removeVm skipHc), .edge (removeVm skipHc) (unselectHost false)] ++
    (config.indexedDisks.flatMap fun d => cancelImageCalls option skipHc d.1 d.2) ++
    config.indexedDisks.flatMap fun d => cancelShareCalls skipHc d.1 d.2

def addCancelWorkFLow (config : VMConfig) (option : ImageStoreOption)
    (hid : ℤ) : VmWorkFlow VmActionId :=
  build VmAction.id (cancelCalls config option hid)

/-- The messages to the storage controller that give something back. -/
def VmMessage.isRelease : VmMessage → Bool
  | .storageDeauthBlockReq | .storageDeleteSnapshotReq | .storageDeleteBlockReq => true
  | _ => false

def VmMessage.isStorage : VmMessage → Bool
  | .storageCreateSnapshotReq | .storageCreateBlockReq | .storageAuthBlockReq => true
  | message => message.isRelease

def VmMessage.isDelete : VmMessage → Bool
  | .storageDeleteSnapshotReq | .storageDeleteBlockReq => true
  | _ => false

def VmAction.request {κ : Type} (action : VmAction κ) : VmMessage × String :=
  (action.message, action.requestId)

def storageActions (wf : VmWorkFlow VmActionId) : List DeployAction :=
  wf.nodes.filter (·.message.isStorage)

def releaseActions (wf : VmWorkFlow VmActionId) : List DeployAction :=
  wf.nodes.filter (·.message.isRelease)

/-- One disk is given back: taken from the machine's host once, then deleted once, between the
removal of the machine and the end of its hold on the host. -/
structure ReleasedOnce (wf : VmWorkFlow VmActionId) (i : ℕ) (disk : VmDiskConfig) : Prop where
  pair : ∃ deauth delete : DeployAction,
    ((storageActions wf).filter (·.id.disk? = some i)).Perm [deauth, delete] ∧
      deauth.request = (.storageDeauthBlockReq, disk.requestId) ∧ delete.message.isDelete ∧
      delete.requestId = disk.requestId ∧ TransGen wf.Precedes .removeVm deauth.id ∧
      TransGen wf.Precedes deauth.id delete.id ∧ TransGen wf.Precedes delete.id .unselectHost

/-- A cancellation gives back what the rollback of the deployment would. -/
structure ReleasesDeployed (config : VMConfig) (option : ImageStoreOption) (hid : ℤ) : Prop where
  requests : ((storageActions (addCancelWorkFLow config option hid)).map VmAction.request).Perm
    ((releaseActions (wfRollback config option)).map VmAction.request)
  skips : ∀ a ∈ storageActions (addCancelWorkFLow config option hid), a.skipped →
    a.message.isDelete ∧ ∃ i disk, config.allDisks[i]? = some disk ∧ a.id.disk? = some i ∧
      disk.isShareDisk ∧ disk.isNeedRelease = false
  once : ∀ i disk, config.allDisks[i]? = some disk → disk.isSharedImage ∨ disk.isShareDisk →
    ReleasedOnce (addCancelWorkFLow config option hid) i disk

end Definitions

section Built

variable {config : VMConfig} {option : ImageStoreOption} {hid : ℤ}

def VMConfig.cancelSkipped (config : VMConfig) (hid : ℤ) : VmActionId → Bool
  | .removeVm => hid = -1
  | .deleteShareBlock i => !(config.diskAt i).isNeedRelease
  | _ => false

theorem cancel_proper : ∀ call ∈ cancelCalls config option hid,
    Proper config (config.cancelSkipped hid) call := by
  intro call mem
  have remove : removeVm (decide (hid = -1)) =
    config.actionOf (config.cancelSkipped hid) .removeVm := rfl
  have unselect : unselectHost false =
    config.actionOf (config.cancelSkipped hid) .unselectHost := rfl
  simp only [cancelCalls, List.mem_append, mem_diskCalls, List.mem_cons, List.not_mem_nil,
    or_false] at mem
  rcases mem with ((rfl | rfl) | ⟨i, disk, there, mem⟩) | ⟨i, disk, there, mem⟩
  · exact proper_node remove
  · exact proper_edge remove unselect (show 0 < 3 by omega)
  · obtain rfl := diskAt_eq there
    rw [cancelImageCalls] at mem
    split at mem
    · split at mem
      · obtain ⟨deauths, deletes, levels⟩ :=
          imageRelease_proper config option i (config.cancelSkipped hid) ⟨rfl, rfl, rfl, rfl⟩
        exact proper_release remove unselect deauths deletes levels call mem
      · cases mem
    · cases mem
  · obtain rfl := diskAt_eq there
    rw [cancelShareCalls] at mem
    split at mem
    · exact proper_release remove unselect rfl rfl ⟨rfl, rfl⟩ call mem
    · cases mem

theorem addCancelWorkFLow_built : Built VmAction.id (cancelCalls config option hid)
    (addCancelWorkFLow config option hid) :=
  build_built (ordered_of_proper cancel_proper)

end Built

section Releasing

variable {config : VMConfig} {option : ImageStoreOption} {hid : ℤ} {remove unselect : DeployAction}
  {released : ℕ → ReleaseActions → Prop} {calls : List DeployCall} {wf : VmWorkFlow VmActionId}

/-- The actions of a disk that give it back. -/
structure IsRelease (config : VMConfig) (i : ℕ) (release : ReleaseActions) : Prop where
  deauthDisk : release.deauth.id.disk? = some i
  deleteDisk : release.delete.id.disk? = some i
  deauth : release.deauth.request = (.storageDeauthBlockReq, (config.diskAt i).requestId)
  delete : release.delete.message.isDelete
  request : release.delete.requestId = (config.diskAt i).requestId

theorem image_isRelease (config : VMConfig) (option : ImageStoreOption) (i : ℕ) :
    IsRelease config i (imageRelease option i (config.diskAt i)) := by
  rw [imageRelease]
  split
  · exact ⟨rfl, rfl, rfl, rfl, rfl⟩
  · exact ⟨rfl, rfl, rfl, rfl, rfl⟩

theorem shareBlock_isRelease (config : VMConfig) (i : ℕ) (skipDeauth skipDelete : Bool) :
    IsRelease config i (shareBlockRelease i (config.diskAt i) skipDeauth skipDelete) :=
  ⟨rfl, rfl, rfl, rfl, rfl⟩

/-- Calls whose actions for the storage controller are those that give the disks back. -/
structure Releasing (config : VMConfig) (remove unselect : DeployAction)
    (released : ℕ → ReleaseActions → Prop) (calls : List DeployCall) : Prop where
  release : ∀ i r, released i r → IsRelease config i r
  storage : ∀ call ∈ calls, ∀ a ∈ call.nodes, a.message.isStorage →
    ∃ i r, released i r ∧ (a = r.deauth ∨ a = r.delete)
  calls : ∀ i r, released i r → ∀ call ∈ releaseCalls remove unselect r, call ∈ calls

theorem nodes_releaseCalls {r : ReleaseActions} {call : DeployCall} {a : DeployAction}
    (mem : call ∈ releaseCalls remove unselect r) (node : a ∈ call.nodes) :
    a = remove ∨ a = r.deauth ∨ a = r.delete ∨ a = unselect := by
  simp only [releaseCalls, List.mem_cons, List.not_mem_nil, or_false] at mem
  rcases mem with rfl | rfl | rfl <;>
    simp only [Call.nodes, List.mem_cons, List.not_mem_nil, or_false] at node <;> tauto

theorem not_isStorage_edge {a b c : DeployAction} (first : a.message.isStorage = false)
    (second : b.message.isStorage = false) (node : c ∈ Call.nodes (.edge a b)) :
    ¬ c.message.isStorage := by
  simp only [Call.nodes, List.mem_cons, List.not_mem_nil, or_false] at node
  rcases node with rfl | rfl
  · exact Bool.eq_false_iff.mp first
  · exact Bool.eq_false_iff.mp second

theorem storage_of_releaseCalls {r : ReleaseActions} {call : DeployCall} {a : DeployAction}
    (first : remove.message.isStorage = false) (last : unselect.message.isStorage = false)
    (mem : call ∈ releaseCalls remove unselect r) (node : a ∈ call.nodes)
    (storage : a.message.isStorage) : a = r.deauth ∨ a = r.delete := by
  rcases nodes_releaseCalls mem node with rfl | one | one | rfl
  · exact absurd storage (Bool.eq_false_iff.mp first)
  · exact .inl one
  · exact .inr one
  · exact absurd storage (Bool.eq_false_iff.mp last)

theorem isStorage_of_isDelete {message : VmMessage} (delete : message.isDelete) :
    message.isStorage ∧ message.isRelease := by
  cases message <;> first | exact ⟨rfl, rfl⟩ | cases delete

theorem IsRelease.deauth_message {i : ℕ} {r : ReleaseActions} (release : IsRelease config i r) :
    r.deauth.message = .storageDeauthBlockReq :=
  congrArg Prod.fst release.deauth

theorem IsRelease.isRelease {i : ℕ} {r : ReleaseActions} (release : IsRelease config i r)
    {a : DeployAction} (one : a = r.deauth ∨ a = r.delete) :
    a.message.isStorage ∧ a.message.isRelease := by
  rcases one with rfl | rfl
  · rw [release.deauth_message]
    exact ⟨rfl, rfl⟩
  · exact isStorage_of_isDelete release.delete

theorem isStorage_of_isRelease {message : VmMessage} (release : message.isRelease) :
    message.isStorage := by
  cases message <;> first | rfl | cases release

theorem IsRelease.deauth_ne_delete {i : ℕ} {r : ReleaseActions} (release : IsRelease config i r) :
    r.deauth ≠ r.delete := by
  intro same
  have delete := release.delete
  rw [← same, release.deauth_message] at delete
  cases delete

theorem Releasing.mem_nodes (releasing : Releasing config remove unselect released calls)
    (built : Built VmAction.id calls wf) {a : DeployAction} (storage : a.message.isStorage) :
    a ∈ wf.nodes ↔ ∃ i r, released i r ∧ (a = r.deauth ∨ a = r.delete) := by
  rw [built.nodes]
  constructor
  · rintro ⟨call, mem, node⟩
    exact releasing.storage call mem a node storage
  · rintro ⟨i, r, there, one⟩
    refine ⟨.edge r.deauth r.delete, releasing.calls i r there _ (by simp [releaseCalls]), ?_⟩
    simpa only [Call.nodes, List.mem_cons, List.not_mem_nil, or_false] using one

theorem Releasing.mem_storageActions (releasing : Releasing config remove unselect released calls)
    (built : Built VmAction.id calls wf) {a : DeployAction} :
    a ∈ storageActions wf ↔ ∃ i r, released i r ∧ (a = r.deauth ∨ a = r.delete) := by
  rw [storageActions, List.mem_filter]
  constructor
  · rintro ⟨mem, storage⟩
    exact (releasing.mem_nodes built storage).mp mem
  · rintro ⟨i, r, there, one⟩
    have storage := ((releasing.release i r there).isRelease one).1
    exact ⟨(releasing.mem_nodes built storage).mpr ⟨i, r, there, one⟩, storage⟩

theorem Releasing.mem_releaseActions (releasing : Releasing config remove unselect released calls)
    (built : Built VmAction.id calls wf) {a : DeployAction} :
    a ∈ releaseActions wf ↔ ∃ i r, released i r ∧ (a = r.deauth ∨ a = r.delete) := by
  rw [releaseActions, List.mem_filter]
  constructor
  · rintro ⟨mem, release⟩
    exact (releasing.mem_nodes built (isStorage_of_isRelease release)).mp mem
  · rintro ⟨i, r, there, one⟩
    obtain ⟨storage, release⟩ := (releasing.release i r there).isRelease one
    exact ⟨(releasing.mem_nodes built storage).mpr ⟨i, r, there, one⟩, release⟩

theorem mem_map_ids {actions : List DeployAction}
    (mem : ∀ a, a ∈ actions ↔ ∃ i r, released i r ∧ (a = r.deauth ∨ a = r.delete))
    {id : VmActionId} : id ∈ actions.map VmAction.id ↔
      ∃ i r, released i r ∧ (id = r.deauth.id ∨ id = r.delete.id) := by
  rw [List.mem_map]
  constructor
  · rintro ⟨a, there, rfl⟩
    obtain ⟨i, r, released, one⟩ := (mem a).mp there
    exact ⟨i, r, released, one.imp (congrArg VmAction.id) (congrArg VmAction.id)⟩
  · rintro ⟨i, r, released, rfl | rfl⟩
    · exact ⟨r.deauth, (mem _).mpr ⟨i, r, released, .inl rfl⟩, rfl⟩
    · exact ⟨r.delete, (mem _).mpr ⟨i, r, released, .inr rfl⟩, rfl⟩

/-- The steps from the removal of the machine to the end of its hold on the host. -/
theorem Releasing.precedes (releasing : Releasing config remove unselect released calls)
    (built : Built VmAction.id calls wf) {i : ℕ} {r : ReleaseActions} (there : released i r) :
    wf.Precedes remove.id r.deauth.id ∧ wf.Precedes r.deauth.id r.delete.id ∧
      wf.Precedes r.delete.id unselect.id := by
  have edge {a b : DeployAction} (mem : Call.edge a b ∈ releaseCalls remove unselect r) :
      wf.Precedes a.id b.id :=
    (built.edges _).mpr ⟨_, releasing.calls i r there _ mem, by simp [Call.edges]⟩
  exact ⟨edge (by simp [releaseCalls]), edge (by simp [releaseCalls]),
    edge (by simp [releaseCalls])⟩

def rollbackReleased (config : VMConfig) (option : ImageStoreOption) (i : ℕ)
    (r : ReleaseActions) : Prop :=
  ∃ s, Acquired config option i s r

def cancelReleased (config : VMConfig) (option : ImageStoreOption) (i : ℕ)
    (r : ReleaseActions) : Prop :=
  ∃ disk, config.allDisks[i]? = some disk ∧
    (disk.isSharedImage ∧ r = imageRelease option i disk ∨
      disk.position = VM_STORAGE_TO_SHARE ∧
        r = shareBlockRelease i disk false (!disk.isNeedRelease))

theorem rollback_releasing (config : VMConfig) (option : ImageStoreOption) :
    Releasing config (removeVm true) (unselectHost true)
      (rollbackReleased config option) (rollbackCalls config option) := by
  constructor
  · rintro i r ⟨s, disk, there, ⟨-, -, rfl⟩ | ⟨-, -, rfl⟩⟩
    · obtain rfl := diskAt_eq there
      exact image_isRelease config option i
    · obtain rfl := diskAt_eq there
      exact shareBlock_isRelease config i true true
  · intro call mem a node storage
    cases isRollbackCall_of_mem mem with
    | start => exact absurd storage (by rw [List.mem_singleton.mp node]; decide)
    | remove => exact absurd storage (not_isStorage_edge rfl rfl node)
    | releaseNic => exact absurd storage (not_isStorage_edge rfl rfl node)
    | released => exact absurd storage (not_isStorage_edge rfl rfl node)
    | storage acquired mem =>
        exact ⟨_, _, ⟨_, acquired⟩, storage_of_releaseCalls rfl rfl mem node storage⟩
  · rintro i r ⟨s, acquired⟩
    exact mem_rollbackCalls_of_acquired acquired

theorem cancel_releasing (config : VMConfig) (option : ImageStoreOption) (hid : ℤ) :
    Releasing config (removeVm (hid = -1)) (unselectHost false)
    (cancelReleased config option) (cancelCalls config option hid) := by
  constructor
  · rintro i r ⟨disk, there, image | share⟩
    · obtain rfl := diskAt_eq there
      exact image.2 ▸ image_isRelease config option i
    · obtain rfl := diskAt_eq there
      exact share.2 ▸ shareBlock_isRelease config i false _
  · intro call mem a node storage
    simp only [cancelCalls, List.mem_append, mem_diskCalls, List.mem_cons, List.not_mem_nil,
      or_false] at mem
    rcases mem with ((rfl | rfl) | ⟨i, disk, there, mem⟩) | ⟨i, disk, there, mem⟩
    · obtain rfl := List.mem_singleton.mp node
      cases storage
    · exact absurd storage (not_isStorage_edge rfl rfl node)
    · rw [cancelImageCalls] at mem
      split at mem
      · next image =>
        split at mem
        · next shared =>
          exact ⟨i, _, ⟨disk, there, .inl ⟨⟨image, shared.symm⟩, rfl⟩⟩,
            storage_of_releaseCalls rfl rfl mem node storage⟩
        · cases mem
      · cases mem
    · rw [cancelShareCalls] at mem
      split at mem
      · next shared =>
        exact ⟨i, _, ⟨disk, there, .inr ⟨shared, rfl⟩⟩,
          storage_of_releaseCalls rfl rfl mem node storage⟩
      · cases mem
  · rintro i r ⟨disk, there, ⟨⟨image, shared⟩, rfl⟩ | ⟨shared, rfl⟩⟩ call mem
    · refine List.mem_append_left _ (List.mem_append_right _
        (mem_diskCalls.mpr ⟨i, disk, there, ?_⟩))
      rw [cancelImageCalls, if_pos image, if_pos shared.symm]
      exact mem
    · refine List.mem_append_right _ (mem_diskCalls.mpr ⟨i, disk, there, ?_⟩)
      rw [cancelShareCalls, if_pos shared]
      exact mem

end Releasing

section Agreement

variable {config : VMConfig} {option : ImageStoreOption} {hid : ℤ} {i : ℕ} {r : ReleaseActions}

/-- No image asks for the place that marks the shared disks. -/
def VMConfig.imagesApart (config : VMConfig) : Prop :=
  ∀ disk ∈ config.allDisks, disk.id ≠ INVALID_FILEID → disk.position ≠ VM_STORAGE_TO_SHARE

instance : Decidable config.imagesApart :=
  inferInstanceAs (Decidable (∀ disk ∈ config.allDisks, _ → _))

theorem shareDisk_of_apart (apart : config.imagesApart) {disk : VmDiskConfig}
    (there : config.allDisks[i]? = some disk) (shared : disk.position = VM_STORAGE_TO_SHARE) :
    disk.isShareDisk := by
  have none : disk.id = INVALID_FILEID := by
    by_contra image
    exact apart disk (List.mem_of_getElem? there) image shared
  exact ⟨none, shared⟩

theorem cancelReleased_unique (apart : config.imagesApart) {r' : ReleaseActions}
    (one : cancelReleased config option i r) (other : cancelReleased config option i r') :
    r' = r := by
  obtain ⟨disk, there, one⟩ := one
  obtain ⟨disk', there', other⟩ := other
  obtain rfl : disk = disk' := Option.some.inj (there.symm.trans there')
  rcases one with ⟨image, rfl⟩ | ⟨shared, rfl⟩
  · rcases other with ⟨-, rfl⟩ | ⟨shared, -⟩
    · rfl
    · exact absurd (shareDisk_of_apart apart there shared).1 image.1
  · rcases other with ⟨image, -⟩ | ⟨-, rfl⟩
    · exact absurd (shareDisk_of_apart apart there shared).1 image.1
    · rfl

/-- Both workflows give back under the same ids. -/
theorem released_ids (apart : config.imagesApart) (id : VmActionId) :
    (∃ i r, cancelReleased config option i r ∧ (id = r.deauth.id ∨ id = r.delete.id)) ↔
      ∃ i r, rollbackReleased config option i r ∧ (id = r.deauth.id ∨ id = r.delete.id) := by
  constructor
  · rintro ⟨i, r, ⟨disk, there, ⟨image, rfl⟩ | ⟨shared, rfl⟩⟩, one⟩
    · exact ⟨i, _, ⟨_, disk, there, .inl ⟨image, rfl, rfl⟩⟩, one⟩
    · have share := shareDisk_of_apart apart there shared
      exact ⟨i, _, ⟨_, disk, there, .inr ⟨share, rfl, rfl⟩⟩, one⟩
  · rintro ⟨i, r, ⟨s, disk, there, ⟨image, -, rfl⟩ | ⟨shared, -, rfl⟩⟩, one⟩
    · exact ⟨i, _, ⟨disk, there, .inl ⟨image, rfl⟩⟩, one⟩
    · exact ⟨i, _, ⟨disk, there, .inr ⟨shared.2, rfl⟩⟩, one⟩

theorem request_of_proper {skipped : VmActionId → Bool} {calls : List DeployCall}
    {wf : VmWorkFlow VmActionId}
    (proper : ∀ call ∈ calls, Proper config skipped call) (built : Built VmAction.id calls wf)
    {a : DeployAction} (mem : a ∈ wf.nodes) : a.request =
    (a.id.message, config.requestIdOf a.id) := by
  exact (congrArg VmAction.request (action_of_proper proper built mem)).trans rfl

theorem requests_perm (apart : config.imagesApart) :
    ((storageActions (addCancelWorkFLow config option hid)).map VmAction.request).Perm
      ((releaseActions (wfRollback config option)).map VmAction.request) := by
  let requestOf (id : VmActionId) := (id.message, config.requestIdOf id)
  have cancel : (storageActions (addCancelWorkFLow config option hid)).map VmAction.request =
      ((storageActions (addCancelWorkFLow config option hid)).map VmAction.id).map requestOf := by
    rw [List.map_map]
    exact List.map_congr_left fun a mem =>
      request_of_proper cancel_proper addCancelWorkFLow_built (List.mem_of_mem_filter mem)
  have rollback : (releaseActions (wfRollback config option)).map VmAction.request =
      ((releaseActions (wfRollback config option)).map VmAction.id).map requestOf := by
    rw [List.map_map]
    exact List.map_congr_left fun a mem =>
      request_of_proper rollback_proper wfRollback_built (List.mem_of_mem_filter mem)
  rw [cancel, rollback]
  apply List.Perm.map
  have once : ((storageActions (addCancelWorkFLow config option hid)).map VmAction.id).Nodup :=
    addCancelWorkFLow_built.nodup.sublist (List.filter_sublist.map _)
  have once' : ((releaseActions (wfRollback config option)).map VmAction.id).Nodup :=
    wfRollback_built.nodup.sublist (List.filter_sublist.map _)
  refine (List.perm_ext_iff_of_nodup once once').mpr fun id => ?_
  have releasing := cancel_releasing config option hid
  have releasing' := rollback_releasing config option
  rw [mem_map_ids fun a => releasing.mem_storageActions addCancelWorkFLow_built,
    mem_map_ids fun a => releasing'.mem_releaseActions wfRollback_built]
  exact released_ids apart id

theorem skipped_of_storage (apart : config.imagesApart) {a : DeployAction}
    (mem : a ∈ storageActions (addCancelWorkFLow config option hid)) (skipped : a.skipped) :
    a.message.isDelete ∧ ∃ i disk, config.allDisks[i]? = some disk ∧ a.id.disk? = some i ∧
      disk.isShareDisk ∧ disk.isNeedRelease = false := by
  obtain ⟨i, r, ⟨disk, there, released⟩, one⟩ :=
    ((cancel_releasing config option hid).mem_storageActions addCancelWorkFLow_built).mp mem
  rcases released with ⟨image, rfl⟩ | ⟨shared, rfl⟩
  · rw [imageRelease] at one
    split at one
    · rcases one with rfl | rfl <;> cases skipped
    · rcases one with rfl | rfl <;> cases skipped
  · rcases one with rfl | rfl
    · cases skipped
    · refine ⟨rfl, i, disk, there, rfl, shareDisk_of_apart apart there shared, ?_⟩
      simpa only [shareBlockRelease, Bool.not_eq_true'] using skipped

theorem released_once (apart : config.imagesApart) {disk : VmDiskConfig}
    (there : config.allDisks[i]? = some disk) (shared : disk.isSharedImage ∨ disk.isShareDisk) :
    ReleasedOnce (addCancelWorkFLow config option hid) i disk := by
  obtain ⟨r, released⟩ : ∃ r, cancelReleased config option i r := by
    rcases shared with image | share
    · exact ⟨_, disk, there, .inl ⟨image, rfl⟩⟩
    · exact ⟨_, disk, there, .inr ⟨share.2, rfl⟩⟩
  have releasing := cancel_releasing config option hid
  have release := releasing.release i r released
  obtain ⟨first, second, third⟩ := releasing.precedes addCancelWorkFLow_built released
  refine ⟨r.deauth, r.delete, ?_, diskAt_eq there ▸ release.deauth, release.delete,
    diskAt_eq there ▸ release.request, .single first,
    .single second, .single third⟩
  have nodes : (addCancelWorkFLow config option hid).nodes.Nodup :=
    List.Nodup.of_map _ addCancelWorkFLow_built.nodup
  have two : [r.deauth, r.delete].Nodup := by simp [release.deauth_ne_delete]
  refine (List.perm_ext_iff_of_nodup ((nodes.filter _).filter _) two).mpr fun a => ?_
  rw [← storageActions, List.mem_filter, releasing.mem_storageActions addCancelWorkFLow_built]
  simp only [List.mem_cons, List.not_mem_nil, or_false, decide_eq_true_eq]
  constructor
  · rintro ⟨⟨i', r', released', one⟩, disk⟩
    have release' := releasing.release i' r' released'
    obtain rfl : i' = i := by
      rcases one with rfl | rfl
      · exact Option.some.inj (release'.deauthDisk.symm.trans disk)
      · exact Option.some.inj (release'.deleteDisk.symm.trans disk)
    obtain rfl := cancelReleased_unique apart released released'
    exact one
  · rintro one
    refine ⟨⟨i, r, released, one⟩, ?_⟩
    rcases one with rfl | rfl
    · exact release.deauthDisk
    · exact release.deleteDisk

/-- The cancellation gives back what the deployment's rollback would, in order, exactly where no
image asks for the place that marks the shared disks. -/
theorem cancel_releases_iff (config : VMConfig) (option : ImageStoreOption) (hid : ℤ) :
    ReleasesDeployed config option hid ↔ config.imagesApart := by
  constructor
  · intro releases disk mem image shared
    obtain ⟨i, there⟩ := List.mem_iff_getElem?.mp mem
    have shareImage : disk.isSharedImage := ⟨image, by rw [shared]; decide⟩
    obtain ⟨⟨deauth, delete, pair, -, deletes, -⟩⟩ := releases.once i disk there (.inl shareImage)
    have taken {r : ReleaseActions} (released : cancelReleased config option i r) :
        r.deauth = deauth := by
      have release := (cancel_releasing config option hid).release i r released
      have inside : r.deauth ∈ [deauth, delete] := pair.mem_iff.mp (List.mem_filter.mpr
        ⟨((cancel_releasing config option hid).mem_storageActions addCancelWorkFLow_built).mpr
          ⟨i, r, released, .inl rfl⟩, decide_eq_true release.deauthDisk⟩)
      rcases List.mem_pair.mp inside with eq | eq
      · exact eq
      · rw [← eq, release.deauth_message] at deletes
        cases deletes
    have both := (taken ⟨disk, there, .inl ⟨shareImage, rfl⟩⟩).trans
      (taken ⟨disk, there, .inr ⟨shared, rfl⟩⟩).symm
    have ids := congrArg VmAction.id both
    rw [imageRelease] at ids
    split at ids <;> cases ids
  · intro apart
    exact ⟨requests_perm apart, fun a => skipped_of_storage apart,
      fun i disk there => released_once apart there⟩

/-- An image that asks for shared storage by name is given back as an image and as a shared disk. -/
def sharedImageConfig : VMConfig where
  disks := []
  machine := ⟨5, VM_STORAGE_TO_SHARE, "r", true⟩
  nics := []
  vmWdtime := 0

theorem sharedImage_released_twice :
    ¬ ReleasesDeployed sharedImageConfig ⟨IMAGE_USE_SNAPSHOT⟩ 7 := by
  intro releases
  exact absurd releases.requests (by decide)

end Agreement

end Tecs.Vm
