import Tecs.Vm.ImageBackups

set_option autoImplicit false

/-! Runs of creations, deletions, restores and cancels over the backups of disk images. -/

namespace Tecs.Vm.Backup

open Transition

section Requests

variable {s : BackupState} {place : ℕ → Option (ℤ × String)}

/-- Requests only store actions. -/
def BackupState.SameRecords (s next : BackupState) : Prop :=
  next.vms = s.vms ∧ next.imageBackup = s.imageBackup

theorem BackupState.SameRecords.sameLinks {next : BackupState} (same : s.SameRecords next) :
    s.SameLinks next :=
  ⟨fun _ => by rw [same.1], by rw [same.2]⟩

theorem keyed_addAction (keyed : s.Keyed place) {request : MessageReq}
    (fits : Fits place s.nextId request) : (s.addAction request).Keyed place := by
  refine keyed.transfer ⟨fun _ => rfl, rfl⟩ (Nat.le_succ _) fun action inside => ?_
  rcases List.mem_append.mp inside with old | new
  · exact (keyed.fits action old).later (Nat.le_succ _)
  · rw [List.mem_singleton.mp new]
    exact fits.later (Nat.le_succ _)

theorem keyed_finishAction (keyed : s.Keyed place) (id : ℕ) (ended : Bool) :
    (s.finishAction id ended).Keyed place := by
  refine keyed.transfer ⟨fun _ => rfl, rfl⟩ le_rfl fun action inside => ?_
  obtain ⟨old, there, rfl⟩ := List.mem_map.mp inside
  have fits := keyed.fits old there
  split
  · exact fits
  · exact fits

theorem getActiveImageBackup_mem {target : String} {vid : ℤ} {requestId : ℕ}
    (read : s.getActiveImageBackup target vid = some requestId) :
    ∃ row ∈ s.imageBackup, row.requestId = requestId := by
  rw [BackupState.getActiveImageBackup, Option.map_eq_some_iff] at read
  obtain ⟨row, last, id⟩ := read
  exact ⟨row, (List.mem_filter.mp (List.mem_of_getLast? last)).1, id⟩

theorem BackupState.Keyed.row_below (keyed : s.Keyed place) {row : VmImgBackup}
    (inside : row ∈ s.imageBackup) : row.requestId < s.nextId :=
  keyed.below _ (by rw [keyed.placed row inside]; rfl)

/-- A new id belongs to the disk from now on. -/
theorem keyed_generated (keyed : s.Keyed place) (disk : ℤ × String) :
    BackupState.Keyed { s with nextId := s.nextId + 1 }
      (Function.update place s.nextId (some disk)) := by
  have old : ∀ id, id ≠ s.nextId → Function.update place s.nextId (some disk) id = place id :=
    fun id other => Function.update_of_ne other ..
  have unplaced : ∀ id, (place id).isSome → id ≠ s.nextId := fun id given =>
    Nat.ne_of_lt (keyed.below id given)
  refine ⟨fun id given => ?_, keyed.keys, fun row inside => ?_, keyed.ordered, keyed.owned,
    fun vid config found id inside => ?_, fun action inside => ?_⟩
  · by_cases same : id = s.nextId
    · rw [same]
      exact Nat.lt_succ_self _
    · rw [old id same] at given
      exact (keyed.below id given).trans (Nat.lt_succ_self _)
  · rw [old _ (Nat.ne_of_lt (keyed.row_below inside))]
    exact keyed.placed row inside
  · have base := keyed.bases vid config found id inside
    rw [old id (Nat.ne_of_lt base.2)]
    exact ⟨base.1, base.2.trans (Nat.lt_succ_self _)⟩
  · have fits := keyed.fits action inside
    cases request : action.messageReq with
    | create req =>
        rw [request] at fits
        refine ⟨?_, fits.2⟩
        rw [old _ (unplaced _ (by rw [fits.1]; rfl))]
        exact fits.1
    | delete req => trivial
    | restore op =>
        rw [request] at fits
        refine ⟨fits.1.trans (Nat.lt_succ_self _), ?_⟩
        rw [old _ (Nat.ne_of_lt fits.1)]
        exact fits.2

theorem backupImgCreate_records (vid : ℤ) (target : String) (config : VmConfig)
    (context : Context) : s.SameRecords (backupImgCreate s vid target config context).2 := by
  rw [backupImgCreate]
  split
  · exact ⟨rfl, rfl⟩
  split
  · exact ⟨rfl, rfl⟩
  dsimp only
  split
  · exact ⟨rfl, rfl⟩
  · exact ⟨rfl, rfl⟩

theorem keyed_backupImgCreate (keyed : s.Keyed place) {vid : ℤ} {pvm : VirtualMachine}
    (found : s.vms vid = some pvm) (target : String) (context : Context) :
    ∃ place, (backupImgCreate s vid target pvm.config context).2.Keyed place := by
  rw [backupImgCreate]
  split
  · exact ⟨place, keyed⟩
  cases selected : pvm.config.disk target with
  | none => exact ⟨place, keyed⟩
  | some disk =>
      have generated := keyed_generated keyed (vid, target)
      obtain ⟨inside, named⟩ := disk_requestId selected
      have base := keyed.bases vid pvm.config (by rw [found]; rfl) _ inside
      dsimp only
      split
      · refine ⟨_, keyed_addAction generated ⟨?_, ?_⟩⟩
        · show Function.update place s.nextId (some (vid, target)) s.nextId =
            some (vid, disk.target)
          rw [Function.update_self, named]
        · show (if context.activeRead then s.getActiveImageBackup target vid else none).getD
            disk.requestId < s.nextId
          cases active : if context.activeRead then s.getActiveImageBackup target vid else none with
          | none => exact base.2
          | some requestId =>
              split at active
              · obtain ⟨row, there, rfl⟩ := getActiveImageBackup_mem active
                exact keyed.row_below there
              · cases active
      · exact ⟨_, generated⟩

theorem backupImgDelete_keeps (keyed : s.Keyed place) (vid : ℤ) (requestId : ℕ)
    (config : VmConfig) (context : Context) :
    s.SameRecords (backupImgDelete s vid requestId config context).2 ∧
      (backupImgDelete s vid requestId config context).2.Keyed place := by
  have same : s.SameRecords s ∧ s.Keyed place := ⟨⟨rfl, rfl⟩, keyed⟩
  rw [backupImgDelete]
  split
  · exact same
  split
  · exact same
  split
  · exact same
  split
  · exact same
  split
  · exact same
  split
  · exact same
  dsimp only
  split
  · exact ⟨⟨rfl, rfl⟩, keyed_addAction keyed trivial⟩
  · exact same

theorem operateRestoreVM_keeps (keyed : s.Keyed place) {vid : ℤ} {pvm : VirtualMachine}
    (found : s.vms vid = some pvm) (requestId : ℕ) (target : String) (context : Context) :
    s.SameRecords (operateRestoreVM s ⟨vid, requestId, target⟩ pvm.config context).2 ∧
      (operateRestoreVM s ⟨vid, requestId, target⟩ pvm.config context).2.Keyed place := by
  have same : s.SameRecords s ∧ s.Keyed place := ⟨⟨rfl, rfl⟩, keyed⟩
  have stored : Fits place s.nextId (.restore ⟨vid, requestId, target⟩) →
      s.SameRecords (if context.created then (Status.errorActionRunning,
        s.addAction (.restore ⟨vid, requestId, target⟩)) else (.error, s)).2 ∧
      (if context.created then (Status.errorActionRunning,
        s.addAction (.restore ⟨vid, requestId, target⟩)) else (.error, s)).2.Keyed place := by
    intro fits
    split
    · exact ⟨⟨rfl, rfl⟩, keyed_addAction keyed fits⟩
    · exact same
  rw [operateRestoreVM]
  dsimp only
  split
  · exact same
  cases read : s.imageBackup.find? fun row => row.requestId = requestId && row.isFor vid target with
  | some row =>
      dsimp only
      split
      · exact same
      · apply stored
        have inside := List.mem_of_find?_eq_some read
        have named := List.find?_some read
        rw [Bool.and_eq_true, decide_eq_true_eq, isFor_iff] at named
        have placed := keyed.placed row inside
        refine ⟨named.1 ▸ keyed.row_below inside, fun disk given => ?_⟩
        rw [named.1, named.2.1, named.2.2] at placed
        exact (Option.some.inj (placed.symm.trans given)).symm
  | none =>
      dsimp only
      split
      next base =>
        apply stored
        rw [Bool.and_eq_true] at base
        have free := keyed.bases vid pvm.config (by rw [found]; rfl) requestId
          (List.contains_iff_mem.mp base.1)
        refine ⟨free.2, fun disk given => ?_⟩
        rw [free.1] at given
        cases given
      · exact same

theorem operateVM_keeps (keyed : s.Keyed place) (vid : ℤ) (operation : BackupOperation)
    (context : Context) : s.SameRecords (operateVM s vid operation context).2 ∧
      ∃ place, (operateVM s vid operation context).2.Keyed place := by
  have same : s.SameRecords s ∧ ∃ place, s.Keyed place := ⟨⟨rfl, rfl⟩, place, keyed⟩
  rw [operateVM]
  cases found : s.vms vid with
  | none => exact same
  | some pvm =>
      dsimp only
      split
      · exact same
      split
      · exact same
      cases operation with
      | create target =>
          exact ⟨backupImgCreate_records vid target pvm.config context,
            keyed_backupImgCreate keyed found target context⟩
      | delete requestId =>
          have kept := backupImgDelete_keeps keyed vid requestId pvm.config context
          exact ⟨kept.1, place, kept.2⟩
      | restore requestId target =>
          have kept := operateRestoreVM_keeps keyed found requestId target context
          exact ⟨kept.1, place, kept.2⟩

end Requests

section Handlers

variable {s : BackupState} {place : ℕ → Option (ℤ × String)}

theorem finishAction_records (id : ℕ) (ended : Bool) : s.SameRecords (s.finishAction id ended) :=
  ⟨rfl, rfl⟩

theorem BackupState.SameRecords.tree {next : BackupState} (same : s.SameRecords next) :
    next.Tree ↔ s.Tree :=
  tree_of_same same.sameLinks.configs same.2

theorem commit_cases (statements : Option BackupState) (id : ℕ) (context : Context) :
    (∃ next, statements = some next ∧ context.committed = true ∧
      s.commit statements id context = (.success, next.finishAction id context.ended)) ∨
    ((statements = none ∨ context.committed = false) ∧
      s.commit statements id context = (.error, s)) := by
  cases statements with
  | none => exact .inr ⟨.inl rfl, rfl⟩
  | some next =>
      by_cases committed : context.committed = true
      · exact .inl ⟨next, rfl, committed, if_pos committed⟩
      · exact .inr ⟨.inr (by simpa using committed), if_neg committed⟩

theorem commit_self (keyed : s.Keyed place) (id : ℕ) (context : Context) :
    s.SameRecords (s.commit (some s) id context).2 ∧
      (s.commit (some s) id context).2.Keyed place := by
  rcases commit_cases (s := s) (some s) id context with ⟨next, same, -, done⟩ | ⟨-, failed⟩
  · obtain rfl := Option.some.inj same
    rw [done]
    exact ⟨finishAction_records id context.ended, keyed_finishAction keyed id context.ended⟩
  · rw [failed]
    exact ⟨⟨rfl, rfl⟩, keyed⟩

/-- The success of a new backup either changes no record, or inserts one. -/
theorem backupImgCreateSuccess_cases (keyed : s.Keyed place) (tree : s.Tree) (id : ℕ)
    {req : VmImageBackupReq} (fits : Fits place s.nextId (.create req)) (context : Context) :
    (backupImgCreateSuccess s id req context).2.Keyed place ∧
    ((¬s.Inserts req context ∧ s.SameRecords (backupImgCreateSuccess s id req context).2) ∨
      ((backupImgCreateSuccess s id req context).1 = .success ∧ s.Inserts req context ∧
        ((backupImgCreateSuccess s id req context).2.Tree ↔
          s.Known req.vid req.disk.target req.disk.requestId))) := by
  rw [backupImgCreateSuccess]
  split
  next recorded =>
    have kept := commit_self keyed id context
    rw [Bool.and_eq_true] at recorded
    refine ⟨kept.2, .inl ⟨fun inserts => ?_, kept.1⟩⟩
    rw [inserts.new] at recorded
    cases recorded.2
  split
  next unnamed => exact ⟨keyed, .inl ⟨fun inserts => inserts.named unnamed, rfl, rfl⟩⟩
  next named =>
  split
  next unread =>
    refine ⟨keyed, .inl ⟨fun inserts => ?_, rfl, rfl⟩⟩
    rw [inserts.read] at unread
    cases unread
  next read =>
  have vms := backed_vms s req.disk.target req.vid
  rcases commit_cases (s := s) ((s.backed req.disk.target req.vid).insertImageBackup
      ⟨req.requestId, req.vid, req.disk.target, true, req.disk.requestId⟩) id context with
    ⟨next, inserted, committed, done⟩ | ⟨stopped, failed⟩
  · rw [done]
    have kept := keyed_insert (keyed_backed keyed req.disk.target req.vid) inserted fits.1 fits.2
    have decides := insert_tree_iff keyed tree inserted fits.1 fits.2
    obtain ⟨image, new, -⟩ := insertImageBackup_cases inserted
    refine ⟨keyed_finishAction kept id context.ended, .inr ⟨rfl, ⟨named, by simpa using read, ?_,
      ?_, committed⟩, ?_⟩⟩
    · rw [← vms]
      exact image
    · exact (exist_backed req.disk.target req.vid req.requestId).symm.trans new
    · rw [← decides]
      exact (finishAction_records id context.ended).tree
  · rw [failed]
    refine ⟨keyed, .inl ⟨fun inserts => ?_, rfl, rfl⟩⟩
    rcases stopped with refused | uncommitted
    · rw [insertImageBackup_some] at refused
      · cases refused
      · rw [vms]
        exact inserts.image
      · exact (exist_backed req.disk.target req.vid req.requestId).trans inserts.new
    · rw [inserts.committed] at uncommitted
      cases uncommitted

/-- The success of a deletion keeps the tree, and changes no record where it fails, just where the
transaction after the deletion is carried out. -/
theorem backupImgDeleteSuccess_keeps (keyed : s.Keyed place) (tree : s.Tree) (id : ℕ)
    {req : VmImageBackupReq} (owner : (s.vms req.vid).isSome = true) (context : Context) :
    (backupImgDeleteSuccess s id req context).2.Keyed place ∧
      (((backupImgDeleteSuccess s id req context).2.Tree ∧
        ((backupImgDeleteSuccess s id req context).1 ≠ .success →
          (backupImgDeleteSuccess s id req context).2.imageBackup = s.imageBackup)) ↔
        (s.Deletes req context → context.committed = true)) := by
  have idle {status : Status} (stopped : ¬s.Deletes req context) : s.Keyed place ∧
      ((s.Tree ∧ (status ≠ .success → s.imageBackup = s.imageBackup)) ↔
        (s.Deletes req context → context.committed = true)) :=
    ⟨keyed, fun _ deletes => absurd deletes stopped, fun _ => ⟨tree, fun _ => rfl⟩⟩
  rw [backupImgDeleteSuccess]
  split
  next gone =>
    have kept := commit_self keyed id context
    refine ⟨kept.2, fun _ deletes => ?_, fun _ => ⟨kept.1.tree.mpr tree, fun _ => kept.1.2⟩⟩
    rw [deletes.found] at gone
    cases gone
  next found =>
  split
  next unnamed => exact idle fun deletes => deletes.named unnamed
  next named =>
  rw [BackupState.deleteImageBackup]
  by_cases parent : context.parentRead = true
  swap
  · rw [if_pos (by simpa using parent)]
    exact idle fun deletes => parent deletes.parent
  rw [if_neg (by simp [parent])]
  have exist : (context.existRead && s.isImageBackupExist req.requestId) = true := by
    simpa using found
  cases selected : s.imageBackup.find? (·.requestId = req.requestId) with
  | none =>
      have there := (Bool.and_eq_true_iff.mp exist).2
      rw [isImageBackupExist_iff] at there
      obtain ⟨row, inside, named⟩ := there
      exact absurd named (by simpa using List.find?_eq_none.mp selected row inside)
  | some row =>
  dsimp only
  by_cases sons : context.sonsRead = true
  swap
  · rw [if_pos (by simpa using sons)]
    exact idle fun deletes => sons deletes.sons
  rw [if_neg (by simp [sons])]
  by_cases deleted : context.deleted = true
  swap
  · rw [if_pos (by simpa using deleted)]
    exact idle fun deletes => deleted deletes.deleted
  rw [if_neg (by simp [deleted])]
  have deletes : s.Deletes req context := ⟨owner, exist, named, parent, sons, deleted⟩
  have there := List.mem_of_find?_eq_some selected
  have identified := List.find?_some selected
  rw [decide_eq_true_eq] at identified
  rw [← identified]
  dsimp only
  rcases commit_cases (s := s.withoutRow row)
      (some ((s.withoutRow row).moveSons row (s.getSonImageBackup row.requestId))) id context with
    ⟨next, equal, committed, done⟩ | ⟨stopped, failed⟩
  · obtain rfl := Option.some.inj equal
    rw [done]
    exact ⟨keyed_finishAction (keyed_deleted keyed there) id context.ended, fun _ _ => committed,
      fun _ => ⟨(finishAction_records id context.ended).tree.mpr (tree_deleted keyed tree there),
        fun failed => absurd rfl failed⟩⟩
  · rw [failed]
    -- the record is gone although the deletion has failed
    refine ⟨keyed_filter keyed _, fun lawful => ?_, fun committed => ?_⟩
    · have same : s.imageBackup.filter (·.requestId ≠ row.requestId) = s.imageBackup :=
        lawful.2 (show Status.error ≠ Status.success by decide)
      have left := List.filter_eq_self.mp same row there
      exact absurd rfl (of_decide_eq_true left)
    · rcases stopped with none | uncommitted
      · cases none
      · rw [committed deletes] at uncommitted
        cases uncommitted

/-- A restore keeps the tree; it has changed no record when it fails where it did not stop between
the two updates, or found no active record. -/
theorem dealVmRestoreReq_keeps (keyed : s.Keyed place) (tree : s.Tree) {op : VmImageBackupOp}
    (fits : Fits place s.nextId (.restore op)) (context : Context) :
    (dealVmRestoreReq s op context).2.Keyed place ∧ (dealVmRestoreReq s op context).2.Tree ∧
      (((dealVmRestoreReq s op context).1 ≠ .success →
          (dealVmRestoreReq s op context).2.imageBackup = s.imageBackup) ↔
        (s.HalfRestores op context →
          ∀ row ∈ s.imageBackup, row.isFor op.vid op.target = true → row.active = false)) := by
  have set := setImageBackupState_sameLinks (s := s) op.target op.vid
  have kept := keyed.transfer set le_rfl keyed.fits
  have single := single_setImageBackupState tree.single op.target op.vid
  rw [dealVmRestoreReq]
  split
  next base =>
    have whole : ¬s.HalfRestores op context := fun half => by
      rw [half.backup] at base
      cases base
    split
    · exact ⟨kept, set.tree tree single, fun _ half => absurd half whole,
        fun _ failed => absurd rfl failed⟩
    · exact ⟨keyed, tree, fun _ half => absurd half whole, fun _ _ => rfl⟩
  next backup =>
  split
  next absent =>
    refine ⟨keyed, tree, fun _ half => ?_, fun _ _ => rfl⟩
    rw [half.found] at absent
    cases absent
  next found =>
  split
  next stopped =>
    refine ⟨keyed, tree, fun _ half => ?_, fun _ _ => rfl⟩
    rw [half.first] at stopped
    cases stopped
  next first =>
  dsimp only
  split
  next second =>
    have both := updateImageBackup_sameLinks (s := s.setImageBackupState op.target op.vid)
      op.requestId true
    refine ⟨kept.transfer both le_rfl kept.fits, both.tree (set.tree tree single)
      (single_restored keyed tree.single fits.2), fun _ half => ?_,
      fun _ failed => absurd rfl failed⟩
    rw [half.second] at second
    cases second
  next second =>
    have half : s.HalfRestores op context :=
      ⟨by simpa using backup, by simpa using found, by simpa using first, by simpa using second⟩
    refine ⟨kept, set.tree tree single, fun unchanged _ row inside owner => ?_,
      fun inactive _ => ?_⟩
    · have same : s.imageBackup.map (deactivate op.target op.vid) = s.imageBackup.map id := by
        rw [List.map_id]
        exact unchanged (show Status.error ≠ Status.success by decide)
      have fixed := List.map_inj_left.mp same row inside
      by_contra other
      have active : row.active = true := by simpa using other
      rw [deactivate, if_pos (by rw [active, owner]; rfl)] at fixed
      have off : false = row.active := congrArg VmImgBackup.active fixed
      exact other off.symm
    · have same : s.imageBackup.map (deactivate op.target op.vid) = s.imageBackup.map id :=
        List.map_inj_left.mpr fun row inside => by
          rw [deactivate, if_neg]
          · rfl
          · rw [Bool.and_eq_true]
            rintro ⟨active, owner⟩
            rw [inactive half row inside owner] at active
            cases active
      rw [List.map_id] at same
      exact same

theorem finishVMCancel_keeps (keyed : s.Keyed place) (tree : s.Tree) (vid : ℤ)
    (context : Context) : (finishVMCancel s vid context).Keyed place ∧
      (finishVMCancel s vid context).Tree := by
  rw [finishVMCancel]
  cases found : s.vms vid with
  | none => exact ⟨keyed, tree⟩
  | some pvm =>
      dsimp only
      split
      · exact ⟨keyed, tree⟩
      have cleared : BackupState.Keyed (if context.deleted then
            s.deleteImageBackupByVid vid pvm.config.machine.target else s) place ∧
          BackupState.Tree (if context.deleted then
            s.deleteImageBackupByVid vid pvm.config.machine.target else s) ∧
          BackupState.vms (if context.deleted then
            s.deleteImageBackupByVid vid pvm.config.machine.target else s) = s.vms := by
        split
        · exact ⟨keyed_filter keyed _, tree_deleteImageBackupByVid tree keyed vid _, rfl⟩
        · exact ⟨keyed, tree, rfl⟩
      generalize (if context.deleted then
        s.deleteImageBackupByVid vid pvm.config.machine.target else s) = left at cleared
      obtain ⟨kept, whole, vms⟩ := cleared
      split
      next next dropped =>
        rw [Option.filter_eq_some_iff] at dropped
        obtain ⟨after, grown, -⟩ := tree_dropVm kept whole dropped.1
        exact ⟨after, grown⟩
      next =>
        have configs : ∀ v, (Function.update s.vms vid (some { pvm with valid := false }) v).map
            (·.config) = (left.vms v).map (·.config) := by
          intro v
          rw [vms]
          by_cases same : v = vid
          · rw [same, Function.update_self, found]
            rfl
          · rw [Function.update_of_ne same]
        have same : left.SameLinks { left with
            vms := Function.update s.vms vid (some { pvm with valid := false }) } :=
          ⟨configs, rfl⟩
        exact ⟨kept.transfer same le_rfl kept.fits, same.tree whole whole.single⟩

end Handlers

section Steps

variable {s : BackupState} {place : ℕ → Option (ℤ × String)}

theorem unfinished_mem {id : ℕ} {action : VmAction} (found : s.unfinished id = some action) :
    action ∈ s.actions := List.mem_of_find?_eq_some found

/-- What the handler of a request, an acknowledgement or a restore preserves, and when. -/
def BackupState.Kept (s : BackupState) (answer : Status × BackupState) (carried : Prop) : Prop :=
  (∃ place, answer.2.Keyed place) ∧
    ((answer.2.Tree ∧ (answer.1 ≠ .success → answer.2.imageBackup = s.imageBackup)) ↔ carried)

theorem kept_same (keyed : s.Keyed place) (tree : s.Tree) (status : Status) {carried : Prop}
    (holds : carried) : s.Kept (status, s) carried :=
  ⟨⟨place, keyed⟩, fun _ => holds, fun _ => ⟨tree, fun _ => rfl⟩⟩

theorem succeed_kept (keyed : s.Keyed place) (tree : s.Tree) (id : ℕ) (context : Context) :
    s.Kept (s.serve (.succeed id context)) (s.CarriedOut (.succeed id context)) := by
  rw [BackupState.serve]
  cases found : s.unfinished id with
  | none =>
      refine kept_same keyed tree _ fun action some => ?_
      cases found.symm.trans some
  | some action =>
      have fits := keyed.fits action (unfinished_mem found)
      dsimp only
      rw [feedback]
      cases request : action.messageReq with
      | create req =>
          rw [request] at fits
          have carried_iff : s.CarriedOut (.succeed id context) ↔
              (s.Inserts req context → s.Known req.vid req.disk.target req.disk.requestId) := by
            simp [BackupState.CarriedOut, found, request]
          dsimp only
          split
          next present =>
            have created := backupImgCreateSuccess_cases keyed tree action.id fits context
            refine ⟨⟨place, created.1⟩, ?_⟩
            rw [carried_iff]
            rcases created.2 with ⟨idle, same⟩ | ⟨success, inserts, decides⟩
            · exact ⟨fun _ inserts => absurd inserts idle, fun _ => ⟨same.tree.mpr tree,
                fun _ => same.2⟩⟩
            · exact ⟨fun lawful _ => decides.mp lawful.1, fun known =>
                ⟨decides.mpr (known inserts), fun failed => absurd success failed⟩⟩
          next absent =>
            exact kept_same keyed tree _ (carried_iff.mpr fun inserts =>
              absurd (any_isSome inserts.image) absent)
      | delete req =>
          have carried_iff : s.CarriedOut (.succeed id context) ↔
              (s.Deletes req context → context.committed = true) := by
            simp [BackupState.CarriedOut, found, request]
          dsimp only
          split
          next owner =>
            have deleted := backupImgDeleteSuccess_keeps keyed tree action.id owner context
            refine ⟨⟨place, deleted.1⟩, ?_⟩
            rw [carried_iff]
            exact deleted.2
          next absent =>
            exact kept_same keyed tree _ (carried_iff.mpr fun deletes =>
              absurd deletes.owner absent)
      | restore op =>
          refine kept_same keyed tree _ fun other given => ?_
          rw [found] at given
          obtain rfl := Option.some.inj given
          rw [request]
          exact ⟨nofun, nofun⟩

theorem restore_kept (keyed : s.Keyed place) (tree : s.Tree) (id : ℕ) (context : Context) :
    s.Kept (s.serve (.restore id context)) (s.CarriedOut (.restore id context)) := by
  rw [BackupState.serve]
  cases found : s.actions.find? (·.id = id) with
  | none =>
      refine kept_same keyed tree _ fun action op some => ?_
      cases found.symm.trans some
  | some action =>
      have fits := keyed.fits action (List.mem_of_find?_eq_some found)
      have only : ∀ other, s.actions.find? (·.id = id) = some other → other = action :=
        fun other some => Option.some.inj (some.symm.trans found)
      dsimp only
      rw [restoreOf]
      cases request : action.messageReq with
      | restore op =>
          rw [request] at fits
          dsimp only
          split
          next finished =>
            refine kept_same keyed tree _ fun other op' given asked unfinished => ?_
            rw [only other given, finished] at unfinished
            cases unfinished
          next unfinished =>
            obtain ⟨kept, left, decides⟩ := dealVmRestoreReq_keeps keyed tree fits context
            refine ⟨⟨place, kept⟩, ?_⟩
            constructor
            · rintro ⟨-, leaves⟩ other op' given asked -
              rw [only other given, request] at asked
              rw [← MessageReq.restore.inj asked]
              exact decides.mp leaves
            · intro carried
              have condition := carried action op found request (by simpa using unfinished)
              exact ⟨left, decides.mpr condition⟩
      | create req =>
          refine kept_same keyed tree _ fun other op' given asked => ?_
          rw [only other given, request] at asked
          cases asked
      | delete req =>
          refine kept_same keyed tree _ fun other op' given asked => ?_
          rw [only other given, request] at asked
          cases asked

theorem serve_kept (keyed : s.Keyed place) (tree : s.Tree) (label : BackupLabel) :
    s.Kept (s.serve label) (s.CarriedOut label) := by
  cases label with
  | operate vid operation context =>
      obtain ⟨same, kept⟩ := operateVM_keeps keyed vid operation context
      exact ⟨kept, fun _ => trivial, fun _ => ⟨same.tree.mpr tree, fun _ => same.2⟩⟩
  | succeed id context => exact succeed_kept keyed tree id context
  | restore id context => exact restore_kept keyed tree id context
  | restored id =>
      exact ⟨⟨place, keyed_finishAction keyed id true⟩, fun _ => trivial,
        fun _ => ⟨(finishAction_records id true).tree.mpr tree, fun _ => rfl⟩⟩
  | cancel vid context =>
      obtain ⟨kept, left⟩ := finishVMCancel_keeps keyed tree vid context
      exact ⟨⟨place, kept⟩, fun _ => trivial, fun _ => ⟨left, fun failed => absurd rfl failed⟩⟩

/-- Machines without backups or stored requests, whose disks have ids that were given out. -/
structure BackupState.Initial (s : BackupState) : Prop where
  backups : s.imageBackup = []
  actions : s.actions = []
  bases : ∀ vid pvm, s.vms vid = some pvm → ∀ id ∈ pvm.config.requestIds, id < s.nextId

theorem BackupState.Initial.no_row (initial : s.Initial) {row : VmImgBackup} :
    row ∉ s.imageBackup := by
  rw [initial.backups]
  exact List.not_mem_nil

theorem initial_keyed (initial : s.Initial) : s.Keyed fun _ => none where
  below id given := by cases given
  keys := by
    rw [initial.backups]
    exact List.nodup_nil
  placed row inside := absurd inside initial.no_row
  ordered row inside := absurd inside initial.no_row
  owned row inside := absurd inside initial.no_row
  bases vid config found id inside := by
    obtain ⟨pvm, read, rfl⟩ := Option.map_eq_some_iff.mp found
    exact ⟨rfl, initial.bases vid pvm read id inside⟩
  fits action inside := by
    rw [initial.actions] at inside
    cases inside

theorem initial_tree (initial : s.Initial) : s.Tree where
  single _ inside := absurd inside initial.no_row
  acyclic := acyclic_of_ordered (initial_keyed initial).ordered
  parents _ inside := absurd inside initial.no_row
  owned := (initial_keyed initial).owned

/-- In a run the backups are a tree in every state, and a restore or a deletion that fails changes
no record, just where no parent is lost before its child is inserted, no deletion is left without
its transaction and no restore stops between its two updates. -/
theorem backup_tree_iff {labels : List BackupLabel} {last : BackupState} (initial : s.Initial) :
    Run LawfulStep s labels last ↔
      Run (Guarded BackupState.CarriedOut BackupStep) s labels last := by
  have start : (∃ place, s.Keyed place) ∧ s.Tree :=
    ⟨⟨_, initial_keyed initial⟩, initial_tree initial⟩
  constructor
  · apply Run.convert (P := fun s => (∃ place, BackupState.Keyed s place) ∧ s.Tree) start
    rintro before label after ⟨⟨place, keyed⟩, tree⟩ ⟨step, holds⟩
    obtain ⟨kept, decides⟩ := serve_kept keyed tree label
    obtain rfl := step
    exact ⟨⟨decides.mp holds, rfl⟩, kept, holds.1⟩
  · apply Run.convert (P := fun s => (∃ place, BackupState.Keyed s place) ∧ s.Tree) start
    rintro before label after ⟨⟨place, keyed⟩, tree⟩ ⟨carried, step⟩
    obtain ⟨kept, decides⟩ := serve_kept keyed tree label
    obtain rfl := step
    have holds := decides.mpr carried
    exact ⟨⟨rfl, holds⟩, kept, holds.1⟩

/-! A machine with one disk image, of which two backups are made, the second one the child of the
first. -/

/-- Every statement is carried out. -/
def carriedOut : Context :=
  ⟨none, false, true, true, true, true, true, true, true, true, true, true, true, true⟩

def oneMachine : BackupState :=
  ⟨fun vid => if vid = 1 then some ⟨⟨⟨"hda", 1⟩, 2, 3, []⟩, ["hda"], true⟩ else none, [], [], 4⟩

theorem oneMachine_initial : oneMachine.Initial where
  backups := rfl
  actions := rfl
  bases vid pvm found := by
    rw [oneMachine] at found
    dsimp only at found
    split at found
    · obtain rfl := Option.some.inj found
      decide
    · cases found

/-- Two backups, and the restore of the first one. -/
def twoBackups : List BackupLabel :=
  [.operate 1 (.create "hda") carriedOut, .succeed 5 carriedOut,
    .operate 1 (.create "hda") carriedOut, .succeed 7 carriedOut,
    .operate 1 (.restore 4 "hda") carriedOut]

def BackupState.after (s : BackupState) (labels : List BackupLabel) : BackupState :=
  labels.foldl (fun s label => (s.serve label).2) s

theorem run_after (labels : List BackupLabel) (s : BackupState) :
    Run BackupStep s labels (s.after labels) := by
  induction labels generalizing s with
  | nil => exact .refl
  | cons label rest ih => exact (Run.single rfl).append (ih _)

example : (oneMachine.after twoBackups).imageBackup =
    [⟨4, 1, "hda", false, 1⟩, ⟨6, 1, "hda", true, 4⟩] := by decide

theorem first_known :
    (oneMachine.after (twoBackups.take 1)).CarriedOut (.succeed 5 carriedOut) := by
  intro action found
  have stored : (oneMachine.after (twoBackups.take 1)).unfinished 5 =
      some ⟨5, .create ⟨4, 1, ⟨"hda", 1⟩, []⟩, false⟩ := by decide
  obtain rfl := Option.some.inj (stored.symm.trans found)
  refine ⟨fun req request _ => ?_, nofun⟩
  obtain rfl := MessageReq.create.inj request
  exact .inr ⟨⟨⟨"hda", 1⟩, 2, 3, []⟩, ⟨"hda", 1⟩, rfl, rfl, rfl⟩

theorem second_known :
    (oneMachine.after (twoBackups.take 3)).CarriedOut (.succeed 7 carriedOut) := by
  intro action found
  have stored : (oneMachine.after (twoBackups.take 3)).unfinished 7 =
      some ⟨7, .create ⟨6, 1, ⟨"hda", 4⟩, []⟩, false⟩ := by decide
  obtain rfl := Option.some.inj (stored.symm.trans found)
  refine ⟨fun req request _ => ?_, nofun⟩
  obtain rfl := MessageReq.create.inj request
  have parent : ∃ row ∈ (oneMachine.after (twoBackups.take 3)).imageBackup,
      row.requestId = 4 ∧ row.isFor 1 "hda" = true := by decide
  exact .inl parent

/-- Both backups are made, and the first one is restored. -/
theorem backup_tree_restored :
    Run LawfulStep oneMachine (twoBackups ++ [.restore 8 carriedOut])
      (oneMachine.after (twoBackups ++ [.restore 8 carriedOut])) := by
  refine (backup_tree_iff oneMachine_initial).mpr (Run.replay ?_)
  refine ⟨⟨trivial, rfl⟩, ⟨first_known, rfl⟩, ⟨trivial, rfl⟩, ⟨second_known, rfl⟩, ⟨trivial, rfl⟩,
    ⟨fun _ _ _ _ _ half => ?_, rfl⟩, trivial⟩
  cases half.second

/-- The second update of the restore fails: the restore is answered as failed, and no backup is
active any more. -/
theorem restore_stops_halfway : oneMachine.Initial ∧
    Run BackupStep oneMachine (twoBackups ++ [.restore 8 { carriedOut with second := false }])
      (oneMachine.after (twoBackups ++ [.restore 8 { carriedOut with second := false }])) ∧
    ((oneMachine.after twoBackups).serve
      (.restore 8 { carriedOut with second := false })).1 ≠ Status.success ∧
    (oneMachine.after twoBackups).imageBackup =
      [⟨4, 1, "hda", false, 1⟩, ⟨6, 1, "hda", true, 4⟩] ∧
    (oneMachine.after (twoBackups ++
        [.restore 8 { carriedOut with second := false }])).imageBackup =
      [⟨4, 1, "hda", false, 1⟩, ⟨6, 1, "hda", false, 4⟩] :=
  ⟨oneMachine_initial, run_after _ _, by decide, by decide, by decide⟩

end Steps

end Tecs.Vm.Backup
