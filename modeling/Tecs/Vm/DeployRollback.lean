import Tecs.Vm.DeployVm

set_option autoImplicit false

/-! The rollback of a deployment, for every point at which the engine may turn to it. -/

namespace Tecs.Vm

open NodeGraph Precedence Relation Transition

section Definitions

def deployPlan (config : VMConfig) (option : ImageStoreOption) : VmPlan VmActionId where
  forward := wfDeploy config option
  rollback := wfRollback config option

/-- The later action is undone first. -/
def VmPlan.Reversed {κ : Type} (plan : VmPlan κ) : Prop :=
  ∀ a ∈ plan.forward.nodes, ∀ b ∈ plan.forward.nodes, ∀ undoA undoB,
    a.rollbackActionId = some undoA → b.rollbackActionId = some undoB →
    TransGen plan.forward.Precedes a.id b.id → TransGen plan.rollback.Precedes undoB undoA

/-- Both workflows are without cycles, what is done later is undone earlier, and in every run what
undoes an action is sent where the action had been; the rollback is never stuck. -/
structure RollbackExact {κ : Type} [DecidableEq κ] (plan : VmPlan κ) : Prop where
  forward : Acyclic plan.forward.Precedes
  rollback : Acyclic plan.rollback.Precedes
  reversed : plan.Reversed
  exact : ∀ moves rows, Run (EngineStep plan) plan.created moves rows → plan.Exact rows
  advances : ∀ moves rows, Run (EngineStep plan) plan.created moves rows →
    rows.rolledBack = true → (∃ undo ∈ plan.rollback.nodes, rows.finished undo.id = false) →
    ∃ undo, plan.isRunning rows undo

/-- Every image of the machine has its storage on the host. -/
def VMConfig.imagesLocal (config : VMConfig) : Prop :=
  ∀ disk ∈ config.allDisks, disk.id ≠ INVALID_FILEID → disk.position = IMAGE_POSITION_LOCAL

instance (config : VMConfig) : Decidable config.imagesLocal :=
  inferInstanceAs (Decidable (∀ disk ∈ config.allDisks, _ → _))

end Definitions

section Order

variable {config : VMConfig} {option : ImageStoreOption} {a b c : VmActionId}

/-- What stands between two actions of the deployment. -/
def Before (config : VMConfig) (option : ImageStoreOption) (a b : VmActionId) : Prop :=
  a.level < b.level ∧
    ((a = .selectHostByNic ∨ a = .selectHost) ∨ (b = .modify ∨ b = .createVm) ∨
      (∃ i, a = .prepareImage i ∧ b.disk? = some i) ∨
      ∃ i s r, Acquired config option i s r ∧ a = s.create.id ∧ b = s.auth.id)

theorem eq_of_mem_edges {prev next : DeployAction}
    (edge : (a, b) ∈ Call.edges VmAction.id (.edge prev next)) : a = prev.id ∧ b = next.id :=
  Prod.mk.inj (List.mem_singleton.mp edge)

theorem before_of_edge (edge : (wfDeploy config option).Precedes a b) :
    Before config option a b := by
  obtain ⟨call, mem, edge⟩ := (wfDeploy_built.edges (a, b)).mp edge
  refine ⟨(deploy_proper call mem).edges _ edge, ?_⟩
  cases isDeployCall_of_mem mem with
  | start => cases edge
  | modify => exact .inl (.inr (eq_of_mem_edges edge).1)
  | createVm => exact .inr (.inl (.inr (eq_of_mem_edges edge).2))
  | selectByNic => exact .inl (.inl (eq_of_mem_edges edge).1)
  | prepareNic nic => exact .inl (.inr (eq_of_mem_edges edge).1)
  | connect nic => exact .inr (.inl (.inr (eq_of_mem_edges edge).2))
  | prepareImage i => exact .inl (.inr (eq_of_mem_edges edge).1)
  | localImage i => exact .inr (.inl (.inl (eq_of_mem_edges edge).2))
  | @createImage i s r acquired =>
      obtain ⟨rfl, rfl⟩ := eq_of_mem_edges edge
      exact .inr (.inr (.inl ⟨i, rfl, acquired.spec.disks.1⟩))
  | createShare acquired => exact .inl (.inr (eq_of_mem_edges edge).1)
  | @auth i s r acquired =>
      obtain ⟨rfl, rfl⟩ := eq_of_mem_edges edge
      exact .inr (.inr (.inr ⟨i, s, r, acquired, rfl, rfl⟩))
  | authorised acquired => exact .inr (.inl (.inl (eq_of_mem_edges edge).2))

/-- Only the last two actions stand that far along. -/
theorem last_of_level (late : 5 ≤ a.level) : a = .modify ∨ a = .createVm := by
  cases a with
  | modify => exact .inl rfl
  | createVm => exact .inr rfl
  | _ => simp [VmActionId.level] at late

theorem before_trans (first : Before config option a b) (second : Before config option b c) :
    Before config option a c := by
  obtain ⟨up, kind⟩ := first
  obtain ⟨up', kind'⟩ := second
  refine ⟨Nat.lt_trans up up', ?_⟩
  rcases kind with source | sink | ⟨i, rfl, disk⟩ | ⟨i, s, r, acquired, rfl, rfl⟩
  · exact .inl source
  · refine .inr (.inl (last_of_level ?_))
    have late : 5 ≤ b.level := by rcases sink with rfl | rfl <;> decide
    omega
  · rcases kind' with source | sink | ⟨j, rfl, disk'⟩ | ⟨j, s, r, acquired, rfl, rfl⟩
    · rcases source with rfl | rfl <;> cases disk
    · exact .inr (.inl sink)
    · exact absurd up (Nat.lt_irrefl 2)
    · obtain rfl : j = i := Option.some.inj (acquired.spec.disks.1.symm.trans disk)
      exact .inr (.inr (.inl ⟨j, rfl, acquired.spec.disks.2⟩))
  · refine .inr (.inl (last_of_level ?_))
    have auth := acquired.spec.levels.2.1
    omega

/-- The actions of a deployment that have one to undo them. -/
inductive Undoable (config : VMConfig) (option : ImageStoreOption) :
    VmActionId → VmActionId → Prop
  | selectHost : Undoable config option .selectHost .unselectHost
  | createVm : Undoable config option .createVm .removeVm
  | prepareNic (nic : isNeedVNet config = true) : Undoable config option .prepareNic .releaseNic
  | create {i : ℕ} {s : StorageActions} {r : ReleaseActions}
      (acquired : Acquired config option i s r) :
      Undoable config option s.create.id r.delete.id
  | auth {i : ℕ} {s : StorageActions} {r : ReleaseActions}
      (acquired : Acquired config option i s r) :
      Undoable config option s.auth.id r.deauth.id

def UndoneRightly (config : VMConfig) (option : ImageStoreOption) (action : DeployAction) : Prop :=
  ∀ undo, action.rollbackActionId = some undo → Undoable config option action.id undo

theorem undoneRightly_node {call : DeployCall} (is : IsDeployCall config option call) :
    ∀ action ∈ call.nodes, UndoneRightly config option action := by
  have never {action : DeployAction} (none : action.rollbackActionId = none) :
      UndoneRightly config option action := by
    intro undo undoes
    rw [none] at undoes
    cases undoes
  have select : UndoneRightly config option selectHost := by
    rintro undo ⟨⟩
    exact .selectHost
  have make : UndoneRightly config option createVm := by
    rintro undo ⟨⟩
    exact .createVm
  have nics (nic : isNeedVNet config = true) : UndoneRightly config option prepareNic := by
    rintro undo ⟨⟩
    exact .prepareNic nic
  have create {i : ℕ} {s : StorageActions} {r : ReleaseActions}
      (acquired : Acquired config option i s r) : UndoneRightly config option s.create := by
    intro undo undoes
    rw [acquired.spec.create] at undoes
    obtain rfl := Option.some.inj (acquired.spec.undoCreate.symm.trans undoes)
    exact .create acquired
  have auth {i : ℕ} {s : StorageActions} {r : ReleaseActions}
      (acquired : Acquired config option i s r) : UndoneRightly config option s.auth := by
    intro undo undoes
    rw [acquired.spec.auth] at undoes
    obtain rfl := Option.some.inj (acquired.spec.undoAuth.symm.trans undoes)
    exact .auth acquired
  cases is with
  | start => simpa only [Call.nodes, List.mem_singleton, forall_eq] using select
  | modify => exact Call.forall_nodes_edge select (never rfl)
  | createVm => exact Call.forall_nodes_edge (never rfl) make
  | selectByNic => exact Call.forall_nodes_edge (never rfl) select
  | prepareNic nic => exact Call.forall_nodes_edge select (nics nic)
  | connect nic => exact Call.forall_nodes_edge (nics nic) make
  | prepareImage i => exact Call.forall_nodes_edge select (never rfl)
  | localImage i => exact Call.forall_nodes_edge (never rfl) (never rfl)
  | createImage acquired => exact Call.forall_nodes_edge (never rfl) (create acquired)
  | createShare acquired => exact Call.forall_nodes_edge select (create acquired)
  | auth acquired => exact Call.forall_nodes_edge (create acquired) (auth acquired)
  | authorised acquired => exact Call.forall_nodes_edge (auth acquired) (never rfl)

theorem undoable_of_mem {action : DeployAction} (mem : action ∈ (wfDeploy config option).nodes)
    {undo : VmActionId} (undoes : action.rollbackActionId = some undo) :
    Undoable config option action.id undo := by
  obtain ⟨call, memCall, node⟩ := (wfDeploy_built.nodes action).mp mem
  exact undoneRightly_node (isDeployCall_of_mem memCall) action node undo undoes

theorem precedes_of_call {prev next : DeployAction}
    (mem : Call.edge prev next ∈ rollbackCalls config option) :
    (wfRollback config option).Precedes prev.id next.id :=
  (wfRollback_built.edges _).mpr ⟨_, mem, List.mem_singleton.mpr rfl⟩

theorem release_precedes {i : ℕ} {s : StorageActions} {r : ReleaseActions}
    (acquired : Acquired config option i s r) :
    (wfRollback config option).Precedes .removeVm r.deauth.id ∧
      (wfRollback config option).Precedes r.deauth.id r.delete.id ∧
      (wfRollback config option).Precedes r.delete.id .unselectHost := by
  have calls := mem_rollbackCalls_of_acquired acquired
  exact ⟨precedes_of_call (calls _ List.mem_cons_self),
    precedes_of_call (calls _ (List.mem_cons_of_mem _ List.mem_cons_self)),
    precedes_of_call (calls _ (List.mem_cons_of_mem _ (List.mem_cons_of_mem _
      List.mem_cons_self)))⟩

theorem Undoable.undo (undoable : Undoable config option a b) : a.undo = some b := by
  cases undoable with
  | selectHost => rfl
  | createVm => rfl
  | prepareNic nic => rfl
  | create acquired => exact acquired.spec.undoCreate
  | auth acquired => exact acquired.spec.undoAuth

/-- What undoes an action in the middle stands between the removal of the machine and the end of
its hold on the host. -/
theorem Undoable.between (undoable : Undoable config option a b) :
    a = .selectHost ∧ b = .unselectHost ∨ a = .createVm ∧ b = .removeVm ∨
      TransGen (wfRollback config option).Precedes .removeVm b ∧
        TransGen (wfRollback config option).Precedes b .unselectHost := by
  cases undoable with
  | selectHost => exact .inl ⟨rfl, rfl⟩
  | createVm => exact .inr (.inl ⟨rfl, rfl⟩)
  | prepareNic nic =>
      have calls {prev next : DeployAction}
          (mem : Call.edge prev next ∈ rollbackNicCalls config) :
            (wfRollback config option).Precedes prev.id next.id :=
        precedes_of_call (List.mem_append_left _ (List.mem_append_right _ mem))
      rw [rollbackNicCalls, if_pos nic] at calls
      exact .inr (.inr ⟨.single (calls List.mem_cons_self),
        .single (calls (List.mem_cons_of_mem _ List.mem_cons_self))⟩)
  | create acquired =>
      obtain ⟨first, second, third⟩ := release_precedes acquired
      exact .inr (.inr ⟨.tail (.single first) second, .single third⟩)
  | auth acquired =>
      obtain ⟨first, second, third⟩ := release_precedes acquired
      exact .inr (.inr ⟨.single first, .tail (.single second) third⟩)

/-- What is done later is undone earlier. -/
theorem deploy_reversed : (deployPlan config option).Reversed := by
  intro a memA b memB undoA undoB undoesA undoesB path
  have undoableA := undoable_of_mem memA undoesA
  have undoableB := undoable_of_mem memB undoesB
  have ends : TransGen (wfRollback config option).Precedes .removeVm .unselectHost :=
    .single (precedes_of_call (show Call.edge (removeVm true) (unselectHost true) ∈ _ from
      List.mem_append_left _ (List.mem_append_left _ (List.mem_cons_of_mem _ List.mem_cons_self))))
  have edges : ∀ x y, (wfDeploy config option).Precedes x y → Before config option x y :=
    fun _ _ => before_of_edge
  obtain ⟨up, kind⟩ := path_of_edges edges (fun _ _ _ => before_trans) path
  rcases kind with (source | source) | (sink | sink) | ⟨i, source, -⟩ |
    ⟨i, s, r, acquired, eqA, eqB⟩
  · exact absurd (source ▸ undoableA.undo) (by simp [VmActionId.undo])
  · have undone : some .unselectHost = some undoA :=
      (congrArg VmActionId.undo source).symm.trans undoableA.undo
    obtain rfl := Option.some.inj undone
    rcases undoableB.between with ⟨same, -⟩ | ⟨-, rfl⟩ | ⟨-, below⟩
    · rw [source, same] at up
      exact absurd up (Nat.lt_irrefl _)
    · exact ends
    · exact below
  · exact absurd (sink ▸ undoableB.undo) (by simp [VmActionId.undo])
  · have undone : some .removeVm = some undoB :=
      (congrArg VmActionId.undo sink).symm.trans undoableB.undo
    obtain rfl := Option.some.inj undone
    rcases undoableA.between with ⟨-, rfl⟩ | ⟨same, -⟩ | ⟨above, -⟩
    · exact ends
    · rw [sink, same] at up
      exact absurd up (Nat.lt_irrefl _)
    · exact above
  · exact absurd (source ▸ undoableA.undo) (by simp [VmActionId.undo])
  · have undone := acquired.spec.undoCreate.symm.trans (eqA ▸ undoableA.undo)
    have undone' := acquired.spec.undoAuth.symm.trans (eqB ▸ undoableB.undo)
    obtain rfl := Option.some.inj undone
    obtain rfl := Option.some.inj undone'
    exact .single (release_precedes acquired).2.1

end Order

section Runs

variable {config : VMConfig} {option : ImageStoreOption}

/-- What holds of the three actions at the ends and of those that give storage back holds of the
whole rollback. -/
theorem rollback_forall {P : DeployAction → Prop} (unselect : P (unselectHost true))
    (remove : P (removeVm true)) (release : P releaseNic)
    (storage : ∀ i s r, Acquired config option i s r → P r.deauth ∧ P r.delete) :
    ∀ a ∈ (wfRollback config option).nodes, P a := by
  intro a mem
  obtain ⟨call, memCall, node⟩ := (wfRollback_built.nodes a).mp mem
  cases isRollbackCall_of_mem memCall with
  | start => exact List.mem_singleton.mp node ▸ unselect
  | remove => exact Call.forall_nodes_edge remove unselect a node
  | releaseNic => exact Call.forall_nodes_edge remove release a node
  | released => exact Call.forall_nodes_edge release unselect a node
  | storage acquired mem =>
      obtain ⟨deauth, delete⟩ := storage _ _ _ acquired
      simp only [releaseCalls, List.mem_cons, List.not_mem_nil, or_false] at mem
      rcases mem with rfl | rfl | rfl
      · exact Call.forall_nodes_edge remove deauth a node
      · exact Call.forall_nodes_edge deauth delete a node
      · exact Call.forall_nodes_edge delete unselect a node

theorem rollback_isUndo : ∀ a ∈ (wfRollback config option).nodes, a.id.isUndo = true :=
  rollback_forall rfl rfl rfl fun _ _ _ acquired => acquired.spec.sides.2.2

theorem deploy_not_isUndo : ∀ a ∈ (wfDeploy config option).nodes, a.id.isUndo = false := by
  intro a mem
  obtain ⟨call, memCall, node⟩ := (wfDeploy_built.nodes a).mp mem
  have edge {prev next : DeployAction} (first : prev.id.isUndo = false)
      (second : next.id.isUndo = false) (node : a ∈ Call.nodes (.edge prev next)) :
      a.id.isUndo = false :=
    Call.forall_nodes_edge (P := fun a : DeployAction => a.id.isUndo = false) first second a node
  cases isDeployCall_of_mem memCall with
  | start => exact List.mem_singleton.mp node ▸ rfl
  | modify => exact edge rfl rfl node
  | createVm => exact edge rfl rfl node
  | selectByNic => exact edge rfl rfl node
  | prepareNic nic => exact edge rfl rfl node
  | connect nic => exact edge rfl rfl node
  | prepareImage i => exact edge rfl rfl node
  | localImage i => exact edge rfl rfl node
  | createImage acquired => exact edge rfl acquired.spec.sides.1 node
  | createShare acquired => exact edge rfl acquired.spec.sides.1 node
  | auth acquired => exact edge acquired.spec.sides.1 acquired.spec.sides.2.1 node
  | authorised acquired => exact edge acquired.spec.sides.2.1 rfl node

theorem undo_of_isUndo {id : VmActionId} (undoes : id.isUndo = true) : id.undo = none := by
  cases id <;> first | rfl | cases undoes

theorem deploy_separate : (deployPlan config option).Separate where
  apart a memA b memB same := by
    have forward := deploy_not_isUndo a memA
    rw [same, rollback_isUndo b memB] at forward
    cases forward
  onceForward a memA b memB same := by
    rw [action_of_proper deploy_proper wfDeploy_built memA,
      action_of_proper deploy_proper wfDeploy_built memB, same]
  once a memA b memB same := by
    rw [action_of_proper rollback_proper wfRollback_built memA,
      action_of_proper rollback_proper wfRollback_built memB, same]
  last b mem := by
    rw [action_of_proper rollback_proper wfRollback_built mem]
    exact undo_of_isUndo (rollback_isUndo b mem)

theorem level_of_precedes {a b : VmActionId} (edge : (wfRollback config option).Precedes a b) :
    a.level < b.level := by
  obtain ⟨call, mem, edge⟩ := (wfRollback_built.edges (a, b)).mp edge
  exact (rollback_proper call mem).edges _ edge

theorem rollback_skipped (images : config.imagesLocal) :
    ∀ undo ∈ (wfRollback config option).nodes, undo.skipped = true := by
  refine rollback_forall rfl rfl rfl ?_
  rintro i s r ⟨disk, there, ⟨⟨image, shared⟩, -, -⟩ | ⟨-, -, rfl⟩⟩
  · exact absurd (images disk (List.mem_of_getElem? there) image) shared
  · exact ⟨rfl, rfl⟩

theorem rollback_sources : ∀ e ∈ (wfRollback config option).edges,
    ∃ a ∈ (wfRollback config option).nodes, a.id = e.1 := by
  intro e edge
  obtain ⟨call, mem, edge⟩ := (wfRollback_built.edges e).mp edge
  cases call with
  | node a => cases edge
  | edge prev next =>
      obtain rfl := List.mem_singleton.mp edge
      exact ⟨prev, (wfRollback_built.nodes _).mpr ⟨_, mem, List.mem_cons_self⟩, rfl⟩

theorem eq_removeVm {id : VmActionId} (undoes : id.isUndo = true) (first : id.level < 1) :
    id = .removeVm := by
  cases id with
  | removeVm => rfl
  | unselectHost => exact absurd first (by decide)
  | releaseNic => exact absurd first (by decide)
  | deleteSnapshot | deauthSnapshot | deleteBlock | deauthBlock | deleteShareBlock
  | deauthShareBlock => exact absurd first (by simp [VmActionId.level])
  | _ => cases undoes

/-- An image on shared storage: its host is told to let it go though it was never asked to take
it. -/
theorem sent_without (i : ℕ) {disk : VmDiskConfig} (there : config.allDisks[i]? = some disk)
    (image : disk.isSharedImage) : ∃ moves rows,
      Run (EngineStep (deployPlan config option)) (deployPlan config option).created moves rows ∧
        ¬ (deployPlan config option).Exact rows := by
  let plan := deployPlan config option
  let deauth := (imageRelease option i disk).deauth
  have acquired : Acquired config option i (imageActions option i disk)
    (imageRelease option i disk) := ⟨disk, there, .inl ⟨image, rfl, rfl⟩⟩
  have calls := mem_rollbackCalls_of_acquired acquired _ List.mem_cons_self
  have memRemove : removeVm true ∈ (wfRollback config option).nodes :=
    (wfRollback_built.nodes _).mpr ⟨_, calls, by simp [Call.nodes]⟩
  have memDeauth : deauth ∈ (wfRollback config option).nodes :=
    (wfRollback_built.nodes _).mpr ⟨_, calls, by simp [Call.nodes, deauth]⟩
  have memSelect : selectHost ∈ (wfDeploy config option).nodes :=
    (wfDeploy_built.nodes _).mpr ⟨.node selectHost, List.mem_append_left _ (List.mem_append_left _
      List.mem_cons_self), List.mem_cons_self⟩
  have sound : plan.Sound plan.created := created_sound deploy_separate
  have never (undo : DeployAction) : ¬ plan.hadBeenSent plan.created undo := by
    rintro ⟨a, -, -, sent⟩
    cases sent
  have skipRemove : plan.created.skipped .removeVm = true :=
    (sound.flag _ memRemove).mpr ⟨rfl, never _⟩
  have deauthSent : plan.created.skipped deauth.id = false := by
    refine Bool.eq_false_iff.mpr fun skipped => ?_
    have flagged : deauth.skipped = true := ((sound.flag _ memDeauth).mp skipped).1
    simp only [deauth, imageRelease] at flagged
    split at flagged <;> cases flagged
  -- the workflow is rolled back before anything was sent
  let turned : ActionRows VmActionId := { plan.created with rolledBack := true }
  have turns : EngineStep plan plan.created .rollback turned :=
    .rollback rfl ⟨selectHost, memSelect, rfl⟩
  have removing : EngineStep plan turned (.doAction .removeVm) (turned.finish .removeVm) := by
    have skips : turned.doAction (removeVm true) = turned.finish .removeVm :=
      doAction_skipped skipRemove
    rw [← skips]
    refine .doAction (removeVm true) ⟨memRemove, rfl, fun e edge into => ?_⟩
    have up : e.1.level < e.2.level := level_of_precedes edge
    rw [into] at up
    exact absurd up (Nat.not_lt_zero _)
  let removed := turned.finish VmActionId.removeVm
  have apart : deauth.id ≠ .removeVm := by
    intro same
    have level := acquired.spec.levels.2.2.1
    rw [show (imageRelease option i disk).deauth.id = .removeVm from same] at level
    cases level
  have letting : EngineStep plan removed (.doAction deauth.id) (removed.doAction deauth) := by
    refine .doAction deauth ⟨memDeauth, ?_, fun e edge into => ?_⟩
    · exact Function.update_of_ne apart _ _
    · have up : e.1.level < e.2.level := level_of_precedes edge
      rw [into, acquired.spec.levels.2.2.1] at up
      obtain ⟨source, memSource, eq⟩ := rollback_sources e edge
      have first := eq_removeVm (eq ▸ rollback_isUndo source memSource) up
      rw [first]
      change Function.update turned.finished .removeVm true .removeVm = true
      exact Function.update_self _ _ _
  refine ⟨_, _, ((Run.single turns).append (Run.single removing)).append (Run.single letting),
    fun exact_ => ?_⟩
  have sends : removed.doAction deauth = removed.send deauth.id :=
    doAction_first deauthSent rfl (deploy_separate.last deauth memDeauth)
  rw [sends] at exact_
  obtain ⟨a, mem, -, sent⟩ := exact_.sent deauth memDeauth (Function.update_self _ _ _)
  have unsent : (removed.send deauth.id).sent a.id = false :=
    Function.update_of_ne (deploy_separate.apart a mem deauth memDeauth) _ _
  rw [unsent] at sent
  cases sent

/-- The rollback of a deployment is exact exactly where every image has its storage on the host. -/
theorem rollback_exact_iff (config : VMConfig) (option : ImageStoreOption) :
    RollbackExact (deployPlan config option) ↔ config.imagesLocal := by
  constructor
  · intro exact_ disk mem image
    by_contra shared
    obtain ⟨i, there⟩ := List.mem_iff_getElem?.mp mem
    obtain ⟨moves, rows, run, wrong⟩ := sent_without i there ⟨image, shared⟩
    exact wrong (exact_.exact moves rows run)
  · intro images
    refine ⟨acyclic_of_rank fun a b edge => (before_of_edge edge).1,
      acyclic_of_rank fun a b => level_of_precedes, deploy_reversed, fun moves rows run => ?_,
      fun moves rows run rollback unfinished => ?_⟩
    · exact exact_of_sound (sound_run deploy_separate run) (rollback_skipped images)
    · obtain ⟨undo, mem, unfinished⟩ := unfinished
      refine current_advances (a := undo) ?_ ?_ ?_ unfinished
      · rw [current_rollback rollback]
        exact acyclic_of_rank fun a b => level_of_precedes
      · rw [current_rollback rollback]
        exact rollback_sources
      · rw [current_rollback rollback]
        exact mem

/-- One image that may lie anywhere. -/
def anyImageConfig : VMConfig where
  disks := []
  machine := ⟨5, 0, "r", true⟩
  nics := []
  vmWdtime := 0

theorem anyImage_not_exact : ¬ RollbackExact (deployPlan anyImageConfig ⟨IMAGE_USE_SNAPSHOT⟩) := by
  intro exact_
  have image : anyImageConfig.machine.isSharedImage := ⟨by decide, by decide⟩
  have there : anyImageConfig.allDisks[0]? = some anyImageConfig.machine := rfl
  obtain ⟨moves, rows, run, wrong⟩ := sent_without 0 there image
  exact wrong (exact_.exact moves rows run)

end Runs

end Tecs.Vm
