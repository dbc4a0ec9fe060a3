import Tecs.Workflow.HistoryMade
import Tecs.Workflow.EngineOwnership

set_option autoImplicit false

namespace Tecs

open Effect Program TransactionContext ActionPool EngineRollback HistoryMade

/-- `0 == id.compare(0,11,"rollbackof:")`. -/
def isRollbackOf (id : String) : Bool := id.toList.take 11 == "rollbackof:".toList

/-- What follows the prefix. -/
def forwardOf (id : String) : String := String.ofList (id.toList.drop 11)

namespace ActionPool

def isRollbackWorkflow (workflowId : String) : Pool Bool := do
  let rollbackWorkflowId ← getRollbackWorkflow workflowId
  return isRollbackOf rollbackWorkflowId

def getForwardWorkflow (workflowId : String) : Pool (Except Status String) := do
  match ← Pool.select (.rollbackWorkflow workflowId) with
  | .value id =>
      return if isRollbackOf id then .ok (forwardOf id) else .error Status.errorNotSupport
  | _ => return .error Status.errorDbSelectFail

def getWorkflowHistoryProgress (workflowId : String) : Pool Int := do
  match ← Pool.select (.historyProgress workflowId) with
  | .value progress => return progress
  | _ => return -1

end ActionPool

/-- The progress goes back from where the forward workflow stopped. -/
def rolledBack (forward current : Int) : Int := forward - (forward * current).tdiv 100

/-- The progress of a workflow by its direction; -1 if the forward workflow has none. -/
def directedProgress (workflowId : String) (current : Int) : Pool Int := do
  if ← ActionPool.isRollbackWorkflow workflowId then do
    match ← ActionPool.getForwardWorkflow workflowId with
    | .error _ => return -1
    | .ok forwardId => do
        let forward ← ActionPool.getWorkflowHistoryProgress forwardId
        return if forward < 0 then -1 else rolledBack forward current
  else return current

/-- As long as actions are left, 100 is shown as 99. -/
def shownProgress (unfinishedCount progress : Int) : Int :=
  if 0 < unfinishedCount ∧ progress = 100 then 99 else progress

def getWorkflowProgress (actionId : String) : Pool Int := do
  match ← getWorkflow actionId with
  | .error code => return code
  | .ok workflowId => do
      let unfinishedCount ← ActionPool.getUnfinishedActionsCount workflowId
      if unfinishedCount < 0 then return -1
      else do
        let current ← ActionPool.getWorkflowProgress workflowId
        if current < 0 then return -1
        else do
          let progress ← directedProgress workflowId current
          return shownProgress unfinishedCount progress

namespace WorkflowProgress

/-! The weighted average. -/

theorem weighted_full {actions : List Action} (checked : ∀ a ∈ actions, a.Checked) :
    (actions.map fun a : Action => a.progress * a.progressWeight).sum =
        100 * (actions.map Action.progressWeight).sum ↔ ∀ a ∈ actions, a.progress = 100 := by
  induction actions with
  | nil => simp
  | cons a rest ih =>
      have here := checked a List.mem_cons_self
      have others : ∀ b ∈ rest, b.Checked := fun b inside =>
        checked b (List.mem_cons_of_mem _ inside)
      have tail := (Database.weighted_bounds others).2.2
      have weight : 0 < a.progressWeight := here.progressWeight
      have high : a.progress * a.progressWeight ≤ 100 * a.progressWeight :=
        Int.mul_le_mul_of_nonneg_right here.progress.2 (Int.le_of_lt weight)
      have full : a.progress * a.progressWeight = 100 * a.progressWeight ↔ a.progress = 100 :=
        Int.mul_eq_mul_right_iff (Int.ne_of_gt weight)
      rw [List.forall_mem_cons, ← ih others, ← full]
      simp only [List.map_cons, List.sum_cons]
      omega

theorem weights_pos {actions : List Action} (checked : ∀ a ∈ actions, a.Checked)
    (some : actions ≠ []) : 0 < (actions.map Action.progressWeight).sum := by
  obtain ⟨a, rest, rfl⟩ := List.exists_cons_of_ne_nil some
  have here := (checked a List.mem_cons_self).progressWeight
  have others := (Database.weighted_bounds fun b (inside : b ∈ rest) =>
    checked b (List.mem_cons_of_mem _ inside)).1
  simp only [List.map_cons, List.sum_cons]
  omega

/-- The average is 100 only if every action is at 100. -/
theorem workflowProgress_full {db : Database} {workflowId : String}
    (some : db.actionsOf workflowId ≠ []) :
    db.workflowProgress workflowId = 100 ↔
      ∀ a ∈ db.actionsOf workflowId, a.progress = 100 := by
  have checked : ∀ a ∈ db.actionsOf workflowId, a.Checked := fun a inside =>
    db.actionCheck a (List.mem_of_mem_filter inside)
  have weight := weights_pos checked some
  have bounds := (Database.weighted_bounds checked).2
  rw [← weighted_full checked]
  unfold Database.workflowProgress
  dsimp only
  generalize ((db.actionsOf workflowId).map Action.progressWeight).sum = weights at *
  generalize ((db.actionsOf workflowId).map
    fun a : Action => a.progress * a.progressWeight).sum = weighted at *
  rw [Int.tdiv_eq_ediv_of_nonneg bounds.1]
  constructor
  · intro full
    have low : 100 * weights ≤ weighted := by
      rw [← full]
      exact Int.ediv_mul_le weighted (Int.ne_of_gt weight)
    omega
  · rintro rfl
    exact Int.mul_ediv_cancel 100 (Int.ne_of_gt weight)

/-- Going back from a progress stays between it and 0. -/
theorem rolledBack_bounds {forward current : Int} (low : 0 ≤ forward)
    (bounds : 0 ≤ current ∧ current ≤ 100) :
    0 ≤ rolledBack forward current ∧ rolledBack forward current ≤ forward := by
  have product : 0 ≤ forward * current := Int.mul_nonneg low bounds.1
  have most : forward * current ≤ forward * 100 := Int.mul_le_mul_of_nonneg_left bounds.2 low
  unfold rolledBack
  rw [Int.tdiv_eq_ediv_of_nonneg product]
  omega

theorem shownProgress_bounds {count progress : Int} (bounds : 0 ≤ progress ∧ progress ≤ 100) :
    0 ≤ shownProgress count progress ∧ shownProgress count progress ≤ 100 := by
  unfold shownProgress
  split
  · decide
  · exact bounds

theorem shownProgress_full {count progress : Int} (full : shownProgress count progress = 100) :
    count ≤ 0 := by
  unfold shownProgress at full
  split at full
  · cases full
  · omega

/-! The tables over time. -/

/-- Workflows are stored, their rows updated, and in the end archived. -/
inductive Event
  | createActionWorkflow (alternate : Int) (action : Action) (workflowId : String)
  | createWorkflow (alternate : Int) (workflow : Workflow)
  | createWorkflowWithRollback (alternate : Int) (workflow rollback : Workflow)
  | updateAction (actionId : String) (change : ActionChange)
  | updatePaused (workflowId : String) (paused : Bool)
  | archive (history : WorkflowHistory) (workflowIds : List String)

def after (env : Process) (db : Database) : Event → Database
  | .createActionWorkflow alternate action workflowId =>
      afterwards alternate (createActionWorkflow env action workflowId) db
  | .createWorkflow alternate workflow => afterwards alternate (createWorkflow env workflow) db
  | .createWorkflowWithRollback alternate workflow rollback =>
      afterwards alternate (createWorkflowWithRollback env workflow rollback) db
  | .updateAction actionId change => (db.updateAction actionId change).getD db
  | .updatePaused workflowId paused => db.updatePaused workflowId paused
  | .archive history workflowIds =>
      (db.executeTransaction (archiving history workflowIds)).getD db

/-- `GenerateUUID` repeats no id, also none of the history. -/
def New (db : Database) (workflowId : String) : Prop :=
  workflowId ∉ db.workflowHistory.map WorkflowHistory.workflowId

def Permitted (db : Database) : Event → Prop
  | .createActionWorkflow _ _ workflowId => isWorkflowId workflowId = true ∧ New db workflowId
  | .createWorkflow _ workflow => New db workflow.workflowId
  | .createWorkflowWithRollback _ workflow rollback =>
      New db workflow.workflowId ∧ New db rollback.workflowId
  | .archive history workflowIds => history.workflowId ∈ workflowIds
  | _ => True

/-- The databases the events lead to. -/
inductive Reached (env : Process) : Database → Prop
  | empty : Reached env .empty
  | after {db : Database} (before : Reached env db) (event : Event)
      (permitted : Permitted db event) : Reached env (after env db event)

/-- What a stored workflow keeps until it is archived. -/
structure Kept (db : Database) (workflowId : String) : Prop where
  tagged : isWorkflowId workflowId = true
  new : New db workflowId
  actions : ∃ a ∈ db.actionPool, a.workflowId = workflowId

def AllKept (db : Database) : Prop := ∀ w ∈ db.workflow, Kept db w.workflowId

theorem isWorkflowId_of_validate {w : Workflow} (valid : w.validate = true) :
    isWorkflowId w.workflowId = true := by
  by_contra untagged
  unfold Workflow.validate at valid
  rw [if_pos (by simpa using untagged)] at valid
  cases valid

theorem allKept_store {db later : Database} {batch : List Statement} (kept : AllKept db)
    (stores : ∀ s ∈ batch, s.stores = true) (done : db.executeTransaction batch = some later)
    (added : ∀ row ∈ batch.filterMap Statement.workflow?, isWorkflowId row.workflowId = true ∧
      New db row.workflowId ∧
      ∃ a ∈ batch.filterMap Statement.action?, a.workflowId = row.workflowId) :
    AllKept later := by
  obtain ⟨workflows, pool, -, history⟩ := executeTransaction_stores stores done
  intro w inside
  rw [workflows] at inside
  rcases List.mem_append.mp inside with old | row
  · obtain ⟨tagged, new, a, among, owned⟩ := kept w old
    refine ⟨tagged, ?_, a, ?_, owned⟩
    · unfold New
      rw [history]
      exact new
    · rw [pool]
      exact List.mem_append_left _ among
  · obtain ⟨tagged, new, a, among, owned⟩ := added w row
    refine ⟨tagged, ?_, a, ?_, owned⟩
    · unfold New
      rw [history]
      exact new
    · rw [pool]
      exact List.mem_append_right _ among

/-- The assigned workflow has an action, and its actions name it. -/
theorem assigned_action (workflow : Workflow) (engine : Int)
    (some : workflow.actions.isEmpty = false) :
    ∃ a ∈ (workflow.assign engine).storedActions, a.workflowId = workflow.workflowId := by
  obtain ⟨a, rest, equal⟩ := List.exists_cons_of_ne_nil (List.isEmpty_eq_false_iff.mp some)
  have stored : Database.stored
      { a with workflowEngine := engine, workflowId := workflow.workflowId } ∈
      (workflow.assign engine).storedActions := by
    unfold Workflow.storedActions Workflow.assign
    dsimp only
    rw [equal]
    exact List.mem_cons_self
  exact ⟨_, stored, Workflow.assign_workflowId workflow engine _ stored⟩

theorem allKept_createWorkflow (env : Process) (alternate : Int) {workflow : Workflow}
    {db : Database} (kept : AllKept db) (new : New db workflow.workflowId) :
    AllKept (afterwards alternate (createWorkflow env workflow) db) := by
  unfold createWorkflow
  split
  · exact kept
  · rename_i some
    rw [afterwards_getAvailableEngine]
    dsimp only
    split
    · rename_i valid
      rw [Bool.and_eq_true] at valid
      rw [afterwards_storeAndWakeup]
      cases done : db.executeTransaction _ with
      | none => exact kept
      | some later =>
          refine allKept_store kept (fun s inside => ?_) done fun row inside => ?_
          · rcases List.mem_append.mp inside with inside | inside
            · exact Workflow.insertRows_stores env _ s inside
            · exact Workflow.insertSequences_stores _ s inside
          · simp only [List.filterMap_append, Workflow.insertRows_workflow?,
              Workflow.insertSequences_workflow?, Workflow.insertRows_action?,
              Workflow.insertSequences_action?, List.append_nil] at inside ⊢
            obtain rfl := List.mem_singleton.mp inside
            exact ⟨isWorkflowId_of_validate valid.2, new,
              assigned_action workflow _ (Bool.eq_false_of_not_eq_true some)⟩
    · exact kept

theorem allKept_createActionWorkflow (env : Process) (alternate : Int) (action : Action)
    {workflowId : String} {db : Database} (kept : AllKept db)
    (tagged : isWorkflowId workflowId = true) (new : New db workflowId) :
    AllKept (afterwards alternate (createActionWorkflow env action workflowId) db) := by
  unfold createActionWorkflow
  rw [afterwards_getAvailableEngine]
  dsimp only
  split
  · rw [afterwards_storeAndWakeup]
    cases done : db.executeTransaction _ with
    | none => exact kept
    | some later =>
        refine allKept_store kept (Workflow.insertRows_stores env _) done fun row inside => ?_
        rw [Workflow.insertRows_workflow?] at inside
        obtain rfl := List.mem_singleton.mp inside
        refine ⟨tagged, new, Database.stored { action with
          workflowId := workflowId, workflowEngine := alternate.tmod env.numberOfEngines }, ?_, rfl⟩
        rw [Workflow.insertRows_action?]
        exact List.mem_cons_self
  · exact kept

theorem allKept_createWorkflowWithRollback (env : Process) (alternate : Int)
    {workflow rollback : Workflow} {db : Database} (kept : AllKept db)
    (new : New db workflow.workflowId ∧ New db rollback.workflowId) :
    AllKept (afterwards alternate (createWorkflowWithRollback env workflow rollback) db) := by
  unfold createWorkflowWithRollback
  split
  · exact kept
  · rename_i some
    rw [Bool.or_eq_true, not_or] at some
    rw [afterwards_getAvailableEngine]
    dsimp only
    split
    · rename_i valid
      simp only [Bool.and_eq_true] at valid
      rw [afterwards_storeAndWakeup]
      cases done : db.executeTransaction _ with
      | none => exact kept
      | some later =>
          refine allKept_store kept (pair_stores env _ _) done fun row inside => ?_
          simp only [List.filterMap_append, Workflow.insertRows_workflow?,
            Workflow.insertSequences_workflow?, Workflow.insertRows_action?,
            Workflow.insertSequences_action?, List.append_nil, List.mem_append,
            List.mem_singleton] at inside ⊢
          rcases inside with rfl | rfl
          · obtain ⟨a, among, owned⟩ := assigned_action (workflow.withRollback rollback)
              (alternate.tmod env.numberOfEngines) (Bool.eq_false_of_not_eq_true some.1)
            exact ⟨isWorkflowId_of_validate valid.2, new.1, a, .inl among, owned⟩
          · obtain ⟨a, among, owned⟩ := assigned_action (rollback.asRollbackOf workflow)
              (alternate.tmod env.numberOfEngines) (Bool.eq_false_of_not_eq_true some.2)
            exact ⟨isWorkflowId_of_validate valid.1.1.2, new.2, a, .inr among, owned⟩
    · exact kept

theorem allKept_updateAction {db later : Database} {actionId : String} {change : ActionChange}
    (kept : AllKept db) (done : db.updateAction actionId change = some later) :
    AllKept later := by
  unfold Database.updateAction at done
  split at done
  · obtain rfl := Option.some.inj done
    intro w inside
    obtain ⟨tagged, new, a, among, owned⟩ := kept w inside
    exact ⟨tagged, new, _, List.mem_map_of_mem among,
      (Database.updateRow_workflowId _ _ _).trans owned⟩
  · cases done

theorem allKept_updatePaused {db : Database} (kept : AllKept db) (workflowId : String)
    (paused : Bool) : AllKept (db.updatePaused workflowId paused) := by
  intro w inside
  obtain ⟨old, among, rfl⟩ := List.mem_map.mp inside
  rw [Database.pauseRow_workflowId]
  obtain ⟨tagged, new, actions⟩ := kept old among
  exact ⟨tagged, new, actions⟩

/-- The archived workflow is deleted, so the others are new to the history. -/
theorem allKept_archive {db later : Database} {history : WorkflowHistory}
    {workflowIds : List String} (kept : AllKept db) (named : history.workflowId ∈ workflowIds)
    (done : db.executeTransaction (archiving history workflowIds) = some later) :
    AllKept later := by
  simp only [archiving, Database.executeTransaction, Database.execute, Option.bind_some] at done
  obtain ⟨saved, inserted, rest⟩ := Option.bind_eq_some_iff.mp done
  obtain rfl := Option.some.inj rest
  unfold Database.insertHistory at inserted
  split at inserted
  · obtain rfl := Option.some.inj inserted
    intro w inside
    obtain ⟨among, other⟩ := List.mem_filter.mp inside
    have apart := of_decide_eq_true other
    obtain ⟨tagged, new, a, row, owned⟩ := kept w among
    refine ⟨tagged, ?_, a, ?_, owned⟩
    · show w.workflowId ∉ (db.workflowHistory ++ [history]).map WorkflowHistory.workflowId
      rw [List.map_append, List.mem_append, not_or]
      refine ⟨new, fun last => apart ?_⟩
      rw [List.mem_singleton.mp last]
      exact named
    · refine List.mem_filter.mpr ⟨row, ?_⟩
      rw [owned]
      exact other
  · cases inserted

theorem Reached.kept {env : Process} {db : Database} (reached : Reached env db) : AllKept db := by
  induction reached with
  | empty => exact fun w none => absurd none List.not_mem_nil
  | @after db _ event permitted ih =>
      cases event with
      | createActionWorkflow alternate action workflowId =>
          exact allKept_createActionWorkflow env alternate action ih permitted.1 permitted.2
      | createWorkflow alternate workflow =>
          exact allKept_createWorkflow env alternate ih permitted
      | createWorkflowWithRollback alternate workflow rollback =>
          exact allKept_createWorkflowWithRollback env alternate ih permitted
      | updateAction actionId change =>
          show AllKept ((db.updateAction actionId change).getD db)
          cases done : db.updateAction actionId change with
          | none => exact ih
          | some later => exact allKept_updateAction ih done
      | updatePaused workflowId paused => exact allKept_updatePaused ih workflowId paused
      | archive history workflowIds =>
          show AllKept ((db.executeTransaction (archiving history workflowIds)).getD db)
          cases done : db.executeTransaction (archiving history workflowIds) with
          | none => exact ih
          | some later => exact allKept_archive ih permitted done

/-! What the functions make of these tables. -/

/-- The products of the view are of the type `int4`. -/
def fits (db : Database) (workflowId : String) : Bool :=
  (db.actionsOf workflowId).all fun a => decide (a.progress * a.progressWeight ≤ 2147483647)

/-- A database that serves every call, except where a product leaves its type. -/
def computes (db : Database) : PoolCall → Bool
  | .select (.workflowProgress workflowId) => fits db workflowId
  | _ => true

/-- What `GetWorkflowProgress` returns. -/
def progressOf (db : Database) (workflowId : String) : Int :=
  ((getWorkflowProgress workflowId).exec (S := pool) (partly (computes db)) (db, enable)).1

/-- The progress is one, and 100 only when no action is left. -/
structure Measured (db : Database) (workflowId : String) (progress : Int) : Prop where
  bounds : 0 ≤ progress ∧ progress ≤ 100
  complete : progress = 100 → db.unfinished workflowId = []

/-- The workflow can be archived and deleted, with such a progress in its history. -/
structure Archivable (db : Database) (workflowId : String) (ret : Status) (later : Database) :
    Prop where
  success : ret = Status.success
  gone : ∀ w ∈ later.workflow, w.workflowId ≠ workflowId
  recorded : ∃ history ∈ later.workflowHistory, history.workflowId = workflowId ∧
    Measured db workflowId history.progress

/-- The return value of `DeleteWorkflow`, and the tables after it. -/
def deleted (db : Database) (workflowId : String) : Status × Database :=
  let ended := (ActionPool.deleteWorkflow workflowId true).exec (S := pool) (partly (computes db))
    (db, enable)
  (ended.1, ended.2.1)

/-- The forward workflow of a rollback workflow is in the history. -/
def ForwardArchived (db : Database) (w : WorkflowRow) : Prop :=
  isRollbackOf w.rollbackWorkflowId = true →
    ∃ history ∈ db.workflowHistory, history.workflowId = forwardOf w.rollbackWorkflowId

/-- No action waits at 100 with all others there, too. -/
def Behind (db : Database) (workflowId : String) : Prop :=
  db.unfinished workflowId ≠ [] → ∃ a ∈ db.actionsOf workflowId, a.progress ≠ 100

section Outcome

variable {db : Database} {w : WorkflowRow}

theorem exec_getRollbackWorkflow (row : w ∈ db.workflow) (ctx : TransactionContext Statement) :
    (ActionPool.getRollbackWorkflow w.workflowId).exec (S := pool) (partly (computes db))
      (db, ctx) = (w.rollbackWorkflowId, db, ctx) := by
  unfold ActionPool.getRollbackWorkflow
  rw [EngineRollback.exec_select_bind]
  simp only [computes, if_true, Database.select,
    Database.workflowById_eq_some.mpr ⟨row, rfl⟩, Option.map_some]
  rfl

/-- The progress recorded for the forward workflow; -1 if there is none. -/
def forwardProgress (db : Database) (w : WorkflowRow) : Int :=
  match db.workflowHistory.find? fun h => h.workflowId == forwardOf w.rollbackWorkflowId with
  | some history => history.progress
  | none => -1

theorem forwardProgress_bounds (archived : ∃ history ∈ db.workflowHistory,
    history.workflowId = forwardOf w.rollbackWorkflowId) :
    0 ≤ forwardProgress db w ∧ forwardProgress db w ≤ 100 := by
  unfold forwardProgress
  cases found : db.workflowHistory.find? fun h =>
      h.workflowId == forwardOf w.rollbackWorkflowId with
  | some history => exact db.historyCheck history (List.mem_of_find?_eq_some found)
  | none =>
      obtain ⟨history, inside, named⟩ := archived
      exact absurd (beq_iff_eq.mpr named) (List.find?_eq_none.mp found history inside)

theorem forwardProgress_none (missing : ¬∃ history ∈ db.workflowHistory,
    history.workflowId = forwardOf w.rollbackWorkflowId) : forwardProgress db w = -1 := by
  unfold forwardProgress
  cases found : db.workflowHistory.find? fun h =>
      h.workflowId == forwardOf w.rollbackWorkflowId with
  | some history =>
      have named := List.find?_some found
      exact absurd ⟨history, List.mem_of_find?_eq_some found, by simpa using named⟩ missing
  | none => rfl

/-- What `directedProgress` makes of the current progress. -/
def directed (db : Database) (w : WorkflowRow) (current : Int) : Int :=
  if isRollbackOf w.rollbackWorkflowId then
    if forwardProgress db w < 0 then -1 else rolledBack (forwardProgress db w) current
  else current

theorem exec_directedProgress (row : w ∈ db.workflow) (current : Int) :
    (directedProgress w.workflowId current).exec (S := pool) (partly (computes db))
      (db, enable) = (directed db w current, db, enable) := by
  have rollback : (ActionPool.isRollbackWorkflow w.workflowId).exec (S := pool)
      (partly (computes db)) (db, enable) = (isRollbackOf w.rollbackWorkflowId, db, enable) := by
    unfold ActionPool.isRollbackWorkflow
    rw [exec_bind, exec_getRollbackWorkflow row]
    rfl
  unfold directedProgress directed
  rw [exec_bind, rollback]
  dsimp only
  split
  · rename_i backward
    have forward : (ActionPool.getForwardWorkflow w.workflowId).exec (S := pool)
        (partly (computes db)) (db, enable) =
          (.ok (forwardOf w.rollbackWorkflowId), db, enable) := by
      unfold ActionPool.getForwardWorkflow
      rw [EngineRollback.exec_select_bind]
      simp only [computes, if_true, Database.select,
        Database.workflowById_eq_some.mpr ⟨row, rfl⟩, Option.map_some, Found.ofOption, backward]
      rfl
    have recorded : (ActionPool.getWorkflowHistoryProgress (forwardOf w.rollbackWorkflowId)).exec
        (S := pool) (partly (computes db)) (db, enable) = (forwardProgress db w, db, enable) := by
      unfold ActionPool.getWorkflowHistoryProgress forwardProgress
      rw [EngineRollback.exec_select_bind]
      simp only [computes, if_true, Database.select]
      cases db.workflowHistory.find? fun h => h.workflowId == forwardOf w.rollbackWorkflowId with
      | none => rfl
      | some history => rfl
    rw [exec_bind, forward]
    dsimp only
    rw [exec_bind, recorded]
    rfl
  · rfl

variable (reached : AllKept db) (row : w ∈ db.workflow)

include reached row

theorem actionsOf_ne_nil : db.actionsOf w.workflowId ≠ [] := by
  obtain ⟨-, -, a, inside, owned⟩ := reached w row
  exact List.ne_nil_of_mem (Database.mem_actionsOf.mpr ⟨inside, owned⟩)

/-- The value of `GetWorkflowProgress` for a stored workflow. -/
theorem progressOf_eq : progressOf db w.workflowId =
    if fits db w.workflowId then
      shownProgress (db.unfinished w.workflowId).length
        (directed db w (db.workflowProgress w.workflowId))
    else -1 := by
  have untagged : isActionId w.workflowId = false := by
    have tagged := (reached w row).tagged
    unfold isWorkflowId hasTag at tagged
    unfold isActionId hasTag
    rw [beq_iff_eq.mp tagged]
    decide
  have named : (getWorkflow w.workflowId).exec (S := pool) (partly (computes db)) (db, enable) =
      (.ok w.workflowId, db, enable) := by
    unfold getWorkflow
    rw [if_neg (by simp [untagged])]
    rfl
  have counted : (getUnfinishedActionsCount w.workflowId).exec (S := pool)
      (partly (computes db)) (db, enable) =
        (((db.unfinished w.workflowId).length : Int), db, enable) :=
    exec_getUnfinishedActionsCount (computes db) db w.workflowId enable
  have current : (ActionPool.getWorkflowProgress w.workflowId).exec (S := pool)
      (partly (computes db)) (db, enable) =
        (if fits db w.workflowId then db.workflowProgress w.workflowId else -1, db, enable) :=
    exec_getWorkflowProgress (computes db) db w.workflowId enable (actionsOf_ne_nil reached row)
  have low := (db.workflowProgress_bounds w.workflowId).1
  unfold progressOf getWorkflowProgress
  rw [exec_bind, named]
  dsimp only
  rw [exec_bind, counted]
  dsimp only
  rw [if_neg (by omega), exec_bind, current]
  dsimp only
  split
  · rw [if_neg (Int.not_lt.mpr low), exec_bind, exec_directedProgress row]
    rfl
  · rw [if_pos (by decide)]
    rfl

theorem measured_iff : Measured db w.workflowId (progressOf db w.workflowId) ↔
    fits db w.workflowId = true ∧ ForwardArchived db w := by
  have current := db.workflowProgress_bounds w.workflowId
  rw [progressOf_eq reached row]
  by_cases within : fits db w.workflowId = true
  · rw [if_pos within]
    have complete : ∀ progress, shownProgress (db.unfinished w.workflowId).length progress = 100 →
        db.unfinished w.workflowId = [] := by
      intro progress full
      have none := shownProgress_full full
      exact List.length_eq_zero_iff.mp (by omega)
    by_cases backward : isRollbackOf w.rollbackWorkflowId = true
    · unfold directed
      rw [if_pos backward]
      by_cases archived : ∃ history ∈ db.workflowHistory,
          history.workflowId = forwardOf w.rollbackWorkflowId
      · have forward := forwardProgress_bounds archived
        have back := rolledBack_bounds forward.1 current
        rw [if_neg (Int.not_lt.mpr forward.1)]
        exact ⟨fun _ => ⟨within, fun _ => archived⟩, fun _ =>
          ⟨shownProgress_bounds ⟨back.1, Int.le_trans back.2 forward.2⟩, complete _⟩⟩
      · rw [forwardProgress_none archived, if_pos (by decide)]
        refine ⟨fun measured => absurd measured.bounds.1 ?_, fun both => absurd (both.2 backward)
          archived⟩
        unfold shownProgress
        rw [if_neg (by omega)]
        decide
    · unfold directed
      rw [if_neg backward]
      exact ⟨fun _ => ⟨within, fun other => absurd other backward⟩, fun _ =>
        ⟨shownProgress_bounds current, complete _⟩⟩
  · rw [if_neg within]
    exact ⟨fun measured => absurd measured.bounds.1 (by decide),
      fun both => absurd both.1 within⟩

/-- The end of `DeleteWorkflow` with the history it could make. -/
def deletedWith (db : Database) (w : WorkflowRow) :
    Except Status WorkflowHistory → Status × Database
  | .error code => (code, db)
  | .ok history =>
      let done := transacted (computes db) db
        (archiving history (deletedIds w.workflowId w.rollbackWorkflowId))
      (if done.1 then Status.success else Status.error, done.2)

omit reached in
/-- The history `DeleteWorkflow` makes of a stored workflow, if it can. -/
theorem exec_deleteWorkflow (history : Except Status WorkflowHistory)
    (equal : made (computes db) db w.workflowId (historyOf w) = history) :
    deleted db w.workflowId = deletedWith db w history := by
  have found : (getWorkflowById w.workflowId).exec (S := pool) (partly (computes db))
      (db, enable) = (.ok w, db, enable) := by
    unfold getWorkflowById
    rw [EngineRollback.exec_select_bind]
    simp only [computes, if_true, Database.select,
      Database.workflowById_eq_some.mpr ⟨row, rfl⟩, Found.ofOption]
    rfl
  have rollback : (rollbackToDelete w.workflowId true).exec (S := pool) (partly (computes db))
      (db, enable) = (w.rollbackWorkflowId, db, enable) := exec_getRollbackWorkflow row enable
  unfold deleted ActionPool.deleteWorkflow
  rw [exec_bind, found]
  dsimp only
  rw [exec_bind, exec_makeWorkflowHistory (computes db) db w.workflowId enable _ (.inl rfl), equal]
  cases history with
  | error => rfl
  | ok history =>
      dsimp only
      rw [exec_bind, rollback]
      dsimp only
      rw [exec_archiveWorkflow_off (computes db) db history _ rfl]
      rfl

/-- A history that is made is stored, and the workflow is deleted. -/
theorem archivable_of_made {history : WorkflowHistory}
    (equal : made (computes db) db w.workflowId (historyOf w) = .ok history) :
    Archivable db w.workflowId (deleted db w.workflowId).1 (deleted db w.workflowId).2 ↔
      Measured db w.workflowId history.progress := by
  obtain ⟨named, bounds⟩ := made_ok (computes db) equal
  have named : history.workflowId = w.workflowId := named
  have new : New db history.workflowId := by
    rw [named]
    exact (reached w row).new
  obtain ⟨later, done, histories, workflows⟩ :=
    executeTransaction_archiving (deletedIds w.workflowId w.rollbackWorkflowId) new bounds
  have ended : deleted db w.workflowId = (Status.success, later) := by
    rw [exec_deleteWorkflow row _ equal]
    simp only [deletedWith, transacted, done]
    rfl
  have inside : w.workflowId ∈ deletedIds w.workflowId w.rollbackWorkflowId := by
    unfold deletedIds
    split
    · exact List.mem_singleton_self _
    · exact List.mem_cons_self
  rw [ended]
  constructor
  · rintro ⟨-, -, other, among, same, measured⟩
    rw [histories] at among
    rcases List.mem_append.mp among with old | last
    · exact absurd (List.mem_map.mpr ⟨other, old, same⟩) (reached w row).new
    · obtain rfl := List.mem_singleton.mp last
      exact measured
  · intro measured
    refine ⟨rfl, fun v kept same => ?_, history, ?_, named, measured⟩
    · rw [workflows] at kept
      have apart := of_decide_eq_true (List.mem_filter.mp kept).2
      rw [same] at apart
      exact apart inside
    · rw [histories]
      exact List.mem_append_right _ (List.mem_singleton_self _)

theorem archivable_iff :
    Archivable db w.workflowId (deleted db w.workflowId).1 (deleted db w.workflowId).2 ↔
      (db.unfinished w.workflowId ≠ [] → fits db w.workflowId = true) ∧
        Behind db w.workflowId := by
  have count : computes db (.select (.unfinishedCount w.workflowId)) = true := rfl
  by_cases none : db.unfinished w.workflowId = []
  · have finished : made (computes db) db w.workflowId (historyOf w) =
        .ok (finishedHistory (historyOf w)) := by
      unfold made
      rw [if_pos count, if_pos (by simp [none])]
    rw [archivable_of_made reached row finished]
    have full : Measured db w.workflowId 100 := ⟨by decide, fun _ => none⟩
    exact ⟨fun _ => ⟨fun some => absurd none some, fun some => absurd none some⟩, fun _ => full⟩
  · have left : ¬(db.unfinished w.workflowId).isEmpty = true := by simpa using none
    by_cases within : fits db w.workflowId = true
    · have unfinished : made (computes db) db w.workflowId (historyOf w) =
          .ok (db.unfinishedHistory w.workflowId (historyOf w)) := by
        unfold made
        rw [if_pos count, if_neg left]
        simp only [computes, within, Bool.and_self, if_true]
      have full := workflowProgress_full (actionsOf_ne_nil reached row)
      rw [archivable_of_made reached row unfinished, unfinishedHistory_progress]
      constructor
      · intro measured
        refine ⟨fun _ => within, fun _ => ?_⟩
        by_contra all
        refine none (measured.complete (full.mpr fun a inside => ?_))
        by_contra other
        exact all ⟨a, inside, other⟩
      · rintro ⟨-, behind⟩
        refine ⟨db.workflowProgress_bounds w.workflowId, fun equal => ?_⟩
        obtain ⟨a, inside, other⟩ := behind none
        exact absurd (full.mp equal a inside) other
    · have refused : made (computes db) db w.workflowId (historyOf w) =
          .error Status.errorDbSelectFail := by
        unfold made
        rw [if_pos count, if_neg left]
        simp only [computes, within, Bool.false_and]
        rfl
      rw [exec_deleteWorkflow row _ refused]
      constructor
      · rintro ⟨failed, -, -⟩
        exact absurd failed (show Status.errorDbSelectFail ≠ Status.success by decide)
      · rintro ⟨all, -⟩
        exact absurd (all none) within

end Outcome

/-- Among the tables that storing, updating and archiving workflows leads to, the progress of a
stored workflow is what it should be, and the workflow can be archived with such a progress,
exactly when the products of the view stay in their type, the forward workflow of a rollback
workflow is in the history, and an unfinished workflow has an action that is not at 100. -/
theorem measured_and_archivable_iff {env : Process} {db : Database} (reached : Reached env db)
    {w : WorkflowRow} (row : w ∈ db.workflow) :
    Measured db w.workflowId (progressOf db w.workflowId) ∧
        Archivable db w.workflowId (deleted db w.workflowId).1 (deleted db w.workflowId).2 ↔
      fits db w.workflowId = true ∧ ForwardArchived db w ∧ Behind db w.workflowId := by
  rw [measured_iff reached.kept row, archivable_iff reached.kept row]
  constructor
  · rintro ⟨⟨within, forward⟩, -, behind⟩
    exact ⟨within, forward, behind⟩
  · rintro ⟨within, forward, behind⟩
    exact ⟨⟨within, forward⟩, fun _ => within, behind⟩

/-! The two-step workflow, and a workflow of one heavy action with one that rolls it back. -/

def manager : Process := ⟨"cc", "manager", 1⟩

theorem measured_and_archivable_chain : ∃ w ∈ undoable.workflow,
    w.workflowId = "w-chain" ∧
      Measured undoable w.workflowId
        (progressOf undoable w.workflowId) ∧
      Archivable undoable w.workflowId
        (deleted undoable w.workflowId).1
        (deleted undoable w.workflowId).2 := by
  have reached : Reached manager undoable :=
    .after .empty (.createWorkflowWithRollback 0 chain undo) ⟨List.not_mem_nil, List.not_mem_nil⟩
  have stored : ∃ w ∈ undoable.workflow, w.workflowId = "w-chain" ∧
      fits undoable w.workflowId = true ∧
      isRollbackOf w.rollbackWorkflowId = false ∧
      ∃ a ∈ undoable.actionsOf w.workflowId, a.progress ≠ 100 := by decide
  obtain ⟨w, row, named, within, forward, behind⟩ := stored
  refine ⟨w, row, named, (measured_and_archivable_iff reached row).mpr
    ⟨within, fun backward => ?_, fun _ => behind⟩⟩
  rw [forward] at backward
  cases backward

def heavy : Workflow :=
  let step : Action :=
    (Action.init "vm" "create" 1001 "sender" "agent" "a-heavy").setMessageReq ⟨"", false⟩
  (Workflow.init "vm" "deploy" "w-heavy").addAction
    { step with workflowId := "w-heavy", progressWeight := 2147483647 }

/-- An agent has reported the heavy action half done. -/
def halfway : Database :=
  after manager
    (after manager .empty (.createWorkflowWithRollback 0 heavy undo))
    (.updateAction "a-heavy" (.ack ⟨"a-heavy", Status.errorActionRunning, 50, ""⟩))

/-- The heavy workflow has no progress and cannot be deleted, and the workflow that would roll
it back has no progress, either. -/
theorem halfway_undefined : Reached manager halfway ∧
    (∃ w ∈ halfway.workflow, w.workflowId = "w-heavy" ∧ progressOf halfway w.workflowId = -1 ∧
      ¬Measured halfway w.workflowId (progressOf halfway w.workflowId) ∧
      ¬Archivable halfway w.workflowId (deleted halfway w.workflowId).1
        (deleted halfway w.workflowId).2) ∧
    ∃ w ∈ halfway.workflow, w.workflowId = "w-undo" ∧
      ¬Measured halfway w.workflowId (progressOf halfway w.workflowId) := by
  have stored : Reached manager (after manager .empty
      (.createWorkflowWithRollback 0 heavy undo)) :=
    .after .empty (.createWorkflowWithRollback 0 heavy undo) ⟨List.not_mem_nil, List.not_mem_nil⟩
  have reached : Reached manager halfway :=
    .after stored (.updateAction "a-heavy" _) trivial
  have forward : ∃ w ∈ halfway.workflow, w.workflowId = "w-heavy" ∧
      progressOf halfway w.workflowId = -1 ∧
      (deleted halfway w.workflowId).1 = Status.errorDbSelectFail := by decide
  have backward : ∃ w ∈ halfway.workflow, w.workflowId = "w-undo" ∧
      progressOf halfway w.workflowId = -1 := by decide
  obtain ⟨w, row, named, undefined, refused⟩ := forward
  obtain ⟨r, row', named', undefined'⟩ := backward
  refine ⟨reached, ⟨w, row, named, undefined, fun measured => ?_, fun archivable => ?_⟩,
    r, row', named', fun measured => ?_⟩
  · rw [undefined] at measured
    exact absurd measured.bounds.1 (by decide)
  · have success := archivable.success
    rw [refused] at success
    exact absurd success (by decide)
  · rw [undefined'] at measured
    exact absurd measured.bounds.1 (by decide)

end WorkflowProgress

end Tecs
