import Tecs.Workflow.Workflow

set_option autoImplicit false

namespace Tecs

/-- A row of the table `workflow`. -/
structure WorkflowRow where
  workflowId : String
  rollbackWorkflowId : String
  category : String
  name : String
  application : String
  process : String
  engine : Int
  paused : Bool
  upstreamSender : String
  upstreamActionId : String
  originator : String

/-- A row of the table `workflow_history`. -/
structure WorkflowHistory where
  workflowId : String
  rollbackWorkflowId : String
  category : String
  name : String
  application : String
  process : String
  state : Status
  detail : String
  progress : Int
  failedActionCategory : String
  failedActionName : String
  upstreamSender : String
  upstreamActionId : String
  originator : String

/-- The CHECK constraints of `action_pool` on the columns of the model. -/
structure Action.Checked (a : Action) : Prop where
  messageId : 0 < a.messageId
  successFeedback : 0 ≤ a.successFeedback
  failureFeedback : 0 ≤ a.failureFeedback
  timeoutFeedback : 0 ≤ a.timeoutFeedback
  progress : 0 ≤ a.progress ∧ a.progress ≤ 100
  progressWeight : 0 < a.progressWeight

instance (a : Action) : Decidable a.Checked :=
  decidable_of_iff (0 < a.messageId ∧ 0 ≤ a.successFeedback ∧ 0 ≤ a.failureFeedback ∧
      0 ≤ a.timeoutFeedback ∧ (0 ≤ a.progress ∧ a.progress ≤ 100) ∧ 0 < a.progressWeight)
    ⟨fun ⟨h1, h2, h3, h4, h5, h6⟩ => ⟨h1, h2, h3, h4, h5, h6⟩,
      fun ⟨h1, h2, h3, h4, h5, h6⟩ => ⟨h1, h2, h3, h4, h5, h6⟩⟩

/-- The workflow tables with their primary keys, foreign keys and checks. -/
structure Database where
  workflow : List WorkflowRow
  actionPool : List Action
  actionSequences : List ActionSequence
  workflowHistory : List WorkflowHistory
  workflowKey : (workflow.map WorkflowRow.workflowId).Nodup
  actionKey : (actionPool.map Action.actionId).Nodup
  sequenceKey : actionSequences.Nodup
  historyKey : (workflowHistory.map WorkflowHistory.workflowId).Nodup
  actionWorkflow : ∀ a ∈ actionPool, a.workflowId ∈ workflow.map WorkflowRow.workflowId
  sequenceActions : ∀ s ∈ actionSequences, s.actionPrev ∈ actionPool.map Action.actionId ∧
    s.actionNext ∈ actionPool.map Action.actionId
  engineCheck : ∀ w ∈ workflow, 0 ≤ w.engine
  actionCheck : ∀ a ∈ actionPool, a.Checked
  sequenceCheck : ∀ s ∈ actionSequences, s.actionPrev ≠ s.actionNext
  historyCheck : ∀ h ∈ workflowHistory, 0 ≤ h.progress ∧ h.progress ≤ 100

/-- What an UPDATE of `action_pool` sets. -/
inductive ActionChange
  | finish
  | restart
  | state (action : Action)
  | ack (messageAck : WorkAck)
  | historyRepeatCount (count : Int)
  | skipped (flag : Bool)

def ActionChange.apply (a : Action) : ActionChange → Action
  | .finish => { a with finished := true, progress := 100 }
  | .restart => { a with progress := 0, state := Status.errorActionRunning }
  | .state action =>
      { a with
        messageAckId := action.messageAckId
        messageAckPriority := action.messageAckPriority
        messageAckVersion := action.messageAckVersion
        messageAck := action.messageAck
        state := action.state
        progress := action.progress
        historyRepeatCount := action.historyRepeatCount }
  | .ack messageAck =>
      { a with messageAck := messageAck, state := messageAck.state, progress :=
        messageAck.progress }
  | .historyRepeatCount count => { a with historyRepeatCount := count }
  | .skipped flag => { a with skipped := flag }

@[simp] theorem ActionChange.apply_actionId (a : Action) (change : ActionChange) :
    (change.apply a).actionId = a.actionId := by
  cases change <;> rfl

@[simp] theorem ActionChange.apply_workflowId (a : Action) (change : ActionChange) :
    (change.apply a).workflowId = a.workflowId := by
  cases change <;> rfl

/-- No update takes a finished action back. -/
theorem ActionChange.apply_finished (a : Action) (change : ActionChange)
    (finished : a.finished = true) : (change.apply a).finished = true := by
  cases change <;> first | exact finished | rfl

/-- The statements the modelled functions issue. -/
inductive Statement
  | insertWorkflow (row : WorkflowRow)
  | insertAction (row : Action)
  | insertSequence (row : ActionSequence)
  | insertHistory (row : WorkflowHistory)
  | insertLabelsHistory (workflowId : String)
  | updateAction (actionId : String) (change : ActionChange)
  | updatePaused (workflowId : String) (paused : Bool)
  | deleteWorkflow (workflowIds : List String)

namespace Database

theorem historyCheck_nil : ∀ h ∈ ([] : List WorkflowHistory), 0 ≤ h.progress ∧ h.progress ≤ 100 :=
  fun _ none => absurd none List.not_mem_nil

def empty : Database where
  workflow := []
  actionPool := []
  actionSequences := []
  workflowHistory := []
  workflowKey := List.nodup_nil
  actionKey := List.nodup_nil
  sequenceKey := List.nodup_nil
  historyKey := List.nodup_nil
  actionWorkflow := fun _ none => absurd none List.not_mem_nil
  sequenceActions := Workflow.joined_nil
  engineCheck := fun _ none => absurd none List.not_mem_nil
  actionCheck := fun _ none => absurd none List.not_mem_nil
  sequenceCheck := fun _ none => absurd none List.not_mem_nil
  historyCheck := historyCheck_nil

private theorem nodup_map_snoc {α : Type} {key : α → String} {rows : List α} {row : α}
    (keys : (rows.map key).Nodup) (fresh : key row ∉ rows.map key) :
    ((rows ++ [row]).map key).Nodup := by
  rw [List.map_append, List.nodup_append]
  refine ⟨keys, List.nodup_singleton _, ?_⟩
  rintro id inside other last rfl
  obtain rfl := List.mem_singleton.mp last
  exact fresh inside

private theorem forall_mem_snoc {α : Type} {holds : α → Prop} {rows : List α} {row : α}
    (all : ∀ x ∈ rows, holds x) (new : holds row) : ∀ x ∈ rows ++ [row], holds x := by
  intro x inside
  rcases List.mem_append.mp inside with inside | last
  · exact all x inside
  · obtain rfl := List.mem_singleton.mp last
    exact new

def insertWorkflow (db : Database) (row : WorkflowRow) : Option Database :=
  if check : row.workflowId ∉ db.workflow.map WorkflowRow.workflowId ∧ 0 ≤ row.engine then
    some
      { db with
        workflow := db.workflow ++ [row]
        workflowKey := nodup_map_snoc db.workflowKey check.1
        engineCheck := forall_mem_snoc db.engineCheck check.2
        actionWorkflow := by
          intro a inside
          rw [List.map_append]
          exact List.mem_append_left _ (db.actionWorkflow a inside) }
  else none

/-- The columns `InsertAction` leaves out keep their defaults. -/
def stored (row : Action) : Action :=
  { row with
    messageAck := ⟨"", Status.error, 0, ""⟩
    messageAckId := 0
    messageAckPriority := 0
    messageAckVersion := 0 }

def insertAction (db : Database) (row : Action) : Option Database :=
  if check : row.actionId ∉ db.actionPool.map Action.actionId ∧
      row.workflowId ∈ db.workflow.map WorkflowRow.workflowId ∧ row.Checked then
    some
      { db with
        actionPool := db.actionPool ++ [stored row]
        actionKey := nodup_map_snoc db.actionKey check.1
        actionWorkflow := forall_mem_snoc db.actionWorkflow check.2.1
        actionCheck := forall_mem_snoc db.actionCheck
          ⟨check.2.2.1, check.2.2.2, check.2.2.3, check.2.2.4, check.2.2.5, check.2.2.6⟩
        sequenceActions := by
          intro s inside
          have ends := db.sequenceActions s inside
          rw [List.map_append]
          exact ⟨List.mem_append_left _ ends.1, List.mem_append_left _ ends.2⟩ }
  else none

def insertSequence (db : Database) (row : ActionSequence) : Option Database :=
  if check : row ∉ db.actionSequences ∧
      (row.actionPrev ∈ db.actionPool.map Action.actionId ∧
        row.actionNext ∈ db.actionPool.map Action.actionId) ∧
      row.actionPrev ≠ row.actionNext then
    some
      { db with
        actionSequences := db.actionSequences ++ [row]
        sequenceKey := by
          rw [List.nodup_append]
          refine ⟨db.sequenceKey, List.nodup_singleton _, ?_⟩
          rintro s inside other last rfl
          obtain rfl := List.mem_singleton.mp last
          exact check.1 inside
        sequenceActions := forall_mem_snoc db.sequenceActions check.2.1
        sequenceCheck := forall_mem_snoc db.sequenceCheck check.2.2 }
  else none

def insertHistory (db : Database) (row : WorkflowHistory) : Option Database :=
  if check : row.workflowId ∉ db.workflowHistory.map WorkflowHistory.workflowId ∧
      (0 ≤ row.progress ∧ row.progress ≤ 100) then
    some
      { db with
        workflowHistory := db.workflowHistory ++ [row]
        historyKey := nodup_map_snoc db.historyKey check.1
        historyCheck := forall_mem_snoc db.historyCheck check.2 }
  else none

/-- One row of `action_pool` under an UPDATE with `WHERE action_id = …`. -/
def updateRow (actionId : String) (change : ActionChange) (a : Action) : Action :=
  if a.actionId = actionId then change.apply a else a

@[simp] theorem updateRow_actionId (actionId : String) (change : ActionChange) (a : Action) :
    (updateRow actionId change a).actionId = a.actionId := by
  unfold updateRow
  split
  · exact change.apply_actionId a
  · rfl

@[simp] theorem updateRow_workflowId (actionId : String) (change : ActionChange) (a : Action) :
    (updateRow actionId change a).workflowId = a.workflowId := by
  unfold updateRow
  split
  · exact change.apply_workflowId a
  · rfl

theorem map_updateRow (actionId : String) (change : ActionChange) (rows : List Action) :
    (rows.map (updateRow actionId change)).map Action.actionId = rows.map Action.actionId := by
  simp [List.map_map, Function.comp_def]

def updateAction (db : Database) (actionId : String) (change : ActionChange) : Option Database :=
  if check : ∀ a ∈ db.actionPool.map (updateRow actionId change), a.Checked then
    some
      { db with
        actionPool := db.actionPool.map (updateRow actionId change)
        actionKey := by
          rw [map_updateRow]
          exact db.actionKey
        actionWorkflow := by
          intro a inside
          obtain ⟨old, among, rfl⟩ := List.mem_map.mp inside
          rw [updateRow_workflowId]
          exact db.actionWorkflow old among
        sequenceActions := by
          rw [map_updateRow]
          exact db.sequenceActions
        actionCheck := check }
  else none

/-- The updates that finish or restart an action pass the checks of the table. -/
theorem updateAction_done (db : Database) {change : ActionChange}
    (checked : ∀ a : Action, a.Checked → (change.apply a).Checked) (id : String) :
    ∃ next, db.updateAction id change = some next ∧
      next.actionPool = db.actionPool.map (updateRow id change) ∧
      next.workflow = db.workflow := by
  have check : ∀ a ∈ db.actionPool.map (updateRow id change), a.Checked := by
    intro a inside
    obtain ⟨old, among, rfl⟩ := List.mem_map.mp inside
    unfold updateRow
    split
    · exact checked old (db.actionCheck old among)
    · exact db.actionCheck old among
  unfold updateAction
  rw [dif_pos check]
  exact ⟨_, rfl, rfl, rfl⟩

theorem finish_checked (a : Action) (checked : a.Checked) :
    (ActionChange.finish.apply a).Checked :=
  { checked with progress := ⟨by simp [ActionChange.apply], Int.le_refl 100⟩ }

theorem restart_checked (a : Action) (checked : a.Checked) :
    (ActionChange.restart.apply a).Checked :=
  { checked with progress := ⟨Int.le_refl 0, by simp [ActionChange.apply]⟩ }

def pauseRow (workflowId : String) (paused : Bool) (w : WorkflowRow) : WorkflowRow :=
  if w.workflowId = workflowId then { w with paused := paused } else w

@[simp] theorem pauseRow_workflowId (workflowId : String) (paused : Bool) (w : WorkflowRow) :
    (pauseRow workflowId paused w).workflowId = w.workflowId := by
  unfold pauseRow
  split <;> rfl

@[simp] theorem pauseRow_engine (workflowId : String) (paused : Bool) (w : WorkflowRow) :
    (pauseRow workflowId paused w).engine = w.engine := by
  unfold pauseRow
  split <;> rfl

theorem map_pauseRow (workflowId : String) (paused : Bool) (rows : List WorkflowRow) :
    (rows.map (pauseRow workflowId paused)).map WorkflowRow.workflowId =
      rows.map WorkflowRow.workflowId := by
  simp [List.map_map, Function.comp_def]

def updatePaused (db : Database) (workflowId : String) (paused : Bool) : Database :=
  { db with
    workflow := db.workflow.map (pauseRow workflowId paused)
    workflowKey := by
      rw [map_pauseRow]
      exact db.workflowKey
    actionWorkflow := by
      rw [map_pauseRow]
      exact db.actionWorkflow
    engineCheck := by
      intro w inside
      obtain ⟨old, among, rfl⟩ := List.mem_map.mp inside
      rw [pauseRow_engine]
      exact db.engineCheck old among }

/-- `ON DELETE CASCADE`: the actions go with their workflow, the sequences with their actions. -/
def deleteWorkflow (db : Database) (workflowIds : List String) : Database :=
  let actions := db.actionPool.filter fun a => decide (a.workflowId ∉ workflowIds)
  { db with
    workflow := db.workflow.filter fun w => decide (w.workflowId ∉ workflowIds)
    actionPool := actions
    actionSequences := db.actionSequences.filter fun s =>
      decide (s.actionPrev ∈ actions.map Action.actionId ∧
        s.actionNext ∈ actions.map Action.actionId)
    workflowKey := db.workflowKey.sublist (List.filter_sublist.map _)
    actionKey := db.actionKey.sublist (List.filter_sublist.map _)
    sequenceKey := db.sequenceKey.filter _
    actionWorkflow := by
      intro a inside
      obtain ⟨among, kept⟩ := List.mem_filter.mp inside
      obtain ⟨w, row, same⟩ := List.mem_map.mp (db.actionWorkflow a among)
      refine List.mem_map.mpr ⟨w, List.mem_filter.mpr ⟨row, ?_⟩, same⟩
      rw [same]
      exact kept
    sequenceActions := by
      intro s inside
      exact of_decide_eq_true (List.mem_filter.mp inside).2
    engineCheck := fun w inside => db.engineCheck w (List.mem_filter.mp inside).1
    actionCheck := fun a inside => db.actionCheck a (List.mem_filter.mp inside).1
    sequenceCheck := fun s inside => db.sequenceCheck s (List.mem_filter.mp inside).1 }

/-- One statement; none when a constraint refuses it. -/
def execute (db : Database) : Statement → Option Database
  | .insertWorkflow row => db.insertWorkflow row
  | .insertAction row => db.insertAction row
  | .insertSequence row => db.insertSequence row
  | .insertHistory row => db.insertHistory row
  | .insertLabelsHistory _ => some db
  | .updateAction actionId change => db.updateAction actionId change
  | .updatePaused workflowId paused => some (db.updatePaused workflowId paused)
  | .deleteWorkflow workflowIds => some (db.deleteWorkflow workflowIds)

/-- `ExecuteTransaction`: all statements, or none. -/
def executeTransaction (db : Database) : List Statement → Option Database
  | [] => some db
  | s :: rest => (db.execute s).bind fun next => next.executeTransaction rest

theorem executeTransaction_append (front back : List Statement) : ∀ db : Database,
    db.executeTransaction (front ++ back) =
      (db.executeTransaction front).bind fun next => next.executeTransaction back := by
  induction front with
  | nil => exact fun db => rfl
  | cons s rest ih =>
      intro db
      simp only [List.cons_append, executeTransaction, ih, Option.bind_assoc]

/-! The views. -/

def workflowOf (db : Database) (a : Action) : Option WorkflowRow :=
  db.workflow.find? fun w => w.workflowId == a.workflowId

/-- `workflow_actions`: an action with the engine and the pause flag of its workflow. -/
def joined (a : Action) (w : WorkflowRow) : Action :=
  { a with workflowEngine := w.engine, workflowPaused := w.paused }

def workflowActions (db : Database) : List (Action × WorkflowRow) :=
  db.actionPool.filterMap fun a => (db.workflowOf a).map fun w => (joined a w, w)

def validActionSequences (db : Database) : List ActionSequence :=
  db.actionSequences.filter fun s =>
    db.actionPool.any fun a => a.actionId == s.actionPrev && !a.finished

/-- The actions of the outer join that no valid sequence leads to. -/
def ready (db : Database) (a : Action) : Bool :=
  db.validActionSequences.all (fun s => s.actionNext != a.actionId) && !a.finished

def runningActions (db : Database) : List (Action × WorkflowRow) :=
  db.workflowActions.filter fun row => db.ready row.1 && !row.2.paused

def actionsOf (db : Database) (workflowId : String) : List Action :=
  db.actionPool.filter fun a => a.workflowId == workflowId

/-- `workflow_progress`; division as SQL divides integers. -/
def workflowProgress (db : Database) (workflowId : String) : Int :=
  let rows := db.actionsOf workflowId
  (rows.map fun a : Action => a.progress * a.progressWeight).sum.tdiv
    (rows.map Action.progressWeight).sum

theorem weighted_bounds {actions : List Action} (checked : ∀ a ∈ actions, a.Checked) :
    0 ≤ (actions.map Action.progressWeight).sum ∧
      0 ≤ (actions.map fun a : Action => a.progress * a.progressWeight).sum ∧
      (actions.map fun a : Action => a.progress * a.progressWeight).sum ≤
        100 * (actions.map Action.progressWeight).sum := by
  induction actions with
  | nil => decide
  | cons a rest ih =>
      have here := checked a List.mem_cons_self
      have others := ih fun b inside => checked b (List.mem_cons_of_mem _ inside)
      have weight := Int.le_of_lt here.progressWeight
      have low : 0 ≤ a.progress * a.progressWeight := Int.mul_nonneg here.progress.1 weight
      have high : a.progress * a.progressWeight ≤ 100 * a.progressWeight :=
        Int.mul_le_mul_of_nonneg_right here.progress.2 weight
      simp only [List.map_cons, List.sum_cons]
      omega

/-- The progress of a workflow is one of its history: the weights are positive. -/
theorem workflowProgress_bounds (db : Database) (workflowId : String) :
    0 ≤ db.workflowProgress workflowId ∧ db.workflowProgress workflowId ≤ 100 := by
  have bounds := weighted_bounds fun a (inside : a ∈ db.actionsOf workflowId) =>
    db.actionCheck a (List.mem_of_mem_filter inside)
  unfold workflowProgress
  dsimp only
  generalize ((db.actionsOf workflowId).map Action.progressWeight).sum = weights at bounds ⊢
  obtain ⟨weight, low, high⟩ := bounds
  refine ⟨Int.tdiv_nonneg low weight, ?_⟩
  by_cases none : weights = 0
  · rw [none, Int.tdiv_zero]
    decide
  · rw [Int.tdiv_eq_ediv_of_nonneg low]
    exact Int.ediv_le_of_le_mul (by omega) high

def unfinished (db : Database) (workflowId : String) : List Action :=
  (db.actionsOf workflowId).filter fun a => !a.finished

theorem mem_actionsOf {db : Database} {workflowId : String} {a : Action} :
    a ∈ db.actionsOf workflowId ↔ a ∈ db.actionPool ∧ a.workflowId = workflowId := by
  simp [actionsOf]

theorem mem_unfinished {db : Database} {workflowId : String} {a : Action} :
    a ∈ db.unfinished workflowId ↔
      a ∈ db.actionPool ∧ a.workflowId = workflowId ∧ a.finished = false := by
  simp [unfinished, mem_actionsOf, and_assoc]

end Database

end Tecs
