import Tecs.Workflow.PoolAnswers

set_option autoImplicit false

namespace Tecs

open Effect Program

/-- The statements that add rows to the pool. -/
def Statement.stores : Statement → Bool
  | .insertWorkflow _ => true
  | .insertAction _ => true
  | .insertSequence _ => true
  | _ => false

/-- What may change about the actions and their sequences once they are stored: rows
disappear, and actions become finished. -/
structure Database.Advances (db later : Database) : Prop where
  rows : ∀ a ∈ later.actionPool, ∃ old ∈ db.actionPool, old.actionId = a.actionId ∧
    old.workflowId = a.workflowId ∧ (old.finished = true → a.finished = true)
  sequences : later.actionSequences ⊆ db.actionSequences

namespace Database

theorem Advances.refl (db : Database) : db.Advances db :=
  ⟨fun a inside => ⟨a, inside, rfl, rfl, id⟩, fun _ inside => inside⟩

theorem Advances.trans {first second third : Database} (front : first.Advances second)
    (back : second.Advances third) : first.Advances third where
  rows := by
    intro a inside
    obtain ⟨middle, among, sameId, sameWorkflow, kept⟩ := back.rows a inside
    obtain ⟨old, stored, sameId', sameWorkflow', kept'⟩ := front.rows middle among
    exact ⟨old, stored, sameId'.trans sameId, sameWorkflow'.trans sameWorkflow,
      fun finished => kept (kept' finished)⟩
  sequences := fun _ inside => front.sequences (back.sequences inside)

theorem Advances.of_same {db later : Database} (actions : later.actionPool = db.actionPool)
    (sequences : later.actionSequences = db.actionSequences) : db.Advances later where
  rows := by
    rw [actions]
    exact (Advances.refl db).rows
  sequences := by
    rw [sequences]
    exact fun _ inside => inside

theorem insertHistory_advances {db later : Database} {row : WorkflowHistory}
    (done : db.insertHistory row = some later) : db.Advances later := by
  unfold insertHistory at done
  split at done
  · obtain rfl := Option.some.inj done
    exact .of_same rfl rfl
  · cases done

theorem updateRow_finished (actionId : String) (change : ActionChange) (a : Action)
    (finished : a.finished = true) : (updateRow actionId change a).finished = true := by
  unfold updateRow
  split
  · exact change.apply_finished a finished
  · exact finished

theorem updateAction_advances {db later : Database} {actionId : String} {change : ActionChange}
    (done : db.updateAction actionId change = some later) : db.Advances later := by
  unfold updateAction at done
  split at done
  · obtain rfl := Option.some.inj done
    refine ⟨fun a inside => ?_, fun _ inside => inside⟩
    obtain ⟨old, among, rfl⟩ := List.mem_map.mp inside
    exact ⟨old, among, (updateRow_actionId _ _ _).symm, (updateRow_workflowId _ _ _).symm,
      updateRow_finished actionId change old⟩
  · cases done

theorem deleteWorkflow_advances (db : Database) (workflowIds : List String) :
    db.Advances (db.deleteWorkflow workflowIds) where
  rows := fun a inside => ⟨a, (List.mem_filter.mp inside).1, rfl, rfl, id⟩
  sequences := fun _ inside => (List.mem_filter.mp inside).1

theorem execute_advances {db later : Database} {statement : Statement}
    (keeps : statement.stores = false) (done : db.execute statement = some later) :
    db.Advances later := by
  cases statement with
  | insertWorkflow => cases keeps
  | insertAction => cases keeps
  | insertSequence => cases keeps
  | insertHistory row => exact insertHistory_advances done
  | insertLabelsHistory =>
      obtain rfl := Option.some.inj done
      exact .refl db
  | updateAction actionId change => exact updateAction_advances done
  | updatePaused workflowId paused =>
      obtain rfl := Option.some.inj done
      exact .of_same rfl rfl
  | deleteWorkflow workflowIds =>
      obtain rfl := Option.some.inj done
      exact deleteWorkflow_advances db workflowIds

theorem executeTransaction_advances {batch : List Statement} :
    ∀ {db later : Database}, (∀ s ∈ batch, s.stores = false) →
      db.executeTransaction batch = some later → db.Advances later := by
  induction batch with
  | nil =>
      intro db later _ done
      obtain rfl := Option.some.inj done
      exact .refl db
  | cons s rest ih =>
      intro db later keeps done
      obtain ⟨middle, first, others⟩ := Option.bind_eq_some_iff.mp done
      have front := execute_advances (keeps s List.mem_cons_self) first
      exact front.trans (ih (fun x inside => keeps x (List.mem_cons_of_mem _ inside)) others)

end Database

/-! Every function of the pool and of its users except the engine's runs stores no rows,
sends no request and does not read the running actions. -/

def PoolCall.Quiet : PoolCall → Prop
  | .sql statement => statement.stores = false
  | .send (.request _ _) => False
  | .select (.runningActions _ _) => False
  | _ => True

/-- The calls of the pool's own functions, which do not leave the thread and its database. -/
def PoolCall.Inner : PoolCall → Prop
  | .sql statement => statement.stores = false
  | .select (.runningActions _ _) => False
  | .send _ => False
  | .wakeup _ _ => False
  | .request _ _ _ => False
  | .isLockWorkflow _ => False
  | .alternateEngine => False
  | _ => True

/-- The calls that only read. -/
def PoolCall.Reads : PoolCall → Prop
  | .select (.runningActions _ _) => False
  | .select _ => True
  | .transactionOn => True
  | .keyValue => True
  | _ => False

theorem PoolCall.Reads.inner {c : PoolCall} (reads : c.Reads) : c.Inner := by
  cases c with
  | select query =>
      cases query with
      | runningActions => exact reads
      | _ => trivial
  | transactionOn => trivial
  | keyValue => trivial
  | _ => exact False.elim reads

theorem PoolCall.Inner.quiet {c : PoolCall} (inner : c.Inner) : c.Quiet := by
  cases c with
  | sql statement => exact inner
  | select query =>
      cases query with
      | runningActions => exact inner
      | _ => trivial
  | send => exact False.elim inner
  | _ => trivial

def Quiet {α : Type} (p : Pool α) : Prop := p.Makes (S := pool) PoolCall.Quiet

def Reads {α : Type} (p : Pool α) : Prop := p.Makes (S := pool) PoolCall.Reads

def Inner {α : Type} (p : Pool α) : Prop := p.Makes (S := pool) PoolCall.Inner

theorem Inner.quiet {α : Type} {p : Pool α} (inner : Inner p) : Quiet p :=
  Makes.mono (fun _ => PoolCall.Inner.quiet) inner

theorem quiet_perform {c : PoolCall} (quiet : c.Quiet) :
    Quiet (Program.perform (S := pool) c) :=
  ⟨quiet, fun _ => trivial⟩

theorem Reads.inner {α : Type} {p : Pool α} (reads : Reads p) : Inner p :=
  Makes.mono (fun _ => PoolCall.Reads.inner) reads

theorem Reads.quiet {α : Type} {p : Pool α} (reads : Reads p) : Quiet p := reads.inner.quiet

theorem reads_perform {c : PoolCall} (reads : c.Reads) :
    Reads (Program.perform (S := pool) c) :=
  ⟨reads, fun _ => trivial⟩

theorem inner_perform {c : PoolCall} (inner : c.Inner) :
    Inner (Program.perform (S := pool) c) :=
  ⟨inner, fun _ => trivial⟩

namespace ActionPool

theorem reads_getWorkflowIdOfAction (id : String) : Reads (getWorkflowIdOfAction id) := by
  refine ⟨trivial, fun reply => ?_⟩
  cases reply <;> trivial

theorem reads_getUnfinishedActionsCount (id : String) : Reads (getUnfinishedActionsCount id) := by
  refine ⟨trivial, fun reply => ?_⟩
  cases reply <;> trivial

theorem reads_getActionState (id : String) : Reads (getActionState id) := by
  refine ⟨trivial, fun reply => ?_⟩
  cases reply <;> trivial

theorem reads_getWorkflowProgress (id : String) : Reads (getWorkflowProgress id) := by
  refine ⟨trivial, fun reply => ?_⟩
  cases reply <;> trivial

theorem reads_getRollbackWorkflow (id : String) : Reads (getRollbackWorkflow id) := by
  refine ⟨trivial, fun reply => ?_⟩
  cases reply <;> trivial

theorem reads_getWorkflowById (id : String) : Reads (getWorkflowById id) := by
  refine ⟨trivial, fun reply => ?_⟩
  cases reply <;> trivial

theorem reads_getEngineOfAction (id : String) : Reads (getEngineOfAction id) := by
  refine ⟨trivial, fun reply => ?_⟩
  cases reply <;> trivial

theorem reads_getEngineOfWorkflow (id : String) : Reads (getEngineOfWorkflow id) := by
  refine ⟨trivial, fun reply => ?_⟩
  cases reply <;> trivial

theorem reads_getAction (id : String) : Reads (getAction id) := by
  unfold getAction
  split
  · trivial
  · refine ⟨trivial, fun reply => ?_⟩
    cases reply <;> trivial

theorem inner_getRunningAction (engine : EngineWhere) (id : String) :
    Inner (getRunningAction engine id) := by
  refine ⟨trivial, fun reply => ?_⟩
  cases reply with
  | failed => trivial
  | empty => trivial
  | value actions =>
      show Inner (if actions.head? = some id then getAction id else return .error Status.error)
      split
      · exact (reads_getAction id).inner
      · trivial

theorem reads_isActionFinished (id : String) : Reads (isActionFinished id) := by
  refine ⟨trivial, fun reply => ?_⟩
  cases reply <;> trivial

theorem inner_update (statement : Statement) (keeps : statement.stores = false) :
    Inner (update statement) :=
  ⟨keeps, fun _ => trivial⟩

theorem inner_restartAction (id : String) : Inner (restartAction id) := by
  refine Makes.bind (reads_isActionFinished id).inner fun finished => ?_
  split
  · trivial
  · exact inner_update _ rfl

theorem inner_updateActionState (action : Action) : Inner (updateActionState action) := by
  refine Makes.bind (reads_getAction _).inner fun found => ?_
  cases found with
  | error => trivial
  | ok => exact inner_update _ rfl

theorem reads_stateOfFinished (id : String) (kv : List (String × String)) :
    Reads (stateOfFinished id kv) := by
  induction kv with
  | nil => trivial
  | cons entry kv ih =>
      unfold stateOfFinished
      split
      · refine Makes.bind (reads_getActionState _) fun found => ?_
        cases found with
        | error => trivial
        | ok state =>
            show Reads (if state = Status.success then stateOfFinished id kv else return .ok state)
            split
            · exact ih
            · trivial
      · exact ih

theorem reads_makeUnfinishedHistory (id : String) (history : WorkflowHistory) :
    Reads (makeUnfinishedHistory id history) := by
  refine Makes.bind (reads_getWorkflowProgress id) fun progress => ?_
  split
  · trivial
  · refine ⟨trivial, fun reply => ?_⟩
    cases reply <;> trivial

theorem reads_makeTransactionHistory (id : String) (history : WorkflowHistory) :
    Reads (makeTransactionHistory id history) := by
  refine Makes.bind (reads_perform trivial) fun kv : List (String × String) => ?_
  split
  · exact reads_makeUnfinishedHistory id history
  · refine Makes.bind (reads_stateOfFinished id kv) fun found => ?_
    cases found with
    | error => trivial
    | ok state =>
        show Reads (if state = Status.success then _ else _)
        split
        · trivial
        · exact reads_makeUnfinishedHistory id history

theorem reads_makeWorkflowHistory (id : String) (history : WorkflowHistory) :
    Reads (makeWorkflowHistory id history) := by
  refine Makes.bind (reads_getUnfinishedActionsCount id) fun count => ?_
  split
  · trivial
  · split
    · trivial
    · refine Makes.bind (reads_perform trivial) fun on : Bool => ?_
      split
      · exact reads_makeTransactionHistory id history
      · exact reads_makeUnfinishedHistory id history

theorem inner_saveWorkflowHistory (history : WorkflowHistory) :
    Inner (saveWorkflowHistory history) := by
  refine Makes.bind (inner_perform rfl) fun ret : Int => ?_
  split
  · exact Makes.bind (inner_perform rfl) fun _ => trivial
  · trivial

theorem inner_archiveWorkflow (history : WorkflowHistory) (ids : List String) :
    Inner (archiveWorkflow history ids) := by
  refine Makes.bind (inner_perform trivial) fun _ => ?_
  refine Makes.bind (inner_saveWorkflowHistory history) fun saved => ?_
  split
  · refine Makes.bind (inner_perform rfl) fun ret : Int => ?_
    split
    · exact inner_perform trivial
    · exact Makes.bind (inner_perform trivial) fun _ => trivial
  · exact Makes.bind (inner_perform trivial) fun _ => trivial

theorem reads_rollbackToDelete (id : String) (withRollback : Bool) :
    Reads (rollbackToDelete id withRollback) := by
  unfold rollbackToDelete
  split
  · exact reads_getRollbackWorkflow id
  · trivial

theorem inner_deleteWorkflow (id : String) (withRollback : Bool) :
    Inner (deleteWorkflow id withRollback) := by
  refine Makes.bind (reads_getWorkflowById id).inner fun found => ?_
  cases found with
  | error => trivial
  | ok row =>
      refine Makes.bind (reads_makeWorkflowHistory id _).inner fun made => ?_
      cases made with
      | error => trivial
      | ok history =>
          exact Makes.bind (reads_rollbackToDelete id withRollback).inner fun _ =>
            inner_archiveWorkflow history _

theorem inner_deleteAll (ids : List String) : Inner (deleteAll ids) := by
  induction ids with
  | nil => trivial
  | cons id rest ih => exact Makes.bind (inner_deleteWorkflow id true) fun _ => ih

theorem inner_deleteFinishedWorkflow (engine : EngineWhere) :
    Inner (deleteFinishedWorkflow engine) := by
  refine Makes.bind (inner_perform trivial) fun reply : Found (List String) => ?_
  cases reply with
  | failed => trivial
  | empty => trivial
  | value finished => exact Makes.bind (inner_deleteAll finished) fun _ => trivial

end ActionPool

open ActionPool

theorem reads_getWorkflow (id : String) : Reads (getWorkflow id) := by
  unfold getWorkflow
  split
  · exact Makes.bind (reads_getWorkflowIdOfAction id) fun _ => trivial
  · trivial

theorem reads_getWorkflowAndEngine (env : Process) (id : String) :
    Reads (getWorkflowAndEngine env id) := by
  refine Makes.bind (reads_getWorkflow id) fun found => ?_
  cases found with
  | error => trivial
  | ok workflowId => exact Makes.bind (reads_getEngineOfWorkflow workflowId) fun _ => trivial

theorem quiet_wakeupEngine (env : Process) (index : Int) (id : String) :
    Quiet (wakeupEngine env index id) := by
  unfold wakeupEngine
  split
  · trivial
  · exact ⟨trivial, fun _ => trivial⟩

theorem quiet_finishAction (env : Process) (id : String) : Quiet (finishAction env id) := by
  unfold finishAction
  split
  · trivial
  · refine Makes.bind (reads_getWorkflowIdOfAction id).quiet fun workflowId => ?_
    split
    · trivial
    · refine Makes.bind (reads_getUnfinishedActionsCount workflowId).quiet fun count => ?_
      split
      · trivial
      · split
        · trivial
        · refine Makes.bind (inner_update _ rfl).quiet fun ret => ?_
          split
          · trivial
          · split
            · refine Makes.bind (quiet_perform trivial) fun _ => ?_
              refine Makes.bind (quiet_perform trivial) fun _ => ?_
              refine Makes.bind (ActionPool.inner_deleteWorkflow workflowId true).quiet fun _ => ?_
              exact Makes.bind (quiet_perform trivial) fun _ => trivial
            · refine Makes.bind (reads_getEngineOfAction id).quiet fun engine => ?_
              split
              · trivial
              · split
                · trivial
                · exact quiet_wakeupEngine env engine workflowId

theorem quiet_restartAction (env : Process) (id : String) : Quiet (restartAction env id) := by
  unfold restartAction
  split
  · trivial
  · refine Makes.bind (ActionPool.inner_restartAction id).quiet fun ret => ?_
    split
    · trivial
    · refine Makes.bind (reads_getEngineOfAction id).quiet fun engine => ?_
      split
      · trivial
      · refine Makes.bind (reads_getWorkflowIdOfAction id).quiet fun workflowId => ?_
        split
        · trivial
        · exact quiet_wakeupEngine env engine workflowId

theorem quiet_pauseWorkflow (env : Process) (id : String) : Quiet (pauseWorkflow env id) := by
  refine Makes.bind (reads_getWorkflowAndEngine env id).quiet fun found => ?_
  cases found with
  | error => trivial
  | ok address => exact ⟨trivial, fun _ => trivial⟩

theorem quiet_resumeWorkflow (env : Process) (id : String) : Quiet (resumeWorkflow env id) := by
  refine Makes.bind (reads_getWorkflowAndEngine env id).quiet fun found => ?_
  cases found with
  | error => trivial
  | ok address => exact ⟨trivial, fun _ => trivial⟩

theorem quiet_deleteWorkflow (env : Process) (id : String) : Quiet (deleteWorkflow env id) := by
  refine Makes.bind (reads_getWorkflowAndEngine env id).quiet fun found => ?_
  cases found with
  | error => trivial
  | ok address =>
      refine Makes.bind (quiet_perform trivial) fun locked : Bool => ?_
      split
      · trivial
      · exact ⟨trivial, fun _ => trivial⟩

theorem quiet_rollbackWorkflow (env : Process) (id : String) :
    Quiet (rollbackWorkflow env id) := by
  refine Makes.bind (reads_getWorkflowAndEngine env id).quiet fun found => ?_
  cases found with
  | error => trivial
  | ok address =>
      refine Makes.bind (quiet_perform trivial) fun locked : Bool => ?_
      split
      · trivial
      · refine Makes.bind (reads_getRollbackWorkflow _).quiet fun rollbackId => ?_
        split
        · trivial
        · exact ⟨trivial, fun _ => trivial⟩

namespace WorkflowEngine

variable (env : Process) (engine : EngineWhere)

theorem quiet_finishAndWakeup (action : Action) : Quiet (finishAndWakeup env engine action) :=
  Makes.bind (quiet_finishAction env action.actionId) fun _ => ⟨trivial, fun _ => trivial⟩

theorem quiet_feedbackOrFinish (action : Action) (feedback : Int) :
    Quiet (feedbackOrFinish env engine action feedback) := by
  unfold feedbackOrFinish
  split
  · exact ⟨trivial, fun _ => trivial⟩
  · exact quiet_finishAndWakeup env engine action

theorem quiet_storeTimeout (action : Action) : Quiet (storeTimeout action) := by
  unfold storeTimeout
  split
  · exact (inner_updateActionState _).quiet
  · trivial

theorem quiet_feedbackTimeout (action : Action) :
    Quiet (feedbackTimeout env engine action) := by
  unfold feedbackTimeout
  split
  · exact quiet_perform trivial
  · exact quiet_finishAndWakeup env engine action

theorem quiet_doTimeout (action : Action) : Quiet (doTimeout env engine action) := by
  refine Makes.bind (quiet_storeTimeout action) fun _ => ?_
  exact Makes.bind (quiet_feedbackTimeout env engine _) fun _ => trivial

theorem quiet_rollback (id : String) : Quiet (rollback engine id) := by
  unfold rollback
  split
  · trivial
  · refine Makes.bind (reads_getRollbackWorkflow id).quiet fun rollbackId => ?_
    split
    · trivial
    · refine Makes.bind (quiet_perform trivial) fun _ => ?_
      refine Makes.bind (ActionPool.inner_deleteWorkflow id false).quiet fun _ => ?_
      refine Makes.bind (inner_update _ rfl).quiet fun _ => ?_
      refine Makes.bind (quiet_perform trivial) fun ret : Status => ?_
      split
      · trivial
      · exact quiet_perform trivial

/-- Acknowledgements lead to no request: a ready or running action is left alone. -/
theorem quiet_doAction_ack (action : Action) : Quiet (doAction env engine action .ack) := by
  unfold doAction
  dsimp only
  split
  · trivial
  · split
    · trivial
    · rename_i unasked
      split
      · rename_i ready
        exact absurd ⟨rfl, .inl ready⟩ unasked
      · rename_i running
        exact absurd ⟨rfl, .inr running⟩ unasked
      · exact Makes.bind (quiet_feedbackOrFinish env engine _ _) fun _ => trivial
      · exact Makes.bind (quiet_feedbackOrFinish env engine _ _) fun _ => trivial
      · exact quiet_doTimeout env engine action
      · trivial
      · trivial

theorem quiet_acknowledge (ack : WorkAck) (option : MessageOption) :
    Quiet (acknowledge env engine ack option) := by
  unfold acknowledge
  split
  · trivial
  · split
    · trivial
    · refine Makes.bind (inner_getRunningAction engine _).quiet fun found => ?_
      cases found with
      | error => trivial
      | ok action =>
          show Quiet (if _ then _ else _)
          split
          · trivial
          · refine Makes.bind (inner_updateActionState _).quiet fun _ => ?_
            exact Makes.bind (quiet_doAction_ack env engine _) fun _ => trivial

end WorkflowEngine

end Tecs
