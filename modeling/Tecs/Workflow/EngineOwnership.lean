import Tecs.Workflow.EngineAddress

set_option autoImplicit false

namespace Tecs

open Effect Program TransactionContext ActionPool

namespace EngineOwnership

/-- The engine exists and its selection clause covers the workflow. -/
def Owns (env : Process) (index : Int) (w : WorkflowRow) : Prop :=
  (0 ≤ index ∧ index < env.numberOfEngines) ∧
    (WorkflowEngine.engineWhere env index).covers w = true

/-- The row of a workflow of this process, as `CreateWorkflow` stores it. -/
structure Hosted (env : Process) (engine : Int) (db : Database) (w : WorkflowRow) : Prop where
  row : w ∈ db.workflow
  id : isWorkflowId w.workflowId = true
  application : w.application = env.application
  process : w.process = env.process
  engine : w.engine = engine

theorem Hosted.untagged {env : Process} {engine : Int} {db : Database} {w : WorkflowRow}
    (hosted : Hosted env engine db w) : isActionId w.workflowId = false := by
  have tagged := hosted.id
  unfold isWorkflowId hasTag at tagged
  unfold isActionId hasTag
  rw [beq_iff_eq.mp tagged]
  decide

theorem Hosted.nonempty {env : Process} {engine : Int} {db : Database} {w : WorkflowRow}
    (hosted : Hosted env engine db w) : w.workflowId ≠ "" := by
  intro empty
  have tagged := hosted.id
  rw [empty] at tagged
  exact absurd tagged (by decide)

/-- The index the selection clauses give the engine number of a workflow. -/
def owner (env : Process) (engine : Int) : Int := min engine (env.numberOfEngines - 1)

theorem owns_iff {env : Process} (positive : 1 ≤ env.numberOfEngines) {w : WorkflowRow}
    (application : w.application = env.application) (process : w.process = env.process)
    (stored : 0 ≤ w.engine) (index : Int) :
    Owns env index w ↔ index = owner env w.engine := by
  unfold Owns owner WorkflowEngine.engineWhere EngineWhere.covers
  simp only [application, process, beq_self_eq_true, Bool.true_and]
  by_cases last : index = env.numberOfEngines - 1
  · simp only [last, beq_self_eq_true, if_true, decide_eq_true_eq]
    omega
  · have other : (index == env.numberOfEngines - 1) = false := by simpa using last
    simp only [other, Bool.false_eq_true, if_false, beq_iff_eq]
    omega

theorem Hosted.stored {env : Process} {engine : Int} {db : Database} {w : WorkflowRow}
    (hosted : Hosted env engine db w) : 0 ≤ engine := by
  rw [← hosted.engine]
  exact db.engineCheck w hosted.row

theorem Hosted.owns_iff {env : Process} {engine : Int} {db : Database} {w : WorkflowRow}
    (hosted : Hosted env engine db w) (positive : 1 ≤ env.numberOfEngines) (index : Int) :
    Owns env index w ↔ index = owner env engine := by
  have stored : 0 ≤ w.engine := db.engineCheck w hosted.row
  rw [EngineOwnership.owns_iff positive hosted.application hosted.process stored, hosted.engine]

/-! What the pool can tell about a stored workflow. -/

/-- Tables in which the workflow, while it is there, has its engine, and its actions are
its own; `db` are the tables that tell which those are. -/
structure Keeps (db : Database) (w : WorkflowRow) (tables : Database) : Prop where
  engine : ∀ row ∈ tables.workflow, row.workflowId = w.workflowId → row.engine = w.engine
  actions : ∀ a ∈ tables.actionPool, (∃ b ∈ db.actionPool, b.actionId = a.actionId ∧
    b.workflowId = w.workflowId) → a.workflowId = w.workflowId

/-- The replies a thread can get: from any such tables, inside or outside a transaction,
from a database that serves the call or not. -/
def Served (db : Database) (w : WorkflowRow) (c : PoolCall) (reply : c.Reply) : Prop :=
  ∃ tables ctx tables' ctx', Keeps db w tables ∧ Answers c tables ctx reply tables' ctx'

/-- The ids users give for a workflow: its own or one of its actions'. -/
def Names (db : Database) (w : WorkflowRow) (id : String) : Prop :=
  id = w.workflowId ∨
    isActionId id = true ∧ ∃ a ∈ db.actionPool, a.actionId = id ∧ a.workflowId = w.workflowId

/-! Every outcome: the engine read for a stored workflow is its own. -/

section Outcomes

variable {env : Process} {engine : Int} {db : Database} {w : WorkflowRow} {State : Type}
  {answer : (c : PoolCall) → State → c.Reply × State}

theorem actionEngine_served {id : String} {e : Int}
    (named : ∃ a ∈ db.actionPool, a.actionId = id ∧ a.workflowId = w.workflowId)
    (served : Served db w (.select (.actionEngine id)) (.value e)) : e = w.engine := by
  obtain ⟨tables, ctx, tables', ctx', keeps, failed | read, -, -⟩ := served
  · cases failed
  · have read : Found.value e = tables.select (.actionEngine id) := read
    simp only [Database.select] at read
    cases found : tables.workflowActions.find? fun row => row.1.actionId == id with
    | none => rw [found] at read; cases read
    | some joined =>
        rw [found] at read
        cases read
        obtain ⟨row, inside, rfl, stored, owns⟩ := Database.workflowActions_find found
        exact keeps.engine _ stored (owns.trans (keeps.actions row inside named))

theorem workflowEngine_served {e : Int}
    (served : Served db w (.select (.workflowEngine w.workflowId)) (.value e)) :
    e = w.engine := by
  obtain ⟨tables, ctx, tables', ctx', keeps, failed | read, -, -⟩ := served
  · cases failed
  · have read : Found.value e = tables.select (.workflowEngine w.workflowId) := read
    simp only [Database.select] at read
    cases found : tables.workflowById w.workflowId with
    | none => rw [found] at read; cases read
    | some row =>
        rw [found] at read
        cases read
        obtain ⟨stored, named⟩ := Database.workflowById_eq_some.mp found
        exact keeps.engine row stored named

theorem actionWorkflow_served {id workflowId : String}
    (named : ∃ a ∈ db.actionPool, a.actionId = id ∧ a.workflowId = w.workflowId)
    (served : Served db w (.select (.actionWorkflow id)) (.value workflowId)) :
    workflowId = w.workflowId := by
  obtain ⟨tables, ctx, tables', ctx', keeps, failed | read, -, -⟩ := served
  · cases failed
  · have read : Found.value workflowId = tables.select (.actionWorkflow id) := read
    simp only [Database.select] at read
    cases found : tables.actionById id with
    | none => rw [found] at read; cases read
    | some row =>
        rw [found] at read
        cases read
        obtain ⟨stored, rfl⟩ := Database.actionById_eq_some.mp found
        exact keeps.actions row stored named

variable (served : ∀ c state, Served db w c (answer c state).1)

include served

theorem getEngineOfAction_engine {id : String}
    (named : ∃ a ∈ db.actionPool, a.actionId = id ∧ a.workflowId = w.workflowId) (state : State)
    (found : 0 ≤ ((getEngineOfAction id).exec (S := pool) answer state).1) :
    ((getEngineOfAction id).exec (S := pool) answer state).1 = w.engine := by
  have reply := served (.select (.actionEngine id)) state
  unfold getEngineOfAction Pool.select at *
  rw [perform_bind, exec_call] at *
  cases read : (answer (.select (.actionEngine id)) state).1 with
  | failed =>
      rw [read] at found
      exact absurd found (show ¬(0 : Int) ≤ -1 by decide)
  | empty =>
      rw [read] at found
      exact absurd found (show ¬(0 : Int) ≤ -2 by decide)
  | value e =>
      rw [read] at reply
      exact actionEngine_served named reply

theorem getEngineOfWorkflow_engine (state : State)
    (found : 0 ≤ ((getEngineOfWorkflow w.workflowId).exec (S := pool) answer state).1) :
    ((getEngineOfWorkflow w.workflowId).exec (S := pool) answer state).1 = w.engine := by
  have reply := served (.select (.workflowEngine w.workflowId)) state
  unfold getEngineOfWorkflow Pool.select at *
  rw [perform_bind, exec_call] at *
  cases read : (answer (.select (.workflowEngine w.workflowId)) state).1 with
  | failed =>
      rw [read] at found
      exact absurd found (show ¬(0 : Int) ≤ -1 by decide)
  | empty =>
      rw [read] at found
      exact absurd found (show ¬(0 : Int) ≤ -2 by decide)
  | value e =>
      rw [read] at reply
      exact workflowEngine_served reply

theorem getWorkflowIdOfAction_workflow {id : String}
    (named : ∃ a ∈ db.actionPool, a.actionId = id ∧ a.workflowId = w.workflowId) (state : State)
    (found : ((getWorkflowIdOfAction id).exec (S := pool) answer state).1 ≠ "") :
    ((getWorkflowIdOfAction id).exec (S := pool) answer state).1 = w.workflowId := by
  have reply := served (.select (.actionWorkflow id)) state
  unfold getWorkflowIdOfAction Pool.select at *
  rw [perform_bind, exec_call] at *
  cases read : (answer (.select (.actionWorkflow id)) state).1 with
  | failed =>
      rw [read] at found
      exact absurd rfl found
  | empty =>
      rw [read] at found
      exact absurd rfl found
  | value workflowId =>
      rw [read] at reply
      exact actionWorkflow_served named reply

theorem getWorkflow_workflow {id : String} (hosted : Hosted env engine db w)
    (named : Names db w id) (state : State) (workflowId : String)
    (found : ((getWorkflow id).exec (S := pool) answer state).1 = .ok workflowId) :
    workflowId = w.workflowId := by
  unfold getWorkflow at found
  rcases named with rfl | ⟨tagged, owned⟩
  · rw [hosted.untagged] at found
    exact (Except.ok.inj found).symm
  · rw [tagged, if_pos rfl, exec_bind] at found
    have read := getWorkflowIdOfAction_workflow served owned state
    split at found
    · cases found
    · rename_i nonempty
      rw [← Except.ok.inj found]
      exact read (by simpa using nonempty)

theorem getWorkflowAndEngine_owner {id : String} (hosted : Hosted env engine db w)
    (named : Names db w id) (state : State) (address : String × Int)
    (found : ((getWorkflowAndEngine env id).exec (S := pool) answer state).1 = .ok address) :
    address = (w.workflowId, owner env engine) := by
  unfold owner
  have workflow := getWorkflow_workflow served hosted named state
  unfold getWorkflowAndEngine at found
  rw [exec_bind] at found
  cases read : ((getWorkflow id).exec (S := pool) answer state).1 with
  | error ret =>
      rw [read] at found
      cases found
  | ok workflowId =>
      rw [read] at found
      obtain rfl := workflow _ read
      dsimp only at found
      rw [exec_bind] at found
      have engineRead := getEngineOfWorkflow_engine served
        ((getWorkflow id).exec (S := pool) answer state).2
      rw [hosted.engine] at engineRead
      split at found
      · cases found
      · rename_i known
        have equal := engineRead (Int.not_lt.mp known)
        split at found
        · obtain rfl := Except.ok.inj found
          congr 1
          omega
        · obtain rfl := Except.ok.inj found
          congr 1
          omega

theorem getEngineOfAction_owner {id : String} (hosted : Hosted env engine db w)
    (within : engine < env.numberOfEngines)
    (named : ∃ a ∈ db.actionPool, a.actionId = id ∧ a.workflowId = w.workflowId) (state : State)
    (found : 0 ≤ ((getEngineOfAction id).exec (S := pool) answer state).1) :
    ((getEngineOfAction id).exec (S := pool) answer state).1 = owner env engine := by
  have read := getEngineOfAction_engine served named state found
  rw [hosted.engine] at read
  unfold owner
  omega

theorem finishAction_toward {id : String} (hosted : Hosted env engine db w)
    (named : Names db w id) (within : engine < env.numberOfEngines) (state : State) :
    Toward answer (finishAction env id) state (owner env engine) := by
  unfold finishAction
  split
  · exact toward_inner trivial
  · rename_i tagged
    have owned : ∃ a ∈ db.actionPool, a.actionId = id ∧ a.workflowId = w.workflowId := by
      rcases named with rfl | ⟨-, owned⟩
      · exact absurd hosted.untagged (by simpa using tagged)
      · exact owned
    refine toward_bind (unaddressed_of_inner (reads_getWorkflowIdOfAction id).inner) ?_
    split
    · exact toward_inner trivial
    · refine toward_bind (unaddressed_of_inner (reads_getUnfinishedActionsCount _).inner) ?_
      split
      · exact toward_inner trivial
      · split
        · exact toward_inner trivial
        · refine toward_bind (unaddressed_of_inner (inner_update _ rfl)) ?_
          split
          · exact toward_inner trivial
          · split
            · refine toward_inner (Makes.bind (inner_perform trivial) fun _ => ?_)
              refine Makes.bind (inner_perform trivial) fun _ => ?_
              refine Makes.bind (inner_deleteWorkflow _ true) fun _ => ?_
              exact Makes.bind (inner_perform trivial) fun _ => trivial
            · refine toward_bind (unaddressed_of_inner (reads_getEngineOfAction id).inner) ?_
              split
              · exact toward_inner trivial
              · split
                · exact toward_inner trivial
                · exact toward_wakeupEngine
                    (getEngineOfAction_owner served hosted within owned _)

theorem restartAction_toward {id : String} (hosted : Hosted env engine db w)
    (named : Names db w id) (within : engine < env.numberOfEngines) (state : State) :
    Toward answer (restartAction env id) state (owner env engine) := by
  unfold restartAction
  split
  · exact toward_inner trivial
  · rename_i tagged
    have owned : ∃ a ∈ db.actionPool, a.actionId = id ∧ a.workflowId = w.workflowId := by
      rcases named with rfl | ⟨-, owned⟩
      · exact absurd hosted.untagged (by simpa using tagged)
      · exact owned
    refine toward_bind (unaddressed_of_inner (ActionPool.inner_restartAction id)) ?_
    split
    · exact toward_inner trivial
    · refine toward_bind (unaddressed_of_inner (reads_getEngineOfAction id).inner) ?_
      split
      · exact toward_inner trivial
      · refine toward_bind (unaddressed_of_inner (reads_getWorkflowIdOfAction id).inner) ?_
        split
        · exact toward_inner trivial
        · exact toward_wakeupEngine (getEngineOfAction_owner served hosted within owned _)

/-- The functions that send a request all go where `GetWorkflowAndEngine` tells them. -/
theorem request_toward {id : String} (hosted : Hosted env engine db w) (named : Names db w id)
    {rest : Except Status (String × Int) → Pool Status}
    (failed : ∀ ret state, Toward answer (rest (.error ret)) state (owner env engine))
    (sent : ∀ state, Toward answer (rest (.ok (w.workflowId, owner env engine))) state
      (owner env engine)) (state : State) :
    Toward answer (getWorkflowAndEngine env id >>= rest) state (owner env engine) := by
  refine toward_bind (unaddressed_of_inner (reads_getWorkflowAndEngine env id).inner) ?_
  have address := fun found =>
    getWorkflowAndEngine_owner served hosted named state found
  cases read : ((getWorkflowAndEngine env id).exec (S := pool) answer state).1 with
  | error ret => exact failed ret _
  | ok found =>
      rw [address found read]
      exact sent _

theorem resumeWorkflow_toward {id : String} (hosted : Hosted env engine db w)
    (named : Names db w id) (state : State) :
    Toward answer (resumeWorkflow env id) state (owner env engine) :=
  request_toward served hosted named (fun ret _ => toward_inner (p := return ret) trivial)
    (fun _ => toward_request) state

theorem deleteWorkflow_toward {id : String} (hosted : Hosted env engine db w)
    (named : Names db w id) (state : State) :
    Toward answer (deleteWorkflow env id) state (owner env engine) := by
  refine request_toward served hosted named (fun ret _ => toward_inner (p := return ret) trivial)
    (fun state => ?_) state
  refine toward_bind (unaddressed_isLockWorkflow _) ?_
  split
  · exact toward_inner trivial
  · exact toward_request

theorem rollbackWorkflow_toward {id : String} (hosted : Hosted env engine db w)
    (named : Names db w id) (state : State) :
    Toward answer (rollbackWorkflow env id) state (owner env engine) := by
  refine request_toward served hosted named (fun ret _ => toward_inner (p := return ret) trivial)
    (fun state => ?_) state
  refine toward_bind (unaddressed_isLockWorkflow _) ?_
  split
  · exact toward_inner trivial
  · refine toward_bind (unaddressed_of_inner (reads_getRollbackWorkflow _).inner) ?_
    split
    · exact toward_inner trivial
    · exact toward_request

end Outcomes

end EngineOwnership

end Tecs
