import Tecs.Workflow.EngineRuns

set_option autoImplicit false

namespace Tecs

open Effect Program TransactionContext

namespace ActionAcks

/-! Progress is 100 exactly in the state of success. -/

def Agree (progress : Int) (state : Status) : Prop := progress = 100 ↔ state = Status.success

instance (progress : Int) (state : Status) : Decidable (Agree progress state) :=
  inferInstanceAs (Decidable (_ ↔ _))

def Agreed (db : Database) : Prop :=
  ∀ a ∈ db.actionPool, a.finished = false → Agree a.progress a.state

/-- The `SkyAssert`s that `GetActionState` meets on its way. -/
def assertions (action : Action) : Bool :=
  if action.workflowPaused then true
  else if action.finished then true
  else if action.progress = 100 then action.state = Status.success
  else if !action.synchronous && action.state ≠ Status.errorActionReady then true
  else if action.state = Status.errorActionTimeout then decide (action.progress < 100)
  else if action.state ≠ Status.success ∧ action.state ≠ Status.errorActionReady ∧
      action.state ≠ Status.errorActionRunning then decide (action.progress < 100)
  else true

theorem assertions_of_agree {action : Action} (bound : action.progress ≤ 100)
    (agree : action.finished = false → Agree action.progress action.state) :
    assertions action = true := by
  have below : action.progress ≠ 100 → action.progress < 100 := by omega
  unfold assertions
  split
  · rfl
  · split
    · rfl
    · rename_i open_
      split
      · rename_i full
        exact decide_eq_true ((agree (Bool.eq_false_of_not_eq_true open_)).mp full)
      · rename_i partly
        have less : decide (action.progress < 100) = true := decide_eq_true (below partly)
        split
        · rfl
        · split
          · exact less
          · split
            · exact less
            · rfl

/-! What the statements write. -/

def ActionChange.Agrees : ActionChange → Prop
  | .state action => Agree action.progress action.state
  | .ack messageAck => Agree messageAck.progress messageAck.state
  | _ => True

def Statement.Agrees : Statement → Prop
  | .insertAction row => row.finished = false → Agree row.progress row.state
  | .updateAction _ change => ActionChange.Agrees change
  | _ => True

theorem apply_agree {change : ActionChange} (agrees : ActionChange.Agrees change) {a : Action}
    (agree : a.finished = false → Agree a.progress a.state)
    (open_ : (change.apply a).finished = false) :
    Agree (change.apply a).progress (change.apply a).state := by
  cases change with
  | finish => cases open_
  | restart =>
      show Agree 0 Status.errorActionRunning
      decide
  | state action => exact agrees
  | ack messageAck => exact agrees
  | historyRepeatCount count => exact agree open_
  | skipped flag => exact agree open_

theorem execute_agreed {db later : Database} {s : Statement} (agrees : Statement.Agrees s)
    (agreed : Agreed db) (done : db.execute s = some later) : Agreed later := by
  cases s with
  | insertWorkflow row =>
      simp only [Database.execute, Database.insertWorkflow] at done
      split at done
      · obtain rfl := Option.some.inj done
        exact agreed
      · cases done
  | insertAction row =>
      simp only [Database.execute, Database.insertAction] at done
      split at done
      · obtain rfl := Option.some.inj done
        intro a inside open_
        rcases List.mem_append.mp inside with inside | last
        · exact agreed a inside open_
        · obtain rfl := List.mem_singleton.mp last
          exact agrees open_
      · cases done
  | insertSequence row =>
      simp only [Database.execute, Database.insertSequence] at done
      split at done
      · obtain rfl := Option.some.inj done
        exact agreed
      · cases done
  | insertHistory row =>
      simp only [Database.execute, Database.insertHistory] at done
      split at done
      · obtain rfl := Option.some.inj done
        exact agreed
      · cases done
  | insertLabelsHistory =>
      obtain rfl := Option.some.inj done
      exact agreed
  | updateAction actionId change =>
      simp only [Database.execute, Database.updateAction] at done
      split at done
      · obtain rfl := Option.some.inj done
        intro a inside
        obtain ⟨old, among, rfl⟩ := List.mem_map.mp inside
        unfold Database.updateRow
        split
        · exact apply_agree agrees (agreed old among)
        · exact agreed old among
      · cases done
  | updatePaused workflowId paused =>
      obtain rfl := Option.some.inj done
      exact agreed
  | deleteWorkflow workflowIds =>
      obtain rfl := Option.some.inj done
      exact fun a inside => agreed a (List.mem_of_mem_filter inside)

theorem executeTransaction_agreed {batch : List Statement} :
    ∀ {db later : Database}, (∀ s ∈ batch, Statement.Agrees s) → Agreed db →
      db.executeTransaction batch = some later → Agreed later := by
  induction batch with
  | nil =>
      intro db later _ agreed done
      obtain rfl := Option.some.inj done
      exact agreed
  | cons s rest ih =>
      intro db later agrees agreed done
      obtain ⟨middle, first, others⟩ := Option.bind_eq_some_iff.mp done
      exact ih (fun x inside => agrees x (List.mem_cons_of_mem _ inside))
        (execute_agreed (agrees s List.mem_cons_self) agreed first) others

/-! The programs: whatever the engine reads, what it writes agrees. -/

def PoolCall.Agrees : PoolCall → Prop
  | .sql statement => Statement.Agrees statement
  | _ => True

def Writes {α : Type} (p : Pool α) : Prop := p.Makes (S := pool) PoolCall.Agrees

theorem writes_of_reads {α : Type} {p : Pool α} (reads : Reads p) : Writes p := by
  refine Makes.mono (fun c permitted => ?_) reads
  cases c with
  | sql => exact False.elim permitted
  | _ => trivial

theorem writes_perform {c : PoolCall} (agrees : PoolCall.Agrees c) :
    Writes (Program.perform (S := pool) c) :=
  ⟨agrees, fun _ => trivial⟩

theorem writes_update (statement : Statement) (agrees : Statement.Agrees statement) :
    Writes (ActionPool.update statement) :=
  ⟨agrees, fun _ => trivial⟩

theorem writes_saveWorkflowHistory (history : WorkflowHistory) :
    Writes (ActionPool.saveWorkflowHistory history) := by
  refine Makes.bind (writes_perform trivial) fun ret : Int => ?_
  split
  · exact Makes.bind (writes_perform trivial) fun _ => trivial
  · trivial

theorem writes_archiveWorkflow (history : WorkflowHistory) (ids : List String) :
    Writes (ActionPool.archiveWorkflow history ids) := by
  refine Makes.bind (writes_perform trivial) fun _ => ?_
  refine Makes.bind (writes_saveWorkflowHistory history) fun saved => ?_
  split
  · refine Makes.bind (writes_perform trivial) fun ret : Int => ?_
    split
    · exact writes_perform trivial
    · exact Makes.bind (writes_perform trivial) fun _ => trivial
  · exact Makes.bind (writes_perform trivial) fun _ => trivial

theorem writes_deleteWorkflow (id : String) (withRollback : Bool) :
    Writes (ActionPool.deleteWorkflow id withRollback) := by
  refine Makes.bind (writes_of_reads (ActionPool.reads_getWorkflowById id)) fun found => ?_
  cases found with
  | error => trivial
  | ok row =>
      refine Makes.bind (writes_of_reads (ActionPool.reads_makeWorkflowHistory id _))
        fun made => ?_
      cases made with
      | error => trivial
      | ok history =>
          exact Makes.bind (writes_of_reads (ActionPool.reads_rollbackToDelete id withRollback))
            fun _ => writes_archiveWorkflow history _

theorem writes_deleteFinishedWorkflow (engine : EngineWhere) :
    Writes (ActionPool.deleteFinishedWorkflow engine) := by
  refine Makes.bind (writes_perform trivial) fun reply : Found (List String) => ?_
  cases reply with
  | failed => trivial
  | empty => trivial
  | value finished =>
      have all : Writes (ActionPool.deleteAll finished) := by
        induction finished with
        | nil => trivial
        | cons id rest ih => exact Makes.bind (writes_deleteWorkflow id true) fun _ => ih
      exact Makes.bind all fun _ => trivial

theorem writes_updateActionState {action : Action} (agree : Agree action.progress action.state) :
    Writes (ActionPool.updateActionState action) := by
  refine Makes.bind (writes_of_reads (ActionPool.reads_getAction _)) fun found => ?_
  cases found with
  | error => trivial
  | ok => exact writes_update _ agree

theorem writes_wakeupEngine (env : Process) (index : Int) (id : String) :
    Writes (wakeupEngine env index id) := by
  unfold wakeupEngine
  split
  · trivial
  · exact writes_perform trivial

theorem writes_finishAction (env : Process) (id : String) : Writes (finishAction env id) := by
  unfold finishAction
  split
  · trivial
  · refine Makes.bind (writes_of_reads (ActionPool.reads_getWorkflowIdOfAction id))
      fun workflowId => ?_
    split
    · trivial
    · refine Makes.bind (writes_of_reads (ActionPool.reads_getUnfinishedActionsCount workflowId))
        fun count => ?_
      split
      · trivial
      · split
        · trivial
        · refine Makes.bind (writes_update _ trivial) fun ret => ?_
          split
          · trivial
          · split
            · refine Makes.bind (writes_perform trivial) fun _ => ?_
              refine Makes.bind (writes_perform trivial) fun _ => ?_
              refine Makes.bind (writes_deleteWorkflow workflowId true) fun _ => ?_
              exact Makes.bind (writes_perform trivial) fun _ => trivial
            · refine Makes.bind (writes_of_reads (ActionPool.reads_getEngineOfAction id))
                fun engine => ?_
              split
              · trivial
              · split
                · trivial
                · exact writes_wakeupEngine env engine workflowId

theorem writes_restartAction (env : Process) (id : String) : Writes (restartAction env id) := by
  have restarted : Writes (ActionPool.restartAction id) := by
    refine Makes.bind (writes_of_reads (ActionPool.reads_isActionFinished id)) fun finished => ?_
    split
    · trivial
    · exact writes_update _ trivial
  unfold restartAction
  split
  · trivial
  · refine Makes.bind restarted fun ret => ?_
    split
    · trivial
    · refine Makes.bind (writes_of_reads (ActionPool.reads_getEngineOfAction id)) fun engine => ?_
      split
      · trivial
      · refine Makes.bind (writes_of_reads (ActionPool.reads_getWorkflowIdOfAction id))
          fun workflowId => ?_
        split
        · trivial
        · exact writes_wakeupEngine env engine workflowId

/-- The one writer that stores what its caller passes. -/
theorem writes_updateActionAck (id : String) {ack : WorkAck}
    (agree : Agree ack.progress ack.state) : Writes (updateActionAck id ack) := by
  unfold updateActionAck
  split
  · trivial
  · refine Makes.bind (writes_of_reads (ActionPool.reads_isActionFinished id)) fun finished => ?_
    split
    · trivial
    · exact writes_update _ agree

section Engine

variable (env : Process) (engine : EngineWhere)

theorem writes_finishAndWakeup (action : Action) :
    Writes (WorkflowEngine.finishAndWakeup env engine action) :=
  Makes.bind (writes_finishAction env action.actionId) fun _ => writes_perform trivial

theorem writes_repeatAndSend (action : Action) : Writes (WorkflowEngine.repeatAndSend action) :=
  Makes.bind (writes_update _ trivial) fun _ => writes_perform trivial

theorem writes_feedbackOrFinish (action : Action) (feedback : Int) :
    Writes (WorkflowEngine.feedbackOrFinish env engine action feedback) := by
  unfold WorkflowEngine.feedbackOrFinish
  split
  · exact writes_perform trivial
  · exact writes_finishAndWakeup env engine action

theorem writes_doReady (action : Action) :
    Writes (WorkflowEngine.doReady env engine action) := by
  have sent : Writes (do
      WorkflowEngine.repeatAndSend action
      return Status.success) := Makes.bind (writes_repeatAndSend action) fun _ => trivial
  unfold WorkflowEngine.doReady
  split
  · exact Makes.bind (writes_finishAndWakeup env engine action) fun _ => trivial
  · split
    · refine Makes.bind (writes_update _ trivial) fun ret => ?_
      split
      · trivial
      · exact sent
    · exact sent

theorem writes_doRunning (action : Action) :
    Writes (WorkflowEngine.doRunning env engine action) := by
  refine Makes.bind ?_ fun _ => trivial
  unfold WorkflowEngine.remind
  split
  · exact writes_finishAndWakeup env engine action
  · exact writes_repeatAndSend action

/-- An action that has timed out is not at 100. -/
theorem writes_doTimeout {action : Action} (partly : action.progress ≠ 100) :
    Writes (WorkflowEngine.doTimeout env engine action) := by
  have agree : Agree (WorkflowEngine.timedOut action).progress
      (WorkflowEngine.timedOut action).state :=
    ⟨fun full => absurd full partly,
      fun success => absurd success (show Status.errorActionTimeout ≠ Status.success by decide)⟩
  have stored : Writes (WorkflowEngine.storeTimeout action) := by
    unfold WorkflowEngine.storeTimeout
    split
    · exact writes_updateActionState agree
    · trivial
  refine Makes.bind stored fun _ => Makes.bind ?_ fun _ => trivial
  unfold WorkflowEngine.feedbackTimeout
  split
  · exact writes_perform trivial
  · exact writes_finishAndWakeup env engine _

theorem partly_of_timeout {action : Action}
    (timeout : WorkflowEngine.getActionState action = .timeout) : action.progress ≠ 100 := by
  intro full
  unfold WorkflowEngine.getActionState at timeout
  split at timeout
  · cases timeout
  · split at timeout
    · cases timeout
    · cases timeout

theorem writes_doAction (action : Action) (runmode : WorkflowEngine.EngineRunMode) :
    Writes (WorkflowEngine.doAction env engine action runmode) := by
  unfold WorkflowEngine.doAction
  dsimp only
  split
  · trivial
  · split
    · trivial
    · split
      · exact writes_doReady env engine action
      · exact writes_doRunning env engine action
      · exact Makes.bind (writes_feedbackOrFinish env engine action _) fun _ => trivial
      · exact Makes.bind (writes_feedbackOrFinish env engine action _) fun _ => trivial
      · rename_i timeout
        exact writes_doTimeout env engine (partly_of_timeout timeout)
      · trivial
      · trivial

theorem writes_run (workflowId : String) : Writes (WorkflowEngine.run env engine workflowId) := by
  have one : ∀ runmode id, Writes (WorkflowEngine.runAction env engine runmode id) := by
    intro runmode id
    refine Makes.bind (writes_of_reads (ActionPool.reads_getAction id)) fun found => ?_
    cases found with
    | error => trivial
    | ok action =>
        show Writes (if _ then _ else _)
        split
        · exact Makes.bind (writes_doAction env engine action runmode) fun _ => trivial
        · trivial
  have all : ∀ runmode ids, Writes (WorkflowEngine.runActions env engine runmode ids) := by
    intro runmode ids
    induction ids with
    | nil => trivial
    | cons id rest ih => exact Makes.bind (one runmode id) fun _ => ih
  have running : Writes (ActionPool.getRunningActions engine workflowId) := by
    refine ⟨trivial, fun reply => ?_⟩
    cases reply <;> trivial
  refine Makes.bind running fun found => ?_
  cases found with
  | error => trivial
  | ok actions => exact Makes.bind (all _ actions) fun _ => trivial

theorem writes_rollback (id : String) : Writes (WorkflowEngine.rollback engine id) := by
  unfold WorkflowEngine.rollback
  split
  · trivial
  · refine Makes.bind (writes_of_reads (ActionPool.reads_getRollbackWorkflow id))
      fun rollbackId => ?_
    split
    · trivial
    · refine Makes.bind (writes_perform trivial) fun _ => ?_
      refine Makes.bind (writes_deleteWorkflow id false) fun _ => ?_
      refine Makes.bind (writes_update _ trivial) fun _ => ?_
      refine Makes.bind (writes_perform trivial) fun ret : Status => ?_
      split
      · trivial
      · exact writes_perform trivial

/-- What `MessageEntry` checks of an acknowledgement, and what it makes of it. -/
theorem acknowledged_agree {action : Action} {ack : WorkAck} {option : MessageOption}
    (accepted : ¬((ack.progress ≠ 100 ∧ ack.state = Status.success) ∨
      (ack.progress = 100 ∧ ack.state ≠ Status.success))) :
    Agree (WorkflowEngine.acknowledged action ack option).progress
      (WorkflowEngine.acknowledged action ack option).state := by
  have checked : Agree ack.progress ack.state := by
    unfold Agree
    constructor
    · intro full
      by_contra other
      exact accepted (.inr ⟨full, other⟩)
    · intro success
      by_contra other
      exact accepted (.inl ⟨other, success⟩)
  show Agree ack.progress (if _ then _ else _)
  split
  · rename_i retried
    exact ⟨fun full => absurd (checked.mp full) retried.1, fun other => absurd other (by decide)⟩
  · exact checked

theorem writes_acknowledge (ack : WorkAck) (option : MessageOption) :
    Writes (WorkflowEngine.acknowledge env engine ack option) := by
  unfold WorkflowEngine.acknowledge
  split
  · trivial
  · split
    · trivial
    · rename_i accepted
      have found : Writes (ActionPool.getRunningAction engine ack.actionId) := by
        refine ⟨trivial, fun reply => ?_⟩
        cases reply with
        | failed => trivial
        | empty => trivial
        | value actions =>
            show Writes (if _ then _ else _)
            split
            · exact writes_of_reads (ActionPool.reads_getAction _)
            · trivial
      refine Makes.bind found fun found => ?_
      cases found with
      | error => trivial
      | ok action =>
          show Writes (if _ then _ else _)
          split
          · trivial
          · refine Makes.bind (writes_updateActionState (acknowledged_agree accepted)) fun _ => ?_
            exact Makes.bind (writes_doAction env engine _ _) fun _ => trivial

theorem writes_messageEntry (event : EngineEvent) (workflowId sender : String) :
    Writes (WorkflowEngine.messageEntry env engine event workflowId sender) := by
  cases event with
  | powerOn =>
      refine Makes.bind (writes_deleteFinishedWorkflow engine) fun _ => ?_
      exact Makes.bind (writes_run env engine _) fun _ => trivial
  | wakeup => exact Makes.bind (writes_run env engine _) fun _ => trivial
  | actionTimer => exact Makes.bind (writes_run env engine _) fun _ => trivial
  | resumeWorkflow =>
      refine Makes.bind (writes_update _ trivial) fun _ => ?_
      exact Makes.bind (writes_perform trivial) fun _ => writes_perform trivial
  | pauseWorkflow =>
      refine Makes.bind (writes_update _ trivial) fun _ => ?_
      refine Makes.bind (writes_perform trivial) fun _ => ?_
      exact Makes.bind (writes_perform trivial) fun _ => trivial
  | deleteWorkflow =>
      refine Makes.bind (writes_deleteWorkflow workflowId true) fun _ => ?_
      refine Makes.bind (writes_perform trivial) fun _ => ?_
      exact Makes.bind (writes_perform trivial) fun _ => trivial
  | rollbackWorkflow =>
      refine Makes.bind (writes_rollback engine workflowId) fun _ => ?_
      refine Makes.bind (writes_perform trivial) fun _ => ?_
      exact Makes.bind (writes_perform trivial) fun _ => trivial

end Engine

/-! Engines and users at work on stored workflows. -/

abbrev State (Thread : Type) := Machine.State pool Database (TransactionContext Statement) Thread

/-- What engines and users do, as it is, and the users' updates of acknowledgements. -/
inductive Operation
  | workflow (operation : EngineRuns.Operation)
  | updateActionAck (actionId : String) (messageAck : WorkAck)

def program (env : Process) : Operation → Pool Unit
  | .workflow operation => EngineRuns.program env operation
  | .updateActionAck actionId messageAck => discard (updateActionAck actionId messageAck)

def machine (env : Process) (Thread : Type) :
    Machine pool Database (TransactionContext Statement) Thread Operation where
  program := fun _ operation => program env operation
  boot := fun _ => enable
  enter := fun _ _ db own => (db, own)
  answers := fun _ c db own reply db' own' => Answers c db own reply db' own'

def start (Thread : Type) (db : Database) : State Thread where
  shared := db
  own := fun _ => enable
  running := fun _ => none

/-- Whoever updates an acknowledgement passes 100 exactly with the state of success. -/
def Careful {Thread : Type} : State Thread → Machine.Label pool Thread Operation → Prop
  | _, .start _ (.updateActionAck _ ack) => Agree ack.progress ack.state
  | _, _ => True

theorem writes_workflow (env : Process) (operation : EngineRuns.Operation) :
    Writes (EngineRuns.program env operation) := by
  have addressed : ∀ (id : String) (rest : Except Status (String × Int) → Pool Status),
      (∀ found, Writes (rest found)) →
      Writes (discard (getWorkflowAndEngine env id >>= rest)) := fun id rest writes =>
    Makes.bind (Makes.bind (writes_of_reads (reads_getWorkflowAndEngine env id)) writes)
      fun _ => trivial
  cases operation with
  | event engine event workflowId sender => exact writes_messageEntry env _ event workflowId sender
  | acknowledge engine ack option => exact writes_acknowledge env _ ack option
  | finishAction id => exact Makes.bind (writes_finishAction env id) fun _ => trivial
  | restartAction id => exact Makes.bind (writes_restartAction env id) fun _ => trivial
  | pauseWorkflow id =>
      refine addressed id _ fun found => ?_
      cases found with
      | error => trivial
      | ok address => exact writes_perform trivial
  | resumeWorkflow id =>
      refine addressed id _ fun found => ?_
      cases found with
      | error => trivial
      | ok address => exact writes_perform trivial
  | deleteWorkflow id =>
      refine addressed id _ fun found => ?_
      cases found with
      | error => trivial
      | ok address =>
          refine Makes.bind (writes_perform trivial) fun locked : Bool => ?_
          split
          · trivial
          · exact writes_perform trivial
  | rollbackWorkflow id =>
      refine addressed id _ fun found => ?_
      cases found with
      | error => trivial
      | ok address =>
          refine Makes.bind (writes_perform trivial) fun locked : Bool => ?_
          split
          · trivial
          · refine Makes.bind (writes_of_reads (ActionPool.reads_getRollbackWorkflow _))
              fun rollbackId => ?_
            split
            · trivial
            · exact writes_perform trivial
  | begin => exact Makes.bind (writes_perform trivial) fun _ => trivial
  | commit => exact Makes.bind (writes_perform trivial) fun _ => trivial
  | cancel => exact Makes.bind (writes_perform trivial) fun _ => trivial

/-- The tables agree, and so does every write that is still to come. -/
structure Keeps {Thread : Type} (state : State Thread) : Prop where
  agreed : Agreed state.shared
  pending : ∀ thread, ∀ s ∈ (state.own thread).sql, Statement.Agrees s
  rest : ∀ thread p, state.running thread = some p → Writes p

theorem keeps_start {Thread : Type} {db : Database} (agreed : Agreed db) :
    Keeps (start Thread db) where
  agreed := agreed
  pending := fun _ _ none => absurd none List.not_mem_nil
  rest := fun _ _ running => by cases running

section Runs

variable {env : Process} {Thread : Type} [DecidableEq Thread]

theorem keeps_step {state after : State Thread}
    {label : Machine.Label pool Thread Operation} (keeps : Keeps state)
    (careful : Careful state label) (taken : (machine env Thread).Step state label after) :
    Keeps after := by
  -- a thread that moves has another transaction and program, the others keep theirs
  have pending_update : ∀ thread (own : TransactionContext Statement),
      (∀ s ∈ own.sql, Statement.Agrees s) →
      ∀ other, ∀ s ∈ (Function.update state.own thread own other).sql, Statement.Agrees s := by
    intro thread own agrees
    exact (Function.forall_update_iff state.own fun _ own => ∀ s ∈ own.sql, Statement.Agrees s).mpr
      ⟨agrees, fun other _ => keeps.pending other⟩
  have rest_update : ∀ thread (program : Option (Pool Unit)),
      (∀ p, program = some p → Writes p) →
      ∀ other p, Function.update state.running thread program other = some p → Writes p := by
    intro thread program writes
    exact (Function.forall_update_iff state.running fun _ program =>
      ∀ p, program = some p → Writes p).mpr ⟨writes, fun other _ => keeps.rest other⟩
  cases taken with
  | start thread operation idle =>
      have writes : Writes (program env operation) := by
        cases operation with
        | workflow operation => exact writes_workflow env operation
        | updateActionAck id ack =>
            exact Makes.bind (writes_updateActionAck id careful) fun _ => trivial
      refine ⟨keeps.agreed, pending_update thread _ (keeps.pending thread),
        rest_update thread _ fun p running => ?_⟩
      obtain rfl := Option.some.inj running
      exact writes
  | call thread c next running reply shared own answered =>
      obtain ⟨agrees, continues⟩ := keeps.rest thread _ running
      obtain ⟨executed, done, source⟩ := Answers.executes answered
      have statements : ∀ s, c = .sql s → Statement.Agrees s := by
        rintro s rfl
        exact agrees
      refine ⟨?_, pending_update thread _ fun s inside => ?_,
        rest_update thread _ fun p running' => ?_⟩
      · refine executeTransaction_agreed ?_ keeps.agreed done
        rcases source with rfl | ⟨s, issued, -, rfl⟩ | ⟨-, -, rfl⟩
        · exact fun s none => absurd none List.not_mem_nil
        · exact List.forall_mem_singleton.mpr (statements s issued)
        · exact keeps.pending thread
      · exact (Answers.statements answered inside).elim (keeps.pending thread s) (statements s)
      · obtain rfl := Option.some.inj running'
        exact continues reply
  | finish thread returned =>
      exact ⟨keeps.agreed, keeps.pending, rest_update thread _ fun p running => by cases running⟩
  | crash thread =>
      refine ⟨keeps.agreed, pending_update thread _ fun s none => ?_,
        rest_update thread _ fun p running => by cases running⟩
      exact absurd none List.not_mem_nil

/-- No assertion fails for an action read from the tables, nor for what an accepted
acknowledgement makes of it. -/
def Examined (db : Database) : Prop :=
  ∀ id a, db.select (.action id) = .value a → assertions a = true ∧
    ∀ ack option, ack.validate = true →
      ¬((ack.progress ≠ 100 ∧ ack.state = Status.success) ∨
        (ack.progress = 100 ∧ ack.state ≠ Status.success)) →
      assertions (WorkflowEngine.acknowledged a ack option) = true

theorem examined_of_agreed {db : Database} (agreed : Agreed db) : Examined db := by
  intro id a read
  obtain ⟨row, inside, equal⟩ : ∃ row ∈ db.actionPool, ∃ w, a = Database.joined row w := by
    simp only [Database.select] at read
    cases found : db.workflowActions.find? fun row => row.1.actionId == id with
    | none =>
        rw [found] at read
        cases read
    | some joined =>
        rw [found] at read
        obtain ⟨row, inside, owned⟩ := List.mem_filterMap.mp (List.mem_of_find?_eq_some found)
        obtain ⟨w, -, rfl⟩ := Option.map_eq_some_iff.mp owned
        obtain rfl := Found.value.inj read
        exact ⟨row, inside, w, rfl⟩
  obtain ⟨w, rfl⟩ := equal
  refine ⟨assertions_of_agree (db.actionCheck row inside).progress.2 (agreed row inside), ?_⟩
  intro ack option valid accepted
  have bound : ack.progress ≤ 100 := by
    unfold WorkAck.validate at valid
    simp only [Bool.and_eq_true, Bool.not_eq_true', Bool.or_eq_false_iff,
      decide_eq_false_iff_not] at valid
    omega
  exact assertions_of_agree bound fun _ => acknowledged_agree accepted

/-- Where every update of an acknowledgement passes 100 exactly with the state of success, an
unfinished action is at 100 exactly when it has succeeded, and no assertion fails. -/
theorem agreed_of_careful (env : Process) {db : Database} (agreed : Agreed db)
    {labels : List (Machine.Label pool Thread Operation)}
    {last : State Thread}
    (run : Transition.Run (Transition.Guarded Careful (machine env Thread).Step) (start Thread db)
      labels last) : Agreed last.shared ∧ Examined last.shared := by
  have keeps : Keeps last := Transition.Run.invariant (keeps_start agreed)
    (fun _ _ _ held taken => keeps_step held taken.1 taken.2) run
  exact ⟨keeps.agreed, examined_of_agreed keeps.agreed⟩

end Runs

/-! The stored two-step workflow, and an agent that reports itself complete and still at work. -/

def answers (_ : Unit) (c : PoolCall) (db : Database) (own : TransactionContext Statement) :
    Option (c.Reply × Database × TransactionContext Statement) := some (answer true db own c)

theorem answers_sound (thread : Unit) (c : PoolCall) (db : Database)
    (own : TransactionContext Statement)
    (answered : c.Reply × Database × TransactionContext Statement)
    (served : answers thread c db own = some answered) :
    (machine EngineRuns.oneEngine Unit).answers thread c db own answered.1 answered.2.1
      answered.2.2 := by
  obtain rfl := Option.some.inj served
  exact answers_answer db own c

instance (db : Database) : Decidable (Agreed db) :=
  inferInstanceAs (Decidable (∀ a ∈ db.actionPool, a.finished = false → Agree a.progress a.state))

def updating (ack : WorkAck) : List (Machine.Move Unit Operation) :=
  [.start () (.updateActionAck "a-create" ack), .advance (), .advance (), .advance ()]

instance (state : State Unit) (label : Machine.Label pool Unit Operation) :
    Decidable (Careful state label) := by
  unfold Careful
  split <;> infer_instance

def doneAck : WorkAck := ⟨"a-create", Status.success, 100, ""⟩

theorem agreed_of_doneAck : ∃ last : State Unit,
    (∃ a ∈ last.shared.actionPool, a.state = Status.success) ∧ Agreed last.shared ∧
      Examined last.shared := by
  have moved : ((machine EngineRuns.oneEngine Unit).moves answers Careful
      (start Unit EngineRuns.chainStored) (updating doneAck)).any (fun last =>
        last.shared.actionPool.any fun a => a.state == Status.success) = true := by
    decide
  obtain ⟨last, reached, holds⟩ := (Option.any_eq_true _ _).mp moved
  obtain ⟨labels, run⟩ := Machine.run_of_moves answers_sound reached
  have agreed : Agreed EngineRuns.chainStored := by decide
  refine ⟨last, ?_, agreed_of_careful EngineRuns.oneEngine agreed run⟩
  simpa using holds

def halfwayAck : WorkAck := ⟨"a-create", Status.errorActionRunning, 100, ""⟩

def violates : Found Action → Bool
  | .value a => !assertions a
  | _ => false

theorem complete_and_running : ∃ labels last,
    (machine EngineRuns.oneEngine Unit).Run (start Unit EngineRuns.chainStored) labels last ∧
      Agreed EngineRuns.chainStored ∧ ¬Agreed last.shared ∧ ¬Examined last.shared := by
  have moved : ((machine EngineRuns.oneEngine Unit).moves answers (fun _ _ => True)
      (start Unit EngineRuns.chainStored) (updating halfwayAck)).any (fun last =>
        !decide (Agreed last.shared) &&
          violates (last.shared.select (.action "a-create"))) = true := by
    decide
  obtain ⟨last, reached, holds⟩ := (Option.any_eq_true _ _).mp moved
  obtain ⟨labels, guarded⟩ := Machine.run_of_moves answers_sound reached
  rw [Bool.and_eq_true] at holds
  refine ⟨labels, last, guarded.mono fun _ _ _ taken => taken.2, by decide, ?_, ?_⟩
  · exact of_decide_eq_false (by simpa using holds.1)
  · intro examined
    cases read : last.shared.select (.action "a-create") with
    | value a =>
        have violated := holds.2
        rw [read] at violated
        have kept := (examined _ a read).1
        change (!assertions a) = true at violated
        rw [kept] at violated
        cases violated
    | _ =>
        rw [read] at holds
        cases holds.2

end ActionAcks

end Tecs
