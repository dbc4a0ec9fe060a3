import Tecs.Library.Interleaving
import Tecs.Workflow.StoredWorkflows

set_option autoImplicit false

namespace Tecs

open Effect Program TransactionContext ActionPool Precedence

/-! How one answer moves the tables, when nothing is stored. -/

def StoresNothing (ctx : TransactionContext Statement) : Prop :=
  ∀ s ∈ ctx.sql, s.stores = false

theorem answers_advances {db db' : Database} {ctx ctx' : TransactionContext Statement}
    {c : PoolCall} {reply : c.Reply} (nothing : StoresNothing ctx)
    (keeps : ∀ s, c = .sql s → s.stores = false) (answered : Answers c db ctx reply db' ctx') :
    db.Advances db' ∧ StoresNothing ctx' := by
  obtain ⟨executed, done, source⟩ := answered.executes
  refine ⟨Database.executeTransaction_advances ?_ done, fun s inside => ?_⟩
  · rcases source with rfl | ⟨s, issued, -, rfl⟩ | ⟨-, -, rfl⟩
    · exact fun s none => absurd none List.not_mem_nil
    · exact List.forall_mem_singleton.mpr (keeps s issued)
    · exact nothing
  · exact (answered.statements inside).elim (nothing s) (keeps s)

/-- Every answer of the function is one of the answers of the relation. -/
theorem answers_answer (db : Database) (ctx : TransactionContext Statement) (c : PoolCall) :
    Answers c db ctx (answer true db ctx c).1 (answer true db ctx c).2.1
      (answer true db ctx c).2.2 := by
  cases c with
  | select query =>
      refine ⟨.inr ?_, rfl, rfl⟩
      cases query with
      | runningActions engine workflowId =>
          refine ⟨_, fun id => ?_, rfl⟩
          simp only [List.mem_map, List.mem_filter, Function.comp_apply, Bool.and_eq_true,
            Bool.or_eq_true, beq_iff_eq]
          grind
      | finishedWorkflows engine =>
          refine ⟨_, fun id => ?_, rfl⟩
          simp only [List.mem_map, List.mem_filter, Bool.and_eq_true]
          grind
      | _ => rfl
  | alternateEngine => exact ⟨rfl, rfl⟩
  | wakeup => exact ⟨rfl, rfl⟩
  | request => exact ⟨rfl, rfl⟩
  | isLockWorkflow => exact ⟨rfl, rfl⟩
  | _ => exact ⟨true, rfl⟩

namespace EngineRuns

/-- What a thread keeps: its transaction and, as a history variable, the tables as they
were when it last read the running actions. -/
structure Worker where
  context : TransactionContext Statement
  observed : Option Database

/-- What engines and the users of workflows do, acknowledgements and restarts included. -/
inductive Operation
  | event (engine : Int) (event : EngineEvent) (workflowId sender : String)
  | acknowledge (engine : Int) (ack : WorkAck) (option : MessageOption)
  | finishAction (actionId : String)
  | restartAction (actionId : String)
  | pauseWorkflow (actionId : String)
  | resumeWorkflow (actionId : String)
  | deleteWorkflow (actionId : String)
  | rollbackWorkflow (actionId : String)
  | begin
  | commit
  | cancel

def program (env : Process) : Operation → Pool Unit
  | .event engine event workflowId sender =>
      WorkflowEngine.messageEntry env (WorkflowEngine.engineWhere env engine) event workflowId
        sender
  | .acknowledge engine ack option =>
      WorkflowEngine.acknowledge env (WorkflowEngine.engineWhere env engine) ack option
  | .finishAction actionId => discard (finishAction env actionId)
  | .restartAction actionId => discard (restartAction env actionId)
  | .pauseWorkflow actionId => discard (pauseWorkflow env actionId)
  | .resumeWorkflow actionId => discard (resumeWorkflow env actionId)
  | .deleteWorkflow actionId => discard (Tecs.deleteWorkflow env actionId)
  | .rollbackWorkflow actionId => discard (rollbackWorkflow env actionId)
  | .begin => discard Pool.begin
  | .commit => discard Pool.commit
  | .cancel => discard Pool.cancel

def observe (db : Database) (observed : Option Database) : PoolCall → Option Database
  | .select (.runningActions _ _) => some db
  | _ => observed

/-- Any number of threads, each running one operation after the other. -/
def machine (env : Process) (Thread : Type) :
    Machine pool Database Worker Thread Operation where
  program := fun _ operation => program env operation
  boot := fun _ => ⟨enable, none⟩
  enter := fun _ _ db own => (db, own)
  answers := fun _ c db own reply db' own' =>
    Answers c db own.context reply db' own'.context ∧ own'.observed = observe db own.observed c

def start (Thread : Type) (db : Database) : Machine.State pool Database Worker Thread where
  shared := db
  own := fun _ => ⟨enable, none⟩
  running := fun _ => none

/-- The action was running, its workflow not paused, when the thread read the running
actions, and whatever precedes it now is finished. -/
def Ready (db : Database) (observed : Option Database) (action : Action) : Prop :=
  (∃ seen, observed = some seen ∧
    ∃ row ∈ seen.runningActions, row.1.actionId = action.actionId ∧ row.2.paused = false) ∧
  ∀ s ∈ db.actionSequences, s.actionNext = action.actionId →
    ∀ a ∈ db.actionPool, a.actionId = s.actionPrev → a.finished = true

/-! The invariant of a thread, between and during operations. -/

def Steady (db : Database) (own : Worker) : Prop :=
  StoresNothing own.context ∧ ∀ seen, own.observed = some seen → seen.Advances db

def Asserts (c : PoolCall) (db : Database) (own : Worker) : Prop :=
  Steady db own ∧ (∀ s, c = .sql s → s.stores = false) ∧
    ∀ action option, c = .send (.request action option) → Ready db own.observed action

/-- The thread last read these tables. -/
def Reading (seen : Database) (db : Database) (own : Worker) : Prop :=
  Steady db own ∧ own.observed = some seen

theorem Steady.stable {db later : Database} {own : Worker} (steady : Steady db own)
    (moved : db.Advances later) : Steady later own :=
  ⟨steady.1, fun seen observed => (steady.2 seen observed).trans moved⟩

theorem Reading.stable {seen db later : Database} {own : Worker} (reading : Reading seen db own)
    (moved : db.Advances later) : Reading seen later own :=
  ⟨reading.1.stable moved, reading.2⟩

section Outlines

variable {env : Process} {Thread : Type} {thread : Thread}

/-- The program meets its postcondition among the threads of the machine. -/
def Meets {α : Type} (env : Process) (thread : Thread) (p : Pool α)
    (post : α → Database → Worker → Prop) (db : Database) (own : Worker) : Prop :=
  p.Meets (S := pool) ((machine env Thread).Permitted (fun _ _ _ _ => True) thread)
    Database.Advances Asserts post db own

theorem steady_answer {c : PoolCall} {db db' : Database} {own own' : Worker} {reply : c.Reply}
    (asserted : Asserts c db own)
    (answered : (machine env Thread).Permitted (fun _ _ _ _ => True) thread c db own reply
    db' own') :
    db.Advances db' ∧ Steady db' own' := by
  obtain ⟨⟨nothing, known⟩, keeps, -⟩ := asserted
  obtain ⟨-, answered, observed⟩ := answered
  obtain ⟨moved, nothing'⟩ := answers_advances nothing keeps answered
  refine ⟨moved, nothing', fun seen equal => ?_⟩
  rw [observed] at equal
  have carried : own.observed = some seen → seen.Advances db' :=
    fun same => (known seen same).trans moved
  unfold observe at equal
  split at equal
  · obtain rfl := Option.some.inj equal
    exact moved
  · exact carried equal

theorem quiet_asserts {c : PoolCall} {db : Database} {own : Worker} (quiet : c.Quiet)
    (steady : Steady db own) : Asserts c db own := by
  refine ⟨steady, ?_, ?_⟩
  · rintro s rfl
    exact quiet
  · rintro action option rfl
    exact quiet.elim

theorem meets_quiet {α : Type} {p : Pool α} {db : Database} {own : Worker} (quiet : Quiet p)
    (steady : Steady db own) : Meets env thread p (fun _ => Steady) db own := by
  have stable : ∀ db later own, Steady db own → db.Advances later → Steady later own :=
    fun _ _ _ held moved => held.stable moved
  have asserted : ∀ (c : PoolCall) db own, c.Quiet → Steady db own → Asserts c db own :=
    fun _ _ _ permitted held => quiet_asserts permitted held
  refine Program.Meets.of_makes stable asserted ?_ quiet steady
  intro c _ _ _ _ _ permitted held answered
  exact (steady_answer (quiet_asserts permitted held) answered).2

theorem observe_quiet {c : PoolCall} {db : Database} {observed : Option Database}
    (quiet : c.Quiet) : observe db observed c = observed := by
  unfold observe
  split
  · exact quiet.elim
  · rfl

theorem meets_reading {α : Type} {p : Pool α} {seen db : Database} {own : Worker}
    (quiet : Quiet p) (reading : Reading seen db own) :
    Meets env thread p (fun _ => Reading seen) db own := by
  have stable : ∀ db later own, Reading seen db own → db.Advances later → Reading seen later own :=
    fun _ _ _ held moved => held.stable moved
  have asserted : ∀ (c : PoolCall) db own, c.Quiet → Reading seen db own → Asserts c db own :=
    fun _ _ _ permitted held => quiet_asserts permitted held.1
  refine Program.Meets.of_makes stable asserted ?_ quiet reading
  intro c _ _ _ _ _ permitted held answered
  refine ⟨(steady_answer (quiet_asserts permitted held.1) answered).2, ?_⟩
  rw [answered.2.2, observe_quiet permitted]
  exact held.2

theorem meets_bind {α β : Type} {p : Pool α} {rest : α → Pool β}
    {post : β → Database → Worker → Prop} {db : Database} {own : Worker}
    (first : Meets env thread p (fun value => Meets env thread (rest value) post) db own) :
    Meets env thread (p >>= rest) post db own :=
  Program.Meets.bind Database.Advances.refl first

theorem meets_ret {α : Type} {value : α} {post : α → Database → Worker → Prop} {db : Database}
    {own : Worker} (held : ∀ later, db.Advances later → post value later own) :
    Meets env thread (.ret value) post db own :=
  held

theorem meets_mono {α : Type} {p : Pool α} {post weaker : α → Database → Worker → Prop}
    {db : Database} {own : Worker}
    (weaken : ∀ value db own, post value db own → weaker value db own)
    (meets : Meets env thread p post db own) : Meets env thread p weaker db own :=
  Program.Meets.mono weaken meets

/-! The engine's run: each request it sends is for an action it has read as running. -/

theorem ready_of_reading {seen db : Database} {own : Worker} {action : Action}
    (reading : Reading seen db own)
    (running : ∃ row ∈ seen.runningActions, row.1.actionId = action.actionId) :
    Ready db own.observed action := by
  obtain ⟨⟨-, known⟩, observed⟩ := reading
  have moved := known seen observed
  obtain ⟨row, inside, same⟩ := running
  obtain ⟨-, shown⟩ := List.mem_filter.mp inside
  simp only [Database.ready, Bool.and_eq_true, List.all_eq_true, Bool.not_eq_true'] at shown
  obtain ⟨⟨unpreceded, -⟩, unpaused⟩ := shown
  refine ⟨⟨seen, observed, row, inside, same, unpaused⟩, fun s stored next a among prev => ?_⟩
  by_contra unfinished
  obtain ⟨old, was, sameId, -, kept⟩ := moved.rows a among
  -- the sequence was valid when the running actions were read
  have valid : s ∈ seen.validActionSequences := by
    refine List.mem_filter.mpr ⟨moved.sequences stored, List.any_eq_true.mpr ⟨old, was, ?_⟩⟩
    have open_ : old.finished ≠ true := fun finished => unfinished (kept finished)
    simp [sameId, prev, open_]
  have apart := unpreceded s valid
  rw [same, next] at apart
  simp at apart

/-- Some action the engine read as running has this id. -/
def WasRunning (seen : Database) (actionId : String) : Prop :=
  ∃ row ∈ seen.runningActions, row.1.actionId = actionId

theorem meets_repeatAndSend {seen db : Database} {own : Worker} {action : Action}
    (reading : Reading seen db own) (running : WasRunning seen action.actionId) :
    Meets env thread (WorkflowEngine.repeatAndSend action) (fun _ => Reading seen) db own := by
  refine meets_bind (meets_mono ?_ (meets_reading (inner_update _ rfl).quiet reading))
  intro _ db own reading later moved
  have here := reading.stable moved
  have ready : Ready later own.observed (repeated action) := ready_of_reading here running
  have asserted : Asserts (.send (.request (repeated action)
      ⟨action.receiver, action.messageId, action.messagePriority, action.messageVersion⟩))
      later own := by
    refine ⟨here.1, (fun s other => by cases other), fun action option same => ?_⟩
    cases same
    exact ready
  refine ⟨asserted, fun reply after own' answered later' moved' => ?_⟩
  have steady := (steady_answer asserted answered).2
  have unread : own'.observed = some seen := by
    rw [answered.2.2]
    exact here.2
  exact Reading.stable ⟨steady, unread⟩ moved'

theorem meets_doReady {engine : EngineWhere} {seen db : Database} {own : Worker}
    {action : Action} (reading : Reading seen db own) (running : WasRunning seen action.actionId) :
    Meets env thread (WorkflowEngine.doReady env engine action) (fun _ => Reading seen) db own := by
  unfold WorkflowEngine.doReady
  split
  · exact meets_reading (Makes.bind (WorkflowEngine.quiet_finishAndWakeup env engine action)
      fun _ => trivial) reading
  · split
    · refine meets_bind (meets_mono ?_ (meets_reading (inner_update _ rfl).quiet reading))
      intro ret db own reading
      split
      · exact meets_ret fun later moved => reading.stable moved
      · refine meets_bind (meets_mono ?_ (meets_repeatAndSend reading running))
        exact fun _ db own reading => meets_ret fun later moved => reading.stable moved
    · refine meets_bind (meets_mono ?_ (meets_repeatAndSend reading running))
      exact fun _ db own reading => meets_ret fun later moved => reading.stable moved

theorem meets_doRunning {engine : EngineWhere} {seen db : Database} {own : Worker}
    {action : Action} (reading : Reading seen db own) (running : WasRunning seen action.actionId) :
    Meets env thread (WorkflowEngine.doRunning env engine action) (fun _ => Reading seen) db
      own := by
  have reminded : Meets env thread (WorkflowEngine.remind env engine action)
      (fun _ => Reading seen) db own := by
    unfold WorkflowEngine.remind
    split
    · exact meets_reading (WorkflowEngine.quiet_finishAndWakeup env engine action) reading
    · exact meets_repeatAndSend reading running
  refine meets_bind (meets_mono ?_ reminded)
  exact fun _ db own reading => meets_ret fun later moved => reading.stable moved

theorem meets_doAction {engine : EngineWhere} {seen db : Database} {own : Worker}
    {action : Action} {runmode : WorkflowEngine.EngineRunMode} (reading : Reading seen db own)
    (running : WasRunning seen action.actionId) :
    Meets env thread (WorkflowEngine.doAction env engine action runmode) (fun _ => Reading seen)
      db own := by
  have passed : ∀ feedback, Quiet (do
      WorkflowEngine.feedbackOrFinish env engine action feedback
      return Status.success) :=
    fun feedback => Makes.bind (WorkflowEngine.quiet_feedbackOrFinish env engine action feedback)
      fun _ => trivial
  have nothing : Quiet (return Status.success) := trivial
  unfold WorkflowEngine.doAction
  dsimp only
  split
  · exact meets_reading nothing reading
  · split
    · exact meets_reading nothing reading
    · split
      · exact meets_doReady reading running
      · exact meets_doRunning reading running
      · exact meets_reading (passed _) reading
      · exact meets_reading (passed _) reading
      · exact meets_reading (WorkflowEngine.quiet_doTimeout env engine action) reading
      · exact meets_reading nothing reading
      · exact meets_reading nothing reading

/-- The action that is read back has the id that was asked for. -/
theorem meets_getAction {actionId : String} {seen db : Database} {own : Worker}
    (reading : Reading seen db own) :
    Meets env thread (getAction actionId) (fun found db own => Reading seen db own ∧
      ∀ action, found = .ok action → action.actionId = actionId) db own := by
  unfold getAction
  split
  · exact meets_ret fun later moved => ⟨reading.stable moved, fun _ none => by cases none⟩
  · intro later moved
    have here := reading.stable moved
    have quiet : PoolCall.Quiet (.select (.action actionId)) := trivial
    have asserted := quiet_asserts quiet here.1
    refine ⟨asserted, fun reply after own' answered => ?_⟩
    have steady := (steady_answer asserted answered).2
    have unread : own'.observed = some seen := by
      rw [answered.2.2, observe_quiet quiet]
      exact here.2
    have reading' : Reading seen after own' := ⟨steady, unread⟩
    have named : ∀ action, reply = .value action → action.actionId = actionId := by
      rintro action rfl
      rcases answered.2.1.1 with failed | found
      · cases failed
      · have found : Found.value action = later.select (.action actionId) := found
        simp only [Database.select] at found
        cases row : later.workflowActions.find? fun row => row.1.actionId == actionId with
        | none => rw [row] at found; cases found
        | some pair =>
            rw [row] at found
            have same := List.find?_some row
            cases found
            simpa using same
    cases reply with
    | failed =>
        exact meets_ret fun last moved => ⟨reading'.stable moved, fun _ none => by cases none⟩
    | empty =>
        exact meets_ret fun last moved => ⟨reading'.stable moved, fun _ none => by cases none⟩
    | value action =>
        refine meets_ret fun last moved => ⟨reading'.stable moved, fun other same => ?_⟩
        cases same
        exact named action rfl

theorem meets_runAction {engine : EngineWhere} {runmode : WorkflowEngine.EngineRunMode}
    {actionId : String} {seen db : Database} {own : Worker} (reading : Reading seen db own)
    (running : WasRunning seen actionId) :
    Meets env thread (WorkflowEngine.runAction env engine runmode actionId)
      (fun _ => Reading seen) db own := by
  refine meets_bind (meets_mono ?_ (meets_getAction reading))
  rintro found db own ⟨reading, named⟩
  cases found with
  | error ret => exact meets_ret fun later moved => reading.stable moved
  | ok action =>
      dsimp only
      split
      · have running' : WasRunning seen action.actionId := by
          rw [named action rfl]
          exact running
        refine meets_bind (meets_mono ?_ (meets_doAction reading running'))
        exact fun _ db own reading => meets_ret fun later moved => reading.stable moved
      · exact meets_ret fun later moved => reading.stable moved

theorem meets_runActions {engine : EngineWhere} {runmode : WorkflowEngine.EngineRunMode}
    {seen : Database} (actionIds : List String) : ∀ {db : Database} {own : Worker},
      Reading seen db own → (∀ id ∈ actionIds, WasRunning seen id) →
        Meets env thread (WorkflowEngine.runActions env engine runmode actionIds)
          (fun _ => Reading seen) db own := by
  induction actionIds with
  | nil => exact fun reading _ => meets_ret fun later moved => reading.stable moved
  | cons id rest ih =>
      intro db own reading running
      have first := running id List.mem_cons_self
      have others : ∀ other ∈ rest, WasRunning seen other :=
        fun other inside => running other (List.mem_cons_of_mem _ inside)
      refine meets_bind (meets_mono ?_ (meets_runAction reading first))
      exact fun _ db own reading => ih reading others

/-- What reading the running actions leaves: the tables read, and rows of them. -/
theorem meets_getRunningActions {engine : EngineWhere} {workflowId : String} {db : Database}
    {own : Worker} (steady : Steady db own) :
    Meets env thread (getRunningActions engine workflowId)
      (fun found db own => Steady db own ∧ ∀ ids, found = .ok ids →
        ∃ seen, Reading seen db own ∧ ∀ id ∈ ids, WasRunning seen id) db own := by
  intro later moved
  have here := steady.stable moved
  have asserted : Asserts (.select (.runningActions engine workflowId)) later own :=
    ⟨here, (fun s other => by cases other), fun _ _ other => by cases other⟩
  refine ⟨asserted, fun reply after own' answered => ?_⟩
  have steady' := (steady_answer asserted answered).2
  obtain ⟨-, ⟨read, unchanged, -⟩, observed⟩ := answered
  have seen : Reading later after own' := ⟨steady', observed⟩
  have listed : ∀ ids : List String, reply = .value ids → ∀ id ∈ ids, WasRunning later id := by
    rintro ids rfl id inside
    rcases read with failed | ⟨rows, members, same⟩
    · cases failed
    · unfold Found.ofRows at same
      split at same
      · cases same
      · cases same
        obtain ⟨row, among, named, -⟩ := (members id).mp inside
        exact ⟨row, among, named⟩
  cases reply with
  | failed =>
      exact meets_ret fun last moved => ⟨steady'.stable moved, fun _ none => by cases none⟩
  | empty =>
      refine meets_ret fun last moved => ⟨steady'.stable moved, fun ids same => ?_⟩
      cases same
      exact ⟨later, seen.stable moved, fun id none => absurd none List.not_mem_nil⟩
  | value ids =>
      refine meets_ret fun last moved => ⟨steady'.stable moved, fun other same => ?_⟩
      cases same
      exact ⟨later, seen.stable moved, listed ids rfl⟩

theorem meets_run {engine : EngineWhere} {workflowId : String} {db : Database} {own : Worker}
    (steady : Steady db own) :
    Meets env thread (WorkflowEngine.run env engine workflowId) (fun _ => Steady) db own := by
  refine meets_bind (meets_mono ?_ (meets_getRunningActions steady))
  rintro found db own ⟨steady, listed⟩
  cases found with
  | error ret => exact meets_ret fun later moved => steady.stable moved
  | ok ids =>
      obtain ⟨seen, reading, running⟩ := listed ids rfl
      refine meets_bind (meets_mono ?_ (meets_runActions ids reading running))
      exact fun _ db own reading => meets_ret fun later moved => reading.1.stable moved

theorem meets_messageEntry {engine : EngineWhere} {event : EngineEvent}
    {workflowId sender : String} {db : Database} {own : Worker} (steady : Steady db own) :
    Meets env thread (WorkflowEngine.messageEntry env engine event workflowId sender)
      (fun _ => Steady) db own := by
  have discarded : ∀ {α : Type} (value : α) db own, Steady db own →
      Meets env thread (return () : Pool Unit) (fun _ => Steady) db own :=
    fun _ _ _ steady => meets_ret fun later moved => steady.stable moved
  have woken : ∀ id, Quiet (do
      let _ ← WorkflowEngine.wakeup engine id
      return ()) := fun id => Makes.bind (quiet_perform trivial) fun _ => trivial
  have reported : ∀ ret id, Quiet (Pool.send (.result ret ⟨sender, id, 0, 0⟩)) :=
    fun ret id => quiet_perform trivial
  cases event with
  | powerOn =>
      refine meets_bind (meets_mono ?_
        (meets_quiet (inner_deleteFinishedWorkflow engine).quiet steady))
      exact fun _ db own steady => meets_bind (meets_mono discarded (meets_run steady))
  | wakeup => exact meets_bind (meets_mono discarded (meets_run steady))
  | actionTimer => exact meets_bind (meets_mono discarded (meets_run steady))
  | resumeWorkflow =>
      exact meets_quiet (Makes.bind (inner_update _ rfl).quiet fun ret =>
        Makes.bind (quiet_perform trivial) fun _ => reported ret _) steady
  | pauseWorkflow =>
      exact meets_quiet (Makes.bind (inner_update _ rfl).quiet fun ret =>
        Makes.bind (reported ret _) fun _ => woken _) steady
  | deleteWorkflow =>
      exact meets_quiet (Makes.bind (ActionPool.inner_deleteWorkflow workflowId true).quiet
        fun ret =>
        Makes.bind (reported ret _) fun _ => woken _) steady
  | rollbackWorkflow =>
      exact meets_quiet (Makes.bind (WorkflowEngine.quiet_rollback engine workflowId) fun ret =>
        Makes.bind (reported ret _) fun _ => woken _) steady

theorem quiet_discard {α : Type} {p : Pool α} (quiet : Quiet p) : Quiet (discard p) :=
  Makes.bind quiet fun _ => trivial

theorem meets_program (operation : Operation) {db : Database} {own : Worker}
    (steady : Steady db own) :
    Meets env thread (program env operation) (fun _ => Steady) db own := by
  cases operation with
  | event engine event workflowId sender => exact meets_messageEntry steady
  | acknowledge engine ack option =>
      exact meets_quiet (WorkflowEngine.quiet_acknowledge env _ ack option) steady
  | finishAction id => exact meets_quiet (quiet_discard (quiet_finishAction env id)) steady
  | restartAction id => exact meets_quiet (quiet_discard (Tecs.quiet_restartAction env id)) steady
  | pauseWorkflow id => exact meets_quiet (quiet_discard (quiet_pauseWorkflow env id)) steady
  | resumeWorkflow id => exact meets_quiet (quiet_discard (quiet_resumeWorkflow env id)) steady
  | deleteWorkflow id => exact meets_quiet (quiet_discard (Tecs.quiet_deleteWorkflow env id)) steady
  | rollbackWorkflow id =>
      exact meets_quiet (quiet_discard (quiet_rollbackWorkflow env id)) steady
  | begin => exact meets_quiet (quiet_discard (quiet_perform trivial)) steady
  | commit => exact meets_quiet (quiet_discard (quiet_perform trivial)) steady
  | cancel => exact meets_quiet (quiet_discard (quiet_perform trivial)) steady

end Outlines

/-! Runs: every interleaving, with any thread stopping at any time. -/

section Runs

variable {Thread : Type} [DecidableEq Thread]

omit [DecidableEq Thread] in
theorem sound (env : Process) : (machine env Thread).Sound (fun _ _ _ _ => True)
    Database.Advances (fun _ => Asserts) (fun _ => Steady) (fun _ => True) True where
  reflexive := Database.Advances.refl
  transitive := fun _ _ _ => Database.Advances.trans
  stable := fun _ _ _ _ steady moved => steady.stable moved
  guarantee := fun _ _ _ _ _ _ _ asserted answered => (steady_answer asserted answered).1
  entering := fun _ _ db _ _ => .refl db
  booting := fun _ _ _ => ⟨fun _ none => absurd none List.not_mem_nil, fun _ none => by cases none⟩
  outline := fun _ operation _ _ _ steady => meets_program operation steady

omit [DecidableEq Thread] in
theorem allowed (state : Machine.State pool Database Worker Thread)
    (label : Machine.Label pool Thread Operation) :
    Machine.Allows (fun _ _ _ _ => True) (fun _ => True) True state label := by
  cases label <;> trivial

theorem reachable {env : Process} {db : Database}
    {labels : List (Machine.Label pool Thread Operation)}
    {last : Machine.State pool Database Worker Thread}
    (run : (machine env Thread).Run (start Thread db) labels last) :
    (machine env Thread).Proper (fun _ _ _ _ => True) Database.Advances (fun _ => Asserts)
      (fun _ => Steady) last ∧ db.Advances last.shared := by
  have initial : (machine env Thread).Proper (fun _ _ _ _ => True) Database.Advances
      (fun _ => Asserts) (fun _ => Steady) (start Thread db) :=
    fun thread => (sound env).booting trivial thread db
  exact initial.run (sound env) (run.mono fun before label after taken =>
    ⟨allowed before label, taken⟩)

/-- Whenever an engine sends the request of an action, the action was running and its
workflow not paused when that thread read the running actions, and every action that a
sequence puts before it is finished. -/
theorem request_ready (env : Process) (db : Database)
    {labels : List (Machine.Label pool Thread Operation)}
    {last next : Machine.State pool Database Worker Thread} {thread : Thread} {action : Action}
    {option : MessageOption} (run : (machine env Thread).Run (start Thread db) labels last)
    (sent : (machine env Thread).Step last (.call thread (.send (.request action option))) next) :
    Ready last.shared (last.own thread).observed action :=
  ((reachable run).1.asserted (sound env) sent).2.2 action option rfl

/-- No deadlock: in every state reached from stored workflows, a workflow that is not
paused and has an unfinished action has a running one. -/
theorem running_exists (env : Process) {db : Database} (stored : Stored env db)
    {labels : List (Machine.Label pool Thread Operation)}
    {last : Machine.State pool Database Worker Thread}
    (run : (machine env Thread).Run (start Thread db) labels last) {w : WorkflowRow}
    (row : w ∈ last.shared.workflow) (unpaused : w.paused = false)
    (unfinished : ∃ a ∈ last.shared.actionPool, a.workflowId = w.workflowId ∧
      a.finished = false) :
    ∃ running ∈ last.shared.runningActions, running.1.workflowId = w.workflowId ∧
      running.2 = w := by
  have moved := (reachable run).2
  have consistent := stored.consistent
  have acyclic : Acyclic (Precedes last.shared.actionSequences) :=
    consistent.acyclic.mono fun prev next edge => moved.sequences edge
  -- the unfinished actions of the workflow, by their ids
  let ids : Set String :=
    {id | ∃ a ∈ last.shared.actionPool, a.actionId = id ∧ a.workflowId = w.workflowId ∧
      a.finished = false}
  have finite : ids.Finite := by
    refine ((List.finite_toSet last.shared.actionPool).image Action.actionId).subset ?_
    rintro id ⟨a, inside, named, -⟩
    exact ⟨a, inside, named⟩
  have nonempty : ids.Nonempty := by
    obtain ⟨a, inside, owned, unfinished⟩ := unfinished
    exact ⟨a.actionId, a, inside, rfl, owned, unfinished⟩
  obtain ⟨id, ⟨a, inside, named, owned, unfinished⟩, first⟩ :=
    acyclic.exists_first finite nonempty
  have unpreceded : ∀ s ∈ last.shared.validActionSequences, s.actionNext ≠ a.actionId := by
    intro s valid next
    obtain ⟨stored, prev⟩ := List.mem_filter.mp valid
    obtain ⟨b, among, left⟩ := List.any_eq_true.mp prev
    simp only [Bool.and_eq_true, beq_iff_eq, Bool.not_eq_true'] at left
    -- both ends of the sequence lie in the workflow, so the first action was not first
    obtain ⟨a', was, sameId, sameWorkflow, -⟩ := moved.rows a inside
    obtain ⟨b', was', sameId', sameWorkflow', -⟩ := moved.rows b among
    have together := consistent.within s (moved.sequences stored) b' was' a' was
      (sameId'.trans left.1) (sameId.trans next.symm)
    refine first b.actionId ⟨b, among, rfl, ?_, left.2⟩ ?_
    · rw [← owned, ← sameWorkflow, ← sameWorkflow', together]
    · show ⟨b.actionId, id⟩ ∈ last.shared.actionSequences
      rw [left.1, ← named, ← next]
      exact stored
  have joinedRow : last.shared.workflowOf a = some w :=
    Database.workflowOf_eq_some.mpr ⟨row, owned.symm⟩
  refine ⟨(Database.joined a w, w), List.mem_filter.mpr ⟨?_, ?_⟩, owned, rfl⟩
  · exact List.mem_filterMap.mpr ⟨a, inside, by rw [joinedRow]; rfl⟩
  · simp only [Database.ready, Database.joined, unfinished, unpaused, Bool.not_false,
      Bool.and_true, List.all_eq_true]
    exact fun s valid => by simpa using unpreceded s valid

end Runs

/-! One engine over the stored two-step workflow. -/

def oneEngine : Process := ⟨"cc", "manager", 1⟩

def chainStored : Database := afterwards 0 (createWorkflow oneEngine chain) .empty

def requested : Machine.Label pool Unit Operation → Option String
  | .call _ (.send (.request action _)) => some action.actionId
  | _ => none

def answers (_ : Unit) (c : PoolCall) (db : Database) (own : Worker) :
    Option (c.Reply × Database × Worker) :=
  let answered := answer true db own.context c
  some (answered.1, answered.2.1, ⟨answered.2.2, observe db own.observed c⟩)

/-- The engine starts, finds no finished workflow, reads the first action as running, reads
the action and counts the repetition. -/
def powerOnMoves : List (Machine.Move Unit Operation) :=
  [.start () (.event 0 .powerOn "" ""), .advance (), .advance (), .advance (), .advance ()]

theorem answers_sound (thread : Unit) (c : PoolCall) (db : Database) (own : Worker)
    (answered : c.Reply × Database × Worker) (served : answers thread c db own = some answered) :
    (machine oneEngine Unit).answers thread c db own answered.1 answered.2.1 answered.2.2 := by
  obtain rfl := Option.some.inj served
  exact ⟨answers_answer db own.context c, rfl⟩

theorem request_ready_chain : ∃ labels last next action option,
    (machine oneEngine Unit).Run (start Unit chainStored) labels last ∧
      (machine oneEngine Unit).Step last (.call () (.send (.request action option))) next ∧
      action.actionId = "a-create" ∧ Ready last.shared (last.own ()).observed action := by
  have sends : (((machine oneEngine Unit).moves answers (fun _ _ => True)
      (start Unit chainStored) powerOnMoves).bind fun last =>
        ((machine oneEngine Unit).move answers last (.advance ())).bind
        fun _ => (Machine.label (.advance ()) last).bind requested) = some "a-create" := by
    decide
  obtain ⟨last, reached, sends⟩ := Option.bind_eq_some_iff.mp sends
  obtain ⟨next, moved, sends⟩ := Option.bind_eq_some_iff.mp sends
  obtain ⟨labels, guarded⟩ := Machine.run_of_moves answers_sound reached
  have run := guarded.mono fun _ _ _ taken => taken.2
  obtain ⟨taken, labelled, step⟩ := Machine.step_of_move answers_sound moved
  rw [labelled] at sends
  cases taken with
  | call thread c =>
      cases c with
      | send message =>
          cases message with
          | request action option =>
              exact ⟨labels, last, next, action, option, run, step, Option.some.inj sends,
                request_ready oneEngine chainStored run step⟩
          | _ => cases sends
      | _ => cases sends
  | _ => cases sends

/-- The first action is finished by its id. -/
def finishMoves : List (Machine.Move Unit Operation) :=
  [.start () (.finishAction "a-create"), .advance (), .advance (), .advance ()]

/-- The second action is running after the first one. -/
theorem running_exists_chain : ∃ labels last,
    (machine oneEngine Unit).Run (start Unit chainStored) labels last ∧
      (∃ a ∈ last.shared.actionPool, a.actionId = "a-create" ∧ a.finished = true) ∧
      ∃ running ∈ last.shared.runningActions, running.1.workflowId = "w-chain" := by
  have stored : Stored oneEngine chainStored := .createWorkflow .empty 0 chain
  have left : ((machine oneEngine Unit).moves answers (fun _ _ => True)
      (start Unit chainStored) finishMoves).map (fun last =>
        decide ((∃ a ∈ last.shared.actionPool, a.actionId = "a-create" ∧ a.finished = true) ∧
          (∃ w ∈ last.shared.workflow, w.workflowId = "w-chain" ∧ w.paused = false) ∧
          ∃ a ∈ last.shared.actionPool, a.workflowId = "w-chain" ∧ a.finished = false)) =
      some true := by
    decide
  obtain ⟨last, reached, facts⟩ := Option.map_eq_some_iff.mp left
  obtain ⟨finished, ⟨w, inside, named, unpaused⟩, unfinished⟩ := of_decide_eq_true facts
  obtain ⟨labels, guarded⟩ := Machine.run_of_moves answers_sound reached
  have run := guarded.mono fun _ _ _ taken => taken.2
  rw [← named] at unfinished
  obtain ⟨running, listed, owned, -⟩ := running_exists oneEngine stored run inside unpaused
    unfinished
  exact ⟨labels, last, run, finished, running, listed, owned.trans named⟩

end EngineRuns

end Tecs
