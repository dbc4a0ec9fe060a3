import Tecs.Workflow.EngineReach
import Tecs.Workflow.StoredWorkflows

set_option autoImplicit false

namespace Tecs

open Effect Program TransactionContext ActionPool

namespace EngineOwnership

/-- Whatever the outcomes of its calls, the function goes to no engine but the owner. -/
def Routes {α : Type} (env : Process) (db : Database) (w : WorkflowRow) (p : Pool α) : Prop :=
  ∀ (State : Type) (answer : (c : PoolCall) → State → c.Reply × State),
    (∀ c state, Served db w c (answer c state).1) →
      ∀ state, ∀ index ∈ engines answer p state, Owns env index w

/-- Alone with a database that serves it, the function goes to the owner once. -/
def Reaches {α : Type} (env : Process) (db : Database) (w : WorkflowRow) (p : Pool α) : Prop :=
  ∀ ctx, ∃ index, engines (alone 0) p (db, ctx) = [index] ∧ Owns env index w

/-- One engine covers the workflow, and the functions on it go to that engine. -/
structure Agrees (env : Process) (db : Database) (w : WorkflowRow) : Prop where
  covered : ∃ index, Owns env index w ∧ ∀ other, Owns env other w → other = index
  finishRoutes : ∀ id, Names db w id → Routes env db w (finishAction env id)
  restartRoutes : ∀ id, Names db w id → Routes env db w (restartAction env id)
  resumeRoutes : ∀ id, Names db w id → Routes env db w (resumeWorkflow env id)
  deleteRoutes : ∀ id, Names db w id → Routes env db w (deleteWorkflow env id)
  rollbackRoutes : ∀ id, Names db w id → Routes env db w (rollbackWorkflow env id)
  finishReaches : 1 < (db.unfinished w.workflowId).length →
    ∀ a ∈ db.actionsOf w.workflowId, isActionId a.actionId = true →
      Reaches env db w (finishAction env a.actionId)
  restartReaches : ∀ a ∈ db.unfinished w.workflowId, isActionId a.actionId = true →
    Reaches env db w (restartAction env a.actionId)
  resumeReaches : ∀ id, Names db w id → Reaches env db w (resumeWorkflow env id)
  deleteReaches : ∀ id, Names db w id → Reaches env db w (deleteWorkflow env id)
  rollbackReaches : w.rollbackWorkflowId ≠ "" →
    ∀ id, Names db w id → Reaches env db w (rollbackWorkflow env id)

/-- Whatever the outcomes of its calls, storing workflows wakes no engine but the owner of
each, and a success wakes it once. -/
def Starts (env : Process) (p : Pool Status) : Prop :=
  ∀ (State : Type) (answer : (c : PoolCall) → State → c.Reply × State) (state : State),
    let inserted : WorkflowRow → Prop := fun row =>
      PoolCall.sql (.insertWorkflow row) ∈ p.calls (S := pool) answer state
    (∀ index ∈ engines answer p state, ∀ row, inserted row → Owns env index row) ∧
    ((p.exec (S := pool) answer state).1 = Status.success →
      (∃ row, inserted row) ∧ ∃ index, engines answer p state = [index])

/-! Storing. -/

section Storing

variable {env : Process} {State : Type} {answer : (c : PoolCall) → State → c.Reply × State}
  {state : State}

theorem calls_insertAll (statements : List Statement) : ∀ state : State,
    (insertAll statements).calls (S := pool) answer state = statements.map PoolCall.sql := by
  induction statements with
  | nil => exact fun state => rfl
  | cons s rest ih =>
      intro state
      exact congrArg (PoolCall.sql s :: ·) (ih _)

/-- The calls of the transaction and of the wake-up that follows its success. -/
theorem calls_storeAndWakeup (statements : List Statement) {engine : Int} (workflowId : String)
    (known : 0 ≤ engine ∧ engine < env.numberOfEngines) :
    ∃ woken : List PoolCall, (storeAndWakeup env statements engine workflowId).calls (S := pool)
        answer state =
        .transactionBegin :: (statements.map PoolCall.sql ++ .transactionCommit :: woken) ∧
      (woken = [] ∨ woken = [.wakeup engine workflowId]) ∧
      (((storeAndWakeup env statements engine workflowId).exec (S := pool) answer state).1 =
        Status.success → woken = [.wakeup engine workflowId]) := by
  have guarded : wakeupEngine env engine workflowId = Pool.wakeup engine workflowId :=
    if_neg (by omega)
  let opened := (answer .transactionBegin state).2
  let inserted := ((insertAll statements).exec (S := pool) answer opened).2
  let committed := answer .transactionCommit inserted
  let last : Pool Status :=
    if committed.1 = Status.success then wakeupEngine env engine workflowId
    else return committed.1
  have listed : (storeAndWakeup env statements engine workflowId).calls (S := pool) answer state =
      .transactionBegin :: (statements.map PoolCall.sql ++
        .transactionCommit :: last.calls (S := pool) answer committed.2) := by
    unfold storeAndWakeup
    rw [calls_bind, calls_bind, calls_insertAll]
    rfl
  have returned : ((storeAndWakeup env statements engine workflowId).exec (S := pool) answer
      state).1 = (last.exec (S := pool) answer committed.2).1 := by
    unfold storeAndWakeup
    rw [exec_bind, exec_bind]
    rfl
  refine ⟨_, listed, ?_, ?_⟩
  · by_cases done : committed.1 = Status.success
    · simp only [last, if_pos done, guarded]
      exact .inr rfl
    · simp only [last, if_neg done]
      exact .inl rfl
  · rw [returned]
    by_cases done : committed.1 = Status.success
    · simp only [last, if_pos done, guarded]
      exact fun _ => rfl
    · simp only [last, if_neg done]
      exact fun success => absurd success done

end Storing

theorem starts_storeAndWakeup {env : Process} (positive : 1 ≤ env.numberOfEngines)
    {statements : List Statement} {engine : Int} (workflowId : String)
    (known : 0 ≤ engine ∧ engine < env.numberOfEngines)
    (rows : ∀ row, Statement.insertWorkflow row ∈ statements → row.application = env.application ∧
      row.process = env.process ∧ row.engine = engine)
    (some : ∃ row, Statement.insertWorkflow row ∈ statements) :
    Starts env (storeAndWakeup env statements engine workflowId) := by
  intro State answer state
  obtain ⟨woken, listed, cases_, success⟩ := calls_storeAndWakeup
    statements workflowId known
  have silent : (statements.map PoolCall.sql).filterMap PoolCall.engineIndex = [] := by
    refine List.filterMap_eq_nil_iff.mpr fun c inside => ?_
    obtain ⟨s, -, rfl⟩ := List.mem_map.mp inside
    rfl
  have addressed : engines answer (storeAndWakeup env statements engine workflowId) state =
      woken.filterMap PoolCall.engineIndex := by
    unfold engines
    rw [listed, List.filterMap_cons_none rfl, List.filterMap_append, silent, List.nil_append,
      List.filterMap_cons_none rfl]
  have unstored : ∀ row, PoolCall.sql (.insertWorkflow row) ∉ woken := by
    intro row inside
    rcases cases_ with none | one
    · rw [none] at inside
      cases inside
    · rw [one] at inside
      cases List.mem_singleton.mp inside
  have inserted : ∀ row, PoolCall.sql (.insertWorkflow row) ∈
      (storeAndWakeup env statements engine workflowId).calls (S := pool) answer state ↔
      Statement.insertWorkflow row ∈ statements := by
    intro row
    simp [listed, unstored row]
  refine ⟨fun index toward row stored => ?_, fun done => ⟨?_, engine, ?_⟩⟩
  · have reached : index = engine := by
      rw [addressed] at toward
      rcases cases_ with none | one
      · rw [none] at toward
        cases toward
      · rw [one] at toward
        exact List.mem_singleton.mp toward
    obtain ⟨application, process, assigned⟩ := rows row ((inserted row).mp stored)
    rw [owns_iff positive application process (by omega), reached, assigned]
    unfold owner
    omega
  · obtain ⟨row, inside⟩ := some
    exact ⟨row, (inserted row).mpr inside⟩
  · rw [addressed, success done]
    rfl

theorem starts_error {env : Process} {ret : Status} (error : ret ≠ Status.success) :
    Starts env (return ret) := by
  intro State answer state
  exact ⟨fun index none => absurd none List.not_mem_nil, fun success => absurd success error⟩

/-- The engine of a new workflow is the next one in turn. -/
theorem starts_getAvailableEngine {env : Process} (positive : 1 ≤ env.numberOfEngines)
    {rest : Int → Pool Status}
    (starts : ∀ engine, engine < env.numberOfEngines → Starts env (rest engine)) :
    Starts env (getAvailableEngine env >>= rest) := by
  intro State answer state
  have turn : (answer .alternateEngine state).1.tmod env.numberOfEngines <
      env.numberOfEngines := Int.tmod_lt_of_pos _ (by omega)
  obtain ⟨owned, woken⟩ := starts _ turn State answer (answer .alternateEngine state).2
  have listed : (getAvailableEngine env >>= rest).calls (S := pool) answer state =
      .alternateEngine :: (rest ((answer .alternateEngine state).1.tmod env.numberOfEngines)).calls
        (S := pool) answer (answer .alternateEngine state).2 := rfl
  have same : engines answer (getAvailableEngine env >>= rest) state =
      engines answer (rest ((answer .alternateEngine state).1.tmod env.numberOfEngines))
        (answer .alternateEngine state).2 := by
    unfold engines
    rw [listed, List.filterMap_cons_none rfl]
  have inserted : ∀ row, PoolCall.sql (.insertWorkflow row) ∈
      (getAvailableEngine env >>= rest).calls (S := pool) answer state ↔
      PoolCall.sql (.insertWorkflow row) ∈
        (rest ((answer .alternateEngine state).1.tmod env.numberOfEngines)).calls (S := pool)
          answer (answer .alternateEngine state).2 := by
    intro row
    simp [listed]
  dsimp only
  simp only [inserted, same]
  exact ⟨owned, woken⟩

/-- The rows of a workflow carry the engine it was assigned. -/
theorem insertRows_row {env : Process} {w : Workflow} {row : WorkflowRow}
    (inside : Statement.insertWorkflow row ∈ w.insertRows env) : row = w.row env := by
  rcases List.mem_cons.mp inside with same | inside
  · exact Statement.insertWorkflow.inj same
  · obtain ⟨a, -, other⟩ := List.mem_map.mp inside
    cases other

theorem insertSequences_row {w : Workflow} {row : WorkflowRow} :
    Statement.insertWorkflow row ∉ w.insertSequences := by
  intro inside
  obtain ⟨s, -, other⟩ := List.mem_map.mp inside
  cases other

/-- `Action::Validate` refuses a negative engine number. -/
theorem engine_of_validate {action : Action} (valid : action.validate = true) :
    0 ≤ action.workflowEngine := by
  by_contra negative
  have refused : action.validate = false := by
    unfold Action.validate
    simp only [Int.not_le.mp negative, if_true, ite_self]
  rw [refused] at valid
  cases valid

theorem engine_of_assign {w : Workflow} {engine : Int} (nonempty : w.actions.isEmpty = false)
    (valid : (w.assign engine).actions.all Action.validate = true) : 0 ≤ engine := by
  obtain ⟨a, rest, same⟩ := List.exists_cons_of_ne_nil (List.isEmpty_eq_false_iff.mp nonempty)
  have assigned : ∃ b ∈ (w.assign engine).actions, b.workflowEngine = engine := by
    refine ⟨_, List.mem_map.mpr ⟨a, ?_, rfl⟩, rfl⟩
    rw [same]
    exact List.mem_cons_self
  obtain ⟨b, inside, rfl⟩ := assigned
  exact engine_of_validate (List.all_eq_true.mp valid b inside)

theorem createWorkflow_starts {env : Process} (positive : 1 ≤ env.numberOfEngines)
    (workflow : Workflow) : Starts env (createWorkflow env workflow) := by
  unfold createWorkflow
  split
  · exact starts_error (by decide)
  · rename_i nonempty
    refine starts_getAvailableEngine positive fun engine turn => ?_
    dsimp only
    split
    · rename_i valid
      have known := engine_of_assign (by simpa using nonempty) (Bool.and_eq_true_iff.mp valid).1
      refine starts_storeAndWakeup positive _ ⟨known, turn⟩ (fun row inside => ?_)
        ⟨_, List.mem_append_left _ List.mem_cons_self⟩
      rcases List.mem_append.mp inside with inside | inside
      · rw [insertRows_row inside]
        exact ⟨rfl, rfl, rfl⟩
      · exact absurd inside insertSequences_row
    · exact starts_error (by decide)

theorem createActionWorkflow_starts {env : Process} (positive : 1 ≤ env.numberOfEngines)
    (action : Action) (workflowId : String) :
    Starts env (createActionWorkflow env action workflowId) := by
  refine starts_getAvailableEngine positive fun engine turn => ?_
  dsimp only
  split
  · rename_i valid
    have known : 0 ≤ engine := engine_of_validate valid
    refine starts_storeAndWakeup positive _ ⟨known, turn⟩ (fun row inside => ?_)
      ⟨_, List.mem_cons_self⟩
    rw [insertRows_row inside]
    exact ⟨rfl, rfl, rfl⟩
  · exact starts_error (by decide)

theorem createWorkflowWithRollback_starts {env : Process} (positive : 1 ≤ env.numberOfEngines)
    (workflow rollback : Workflow) :
    Starts env (createWorkflowWithRollback env workflow rollback) := by
  unfold createWorkflowWithRollback
  split
  · exact starts_error (by decide)
  · rename_i nonempty
    refine starts_getAvailableEngine positive fun engine turn => ?_
    dsimp only
    split
    · rename_i valid
      simp only [Bool.and_eq_true] at valid
      have some : workflow.actions.isEmpty = false ∧ rollback.actions.isEmpty = false := by
        simpa using nonempty
      have known : 0 ≤ engine :=
        engine_of_assign (w := workflow.withRollback rollback) some.1 valid.1.2
      refine starts_storeAndWakeup positive _ ⟨known, turn⟩ (fun row inside => ?_)
        ⟨(((workflow.withRollback rollback).assign engine).row env), by simp [Workflow.insertRows]⟩
      simp only [List.mem_append] at inside
      rcases inside with ((inside | inside) | inside) | inside
      · rw [insertRows_row inside]
        exact ⟨rfl, rfl, rfl⟩
      · rw [insertRows_row inside]
        exact ⟨rfl, rfl, rfl⟩
      · exact absurd inside insertSequences_row
      · exact absurd inside insertSequences_row
    · exact starts_error (by decide)

/-! The two-step workflow on an engine. -/

/-- The tables in which `chain` is stored for one engine number. -/
def chainOn (env : Process) (engine : Nat) : Database where
  workflow := [(chain.assign engine).row env]
  actionPool := (chain.assign engine).storedActions
  actionSequences := chain.sequences
  workflowHistory := []
  workflowKey := List.nodup_singleton _
  actionKey := by
    show ["a-create", "a-start"].Nodup
    decide
  sequenceKey := by decide
  historyKey := List.nodup_nil
  actionWorkflow := fun a inside =>
    List.mem_singleton.mpr (chain.assign_workflowId engine a inside)
  sequenceActions := by
    show ∀ s ∈ chain.sequences, s.actionPrev ∈ ["a-create", "a-start"] ∧
      s.actionNext ∈ ["a-create", "a-start"]
    decide
  engineCheck := by
    intro w only
    rw [List.mem_singleton.mp only]
    exact Int.natCast_nonneg engine
  actionCheck := by
    intro a inside
    have checked : ∀ b ∈ chain.actions, b.Checked := by decide
    obtain ⟨b, among, rfl⟩ := List.mem_map.mp inside
    obtain ⟨c, original, rfl⟩ := List.mem_map.mp among
    have here := checked c original
    exact ⟨here.messageId, here.successFeedback, here.failureFeedback, here.timeoutFeedback,
      here.progress, here.progressWeight⟩
  sequenceCheck := by decide
  historyCheck := Database.historyCheck_nil

theorem chainOn_hosted (env : Process) (engine : Nat) :
    Hosted env engine (chainOn env engine) ((chain.assign engine).row env) where
  row := List.mem_singleton_self _
  id := by
    show isWorkflowId "w-chain" = true
    decide
  application := rfl
  process := rfl
  engine := rfl

/-- Restarting the first step goes to the engine number itself, if `WakeupEngine` lets it. -/
theorem chainOn_restart (env : Process) (engine : Nat) :
    engines (alone 0) (restartAction env "a-create") (chainOn env engine, enable) =
      if (engine : Int) < 0 ∨ (engine : Int) > env.numberOfEngines then []
      else [(engine : Int)] := by
  have step : ∃ a ∈ (chainOn env engine).actionPool, a.actionId = "a-create" ∧
      a.workflowId = "w-chain" ∧ a.finished = false :=
    ⟨_, List.mem_cons_self, rfl, rfl, rfl⟩
  obtain ⟨a, inside, named, owned, unfinished⟩ := step
  have tagged : isActionId a.actionId = true := by
    rw [named]
    decide
  rw [← named]
  exact engines_restartAction (chainOn_hosted env engine) inside owned unfinished tagged enable

/-- With the number of engines or more stored, the wake-up misses the owner. -/
theorem chainOn_disagrees {env : Process} {engine : Nat}
    (beyond : env.numberOfEngines ≤ engine) :
    ¬Agrees env (chainOn env engine) ((chain.assign engine).row env) := by
  intro agrees
  have step : ∃ a ∈ (chainOn env engine).unfinished "w-chain", a.actionId = "a-create" :=
    ⟨_, List.mem_cons_self, rfl⟩
  obtain ⟨a, inside, named⟩ := step
  obtain ⟨index, reached, owns⟩ := agrees.restartReaches a inside (by rw [named]; decide) enable
  rw [named, chainOn_restart] at reached
  split at reached
  · cases reached
  · have same : (engine : Int) = index := by simpa using reached
    have within := owns.1.2
    omega

theorem agrees_of_lt {env : Process} (positive : 1 ≤ env.numberOfEngines) {engine : Int}
    (within : engine < env.numberOfEngines) {db : Database} {w : WorkflowRow}
    (hosted : Hosted env engine db w) : Agrees env db w := by
  have owns := hosted.owns_iff positive
  have stored := hosted.stored
  have self : owner env engine = engine := by
    unfold owner
    omega
  have routes : ∀ p : Pool Status, (∀ (State : Type)
      (answer : (c : PoolCall) → State → c.Reply × State),
      (∀ c state, Served db w c (answer c state).1) →
        ∀ state, Toward answer p state (owner env engine)) → Routes env db w p :=
    fun p toward State answer served state index inside =>
      (owns index).mpr (toward State answer served state index inside)
  have reaches : ∀ p : Pool Status,
      (∀ ctx, engines (alone 0) p (db, ctx) = [owner env engine]) → Reaches env db w p :=
    fun p reached ctx => ⟨_, reached ctx, (owns _).mpr rfl⟩
  have woken : (if engine < 0 ∨ engine > env.numberOfEngines then [] else [engine]) =
      [owner env engine] := by
    rw [if_neg (by omega), self]
  exact
    { covered := ⟨owner env engine, (owns _).mpr rfl, fun other owned => (owns other).mp owned⟩
      finishRoutes := fun id named => routes _ fun State answer served state =>
        finishAction_toward served hosted named within state
      restartRoutes := fun id named => routes _ fun State answer served state =>
        restartAction_toward served hosted named within state
      resumeRoutes := fun id named => routes _ fun State answer served state =>
        resumeWorkflow_toward served hosted named state
      deleteRoutes := fun id named => routes _ fun State answer served state =>
        deleteWorkflow_toward served hosted named state
      rollbackRoutes := fun id named => routes _ fun State answer served state =>
        rollbackWorkflow_toward served hosted named state
      finishReaches := fun more a inside tagged => reaches _ fun ctx => by
        obtain ⟨row, owned⟩ := Database.mem_actionsOf.mp inside
        rw [engines_finishAction hosted row owned more tagged, woken]
      restartReaches := fun a inside tagged => reaches _ fun ctx => by
        obtain ⟨row, owned, unfinished⟩ := Database.mem_unfinished.mp inside
        rw [engines_restartAction hosted row owned unfinished tagged, woken]
      resumeReaches := fun id named => reaches _ (engines_resumeWorkflow hosted named)
      deleteReaches := fun id named => reaches _ (engines_deleteWorkflow hosted named)
      rollbackReaches := fun supported id named => reaches _ fun ctx =>
        engines_rollbackWorkflow hosted named ctx supported }

/-- The engines and the functions agree on every stored workflow exactly when its engine
number is below the number of engines. -/
theorem agrees_iff (env : Process) (positive : 1 ≤ env.numberOfEngines) (engine : Int)
    (stored : 0 ≤ engine) :
    ((∀ db w, Hosted env engine db w → Agrees env db w) ∧
      (∀ workflow, Starts env (createWorkflow env workflow)) ∧
      (∀ action workflowId, Starts env (createActionWorkflow env action workflowId)) ∧
      (∀ workflow rollback, Starts env (createWorkflowWithRollback env workflow rollback))) ↔
    engine < env.numberOfEngines := by
  lift engine to Nat using stored
  constructor
  · rintro ⟨agrees, -⟩
    by_contra beyond
    exact chainOn_disagrees (Int.not_lt.mp beyond) (agrees _ _ (chainOn_hosted env engine))
  · intro within
    exact ⟨fun db w hosted => agrees_of_lt positive within hosted, createWorkflow_starts positive,
      createActionWorkflow_starts positive, createWorkflowWithRollback_starts positive⟩

/-- One engine is left of two: the function indexes `engines` past its end. -/
theorem wakeup_past_end :
    Hosted ⟨"cc", "manager", 1⟩ 1 (chainOn ⟨"cc", "manager", 1⟩ 1)
        ((chain.assign 1).row ⟨"cc", "manager", 1⟩) ∧
      engines (alone 0) (restartAction ⟨"cc", "manager", 1⟩ "a-create")
        (chainOn ⟨"cc", "manager", 1⟩ 1, enable) = [1] ∧
      ¬Agrees ⟨"cc", "manager", 1⟩ (chainOn ⟨"cc", "manager", 1⟩ 1)
        ((chain.assign 1).row ⟨"cc", "manager", 1⟩) := by
  refine ⟨chainOn_hosted _ 1, ?_, chainOn_disagrees (by decide)⟩
  rw [chainOn_restart]
  decide

theorem agrees_iff_two : ∃ db w, Hosted ⟨"cc", "manager", 2⟩ 1 db w ∧
    Agrees ⟨"cc", "manager", 2⟩ db w := by
  have hosted := chainOn_hosted ⟨"cc", "manager", 2⟩ 1
  have all := ((agrees_iff ⟨"cc", "manager", 2⟩ (by decide) 1 (by decide)).mpr (by decide)).1
  exact ⟨_, _, hosted, all _ _ hosted⟩

end EngineOwnership

end Tecs
