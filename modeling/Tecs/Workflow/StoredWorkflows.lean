import Tecs.Workflow.PoolAlone

set_option autoImplicit false

namespace Tecs

open Effect TransactionContext Precedence

/-- The tables after a function has run. -/
def afterwards {α : Type} (alternate : Int) (p : Pool α) (db : Database) : Database :=
  (p.exec (alone alternate) (db, enable)).2.1

/-- The databases that storing workflows leads to. -/
inductive Stored (env : Process) : Database → Prop
  | empty : Stored env .empty
  | createActionWorkflow {db : Database} (before : Stored env db) (alternate : Int)
      (action : Action) (workflowId : String) :
      Stored env (afterwards alternate (createActionWorkflow env action workflowId) db)
  | createWorkflow {db : Database} (before : Stored env db) (alternate : Int)
      (workflow : Workflow) : Stored env (afterwards alternate (createWorkflow env workflow) db)
  | createWorkflowWithRollback {db : Database} (before : Stored env db) (alternate : Int)
      (workflow rollback : Workflow) :
      Stored env (afterwards alternate (createWorkflowWithRollback env workflow rollback) db)

/-! Storing is one transaction. -/

theorem exec_insertAll (alternate : Int) (statements : List Statement) (db : Database) :
    ∀ ctx : TransactionContext Statement, 0 < ctx.beginCount →
      (insertAll statements).exec (alone alternate) (db, ctx) =
        ((), db, { ctx with sql := ctx.sql ++ statements }) := by
  induction statements with
  | nil =>
      intro ctx on
      simp [insertAll]
  | cons s rest ih =>
      intro ctx on
      have appended : 0 < (ctx.append s).beginCount := on
      unfold insertAll
      rw [Program.exec_bind, exec_sql_on _ _ _ s on]
      rw [ih _ appended]
      simp [append]

theorem afterwards_storeAndWakeup (env : Process) (alternate : Int) (statements : List Statement)
    (engine : Int) (workflowId : String) (db : Database) :
    afterwards alternate (storeAndWakeup env statements engine workflowId) db =
      (db.executeTransaction statements).getD db := by
  have woken : ∀ (ret : Status) (state : Database × TransactionContext Statement),
      ((if ret = Status.success then wakeupEngine env engine workflowId else return ret :
        Pool Status).exec (alone alternate) state).2 = state := by
    intro ret state
    split
    · unfold wakeupEngine
      split <;> rfl
    · rfl
  have inserted := exec_insertAll alternate statements db ⟨1, [], ∅⟩ Nat.one_pos
  unfold afterwards storeAndWakeup
  have opened : (enable : TransactionContext Statement).begin = ⟨1, [], ∅⟩ := rfl
  rw [Program.exec_bind, exec_begin, opened, Program.exec_bind, inserted, Program.exec_bind, woken,
    exec_commit_outermost _ _ _ rfl]
  rfl

/-! What a batch of inserts adds. -/

def Statement.workflow? : Statement → Option WorkflowRow
  | .insertWorkflow row => some row
  | _ => none

def Statement.action? : Statement → Option Action
  | .insertAction row => some (Database.stored row)
  | _ => none

def Statement.sequence? : Statement → Option ActionSequence
  | .insertSequence row => some row
  | _ => none

/-- The rows of some statements at the end of the tables; the history is left alone. -/
structure Database.Appended (db later : Database) (workflow : List WorkflowRow)
    (actionPool : List Action) (actionSequences : List ActionSequence) : Prop where
  workflow : later.workflow = db.workflow ++ workflow
  actionPool : later.actionPool = db.actionPool ++ actionPool
  actionSequences : later.actionSequences = db.actionSequences ++ actionSequences
  workflowHistory : later.workflowHistory = db.workflowHistory

theorem execute_stores {db later : Database} {s : Statement} (stores : s.stores = true)
    (done : db.execute s = some later) :
    db.Appended later s.workflow?.toList s.action?.toList s.sequence?.toList := by
  cases s with
  | insertWorkflow row =>
      simp only [Database.execute, Database.insertWorkflow] at done
      split at done
      · obtain rfl := Option.some.inj done
        exact ⟨rfl, (List.append_nil _).symm, (List.append_nil _).symm, rfl⟩
      · cases done
  | insertAction row =>
      simp only [Database.execute, Database.insertAction] at done
      split at done
      · obtain rfl := Option.some.inj done
        exact ⟨(List.append_nil _).symm, rfl, (List.append_nil _).symm, rfl⟩
      · cases done
  | insertSequence row =>
      simp only [Database.execute, Database.insertSequence] at done
      split at done
      · obtain rfl := Option.some.inj done
        exact ⟨(List.append_nil _).symm, (List.append_nil _).symm, rfl, rfl⟩
      · cases done
  | insertHistory => cases stores
  | insertLabelsHistory => cases stores
  | updateAction => cases stores
  | updatePaused => cases stores
  | deleteWorkflow => cases stores

theorem executeTransaction_stores {batch : List Statement} :
    ∀ {db later : Database}, (∀ s ∈ batch, s.stores = true) →
      db.executeTransaction batch = some later →
      db.Appended later (batch.filterMap Statement.workflow?)
        (batch.filterMap Statement.action?) (batch.filterMap Statement.sequence?) := by
  induction batch with
  | nil =>
      intro db later _ done
      obtain rfl := Option.some.inj done
      exact ⟨(List.append_nil _).symm, (List.append_nil _).symm, (List.append_nil _).symm, rfl⟩
  | cons s rest ih =>
      intro db later stores done
      obtain ⟨middle, first, others⟩ := Option.bind_eq_some_iff.mp done
      have front := execute_stores (stores s List.mem_cons_self) first
      have back := ih (fun x inside => stores x (List.mem_cons_of_mem _ inside)) others
      have split : ∀ {β : Type} (f : Statement → Option β),
          (s :: rest).filterMap f = (f s).toList ++ rest.filterMap f := by
        intro β f
        cases here : f s <;> simp [here]
      constructor
      · rw [back.workflow, front.workflow, split, List.append_assoc]
      · rw [back.actionPool, front.actionPool, split, List.append_assoc]
      · rw [back.actionSequences, front.actionSequences, split, List.append_assoc]
      · rw [back.workflowHistory, front.workflowHistory]

/-! The rows of a workflow as the statements carry them. -/

namespace Workflow

variable (env : Process) (w : Workflow)

def storedActions : List Action := w.actions.map Database.stored

@[simp] theorem insertRows_workflow? :
    (w.insertRows env).filterMap Statement.workflow? = [w.row env] := by
  have none : w.actions.filterMap (Statement.workflow? ∘ Statement.insertAction) = [] :=
    List.filterMap_eq_nil_iff.mpr fun _ _ => rfl
  have first : Statement.workflow? (.insertWorkflow (w.row env)) = some (w.row env) := rfl
  rw [insertRows, List.filterMap_cons_some first, List.filterMap_map, none]

@[simp] theorem insertRows_action? :
    (w.insertRows env).filterMap Statement.action? = w.storedActions := by
  have rows : w.actions.filterMap (Statement.action? ∘ Statement.insertAction) =
      w.actions.map Database.stored := congrFun List.filterMap_eq_map _
  rw [insertRows, List.filterMap_cons_none rfl, List.filterMap_map, rows]
  rfl

@[simp] theorem insertRows_sequence? :
    (w.insertRows env).filterMap Statement.sequence? = [] := by
  refine List.filterMap_eq_nil_iff.mpr fun s inside => ?_
  rcases List.mem_cons.mp inside with rfl | inside
  · rfl
  · obtain ⟨a, -, rfl⟩ := List.mem_map.mp inside
    rfl

@[simp] theorem insertSequences_workflow? :
    w.insertSequences.filterMap Statement.workflow? = [] := by
  refine List.filterMap_eq_nil_iff.mpr fun s inside => ?_
  obtain ⟨e, -, rfl⟩ := List.mem_map.mp inside
  rfl

@[simp] theorem insertSequences_action? :
    w.insertSequences.filterMap Statement.action? = [] := by
  refine List.filterMap_eq_nil_iff.mpr fun s inside => ?_
  obtain ⟨e, -, rfl⟩ := List.mem_map.mp inside
  rfl

@[simp] theorem insertSequences_sequence? :
    w.insertSequences.filterMap Statement.sequence? = w.sequences := by
  rw [insertSequences, List.filterMap_map]
  exact List.filterMap_some

theorem insertRows_stores : ∀ s ∈ w.insertRows env, s.stores = true := by
  intro s inside
  rcases List.mem_cons.mp inside with rfl | inside
  · rfl
  · obtain ⟨a, -, rfl⟩ := List.mem_map.mp inside
    rfl

theorem insertSequences_stores : ∀ s ∈ w.insertSequences, s.stores = true := by
  intro s inside
  obtain ⟨e, -, rfl⟩ := List.mem_map.mp inside
  rfl

theorem storedActions_ids : w.storedActions.map Action.actionId =
    w.actions.map Action.actionId := by
  simp [storedActions, List.map_map, Function.comp_def, Database.stored]

/-- Once assigned, every stored action names its workflow. -/
theorem assign_workflowId (engine : Int) : ∀ a ∈ (w.assign engine).storedActions,
    a.workflowId = w.workflowId := by
  intro a inside
  obtain ⟨b, among, rfl⟩ := List.mem_map.mp inside
  obtain ⟨c, -, rfl⟩ := List.mem_map.mp among
  rfl

end Workflow

/-! Sequences stay inside one workflow and have no cycle. -/

/-- The sequences join actions that are there, of one workflow, and have no cycle. -/
structure Consistent (sequences : List ActionSequence) (actions : List Action) : Prop where
  joined : ∀ s ∈ sequences, s.actionPrev ∈ actions.map Action.actionId ∧
    s.actionNext ∈ actions.map Action.actionId
  within : ∀ s ∈ sequences, ∀ a ∈ actions, ∀ b ∈ actions, a.actionId = s.actionPrev →
    b.actionId = s.actionNext → a.workflowId = b.workflowId
  acyclic : Acyclic (Precedes sequences)

theorem eq_of_actionId {actions : List Action} (keys : (actions.map Action.actionId).Nodup)
    {a b : Action} (left : a ∈ actions) (right : b ∈ actions) (same : a.actionId = b.actionId) :
    a = b :=
  List.inj_on_of_nodup_map keys left right same

/-- A row with the id of one of these rows is one of them. -/
theorem mem_of_actionId {actions part : List Action} (keys : (actions.map Action.actionId).Nodup)
    (inside : ∀ a ∈ part, a ∈ actions) {a : Action} (row : a ∈ actions)
    (named : a.actionId ∈ part.map Action.actionId) : a ∈ part := by
  obtain ⟨b, among, same⟩ := List.mem_map.mp named
  rw [← eq_of_actionId keys (inside b among) row same]
  exact among

theorem Consistent.of_perm {sequences : List ActionSequence} {actions actions' : List Action}
    (consistent : Consistent sequences actions) (same : actions.Perm actions') :
    Consistent sequences actions' where
  joined := fun s inside =>
    ⟨(same.map _).mem_iff.mp (consistent.joined s inside).1,
      (same.map _).mem_iff.mp (consistent.joined s inside).2⟩
  within := fun s inside a left b right =>
    consistent.within s inside a (same.mem_iff.mpr left) b (same.mem_iff.mpr right)
  acyclic := consistent.acyclic

/-- Actions with other ids and their sequences leave both parts consistent. -/
theorem Consistent.append {sequences sequences' : List ActionSequence}
    {actions actions' : List Action} (front : Consistent sequences actions)
    (back : Consistent sequences' actions')
    (keys : ((actions ++ actions').map Action.actionId).Nodup) :
    Consistent (sequences ++ sequences') (actions ++ actions') := by
  have inFront : ∀ a ∈ actions, a ∈ actions ++ actions' := fun a => List.mem_append_left _
  have inBack : ∀ a ∈ actions', a ∈ actions ++ actions' := fun a => List.mem_append_right _
  have apart : ∀ id ∈ actions'.map Action.actionId, id ∉ actions.map Action.actionId := by
    intro id new old
    rw [List.map_append] at keys
    exact (List.nodup_append.mp keys).2.2 id old id new rfl
  constructor
  · intro s inside
    rw [List.map_append, List.mem_append, List.mem_append]
    rcases List.mem_append.mp inside with inside | inside
    · exact ⟨.inl (front.joined s inside).1, .inl (front.joined s inside).2⟩
    · exact ⟨.inr (back.joined s inside).1, .inr (back.joined s inside).2⟩
  · intro s inside a left b right prev next
    rcases List.mem_append.mp inside with inside | inside
    · have ends := front.joined s inside
      rw [← prev, ← next] at ends
      exact front.within s inside a (mem_of_actionId keys inFront left ends.1) b
        (mem_of_actionId keys inFront right ends.2) prev next
    · have ends := back.joined s inside
      rw [← prev, ← next] at ends
      exact back.within s inside a (mem_of_actionId keys inBack left ends.1) b
        (mem_of_actionId keys inBack right ends.2) prev next
  · have union := front.acyclic.union back.acyclic
      (fun a b edge => front.joined ⟨a, b⟩ edge)
      (fun a b edge => ⟨apart _ (back.joined ⟨a, b⟩ edge).1, apart _ (back.joined ⟨a, b⟩ edge).2⟩)
    exact union.mono fun a b edge => List.mem_append.mp edge

theorem consistent_nil (actions : List Action) : Consistent [] actions where
  joined := fun _ none => absurd none List.not_mem_nil
  within := fun _ none => absurd none List.not_mem_nil
  acyclic := by
    intro a cycle
    rcases Relation.TransGen.tail'_iff.mp cycle with ⟨b, -, edge⟩
    exact absurd edge List.not_mem_nil

/-- A workflow that `Validate` accepted is consistent when it is stored. -/
theorem Workflow.consistent {w : Workflow} {engine : Int}
    (valid : (w.assign engine).validate = true) :
    Consistent (w.assign engine).sequences (w.assign engine).storedActions where
  joined := by
    rw [storedActions_ids]
    exact (w.assign engine).joined
  within := fun _ _ a left b right _ _ =>
    (w.assign_workflowId engine a left).trans (w.assign_workflowId engine b right).symm
  acyclic := (w.assign engine).validateSequence_eq_true.mp (validateSequence_of_validate valid)

def Database.Consistent (db : Database) : Prop := Tecs.Consistent db.actionSequences db.actionPool

/-- A transaction that adds consistent rows. -/
theorem Database.Consistent.store {db later : Database} (consistent : db.Consistent)
    {batch : List Statement} (stores : ∀ s ∈ batch, s.stores = true)
    (done : db.executeTransaction batch = some later)
    (added : Tecs.Consistent (batch.filterMap Statement.sequence?)
      (batch.filterMap Statement.action?)) : later.Consistent := by
  obtain ⟨-, pool, sequences, -⟩ := executeTransaction_stores stores done
  have keys := later.actionKey
  unfold Database.Consistent
  rw [pool] at keys
  rw [pool, sequences]
  exact Tecs.Consistent.append consistent added keys

theorem afterwards_getAvailableEngine {α : Type} (env : Process) (alternate : Int)
    (rest : Int → Pool α) (db : Database) :
    afterwards alternate (getAvailableEngine env >>= rest) db =
      afterwards alternate (rest (alternate.tmod env.numberOfEngines)) db := rfl

theorem createWorkflow_consistent (env : Process) (alternate : Int) (workflow : Workflow)
    {db : Database} (consistent : db.Consistent) :
    (afterwards alternate (createWorkflow env workflow) db).Consistent := by
  unfold createWorkflow
  split
  · exact consistent
  · rw [afterwards_getAvailableEngine]
    dsimp only
    split
    · rename_i valid
      rw [afterwards_storeAndWakeup]
      rw [Bool.and_eq_true] at valid
      have rows := Workflow.consistent valid.2
      cases done : db.executeTransaction _ with
      | none => exact consistent
      | some later =>
          refine consistent.store (fun s inside => ?_) done ?_
          · rcases List.mem_append.mp inside with inside | inside
            · exact Workflow.insertRows_stores env _ s inside
            · exact Workflow.insertSequences_stores _ s inside
          · simpa [List.filterMap_append] using rows
    · exact consistent

theorem createActionWorkflow_consistent (env : Process) (alternate : Int) (action : Action)
    (workflowId : String) {db : Database} (consistent : db.Consistent) :
    (afterwards alternate (createActionWorkflow env action workflowId) db).Consistent := by
  unfold createActionWorkflow
  rw [afterwards_getAvailableEngine]
  dsimp only
  split
  · rw [afterwards_storeAndWakeup]
    cases done : db.executeTransaction _ with
    | none => exact consistent
    | some later =>
        refine consistent.store (Workflow.insertRows_stores env _) done ?_
        rw [Workflow.insertRows_sequence?]
        exact consistent_nil _
  · exact consistent

theorem pair_stores (env : Process) (w r : Workflow) :
    ∀ s ∈ w.insertRows env ++ r.insertRows env ++ r.insertSequences ++ w.insertSequences,
      s.stores = true := by
  intro s inside
  simp only [List.mem_append] at inside
  rcases inside with ((inside | inside) | inside) | inside
  · exact w.insertRows_stores env s inside
  · exact r.insertRows_stores env s inside
  · exact r.insertSequences_stores s inside
  · exact w.insertSequences_stores s inside

theorem createWorkflowWithRollback_consistent (env : Process) (alternate : Int)
    (workflow rollback : Workflow) {db : Database} (consistent : db.Consistent) :
    (afterwards alternate (createWorkflowWithRollback env workflow rollback) db).Consistent := by
  unfold createWorkflowWithRollback
  split
  · exact consistent
  · rw [afterwards_getAvailableEngine]
    dsimp only
    split
    · rename_i valid
      rw [afterwards_storeAndWakeup]
      simp only [Bool.and_eq_true] at valid
      have back := Workflow.consistent valid.1.1.2
      have front := Workflow.consistent valid.2
      cases done : db.executeTransaction _ with
      | none => exact consistent
      | some later =>
          have keys := later.actionKey
          rw [(executeTransaction_stores (pair_stores env _ _) done).actionPool] at keys
          refine consistent.store (pair_stores env _ _) done ?_
          simp only [List.filterMap_append, Workflow.insertRows_action?,
            Workflow.insertRows_sequence?, Workflow.insertSequences_action?,
            Workflow.insertSequences_sequence?, List.append_nil, List.nil_append,
            List.map_append] at keys ⊢
          refine (back.append front ?_).of_perm List.perm_append_comm
          rw [List.map_append]
          exact List.perm_append_comm.nodup_iff.mp (List.nodup_append.mp keys).2.1
    · exact consistent

theorem Stored.consistent {env : Process} {db : Database} (stored : Stored env db) :
    db.Consistent := by
  induction stored with
  | empty => exact consistent_nil _
  | createActionWorkflow _ alternate action workflowId ih =>
      exact createActionWorkflow_consistent env alternate action workflowId ih
  | createWorkflow _ alternate workflow ih =>
      exact createWorkflow_consistent env alternate workflow ih
  | createWorkflowWithRollback _ alternate workflow rollback ih =>
      exact createWorkflowWithRollback_consistent env alternate workflow rollback ih

end Tecs
