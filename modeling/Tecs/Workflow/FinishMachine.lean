import Tecs.Library.Interleaving
import Tecs.Workflow.FinishTables

set_option autoImplicit false

namespace Tecs

open Effect Program TransactionContext

namespace FinishActionRuns

/-- What the threads share: the tables and, as a history variable, the actions that were
passed to `FinishAction`. -/
structure Pooled where
  tables : Database
  passed : List String

/-- What a thread keeps: its transaction and, as history variables, the action of its
`FinishAction`, the number of unfinished actions this read and whether it was inside a
transaction, and the actions the thread will finish without archiving the workflow. -/
structure Finisher where
  context : TransactionContext Statement
  current : String
  counted : Option (Nat × Bool)
  promised : List String

inductive Operation
  | finishAction (actionId : String)
  | begin
  | commit
  | cancel

def program (env : Process) : Operation → Pool Unit
  | .finishAction actionId => discard (finishAction env actionId)
  | .begin => discard Pool.begin
  | .commit => discard Pool.commit
  | .cancel => discard Pool.cancel

def enter : Operation → Pooled → Finisher → Pooled × Finisher
  | .finishAction actionId, shared, own =>
      ({ shared with passed := actionId :: shared.passed },
        { own with current := actionId, counted := none })
  | _, shared, own => (shared, { own with current := "", counted := none })

variable (workflowId : String)

/-- The call is the first reading of the number of unfinished actions. -/
def Counts (own : Finisher) (c : PoolCall) : Prop :=
  c = .select (.unfinishedCount workflowId) ∧ own.counted = none

/-- The thread after a call that left this context. -/
def note (db : Database) (own : Finisher) (after : TransactionContext Statement) :
    PoolCall → Finisher
  | .select (.unfinishedCount id) =>
      if id = workflowId ∧ own.counted = none then
        let count := (db.unfinished workflowId).length
        { own with
          context := after
          counted := some (count, own.context.isOn)
          promised := if 2 ≤ count then own.current :: own.promised else own.promised }
      else { own with context := after }
  | .sql _ =>
      { own with context := after, promised := if own.context.isOn then own.promised else [] }
  | .transactionCommit =>
      { own with
        context := after
        promised := if own.context.beginCount = 1 then [] else own.promised }
  | .transactionCancel =>
      { own with
        context := after
        promised := if own.context.beginCount = 1 then [] else own.promised }
  | _ => { own with context := after }

@[simp] theorem note_context (db : Database) (own : Finisher)
    (after : TransactionContext Statement) (c : PoolCall) :
    (note workflowId db own after c).context = after := by
  cases c with
  | select query =>
      cases query with
      | unfinishedCount id =>
          simp only [note]
          split <;> rfl
      | _ => rfl
  | _ => rfl

/-- A database that serves every call. -/
def serve (c : PoolCall) (shared : Pooled) (own : Finisher) : c.Reply × Pooled × Finisher :=
  let answered := answer true shared.tables own.context c
  (answered.1, { shared with tables := answered.2.1 },
    note workflowId shared.tables own answered.2.2 c)

def machine (env : Process) (Thread : Type) :
    Machine pool Pooled Finisher Thread Operation where
  program := fun _ operation => program env operation
  boot := fun _ => ⟨enable, "", none, []⟩
  enter := fun _ operation shared own => enter operation shared own
  answers := fun _ c shared own reply shared' own' =>
    (reply, shared', own') = serve workflowId c shared own

/-- The workflow as it is stored; what is finished has been passed to `FinishAction`. -/
def start (Thread : Type) (db : Database) : Machine.State pool Pooled Finisher Thread where
  shared :=
    { tables := db
      passed := ((db.actionsOf workflowId).filter Action.finished).map Action.actionId }
  own := fun _ => ⟨enable, "", none, []⟩
  running := fun _ => none

/-! What holds of the tables at any time. -/

/-- The ids of the workflow's actions are `ids`. -/
structure Sane (ids : List String) (shared : Pooled) : Prop where
  once : shared.tables.Archived workflowId ↔ ¬shared.tables.Present workflowId
  rows : shared.tables.Present workflowId → ∀ id ∈ ids, ∃ a ∈ shared.tables.actionPool,
    a.actionId = id ∧ a.workflowId = workflowId
  owned : ∀ a ∈ shared.tables.actionPool, a.actionId ∈ ids ↔ a.workflowId = workflowId
  passed : ∀ a ∈ shared.tables.actionPool, a.workflowId = workflowId → a.finished = true →
    a.actionId ∈ shared.passed

/-- How the shared state moves. -/
structure Moves (ids : List String) (shared later : Pooled) : Prop where
  absent : ¬shared.tables.Present workflowId → ¬later.tables.Present workflowId
  passed : shared.passed ⊆ later.passed
  sane : Sane workflowId ids shared → Sane workflowId ids later

theorem Moves.refl (ids : List String) (shared : Pooled) : Moves workflowId ids shared shared :=
  ⟨id, fun _ inside => inside, id⟩

variable {workflowId} {ids : List String}

theorem Moves.trans {first second third : Pooled} (front : Moves workflowId ids first second)
    (back : Moves workflowId ids second third) : Moves workflowId ids first third where
  absent := fun absent => back.absent (front.absent absent)
  passed := fun _ inside => back.passed (front.passed inside)
  sane := fun sane => back.sane (front.sane sane)

/-- The transaction archives the workflow exactly when it deletes it. -/
def Paired (workflowId : String) (own : Finisher) : Prop :=
  (∃ s ∈ own.context.sql, s.Archives workflowId) ↔ ∃ s ∈ own.context.sql, s.Deletes workflowId

/-- What the transaction finishes is promised, or the transaction deletes the workflow. -/
def Settled (workflowId : String) (shared : Pooled) (own : Finisher) : Prop :=
  ∀ id, Statement.updateAction id .finish ∈ own.context.sql →
    id ∈ own.promised ∨ (∃ s ∈ own.context.sql, s.Deletes workflowId) ∨
      ¬shared.tables.Present workflowId

/-- What a thread maintains during `FinishAction` as well. -/
structure Sound (workflowId : String) (ids : List String) (shared : Pooled) (own : Finisher) :
    Prop where
  sane : Sane workflowId ids shared
  finishing : ∀ s ∈ own.context.sql, s.Finishing workflowId shared.passed

/-- The calls of a thread, with what the other threads can rely on. -/
structure Asserts (workflowId : String) (ids : List String) (c : PoolCall) (shared : Pooled)
    (own : Finisher) : Prop where
  sound : Sound workflowId ids shared own
  issues : ∀ s, c = .sql s → s.Finishing workflowId shared.passed
  immediate : ∀ s, c = .sql s → own.context.beginCount = 0 → ∃ id,
    s = .updateAction id .finish ∧ (id ∈ own.promised ∨ own.counted = some (1, false))
  names : ∀ id, c = .sql (.updateAction id .finish) → id = own.current ∧ own.counted ≠ none
  deletes : ∀ s, c = .sql s → s.Deletes workflowId → ∃ on, own.counted = some (1, on)
  commits : c = .transactionCommit → own.context.beginCount = 1 →
    Paired workflowId own ∧ Settled workflowId shared own
  counts : Counts workflowId own c → own.current ∈ shared.passed ∧ own.current ≠ ""

/-- The tables after a call, as the effect of the statements it executes. -/
theorem serve_finishes {c : PoolCall} {shared : Pooled} {own : Finisher}
    (asserted : Asserts workflowId ids c shared own) :
    ∃ executed, Database.Finishes workflowId shared.tables executed
        (serve workflowId c shared own).2.1.tables ∧
      (∀ s ∈ executed, s.Finishing workflowId shared.passed) ∧
      (executed = [] ∨ (∃ s, c = .sql s ∧ own.context.beginCount = 0 ∧ executed = [s]) ∨
        c = .transactionCommit ∧ own.context.beginCount = 1 ∧ executed = own.context.sql) := by
  obtain ⟨executed, done, source⟩ := answer_executes true shared.tables own.context c
  have finishing : ∀ s ∈ executed, s.Finishing workflowId shared.passed := by
    rcases source with rfl | ⟨s, issued, -, rfl⟩ | ⟨-, -, rfl⟩
    · exact fun _ none => absurd none List.not_mem_nil
    · exact fun s inside => by
        rw [List.mem_singleton.mp inside]
        exact asserted.issues _ issued
    · exact asserted.sound.finishing
  exact ⟨executed, Database.executeTransaction_finishes finishing done, finishing, source⟩

theorem Sane.finishes {shared later : Pooled} {executed : List Statement}
    (sane : Sane workflowId ids shared) (passed : later.passed = shared.passed)
    (finishes : Database.Finishes workflowId shared.tables executed later.tables)
    (finishing : ∀ s ∈ executed, s.Finishing workflowId shared.passed)
    (paired : (∃ s ∈ executed, s.Archives workflowId) ↔ ∃ s ∈ executed, s.Deletes workflowId) :
    Sane workflowId ids later where
  once := by
    rw [finishes.archived, finishes.present, sane.once, paired]
    by_cases present : shared.tables.Present workflowId
    · simp [present]
    · simp [present]
  rows := by
    intro present id inside
    obtain ⟨old, row, named, owned⟩ := sane.rows (finishes.present.mp present).1 id inside
    obtain ⟨a, among, follows⟩ := finishes.kept present old row owned
    exact ⟨a, among, follows.actionId.trans named, follows.workflowId.trans owned⟩
  owned := by
    intro a inside
    obtain ⟨old, row, follows, -⟩ := finishes.rows a inside
    rw [follows.actionId, follows.workflowId]
    exact sane.owned old row
  passed := by
    intro a inside owned finished
    obtain ⟨old, row, follows, source⟩ := finishes.rows a inside
    rw [passed]
    rcases source finished with was | issued
    · rw [follows.actionId]
      exact sane.passed old row (follows.workflowId.symm.trans owned) was
    · exact finishing _ issued

theorem serve_moves {c : PoolCall} {shared : Pooled} {own : Finisher}
    (asserted : Asserts workflowId ids c shared own) :
    Moves workflowId ids shared (serve workflowId c shared own).2.1 := by
  obtain ⟨executed, finishes, finishing, source⟩ := serve_finishes asserted
  have paired : (∃ s ∈ executed, s.Archives workflowId) ↔
      ∃ s ∈ executed, s.Deletes workflowId := by
    rcases source with rfl | ⟨s, issued, off, rfl⟩ | ⟨commit, outermost, rfl⟩
    · simp
    · obtain ⟨id, rfl, -⟩ := asserted.immediate s issued off
      simp [Statement.Archives, Statement.Deletes]
    · exact (asserted.commits commit outermost).1
  refine ⟨fun absent present => absent (finishes.present.mp present).1, fun _ inside => inside,
    fun sane => sane.finishes rfl finishes finishing paired⟩

end FinishActionRuns

end Tecs
