import Tecs.Workflow.Engine

set_option autoImplicit false

namespace Tecs

open Effect TransactionContext

/-- A write that the database may refuse; a refused one changes nothing. -/
def Database.settle (db : Database) (ok : Bool) (result : Option Database) : Bool × Database :=
  match ok, result with
  | true, some next => (true, next)
  | _, _ => (false, db)

/-- One call of a thread, over the tables and its transaction; `ok` tells whether the
database serves the call, should it reach the database. -/
def answer (ok : Bool) (db : Database) (ctx : TransactionContext Statement) :
    (c : PoolCall) → c.Reply × Database × TransactionContext Statement
  | .select query => (if ok then db.select query else .failed, db, ctx)
  | .sql statement =>
      match issue .withTransaction statement ctx with
      | (ctx', none) => (sqldbOk, db, ctx')
      | (ctx', some now) =>
          let (done, next) := db.settle ok (db.execute now)
          (if done then sqldbOk else sqldbError, next, ctx')
  | .transactionBegin => (Status.success, db, ctx.begin)
  | .transactionOn => (ctx.isOn, db, ctx)
  | .transactionCommit =>
      match ctx.commit with
      | (ctx', none) => (Status.success, db, ctx')
      | (ctx', some batch) =>
          let (done, next) := db.settle ok (db.executeTransaction batch)
          (if done then Status.success else Status.error, next, ctx')
  | .transactionCancel => (Status.success, db, ctx.cancel)
  | .keyValue => (ctx.keyvalue.toList, db, ctx)
  | .keyValueClear => ((), db, { ctx with keyvalue := ∅ })
  | .keyValueInsert key value =>
    ((), db, { ctx with keyvalue := ctx.keyvalue.insertIfNew key value })
  | .alternateEngine => ((0 : Int), db, ctx)
  | .wakeup _ _ => (Status.success, db, ctx)
  | .request _ _ _ => (Status.success, db, ctx)
  | .isLockWorkflow _ => (false, db, ctx)
  | .send _ => ((), db, ctx)

theorem Database.settle_executes (db : Database) (ok : Bool) (batch : List Statement) :
    ∃ executed, (executed = [] ∨ executed = batch) ∧ db.executeTransaction executed =
      some (db.settle ok (db.executeTransaction batch)).2 := by
  unfold Database.settle
  split
  · rename_i done
    exact ⟨batch, .inr rfl, done⟩
  · exact ⟨[], .inl rfl, rfl⟩

/-- The statements a call executes: none, its own outside a transaction, or at the
outermost commit those of the transaction. -/
theorem answer_executes (ok : Bool) (db : Database) (ctx : TransactionContext Statement)
    (c : PoolCall) :
    ∃ executed, db.executeTransaction executed = some (answer ok db ctx c).2.1 ∧
      (executed = [] ∨ (∃ s, c = .sql s ∧ ctx.beginCount = 0 ∧ executed = [s]) ∨
        c = .transactionCommit ∧ ctx.beginCount = 1 ∧ executed = ctx.sql) := by
  cases c with
  | sql statement =>
      by_cases on : 0 < ctx.beginCount
      · simp only [answer, issue_on statement on]
        exact ⟨[], rfl, .inl rfl⟩
      · have off := Nat.eq_zero_of_not_pos on
        have single : db.execute statement = db.executeTransaction [statement] := by
          simp only [Database.executeTransaction, Option.bind_fun_some]
        simp only [answer, issue_off _ statement off, single]
        obtain ⟨executed, batch, done⟩ := db.settle_executes ok [statement]
        refine ⟨executed, done, batch.imp id fun same => .inl ⟨statement, rfl, off, same⟩⟩
  | transactionCommit =>
      by_cases outermost : ctx.beginCount = 1
      · simp only [answer, commit_outermost outermost]
        by_cases none : ctx.sql.isEmpty = true
        · simp only [none, if_true]
          exact ⟨[], rfl, .inl rfl⟩
        · simp only [none, if_false, Bool.false_eq_true]
          obtain ⟨executed, batch, done⟩ := db.settle_executes ok ctx.sql
          exact ⟨executed, done, batch.imp id fun same => .inr ⟨trivial, outermost, same⟩⟩
      · rcases Nat.eq_zero_or_pos ctx.beginCount with off | on
        · simp only [answer, commit, off, if_true]
          exact ⟨[], rfl, .inl rfl⟩
        · simp only [answer, commit_nested (show 1 < ctx.beginCount by omega)]
          exact ⟨[], rfl, .inl rfl⟩
  | _ => exact ⟨[], rfl, .inl rfl⟩

/-- A call only adds its own statement to the thread's transaction. -/
theorem answer_statements (ok : Bool) (db : Database) (ctx : TransactionContext Statement)
    (c : PoolCall) {s : Statement} (inside : s ∈ (answer ok db ctx c).2.2.sql) :
    s ∈ ctx.sql ∨ c = .sql s := by
  cases c with
  | sql statement =>
      by_cases on : 0 < ctx.beginCount
      · simp only [answer, issue_on statement on] at inside
        refine (List.mem_append.mp inside).imp id fun last => ?_
        rw [List.mem_singleton.mp last]
      · have off := Nat.eq_zero_of_not_pos on
        simp only [answer, issue_off _ statement off] at inside
        exact .inl inside
  | transactionBegin =>
      by_cases off : ctx.beginCount = 0
      · simp only [answer, begin_outermost off] at inside
        cases inside
      · simp only [answer, begin_nested (Nat.pos_of_ne_zero off)] at inside
        exact .inl inside
  | transactionCommit =>
      by_cases outermost : ctx.beginCount = 1
      · by_cases none : ctx.sql.isEmpty = true
        · simp only [answer, commit_outermost outermost, none, if_true] at inside
          exact .inl inside
        · simp only [answer, commit_outermost outermost, none, if_false, Bool.false_eq_true]
            at inside
          exact .inl inside
      · rcases Nat.eq_zero_or_pos ctx.beginCount with off | on
        · simp only [answer, commit, off, if_true] at inside
          exact .inl inside
        · simp only [answer, commit_nested (show 1 < ctx.beginCount by omega)] at inside
          exact .inl inside
  | transactionCancel =>
      by_cases nested : 1 < ctx.beginCount
      · simp only [answer, cancel_nested nested] at inside
        exact .inl inside
      · by_cases off : ctx.beginCount = 0
        · simp only [answer, cancel, off, if_true] at inside
          exact .inl inside
        · simp only [answer, cancel_outermost (show ctx.beginCount = 1 by omega)] at inside
          cases inside
  | _ => exact .inl inside

/-- How often `Begin` is open after a call. -/
def PoolCall.depth : PoolCall → Nat → Nat
  | .transactionBegin, depth => depth + 1
  | .transactionCommit, depth => depth - 1
  | .transactionCancel, depth => depth - 1
  | _, depth => depth

theorem answer_beginCount (ok : Bool) (db : Database) (ctx : TransactionContext Statement)
    (c : PoolCall) : (answer ok db ctx c).2.2.beginCount = c.depth ctx.beginCount := by
  cases c with
  | sql statement =>
      by_cases on : 0 < ctx.beginCount
      · simp only [answer, issue_on statement on, PoolCall.depth]
        rfl
      · simp only [answer, issue_off _ statement (Nat.eq_zero_of_not_pos on), PoolCall.depth]
  | transactionCommit =>
      rcases Nat.eq_zero_or_pos ctx.beginCount with off | on
      · simp only [answer, commit, off, if_true, PoolCall.depth]
      · by_cases outermost : ctx.beginCount = 1
        · by_cases none : ctx.sql.isEmpty = true
          · simp [answer, commit_outermost outermost, none, PoolCall.depth, outermost]
          · simp [answer, commit_outermost outermost, none, PoolCall.depth, outermost]
        · simp only [answer, commit_nested (show 1 < ctx.beginCount by omega), PoolCall.depth]
  | transactionCancel =>
      by_cases nested : 1 < ctx.beginCount
      · simp only [answer, cancel_nested nested, PoolCall.depth]
      · by_cases off : ctx.beginCount = 0
        · simp only [answer, cancel, off, if_true, PoolCall.depth]
        · have outermost : ctx.beginCount = 1 := by omega
          simp only [answer, cancel_outermost outermost, PoolCall.depth, outermost]
  | _ => rfl

/-- A transaction that is open after a call holds what it held, and the call's statement. -/
theorem answer_queued (ok : Bool) (db : Database) (ctx : TransactionContext Statement)
    (c : PoolCall) (on : 0 < (answer ok db ctx c).2.2.beginCount) {s : Statement}
    (inside : s ∈ (answer ok db ctx c).2.2.sql) :
    0 < ctx.beginCount ∧ s ∈ ctx.sql ∨ c = .sql s := by
  cases c with
  | sql statement =>
      by_cases before : 0 < ctx.beginCount
      · simp only [answer, issue_on statement before] at inside
        rcases List.mem_append.mp inside with old | new
        · exact .inl ⟨before, old⟩
        · rw [List.mem_singleton.mp new]
          exact .inr rfl
      · have off := Nat.eq_zero_of_not_pos before
        simp only [answer, issue_off _ statement off] at on
        omega
  | transactionBegin =>
      by_cases before : 0 < ctx.beginCount
      · simp only [answer, begin_nested before] at inside
        exact .inl ⟨before, inside⟩
      · have off := Nat.eq_zero_of_not_pos before
        simp only [answer, begin_outermost off] at inside
        cases inside
  | transactionCommit =>
      by_cases nested : 1 < ctx.beginCount
      · simp only [answer, commit_nested nested] at inside
        exact .inl ⟨by omega, inside⟩
      · have closed : (answer ok db ctx .transactionCommit).2.2.beginCount = 0 := by
          rcases Nat.eq_zero_or_pos ctx.beginCount with off | opened
          · simp [answer, commit, off]
          · have outermost : ctx.beginCount = 1 := by omega
            by_cases none : ctx.sql.isEmpty = true
            · simp [answer, commit_outermost outermost, none]
            · simp [answer, commit_outermost outermost, none]
        omega
  | transactionCancel =>
      by_cases nested : 1 < ctx.beginCount
      · simp only [answer, cancel_nested nested] at inside
        exact .inl ⟨by omega, inside⟩
      · have closed : (answer ok db ctx .transactionCancel).2.2.beginCount = 0 := by
          rcases Nat.eq_zero_or_pos ctx.beginCount with off | opened
          · simp [answer, cancel, off]
          · have outermost : ctx.beginCount = 1 := by omega
            simp [answer, cancel_outermost outermost]
        omega
  | _ => exact .inl ⟨on, inside⟩

/-- The rows of these queries come in any order. -/
def Query.Answered (db : Database) : (q : Query) → Found q.Value → Prop
  | .runningActions engine workflowId, reply => ∃ rows,
      (∀ id, id ∈ rows ↔ ∃ row ∈ db.runningActions, row.1.actionId = id ∧
        engine.covers row.2 = true ∧ (workflowId = "" ∨ row.2.workflowId = workflowId)) ∧
      reply = .ofRows rows
  | .finishedWorkflows engine, reply => ∃ rows,
      (∀ id, id ∈ rows ↔ ∃ w ∈ db.workflow, w.workflowId = id ∧ engine.covers w = true ∧
        db.isFinished id = true) ∧
      reply = .ofRows rows
  | q, reply => reply = db.select q

/-- Every way a call can be answered: the database serves it or not, and what comes from
elsewhere (other engines, locks, the counter of engines) is arbitrary. -/
def Answers (c : PoolCall) (db : Database) (ctx : TransactionContext Statement) (reply : c.Reply)
    (db' : Database) (ctx' : TransactionContext Statement) : Prop :=
  match c, reply with
  | .select query, reply =>
      (reply = Found.failed ∨ query.Answered db reply) ∧ db' = db ∧ ctx' = ctx
  | .alternateEngine, _ => db' = db ∧ ctx' = ctx
  | .wakeup _ _, _ => db' = db ∧ ctx' = ctx
  | .request _ _ _, _ => db' = db ∧ ctx' = ctx
  | .isLockWorkflow _, _ => db' = db ∧ ctx' = ctx
  | c, reply => ∃ ok, (reply, db', ctx') = answer ok db ctx c

theorem Answers.served {c : PoolCall} {db db' : Database} {ctx ctx' : TransactionContext Statement}
    {reply : c.Reply} (answered : Answers c db ctx reply db' ctx') :
    (db' = db ∧ ctx' = ctx) ∨ ∃ ok, (db', ctx') = (answer ok db ctx c).2 := by
  have served : (∃ ok, (reply, db', ctx') = answer ok db ctx c) →
      ∃ ok, (db', ctx') = (answer ok db ctx c).2 := by
    rintro ⟨ok, equal⟩
    exact ⟨ok, congrArg Prod.snd equal⟩
  cases c with
  | select query => exact .inl answered.2
  | alternateEngine => exact .inl answered
  | wakeup => exact .inl answered
  | request => exact .inl answered
  | isLockWorkflow => exact .inl answered
  | _ => exact .inr (served answered)

theorem Answers.beginCount {c : PoolCall} {db db' : Database}
    {ctx ctx' : TransactionContext Statement} {reply : c.Reply}
    (answered : Answers c db ctx reply db' ctx') : ctx'.beginCount = c.depth ctx.beginCount := by
  have served : (∃ ok, (reply, db', ctx') = answer ok db ctx c) →
      ctx'.beginCount = c.depth ctx.beginCount := by
    rintro ⟨ok, equal⟩
    rw [← answer_beginCount ok db ctx c, ← equal]
  cases c with
  | select query => rw [answered.2.2]; rfl
  | alternateEngine => rw [answered.2]; rfl
  | wakeup => rw [answered.2]; rfl
  | request => rw [answered.2]; rfl
  | isLockWorkflow => rw [answered.2]; rfl
  | _ => exact served answered

theorem Answers.executes {c : PoolCall} {db db' : Database}
    {ctx ctx' : TransactionContext Statement} {reply : c.Reply}
    (answered : Answers c db ctx reply db' ctx') :
    ∃ executed, db.executeTransaction executed = some db' ∧
      (executed = [] ∨ (∃ s, c = .sql s ∧ ctx.beginCount = 0 ∧ executed = [s]) ∨
        c = .transactionCommit ∧ ctx.beginCount = 1 ∧ executed = ctx.sql) := by
  rcases answered.served with ⟨rfl, -⟩ | ⟨ok, equal⟩
  · exact ⟨[], rfl, .inl rfl⟩
  · obtain ⟨rfl, -⟩ := Prod.mk.inj equal
    exact answer_executes ok db ctx c

theorem Answers.statements {c : PoolCall} {db db' : Database}
    {ctx ctx' : TransactionContext Statement} {reply : c.Reply}
    (answered : Answers c db ctx reply db' ctx') {s : Statement} (inside : s ∈ ctx'.sql) :
    s ∈ ctx.sql ∨ c = .sql s := by
  rcases answered.served with ⟨-, rfl⟩ | ⟨ok, equal⟩
  · exact .inl inside
  · obtain ⟨-, rfl⟩ := Prod.mk.inj equal
    exact answer_statements ok db ctx c inside

end Tecs
