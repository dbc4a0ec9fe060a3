import Tecs.Dbs.Transaction

set_option autoImplicit false

namespace Tecs

namespace TransactionContext

variable {σ : Type}

/-- What a thread does with its transaction. -/
inductive Operation (σ : Type)
  | begin
  | issue (option : SqlCmdOption) (cmd : σ)
  | commit
  | cancel

/-- What reaches the database: a single statement, or a transaction. -/
inductive DbCall (σ : Type)
  | execute (cmd : σ)
  | executeTransaction (sql : List σ)
deriving DecidableEq

def apply (c : TransactionContext σ) : Operation σ → TransactionContext σ × List (DbCall σ)
  | .begin => (c.begin, [])
  | .issue option cmd => ((issue option cmd c).1, (issue option cmd c).2.toList.map .execute)
  | .commit => (c.commit.1, c.commit.2.toList.map .executeTransaction)
  | .cancel => (c.cancel, [])

def applyAll (c : TransactionContext σ) : List (Operation σ) →
    TransactionContext σ × List (DbCall σ)
  | [] => (c, [])
  | op :: ops =>
      let first := c.apply op
      let rest := first.1.applyAll ops
      (rest.1, first.2 ++ rest.2)

@[simp] theorem applyAll_nil (c : TransactionContext σ) : c.applyAll [] = (c, []) := rfl

theorem applyAll_append (c : TransactionContext σ) (front back : List (Operation σ)) :
    c.applyAll (front ++ back) =
      (((c.applyAll front).1.applyAll back).1,
        (c.applyAll front).2 ++ ((c.applyAll front).1.applyAll back).2) := by
  induction front generalizing c with
  | nil => rfl
  | cons op ops ih => simp [applyAll, ih]

/-- How a scope is closed. -/
inductive Close
  | commit
  | cancel
deriving DecidableEq

/-- A properly bracketed sequence of operations. -/
inductive Block (σ : Type)
  | done
  | statement (option : SqlCmdOption) (cmd : σ) (rest : Block σ)
  | scope (body : Block σ) (close : Close) (rest : Block σ)

namespace Block

def operations : Block σ → List (Operation σ)
  | done => []
  | statement option cmd rest => .issue option cmd :: rest.operations
  | scope body .commit rest => .begin :: (body.operations ++ .commit :: rest.operations)
  | scope body .cancel rest => .begin :: (body.operations ++ .cancel :: rest.operations)

/-- The transaction statements of a block outside its cancelled scopes, in the order issued. -/
def kept : Block σ → List σ
  | done => []
  | statement .withTransaction cmd rest => cmd :: rest.kept
  | statement .withoutTransaction _ rest => rest.kept
  | scope body .commit rest => body.kept ++ rest.kept
  | scope _ .cancel rest => rest.kept

/-- All transaction statements of a block. -/
def issued : Block σ → List σ
  | done => []
  | statement .withTransaction cmd rest => cmd :: rest.issued
  | statement .withoutTransaction _ rest => rest.issued
  | scope body _ rest => body.issued ++ rest.issued

/-- The statements executed at once inside a transaction. -/
def immediate : Block σ → List (DbCall σ)
  | done => []
  | statement .withTransaction _ rest => rest.immediate
  | statement .withoutTransaction cmd rest => .execute cmd :: rest.immediate
  | scope body _ rest => body.immediate ++ rest.immediate

/-- `ExecuteTransaction` is called for at least one statement. -/
def transaction (sql : List σ) : List (DbCall σ) :=
  if sql.isEmpty then [] else [.executeTransaction sql]

/-- What should reach the database: an outermost commit executes the statements of the
scopes that were not cancelled, an outermost cancel executes none. -/
def expected : Block σ → List (DbCall σ)
  | done => []
  | statement _ cmd rest => .execute cmd :: rest.expected
  | scope body .commit rest => body.immediate ++ transaction body.kept ++ rest.expected
  | scope body .cancel rest => body.immediate ++ rest.expected

/-- What does reach it: an outermost commit executes all statements. -/
def reached : Block σ → List (DbCall σ)
  | done => []
  | statement _ cmd rest => .execute cmd :: rest.reached
  | scope body .commit rest => body.immediate ++ transaction body.issued ++ rest.reached
  | scope body .cancel rest => body.immediate ++ rest.reached

/-- No cancelled scope of the block has a transaction statement. -/
def Uncancelled : Block σ → Prop
  | done => True
  | statement _ _ rest => rest.Uncancelled
  | scope body .commit rest => body.Uncancelled ∧ rest.Uncancelled
  | scope body .cancel rest => body.issued = [] ∧ rest.Uncancelled

/-- Within every outermost scope that is committed, no cancelled scope has a statement. -/
def CommitsUncancelled : Block σ → Prop
  | done => True
  | statement _ _ rest => rest.CommitsUncancelled
  | scope body .commit rest => body.Uncancelled ∧ rest.CommitsUncancelled
  | scope _ .cancel rest => rest.CommitsUncancelled

/-! Inside an open transaction a block only appends. -/

theorem applyAll_nested (b : Block σ) : ∀ c : TransactionContext σ, 0 < c.beginCount →
    c.applyAll b.operations = ({ c with sql := c.sql ++ b.issued }, b.immediate) := by
  induction b with
  | done =>
      intro c on
      simp [operations, issued, immediate]
  | statement option cmd rest ih =>
      intro c on
      cases option with
      | withTransaction =>
          have appended := ih { c with sql := c.sql ++ [cmd] } on
          simp [operations, applyAll, apply, issue_on cmd on, append, appended, issued, immediate]
      | withoutTransaction =>
          simp [operations, applyAll, apply, ih _ on, issued, immediate]
  | scope body close rest bodyIh restIh =>
      intro c on
      have opened : c.begin = { c with beginCount := c.beginCount + 1 } := by
        simp [begin, Nat.ne_of_gt on]
      have inner := bodyIh c.begin (Nat.succ_pos _)
      have nested : 1 < c.beginCount + 1 := by omega
      have outer := restIh { c with sql := c.sql ++ body.issued } on
      cases close with
      | commit =>
          have closed := commit_nested
            (c := { c with beginCount := c.beginCount + 1, sql := c.sql ++ body.issued }) nested
          rw [opened] at inner
          simp only [Nat.add_sub_cancel] at closed
          simp [operations, applyAll, apply, applyAll_append, opened, inner, closed, outer, issued,
            immediate]
      | cancel =>
          have closed := cancel_nested
            (c := { c with beginCount := c.beginCount + 1, sql := c.sql ++ body.issued }) nested
          rw [opened] at inner
          simp only [Nat.add_sub_cancel] at closed
          simp [operations, applyAll, apply, applyAll_append, opened, inner, closed, outer, issued,
            immediate]

/-- A block of a thread with no open transaction reaches the database as `reached`. -/
theorem applyAll_outermost (b : Block σ) : ∀ c : TransactionContext σ, c.beginCount = 0 →
    (c.applyAll b.operations).2 = b.reached ∧ (c.applyAll b.operations).1.beginCount = 0 := by
  induction b with
  | done => exact fun c off => ⟨rfl, off⟩
  | statement option cmd rest ih =>
      intro c off
      obtain ⟨effects, closed⟩ := ih c off
      simp [operations, applyAll, apply, issue_off option cmd off, effects, closed, reached]
  | scope body close rest bodyIh restIh =>
      intro c off
      have opened : c.begin = { c with beginCount := 1, sql := [] } := by
        simp [begin, off]
      have inner := applyAll_nested body { c with beginCount := 1, sql := [] } Nat.one_pos
      cases close with
      | commit =>
          have closing := commit_outermost
            (c := { c with beginCount := 1, sql := [] ++ body.issued }) rfl
          obtain ⟨effects, closed⟩ := restIh { c with beginCount := 0, sql := body.issued } rfl
          simp only [List.nil_append] at inner closing
          simp [operations, applyAll, apply, applyAll_append, opened, inner, closing, effects,
            closed, reached, transaction]
          split <;> simp
      | cancel =>
          have closing := cancel_outermost
            (c := { c with beginCount := 1, sql := [] ++ body.issued }) rfl
          obtain ⟨effects, closed⟩ := restIh { c with beginCount := 0, sql := [] } rfl
          simp only [List.nil_append] at inner closing
          simp [operations, applyAll, apply, applyAll_append, opened, inner, closing, effects,
            closed, reached]

/-! Counting statements tells an execution with leaks from one without. -/

/-- How many transaction statements stand in cancelled scopes. -/
def cancelled : Block σ → Nat
  | done => 0
  | statement _ _ rest => rest.cancelled
  | scope body .commit rest => body.cancelled + rest.cancelled
  | scope body .cancel rest => body.issued.length + rest.cancelled

/-- How many of them the outermost commits execute. -/
def leaked : Block σ → Nat
  | done => 0
  | statement _ _ rest => rest.leaked
  | scope body .commit rest => body.cancelled + rest.leaked
  | scope _ .cancel rest => rest.leaked

def size : DbCall σ → Nat
  | .execute _ => 1
  | .executeTransaction sql => sql.length

theorem length_issued (b : Block σ) : b.issued.length = b.kept.length + b.cancelled := by
  induction b with
  | done => rfl
  | statement option cmd rest ih =>
      cases option
      · simp only [issued, kept, cancelled, List.length_cons, ih]
        omega
      · exact ih
  | scope body close rest bodyIh restIh =>
      cases close <;> simp [issued, kept, cancelled, bodyIh, restIh] <;> omega

theorem cancelled_eq_zero (b : Block σ) : b.cancelled = 0 ↔ b.Uncancelled := by
  induction b with
  | done => simp [cancelled, Uncancelled]
  | statement option cmd rest ih => exact ih
  | scope body close rest bodyIh restIh =>
      cases close <;> simp [cancelled, Uncancelled, bodyIh, restIh]

theorem leaked_eq_zero (b : Block σ) : b.leaked = 0 ↔ b.CommitsUncancelled := by
  induction b with
  | done => simp [leaked, CommitsUncancelled]
  | statement option cmd rest ih => exact ih
  | scope body close rest bodyIh restIh =>
      cases close with
      | commit => simp [leaked, CommitsUncancelled, cancelled_eq_zero, restIh]
      | cancel => exact restIh

theorem sum_size_transaction (sql : List σ) :
    ((transaction sql).map size).sum = sql.length := by
  cases sql <;> simp [transaction, size]

theorem sum_size_reached (b : Block σ) :
    (b.reached.map size).sum = (b.expected.map size).sum + b.leaked := by
  induction b with
  | done => rfl
  | statement option cmd rest ih =>
      simp only [reached, expected, leaked, List.map_cons, List.sum_cons, ih]
      omega
  | scope body close rest bodyIh restIh =>
      cases close with
      | commit =>
          have sizes := body.length_issued
          simp only [reached, expected, leaked, List.map_append, List.sum_append,
            sum_size_transaction, restIh]
          omega
      | cancel =>
          simp only [reached, expected, leaked, List.map_append, List.sum_append, restIh]
          omega

theorem issued_eq_kept (b : Block σ) (clean : b.Uncancelled) : b.issued = b.kept := by
  induction b with
  | done => rfl
  | statement option cmd rest ih =>
      cases option <;> simp [issued, kept, ih clean]
  | scope body close rest bodyIh restIh =>
      cases close with
      | commit => simp [issued, kept, bodyIh clean.1, restIh clean.2]
      | cancel => simp [issued, kept, clean.1, restIh clean.2]

theorem reached_eq_expected (b : Block σ) (clean : b.CommitsUncancelled) :
    b.reached = b.expected := by
  induction b with
  | done => rfl
  | statement option cmd rest ih => simp [reached, expected, ih clean]
  | scope body close rest bodyIh restIh =>
      cases close with
      | commit => simp [reached, expected, issued_eq_kept body clean.1, restIh clean.2]
      | cancel => simp [reached, expected, restIh clean]

/-- From a thread with no open transaction, the outermost commits execute exactly the
statements of scopes that were not cancelled if and only if no scope cancelled inside a
committed one has a statement. -/
theorem applyAll_eq_expected (b : Block σ) (c : TransactionContext σ) (off : c.beginCount = 0) :
    (c.applyAll b.operations).2 = b.expected ↔ b.CommitsUncancelled := by
  rw [(b.applyAll_outermost c off).1]
  constructor
  · intro equal
    rw [← leaked_eq_zero]
    have sizes := b.sum_size_reached
    rw [equal] at sizes
    omega
  · exact b.reached_eq_expected

end Block

open Block in
/-- A cancelled transaction, then a committed one around a scope that is committed and one that is
cancelled without a statement. -/
theorem applyAll_eq_expected_nested :
    ((enable : TransactionContext String).applyAll
        (scope (statement .withTransaction "c" done) .cancel
          (scope (statement .withTransaction "a"
            (scope (statement .withTransaction "b" done) .commit
            (scope done .cancel done))) .commit done)).operations).2 =
      [.executeTransaction ["a", "b"]] :=
  (applyAll_eq_expected _ enable rfl).mpr ⟨⟨trivial, rfl, trivial⟩, trivial⟩

open Block in
/-- A statement of a cancelled inner scope is executed by the outer commit. -/
theorem cancelled_scope_executed :
    ¬ ∀ (b : Block String) (c : TransactionContext String), c.beginCount = 0 →
      (c.applyAll b.operations).2 = b.expected := by
  intro exact
  have outer := exact (scope (scope (statement .withTransaction "insert" done) .cancel
    (statement .withTransaction "update" done)) .commit done) enable rfl
  revert outer
  decide

end TransactionContext

end Tecs
