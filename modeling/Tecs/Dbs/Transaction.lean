import Mathlib

set_option autoImplicit false

namespace Tecs

variable {σ : Type}

/-- The `TransactionContext` of one thread, over the type of its SQL statements. -/
structure TransactionContext (σ : Type) where
  beginCount : Nat
  sql : List σ
  keyvalue : Std.TreeMap String String

namespace TransactionContext

/-- What `Transaction::Enable` puts into a thread. -/
def enable : TransactionContext σ := ⟨0, [], ∅⟩

def isOn (c : TransactionContext σ) : Bool := decide (0 < c.beginCount)

def begin (c : TransactionContext σ) : TransactionContext σ :=
  { c with
    beginCount := c.beginCount + 1
    sql := if c.beginCount = 0 then [] else c.sql }

def append (c : TransactionContext σ) (cmd : σ) : TransactionContext σ :=
  { c with sql := c.sql ++ [cmd] }

/-- The context after `Commit`, and the statements it hands to `ExecuteTransaction`. -/
def commit (c : TransactionContext σ) : TransactionContext σ × Option (List σ) :=
  if c.beginCount = 0 then (c, none)
  else
    let rest := { c with beginCount := c.beginCount - 1 }
    if 0 < rest.beginCount then (rest, none)
    else if rest.sql.isEmpty then (rest, none)
    else (rest, some rest.sql)

def cancel (c : TransactionContext σ) : TransactionContext σ :=
  if c.beginCount = 0 then c
  else
    let rest := { c with beginCount := c.beginCount - 1 }
    if rest.beginCount = 0 then { rest with sql := [] } else rest

/-- The two options an `SqlCommand` is built with. -/
inductive SqlCmdOption
  | withTransaction
  | withoutTransaction
deriving DecidableEq

/-- `SqlCommand::Insert`, `Update`, `Delete` and `Execute`: the context afterwards, and
the statement if it was executed at once. -/
def issue (option : SqlCmdOption) (cmd : σ) (c : TransactionContext σ) :
    TransactionContext σ × Option σ :=
  if option = .withTransaction ∧ c.isOn = true then (c.append cmd, none) else (c, some cmd)

/-! What each operation leaves, by depth. -/

@[simp] theorem isOn_eq_true (c : TransactionContext σ) : c.isOn = true ↔ 0 < c.beginCount := by
  simp [isOn]

@[simp] theorem begin_beginCount (c : TransactionContext σ) :
    c.begin.beginCount = c.beginCount + 1 := rfl

theorem begin_outermost {c : TransactionContext σ} (off : c.beginCount = 0) :
    c.begin.sql = [] := by
  simp [begin, off]

theorem begin_nested {c : TransactionContext σ} (on : 0 < c.beginCount) :
    c.begin.sql = c.sql := by
  simp [begin, Nat.ne_of_gt on]

@[simp] theorem begin_keyvalue (c : TransactionContext σ) : c.begin.keyvalue = c.keyvalue := rfl

theorem commit_nested {c : TransactionContext σ} (nested : 1 < c.beginCount) :
    c.commit = ({ c with beginCount := c.beginCount - 1 }, none) := by
  have opened : c.beginCount ≠ 0 := by omega
  have inner : 0 < c.beginCount - 1 := by omega
  simp [commit, opened, inner]

theorem commit_outermost {c : TransactionContext σ} (outermost : c.beginCount = 1) :
    c.commit =
      ({ c with beginCount := 0 }, if c.sql.isEmpty then none else some c.sql) := by
  by_cases none : c.sql.isEmpty = true
  · simp [commit, outermost, none]
  · simp [commit, outermost, none]

theorem cancel_nested {c : TransactionContext σ} (nested : 1 < c.beginCount) :
    c.cancel = { c with beginCount := c.beginCount - 1 } := by
  have opened : c.beginCount ≠ 0 := by omega
  have inner : c.beginCount - 1 ≠ 0 := by omega
  simp [cancel, opened, inner]

theorem cancel_outermost {c : TransactionContext σ} (outermost : c.beginCount = 1) :
    c.cancel = { c with beginCount := 0, sql := [] } := by
  simp [cancel, outermost]

theorem issue_on {c : TransactionContext σ} (cmd : σ) (on : 0 < c.beginCount) :
    issue .withTransaction cmd c = (c.append cmd, none) := by
  simp [issue, on]

theorem issue_off {c : TransactionContext σ} (option : SqlCmdOption) (cmd : σ)
    (off : c.beginCount = 0) : issue option cmd c = (c, some cmd) := by
  simp [issue, off]

@[simp] theorem issue_without (c : TransactionContext σ) (cmd : σ) :
    issue .withoutTransaction cmd c = (c, some cmd) := by
  simp [issue]

end TransactionContext

end Tecs
