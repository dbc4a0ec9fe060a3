import Mathlib

set_option autoImplicit false

/-! The range rows of a network, written one statement to the database after the other. -/

namespace Tecs

/-- The rows of a table, and what becomes of the statements that are still to write to
them: `false` for one that fails, success for those beyond the list. -/
structure Session (Row : Type) where
  rows : List Row
  fates : List Bool
deriving Repr, DecidableEq

namespace Session

variable {Row : Type} [DecidableEq Row] (accepts : Row → Bool)

def add (s : Session Row) (row : Row) : Bool × Session Row :=
  if s.fates.head? = some false then (false, ⟨s.rows, s.fates.tail⟩)
  else if accepts row then (true, ⟨s.rows ++ [row], s.fates.tail⟩)
  else (false, ⟨s.rows, s.fates.tail⟩)

/-- The rows to delete are named by their ends: all with these ends go. -/
def del (s : Session Row) (row : Row) : Bool × Session Row :=
  if s.fates.head? = some false then (false, ⟨s.rows, s.fates.tail⟩)
  else if row ∈ s.rows then (true, ⟨s.rows.filter (· ≠ row), s.fates.tail⟩)
  else (false, ⟨s.rows, s.fates.tail⟩)

/-- The rows left over are deleted, up to the first failure. -/
def delAll : List Row → Session Row → Bool × Session Row
  | [], s => (true, s)
  | row :: outVInfo, s =>
      match s.del row with
      | (false, s) => (false, s)
      | (true, s) => delAll outVInfo s

/-- Each calculated range strikes off one row with its ends, or is added to the table, up to the
first failure; what is left are the rows that were not struck off. -/
def addNews : List Row → List Row → Session Row → Bool × List Row × Session Row
  | [], outVInfo, s => (true, outVInfo, s)
  | calcRange :: vecCalcRange, outVInfo, s =>
      if calcRange ∈ outVInfo then addNews vecCalcRange (outVInfo.erase calcRange) s
      else
        match s.add accepts calcRange with
        | (false, s) => (false, outVInfo, s)
        | (true, s) => addNews vecCalcRange outVInfo s

def save (vecCalcRange outVInfo : List Row) (s : Session Row) : Bool × Session Row :=
  match addNews accepts vecCalcRange outVInfo s with
  | (false, _, s) => (false, s)
  | (true, outVInfo, s) => delAll outVInfo s

end Session

inductive Write (Row : Type)
  | add (row : Row)
  | del (row : Row)

namespace Write

variable {Row : Type} [DecidableEq Row] (accepts : Row → Bool)

def apply : Write Row → List Row → List Row
  | .add row, rows => rows ++ [row]
  | .del row, rows => rows.filter (· ≠ row)

/-- The procedure does not refuse the write. -/
def Allowed : Write Row → List Row → Prop
  | .add row, _ => accepts row = true
  | .del row, rows => row ∈ rows

def applyAll (writes : List (Write Row)) (rows : List Row) : List Row :=
  writes.foldl (fun rows write => write.apply rows) rows

def AllAllowed : List (Write Row) → List Row → Prop
  | [], _ => True
  | write :: rest, rows => write.Allowed accepts rows ∧ AllAllowed rest (write.apply rows)

@[simp] theorem applyAll_nil (rows : List Row) : applyAll [] rows = rows := rfl

@[simp] theorem applyAll_cons (write : Write Row) (rest : List (Write Row)) (rows : List Row) :
    applyAll (write :: rest) rows = applyAll rest (write.apply rows) := rfl

theorem applyAll_append (first second : List (Write Row)) (rows : List Row) :
    applyAll (first ++ second) rows = applyAll second (applyAll first rows) := by
  simp [applyAll]

theorem applyAll_add (news : List Row) (rows : List Row) :
    applyAll (news.map .add) rows = rows ++ news := by
  induction news generalizing rows with
  | nil => simp
  | cons row rest ih => rw [List.map_cons, applyAll_cons, ih, apply, List.append_assoc]; rfl

theorem mem_applyAll_del (left rows : List Row) (row : Row) :
    row ∈ applyAll (left.map .del) rows ↔ row ∈ rows ∧ row ∉ left := by
  induction left generalizing rows with
  | nil => simp
  | cons gone rest ih =>
      rw [List.map_cons, applyAll_cons, ih, apply]
      simp only [List.mem_filter, decide_eq_true_eq, List.mem_cons, not_or]
      tauto

theorem nodup_applyAll_del (left : List Row) {rows : List Row}
    (nodup : rows.Nodup) : (applyAll (left.map .del) rows).Nodup := by
  induction left generalizing rows with
  | nil => exact nodup
  | cons gone rest ih => exact ih (nodup.filter _)

variable {accepts}

theorem allAllowed_append (first second : List (Write Row)) (rows : List Row) :
    AllAllowed accepts (first ++ second) rows ↔
      AllAllowed accepts first rows ∧ AllAllowed accepts second (applyAll first rows) := by
  induction first generalizing rows with
  | nil => simp [AllAllowed]
  | cons write rest ih => simp only [List.cons_append, AllAllowed, ih, applyAll_cons, and_assoc]

theorem allAllowed_add {news : List Row}
    (valid : ∀ row ∈ news, accepts row = true) (rows : List Row) :
    AllAllowed accepts (news.map .add) rows := by
  induction news generalizing rows with
  | nil => trivial
  | cons row rest ih =>
      exact ⟨valid row (by simp), ih (fun other mem => valid other (by simp [mem])) _⟩

theorem allAllowed_del {left rows : List Row} (nodup : left.Nodup)
    (stored : ∀ row ∈ left, row ∈ rows) : AllAllowed accepts (left.map .del) rows := by
  induction left generalizing rows with
  | nil => trivial
  | cons row rest ih =>
      have ⟨fresh, tail⟩ := List.nodup_cons.mp nodup
      refine ⟨stored row (by simp), ih tail fun other mem => ?_⟩
      have different : other ≠ row := fun same => fresh (same ▸ mem)
      simp [apply, stored other (by simp [mem]), different]

end Write

namespace Session

variable {Row : Type} [DecidableEq Row] (accepts : Row → Bool)

def exec (s : Session Row) : Write Row → Bool × Session Row
  | .add row => s.add accepts row
  | .del row => s.del row

/-- The writes are executed in turn, up to the first failure. -/
def execAll : List (Write Row) → Session Row → Bool × Session Row
  | [], s => (true, s)
  | write :: rest, s =>
      match s.exec accepts write with
      | (false, s) => (false, s)
      | (true, s) => execAll rest s

variable {accepts}

theorem exec_allowed {s : Session Row} {write : Write Row}
    (allowed : write.Allowed accepts s.rows) :
    s.exec accepts write = if s.fates.head? = some false then (false, ⟨s.rows, s.fates.tail⟩)
      else (true, ⟨write.apply s.rows, s.fates.tail⟩) := by
  cases write with
  | add row =>
      rw [exec, add]
      simp only [Write.Allowed] at allowed
      simp only [allowed, if_true]
      rfl
  | del row =>
      rw [exec, del]
      simp only [Write.Allowed] at allowed
      simp only [allowed, if_true]
      rfl

/-- Either no write meets a failure, or those before the first failure are all that happen. -/
theorem execAll_cases (writes : List (Write Row)) : ∀ {s : Session Row},
    Write.AllAllowed accepts writes s.rows →
    ((execAll accepts writes s).1 = true ∧ (execAll accepts writes s).2.rows =
      Write.applyAll writes s.rows ∧
      false ∉ s.fates.take writes.length) ∨
    ∃ k < writes.length, s.fates[k]? = some false ∧ false ∉ s.fates.take k ∧
      (execAll accepts writes s).1 = false ∧
      (execAll accepts writes s).2.rows = Write.applyAll (writes.take k) s.rows := by
  induction writes with
  | nil =>
      intro s _
      exact .inl ⟨rfl, rfl, by simp⟩
  | cons write rest ih =>
      rintro ⟨rows, fates⟩ ⟨allowed, later⟩
      rw [execAll, exec_allowed allowed]
      cases fates with
      | nil =>
          have next := ih (s := ⟨write.apply rows, []⟩) later
          rcases next with ⟨done, same, _⟩ | ⟨k, _, failed, _⟩
          · exact .inl ⟨done, same, by simp⟩
          · simp at failed
      | cons fate fates =>
          cases fate with
          | false => exact .inr ⟨0, by simp, rfl, by simp, rfl, rfl⟩
          | true =>
              have next := ih (s := ⟨write.apply rows, fates⟩) later
              rcases next with ⟨done, same, none⟩ | ⟨k, small, failed, none, stopped, same⟩
              · exact .inl ⟨done, same, by simpa using none⟩
              · exact .inr ⟨k + 1, by simpa using small, by simpa using failed,
                  by simpa using none, stopped, same⟩

/-- The writes that turn the rows read into the calculated ones. -/
def plan (calculated read : List Row) : List (Write Row) :=
  (calculated.filter (· ∉ read)).map .add ++ (read.filter (· ∉ calculated)).map .del

theorem delAll_eq (accepts : Row → Bool) (left : List Row) (s : Session Row) :
    delAll left s = execAll accepts (left.map .del) s := by
  induction left generalizing s with
  | nil => rfl
  | cons row rest ih =>
      rw [delAll, List.map_cons, execAll, exec]
      cases s.del row with
      | mk done s =>
          cases done with
          | false => rfl
          | true => exact ih s

theorem save_cons (row : Row) (rest read : List Row) (s : Session Row) :
    save accepts (row :: rest) read s =
      if row ∈ read then save accepts rest (read.erase row) s
      else
        match s.add accepts row with
        | (false, s) => (false, s)
        | (true, s) => save accepts rest read s := by
  rw [save, addNews]
  by_cases known : row ∈ read
  · rw [if_pos known, if_pos known]
    rfl
  · rw [if_neg known, if_neg known]
    cases s.add accepts row with
    | mk done s =>
        cases done with
        | false => rfl
        | true => rfl

/-- An insertion fails just when one of the new rows meets a failure. -/
theorem addNews_iff (calculated : List Row) : ∀ {read : List Row} {s : Session Row},
    calculated.Nodup → read.Nodup → (∀ row ∈ calculated, accepts row = true) →
    ((addNews accepts calculated read s).1 = true ↔
      false ∉ s.fates.take (calculated.filter (· ∉ read)).length) := by
  induction calculated with
  | nil =>
      intro read s _ _ _
      simp [addNews]
  | cons row rest ih =>
      rintro read ⟨rows, fates⟩ nodup nodupRead valid
      have ⟨fresh, tail⟩ := List.nodup_cons.mp nodup
      have ⟨accepted, later⟩ := List.forall_mem_cons.mp valid
      rw [addNews]
      by_cases known : row ∈ read
      · have kept : rest.filter (· ∉ read.erase row) = (row :: rest).filter (· ∉ read) := by
          rw [List.filter_cons_of_neg (by simpa using known)]
          refine List.filter_congr fun other mem => ?_
          have different : other ≠ row := fun same => fresh (same ▸ mem)
          simp only [List.mem_erase_of_ne different]
        rw [if_pos known, ih tail (nodupRead.erase row) later, kept]
      · rw [if_neg known, List.filter_cons_of_pos (by simpa using known), List.length_cons, add]
        dsimp only
        rw [if_pos accepted]
        cases fates with
        | nil =>
            rw [if_neg (by simp)]
            exact (ih tail nodupRead later).trans (by simp)
        | cons fate fates =>
            cases fate with
            | false => simp
            | true =>
                rw [if_neg (by simp)]
                exact (ih tail nodupRead later).trans (by simp)

theorem save_eq (calculated : List Row) : ∀ {read : List Row} (s : Session Row),
    calculated.Nodup → read.Nodup →
    save accepts calculated read s = execAll accepts (plan calculated read) s := by
  induction calculated with
  | nil =>
      intro read s _ _
      simp [save, addNews, plan, delAll_eq accepts]
  | cons row rest ih =>
      intro read s nodup nodupRead
      have ⟨fresh, tail⟩ := List.nodup_cons.mp nodup
      rw [save_cons]
      by_cases known : row ∈ read
      · have erased := nodupRead.erase_eq_filter row
        have kept : ∀ other ∈ rest, (other ∉ read.erase row ↔ other ∉ read) := by
          intro other mem
          have different : other ≠ row := fun same => fresh (same ▸ mem)
          rw [List.mem_erase_of_ne different]
        have same : plan rest (read.erase row) = plan (row :: rest) read := by
          simp only [plan, List.filter_cons, known, not_true_eq_false, decide_false,
            Bool.false_eq_true, if_false, erased, List.filter_filter]
          congr 2
          · refine List.filter_congr fun other mem => ?_
            rw [← erased]
            simp only [kept other mem]
          · refine List.filter_congr fun other _ => ?_
            simp [List.mem_cons, Bool.and_comm, bne, beq_eq_decide]
        rw [if_pos known, ih s tail (nodupRead.erase row), same]
      · have same : plan (row :: rest) read = .add row :: plan rest read := by
          simp only [plan, List.filter_cons, known, not_false_eq_true, decide_true, if_true,
            List.map_cons, List.cons_append]
          congr 3
          refine List.filter_congr fun other mem => ?_
          have different : other ≠ row := fun same => known (same ▸ mem)
          simp [different]
        rw [if_neg known, same, execAll, exec]
        cases s.add accepts row with
        | mk done s =>
            cases done with
            | false => rfl
            | true => exact ih s tail nodupRead

end Session

end Tecs
