import Tecs.Workflow.FinishMachine

set_option autoImplicit false

namespace Tecs

open Effect Program TransactionContext ActionPool

namespace FinishActionRuns

variable {workflowId : String} {ids : List String}

/-- What a thread maintains between two statements that belong together. -/
structure Between (workflowId : String) (ids : List String) (shared : Pooled) (own : Finisher) :
    Prop where
  sound : Sound workflowId ids shared own
  paired : 0 < own.context.beginCount → Paired workflowId own
  settled : 0 < own.context.beginCount → Settled workflowId shared own

/-- Between two operations: a thread that was to archive the workflow at once has done so. -/
structure Idle (workflowId : String) (ids : List String) (shared : Pooled) (own : Finisher) :
    Prop where
  between : Between workflowId ids shared own
  done : own.counted = some (1, false) → ¬shared.tables.Present workflowId

theorem Sound.stable {shared later : Pooled} {own : Finisher}
    (sound : Sound workflowId ids shared own) (moved : Moves workflowId ids shared later) :
    Sound workflowId ids later own :=
  ⟨moved.sane sound.sane, fun s inside => (sound.finishing s inside).mono moved.passed⟩

theorem Settled.stable {shared later : Pooled} {own : Finisher}
    (settled : Settled workflowId shared own) (moved : Moves workflowId ids shared later) :
    Settled workflowId later own :=
  fun id inside => (settled id inside).imp_right fun either => either.imp_right moved.absent

theorem Between.stable {shared later : Pooled} {own : Finisher}
    (between : Between workflowId ids shared own) (moved : Moves workflowId ids shared later) :
    Between workflowId ids later own :=
  ⟨between.sound.stable moved, between.paired, fun on => (between.settled on).stable moved⟩

theorem Idle.stable {shared later : Pooled} {own : Finisher}
    (idle : Idle workflowId ids shared own) (moved : Moves workflowId ids shared later) :
    Idle workflowId ids later own :=
  ⟨idle.between.stable moved, fun counted => moved.absent (idle.done counted)⟩

section Rules

variable {env : Process} {Thread : Type} {thread : Thread} {α β : Type}

def Meets (workflowId : String) (ids : List String) (env : Process) (thread : Thread) (p : Pool α)
    (post : α → Pooled → Finisher → Prop) (shared : Pooled) (own : Finisher) : Prop :=
  p.Meets (S := pool) ((machine workflowId env Thread).Permitted (fun _ _ _ _ => True) thread)
    (Moves workflowId ids) (Asserts workflowId ids) post shared own

variable {shared : Pooled} {own : Finisher} {post : α → Pooled → Finisher → Prop}

theorem meets_ret {value : α}
    (held : ∀ later, Moves workflowId ids shared later → post value later own) :
    Meets workflowId ids env thread (.ret value) post shared own :=
  held

theorem meets_call {c : PoolCall} {next : c.Reply → Pool α}
    (continues : ∀ later, Moves workflowId ids shared later →
      Asserts workflowId ids c later own ∧
        Meets workflowId ids env thread (next (serve workflowId c later own).1) post
          (serve workflowId c later own).2.1 (serve workflowId c later own).2.2) :
    Meets workflowId ids env thread (.call c next) post shared own := by
  intro later moved
  obtain ⟨asserted, rest⟩ := continues later moved
  refine ⟨asserted, ?_⟩
  rintro reply after own' ⟨-, answered⟩
  obtain ⟨rfl, same⟩ := Prod.mk.inj answered
  obtain ⟨rfl, rfl⟩ := Prod.mk.inj same
  exact rest

theorem meets_bind {p : Pool β} {rest : β → Pool α}
    (first : Meets workflowId ids env thread p
      (fun value => Meets workflowId ids env thread (rest value) post) shared own) :
    Meets workflowId ids env thread (p >>= rest) post shared own :=
  Program.Meets.bind (Moves.refl workflowId ids) first

theorem meets_mono {p : Pool α} {weaker : α → Pooled → Finisher → Prop}
    (weaken : ∀ value shared own, post value shared own → weaker value shared own)
    (meets : Meets workflowId ids env thread p post shared own) :
    Meets workflowId ids env thread p weaker shared own :=
  Program.Meets.mono weaken meets

theorem asserts_plain {c : PoolCall} (sound : Sound workflowId ids shared own)
    (unissued : ∀ s, c ≠ .sql s) (uncommitted : c ≠ .transactionCommit)
    (counts : Counts workflowId own c → own.current ∈ shared.passed ∧ own.current ≠ "") :
    Asserts workflowId ids c shared own where
  sound := sound
  issues := fun s issued => absurd issued (unissued s)
  immediate := fun s issued => absurd issued (unissued s)
  names := fun _ issued => absurd issued (unissued _)
  deletes := fun s issued => absurd issued (unissued s)
  commits := fun commit => absurd commit uncommitted
  counts := counts

/-! Calls that leave the thread and the tables as they are. -/

/-- The calls that only read. -/
def Reads (workflowId : String) (own : Finisher) (c : PoolCall) : Prop :=
  (∀ shared, (serve workflowId c shared own).2 = (shared, own)) ∧
    (∀ s, c ≠ .sql s) ∧ c ≠ .transactionCommit ∧ ¬Counts workflowId own c

theorem reads_select {query : Query} (uncounted : ¬Counts workflowId own (.select query)) :
    Reads workflowId own (.select query) := by
  refine ⟨fun shared => ?_, fun s => nofun, nofun, uncounted⟩
  cases query with
  | unfinishedCount id =>
      have other : ¬(id = workflowId ∧ own.counted = none) := by
        rintro ⟨rfl, none⟩
        exact uncounted ⟨rfl, none⟩
      show (shared, note workflowId shared.tables own own.context _) = _
      simp only [note, if_neg other]
  | _ => rfl

/-- A call that only reads, and what follows for its reply. -/
theorem meets_read {c : PoolCall} {next : c.Reply → Pool α}
    (reads : Reads workflowId own c) (sound : Sound workflowId ids shared own)
    (continues : ∀ later, Moves workflowId ids shared later →
      Meets workflowId ids env thread (next (serve workflowId c later own).1) post later own) :
    Meets workflowId ids env thread (.call c next) post shared own := by
  refine meets_call fun later moved =>
    ⟨asserts_plain (sound.stable moved) reads.2.1 reads.2.2.1 fun counts =>
      absurd counts reads.2.2.2, ?_⟩
  rw [reads.1 later]
  exact continues later moved

/-- What a reading function leaves: the thread as it was, and a fact about the value. -/
def Read (workflowId : String) (ids : List String) (shared : Pooled) (own : Finisher)
    (fact : α → Pooled → Prop) (value : α) (later : Pooled) (own' : Finisher) : Prop :=
  own' = own ∧ Moves workflowId ids shared later ∧ fact value later

theorem meets_found {fact : α → Pooled → Prop}
    (stable : ∀ value earlier later, fact value earlier → Moves workflowId ids earlier later →
      fact value later) {value : α} (held : fact value shared) :
    Meets workflowId ids env thread (.ret value) (Read workflowId ids shared own fact) shared own :=
  meets_ret fun _ after => ⟨rfl, after, stable _ _ _ held after⟩

theorem meets_select {query : Query} {next : Found query.Value → Pool α}
    {fact : α → Pooled → Prop} (uncounted : ¬Counts workflowId own (.select query))
    (sound : Sound workflowId ids shared own)
    (continues : ∀ later, Moves workflowId ids shared later → Sound workflowId ids later own →
      Meets workflowId ids env thread (next (later.tables.select query))
        (Read workflowId ids later own fact) later own) :
    Meets workflowId ids env thread (Pool.select query >>= next)
      (Read workflowId ids shared own fact) shared own := by
  refine meets_read (reads_select uncounted) sound fun later moved => ?_
  refine meets_mono ?_ (continues later moved (sound.stable moved))
  exact fun value last own' read => ⟨read.1, moved.trans read.2.1, read.2.2⟩

theorem meets_read_bind {p : Pool β} {rest : β → Pool α} {first : β → Pooled → Prop}
    {fact : α → Pooled → Prop} (sound : Sound workflowId ids shared own)
    (reading : Meets workflowId ids env thread p (Read workflowId ids shared own first) shared own)
    (continues : ∀ value later, Moves workflowId ids shared later →
      Sound workflowId ids later own → first value later →
      Meets workflowId ids env thread (rest value) (Read workflowId ids later own fact) later own) :
    Meets workflowId ids env thread (p >>= rest) (Read workflowId ids shared own fact) shared
      own := by
  refine meets_bind (meets_mono ?_ reading)
  rintro value later own ⟨rfl, moved, known⟩
  refine meets_mono ?_ (continues value later moved (sound.stable moved) known)
  exact fun value last own' read => ⟨read.1, moved.trans read.2.1, read.2.2⟩

theorem meets_getWorkflowIdOfAction {actionId : String} (inside : actionId ∈ ids)
    (sound : Sound workflowId ids shared own) :
    Meets workflowId ids env thread (getWorkflowIdOfAction actionId)
      (Read workflowId ids shared own fun value _ => value = "" ∨ value = workflowId)
      shared own := by
  refine meets_select (fun counts => nomatch counts.1) sound fun later moved sound => ?_
  simp only [Database.select]
  cases found : later.tables.actionById actionId with
  | none => exact meets_found (fun _ _ _ fact _ => fact) (.inl rfl)
  | some row =>
      obtain ⟨stored, rfl⟩ := Database.actionById_eq_some.mp found
      exact meets_found (fun _ _ _ fact _ => fact)
        (.inr ((sound.sane.owned row stored).mp inside))

theorem absent_of_unread {shared : Pooled}
    (none : shared.tables.workflowById workflowId = none) :
    ¬shared.tables.Present workflowId := by
  intro present
  obtain ⟨w, inside, named⟩ := List.mem_map.mp present
  rw [Database.workflowById_eq_some.mpr ⟨inside, named⟩] at none
  cases none

/-- An error means that the workflow is gone. -/
def Unless (workflowId : String) {β : Type} (good : β → Prop) (found : Except Status β)
    (shared : Pooled) : Prop :=
  (∀ ret, found = .error ret → ¬shared.tables.Present workflowId) ∧ ∀ v, found = .ok v → good v

theorem unless_stable {good : β → Prop} (found : Except Status β) (earlier later : Pooled)
    (fact : Unless workflowId good found earlier) (moved : Moves workflowId ids earlier later) :
    Unless workflowId good found later :=
  ⟨fun ret error => moved.absent (fact.1 ret error), fact.2⟩

theorem unless_ok {good : β → Prop} {v : β} (held : good v) :
    Unless workflowId good (.ok v : Except Status β) shared :=
  ⟨nofun, fun other same => by rwa [← Except.ok.inj same]⟩

theorem unless_error {good : β → Prop} {ret : Status}
    (absent : ¬shared.tables.Present workflowId) :
    Unless workflowId good (.error ret : Except Status β) shared :=
  ⟨fun _ _ => absent, nofun⟩

theorem meets_getWorkflowById (sound : Sound workflowId ids shared own) :
    Meets workflowId ids env thread (getWorkflowById workflowId)
      (Read workflowId ids shared own
        (Unless workflowId fun row : WorkflowRow => row.workflowId = workflowId)) shared own := by
  refine meets_select (fun counts => nomatch counts.1) sound fun later moved sound => ?_
  simp only [Database.select]
  cases found : later.tables.workflowById workflowId with
  | none => exact meets_found unless_stable (unless_error (absent_of_unread found))
  | some row =>
      exact meets_found unless_stable (unless_ok (Database.workflowById_eq_some.mp found).2)

/-- An action that is not there belonged to a workflow that is not there. -/
theorem meets_getActionState {actionId : String} (inside : actionId ∈ ids)
    (sound : Sound workflowId ids shared own) :
    Meets workflowId ids env thread (ActionPool.getActionState actionId)
      (Read workflowId ids shared own (Unless workflowId fun _ => True)) shared own := by
  refine meets_select (fun counts => nomatch counts.1) sound fun later moved sound => ?_
  simp only [Database.select]
  cases found : later.tables.actionById actionId with
  | none =>
      refine meets_found unless_stable (unless_error fun present => ?_)
      obtain ⟨a, row, named, -⟩ := sound.sane.rows present actionId inside
      rw [Database.actionById_eq_some.mpr ⟨row, named⟩] at found
      cases found
  | some row => exact meets_found unless_stable (unless_ok trivial)

theorem meets_getWorkflowProgress (some : ids ≠ []) (sound : Sound workflowId ids shared own) :
    Meets workflowId ids env thread (getWorkflowProgress workflowId)
      (Read workflowId ids shared own fun progress later =>
        (progress < 0 → ¬later.tables.Present workflowId) ∧ progress ≤ 100) shared own := by
  refine meets_select (fun counts => nomatch counts.1) sound fun later moved sound => ?_
  have stable : ∀ (progress : Int) (earlier later : Pooled),
      (progress < 0 → ¬earlier.tables.Present workflowId) ∧ progress ≤ 100 →
      Moves workflowId ids earlier later →
      (progress < 0 → ¬later.tables.Present workflowId) ∧ progress ≤ 100 :=
    fun _ _ _ fact moved => ⟨fun negative => moved.absent (fact.1 negative), fact.2⟩
  have bounds := later.tables.workflowProgress_bounds workflowId
  simp only [Database.select]
  by_cases empty : (later.tables.actionsOf workflowId).isEmpty = true
  · rw [if_pos empty]
    refine meets_found stable ⟨fun _ present => ?_, by decide⟩
    obtain ⟨id, inside⟩ := List.exists_mem_of_ne_nil ids some
    obtain ⟨a, row, -, owned⟩ := sound.sane.rows present id inside
    have listed := Database.mem_actionsOf.mpr ⟨row, owned⟩
    rw [List.isEmpty_iff.mp empty] at listed
    cases listed
  · rw [if_neg empty]
    exact meets_found stable ⟨fun negative => absurd negative (by omega), bounds.2⟩

/-- A history that the table takes. -/
def Acceptable (workflowId : String) (history : WorkflowHistory) : Prop :=
  history.workflowId = workflowId ∧ 0 ≤ history.progress ∧ history.progress ≤ 100

theorem acceptable_finished {history : WorkflowHistory} (named : history.workflowId = workflowId) :
    Acceptable workflowId (finishedHistory history) :=
  ⟨named, by simp [finishedHistory], by simp [finishedHistory]⟩

theorem meets_makeUnfinishedHistory {history : WorkflowHistory}
    (named : history.workflowId = workflowId) (some : ids ≠ [])
    (sound : Sound workflowId ids shared own) :
    Meets workflowId ids env thread (makeUnfinishedHistory workflowId history)
      (Read workflowId ids shared own (Unless workflowId (Acceptable workflowId))) shared own := by
  refine meets_read_bind sound (meets_getWorkflowProgress some sound) ?_
  intro progress middle _ sound known
  obtain ⟨absent, bound⟩ := known
  split
  · rename_i negative
    exact meets_found unless_stable (unless_error (absent negative))
  · rename_i positive
    have held : ∀ h : WorkflowHistory, h.workflowId = history.workflowId →
        h.progress = progress → Acceptable workflowId h :=
      fun h same equal => ⟨same.trans named, by omega, by omega⟩
    refine meets_select (fun counts => nomatch counts.1) sound fun later _ _ => ?_
    simp only [Database.select]
    cases later.tables.failedAction workflowId with
    | none => exact meets_found unless_stable (unless_ok (held _ rfl rfl))
    | some found => exact meets_found unless_stable (unless_ok (held _ rfl rfl))

theorem reads_keyValue : Reads workflowId own .keyValue :=
  ⟨fun _ => rfl, fun _ => nofun, nofun, fun counts => nomatch counts.1⟩

theorem reads_transactionOn : Reads workflowId own .transactionOn :=
  ⟨fun _ => rfl, fun _ => nofun, nofun, fun counts => nomatch counts.1⟩

/-- A call that only reads, before functions that only read. -/
theorem meets_reading {c : PoolCall} {next : c.Reply → Pool α} {fact : α → Pooled → Prop}
    (reads : Reads workflowId own c) (sound : Sound workflowId ids shared own)
    (continues : ∀ later, Sound workflowId ids later own →
      Meets workflowId ids env thread (next (serve workflowId c later own).1)
        (Read workflowId ids later own fact) later own) :
    Meets workflowId ids env thread (.call c next) (Read workflowId ids shared own fact) shared
      own := by
  refine meets_read reads sound fun later moved => ?_
  refine meets_mono ?_ (continues later (sound.stable moved))
  exact fun value last own' read => ⟨read.1, moved.trans read.2.1, read.2.2⟩

/-- In a transaction the action that was finished last is among the key values. -/
theorem meets_makeTransactionHistory {history : WorkflowHistory} {actionId : String}
    (named : history.workflowId = workflowId) (inside : actionId ∈ ids)
    (entry : own.context.keyvalue.toList = [(actionId, workflowId)])
    (sound : Sound workflowId ids shared own) :
    Meets workflowId ids env thread (makeTransactionHistory workflowId history)
      (Read workflowId ids shared own (Unless workflowId (Acceptable workflowId))) shared own := by
  have some : ids ≠ [] := List.ne_nil_of_mem inside
  refine meets_reading reads_keyValue sound fun later sound => ?_
  have reply : (serve workflowId .keyValue later own).1 = own.context.keyvalue.toList := rfl
  rw [reply, entry]
  have state : Meets workflowId ids env thread (stateOfFinished workflowId [(actionId, workflowId)])
      (Read workflowId ids later own (Unless workflowId fun _ => True)) later own := by
    unfold stateOfFinished
    simp only [beq_self_eq_true, if_true]
    refine meets_read_bind sound (meets_getActionState inside sound) ?_
    intro found last _ _ known
    cases found with
    | error ret => exact meets_found unless_stable (unless_error (known.1 ret rfl))
    | ok state =>
        dsimp only
        split
        · exact meets_found unless_stable (unless_ok trivial)
        · exact meets_found unless_stable (unless_ok trivial)
  simp only [Program.bind, List.isEmpty_cons, Bool.false_eq_true, if_false]
  refine meets_read_bind sound state ?_
  intro found last _ sound known
  cases found with
  | error ret => exact meets_found unless_stable (unless_error (known.1 ret rfl))
  | ok state =>
      dsimp only
      split
      · exact meets_found unless_stable (unless_ok (acceptable_finished named))
      · exact meets_makeUnfinishedHistory named some sound

theorem meets_makeWorkflowHistory (history : WorkflowHistory) {actionId : String}
    (named : history.workflowId = workflowId) (inside : actionId ∈ ids)
    (entry : own.context.keyvalue.toList = [(actionId, workflowId)])
    (counted : own.counted ≠ none) (sound : Sound workflowId ids shared own) :
    Meets workflowId ids env thread (makeWorkflowHistory workflowId history)
      (Read workflowId ids shared own (Unless workflowId (Acceptable workflowId))) shared own := by
  have some : ids ≠ [] := List.ne_nil_of_mem inside
  have count : Meets workflowId ids env thread (getUnfinishedActionsCount workflowId)
      (Read workflowId ids shared own fun count _ => 0 ≤ count) shared own := by
    refine meets_select (fun counts => absurd counts.2 counted) sound fun later _ _ => ?_
    exact meets_found (fun _ _ _ fact _ => fact) (Int.natCast_nonneg _)
  refine meets_read_bind sound count ?_
  intro count later _ sound positive
  rw [if_neg (Int.not_lt.mpr positive)]
  split
  · exact meets_found unless_stable (unless_ok (acceptable_finished named))
  · refine meets_reading reads_transactionOn sound fun last sound => ?_
    show Meets workflowId ids env thread (if own.context.isOn then _ else _) _ _ _
    split
    · exact meets_makeTransactionHistory named inside entry sound
    · exact meets_makeUnfinishedHistory named some sound

end Rules

end FinishActionRuns

end Tecs
