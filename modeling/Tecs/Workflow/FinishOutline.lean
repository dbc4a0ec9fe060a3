import Tecs.Workflow.FinishReads

set_option autoImplicit false

namespace Tecs

open Effect Program TransactionContext ActionPool

namespace FinishActionRuns

variable {workflowId : String} {ids : List String}

/-! The calls that change the thread's transaction. -/

def Finisher.append (own : Finisher) (s : Statement) : Finisher :=
  { own with context := own.context.append s }

def Finisher.begin (own : Finisher) : Finisher :=
  { own with context := own.context.begin }

theorem serve_sql_on {shared : Pooled} {own : Finisher} (s : Statement)
    (on : 0 < own.context.beginCount) :
    serve workflowId (.sql s) shared own = (sqldbOk, shared, own.append s) := by
  simp only [serve, answer, issue_on s on, note, (isOn_eq_true own.context).mpr on, if_true]
  rfl

theorem serve_commit_nested {shared : Pooled} {own : Finisher}
    (nested : 1 < own.context.beginCount) :
    serve workflowId .transactionCommit shared own = (Status.success, shared,
      { own with context := { own.context with beginCount := own.context.beginCount - 1 } }) := by
  have inner : own.context.beginCount ≠ 1 := by omega
  simp only [serve, answer, commit_nested nested, note, if_neg inner]

theorem serve_commit_outermost {shared : Pooled} {own : Finisher}
    (outermost : own.context.beginCount = 1) :
    (serve workflowId .transactionCommit shared own).2 =
      ({ shared with tables := (shared.tables.settle true
          (shared.tables.executeTransaction own.context.sql)).2 },
        { own with context := { own.context with beginCount := 0 }, promised := [] }) := by
  simp only [serve, answer, commit_outermost outermost, note, if_pos outermost]
  cases own.context.sql with
  | nil => rfl
  | cons s rest => rfl

theorem Sound.append {shared : Pooled} {own : Finisher} {s : Statement}
    (sound : Sound workflowId ids shared own) (finishing : s.Finishing workflowId shared.passed) :
    Sound workflowId ids shared (own.append s) where
  sane := sound.sane
  finishing := by
    intro other inside
    rcases List.mem_append.mp inside with inside | last
    · exact sound.finishing other inside
    · rw [List.mem_singleton.mp last]
      exact finishing

theorem asserts_commit {shared : Pooled} {own : Finisher} (sound : Sound workflowId ids shared own)
    (commits : own.context.beginCount = 1 → Paired workflowId own ∧ Settled workflowId shared own) :
    Asserts workflowId ids .transactionCommit shared own where
  sound := sound
  issues := fun _ issued => nomatch issued
  immediate := fun _ issued => nomatch issued
  names := fun _ issued => nomatch issued
  deletes := fun _ issued => nomatch issued
  commits := fun _ => commits
  counts := fun counts => nomatch counts.1

section Rules

variable {env : Process} {Thread : Type} {thread : Thread} {α : Type} {shared : Pooled}
  {own : Finisher} {post : α → Pooled → Finisher → Prop}

/-- A statement inside a transaction waits for the commit. -/
theorem meets_buffer {s : Statement} {next : Int → Pool α} (on : 0 < own.context.beginCount)
    (sound : Sound workflowId ids shared own) (finishing : s.Finishing workflowId shared.passed)
    (names : ∀ id, s = .updateAction id .finish → id = own.current ∧ own.counted ≠ none)
    (deletes : s.Deletes workflowId → ∃ on, own.counted = some (1, on))
    (continues : ∀ later, Moves workflowId ids shared later →
      Sound workflowId ids later (own.append s) →
      Meets workflowId ids env thread (next sqldbOk) post later (own.append s)) :
    Meets workflowId ids env thread (Pool.sql s >>= next) post shared own := by
  refine meets_call fun later moved => ?_
  have here := sound.stable moved
  have finishing := finishing.mono moved.passed
  rw [serve_sql_on s on]
  refine ⟨⟨here, ?_, ?_, ?_, ?_, nofun, fun counts => nomatch counts.1⟩,
    continues later moved (here.append finishing)⟩
  · rintro _ ⟨⟩
    exact finishing
  · intro _ _ off
    omega
  · rintro id issued
    exact names id (PoolCall.sql.inj issued)
  · rintro _ ⟨⟩
    exact deletes

theorem meets_begin {next : Status → Pool α} (sound : Sound workflowId ids shared own)
    (continues : ∀ later, Moves workflowId ids shared later →
      Sound workflowId ids later own.begin →
      Meets workflowId ids env thread (next Status.success) post later own.begin) :
    Meets workflowId ids env thread (Pool.begin >>= next) post shared own := by
  refine meets_call fun later moved => ?_
  have here := sound.stable moved
  have opened : Sound workflowId ids later own.begin := by
    refine ⟨here.sane, fun s inside => here.finishing s ?_⟩
    unfold Finisher.begin at inside
    rcases Nat.eq_zero_or_pos own.context.beginCount with off | on
    · rw [begin_outermost off] at inside
      cases inside
    · rwa [begin_nested on] at inside
  exact ⟨asserts_plain here (fun _ => nofun) nofun (fun counts => nomatch counts.1),
    continues later moved opened⟩

theorem meets_saveWorkflowHistory {history : WorkflowHistory} (on : 0 < own.context.beginCount)
    (named : history.workflowId = workflowId) (sound : Sound workflowId ids shared own) :
    Meets workflowId ids env thread (saveWorkflowHistory history)
      (fun saved later own' => saved = Status.success ∧ Moves workflowId ids shared later ∧
        Sound workflowId ids later own' ∧
        own' = (own.append (.insertHistory history)).append
          (.insertLabelsHistory history.workflowId)) shared own := by
  refine meets_buffer on sound named nofun nofun fun middle moved sound => ?_
  rw [if_pos rfl]
  refine meets_buffer on sound trivial nofun nofun fun later moved' sound => ?_
  exact meets_ret fun last moved'' =>
    ⟨rfl, (moved.trans moved').trans moved'', sound.stable moved'', rfl⟩

/-- An accepted history is refused only if there is one already. -/
theorem archive_absent {tables : Database} {passed : List String} {history : WorkflowHistory}
    {workflowIds : List String} (sane : Sane workflowId ids ⟨tables, passed⟩)
    (acceptable : Acceptable workflowId history) (deletes : workflowId ∈ workflowIds) :
    ¬(tables.settle true (tables.executeTransaction [.insertHistory history,
      .insertLabelsHistory history.workflowId, .deleteWorkflow workflowIds])).2.Present
        workflowId := by
  unfold Database.settle
  cases done : tables.executeTransaction [.insertHistory history,
      .insertLabelsHistory history.workflowId, .deleteWorkflow workflowIds] with
  | some later =>
      have finishing : ∀ s ∈ [Statement.insertHistory history,
          .insertLabelsHistory history.workflowId, .deleteWorkflow workflowIds],
          s.Finishing workflowId passed := by
        simp only [List.forall_mem_cons, List.not_mem_nil, false_implies, implies_true, and_true]
        exact ⟨acceptable.1, trivial, deletes⟩
      have finishes := Database.executeTransaction_finishes finishing done
      exact fun present => (finishes.present.mp present).2 (.deleteWorkflow workflowIds)
        (by simp) deletes
  | none =>
      have archived : tables.Archived workflowId := by
        by_contra fresh
        have inserted : ∃ next, tables.insertHistory history = some next := by
          unfold Database.insertHistory
          rw [dif_pos ⟨by rw [acceptable.1]; exact fresh, acceptable.2⟩]
          exact ⟨_, rfl⟩
        obtain ⟨next, inserted⟩ := inserted
        simp only [Database.executeTransaction, Database.execute, inserted,
          Option.bind_some] at done
        cases done
      exact sane.once.mp archived

/-- The thread is about to archive the workflow, inside its own transaction or not. -/
structure Archiving (workflowId : String) (ids : List String) (actionId : String) (on : Bool)
    (shared : Pooled) (own : Finisher) : Prop where
  sound : Sound workflowId ids shared own
  paired : 0 < own.context.beginCount → Paired workflowId own
  counted : own.counted = some (1, on)
  depth : own.context.isOn = on
  entry : own.context.keyvalue.toList = [(actionId, workflowId)]

theorem Archiving.stable {actionId : String} {on : Bool} {later : Pooled}
    (archiving : Archiving workflowId ids actionId on shared own)
    (moved : Moves workflowId ids shared later) :
    Archiving workflowId ids actionId on later own :=
  { archiving with sound := archiving.sound.stable moved }

/-- The thread at the commit of an archive. -/
def Finisher.archived (own : Finisher) (history : WorkflowHistory) (workflowIds : List String) :
    Finisher :=
  ((own.begin.append (.insertHistory history)).append
    (.insertLabelsHistory history.workflowId)).append (.deleteWorkflow workflowIds)

theorem archived_sql (own : Finisher) {history : WorkflowHistory} {workflowIds : List String}
    (named : history.workflowId = workflowId) (deletes : workflowId ∈ workflowIds) :
    (∃ s ∈ (own.archived history workflowIds).context.sql, s.Archives workflowId) ∧
      ∃ s ∈ (own.archived history workflowIds).context.sql, s.Deletes workflowId :=
  ⟨⟨.insertHistory history, by simp [Finisher.archived, Finisher.append, TransactionContext.append],
    named⟩,
    ⟨.deleteWorkflow workflowIds, by
      simp [Finisher.archived, Finisher.append, TransactionContext.append], deletes⟩⟩

theorem meets_commitArchive {history : WorkflowHistory} {workflowIds : List String}
    {actionId : String} {on : Bool} (acceptable : Acceptable workflowId history)
    (deletes : workflowId ∈ workflowIds)
    (archiving : Archiving workflowId ids actionId on shared own)
    (sound : Sound workflowId ids shared (own.archived history workflowIds)) :
    Meets workflowId ids env thread Pool.commit (fun _ => Idle workflowId ids) shared
      (own.archived history workflowIds) := by
  obtain ⟨archives, deleted⟩ := archived_sql own acceptable.1 deletes
  refine meets_call fun later moved => ?_
  have here := sound.stable moved
  have asserted : Asserts workflowId ids .transactionCommit later
      (own.archived history workflowIds) :=
    asserts_commit here fun _ =>
      ⟨⟨fun _ => deleted, fun _ => archives⟩, fun _ _ => .inr (.inl deleted)⟩
  refine ⟨asserted, ?_⟩
  have counted := archiving.counted
  have depth := archiving.depth
  cases on with
  | true =>
      -- the thread's own transaction goes on
      have opened : 0 < own.context.beginCount := (isOn_eq_true own.context).mp depth
      rw [serve_commit_nested (Nat.succ_lt_succ opened)]
      refine meets_ret fun last moved => Idle.stable ⟨⟨?_, fun _ => ?_, fun _ => ?_⟩, ?_⟩ moved
      · exact ⟨here.sane, here.finishing⟩
      · exact ⟨fun _ => deleted, fun _ => archives⟩
      · exact fun _ _ => .inr (.inl deleted)
      · intro other
        have other : own.counted = some (1, false) := other
        rw [counted] at other
        cases other
  | false =>
      have off : own.context.beginCount = 0 := by
        have := (isOn_eq_true own.context).not.mp (by rw [depth]; decide)
        omega
      have outermost : (own.archived history workflowIds).context.beginCount = 1 := by
        show own.context.beginCount + 1 = 1
        omega
      have batch : (own.archived history workflowIds).context.sql = [.insertHistory history,
          .insertLabelsHistory history.workflowId, .deleteWorkflow workflowIds] := by
        simp [Finisher.archived, Finisher.append, Finisher.begin, TransactionContext.append,
          begin_outermost off]
      have absent := archive_absent here.sane acceptable deletes
      have left := serve_moves asserted
      rw [← batch] at absent
      rw [serve_commit_outermost outermost] at left ⊢
      refine meets_ret fun last moved => Idle.stable ⟨⟨?_, fun on => ?_, fun on => ?_⟩, ?_⟩ moved
      · exact ⟨left.sane here.sane, here.finishing⟩
      · exact absurd on (Nat.lt_irrefl 0)
      · exact absurd on (Nat.lt_irrefl 0)
      · exact fun _ => absent

/-- Once its history is made the workflow is archived, or some other thread has done so. -/
theorem meets_archiveWorkflow {history : WorkflowHistory} {workflowIds : List String}
    {actionId : String} {on : Bool} (acceptable : Acceptable workflowId history)
    (deletes : workflowId ∈ workflowIds)
    (archiving : Archiving workflowId ids actionId on shared own) :
    Meets workflowId ids env thread (archiveWorkflow history workflowIds)
      (fun _ => Idle workflowId ids) shared own := by
  refine meets_begin archiving.sound fun first moved opened => ?_
  refine meets_bind (meets_mono ?_ (meets_saveWorkflowHistory (Nat.succ_pos _) acceptable.1
    opened))
  rintro saved second own' ⟨rfl, moved', buffered, rfl⟩
  rw [if_pos rfl]
  refine meets_buffer (Nat.succ_pos _) buffered deletes nofun
    (fun _ => ⟨on, archiving.counted⟩) fun third moved'' sound => ?_
  rw [if_pos rfl]
  exact meets_commitArchive acceptable deletes
    (archiving.stable ((moved.trans moved').trans moved'')) sound

/-- Nothing is left to archive. -/
theorem Archiving.idle {actionId : String} {on : Bool}
    (archiving : Archiving workflowId ids actionId on shared own)
    (absent : ¬shared.tables.Present workflowId) : Idle workflowId ids shared own :=
  ⟨⟨archiving.sound, archiving.paired, fun _ _ _ => .inr (.inr absent)⟩, fun _ => absent⟩

theorem mem_deletedIds (workflowId rollbackWorkflowId : String) :
    workflowId ∈ deletedIds workflowId rollbackWorkflowId := by
  unfold deletedIds
  split
  · exact List.mem_singleton_self _
  · exact List.mem_cons_self

theorem meets_deleteWorkflow {actionId : String} {on : Bool} (inside : actionId ∈ ids)
    (archiving : Archiving workflowId ids actionId on shared own) :
    Meets workflowId ids env thread (ActionPool.deleteWorkflow workflowId true)
      (fun _ => Idle workflowId ids) shared own := by
  refine meets_bind (meets_mono ?_ (meets_getWorkflowById archiving.sound))
  rintro found later own ⟨rfl, moved, absent, named⟩
  have archiving := archiving.stable moved
  cases found with
  | error code =>
      exact meets_ret fun last moved => (archiving.idle (absent code rfl)).stable moved
  | ok row =>
      dsimp only
      refine meets_bind (meets_mono ?_ (meets_makeWorkflowHistory (historyOf row)
        (named row rfl) inside archiving.entry (by rw [archiving.counted]; exact nofun)
        archiving.sound))
      rintro made last own ⟨rfl, moved, absent, good⟩
      have archiving := archiving.stable moved
      cases made with
      | error code =>
          exact meets_ret fun last moved => (archiving.idle (absent code rfl)).stable moved
      | ok history =>
          dsimp only
          have rollback : Meets workflowId ids env thread (rollbackToDelete workflowId true)
              (Read workflowId ids last own fun _ _ => True) last own := by
            refine meets_select (fun counts => nomatch counts.1) archiving.sound fun _ _ _ => ?_
            simp only [Database.select]
            split
            · exact meets_found (fun _ _ _ _ _ => trivial) trivial
            · exact meets_found (fun _ _ _ _ _ => trivial) trivial
          refine meets_bind (meets_mono ?_ rollback)
          rintro rollbackWorkflowId final own ⟨rfl, moved, -⟩
          exact meets_archiveWorkflow (good history rfl) (mem_deletedIds workflowId _)
            (archiving.stable moved)

/-- The thread after its `FinishAction` has counted and finished the action. -/
structure Finished (workflowId : String) (ids : List String) (count : Nat) (on : Bool)
    (shared : Pooled) (own : Finisher) : Prop where
  sound : Sound workflowId ids shared own
  paired : 0 < own.context.beginCount → Paired workflowId own
  others : 2 ≤ count → Between workflowId ids shared own
  counted : own.counted = some (count, on)
  depth : own.context.isOn = on

theorem Finished.stable {count : Nat} {on : Bool} {later : Pooled}
    (finished : Finished workflowId ids count on shared own)
    (moved : Moves workflowId ids shared later) : Finished workflowId ids count on later own :=
  { finished with
    sound := finished.sound.stable moved
    others := fun more => (finished.others more).stable moved }

/-- Outside a transaction the action is finished at once. -/
theorem serve_finish_off (shared : Pooled) (actionId : String) (off : own.context.beginCount = 0) :
    ∃ tables, serve workflowId (.sql (.updateAction actionId .finish)) shared own =
      (sqldbOk, { shared with tables := tables }, { own with promised := [] }) := by
  obtain ⟨next, done, -, -⟩ := shared.tables.updateAction_done Database.finish_checked actionId
  have unopened : own.context.isOn = false := by
    simp [isOn, off]
  refine ⟨next, ?_⟩
  simp only [serve, answer, issue_off _ _ off, Database.execute, done, Database.settle, note,
    unopened, if_true, Bool.false_eq_true, if_false]

theorem meets_finish {actionId : String} {count : Nat} {on : Bool}
    (between : Between workflowId ids shared own) (counted : own.counted = some (count, on))
    (depth : own.context.isOn = on) (some : count ≠ 0)
    (current : own.current = actionId) (promised : 2 ≤ count → actionId ∈ own.promised)
    (passed : actionId ∈ shared.passed) :
    Meets workflowId ids env thread (ActionPool.finishAction actionId)
      (fun ret later own' => ret = Status.success ∧ Finished workflowId ids count on later own')
      shared own := by
  have finishing : (Statement.updateAction actionId .finish).Finishing workflowId shared.passed :=
    passed
  have names : ∀ id, Statement.updateAction id .finish = .updateAction actionId .finish →
      id = own.current ∧ own.counted ≠ none := by
    rintro _ ⟨⟩
    exact ⟨current.symm, by rw [counted]; exact nofun⟩
  cases on with
  | true =>
      have opened : 0 < own.context.beginCount := (isOn_eq_true own.context).mp depth
      refine meets_buffer opened between.sound finishing (fun id same => names id same.symm)
        (fun deletes => deletes.elim) fun later moved sound => ?_
      have here := between.stable moved
      have paired : Paired workflowId (own.append (.updateAction actionId .finish)) := by
        have before := here.paired opened
        unfold Paired at before ⊢
        simpa [Finisher.append, TransactionContext.append, or_and_right, exists_or,
          Statement.Archives, Statement.Deletes] using before
      refine meets_ret fun last moved => ⟨rfl, Finished.stable ⟨sound, fun _ => paired,
        fun more => ⟨sound, fun _ => paired, fun _ => ?_⟩, counted, depth⟩ moved⟩
      intro id inside
      rcases List.mem_append.mp inside with inside | last
      · refine (here.settled opened id inside).imp_right fun either => either.imp_left ?_
        rintro ⟨s, among, deletes⟩
        exact ⟨s, List.mem_append_left _ among, deletes⟩
      · obtain ⟨rfl, -⟩ := Statement.updateAction.inj (List.mem_singleton.mp last)
        exact .inl (promised more)
  | false =>
      have off : own.context.beginCount = 0 := by
        have := (isOn_eq_true own.context).not.mp (by rw [depth]; decide)
        omega
      refine meets_call fun later moved => ?_
      have here := between.sound.stable moved
      have asserted : Asserts workflowId ids (.sql (.updateAction actionId .finish)) later own := by
        refine ⟨here, ?_, ?_, fun id issued => names id (PoolCall.sql.inj issued).symm, ?_,
          fun commit => (by cases commit),
          fun counts => (by cases counts.1)⟩
        · rintro _ ⟨⟩
          exact finishing.mono moved.passed
        · rintro _ ⟨⟩ _
          refine ⟨actionId, rfl, ?_⟩
          by_cases more : 2 ≤ count
          · exact .inl (promised more)
          · have one : count = 1 := by omega
            exact .inr (by rw [counted, one])
        · rintro _ ⟨⟩ deletes
          exact deletes.elim
      have left := serve_moves asserted
      obtain ⟨tables, served⟩ := serve_finish_off later actionId off
      refine ⟨asserted, ?_⟩
      rw [served] at left ⊢
      have unopened : ¬0 < own.context.beginCount := by omega
      have sound : Sound workflowId ids { later with tables := tables }
          { own with promised := [] } := ⟨left.sane here.sane, here.finishing⟩
      exact meets_ret fun last moved => ⟨rfl, Finished.stable ⟨sound,
        fun opened => absurd opened unopened,
        fun _ => ⟨sound, fun opened => absurd opened unopened, fun opened =>
          absurd opened unopened⟩,
        counted, depth⟩ moved⟩

/-- What the first reading of the number of unfinished actions leaves. -/
def Finisher.count (own : Finisher) (count : Nat) : Finisher :=
  { own with
    counted := some (count, own.context.isOn)
    promised := if 2 ≤ count then own.current :: own.promised else own.promised }

theorem Between.count (between : Between workflowId ids shared own) (count : Nat) :
    Between workflowId ids shared (own.count count) where
  sound := ⟨between.sound.sane, between.sound.finishing⟩
  paired := between.paired
  settled := by
    intro on id inside
    refine (between.settled on id inside).imp_left fun promised => ?_
    unfold Finisher.count
    dsimp only
    split
    · exact List.mem_cons_of_mem _ promised
    · exact promised

theorem meets_count {next : Int → Pool α} (uncounted : own.counted = none)
    (passed : own.current ∈ shared.passed) (named : own.current ≠ "")
    (sound : Sound workflowId ids shared own)
    (continues : ∀ (count : Nat) later, Moves workflowId ids shared later →
      Meets workflowId ids env thread (next count) post later (own.count count)) :
    Meets workflowId ids env thread (getUnfinishedActionsCount workflowId >>= next) post shared
      own := by
  refine meets_call fun later moved => ⟨asserts_plain (sound.stable moved) (fun _ => nofun) nofun
    fun _ => ⟨moved.passed passed, named⟩, ?_⟩
  have served : serve workflowId (.select (.unfinishedCount workflowId)) later own =
      (.value ((later.tables.unfinished workflowId).length : Int), later,
        own.count (later.tables.unfinished workflowId).length) := by
    simp only [serve, answer, note, uncounted, and_self, if_true, Database.select,
      Finisher.count]
  rw [served]
  exact continues _ later moved

theorem toList_insertIfNew (key value : String) :
    ((∅ : Std.TreeMap String String).insertIfNew key value).toList = [(key, value)] := rfl

def Finisher.withKeyvalue (own : Finisher) (keyvalue : Std.TreeMap String String) : Finisher :=
  { own with context := { own.context with keyvalue := keyvalue } }

theorem meets_keyValueClear {next : Unit → Pool α} (sound : Sound workflowId ids shared own)
    (continues : ∀ later, Moves workflowId ids shared later →
      Meets workflowId ids env thread (next ()) post later (own.withKeyvalue ∅)) :
    Meets workflowId ids env thread (Pool.keyValueClear >>= next) post shared own :=
  meets_call fun later moved =>
    ⟨asserts_plain (sound.stable moved) (fun _ => nofun) nofun (fun counts => nomatch counts.1),
      continues later moved⟩

theorem meets_keyValueInsert {key value : String} {next : Unit → Pool α}
    (sound : Sound workflowId ids shared own)
    (continues : ∀ later, Moves workflowId ids shared later →
      Meets workflowId ids env thread (next ()) post later
        (own.withKeyvalue (own.context.keyvalue.insertIfNew key value))) :
    Meets workflowId ids env thread (Pool.keyValueInsert key value >>= next) post shared own :=
  meets_call fun later moved =>
    ⟨asserts_plain (sound.stable moved) (fun _ => nofun) nofun (fun counts => nomatch counts.1),
      continues later moved⟩

theorem Sound.withKeyvalue (sound : Sound workflowId ids shared own)
    (keyvalue : Std.TreeMap String String) :
    Sound workflowId ids shared (own.withKeyvalue keyvalue) :=
  ⟨sound.sane, sound.finishing⟩

theorem Idle.withKeyvalue (idle : Idle workflowId ids shared own)
    (keyvalue : Std.TreeMap String String) :
    Idle workflowId ids shared (own.withKeyvalue keyvalue) :=
  ⟨⟨idle.between.sound.withKeyvalue keyvalue, idle.between.paired, idle.between.settled⟩,
    idle.done⟩

/-- What `FinishAction` does after the last action. -/
theorem meets_deleteLast {actionId : String} {on : Bool} (inside : actionId ∈ ids)
    (finished : Finished workflowId ids 1 on shared own) :
    Meets workflowId ids env thread (do
      Pool.keyValueClear
      Pool.keyValueInsert actionId workflowId
      let code ← ActionPool.deleteWorkflow workflowId true
      Pool.keyValueClear
      return code) (fun _ => Idle workflowId ids) shared own := by
  refine meets_keyValueClear finished.sound fun first moved => ?_
  have finished := finished.stable moved
  refine meets_keyValueInsert (finished.sound.withKeyvalue ∅) fun second moved => ?_
  have finished := finished.stable moved
  have archiving : Archiving workflowId ids actionId on second ((own.withKeyvalue ∅).withKeyvalue
      ((∅ : Std.TreeMap String String).insertIfNew actionId workflowId)) :=
    ⟨(finished.sound.withKeyvalue ∅).withKeyvalue _, finished.paired, finished.counted,
      finished.depth, toList_insertIfNew actionId workflowId⟩
  refine meets_bind (meets_mono ?_ (meets_deleteWorkflow inside archiving))
  intro code third own idle
  refine meets_keyValueClear idle.between.sound fun last moved => ?_
  exact meets_ret fun final moved' => ((idle.stable moved).withKeyvalue ∅).stable moved'

/-- A reading at the end does not matter for what the thread maintains. -/
theorem meets_getEngineOfAction {actionId : String} (sound : Sound workflowId ids shared own) :
    Meets workflowId ids env thread (getEngineOfAction actionId)
      (Read workflowId ids shared own fun _ _ => True) shared own := by
  refine meets_select (fun counts => nomatch counts.1) sound fun later _ _ => ?_
  simp only [Database.select]
  split
  · exact meets_found (fun _ _ _ _ _ => trivial) trivial
  · exact meets_found (fun _ _ _ _ _ => trivial) trivial
  · exact meets_found (fun _ _ _ _ _ => trivial) trivial

theorem meets_wakeupEngine {engine : Int} (idle : Idle workflowId ids shared own) :
    Meets workflowId ids env thread (wakeupEngine env engine workflowId)
      (fun _ => Idle workflowId ids) shared own := by
  unfold wakeupEngine
  split
  · exact meets_ret fun later moved => idle.stable moved
  · exact meets_call fun later moved =>
      ⟨asserts_plain (idle.stable moved).between.sound (fun _ => nofun) nofun
          (fun counts => nomatch counts.1),
        meets_ret fun last moved' => (idle.stable moved).stable moved'⟩

theorem meets_finishAction {actionId : String} (inside : actionId ∈ ids)
    (between : Between workflowId ids shared own) (uncounted : own.counted = none)
    (current : own.current = actionId) (passed : actionId ∈ shared.passed) :
    Meets workflowId ids env thread (finishAction env actionId) (fun _ => Idle workflowId ids)
      shared own := by
  have idle : ∀ {later : Pooled} {own : Finisher}, own.counted ≠ some (1, false) →
      Between workflowId ids later own → Idle workflowId ids later own :=
    fun other between => ⟨between, fun same => absurd same other⟩
  have before : own.counted ≠ some (1, false) := by
    rw [uncounted]
    exact nofun
  unfold finishAction
  split
  · exact meets_ret fun later moved => (idle before between).stable moved
  · rename_i valid
    refine meets_bind (meets_mono ?_ (meets_getWorkflowIdOfAction inside between.sound))
    rintro id first own ⟨rfl, moved, named⟩
    have between := between.stable moved
    split
    · exact meets_ret fun later moved => (idle before between).stable moved
    · rename_i nonempty
      obtain rfl : id = workflowId := named.resolve_left (by simpa using nonempty)
      have passed := moved.passed passed
      have named : own.current ≠ "" := by
        rintro empty
        rw [← current, empty] at valid
        exact valid rfl
      refine meets_count uncounted (current ▸ passed) named between.sound
        fun count second moved => ?_
      have between := (between.stable moved).count count
      have passed := moved.passed passed
      rw [if_neg (Int.not_lt.mpr (Int.natCast_nonneg count))]
      split
      · rename_i zero
        refine meets_ret fun later moved => Idle.stable (idle ?_ between) moved
        intro same
        have one := (Prod.mk.inj (Option.some.inj same)).1
        omega
      · rename_i some
        have promised : 2 ≤ count → actionId ∈ (own.count count).promised := by
          intro more
          unfold Finisher.count
          dsimp only
          rw [if_pos more, current]
          exact List.mem_cons_self
        refine meets_bind (meets_mono ?_ (meets_finish between rfl rfl (by simpa using some)
          current promised passed))
        rintro code third own ⟨rfl, finished⟩
        rw [if_neg (by decide)]
        split
        · rename_i one
          obtain rfl : count = 1 := by omega
          exact meets_deleteLast inside finished
        · rename_i more
          have others := finished.others (by omega)
          have after : own.counted ≠ Option.some (1, false) := by
            rw [finished.counted]
            intro same
            have one := (Prod.mk.inj (Option.some.inj same)).1
            omega
          refine meets_bind (meets_mono ?_ (meets_getEngineOfAction others.sound))
          rintro engine last own ⟨rfl, moved, -⟩
          have others := idle after (others.stable moved)
          split
          · exact meets_ret fun later moved => others.stable moved
          · split
            · exact meets_ret fun later moved => others.stable moved
            · exact meets_wakeupEngine others

end Rules

end FinishActionRuns

end Tecs
