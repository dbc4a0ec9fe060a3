import Tecs.Workflow.FinishRepeats

set_option autoImplicit false

namespace Tecs

open Effect Program TransactionContext

namespace FinishActionRuns

variable {Thread : Type} {workflowId : String} {ids : List String}

def AllPassed (ids : List String) (shared : Pooled) : Prop :=
  ∀ id ∈ ids, id ∈ shared.passed

theorem AllPassed.mono {shared later : Pooled} (all : AllPassed ids shared)
    (passed : shared.passed ⊆ later.passed) : AllPassed ids later :=
  fun id inside => passed (all id inside)

/-- Whoever deletes the workflow, or has counted one unfinished action and is going to,
knows that every action was passed to `FinishAction`. -/
structure Justified (workflowId : String) (ids : List String)
    (state : Machine.State pool Pooled Finisher Thread) : Prop where
  gone : ¬state.shared.tables.Present workflowId → AllPassed ids state.shared
  counted : ∀ thread on, (state.own thread).counted = some (1, on) → AllPassed ids state.shared
  deletes : ∀ thread, 0 < (state.own thread).context.beginCount →
    ∀ s ∈ (state.own thread).context.sql, s.Deletes workflowId → AllPassed ids state.shared

theorem start_justified {db : Database} (fresh : Fresh db workflowId) :
    Justified workflowId ids (start workflowId Thread db) where
  gone := fun absent => absurd fresh.present absent
  counted := fun _ _ => nofun
  deletes := fun _ on => absurd on (Nat.lt_irrefl 0)

/-- Everything is passed when the only unfinished action is. -/
theorem allPassed_of_last {shared : Pooled} (sane : Sane workflowId ids shared)
    (gone : ¬shared.tables.Present workflowId → AllPassed ids shared)
    (last : ∀ u ∈ shared.tables.unfinished workflowId, u.actionId ∈ shared.passed) :
    AllPassed ids shared := by
  by_cases present : shared.tables.Present workflowId
  · intro id inside
    obtain ⟨a, row, named, owned⟩ := sane.rows present id inside
    rw [← named]
    by_cases finished : a.finished = true
    · exact sane.passed a row owned finished
    · have left : a ∈ shared.tables.unfinished workflowId :=
        Database.mem_unfinished.mpr ⟨row, owned, by simpa using finished⟩
      exact last a left
  · exact gone present

section Steps

variable [DecidableEq Thread] {env : Process}

theorem justified_call {state : Machine.State pool Pooled Finisher Thread}
    {thread : Thread} {c : PoolCall} (sane : Sane workflowId ids state.shared)
    (asserted : Asserts workflowId ids c state.shared (state.own thread))
    (last : LastOwn workflowId state (.call thread c))
    (before : Justified workflowId ids state) (running : Thread → Option (Program pool Unit)) :
    Justified workflowId ids ⟨(serve workflowId c state.shared (state.own thread)).2.1,
      Function.update state.own thread (serve workflowId c state.shared (state.own thread)).2.2,
      running⟩ := by
  have kept : AllPassed ids state.shared →
      AllPassed ids (serve workflowId c state.shared (state.own thread)).2.1 :=
    fun all => all
  refine ⟨fun absent => kept ?_, ?_, ?_⟩
  · by_cases present : state.shared.tables.Present workflowId
    · obtain ⟨executed, finishes, -, source⟩ := serve_finishes asserted
      have deletes : ∃ s ∈ executed, s.Deletes workflowId := by
        by_contra none
        exact absent (finishes.present.mpr ⟨present, fun s inside deletes =>
          none ⟨s, inside, deletes⟩⟩)
      obtain ⟨s, inside, deletes⟩ := deletes
      rcases source with rfl | ⟨s', issued, off, rfl⟩ | ⟨-, outermost, rfl⟩
      · cases inside
      · -- outside a transaction only `finished` is written
        obtain ⟨id, rfl, -⟩ := asserted.immediate s' issued off
        rw [List.mem_singleton.mp inside] at deletes
        exact deletes.elim
      · exact before.deletes thread (by omega) s inside deletes
    · exact before.gone present
  · have here : ∀ on, (serve workflowId c state.shared (state.own thread)).2.2.counted =
        some (1, on) → AllPassed ids state.shared := by
      intro on counted
      by_cases counts : Counts workflowId (state.own thread) c
      · have read := congrArg Finisher.counted (note_counted state.shared.tables
          (answer true state.shared.tables (state.own thread).context c).2.2 counts)
        rw [show (serve workflowId c state.shared (state.own thread)).2.2.counted = _ from read]
          at counted
        obtain ⟨one, -⟩ := Prod.mk.inj (Option.some.inj counted)
        refine allPassed_of_last sane before.gone fun u left => ?_
        rw [last counts one u left]
        exact (asserted.counts counts).1
      · obtain ⟨same, -⟩ := note_uncounted state.shared.tables
          (answer true state.shared.tables (state.own thread).context c).2.2 counts
        exact before.counted thread on (same.symm.trans counted)
    exact (Function.forall_update_iff _ fun _ (own : Finisher) =>
      ∀ on, own.counted = some (1, on) → _).mpr
      ⟨here, fun other _ => before.counted other⟩
  · have context : (serve workflowId c state.shared (state.own thread)).2.2.context =
        (answer true state.shared.tables (state.own thread).context c).2.2 := note_context _ _ _ _ _
    have here : 0 < (serve workflowId c state.shared (state.own thread)).2.2.context.beginCount →
        ∀ s ∈ (serve workflowId c state.shared (state.own thread)).2.2.context.sql,
          s.Deletes workflowId → AllPassed ids state.shared := by
      rw [context]
      intro on s inside deletes
      rcases answer_queued true state.shared.tables (state.own thread).context c on inside with
        ⟨opened, queued⟩ | issued
      · exact before.deletes thread opened s queued deletes
      · obtain ⟨on, counted⟩ := asserted.deletes s issued deletes
        exact before.counted thread on counted
    exact (Function.forall_update_iff _ fun _ (own : Finisher) => 0 < own.context.beginCount →
      ∀ s ∈ own.context.sql, s.Deletes workflowId → _).mpr
      ⟨here, fun other _ => before.deletes other⟩

theorem justified_step {state next : Machine.State pool Pooled Finisher Thread}
    {label : Machine.Label pool Thread Operation} (proper : Proper workflowId ids env state)
    (sane : Sane workflowId ids state.shared) (calls : Calls ids label)
    (passed : LastOwn workflowId state label) (before : Justified workflowId ids state)
    (taken : (machine workflowId env Thread).Step state label next) :
    Justified workflowId ids next := by
  have asserted : ∀ thread c, label = .call thread c →
      Asserts workflowId ids c state.shared (state.own thread) := by
    rintro thread c rfl
    exact Machine.Proper.asserted (machine_sound env Thread) proper taken
  cases taken with
  | start thread operation idle =>
      have moved := enter_moves workflowId ids operation state.shared
        (state.own thread)
      have tables : (enter operation state.shared (state.own thread)).1.tables =
          state.shared.tables := by
        cases operation <;> rfl
      have own : (enter operation state.shared (state.own thread)).2.context =
            (state.own thread).context ∧
          (enter operation state.shared (state.own thread)).2.counted = none := by
        cases operation <;> exact ⟨rfl, rfl⟩
      refine ⟨fun absent => ?_, ?_, ?_⟩
      · refine (before.gone ?_).mono moved.passed
        rwa [← tables]
      · refine (Function.forall_update_iff _ fun _ (own : Finisher) => ∀ on,
          own.counted = some (1, on) → _).mpr
          ⟨?_, fun other _ on counted => (before.counted other on counted).mono moved.passed⟩
        intro on counted
        rw [show ((machine workflowId env Thread).enter thread operation state.shared
          (state.own thread)).2.counted = none from own.2] at counted
        cases counted
      · refine (Function.forall_update_iff _ fun _ (own : Finisher) => 0 < own.context.beginCount →
          ∀ s ∈ own.context.sql, s.Deletes workflowId → _).mpr
          ⟨?_, fun other _ on s inside deletes =>
            (before.deletes other on s inside deletes).mono moved.passed⟩
        rw [show ((machine workflowId env Thread).enter thread operation state.shared
          (state.own thread)).2.context = _ from own.1]
        exact fun on s inside deletes => (before.deletes thread on s inside deletes).mono
          moved.passed
  | call thread c rest running reply shared own answered =>
      obtain ⟨-, same⟩ := Prod.mk.inj answered
      obtain ⟨rfl, rfl⟩ := Prod.mk.inj same
      exact justified_call sane (asserted thread c rfl) passed before _
  | finish => exact ⟨before.gone, before.counted, before.deletes⟩
  | crash => exact calls.elim

/-- The workflow leaves the pool only after each of its actions was passed to `FinishAction`,
as long as whoever counts one unfinished action was called for this one. That is so where no
action is passed again while another one is unfinished. -/
theorem passed_of_absent {db : Database} (fresh : Fresh db workflowId) :
    (∀ labels (last : Machine.State pool Pooled Finisher Thread),
      Runs workflowId env db (LastOwn workflowId) labels last →
        ¬last.shared.tables.Present workflowId →
          ∀ id ∈ idsOf db workflowId, id ∈ last.shared.passed) ∧
    ∀ labels (last : Machine.State pool Pooled Finisher Thread),
      Runs workflowId env db (NotAgain workflowId) labels last →
        Runs workflowId env db (LastOwn workflowId) labels last := by
  refine ⟨fun labels last run absent => ?_, fun labels last => lastOwn_of_notAgain fresh⟩
  have justified : Justified workflowId (idsOf db workflowId) last := by
    refine Transition.Run.induct (P := fun _ => Justified workflowId (idsOf db workflowId))
      (start_justified fresh) ?_ run
    intro labels state label next before here taken
    obtain ⟨⟨calls, passed⟩, step⟩ := taken
    obtain ⟨proper, sane⟩ := proper_of_runs fresh before
    exact justified_step proper sane calls passed here step
  exact justified.gone absent

end Steps

/-! The stored two-step workflow. -/

open EngineRuns (oneEngine chainStored)

instance (db : Database) (id : String) : Decidable (Alone workflowId db id) :=
  inferInstanceAs (Decidable (∀ u ∈ db.unfinished workflowId, u.actionId = id))

instance (state : Machine.State pool Pooled Finisher Thread)
    (label : Machine.Label pool Thread Operation) :
    Decidable (NotAgain workflowId state label) :=
  match label with
  | .start _ (.finishAction actionId) => inferInstanceAs (Decidable
      (actionId ∈ state.shared.passed → Alone workflowId state.shared.tables actionId))
  | .start _ .begin => .isTrue trivial
  | .start _ .commit => .isTrue trivial
  | .start _ .cancel => .isTrue trivial
  | .call _ _ => .isTrue trivial
  | .finish _ => .isTrue trivial
  | .crash _ => .isTrue trivial

/-- The same action is finished twice. -/
def repeated : List (Machine.Move Bool Operation) :=
  [.start true (.finishAction "a-create")] ++ List.replicate 6 (.advance true) ++
    [.start true (.finishAction "a-create")] ++ List.replicate 18 (.advance true)

theorem passed_of_absent_chain : ∃ labels last, @Runs Bool _ "w-chain" oneEngine
    chainStored (NotAgain "w-chain") labels last ∧ ¬last.shared.tables.Present "w-chain" ∧
      ∀ id ∈ idsOf chainStored "w-chain", id ∈ last.shared.passed := by
  have checked : ((machine "w-chain" oneEngine Bool).moves (serves "w-chain")
      (fun state label => Calls (idsOf chainStored "w-chain") label ∧
        NotAgain "w-chain" state label) (start "w-chain" Bool chainStored) apart).any
        (fun last => !decide (last.shared.tables.Present "w-chain")) = true := by
    decide
  obtain ⟨labels, last, run, gone⟩ := runs_of_moves checked
  have absent : ¬last.shared.tables.Present "w-chain" := by simpa using gone
  have own := (passed_of_absent chain_fresh).2 labels last run
  exact ⟨labels, last, run, absent, (passed_of_absent chain_fresh).1 labels last own absent⟩

/-- The workflow is archived although its second action was never finished. -/
theorem archived_unpassed : ∃ labels last, @Runs Bool _ "w-chain" oneEngine
    chainStored (fun _ _ => True) labels last ∧ last.shared.tables.Archived "w-chain" ∧
      ¬last.shared.tables.Present "w-chain" ∧ "a-start" ∈ idsOf chainStored "w-chain" ∧
      "a-start" ∉ last.shared.passed := by
  have checked : ((machine "w-chain" oneEngine Bool).moves (serves "w-chain")
      (fun _ label => Calls (idsOf chainStored "w-chain") label ∧ True)
      (start "w-chain" Bool chainStored) repeated).any (fun last =>
        decide (last.shared.tables.Archived "w-chain" ∧
          ¬last.shared.tables.Present "w-chain" ∧ "a-start" ∈ idsOf chainStored "w-chain" ∧
          "a-start" ∉ last.shared.passed)) = true := by
    decide
  obtain ⟨labels, last, run, ends⟩ := runs_of_moves checked
  exact ⟨labels, last, run, of_decide_eq_true ends⟩

end FinishActionRuns

end Tecs
