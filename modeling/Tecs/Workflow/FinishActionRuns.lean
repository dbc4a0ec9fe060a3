import Tecs.Workflow.FinishSound
import Tecs.Workflow.EngineRuns

set_option autoImplicit false

namespace Tecs

open Effect Program TransactionContext

namespace FinishActionRuns

/-- A workflow that is stored, and not in the history. -/
structure Fresh (db : Database) (workflowId : String) : Prop where
  present : db.Present workflowId
  unarchived : ¬db.Archived workflowId

def idsOf (db : Database) (workflowId : String) : List String :=
  (db.actionsOf workflowId).map Action.actionId

variable {Thread : Type} [DecidableEq Thread] {workflowId : String}

/-- The workflow's actions are finished in any order, and no thread is stopped. -/
def Calls (ids : List String) : Machine.Label pool Thread Operation → Prop
  | .start _ operation => Offered ids operation
  | .crash _ => False
  | _ => True

/-- When a thread reads that two or more actions are left, one that it is not finishing
itself is left to a `FinishAction` still to come. -/
def LeavesOne (workflowId : String) (state : Machine.State pool Pooled Finisher Thread) :
    Machine.Label pool Thread Operation → Prop
  | .call thread c => Counts workflowId (state.own thread) c →
      2 ≤ (state.shared.tables.unfinished workflowId).length →
        ∃ u ∈ state.shared.tables.unfinished workflowId,
          u.actionId ≠ (state.own thread).current ∧
            ∀ other, u.actionId ∉ (state.own other).promised
  | _ => True

/-- When a thread reads that one action is left, that is the action of its own `FinishAction`. -/
def LastOwn (workflowId : String) (state : Machine.State pool Pooled Finisher Thread) :
    Machine.Label pool Thread Operation → Prop
  | .call thread c => Counts workflowId (state.own thread) c →
      (state.shared.tables.unfinished workflowId).length = 1 →
        ∀ u ∈ state.shared.tables.unfinished workflowId,
          u.actionId = (state.own thread).current
  | _ => True

/-- The runs whose steps meet a condition. -/
def Runs (workflowId : String) (env : Process) (db : Database)
    (condition : Machine.State pool Pooled Finisher Thread →
      Machine.Label pool Thread Operation → Prop) :=
  Transition.Run (Transition.Guarded
    (fun state label => Calls (idsOf db workflowId) label ∧ condition state label)
    (machine workflowId env Thread).Step) (start workflowId Thread db)

section Steps

variable {env : Process} {db : Database} {ids : List String}
  {condition : Machine.State pool Pooled Finisher Thread →
    Machine.Label pool Thread Operation → Prop}

/-- The states in which every thread is where its outline says. -/
def Proper (workflowId : String) (ids : List String) (env : Process)
    (state : Machine.State pool Pooled Finisher Thread) : Prop :=
  (machine workflowId env Thread).Proper (fun _ _ _ _ => True) (Moves workflowId ids)
    (fun _ => Asserts workflowId ids) (fun _ => Idle workflowId ids) state

omit [DecidableEq Thread] in
theorem start_sane (fresh : Fresh db workflowId) :
    Sane workflowId (idsOf db workflowId) (start workflowId Thread db).shared where
  once := ⟨fun archived => absurd archived fresh.unarchived,
    fun absent => absurd fresh.present absent⟩
  rows := by
    intro _ id inside
    obtain ⟨a, listed, named⟩ := List.mem_map.mp inside
    obtain ⟨row, owned⟩ := Database.mem_actionsOf.mp listed
    exact ⟨a, row, named, owned⟩
  owned := by
    intro a row
    constructor
    · intro inside
      obtain ⟨b, listed, named⟩ := List.mem_map.mp inside
      obtain ⟨other, owned⟩ := Database.mem_actionsOf.mp listed
      rw [← List.inj_on_of_nodup_map db.actionKey other row named]
      exact owned
    · exact fun owned => List.mem_map_of_mem (Database.mem_actionsOf.mpr ⟨row, owned⟩)
  passed := by
    intro a row owned finished
    exact List.mem_map_of_mem (List.mem_filter.mpr
      ⟨Database.mem_actionsOf.mpr ⟨row, owned⟩, finished⟩)

omit [DecidableEq Thread] in
theorem start_proper (env : Process) (fresh : Fresh db workflowId) :
    Proper workflowId (idsOf db workflowId) env (start workflowId Thread db) := by
  have sane := @start_sane Thread _ _ fresh
  intro thread
  exact ⟨⟨⟨sane, fun _ none => absurd none List.not_mem_nil⟩, fun on => absurd on (Nat.lt_irrefl 0),
    fun on => absurd on (Nat.lt_irrefl 0)⟩, nofun⟩

theorem proper_of_runs (fresh : Fresh db workflowId)
    {labels : List (Machine.Label pool Thread Operation)}
    {last : Machine.State pool Pooled Finisher Thread}
    (run : Runs workflowId env db condition labels last) :
    Proper workflowId (idsOf db workflowId) env last ∧
      Sane workflowId (idsOf db workflowId) last.shared := by
  have allowed : ∀ (before : Machine.State pool Pooled Finisher Thread)
      (label : Machine.Label pool Thread Operation), Calls (idsOf db workflowId) label →
      Machine.Allows (fun _ _ _ _ => True) (Offered (idsOf db workflowId)) False before label := by
    intro before label calls
    cases label with
    | start => exact calls
    | call => trivial
    | finish => trivial
    | crash => exact calls
  obtain ⟨proper, moved⟩ := (start_proper env fresh).run (machine_sound env Thread)
    (run.mono fun before label after taken =>
      ⟨allowed before label taken.1.1, taken.2⟩)
  exact ⟨proper, moved.sane (start_sane fresh)⟩

/-- The thread's history after a call that is not the first reading of the number. -/
theorem note_uncounted (tables : Database) {own : Finisher}
    (after : TransactionContext Statement) {c : PoolCall} (other : ¬Counts workflowId own c) :
    (note workflowId tables own after c).counted = own.counted ∧
      (note workflowId tables own after c).promised ⊆ own.promised := by
  have shrinks : ∀ (clears : Prop) [Decidable clears],
      (if clears then [] else own.promised) ⊆ own.promised := by
    intro clears _
    split
    · exact List.nil_subset _
    · exact fun _ inside => inside
  cases c with
  | select query =>
      cases query with
      | unfinishedCount id =>
          have apart : ¬(id = workflowId ∧ own.counted = none) := by
            rintro ⟨rfl, none⟩
            exact other ⟨rfl, none⟩
          simp only [note, if_neg apart]
          exact ⟨trivial, fun _ inside => inside⟩
      | _ => exact ⟨rfl, fun _ inside => inside⟩
  | sql statement =>
      refine ⟨rfl, ?_⟩
      simp only [note]
      split
      · exact fun _ inside => inside
      · exact List.nil_subset _
  | transactionCommit => exact ⟨rfl, shrinks _⟩
  | transactionCancel => exact ⟨rfl, shrinks _⟩
  | _ => exact ⟨rfl, fun _ inside => inside⟩

/-- The thread's history after the first reading of the number. -/
theorem note_counted (tables : Database) {own : Finisher}
    (after : TransactionContext Statement) {c : PoolCall} (counts : Counts workflowId own c) :
    note workflowId tables own after c =
      { own with
        context := after
        counted := some ((tables.unfinished workflowId).length, own.context.isOn)
        promised := if 2 ≤ (tables.unfinished workflowId).length then own.current :: own.promised
          else own.promised } := by
  obtain ⟨rfl, none⟩ := counts
  simp only [note, none, and_self, if_true]

/-! No workflow is left with all its actions finished. -/

/-- A workflow that is there has an unfinished action nobody has promised to finish without
archiving, or a thread is about to archive it. -/
def Open (workflowId : String) (state : Machine.State pool Pooled Finisher Thread) : Prop :=
  state.shared.tables.Present workflowId →
    (∃ u ∈ state.shared.tables.unfinished workflowId,
      ∀ thread, u.actionId ∉ (state.own thread).promised) ∨
    ∃ thread, (state.own thread).counted = some (1, false)

/-- A thread that promises no more and counts nothing leaves the others' part as it was. -/
theorem unpromised_update {own : Thread → Finisher} {thread : Thread} {own' : Finisher}
    (shrinks : own'.promised ⊆ (own thread).promised) {id : String}
    (spare : ∀ other, id ∉ (own other).promised) :
    ∀ other, id ∉ (Function.update own thread own' other).promised :=
  (Function.forall_update_iff own fun _ (own : Finisher) => id ∉ own.promised).mpr
    ⟨fun inside => spare thread (shrinks inside), fun other _ => spare other⟩

theorem counted_update {own : Thread → Finisher} {thread other : Thread} {own' : Finisher}
    {read : Nat × Bool} (counted : (own other).counted = some read)
    (kept : (own thread).counted = some read → own'.counted = some read) :
    (Function.update own thread own' other).counted = some read := by
  by_cases same : other = thread
  · subst same
    rw [Function.update_self]
    exact kept counted
  · rw [Function.update_of_ne same]
    exact counted

/-- Reading the number of unfinished actions. -/
theorem open_count {state : Machine.State pool Pooled Finisher Thread} {thread : Thread}
    {own : Finisher} (uncounted : (state.own thread).counted = none)
    (promised : own.promised = if 2 ≤ (state.shared.tables.unfinished workflowId).length then
      (state.own thread).current :: (state.own thread).promised else (state.own thread).promised)
    (spared : 2 ≤ (state.shared.tables.unfinished workflowId).length →
      ∃ u ∈ state.shared.tables.unfinished workflowId,
        u.actionId ≠ (state.own thread).current ∧
          ∀ other, u.actionId ∉ (state.own other).promised)
    (before : Open workflowId state) (running : Thread → Option (Program pool Unit)) :
    Open workflowId ⟨state.shared, Function.update state.own thread own, running⟩ := by
  intro present
  by_cases more : 2 ≤ (state.shared.tables.unfinished workflowId).length
  · obtain ⟨u, left, apart, spare⟩ := spared more
    rw [if_pos more] at promised
    refine .inl ⟨u, left, ?_⟩
    refine (Function.forall_update_iff _ fun _ (own : Finisher) => u.actionId ∉ own.promised).mpr
      ⟨?_, fun other _ => spare other⟩
    rw [promised]
    exact List.not_mem_cons_of_ne_of_not_mem apart (spare thread)
  · rw [if_neg more] at promised
    rcases before present with ⟨u, left, spare⟩ | ⟨other, archives⟩
    · refine .inl ⟨u, left, unpromised_update ?_ spare⟩
      rw [promised]
      exact fun _ inside => inside
    · refine .inr ⟨other, counted_update archives fun same => ?_⟩
      rw [uncounted] at same
      cases same

theorem open_call {ids : List String} {state : Machine.State pool Pooled Finisher Thread}
    {thread : Thread} {c : PoolCall}
    (asserted : Asserts workflowId ids c state.shared (state.own thread))
    (spared : LeavesOne workflowId state (.call thread c)) (before : Open workflowId state)
    (running : Thread → Option (Program pool Unit)) :
    Open workflowId ⟨(serve workflowId c state.shared (state.own thread)).2.1,
      Function.update state.own thread (serve workflowId c state.shared (state.own thread)).2.2,
      running⟩ := by
  by_cases counts : Counts workflowId (state.own thread) c
  · have read : (serve workflowId c state.shared (state.own thread)).2.1 = state.shared := by
      rw [counts.1]
      rfl
    have promised := congrArg Finisher.promised (note_counted state.shared.tables
      (answer true state.shared.tables (state.own thread).context c).2.2 counts)
    rw [read]
    exact open_count counts.2 promised (spared counts) before running
  · obtain ⟨counted, promised⟩ := note_uncounted state.shared.tables
      (answer true state.shared.tables (state.own thread).context c).2.2 counts
    obtain ⟨executed, finishes, -, source⟩ := serve_finishes asserted
    intro present
    have was := (finishes.present.mp present).1
    rcases before was with ⟨u, left, spare⟩ | ⟨other, archives⟩
    · by_cases issued : Statement.updateAction u.actionId .finish ∈ executed
      · -- only the thread that is about to archive finishes what is not promised
        rcases source with rfl | ⟨s, rfl, off, rfl⟩ | ⟨rfl, outermost, rfl⟩
        · cases issued
        · obtain ⟨id, rfl, held | archives⟩ := asserted.immediate _ rfl off
          · obtain ⟨named, -⟩ := Statement.updateAction.inj (List.mem_singleton.mp issued)
            rw [← named] at held
            exact absurd held (spare thread)
          · exact .inr ⟨thread, counted_update archives fun same => counted.trans same⟩
        · rcases (asserted.commits rfl outermost).2 u.actionId issued with held | gone | absent
          · exact absurd held (spare thread)
          · obtain ⟨s, inside, deletes⟩ := gone
            exact absurd deletes ((finishes.present.mp present).2 s inside)
          · exact absurd was absent
      · obtain ⟨v, left', named⟩ := finishes.unfinished present left issued
        refine .inl ⟨v, left', ?_⟩
        rw [named]
        exact unpromised_update promised spare
    · exact .inr ⟨other, counted_update archives fun same => counted.trans same⟩

theorem open_step {ids : List String} {state next : Machine.State pool Pooled Finisher Thread}
    {label : Machine.Label pool Thread Operation} (proper : Proper workflowId ids env state)
    (calls : Calls ids label) (spared : LeavesOne workflowId state label)
    (before : Open workflowId state)
    (taken : (machine workflowId env Thread).Step state label next) :
    Open workflowId next := by
  have asserted : ∀ thread c, label = .call thread c →
      Asserts workflowId ids c state.shared (state.own thread) := by
    rintro thread c rfl
    exact Machine.Proper.asserted (machine_sound env Thread) proper taken
  cases taken with
  | start thread operation idle =>
      have here := (proper.idle_of idle).done
      have promised : (enter operation state.shared (state.own thread)).2.promised ⊆
          (state.own thread).promised := by
        cases operation <;> exact fun _ inside => inside
      have tables : (enter operation state.shared (state.own thread)).1.tables =
          state.shared.tables := by
        cases operation <;> rfl
      intro present
      have was : state.shared.tables.Present workflowId := by
        rw [← tables]
        exact present
      rcases before was with ⟨u, left, spare⟩ | ⟨other, archives⟩
      · refine .inl ⟨u, ?_, unpromised_update promised spare⟩
        show u ∈ (enter operation state.shared (state.own thread)).1.tables.unfinished workflowId
        rwa [tables]
      · exact .inr ⟨other, counted_update archives fun same => absurd was (here same)⟩
  | call thread c rest running reply shared own answered =>
      obtain ⟨-, same⟩ := Prod.mk.inj answered
      obtain ⟨rfl, rfl⟩ := Prod.mk.inj same
      exact open_call (asserted thread c rfl) spared before _
  | finish => exact before
  | crash => exact calls.elim

/-- When all its actions are finished the workflow is gone, or a `FinishAction` that is to
archive it is on its way; it is in the history once when it is gone, and never before. -/
structure ArchivedOnce (workflowId : String)
    (state : Machine.State pool Pooled Finisher Thread) : Prop where
  archived : state.shared.tables.Present workflowId →
    state.shared.tables.unfinished workflowId = [] →
      ∃ thread, state.running thread ≠ none ∧ (state.own thread).counted = some (1, false)
  once : (state.shared.tables.workflowHistory.map WorkflowHistory.workflowId).count workflowId =
    if state.shared.tables.Present workflowId then 0 else 1

omit [DecidableEq Thread] in
theorem start_open (work : db.unfinished workflowId ≠ []) :
    Open workflowId (start workflowId Thread db) := by
  intro present
  obtain ⟨u, left⟩ := List.exists_mem_of_ne_nil _ work
  exact .inl ⟨u, left, fun _ => List.not_mem_nil⟩

theorem open_of_runs (fresh : Fresh db workflowId) (work : db.unfinished workflowId ≠ [])
    {labels : List (Machine.Label pool Thread Operation)}
    {last : Machine.State pool Pooled Finisher Thread}
    (run : Runs workflowId env db (LeavesOne workflowId) labels last) : Open workflowId last := by
  refine Transition.Run.induct (P := fun _ => Open workflowId) (start_open work) ?_ run
  intro labels state label next before here taken
  obtain ⟨⟨calls, spared⟩, step⟩ := taken
  exact open_step (proper_of_runs fresh before).1 calls spared here step

omit [DecidableEq Thread] in
theorem archived_of_open {state : Machine.State pool Pooled Finisher Thread}
    (proper : Proper workflowId ids env state) (here : Open workflowId state)
    (present : state.shared.tables.Present workflowId)
    (finished : state.shared.tables.unfinished workflowId = []) :
    ∃ thread, state.running thread ≠ none ∧ (state.own thread).counted = some (1, false) := by
  rcases here present with ⟨u, left, -⟩ | ⟨thread, archives⟩
  · rw [finished] at left
    cases left
  · refine ⟨thread, fun idle => ?_, archives⟩
    exact (proper.idle_of idle).done archives present

theorem history_once {shared : Pooled} (sane : Sane workflowId ids shared) :
    (shared.tables.workflowHistory.map WorkflowHistory.workflowId).count workflowId =
      if shared.tables.Present workflowId then 0 else 1 := by
  by_cases present : shared.tables.Present workflowId
  · rw [if_pos present]
    exact List.count_eq_zero.mpr fun archived => sane.once.mp archived present
  · rw [if_neg present]
    exact List.count_eq_one_of_mem shared.tables.historyKey (sane.once.mpr present)

/-- The workflow is archived when its last action is finished, and only once, as long as a
`FinishAction` that does not archive leaves an action to another one. -/
theorem archived_once (fresh : Fresh db workflowId) (work : db.unfinished workflowId ≠ [])
    {labels : List (Machine.Label pool Thread Operation)}
    {last : Machine.State pool Pooled Finisher Thread}
    (run : Runs workflowId env db (LeavesOne workflowId) labels last) :
    ArchivedOnce workflowId last := by
  obtain ⟨proper, sane⟩ := proper_of_runs fresh run
  exact ⟨archived_of_open proper (open_of_runs fresh work run), history_once sane⟩

end Steps

/-! The stored two-step workflow. -/

open EngineRuns (oneEngine chainStored)

theorem chain_fresh : Fresh chainStored "w-chain" where
  present := by decide
  unarchived := by decide

instance (ids : List String) (operation : Operation) : Decidable (Offered ids operation) :=
  match operation with
  | .finishAction actionId => inferInstanceAs (Decidable (actionId ∈ ids))
  | .begin => .isTrue trivial
  | .commit => .isTrue trivial
  | .cancel => .isTrue trivial

instance (ids : List String) (label : Machine.Label pool Thread Operation) :
    Decidable (Calls ids label) :=
  match label with
  | .start _ operation => inferInstanceAs (Decidable (Offered ids operation))
  | .call _ _ => .isTrue trivial
  | .finish _ => .isTrue trivial
  | .crash _ => .isFalse id

def queried : PoolCall → Option Query
  | .select query => some query
  | _ => none

instance (own : Finisher) (c : PoolCall) : Decidable (Counts workflowId own c) :=
  decidable_of_iff (queried c = some (.unfinishedCount workflowId) ∧ own.counted = none) (by
    cases c <;> simp [queried, Counts])

instance [Fintype Thread] (state : Machine.State pool Pooled Finisher Thread)
    (label : Machine.Label pool Thread Operation) :
    Decidable (LeavesOne workflowId state label) :=
  match label with
  | .call thread c => inferInstanceAs (Decidable (Counts workflowId (state.own thread) c →
      2 ≤ (state.shared.tables.unfinished workflowId).length →
        ∃ u ∈ state.shared.tables.unfinished workflowId,
          u.actionId ≠ (state.own thread).current ∧
            ∀ other, u.actionId ∉ (state.own other).promised))
  | .start _ _ => .isTrue trivial
  | .finish _ => .isTrue trivial
  | .crash _ => .isTrue trivial

def apart : List (Machine.Move Bool Operation) :=
  [.start true (.finishAction "a-create")] ++ List.replicate 6 (.advance true) ++
    [.start false (.finishAction "a-start")] ++ List.replicate 15 (.advance false)

/-- Both threads read the number of unfinished actions before one of them finishes its own. -/
def together : List (Machine.Move Bool Operation) :=
  [.start true (.finishAction "a-create"), .advance true, .advance true,
    .start false (.finishAction "a-start"), .advance false, .advance false] ++
  List.replicate 4 (.advance true) ++ List.replicate 4 (.advance false)

def serves (workflowId : String) (_ : Thread) (c : PoolCall) (shared : Pooled) (own : Finisher) :
    Option (c.Reply × Pooled × Finisher) :=
  some (serve workflowId c shared own)

omit [DecidableEq Thread] in
theorem serves_sound {env : Process} (thread : Thread) (c : PoolCall) (shared : Pooled)
    (own : Finisher) (answered : c.Reply × Pooled × Finisher)
    (served : serves workflowId thread c shared own = some answered) :
    (machine workflowId env Thread).answers thread c shared own answered.1 answered.2.1
      answered.2.2 := by
  obtain rfl := Option.some.inj served
  exact rfl

theorem runs_of_moves {db : Database}
    {condition : Machine.State pool Pooled Finisher Thread →
      Machine.Label pool Thread Operation → Prop}
    [∀ state label, Decidable (condition state label)] {env : Process}
    {choices : List (Machine.Move Thread Operation)}
    {check : Machine.State pool Pooled Finisher Thread → Bool}
    (checked : ((machine workflowId env Thread).moves (serves workflowId)
      (fun state label => Calls (idsOf db workflowId) label ∧ condition state label)
      (start workflowId Thread db) choices).any check = true) :
    ∃ labels last, Runs workflowId env db condition labels last ∧ check last = true := by
  obtain ⟨last, moved, holds⟩ := (Option.any_eq_true _ _).mp checked
  obtain ⟨labels, run⟩ := Machine.run_of_moves serves_sound moved
  exact ⟨labels, last, run, holds⟩

theorem archived_once_chain : ∃ labels last, @Runs Bool _ "w-chain" oneEngine chainStored
    (LeavesOne "w-chain") labels last ∧ ¬last.shared.tables.Present "w-chain" ∧
      ArchivedOnce "w-chain" last := by
  have checked : ((machine "w-chain" oneEngine Bool).moves (serves "w-chain")
      (fun state label => Calls (idsOf chainStored "w-chain") label ∧
        LeavesOne "w-chain" state label) (start "w-chain" Bool chainStored) apart).any
        (fun last => !decide (last.shared.tables.Present "w-chain")) = true := by
    decide
  obtain ⟨labels, last, run, gone⟩ := runs_of_moves checked
  exact ⟨labels, last, run, by simpa using gone, archived_once chain_fresh (by decide) run⟩

/-- Two `FinishAction` calls, neither of which archives the workflow. -/
theorem finished_unarchived : ∃ labels last, @Runs Bool _ "w-chain" oneEngine chainStored
    (fun _ _ => True) labels last ∧ last.shared.tables.Present "w-chain" ∧
      last.shared.tables.unfinished "w-chain" = [] ∧ (∀ thread, last.running thread = none) ∧
      ¬ArchivedOnce "w-chain" last := by
  have checked : ((machine "w-chain" oneEngine Bool).moves (serves "w-chain")
      (fun _ label => Calls (idsOf chainStored "w-chain") label ∧ True)
      (start "w-chain" Bool chainStored) together).any (fun last =>
        decide (last.shared.tables.Present "w-chain" ∧
          last.shared.tables.unfinished "w-chain" = [] ∧
          ∀ thread, (last.running thread).isNone)) = true := by
    decide
  obtain ⟨labels, last, run, ends⟩ := runs_of_moves checked
  obtain ⟨present, finished, idle⟩ := of_decide_eq_true ends
  have resting : ∀ thread, last.running thread = none := fun thread =>
    Option.isNone_iff_eq_none.mp (idle thread)
  refine ⟨labels, last, run, present, finished, resting, fun archived => ?_⟩
  obtain ⟨thread, running, -⟩ := archived.archived present finished
  exact running (resting thread)

end FinishActionRuns

end Tecs
