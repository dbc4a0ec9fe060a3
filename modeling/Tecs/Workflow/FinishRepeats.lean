import Tecs.Workflow.FinishActionRuns

set_option autoImplicit false

namespace Tecs

open Effect Program TransactionContext

namespace FinishActionRuns

variable {Thread : Type} {workflowId : String} {ids : List String}

/-- No action of the workflow but this one is unfinished. -/
def Alone (workflowId : String) (db : Database) (id : String) : Prop :=
  ∀ u ∈ db.unfinished workflowId, u.actionId = id

/-- An action is passed to `FinishAction` again only when no other one is unfinished. -/
def NotAgain (workflowId : String) (state : Machine.State pool Pooled Finisher Thread) :
    Machine.Label pool Thread Operation → Prop
  | .start _ (.finishAction actionId) => actionId ∈ state.shared.passed →
      Alone workflowId state.shared.tables actionId
  | _ => True

theorem alone_of_absent {db : Database} (absent : ¬db.Present workflowId) (id : String) :
    Alone workflowId db id := by
  intro u left
  obtain ⟨row, owned, -⟩ := Database.mem_unfinished.mp left
  have present := db.actionWorkflow u row
  rw [owned] at present
  exact absurd present absent

theorem Alone.finishes {db later : Database} {executed : List Statement} {id : String}
    (alone : Alone workflowId db id)
    (finishes : Database.Finishes workflowId db executed later) : Alone workflowId later id := by
  intro u left
  obtain ⟨row, owned, unfinished⟩ := Database.mem_unfinished.mp left
  obtain ⟨old, stored, follows, -⟩ := finishes.rows u row
  have before : old.finished = false := by
    by_contra finished
    rw [follows.finished (by simpa using finished)] at unfinished
    cases unfinished
  rw [follows.actionId]
  exact alone old (Database.mem_unfinished.mpr
    ⟨stored, follows.workflowId.symm.trans owned, before⟩)

/-- The thread is in a `FinishAction` that has not read the number yet. -/
structure Waiting (state : Machine.State pool Pooled Finisher Thread) (thread : Thread) :
    Prop where
  running : state.running thread ≠ none
  uncounted : (state.own thread).counted = none
  named : (state.own thread).current ≠ ""

/-- The thread's transaction finishes the action. -/
def Buffers (own : Finisher) (id : String) : Prop :=
  0 < own.context.beginCount ∧ .updateAction id .finish ∈ own.context.sql

/-- Until a `FinishAction` reads the number nobody else finishes its action, unless no other
one is unfinished. -/
structure Unrepeated (workflowId : String)
    (state : Machine.State pool Pooled Finisher Thread) : Prop where
  passed : ∀ thread, state.running thread ≠ none →
    (state.own thread).current = "" ∨ (state.own thread).current ∈ state.shared.passed
  queued : ∀ thread id, Buffers (state.own thread) id → id ∈ state.shared.passed
  alike : ∀ thread other, Waiting state thread → other ≠ thread → state.running other ≠ none →
    (state.own other).current = (state.own thread).current →
      Alone workflowId state.shared.tables (state.own thread).current
  buffered : ∀ thread other, Waiting state thread →
    Buffers (state.own other) (state.own thread).current →
      Alone workflowId state.shared.tables (state.own thread).current
  left : ∀ thread, Waiting state thread →
    (∃ u ∈ state.shared.tables.unfinished workflowId,
      u.actionId = (state.own thread).current) ∨
        Alone workflowId state.shared.tables (state.own thread).current

theorem start_unrepeated (db : Database) :
    Unrepeated workflowId (start workflowId Thread db) where
  passed := fun _ running => absurd rfl running
  queued := fun _ _ buffers => absurd buffers.1 (Nat.lt_irrefl 0)
  alike := fun _ _ waiting => absurd rfl waiting.running
  buffered := fun _ _ waiting => absurd rfl waiting.running
  left := fun _ waiting => absurd rfl waiting.running

/-- The number that is one is of the thread's own action. -/
theorem Unrepeated.lastOwn {state : Machine.State pool Pooled Finisher Thread} {thread : Thread}
    (unrepeated : Unrepeated workflowId state) (waiting : Waiting state thread)
    (one : (state.shared.tables.unfinished workflowId).length = 1) :
    Alone workflowId state.shared.tables (state.own thread).current := by
  rcases unrepeated.left thread waiting with ⟨u, left, named⟩ | alone
  · obtain ⟨v, only⟩ := List.length_eq_one_iff.mp one
    intro w other
    rw [only] at left other
    rw [List.mem_singleton.mp other, ← List.mem_singleton.mp left]
    exact named
  · exact alone

/-- An action that was never passed to `FinishAction` is unfinished. -/
theorem left_of_unpassed {shared : Pooled} (sane : Sane workflowId ids shared) {id : String}
    (inside : id ∈ ids) (unpassed : id ∉ shared.passed) :
    (∃ u ∈ shared.tables.unfinished workflowId, u.actionId = id) ∨
      Alone workflowId shared.tables id := by
  by_cases present : shared.tables.Present workflowId
  · obtain ⟨a, row, rfl, owned⟩ := sane.rows present id inside
    refine .inl ⟨a, Database.mem_unfinished.mpr ⟨row, owned, ?_⟩, rfl⟩
    by_contra finished
    exact unpassed (sane.passed a row owned (by simpa using finished))
  · exact .inr (alone_of_absent present id)

section Steps

variable {state next : Machine.State pool Pooled Finisher Thread} {thread : Thread}

/-- A thread enters an operation; its action was not passed yet, or no other one is unfinished. -/
theorem Unrepeated.entered (before : Unrepeated workflowId state) {id : String}
    (tables : next.shared.tables = state.shared.tables)
    (grown : state.shared.passed ⊆ next.shared.passed)
    (others : ∀ other, other ≠ thread →
      next.own other = state.own other ∧ next.running other = state.running other)
    (own : next.own thread = { state.own thread with current := id, counted := none })
    (named : id = "" ∨ id ∈ next.shared.passed)
    (again : id ≠ "" → id ∈ state.shared.passed → Alone workflowId state.shared.tables id)
    (left : id ≠ "" → (∃ u ∈ state.shared.tables.unfinished workflowId, u.actionId = id) ∨
      Alone workflowId state.shared.tables id) : Unrepeated workflowId next := by
  have current : (next.own thread).current = id := by rw [own]
  have context : (next.own thread).context = (state.own thread).context := by rw [own]
  have waited : ∀ other, other ≠ thread → Waiting next other → Waiting state other := by
    rintro other apart ⟨running, uncounted, named⟩
    obtain ⟨own, same⟩ := others other apart
    rw [same] at running
    rw [own] at uncounted named
    exact ⟨running, uncounted, named⟩
  have buffered : ∀ other id, Buffers (next.own other) id → Buffers (state.own other) id := by
    intro other id buffers
    by_cases same : other = thread
    · subst same
      unfold Buffers at buffers
      rwa [context] at buffers
    · rwa [(others other same).1] at buffers
  refine ⟨fun other running => ?_, fun other id buffers => ?_, ?_, ?_, fun other waiting => ?_⟩
  · by_cases same : other = thread
    · rw [same, current]
      exact named
    · obtain ⟨own, ran⟩ := others other same
      rw [ran] at running
      rw [own]
      exact (before.passed other running).imp_right fun inside => grown inside
  · exact grown (before.queued other id (buffered other id buffers))
  · intro first other waiting apart running alike
    rw [tables]
    by_cases same : first = thread
    · subst same
      obtain ⟨own, ran⟩ := others other apart
      rw [current, own] at alike
      rw [ran] at running
      have nonempty := waiting.named
      rw [current] at nonempty ⊢
      refine again nonempty ?_
      rw [← alike]
      exact (before.passed other running).resolve_left fun empty =>
        nonempty (alike.symm.trans empty)
    · have was := waited first same waiting
      rw [(others first same).1] at alike ⊢
      by_cases entering : other = thread
      · rw [entering, current] at alike
        have inside := (before.passed first was.running).resolve_left was.named
        rw [← alike] at inside ⊢
        exact again (fun empty => was.named (alike.symm.trans empty)) inside
      · obtain ⟨own, ran⟩ := others other entering
        rw [own] at alike
        rw [ran] at running
        exact before.alike first other was apart running alike
  · intro first other waiting buffers
    have held := buffered other _ buffers
    rw [tables]
    by_cases same : first = thread
    · have nonempty := waiting.named
      rw [same, current] at nonempty held ⊢
      exact again nonempty (before.queued other id held)
    · rw [(others first same).1] at held ⊢
      exact before.buffered first other (waited first same waiting) held
  · rw [tables]
    by_cases same : other = thread
    · have nonempty := waiting.named
      rw [same, current] at nonempty ⊢
      exact left nonempty
    · rw [(others other same).1]
      exact before.left other (waited other same waiting)

theorem note_current (tables : Database) (own : Finisher)
    (after : TransactionContext Statement) (c : PoolCall) :
    (note workflowId tables own after c).current = own.current := by
  cases c with
  | select query =>
      cases query with
      | unfinishedCount id =>
          simp only [note]
          split <;> rfl
      | _ => rfl
  | _ => rfl

/-- What a call changes, for the thread that makes it. -/
theorem serve_own {c : PoolCall} (shared : Pooled) (own : Finisher) :
    let own' := (serve workflowId c shared own).2.2
    own'.current = own.current ∧ (own'.counted = none → own.counted = none) ∧
      ∀ id, Buffers own' id → Buffers own id ∨ c = .sql (.updateAction id .finish) := by
  refine ⟨note_current _ _ _ _, fun uncounted => ?_, fun id buffers => ?_⟩
  · by_cases counts : Counts workflowId own c
    · exact counts.2
    · obtain ⟨same, -⟩ := note_uncounted shared.tables
        (answer true shared.tables own.context c).2.2 counts
      exact same.symm.trans uncounted
  · obtain ⟨on, inside⟩ := buffers
    have context : (serve workflowId c shared own).2.2.context =
        (answer true shared.tables own.context c).2.2 := note_context _ _ _ _ _
    rw [context] at on inside
    exact answer_queued true shared.tables own.context c on inside

/-- Whoever executes the `finished` of an action had it in its transaction, or is in the
`FinishAction` of the action and has counted. -/
theorem Unrepeated.executed {c : PoolCall} (before : Unrepeated workflowId state)
    (ran : state.running thread ≠ none)
    (asserted : Asserts workflowId ids c state.shared (state.own thread)) {first : Thread}
    (waiting : Waiting state first)
    (issued : Buffers (state.own thread) (state.own first).current ∨
      c = .sql (.updateAction (state.own first).current .finish)) :
    Alone workflowId state.shared.tables (state.own first).current := by
  rcases issued with held | issued
  · exact before.buffered first thread waiting held
  · obtain ⟨named, counted⟩ := asserted.names _ issued
    refine before.alike first thread waiting ?_ ran named.symm
    rintro rfl
    exact counted waiting.uncounted

theorem Unrepeated.called {c : PoolCall} (before : Unrepeated workflowId state)
    (ran : state.running thread ≠ none)
    (asserted : Asserts workflowId ids c state.shared (state.own thread))
    (shared : next.shared = (serve workflowId c state.shared (state.own thread)).2.1)
    (own : next.own thread = (serve workflowId c state.shared (state.own thread)).2.2)
    (others : ∀ other, other ≠ thread → next.own other = state.own other)
    (running : ∀ other, next.running other ≠ none → state.running other ≠ none) :
    Unrepeated workflowId next := by
  obtain ⟨executed, finishes, -, source⟩ := serve_finishes asserted
  rw [← shared] at finishes
  have passed : next.shared.passed = state.shared.passed := by rw [shared]; rfl
  obtain ⟨current, uncounted, buffers⟩ :=
    @serve_own workflowId c state.shared (state.own thread)
  rw [← own] at current uncounted buffers
  have currents : ∀ other, (next.own other).current = (state.own other).current := by
    intro other
    by_cases same : other = thread
    · rw [same]
      exact current
    · rw [others other same]
  have waited : ∀ other, Waiting next other → Waiting state other := by
    rintro other ⟨runs, none, named⟩
    rw [currents] at named
    refine ⟨running other runs, ?_, named⟩
    by_cases same : other = thread
    · rw [same] at none ⊢
      exact uncounted none
    · rwa [others other same] at none
  refine ⟨fun other runs => ?_, fun other id held => ?_, ?_, ?_, fun first waiting => ?_⟩
  · rw [currents, passed]
    exact before.passed other (running other runs)
  · rw [passed]
    by_cases same : other = thread
    · rw [same] at held
      rcases buffers id held with held | issued
      · exact before.queued thread id held
      · exact asserted.issues _ issued
    · rw [others other same] at held
      exact before.queued other id held
  · intro first other waiting apart runs alike
    rw [currents, currents] at alike
    rw [currents]
    exact (before.alike first other (waited first waiting) apart (running other runs)
      alike).finishes finishes
  · intro first other waiting held
    have was := waited first waiting
    rw [currents] at held ⊢
    refine Alone.finishes ?_ finishes
    by_cases same : other = thread
    · rw [same] at held
      exact before.executed ran asserted was (buffers _ held)
    · rw [others other same] at held
      exact before.buffered first other was held
  · have was := waited first waiting
    rw [currents]
    rcases before.left first was with ⟨u, left, named⟩ | alone
    · by_cases issued : .updateAction u.actionId .finish ∈ executed
      · refine .inr (Alone.finishes ?_ finishes)
        refine before.executed ran asserted was ?_
        rw [← named]
        rcases source with rfl | ⟨s, immediate, -, rfl⟩ | ⟨-, outermost, rfl⟩
        · cases issued
        · rw [List.mem_singleton.mp issued]
          exact .inr immediate
        · exact .inl ⟨by omega, issued⟩
      · by_cases present : next.shared.tables.Present workflowId
        · obtain ⟨v, still, same⟩ := finishes.unfinished present left issued
          exact .inl ⟨v, still, same.trans named⟩
        · exact .inr (alone_of_absent present _)
    · exact .inr (alone.finishes finishes)

theorem Unrepeated.returned (before : Unrepeated workflowId state)
    {running : Thread → Option (Program pool Unit)}
    (ran : ∀ other, running other ≠ none → state.running other ≠ none) :
    Unrepeated workflowId { state with running := running } := by
  have waited : ∀ other, Waiting { state with running := running } other →
      Waiting state other :=
    fun other waiting => ⟨ran other waiting.running, waiting.uncounted, waiting.named⟩
  exact
    { passed := fun other runs => before.passed other (ran other runs)
      queued := before.queued
      alike := fun first other waiting apart runs =>
        before.alike first other (waited first waiting) apart (ran other runs)
      buffered := fun first other waiting => before.buffered first other (waited first waiting)
      left := fun first waiting => before.left first (waited first waiting) }

variable [DecidableEq Thread] {env : Process} {label : Machine.Label pool Thread Operation}

theorem unrepeated_step (proper : Proper workflowId ids env state)
    (sane : Sane workflowId ids state.shared) (calls : Calls ids label)
    (again : NotAgain workflowId state label) (before : Unrepeated workflowId state)
    (taken : (machine workflowId env Thread).Step state label next) :
    Unrepeated workflowId next := by
  have asserted : ∀ thread c, label = .call thread c →
      Asserts workflowId ids c state.shared (state.own thread) := by
    rintro thread c rfl
    exact Machine.Proper.asserted (machine_sound env Thread) proper taken
  cases taken with
  | start thread operation idle =>
      have others : ∀ other, other ≠ thread →
          Function.update state.own thread
            (enter operation state.shared (state.own thread)).2 other = state.own other ∧
          Function.update state.running thread (some (program env operation)) other =
            state.running other :=
        fun other apart => ⟨Function.update_of_ne apart _ _, Function.update_of_ne apart _ _⟩
      cases operation with
      | finishAction actionId =>
          refine before.entered rfl (fun _ inside => List.mem_cons_of_mem _ inside) others
            (Function.update_self _ _ _) (.inr List.mem_cons_self) (fun _ => again) fun _ => ?_
          by_cases passed : actionId ∈ state.shared.passed
          · exact .inr (again passed)
          · exact left_of_unpassed sane calls passed
      | _ =>
          exact before.entered rfl (fun _ inside => inside) others (Function.update_self _ _ _)
            (.inl rfl) (absurd rfl) (absurd rfl)
  | call thread c rest running reply shared own answered =>
      obtain ⟨-, same⟩ := Prod.mk.inj answered
      obtain ⟨rfl, rfl⟩ := Prod.mk.inj same
      have ran : state.running thread ≠ none := by
        rw [running]
        exact nofun
      refine before.called ran (asserted thread c rfl) rfl (Function.update_self _ _ _)
        (fun other apart => Function.update_of_ne apart _ _) ?_
      exact (Function.forall_update_iff _ fun other (p : Option (Program pool Unit)) =>
        p ≠ none → state.running other ≠ none).mpr ⟨fun _ => ran, fun _ _ => id⟩
  | finish thread returned =>
      refine before.returned ?_
      exact (Function.forall_update_iff _ fun other (p : Option (Program pool Unit)) =>
        p ≠ none → state.running other ≠ none).mpr ⟨fun none => absurd rfl none, fun _ _ => id⟩
  | crash => exact calls.elim

/-- A run in which no action is passed to `FinishAction` again while another one is unfinished
is one in which whoever counts one unfinished action was called for this one. -/
theorem lastOwn_of_notAgain {db : Database} (fresh : Fresh db workflowId)
    {labels : List (Machine.Label pool Thread Operation)}
    {last : Machine.State pool Pooled Finisher Thread}
    (run : Runs workflowId env db (NotAgain workflowId) labels last) :
    Runs workflowId env db (LastOwn workflowId) labels last := by
  have both : Runs workflowId env db (LastOwn workflowId) labels last ∧
      Unrepeated workflowId last := by
    refine Transition.Run.induct (P := fun labels last =>
      Runs workflowId env db (LastOwn workflowId) labels last ∧ Unrepeated workflowId last)
      ⟨.refl, start_unrepeated db⟩ ?_ run
    rintro labels state label next before ⟨ran, unrepeated⟩ ⟨⟨calls, again⟩, taken⟩
    obtain ⟨proper, sane⟩ := proper_of_runs fresh before
    refine ⟨ran.snoc ⟨⟨calls, ?_⟩, taken⟩,
      unrepeated_step proper sane calls again unrepeated taken⟩
    cases label with
    | call thread c =>
        intro counts one
        have asserted := Machine.Proper.asserted (machine_sound env Thread) proper taken
        have running : state.running thread ≠ none := by
          cases taken with
          | call _ _ rest running =>
              rw [running]
              exact nofun
        exact unrepeated.lastOwn ⟨running, counts.2, (asserted.counts counts).2⟩ one
    | _ => trivial
  exact both.1

end Steps

end FinishActionRuns

end Tecs
