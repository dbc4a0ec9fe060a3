import Tecs.Workflow.FinishOutline

set_option autoImplicit false

namespace Tecs

open Effect Program TransactionContext

namespace FinishActionRuns

variable {workflowId : String} {ids : List String}

/-! The thread's own transaction. -/

theorem Between.begin {shared : Pooled} {own : Finisher}
    (between : Between workflowId ids shared own)
    (opened : Sound workflowId ids shared own.begin) :
    Between workflowId ids shared own.begin := by
  rcases Nat.eq_zero_or_pos own.context.beginCount with off | on
  · have empty : own.begin.context.sql = [] := begin_outermost off
    refine ⟨opened, fun _ => ?_, fun _ id inside => ?_⟩
    · simp [Paired, empty]
    · rw [empty] at inside
      cases inside
  · have same : own.begin.context.sql = own.context.sql := begin_nested on
    refine ⟨opened, fun _ => ?_, fun _ => ?_⟩
    · unfold Paired
      rw [same]
      exact between.paired on
    · unfold Settled
      rw [same]
      exact between.settled on

/-- A context with the same statements, or with no transaction. -/
theorem Between.context {shared : Pooled} {own own' : Finisher}
    (between : Between workflowId ids shared own)
    (closes : own'.context.beginCount ≤ own.context.beginCount)
    (statements : ∀ s ∈ own'.context.sql, s ∈ own.context.sql)
    (same : 0 < own'.context.beginCount →
      own'.context.sql = own.context.sql ∧ own'.promised = own.promised) :
    Between workflowId ids shared own' where
  sound := ⟨between.sound.sane, fun s inside => between.sound.finishing s (statements s inside)⟩
  paired := by
    intro on
    unfold Paired
    rw [(same on).1]
    exact between.paired (by omega)
  settled := by
    intro on
    unfold Settled
    rw [(same on).1, (same on).2]
    exact between.settled (by omega)

section Operations

variable {env : Process} {Thread : Type} {thread : Thread} {shared : Pooled} {own : Finisher}

theorem meets_begin_operation (between : Between workflowId ids shared own)
    (uncounted : own.counted = none) :
    Meets workflowId ids env thread (discard Pool.begin) (fun _ => Idle workflowId ids) shared
      own := by
  refine meets_begin between.sound fun later moved opened => ?_
  refine meets_ret fun last moved' => Idle.stable ⟨(between.stable moved).begin opened, ?_⟩ moved'
  intro counted
  have none : own.begin.counted = none := uncounted
  rw [none] at counted
  cases counted

theorem commit_own (workflowId : String) (shared : Pooled) (own : Finisher) :
    let own' := (serve workflowId .transactionCommit shared own).2.2
    own'.context.beginCount ≤ own.context.beginCount ∧ own'.context.sql = own.context.sql ∧
      (0 < own'.context.beginCount → own'.promised = own.promised) ∧
      own'.counted = own.counted := by
  dsimp only
  by_cases outermost : own.context.beginCount = 1
  · rw [serve_commit_outermost outermost]
    exact ⟨Nat.zero_le _, rfl, fun on => absurd on (Nat.lt_irrefl 0), rfl⟩
  · by_cases nested : 1 < own.context.beginCount
    · rw [serve_commit_nested nested]
      exact ⟨Nat.sub_le _ _, rfl, fun _ => rfl, rfl⟩
    · have off : own.context.beginCount = 0 := by omega
      have unchanged : own.context.commit = (own.context, none) := by simp [commit, off]
      simp only [serve, answer, unchanged, note, if_neg outermost]
      exact ⟨Nat.le_refl _, trivial, fun _ => trivial, trivial⟩

theorem cancel_own (workflowId : String) (shared : Pooled) (own : Finisher) :
    let own' := (serve workflowId .transactionCancel shared own).2.2
    own'.context.beginCount ≤ own.context.beginCount ∧
      (∀ s ∈ own'.context.sql, s ∈ own.context.sql) ∧
      (0 < own'.context.beginCount →
        own'.context.sql = own.context.sql ∧ own'.promised = own.promised) ∧
      own'.counted = own.counted := by
  have served : (serve workflowId .transactionCancel shared own).2.2 =
      { own with
        context := own.context.cancel
        promised := if own.context.beginCount = 1 then [] else own.promised } := rfl
  dsimp only
  rw [served]
  by_cases outermost : own.context.beginCount = 1
  · simp [cancel_outermost outermost]
  · by_cases nested : 1 < own.context.beginCount
    · simp [cancel_nested nested, outermost]
    · have off : own.context.beginCount = 0 := by omega
      simp [cancel, off]

theorem meets_commit_operation (between : Between workflowId ids shared own)
    (uncounted : own.counted = none) :
    Meets workflowId ids env thread (discard Pool.commit) (fun _ => Idle workflowId ids) shared
      own := by
  refine meets_call fun later moved => ?_
  have here := between.stable moved
  have asserted : Asserts workflowId ids .transactionCommit later own :=
    asserts_commit here.sound fun outermost =>
      ⟨here.paired (by omega), here.settled (by omega)⟩
  obtain ⟨closes, statements, promised, counted⟩ := commit_own workflowId later own
  refine ⟨asserted, meets_ret fun last moved' => Idle.stable ⟨?_, ?_⟩ moved'⟩
  · exact (here.stable (serve_moves asserted)).context closes
      (fun s inside => by rwa [statements] at inside) fun on => ⟨statements, promised on⟩
  · rw [counted, uncounted]
    exact nofun

theorem meets_cancel_operation (between : Between workflowId ids shared own)
    (uncounted : own.counted = none) :
    Meets workflowId ids env thread (discard Pool.cancel) (fun _ => Idle workflowId ids) shared
      own := by
  refine meets_call fun later moved => ?_
  have here := between.stable moved
  have asserted : Asserts workflowId ids .transactionCancel later own :=
    asserts_plain here.sound (fun _ => nofun) nofun fun counts => nomatch counts.1
  obtain ⟨closes, statements, same, counted⟩ := cancel_own workflowId later own
  refine ⟨asserted, meets_ret fun last moved' => Idle.stable ⟨?_, ?_⟩ moved'⟩
  · exact (here.stable (serve_moves asserted)).context closes statements same
  · rw [counted, uncounted]
    exact nofun

end Operations

/-- The calls of the runs: the actions of the workflow, and the thread's own transactions. -/
def Offered (ids : List String) : Operation → Prop
  | .finishAction actionId => actionId ∈ ids
  | _ => True

theorem enter_moves (workflowId : String) (ids : List String) (operation : Operation)
    (shared : Pooled) (own : Finisher) :
    Moves workflowId ids shared (enter operation shared own).1 := by
  cases operation with
  | finishAction actionId =>
      refine ⟨id, fun _ inside => List.mem_cons_of_mem _ inside, fun sane => ?_⟩
      exact { sane with
        passed := fun a inside owned finished =>
          List.mem_cons_of_mem _ (sane.passed a inside owned finished) }
  | _ => exact .refl workflowId ids shared

theorem machine_sound (env : Process) (Thread : Type) :
    (machine workflowId env Thread).Sound (fun _ _ _ _ => True) (Moves workflowId ids)
      (fun _ => Asserts workflowId ids) (fun _ => Idle workflowId ids) (Offered ids) False where
  reflexive := .refl workflowId ids
  transitive := fun _ _ _ => Moves.trans
  stable := fun _ _ _ _ idle moved => idle.stable moved
  guarantee := by
    rintro thread c shared own reply after own' asserted ⟨-, answered⟩
    obtain ⟨-, same⟩ := Prod.mk.inj answered
    rw [(Prod.mk.inj same).1]
    exact serve_moves asserted
  entering := fun _ operation shared own _ => enter_moves workflowId ids operation shared own
  booting := False.elim
  outline := by
    intro thread operation shared own offered idle
    have moved := enter_moves workflowId ids operation shared own
    have between := idle.between.stable moved
    cases operation with
    | finishAction actionId =>
        have entered : Between workflowId ids (enter (.finishAction actionId) shared own).1
            (enter (.finishAction actionId) shared own).2 :=
          between.context (Nat.le_refl _) (fun _ inside => inside) fun _ => ⟨rfl, rfl⟩
        refine meets_bind (meets_mono ?_ (meets_finishAction offered entered rfl rfl
          List.mem_cons_self))
        exact fun code last own' idle => meets_ret fun later moved => idle.stable moved
    | begin =>
        exact meets_begin_operation (between.context (Nat.le_refl _) (fun _ inside => inside)
          fun _ => ⟨rfl, rfl⟩) rfl
    | commit =>
        exact meets_commit_operation (between.context (Nat.le_refl _) (fun _ inside => inside)
          fun _ => ⟨rfl, rfl⟩) rfl
    | cancel =>
        exact meets_cancel_operation (between.context (Nat.le_refl _) (fun _ inside => inside)
          fun _ => ⟨rfl, rfl⟩) rfl

end FinishActionRuns

end Tecs
