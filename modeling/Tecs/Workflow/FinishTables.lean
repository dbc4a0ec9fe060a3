import Tecs.Workflow.PoolQuiet

set_option autoImplicit false

namespace Tecs

/-! What `FinishAction` issues about one workflow. -/

/-- The statements of `FinishAction` calls on the actions in `passed`. -/
def Statement.Finishing (workflowId : String) (passed : List String) : Statement → Prop
  | .updateAction actionId .finish => actionId ∈ passed
  | .insertHistory row => row.workflowId = workflowId
  | .insertLabelsHistory _ => True
  | .deleteWorkflow workflowIds => workflowId ∈ workflowIds
  | _ => False

def Statement.Archives (workflowId : String) : Statement → Prop
  | .insertHistory row => row.workflowId = workflowId
  | _ => False

def Statement.Deletes (workflowId : String) : Statement → Prop
  | .deleteWorkflow workflowIds => workflowId ∈ workflowIds
  | _ => False

theorem Statement.Finishing.mono {workflowId : String} {passed more : List String}
    {s : Statement} (finishing : s.Finishing workflowId passed) (grown : passed ⊆ more) :
    s.Finishing workflowId more := by
  cases s with
  | updateAction actionId change =>
      cases change with
      | finish => exact grown finishing
      | _ => exact finishing
  | _ => exact finishing

namespace Database

def Present (db : Database) (workflowId : String) : Prop :=
  workflowId ∈ db.workflow.map WorkflowRow.workflowId

def Archived (db : Database) (workflowId : String) : Prop :=
  workflowId ∈ db.workflowHistory.map WorkflowHistory.workflowId

instance (db : Database) (workflowId : String) : Decidable (db.Present workflowId) :=
  inferInstanceAs (Decidable (_ ∈ _))

instance (db : Database) (workflowId : String) : Decidable (db.Archived workflowId) :=
  inferInstanceAs (Decidable (_ ∈ _))

/-- The same action, finished at least where it was. -/
structure Follows (old a : Action) : Prop where
  actionId : a.actionId = old.actionId
  workflowId : a.workflowId = old.workflowId
  finished : old.finished = true → a.finished = true

theorem Follows.refl (a : Action) : Follows a a := ⟨rfl, rfl, id⟩

theorem Follows.trans {a b c : Action} (front : Follows a b) (back : Follows b c) :
    Follows a c where
  actionId := back.actionId.trans front.actionId
  workflowId := back.workflowId.trans front.workflowId
  finished := fun finished => back.finished (front.finished finished)

/-- What a batch of finishing statements does to the tables of one workflow. -/
structure Finishes (workflowId : String) (db : Database) (batch : List Statement)
    (later : Database) : Prop where
  present : later.Present workflowId ↔ db.Present workflowId ∧ ∀ s ∈ batch, ¬s.Deletes workflowId
  archived : later.Archived workflowId ↔
    db.Archived workflowId ∨ ∃ s ∈ batch, s.Archives workflowId
  rows : ∀ a ∈ later.actionPool, ∃ old ∈ db.actionPool, Follows old a ∧
    (a.finished = true → old.finished = true ∨ .updateAction a.actionId .finish ∈ batch)
  kept : later.Present workflowId → ∀ old ∈ db.actionPool, old.workflowId = workflowId →
    ∃ a ∈ later.actionPool, Follows old a

theorem Finishes.refl (workflowId : String) (db : Database) : Finishes workflowId db [] db where
  present := ⟨fun present => ⟨present, fun _ none => absurd none List.not_mem_nil⟩,
    fun both => both.1⟩
  archived := ⟨.inl, fun either => either.elim id fun other => by simp at other⟩
  rows := fun a inside => ⟨a, inside, .refl a, .inl⟩
  kept := fun _ old inside _ => ⟨old, inside, .refl old⟩

theorem Finishes.cons {workflowId : String} {db middle later : Database} {s : Statement}
    {batch : List Statement} (front : Finishes workflowId db [s] middle)
    (back : Finishes workflowId middle batch later) : Finishes workflowId db (s :: batch)
    later where
  present := by
    rw [back.present, front.present]
    simp only [List.forall_mem_cons, List.not_mem_nil, false_implies, implies_true, and_true]
    exact and_assoc
  archived := by
    rw [back.archived, front.archived]
    simp only [List.mem_cons, List.not_mem_nil, or_false, exists_eq_left, exists_eq_or_imp]
    exact or_assoc
  rows := by
    intro a inside
    obtain ⟨b, among, follows, source⟩ := back.rows a inside
    obtain ⟨old, stored, before, origin⟩ := front.rows b among
    refine ⟨old, stored, before.trans follows, fun finished => ?_⟩
    rcases source finished with was | issued
    · rcases origin was with original | first
      · exact .inl original
      · rw [← follows.actionId] at first
        exact .inr (List.mem_cons.mpr (.inl (List.mem_singleton.mp first)))
    · exact .inr (List.mem_cons_of_mem _ issued)
  kept := by
    intro present old inside owned
    have middlePresent := (back.present.mp present).1
    obtain ⟨b, among, follows⟩ := front.kept middlePresent old inside owned
    obtain ⟨a, last, follows'⟩ := back.kept present b among (follows.workflowId.trans owned)
    exact ⟨a, last, follows.trans follows'⟩

theorem finishes_of_tables {workflowId : String} {db later : Database} {s : Statement}
    (neither : ¬s.Deletes workflowId ∧ ¬s.Archives workflowId)
    (workflows : later.workflow = db.workflow)
    (histories : later.workflowHistory = db.workflowHistory)
    (rows : ∀ a ∈ later.actionPool, ∃ old ∈ db.actionPool, Follows old a ∧
      (a.finished = true → old.finished = true ∨ .updateAction a.actionId .finish ∈ [s]))
    (kept : ∀ old ∈ db.actionPool, ∃ a ∈ later.actionPool, Follows old a) :
    Finishes workflowId db [s] later where
  present := by
    unfold Present
    rw [workflows]
    simp only [List.mem_singleton, forall_eq]
    exact ⟨fun present => ⟨present, neither.1⟩, And.left⟩
  archived := by
    unfold Archived
    rw [histories]
    simp only [List.mem_singleton, exists_eq_left]
    exact ⟨.inl, fun either => either.elim id fun archives => absurd archives neither.2⟩
  rows := rows
  kept := fun _ old inside _ => kept old inside

theorem follows_updateRow (actionId : String) (a : Action) :
    Follows a (updateRow actionId .finish a) where
  actionId := updateRow_actionId _ _ _
  workflowId := updateRow_workflowId _ _ _
  finished := updateRow_finished _ _ _

theorem execute_finishes {workflowId : String} {passed : List String} {db later : Database}
    {s : Statement} (finishing : s.Finishing workflowId passed)
    (done : db.execute s = some later) : Finishes workflowId db [s] later := by
  cases s with
  | updateAction actionId change =>
      cases change with
      | finish =>
          simp only [execute, updateAction] at done
          split at done
          · obtain rfl := Option.some.inj done
            refine finishes_of_tables ⟨id, id⟩ rfl rfl (fun a inside => ?_) fun old inside =>
              ⟨_, List.mem_map_of_mem inside, follows_updateRow actionId old⟩
            obtain ⟨old, among, rfl⟩ := List.mem_map.mp inside
            refine ⟨old, among, follows_updateRow actionId old, fun finished => ?_⟩
            by_cases named : old.actionId = actionId
            · rw [updateRow_actionId, named]
              exact .inr (List.mem_singleton_self _)
            · unfold updateRow at finished
              rw [if_neg named] at finished
              exact .inl finished
          · cases done
      | _ => exact False.elim finishing
  | insertHistory row =>
      simp only [execute, insertHistory] at done
      split at done
      · obtain rfl := Option.some.inj done
        have named : row.workflowId = workflowId := finishing
        refine ⟨?_, ?_, fun a inside => ⟨a, inside, .refl a, .inl⟩,
          fun _ old inside _ => ⟨old, inside, .refl old⟩⟩
        · simp [Present, Statement.Deletes]
        · simp [Archived, Statement.Archives, named]
      · cases done
  | insertLabelsHistory id =>
      obtain rfl := Option.some.inj done
      exact finishes_of_tables ⟨fun other => other, fun other => other⟩ rfl rfl
        (fun a inside => ⟨a, inside, .refl a, .inl⟩) fun old inside => ⟨old, inside, .refl old⟩
  | deleteWorkflow workflowIds =>
      obtain rfl := Option.some.inj done
      have named : workflowId ∈ workflowIds := finishing
      have gone : ¬(db.deleteWorkflow workflowIds).Present workflowId := by
        intro present
        obtain ⟨w, inside, same⟩ := List.mem_map.mp present
        obtain ⟨-, kept⟩ := List.mem_filter.mp inside
        rw [same] at kept
        exact of_decide_eq_true kept named
      refine ⟨?_, ?_, fun a inside => ⟨a, (List.mem_filter.mp inside).1, .refl a, .inl⟩,
        fun present => absurd present gone⟩
      · refine ⟨fun present => absurd present gone, fun both => ?_⟩
        exact absurd named (both.2 _ (List.mem_singleton_self _))
      · simp [Archived, Statement.Archives, deleteWorkflow]
  | insertWorkflow => exact False.elim finishing
  | insertAction => exact False.elim finishing
  | insertSequence => exact False.elim finishing
  | updatePaused => exact False.elim finishing

theorem executeTransaction_finishes {workflowId : String} {passed : List String}
    {batch : List Statement} : ∀ {db later : Database},
      (∀ s ∈ batch, s.Finishing workflowId passed) → db.executeTransaction batch = some later →
        Finishes workflowId db batch later := by
  induction batch with
  | nil =>
      intro db later _ done
      obtain rfl := Option.some.inj done
      exact .refl workflowId db
  | cons s rest ih =>
      intro db later finishing done
      obtain ⟨middle, first, others⟩ := Option.bind_eq_some_iff.mp done
      have front := execute_finishes (finishing s List.mem_cons_self) first
      exact front.cons (ih (fun x inside => finishing x (List.mem_cons_of_mem _ inside)) others)

/-- An unfinished action that the batch does not finish stays unfinished. -/
theorem Finishes.unfinished {workflowId : String} {db later : Database} {batch : List Statement}
    (finishes : Finishes workflowId db batch later) (present : later.Present workflowId)
    {u : Action} (inside : u ∈ db.unfinished workflowId)
    (apart : .updateAction u.actionId .finish ∉ batch) :
    ∃ v ∈ later.unfinished workflowId, v.actionId = u.actionId := by
  obtain ⟨row, owned, unfinished⟩ := mem_unfinished.mp inside
  obtain ⟨v, among, follows⟩ := finishes.kept present u row owned
  refine ⟨v, mem_unfinished.mpr ⟨among, follows.workflowId.trans owned, ?_⟩, follows.actionId⟩
  by_contra finished
  obtain ⟨old, stored, before, source⟩ := finishes.rows v among
  have same : old = u := List.inj_on_of_nodup_map db.actionKey stored row
    (before.actionId.symm.trans follows.actionId)
  rcases source (by simpa using finished) with was | issued
  · rw [same, unfinished] at was
    cases was
  · rw [follows.actionId] at issued
    exact apart issued

/-- A workflow stays until a statement deletes it. -/
theorem execute_present {workflowId : String} {db later : Database} {s : Statement}
    (done : db.execute s = some later) (present : db.Present workflowId)
    (keeps : ¬s.Deletes workflowId) : later.Present workflowId := by
  cases s with
  | insertWorkflow row =>
      simp only [execute, insertWorkflow] at done
      split at done
      · obtain rfl := Option.some.inj done
        unfold Present
        rw [List.map_append]
        exact List.mem_append_left _ present
      · cases done
  | insertAction row =>
      simp only [execute, insertAction] at done
      split at done
      · obtain rfl := Option.some.inj done
        exact present
      · cases done
  | insertSequence row =>
      simp only [execute, insertSequence] at done
      split at done
      · obtain rfl := Option.some.inj done
        exact present
      · cases done
  | insertHistory row =>
      simp only [execute, insertHistory] at done
      split at done
      · obtain rfl := Option.some.inj done
        exact present
      · cases done
  | insertLabelsHistory =>
      obtain rfl := Option.some.inj done
      exact present
  | updateAction actionId change =>
      simp only [execute, updateAction] at done
      split at done
      · obtain rfl := Option.some.inj done
        exact present
      · cases done
  | updatePaused id paused =>
      obtain rfl := Option.some.inj done
      unfold Present
      rw [show (db.updatePaused id paused).workflow = db.workflow.map (pauseRow id paused) from rfl,
        map_pauseRow]
      exact present
  | deleteWorkflow workflowIds =>
      obtain rfl := Option.some.inj done
      obtain ⟨w, row, named⟩ := List.mem_map.mp present
      refine List.mem_map.mpr ⟨w, List.mem_filter.mpr ⟨row, ?_⟩, named⟩
      rw [named]
      exact decide_eq_true keeps

theorem executeTransaction_present {workflowId : String} {batch : List Statement} :
    ∀ {db later : Database}, db.executeTransaction batch = some later → db.Present workflowId →
      (∀ s ∈ batch, ¬s.Deletes workflowId) → later.Present workflowId := by
  induction batch with
  | nil =>
      intro db later done present _
      obtain rfl := Option.some.inj done
      exact present
  | cons s rest ih =>
      intro db later done present keeps
      obtain ⟨middle, first, others⟩ := Option.bind_eq_some_iff.mp done
      exact ih others (execute_present first present (keeps s List.mem_cons_self))
        fun x inside => keeps x (List.mem_cons_of_mem _ inside)

end Database

end Tecs
