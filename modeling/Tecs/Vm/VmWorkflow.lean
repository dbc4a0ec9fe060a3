import Tecs.Library.NodeGraph
import Tecs.Library.Run

set_option autoImplicit false

/-! Two workflows that the engine takes together: one goes forward, the other undoes it. -/

namespace Tecs.Vm

open NodeGraph Precedence Transition

section Definitions

inductive VmMessage
  | vmUnselectHost | vmScheduleSingle | vmRescheduleSingle | vmOp | vmModifyCreateVm
  | vmModifyNextAction | vmFinishFreeze
  | vnetlibSelectHc | vnetlibFreeresourceHc | vnetlibGetresourceHc
  | imageUrlPrepareReq
  | storageCreateSnapshotReq | storageDeleteSnapshotReq
  | storageCreateBlockReq | storageDeleteBlockReq
  | storageAuthBlockReq | storageDeauthBlockReq
deriving Repr, DecidableEq

structure VmAction (κ : Type) where
  id : κ
  message : VmMessage
  requestId : String := ""
  rollbackActionId : Option κ := none
  skipped : Bool := false
deriving Repr, DecidableEq

abbrev VmWorkFlow (κ : Type) := NodeGraph.Graph (VmAction κ) κ

abbrev VmCall (κ : Type) := Call (VmAction κ)

/-- What `CreateWorkflow` is given. -/
structure VmPlan (κ : Type) where
  forward : VmWorkFlow κ
  rollback : VmWorkFlow κ

/-- The rows of the actions; the workflow that is not paused is the one the engine works on. -/
structure ActionRows (κ : Type) where
  skipped : κ → Bool
  sent : κ → Bool
  finished : κ → Bool
  rolledBack : Bool

inductive EngineMove (κ : Type)
  | doAction (id : κ)
  | finishAction (id : κ)
  | rollback

variable {κ : Type} [DecidableEq κ] (plan : VmPlan κ) (rows : ActionRows κ)

def VmPlan.actions : List (VmAction κ) := plan.forward.nodes ++ plan.rollback.nodes

def VmPlan.created : ActionRows κ where
  skipped id := plan.actions.any fun a => a.id = id && a.skipped
  sent _ := false
  finished _ := false
  rolledBack := false

def VmPlan.current : VmWorkFlow κ := if rows.rolledBack then plan.rollback else plan.forward

/-- The view of the running actions: unfinished, with nothing unfinished before them. -/
def VmPlan.isRunning (a : VmAction κ) : Prop :=
  a ∈ (plan.current rows).nodes ∧ rows.finished a.id = false ∧
    ∀ e ∈ (plan.current rows).edges, e.2 = a.id → rows.finished e.1 = true

def ActionRows.finish (id : κ) : ActionRows κ :=
  { rows with finished := Function.update rows.finished id true }

def ActionRows.setSkippedFlag (id : κ) (skipped : Bool) : ActionRows κ :=
  { rows with skipped := Function.update rows.skipped id skipped }

def ActionRows.send (id : κ) : ActionRows κ :=
  { rows with sent := Function.update rows.sent id true }

/-- `DoAction`: a skipped action ends at once; the first request of another clears the flag of the
action that undoes it. -/
def ActionRows.doAction (a : VmAction κ) : ActionRows κ :=
  if rows.skipped a.id then rows.finish a.id
  else if rows.sent a.id then rows
  else
    match a.rollbackActionId with
    | none => rows.send a.id
    | some undo => (rows.setSkippedFlag undo false).send a.id

/-- The engine's step; an action whose request was sent is finished when its acknowledgement came,
by the engine or by the feedback handler. -/
inductive EngineStep : ActionRows κ → EngineMove κ → ActionRows κ → Prop
  | doAction {rows : ActionRows κ} (a : VmAction κ) (running : plan.isRunning rows a) :
      EngineStep rows (.doAction a.id) (rows.doAction a)
  | finishAction {rows : ActionRows κ} (a : VmAction κ) (running : plan.isRunning rows a)
      (sent : rows.sent a.id = true) : EngineStep rows (.finishAction a.id) (rows.finish a.id)
  | rollback {rows : ActionRows κ} (forward : rows.rolledBack = false)
      (unfinished : ∃ a ∈ plan.forward.nodes, rows.finished a.id = false) :
      EngineStep rows .rollback { rows with rolledBack := true }

/-- The action that an action undoes was sent. -/
def VmPlan.hadBeenSent (undo : VmAction κ) : Prop :=
  ∃ a ∈ plan.forward.nodes, a.rollbackActionId = some undo.id ∧ rows.sent a.id = true

/-- What undoes an action is sent where the action had been sent, and skipped elsewhere. -/
structure VmPlan.Exact : Prop where
  sent : ∀ undo ∈ plan.rollback.nodes, rows.sent undo.id = true → plan.hadBeenSent rows undo
  finished : ∀ undo ∈ plan.rollback.nodes, rows.finished undo.id = true →
    plan.hadBeenSent rows undo → rows.sent undo.id = true
  skipped : ∀ undo ∈ plan.rollback.nodes, rows.finished undo.id = true →
    ¬ plan.hadBeenSent rows undo → rows.skipped undo.id = true ∧ rows.sent undo.id = false

end Definitions

section Runs

variable {κ : Type} [DecidableEq κ] {plan : VmPlan κ} {rows next : ActionRows κ}

/-- Two workflows with actions of their own; nothing undoes what undoes. -/
structure VmPlan.Separate (plan : VmPlan κ) : Prop where
  apart : ∀ a ∈ plan.forward.nodes, ∀ b ∈ plan.rollback.nodes, a.id ≠ b.id
  onceForward : ∀ a ∈ plan.forward.nodes, ∀ b ∈ plan.forward.nodes, a.id = b.id → a = b
  once : ∀ a ∈ plan.rollback.nodes, ∀ b ∈ plan.rollback.nodes, a.id = b.id → a = b
  last : ∀ b ∈ plan.rollback.nodes, b.rollbackActionId = none

/-- What the engine keeps about the rollback. -/
structure VmPlan.Sound (plan : VmPlan κ) (rows : ActionRows κ) : Prop where
  flag : ∀ undo ∈ plan.rollback.nodes,
    rows.skipped undo.id = true ↔ undo.skipped = true ∧ ¬ plan.hadBeenSent rows undo
  paused : rows.rolledBack = false → ∀ undo ∈ plan.rollback.nodes,
    rows.sent undo.id = false ∧ rows.finished undo.id = false
  sent : ∀ undo ∈ plan.rollback.nodes, rows.sent undo.id = true → rows.skipped undo.id = false
  finished : ∀ undo ∈ plan.rollback.nodes, rows.finished undo.id = true →
    rows.sent undo.id = true ∨ rows.skipped undo.id = true

theorem created_sound (separate : plan.Separate) : plan.Sound plan.created := by
  have notSent (undo : VmAction κ) : ¬ plan.hadBeenSent plan.created undo := by
    rintro ⟨a, -, -, sent⟩
    cases sent
  refine ⟨fun undo mem => ?_, fun _ undo mem => ⟨rfl, rfl⟩, fun undo mem sent => ?_,
    fun undo mem finished => ?_⟩
  · simp only [notSent, not_false_eq_true, and_true]
    simp only [VmPlan.created, VmPlan.actions, List.any_eq_true, List.mem_append, Bool.and_eq_true,
      decide_eq_true_eq]
    constructor
    · rintro ⟨a, forward | rollback, same, skipped⟩
      · exact absurd same (separate.apart a forward undo mem)
      · exact separate.once a rollback undo mem same ▸ skipped
    · exact fun skipped => ⟨undo, .inr mem, rfl, skipped⟩
  · cases sent
  · cases finished

theorem doAction_skipped {a : VmAction κ} (skipped : rows.skipped a.id = true) :
    rows.doAction a = rows.finish a.id :=
  if_pos skipped

/-- The first request of an action without one to undo it. -/
theorem doAction_first {a : VmAction κ} (flag : rows.skipped a.id = false)
    (unsent : rows.sent a.id = false) (alone : a.rollbackActionId = none) :
    rows.doAction a = rows.send a.id := by
  rw [ActionRows.doAction, if_neg (Bool.eq_false_iff.mp flag), if_neg (Bool.eq_false_iff.mp unsent),
    alone]

omit [DecidableEq κ] in
theorem hadBeenSent_congr {undo : VmAction κ}
    (same : ∀ a ∈ plan.forward.nodes, next.sent a.id = rows.sent a.id) :
    plan.hadBeenSent next undo ↔ plan.hadBeenSent rows undo := by
  constructor
  · rintro ⟨a, mem, undoes, sent⟩
    exact ⟨a, mem, undoes, same a mem ▸ sent⟩
  · rintro ⟨a, mem, undoes, sent⟩
    exact ⟨a, mem, undoes, (same a mem).trans sent⟩

theorem hadBeenSent_send (separate : plan.Separate) {a undo : VmAction κ}
    (mem : a ∈ plan.forward.nodes) (same : next.sent = Function.update rows.sent a.id true) :
    plan.hadBeenSent next undo ↔
      plan.hadBeenSent rows undo ∨ a.rollbackActionId = some undo.id := by
  constructor
  · rintro ⟨b, memB, undoes, sent⟩
    by_cases eq : b.id = a.id
    · obtain rfl := separate.onceForward b memB a mem eq
      exact .inr undoes
    · rw [same, Function.update_of_ne eq] at sent
      exact .inl ⟨b, memB, undoes, sent⟩
  · rintro (⟨b, memB, undoes, sent⟩ | undoes)
    · refine ⟨b, memB, undoes, ?_⟩
      rw [same, Function.update_apply]
      split
      · rfl
      · exact sent
    · exact ⟨a, mem, undoes, by rw [same, Function.update_self]⟩

omit [DecidableEq κ] in
/-- Moves that leave the rows of the rollback and the sent actions alone. -/
theorem VmPlan.Sound.congr (sound : plan.Sound rows) (flags : next.skipped = rows.skipped)
    (sent : next.sent = rows.sent)
    (finished : ∀ undo ∈ plan.rollback.nodes, next.finished undo.id = rows.finished undo.id)
    (paused : next.rolledBack = false → rows.rolledBack = false) : plan.Sound next := by
  have before (undo : VmAction κ) : plan.hadBeenSent next undo ↔ plan.hadBeenSent rows undo :=
    hadBeenSent_congr fun a _ => by rw [sent]
  refine ⟨fun undo mem => ?_, fun still undo mem => ?_, fun undo mem => ?_, fun undo mem => ?_⟩
  · rw [flags, before]
    exact sound.flag undo mem
  · rw [sent, finished undo mem]
    exact sound.paused (paused still) undo mem
  · rw [sent, flags]
    exact sound.sent undo mem
  · rw [finished undo mem, sent, flags]
    exact sound.finished undo mem

omit [DecidableEq κ] in
theorem current_forward (forward : rows.rolledBack = false) : plan.current rows = plan.forward := by
  rw [VmPlan.current, forward, if_neg Bool.false_ne_true]

omit [DecidableEq κ] in
theorem current_rollback (rollback : rows.rolledBack = true) :
    plan.current rows = plan.rollback := by
  rw [VmPlan.current, if_pos rollback]

/-- An action forward: its request clears the flag of what undoes it. -/
theorem sound_forward (separate : plan.Separate) (sound : plan.Sound rows) {a : VmAction κ}
    (mem : a ∈ plan.forward.nodes) (forward : rows.rolledBack = false) :
    plan.Sound (rows.doAction a) := by
  have other : ∀ undo ∈ plan.rollback.nodes, undo.id ≠ a.id :=
    fun undo there => (separate.apart a mem undo there).symm
  have paused := sound.paused forward
  rw [ActionRows.doAction]
  split
  · refine sound.congr rfl rfl (fun undo there => ?_) (fun _ => forward)
    exact Function.update_of_ne (other undo there) _ _
  split
  · exact sound
  split
  · next alone =>
    refine ⟨fun undo there => ?_, fun _ undo there => ?_, fun undo there sent => ?_,
      fun undo there finished => ?_⟩
    · rw [hadBeenSent_send separate mem rfl, alone]
      simp only [reduceCtorEq, or_false]
      exact sound.flag undo there
    · exact ⟨(Function.update_of_ne (other undo there) _ _).trans (paused undo there).1,
        (paused undo there).2⟩
    · exact sound.sent undo there ((Function.update_of_ne (other undo there) _ _).symm.trans sent)
    · exact absurd finished (Bool.eq_false_iff.mp (paused undo there).2)
  · next u undoes =>
    refine ⟨fun undo there => ?_, fun _ undo there => ?_, fun undo there sent => ?_,
      fun undo there finished => ?_⟩
    · rw [hadBeenSent_send separate mem rfl, undoes]
      change Function.update rows.skipped u false undo.id = true ↔ _
      by_cases same : undo.id = u
      · rw [same, Function.update_self]
        simp
      · rw [Function.update_of_ne same]
        refine (sound.flag undo there).trans ?_
        have apart : some u ≠ some undo.id := fun eq => same (Option.some.inj eq).symm
        rw [eq_false apart, or_false]
        exact Iff.rfl
    · exact ⟨(Function.update_of_ne (other undo there) _ _).trans (paused undo there).1,
        (paused undo there).2⟩
    · have before := (Function.update_of_ne (other undo there) _ _).symm.trans sent
      exact absurd before (Bool.eq_false_iff.mp (paused undo there).1)
    · exact absurd finished (Bool.eq_false_iff.mp (paused undo there).2)

/-- An action of the rollback. -/
theorem sound_rollback (separate : plan.Separate) (sound : plan.Sound rows) {a : VmAction κ}
    (mem : a ∈ plan.rollback.nodes) (rollback : rows.rolledBack = true) :
    plan.Sound (rows.doAction a) := by
  rw [ActionRows.doAction]
  split
  · next skipped =>
    refine ⟨sound.flag, fun still => absurd still ?_, sound.sent, fun undo there finished => ?_⟩
    · exact (Bool.not_eq_false _).mpr rollback
    · by_cases same : undo.id = a.id
      · exact .inr (same ▸ skipped)
      · exact sound.finished undo there ((Function.update_of_ne same _ _).symm.trans finished)
  · next unskipped =>
    split
    · exact sound
    · rw [separate.last a mem]
      change plan.Sound (rows.send a.id)
      have before (undo : VmAction κ) :
          plan.hadBeenSent (rows.send a.id) undo ↔ plan.hadBeenSent rows undo :=
        hadBeenSent_congr fun b memB => Function.update_of_ne (separate.apart b memB a mem) _ _
      refine ⟨fun undo there => ?_, fun still => absurd still ?_, fun undo there sent => ?_,
        fun undo there finished => ?_⟩
      · rw [before]
        exact sound.flag undo there
      · exact (Bool.not_eq_false _).mpr rollback
      · by_cases same : undo.id = a.id
        · rw [same]
          exact Bool.eq_false_iff.mpr unskipped
        · exact sound.sent undo there ((Function.update_of_ne same _ _).symm.trans sent)
      · rcases sound.finished undo there finished with sent | skipped
        · refine .inl ?_
          change Function.update rows.sent a.id true undo.id = true
          rw [Function.update_apply]
          split
          · rfl
          · exact sent
        · exact .inr skipped

theorem sound_step (separate : plan.Separate) {move : EngineMove κ} (sound : plan.Sound rows)
    (step : EngineStep plan rows move next) : plan.Sound next := by
  cases step with
  | doAction a running =>
      have mem := running.1
      cases way : rows.rolledBack with
      | false => exact sound_forward separate sound (current_forward way ▸ mem) way
      | true => exact sound_rollback separate sound (current_rollback way ▸ mem) way
  | finishAction a running sent =>
      have mem := running.1
      cases way : rows.rolledBack with
      | false =>
          rw [current_forward way] at mem
          refine sound.congr rfl rfl (fun undo there => ?_) (fun _ => way)
          exact Function.update_of_ne (separate.apart a mem undo there).symm _ _
      | true =>
          refine ⟨sound.flag, fun still => ?_, sound.sent, fun undo there finished => ?_⟩
          · exact absurd (still.symm.trans way) Bool.false_ne_true
          · by_cases same : undo.id = a.id
            · exact .inl (same ▸ sent)
            · exact sound.finished undo there
                ((Function.update_of_ne same _ _).symm.trans finished)
  | rollback forward unfinished => exact sound.congr rfl rfl (fun _ _ => rfl) fun _ => forward

theorem sound_run (separate : plan.Separate) {moves : List (EngineMove κ)}
    (run : Run (EngineStep plan) plan.created moves rows) : plan.Sound rows :=
  run.invariant (created_sound separate) fun _ _ _ sound step => sound_step separate sound step

omit [DecidableEq κ] in
/-- Where everything that undoes something is skipped at first, the rollback is exact. -/
theorem exact_of_sound (sound : plan.Sound rows)
    (skipped : ∀ undo ∈ plan.rollback.nodes, undo.skipped = true) : plan.Exact rows := by
  have unsent {undo : VmAction κ} (there : undo ∈ plan.rollback.nodes)
      (never : ¬ plan.hadBeenSent rows undo) : rows.skipped undo.id = true :=
    (sound.flag undo there).mpr ⟨skipped undo there, never⟩
  refine ⟨fun undo there sent => ?_, fun undo there finished before => ?_,
    fun undo there finished never => ?_⟩
  · by_contra never
    exact absurd (unsent there never) (Bool.eq_false_iff.mp (sound.sent undo there sent))
  · rcases sound.finished undo there finished with sent | flag
    · exact sent
    · exact absurd before ((sound.flag undo there).mp flag).2
  · refine ⟨unsent there never, Bool.eq_false_iff.mpr fun sent => ?_⟩
    exact absurd (unsent there never) (Bool.eq_false_iff.mp (sound.sent undo there sent))

omit [DecidableEq κ] in
/-- A workflow without a cycle is never stuck. -/
theorem current_advances (acyclic : Acyclic (plan.current rows).Precedes)
    (inside : ∀ e ∈ (plan.current rows).edges, ∃ a ∈ (plan.current rows).nodes, a.id = e.1)
    {a : VmAction κ} (mem : a ∈ (plan.current rows).nodes)
    (unfinished : rows.finished a.id = false) :
    ∃ b, plan.isRunning rows b := by
  let waiting : List κ := ((plan.current rows).nodes.map VmAction.id).filter fun id =>
    !rows.finished id
  have there : a.id ∈ waiting :=
    List.mem_filter.mpr ⟨List.mem_map_of_mem mem, by rw [unfinished]; rfl⟩
  obtain ⟨first, memFirst, minimal⟩ := acyclic.exists_first waiting.finite_toSet ⟨_, there⟩
  obtain ⟨node, waits⟩ := List.mem_filter.mp memFirst
  obtain ⟨b, memB, rfl⟩ := List.mem_map.mp node
  refine ⟨b, memB, by simpa only [Bool.not_eq_true'] using waits, fun e edge into => ?_⟩
  by_contra open_
  obtain ⟨c, memC, source⟩ := inside e edge
  have before : (plan.current rows).Precedes c.id b.id := by
    rw [source, ← into]
    exact edge
  refine minimal c.id (List.mem_filter.mpr ⟨List.mem_map_of_mem memC, ?_⟩) before
  rw [source, Bool.eq_false_iff.mpr open_]
  rfl

end Runs

end Tecs.Vm
