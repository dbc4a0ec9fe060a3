import Tecs.Library.Run
import Tecs.Vm.VmOperations

set_option autoImplicit false

/-! The running schedule: migrations of the machines on the hosts, a number of them at a time. -/

namespace Tecs.Vm.Reschedule

open Transition

section Definitions

structure VirtualMachine where
  vid : ℤ
  state : VmInstanceState
deriving Repr, DecidableEq

inductive SchPolicy
  | packing | striping | other
deriving Repr, DecidableEq

/-- An action of the workflow, all of which are independent. One without a receiver is `held`: its
message goes nowhere. `acked` is the result of the migration once it is there. -/
structure Migrate where
  vid : ℤ
  operation : VmOperation
  held : Bool
  skipped : Bool
  acked : Option Bool
  finished : Bool
deriving Repr, DecidableEq

/-- The limit of the round under way and its workflow, without actions when there is none. -/
structure Resched where
  migrateMax : ℕ
  actions : List Migrate
deriving Repr, DecidableEq

def actionType : VmInstanceState → Option VmOperation
  | .running => some .liveMigrate
  | .shutoff => some .coldMigrate
  | _ => none

def Migratable (vm : VirtualMachine) : Prop := (actionType vm.state).isSome = true

instance (vm : VirtualMachine) : Decidable (Migratable vm) := inferInstanceAs (Decidable (_ = _))

/-- The limit as it is read from the configuration. -/
def maxVms (config : ℤ) : ℕ := if config ≤ 0 then 0xFFFF else config.toNat

/-- The loop of `RunningReSCH` from a position of the list on; the position is what the limit is
compared with. -/
def migrateVms (migrateMax : ℕ) : ℕ → List VirtualMachine → List Migrate
  | _, [] => []
  | i, vm :: rest =>
      match actionType vm.state with
      | none => migrateVms migrateMax (i + 1) rest
      | some operation =>
          ⟨vm.vid, operation, migrateMax ≤ i, false, none, false⟩ ::
            migrateVms migrateMax (i + 1) rest

variable (resched : Resched)

def Resched.runningReSCH (vids : List VirtualMachine) (schPolicy : SchPolicy) (config : ℤ)
    (created : Bool) : Resched :=
  if vids.isEmpty || !resched.actions.isEmpty then resched
  else
    let migrate := migrateVms (maxVms config) 0 vids
    if migrate.isEmpty || schPolicy == .other || !created then resched
    else ⟨maxVms config, migrate⟩

/-- `FinishAction`: with the last action that is not finished the workflow is deleted. -/
def Resched.finishAction (i : ℕ) : Resched :=
  let count := resched.actions.countP fun action => !action.finished
  if count = 0 then resched
  else if count = 1 then { resched with actions := [] }
  else
    { resched with
      actions := resched.actions.modify i fun action => { action with finished := true } }

/-- One of the actions without a receiver gets one; which it is the selection tells. -/
def Resched.updateActionReceiver (pausedAction : Option ℕ) : Resched :=
  match pausedAction with
  | none => resched
  | some j =>
      { resched with
        actions := resched.actions.modify j fun action => { action with held := false } }

def Resched.reSchMigrateFailed (i : ℕ) (pausedAction : Option ℕ) : Resched :=
  (resched.updateActionReceiver pausedAction).finishAction i

def Resched.skipPaused : Resched :=
  { resched with
    actions := resched.actions.map fun action =>
      if action.held then { action with skipped := true } else action }

/-- `others` is the number of actions of other workflows that have succeeded: they count too. -/
def Resched.reSchMigrateSuccess (i : ℕ) (config : ℤ) (others : ℕ) : Resched :=
  if config ≤ 0 then resched.finishAction i
  else
    let count := (resched.actions.countP fun action => action.acked == some true) + others
    if config ≤ count then resched.skipPaused.finishAction i else resched.finishAction i

inductive ReschedLabel
  | runningReSCH (vids : List VirtualMachine) (schPolicy : SchPolicy) (config : ℤ) (created : Bool)
  | ack (i : ℕ) (success : Bool)
  | failed (i : ℕ) (pausedAction : Option ℕ)
  | success (i : ℕ) (config : ℤ) (others : ℕ)
  | skip (i : ℕ)
deriving Repr, DecidableEq

/-- A migration that was started and has no end yet. -/
def Migrate.UnderWay (action : Migrate) : Prop :=
  action.held = false ∧ action.skipped = false ∧ action.finished = false

instance (action : Migrate) : Decidable action.UnderWay := inferInstanceAs (Decidable (_ ∧ _))

/-- A migration that is left. -/
def Migrate.Waiting (action : Migrate) : Prop :=
  action.held = true ∧ action.skipped = false ∧ action.finished = false

instance (action : Migrate) : Decidable action.Waiting := inferInstanceAs (Decidable (_ ∧ _))

/-- Results come for migrations under way; a paused action is selected if there is any. A result is
fed back until its action is finished. `ResponseWorkAck` looks at that before it calls a handler,
in a transaction of its own; the handlers here may come behind the end of the action as well. -/
def Resched.Possible : ReschedLabel → Prop
  | .runningReSCH .. => True
  | .ack i _ => ∃ action ∈ resched.actions[i]?, action.UnderWay ∧ action.acked = none
  | .failed i pausedAction =>
      (∃ action ∈ resched.actions[i]?, action.acked = some false) ∧
        match pausedAction with
        | none => ∀ action ∈ resched.actions, action.held = false
        | some j => ∃ action ∈ resched.actions[j]?, action.held = true
  | .success i _ _ => ∃ action ∈ resched.actions[i]?, action.acked = some true
  | .skip i => ∃ action ∈ resched.actions[i]?, action.skipped = true ∧ action.finished = false

def Resched.next : ReschedLabel → Resched
  | .runningReSCH vids schPolicy config created =>
      resched.runningReSCH vids schPolicy config created
  | .ack i success =>
      { resched with
        actions := resched.actions.modify i fun action => { action with acked := some success } }
  | .failed i pausedAction => resched.reSchMigrateFailed i pausedAction
  | .success i config others => resched.reSchMigrateSuccess i config others
  | .skip i => resched.finishAction i

def ReschedStep (before : Resched) (label : ReschedLabel) (after : Resched) : Prop :=
  before.Possible label ∧ after = before.next label

/-- There are migrations left and none that could bring them on. -/
def Resched.Stalled : Prop :=
  (∃ action ∈ resched.actions, action.Waiting) ∧ ∀ action ∈ resched.actions, ¬ action.UnderWay

/-- What a round starts, when no workflow is there. -/
def started (vids : List VirtualMachine) (schPolicy : SchPolicy) (config : ℤ) (created : Bool) :
    ℕ :=
  (Resched.runningReSCH ⟨0, []⟩ vids schPolicy config created).actions.countP (!·.held)

/-- A round starts as many migrations as it may: either nothing can be migrated, or the workflow is
made and every machine up to the limit can be migrated or none after it. -/
def RoundFits (vids : List VirtualMachine) (schPolicy : SchPolicy) (config : ℤ) (created : Bool) :
    Prop :=
  (∀ vm ∈ vids, ¬ Migratable vm) ∨
    (schPolicy ≠ .other ∧ created = true ∧
      ((∀ vm ∈ vids.take (maxVms config), Migratable vm) ∨
        ∀ vm ∈ vids.drop (maxVms config), ¬ Migratable vm))

/-- The rounds of a run fit, and no limit above that of the round is read while machines wait. -/
def Resched.Fits : ReschedLabel → Prop
  | .runningReSCH vids schPolicy config created =>
      resched.actions = [] → RoundFits vids schPolicy config created
  | .success _ config _ => (∃ action ∈ resched.actions, action.Waiting) →
      0 < config ∧ config ≤ resched.migrateMax
  | _ => True

/-- A migration that counts towards the limit: it is under way or has succeeded. -/
def Migrate.live (action : Migrate) : Bool :=
  !action.held && !action.skipped && (!action.finished || action.acked == some true)

end Definitions

section Lists

variable {α : Type} {f : α → α} {p : α → Bool}

theorem countP_modify : ∀ {l : List α} {i : ℕ} {a : α}, l[i]? = some a →
    (l.modify i f).countP p + (if p a then 1 else 0) = l.countP p + (if p (f a) then 1 else 0) := by
  intro l
  induction l with
  | nil =>
      intro i a there
      cases there
  | cons b rest ih =>
      intro i a there
      cases i with
      | zero =>
          cases there
          rw [List.modify_zero_cons, List.countP_cons, List.countP_cons]
          omega
      | succ i =>
          have below := ih (i := i) there
          rw [List.modify_succ_cons, List.countP_cons, List.countP_cons]
          omega

theorem mem_modify {l : List α} {i : ℕ} {a b : α} (there : l[i]? = some a)
    (member : b ∈ l.modify i f) : b ∈ l ∨ b = f a := by
  have ⟨j, place⟩ := List.mem_iff_getElem?.mp member
  rw [List.getElem?_modify] at place
  have ⟨found, inside, same⟩ := Option.map_eq_some_iff.mp place
  by_cases equal : i = j
  · subst equal
    cases there.symm.trans inside
    rw [if_pos rfl] at same
    exact Or.inr same.symm
  · rw [if_neg equal] at same
    exact Or.inl (same ▸ List.mem_of_getElem? inside)

theorem mem_modify_self {l : List α} {i : ℕ} {a : α} (there : l[i]? = some a) :
    f a ∈ l.modify i f := by
  apply List.mem_of_getElem? (i := i)
  rw [List.getElem?_modify_eq, there]
  rfl

theorem mem_modify_other {l : List α} {i : ℕ} {a b : α} (there : l[i]? = some a) (member : b ∈ l)
    (other : b ≠ a) : b ∈ l.modify i f := by
  have ⟨j, place⟩ := List.mem_iff_getElem?.mp member
  apply List.mem_of_getElem? (i := j)
  have apart : i ≠ j := by
    rintro rfl
    rw [there] at place
    exact other (Option.some.inj place).symm
  rw [List.getElem?_modify_ne _ _ apart, place]

theorem exists_of_countP_lt {q : α → Bool} {l : List α} (less : l.countP q < l.countP p) :
    ∃ a ∈ l, p a = true ∧ q a = false := by
  by_contra none
  have all : ∀ a ∈ l, p a = true → q a = true := by
    intro a member holds
    by_contra fails
    exact none ⟨a, member, holds, Bool.eq_false_iff.mpr fails⟩
  exact absurd (List.countP_mono_left all) (Nat.not_le_of_lt less)

end Lists

section Rounds

variable {migrateMax : ℕ}

theorem maxVms_pos (config : ℤ) : 0 < maxVms config := by
  unfold maxVms
  split <;> omega

theorem migrateVms_fresh : ∀ {vids : List VirtualMachine} {i : ℕ},
    ∀ action ∈ migrateVms migrateMax i vids,
      action.skipped = false ∧ action.acked = none ∧ action.finished = false := by
  intro vids
  induction vids with
  | nil => exact fun action member => absurd member List.not_mem_nil
  | cons vm rest ih =>
      intro i action member
      unfold migrateVms at member
      split at member
      · exact ih action member
      · cases List.mem_cons.mp member with
        | inl same => exact same ▸ ⟨rfl, rfl, rfl⟩
        | inr later => exact ih action later

/-- The machines that are started are those up to the limit that can be migrated. -/
theorem migrateVms_started : ∀ {vids : List VirtualMachine} {i : ℕ},
    (migrateVms migrateMax i vids).countP (!·.held) =
      (vids.take (migrateMax - i)).countP fun vm => Migratable vm := by
  intro vids
  induction vids with
  | nil => simp [migrateVms]
  | cons vm rest ih =>
      intro i
      unfold migrateVms
      have later := @ih (i + 1)
      by_cases within : migrateMax ≤ i
      · rw [Nat.sub_eq_zero_of_le within, List.take_zero]
        rw [Nat.sub_eq_zero_of_le (Nat.le_succ_of_le within), List.take_zero] at later
        cases type : actionType vm.state with
        | none => exact later
        | some operation => simp [later, within]
      · obtain ⟨left, rest'⟩ : ∃ left, migrateMax - i = left + 1 ∧ migrateMax - (i + 1) = left :=
          ⟨migrateMax - (i + 1), by omega, rfl⟩
        rw [rest'.1, List.take_succ_cons, List.countP_cons]
        rw [rest'.2] at later
        cases type : actionType vm.state with
        | none => simp [later, Migratable, type]
        | some operation => simp [later, Migratable, type, within]

theorem migrateVms_held : ∀ {vids : List VirtualMachine} {i : ℕ},
    ∀ action ∈ migrateVms migrateMax i vids, action.held = true →
      ∃ vm ∈ vids.drop (migrateMax - i), Migratable vm := by
  intro vids
  induction vids with
  | nil => exact fun action member => absurd member List.not_mem_nil
  | cons vm rest ih =>
      intro i action member held
      have later (member : action ∈ migrateVms migrateMax (i + 1) rest) :
          ∃ vm' ∈ (vm :: rest).drop (migrateMax - i), Migratable vm' := by
        have ⟨found, inside, can⟩ := ih action member held
        refine ⟨found, ?_, can⟩
        by_cases within : migrateMax ≤ i
        · rw [Nat.sub_eq_zero_of_le (Nat.le_succ_of_le within), List.drop_zero] at inside
          rw [Nat.sub_eq_zero_of_le within, List.drop_zero]
          exact List.mem_cons_of_mem _ inside
        · rw [show migrateMax - i = migrateMax - (i + 1) + 1 by omega, List.drop_succ_cons]
          exact inside
      unfold migrateVms at member
      split at member
      · exact later member
      · rename_i operation type
        cases List.mem_cons.mp member with
        | inl same =>
            rw [same] at held
            have within : migrateMax ≤ i := of_decide_eq_true held
            rw [Nat.sub_eq_zero_of_le within, List.drop_zero]
            exact ⟨vm, List.mem_cons_self, by rw [Migratable, type]; rfl⟩
        | inr inside => exact later inside

theorem migrateVms_nil_iff : ∀ {vids : List VirtualMachine} {i : ℕ},
    migrateVms migrateMax i vids = [] ↔ ∀ vm ∈ vids, ¬ Migratable vm := by
  intro vids
  induction vids with
  | nil => simp [migrateVms]
  | cons vm rest ih =>
      intro i
      unfold migrateVms
      rw [List.forall_mem_cons]
      cases type : actionType vm.state with
      | none => simp [ih, Migratable, type]
      | some operation => simp [Migratable, type]

/-- As many as the limit allows are found up to the limit when all of these can be migrated or
none after them. -/
theorem countP_take_iff (vids : List VirtualMachine) (limit : ℕ) :
    ((vids.take limit).countP fun vm => Migratable vm) =
        min limit (vids.countP fun vm => Migratable vm) ↔
      (∀ vm ∈ vids.take limit, Migratable vm) ∨ ∀ vm ∈ vids.drop limit, ¬ Migratable vm := by
  have whole : (vids.countP fun vm => Migratable vm) =
      ((vids.take limit).countP fun vm => Migratable vm) +
        (vids.drop limit).countP fun vm => Migratable vm := by
    rw [← List.countP_append, List.take_append_drop]
  have front := List.countP_le_length (p := fun vm => decide (Migratable vm)) (l := vids.take limit)
  have size := List.length_take (i := limit) (l := vids)
  constructor
  · intro most
    by_cases left : ((vids.drop limit).countP fun vm => Migratable vm) = 0
    · refine Or.inr fun vm member => ?_
      exact of_decide_eq_false (Bool.eq_false_iff.mpr (List.countP_eq_zero.mp left vm member))
    · have full : ((vids.take limit).countP fun vm => Migratable vm) =
          (vids.take limit).length := by
        omega
      exact Or.inl fun vm member => of_decide_eq_true (List.countP_eq_length.mp full vm member)
  · intro either
    cases either with
    | inl all =>
        have full : ((vids.take limit).countP fun vm => Migratable vm) =
            (vids.take limit).length :=
          List.countP_eq_length.mpr fun vm member => decide_eq_true (all vm member)
        by_cases short : vids.length ≤ limit
        · rw [List.drop_eq_nil_of_le short, List.countP_nil] at whole
          omega
        · omega
    | inr none =>
        have left : ((vids.drop limit).countP fun vm => Migratable vm) = 0 :=
          List.countP_eq_zero.mpr fun vm member => by simp [none vm member]
        omega

variable (vids : List VirtualMachine) (schPolicy : SchPolicy) (config : ℤ) (created : Bool)

theorem runningReSCH_eq {resched : Resched} (idle : resched.actions = []) :
    resched.runningReSCH vids schPolicy config created =
      if (∀ vm ∈ vids, ¬ Migratable vm) ∨ schPolicy = .other ∨ created = false then resched
      else ⟨maxVms config, migrateVms (maxVms config) 0 vids⟩ := by
  unfold Resched.runningReSCH
  have nothing := @migrateVms_nil_iff (maxVms config) vids 0
  rw [idle, List.isEmpty_nil, Bool.not_true, Bool.or_false]
  by_cases empty : vids = []
  · subst empty
    rw [List.isEmpty_nil, if_pos rfl, if_pos (Or.inl (by simp))]
  rw [if_neg (by rwa [List.isEmpty_iff])]
  dsimp only
  simp only [Bool.or_eq_true, List.isEmpty_iff, nothing, beq_iff_eq, Bool.not_eq_true', or_assoc]

/-- A round starts as many migrations as it may exactly when it fits. -/
theorem round_right_iff :
    started vids schPolicy config created =
        min (maxVms config) (vids.countP fun vm => Migratable vm) ↔
      RoundFits vids schPolicy config created := by
  have positive := maxVms_pos config
  unfold started RoundFits
  rw [runningReSCH_eq vids schPolicy config created rfl]
  by_cases nothing : ∀ vm ∈ vids, ¬ Migratable vm
  · have zero : (vids.countP fun vm => Migratable vm) = 0 :=
      List.countP_eq_zero.mpr fun vm member => by simp [nothing vm member]
    rw [if_pos (Or.inl nothing), zero, Nat.min_zero]
    exact iff_of_true rfl (Or.inl nothing)
  have some : 0 < vids.countP fun vm => Migratable vm := by
    by_contra zero
    apply nothing
    intro vm member can
    have none := List.countP_eq_zero.mp (Nat.eq_zero_of_not_pos zero) vm member
    exact none (decide_eq_true can)
  by_cases refused : schPolicy = .other ∨ created = false
  · rw [if_pos (Or.inr refused), List.countP_nil]
    apply iff_of_false
    · omega
    · rintro (none | ⟨known, made, _⟩)
      · exact nothing none
      · cases refused with
        | inl other => exact known other
        | inr failed => exact absurd (failed.symm.trans made) Bool.false_ne_true
  · rw [if_neg (not_or.mpr ⟨nothing, refused⟩)]
    rw [not_or] at refused
    dsimp only
    rw [migrateVms_started, Nat.sub_zero, countP_take_iff]
    constructor
    · intro either
      exact Or.inr ⟨refused.1, Bool.not_eq_false _ ▸ refused.2, either⟩
    · intro fits
      exact (fits.resolve_left nothing).2.2

end Rounds

section Progress

variable {resched : Resched}

def Resched.Held (resched : Resched) : Prop := ∃ action ∈ resched.actions, action.Waiting

/-- As long as a migration is left no action is skipped, the limit is reached and a migration is
under way. -/
structure Resched.Sound (resched : Resched) : Prop where
  heldOpen : ∀ action ∈ resched.actions,
    action.held = true → action.skipped = false → action.finished = false
  ackedFree : ∀ action ∈ resched.actions,
    action.acked ≠ none → action.held = false ∧ action.skipped = false
  unskipped : resched.Held → ∀ action ∈ resched.actions, action.skipped = false
  reached : resched.Held → resched.migrateMax ≤ resched.actions.countP Migrate.live
  underWay : resched.Held → ∃ action ∈ resched.actions, action.UnderWay

theorem not_held_nil (migrateMax : ℕ) : ¬ Resched.Held ⟨migrateMax, []⟩ := by
  rintro ⟨action, member, _⟩
  exact absurd member List.not_mem_nil

theorem sound_nil (migrateMax : ℕ) : Resched.Sound ⟨migrateMax, []⟩ where
  heldOpen _ member := absurd member List.not_mem_nil
  ackedFree _ member := absurd member List.not_mem_nil
  unskipped held := absurd held (not_held_nil migrateMax)
  reached held := absurd held (not_held_nil migrateMax)
  underWay held := absurd held (not_held_nil migrateMax)

theorem live_of_underWay {action : Migrate} (open' : action.UnderWay) : action.live = true := by
  simp [Migrate.live, open'.1, open'.2.1, open'.2.2]

/-- One that counts without having succeeded is under way. -/
theorem underWay_of_live {action : Migrate} (live : action.live = true)
    (unsuccessful : (action.acked == some true) = false) : action.UnderWay := by
  unfold Migrate.live at live
  rw [unsuccessful, Bool.or_false, Bool.and_eq_true, Bool.and_eq_true] at live
  simp only [Bool.not_eq_true'] at live
  exact ⟨live.1.1, live.1.2, live.2⟩

/-- What a new workflow holds back it holds back because the limit is reached. -/
theorem fresh_sound (vids : List VirtualMachine) {migrateMax : ℕ} (positive : 0 < migrateMax)
    (fits : (∀ vm ∈ vids.take migrateMax, Migratable vm) ∨
      ∀ vm ∈ vids.drop migrateMax, ¬ Migratable vm) :
    Resched.Sound ⟨migrateMax, migrateVms migrateMax 0 vids⟩ := by
  have reached (held : Resched.Held ⟨migrateMax, migrateVms migrateMax 0 vids⟩) :
      (migrateVms migrateMax 0 vids).countP (!·.held) = migrateMax := by
    have ⟨action, member, waits, _⟩ := held
    have ⟨vm, later, can⟩ := migrateVms_held action member waits
    rw [Nat.sub_zero] at later
    have all := fits.resolve_right fun none => none vm later can
    have long : migrateMax < vids.length := by
      by_contra short
      rw [List.drop_eq_nil_of_le (by omega)] at later
      exact absurd later List.not_mem_nil
    rw [migrateVms_started, Nat.sub_zero]
    have full : ((vids.take migrateMax).countP fun vm => Migratable vm) =
        (vids.take migrateMax).length :=
      List.countP_eq_length.mpr fun vm inside => decide_eq_true (all vm inside)
    rw [full, List.length_take]
    omega
  constructor
  · intro action member _ _
    exact (migrateVms_fresh action member).2.2
  · intro action member acked
    exact absurd (migrateVms_fresh action member).2.1 acked
  · intro _ action member
    exact (migrateVms_fresh action member).1
  · intro held
    have count := reached held
    have same : (migrateVms migrateMax 0 vids).countP Migrate.live =
        (migrateVms migrateMax 0 vids).countP (!·.held) := by
      apply List.countP_congr
      intro action member
      have ⟨unskipped, _, unfinished⟩ := migrateVms_fresh action member
      simp [Migrate.live, unskipped, unfinished]
    change migrateMax ≤ (migrateVms migrateMax 0 vids).countP Migrate.live
    omega
  · intro held
    have count := reached held
    have some : 0 < (migrateVms migrateMax 0 vids).countP (!·.held) := by
      rw [count]
      exact positive
    have ⟨action, member, sent⟩ := List.countP_pos_iff.mp some
    have ⟨unskipped, _, unfinished⟩ := migrateVms_fresh action member
    exact ⟨action, member, by simpa using sent, unskipped, unfinished⟩

theorem finishAction_cases (resched : Resched) (i : ℕ) :
    (resched.finishAction i = resched ∧ ∀ action ∈ resched.actions, action.finished = true) ∨
      resched.finishAction i = ⟨resched.migrateMax, []⟩ ∨
      resched.finishAction i = ⟨resched.migrateMax,
        resched.actions.modify i fun action => { action with finished := true }⟩ := by
  unfold Resched.finishAction
  dsimp only
  split
  · rename_i none
    refine Or.inl ⟨rfl, fun action member => ?_⟩
    have finished := List.countP_eq_zero.mp none action member
    simpa using finished
  · split
    · exact Or.inr (Or.inl rfl)
    · exact Or.inr (Or.inr rfl)

/-- An action that has its result, or was skipped, is finished. What the others need is that the
limit stays reached and one of them is under way. -/
theorem finishAction_sound {i : ℕ} {action : Migrate} (there : resched.actions[i]? = some action)
    (handled : action.acked ≠ none ∨ action.skipped = true)
    (heldOpen : ∀ action ∈ resched.actions,
      action.held = true → action.skipped = false → action.finished = false)
    (ackedFree : ∀ action ∈ resched.actions,
      action.acked ≠ none → action.held = false ∧ action.skipped = false)
    (others : resched.Held → (∀ action ∈ resched.actions, action.skipped = false) ∧
      resched.migrateMax + (if action.live then 1 else 0) ≤ resched.actions.countP Migrate.live +
        (if Migrate.live { action with finished := true } then 1 else 0) ∧
      ∃ other ∈ resched.actions, other.UnderWay ∧ other ≠ action) :
    (resched.finishAction i).Sound := by
  have member := List.mem_of_getElem? there
  rcases finishAction_cases resched i with ⟨same, finished⟩ | gone | finished
  · have free : ¬ resched.Held := by
      rintro ⟨action, member, _, _, unfinished⟩
      exact absurd ((finished action member).symm.trans unfinished) (by decide)
    rw [same]
    exact ⟨heldOpen, ackedFree, fun held => absurd held free, fun held => absurd held free,
      fun held => absurd held free⟩
  · rw [gone]
    exact sound_nil _
  · rw [finished]
    have before (held : Resched.Held ⟨resched.migrateMax,
        resched.actions.modify i fun action => { action with finished := true }⟩) :
        resched.Held := by
      have ⟨other, inside, waits⟩ := held
      cases mem_modify there inside with
      | inl old => exact ⟨other, old, waits⟩
      | inr new =>
          subst new
          exact absurd waits.2.2 Bool.true_eq_false.mp
    constructor
    · intro other inside held unskipped
      cases mem_modify there inside with
      | inl old => exact heldOpen other old held unskipped
      | inr new =>
          subst new
          cases handled with
          | inl acked => exact absurd held (Bool.eq_false_iff.mp (ackedFree action member acked).1)
          | inr skipped => exact absurd skipped (Bool.eq_false_iff.mp unskipped)
    · intro other inside acked
      cases mem_modify there inside with
      | inl old => exact ackedFree other old acked
      | inr new =>
          subst new
          exact ackedFree action member acked
    · intro held other inside
      have ⟨unskipped, _⟩ := others (before held)
      cases mem_modify there inside with
      | inl old => exact unskipped other old
      | inr new =>
          subst new
          exact unskipped action member
    · intro held
      have ⟨_, reached, _⟩ := others (before held)
      have count := countP_modify (f := fun action : Migrate => { action with finished := true })
        (p := Migrate.live) there
      dsimp only at count ⊢
      omega
    · intro held
      have ⟨_, _, other, inside, open', apart⟩ := others (before held)
      exact ⟨other, mem_modify_other there inside apart, open'⟩

theorem ack_sound (sound : resched.Sound) {i : ℕ} {success : Bool} {action : Migrate}
    (there : resched.actions[i]? = some action) (open' : action.UnderWay) :
    (resched.next (.ack i success)).Sound := by
  have new : ({ action with acked := some success } : Migrate).UnderWay := open'
  have before (held : (resched.next (.ack i success)).Held) : resched.Held := by
    have ⟨other, inside, waits⟩ := held
    cases mem_modify there inside with
    | inl old => exact ⟨other, old, waits⟩
    | inr same =>
        subst same
        exact absurd waits.1 (Bool.eq_false_iff.mp open'.1)
  constructor
  · intro other inside held unskipped
    cases mem_modify there inside with
    | inl old => exact sound.heldOpen other old held unskipped
    | inr same =>
        subst same
        exact absurd held (Bool.eq_false_iff.mp open'.1)
  · intro other inside acked
    cases mem_modify there inside with
    | inl old => exact sound.ackedFree other old acked
    | inr same => exact same ▸ ⟨open'.1, open'.2.1⟩
  · intro held other inside
    cases mem_modify there inside with
    | inl old => exact sound.unskipped (before held) other old
    | inr same => exact same ▸ open'.2.1
  · intro held
    have reached := sound.reached (before held)
    have count := countP_modify (p := Migrate.live)
      (f := fun action : Migrate => { action with acked := some success }) there
    rw [live_of_underWay open', live_of_underWay new] at count
    change resched.migrateMax ≤ (resched.actions.modify i _).countP Migrate.live
    omega
  · intro held
    exact ⟨_, mem_modify_self there, new⟩

/-- In place of a migration that failed one of those left comes under way. -/
theorem failed_sound (sound : resched.Sound) {i : ℕ} {pausedAction : Option ℕ}
    (possible : resched.Possible (.failed i pausedAction)) :
    (resched.reSchMigrateFailed i pausedAction).Sound := by
  have ⟨⟨action, there, failed⟩, paused⟩ := possible
  have there : resched.actions[i]? = some action := there
  have acked : action.acked ≠ none := by
    rw [failed]
    exact Option.some_ne_none false
  have ended : Migrate.live { action with finished := true } = false := by
    simp [Migrate.live, failed]
  unfold Resched.reSchMigrateFailed
  cases pausedAction with
  | none =>
      have free : ¬ resched.Held := by
        rintro ⟨other, inside, waits, _⟩
        exact absurd waits (Bool.eq_false_iff.mp (paused other inside))
      exact finishAction_sound there (Or.inl acked) sound.heldOpen sound.ackedFree
        fun held => absurd held free
  | some j =>
      have ⟨waiting, place, waits⟩ := paused
      have place : resched.actions[j]? = some waiting := place
      have inside := List.mem_of_getElem? place
      have apart : i ≠ j := by
        rintro rfl
        cases there.symm.trans place
        have free := (sound.ackedFree action inside acked).1
        exact absurd waits (Bool.eq_false_iff.mp free)
      have unsent : waiting.acked = none := by
        by_contra some
        exact absurd waits (Bool.eq_false_iff.mp (sound.ackedFree waiting inside some).1)
      have there' : (resched.updateActionReceiver (some j)).actions[i]? = some action := by
        change (resched.actions.modify j _)[i]? = some action
        rw [List.getElem?_modify_ne _ _ apart.symm, there]
      have before (held : (resched.updateActionReceiver (some j)).Held) : resched.Held := by
        have ⟨other, member, remains⟩ := held
        cases mem_modify place member with
        | inl old => exact ⟨other, old, remains⟩
        | inr same =>
            subst same
            exact absurd remains.1 Bool.false_eq_true.mp
      apply finishAction_sound there' (Or.inl acked)
      · intro other member held unskipped
        cases mem_modify place member with
        | inl old => exact sound.heldOpen other old held unskipped
        | inr same =>
            subst same
            exact absurd held Bool.false_eq_true.mp
      · intro other member result
        cases mem_modify place member with
        | inl old => exact sound.ackedFree other old result
        | inr same =>
            subst same
            exact absurd unsent result
      · intro held
        have unskipped := sound.unskipped (before held)
        have reached := sound.reached (before held)
        have unfinished := sound.heldOpen waiting inside waits (unskipped waiting inside)
        have count := countP_modify (p := Migrate.live)
          (f := fun action : Migrate => { action with held := false }) place
        have begun : ({ waiting with held := false } : Migrate).UnderWay :=
          ⟨rfl, unskipped waiting inside, unfinished⟩
        have idle : waiting.live = false := by simp [Migrate.live, waits]
        rw [live_of_underWay begun, idle] at count
        refine ⟨?_, ?_, { waiting with held := false }, mem_modify_self place, begun, ?_⟩
        · intro other member
          cases mem_modify place member with
          | inl old => exact unskipped other old
          | inr same =>
              subst same
              exact unskipped waiting inside
        · rw [ended]
          change resched.migrateMax + _ ≤ (resched.actions.modify j _).countP Migrate.live + _
          simp only [if_true, Bool.false_eq_true, if_false] at count ⊢
          split <;> omega
        · rintro rfl
          exact acked unsent

/-- A success either skips what is left or leaves fewer successes than the limit, and then another
migration is under way. -/
theorem success_sound (sound : resched.Sound) {i : ℕ} {config : ℤ} {others : ℕ}
    (fits : resched.Fits (.success i config others))
    (possible : resched.Possible (.success i config others)) :
    (resched.reSchMigrateSuccess i config others).Sound := by
  have ⟨action, there, succeeded⟩ := possible
  have there : resched.actions[i]? = some action := there
  have member := List.mem_of_getElem? there
  have acked : action.acked ≠ none := by
    rw [succeeded]
    exact Option.some_ne_none true
  have ⟨sent, unskipped⟩ := sound.ackedFree action member acked
  have counts : Migrate.live { action with finished := true } = true := by
    simp [Migrate.live, succeeded, sent, unskipped]
  have finish (under : resched.Held →
      resched.actions.countP (fun action => action.acked == some true) < resched.migrateMax) :
      (resched.finishAction i).Sound := by
    apply finishAction_sound there (Or.inl acked) sound.heldOpen sound.ackedFree
    intro held
    have reached := sound.reached held
    have ⟨other, inside, live, unsuccessful⟩ :=
      exists_of_countP_lt (Nat.lt_of_lt_of_le (under held) reached)
    refine ⟨sound.unskipped held, ?_, other, inside, underWay_of_live live unsuccessful, ?_⟩
    · rw [counts]
      simp only [if_true]
      split <;> omega
    · rintro rfl
      rw [succeeded] at unsuccessful
      exact absurd unsuccessful (by decide)
  unfold Resched.reSchMigrateSuccess
  dsimp only
  split
  · rename_i unlimited
    exact finish fun held => absurd (fits held).1 (by omega)
  split
  · have there' : resched.skipPaused.actions[i]? = some action := by
      unfold Resched.skipPaused
      rw [List.getElem?_map, there]
      simp [sent]
    have shape {other : Migrate} (inside : other ∈ resched.skipPaused.actions) :
        (other.held = true ∧ other.skipped = true ∧ other.acked = none) ∨
          (other ∈ resched.actions ∧ other.held = false) := by
      have ⟨old, origin, same⟩ := List.mem_map.mp inside
      by_cases held : old.held = true
      · rw [if_pos held] at same
        subst same
        refine Or.inl ⟨held, rfl, ?_⟩
        by_contra result
        exact absurd held (Bool.eq_false_iff.mp (sound.ackedFree old origin result).1)
      · rw [if_neg held] at same
        subst same
        exact Or.inr ⟨origin, Bool.eq_false_iff.mpr held⟩
    apply finishAction_sound there' (Or.inl acked)
    · intro other inside held unskipped
      cases shape inside with
      | inl skipped => exact absurd skipped.2.1 (Bool.eq_false_iff.mp unskipped)
      | inr free => exact absurd held (Bool.eq_false_iff.mp free.2)
    · intro other inside result
      cases shape inside with
      | inl skipped => exact absurd skipped.2.2 result
      | inr free => exact sound.ackedFree other free.1 result
    · rintro ⟨other, inside, held, unskipped, _⟩
      cases shape inside with
      | inl skipped => exact absurd skipped.2.1 (Bool.eq_false_iff.mp unskipped)
      | inr free => exact absurd held (Bool.eq_false_iff.mp free.2)
  · apply finish
    intro held
    have limit := (fits held).2
    omega

theorem skip_sound (sound : resched.Sound) {i : ℕ} (possible : resched.Possible (.skip i)) :
    (resched.finishAction i).Sound := by
  have ⟨action, there, skipped, _⟩ := possible
  have there : resched.actions[i]? = some action := there
  apply finishAction_sound there (Or.inr skipped) sound.heldOpen sound.ackedFree
  intro held
  have unskipped := sound.unskipped held action (List.mem_of_getElem? there)
  exact absurd skipped (Bool.eq_false_iff.mp unskipped)

theorem running_sound (sound : resched.Sound) {vids : List VirtualMachine} {schPolicy : SchPolicy}
    {config : ℤ} {created : Bool}
    (fits : resched.Fits (.runningReSCH vids schPolicy config created)) :
    (resched.runningReSCH vids schPolicy config created).Sound := by
  by_cases idle : resched.actions = []
  · rw [runningReSCH_eq vids schPolicy config created idle]
    split
    · exact sound
    · rename_i made
      rw [not_or] at made
      have fits := ((fits idle).resolve_left made.1).2.2
      exact fresh_sound vids (maxVms_pos config) fits
  · have busy : resched.actions.isEmpty = false := by
      rw [Bool.eq_false_iff]
      exact fun empty => idle (List.isEmpty_iff.mp empty)
    unfold Resched.runningReSCH
    rw [busy, Bool.not_false, Bool.or_true, if_pos rfl]
    exact sound

theorem step_sound {before after : Resched} {label : ReschedLabel} (sound : before.Sound)
    (step : Guarded Resched.Fits ReschedStep before label after) : after.Sound := by
  have ⟨fits, possible, result⟩ := step
  subst result
  cases label with
  | runningReSCH vids schPolicy config created => exact running_sound sound fits
  | ack i success =>
      have ⟨action, there, open', _⟩ := possible
      exact ack_sound sound there open'
  | failed i pausedAction => exact failed_sound sound possible
  | success i config others => exact success_sound sound fits possible
  | skip i => exact skip_sound sound possible

theorem Resched.Sound.not_stalled (sound : resched.Sound) : ¬ resched.Stalled := by
  rintro ⟨held, idle⟩
  have ⟨action, member, open'⟩ := sound.underWay held
  exact idle action member open'

/-- The action that was handled. -/
def ReschedLabel.handled : ReschedLabel → Option ℕ
  | .failed i _ => some i
  | .success i _ _ => some i
  | .skip i => some i
  | _ => none

theorem finishAction_finished (resched : Resched) (i : ℕ) :
    ∀ action ∈ (resched.finishAction i).actions[i]?, action.finished = true := by
  intro action there
  rcases finishAction_cases resched i with ⟨same, finished⟩ | gone | finished
  · rw [same] at there
    exact finished action (List.mem_of_getElem? there)
  · rw [gone] at there
    cases there
  · rw [finished] at there
    change (resched.actions.modify i _)[i]? = some action at there
    rw [List.getElem?_modify_eq] at there
    have ⟨_, _, same⟩ := Option.map_eq_some_iff.mp there
    exact same ▸ rfl

/-- Whatever a handler does, the action it was called for is finished afterwards. -/
theorem handled_finished {before after : Resched} {label : ReschedLabel} {i : ℕ}
    (step : ReschedStep before label after) (handled : label.handled = some i) :
    ∀ action ∈ after.actions[i]?, action.finished = true := by
  have ⟨_, result⟩ := step
  subst result
  cases label with
  | runningReSCH vids schPolicy config created => cases handled
  | ack i success => cases handled
  | failed i pausedAction =>
      cases handled
      exact finishAction_finished _ i
  | success i config others =>
      cases handled
      change ∀ action ∈ (before.reSchMigrateSuccess i config others).actions[i]?, _
      unfold Resched.reSchMigrateSuccess
      dsimp only
      split
      · exact finishAction_finished _ i
      split
      · exact finishAction_finished _ i
      · exact finishAction_finished _ i
  | skip i =>
      cases handled
      exact finishAction_finished _ i

end Progress

section Reschedule

/-- A round starts as many migrations as it may exactly when it fits. Runs of rounds that fit, with
no higher limit read while machines wait, never stop with machines left; and whatever a handler
does, its action is finished. -/
theorem reschedule_right {labels : List ReschedLabel} {resched : Resched}
    (run : Run (Guarded Resched.Fits ReschedStep) ⟨0, []⟩ labels resched) :
    (∀ vids schPolicy config created, started vids schPolicy config created =
        min (maxVms config) (vids.countP fun vm => Migratable vm) ↔
      RoundFits vids schPolicy config created) ∧
    ¬ resched.Stalled ∧
    ∀ label after i, ReschedStep resched label after → ReschedLabel.handled label = some i →
      ∀ action ∈ after.actions[i]?, action.finished = true := by
  have sound := run.invariant (sound_nil 0) fun _ _ _ sound step => step_sound sound step
  refine ⟨round_right_iff, sound.not_stalled, ?_⟩
  intro label after i step handled
  exact handled_finished step handled

instance (resched : Resched) : (label : ReschedLabel) → Decidable (resched.Possible label)
  | .runningReSCH .. => inferInstanceAs (Decidable True)
  | .ack .. => inferInstanceAs (Decidable (∃ _ ∈ _, _))
  | .failed _ none => inferInstanceAs (Decidable (_ ∧ ∀ _ ∈ _, _))
  | .failed _ (some _) => inferInstanceAs (Decidable (_ ∧ ∃ _ ∈ _, _))
  | .success .. => inferInstanceAs (Decidable (∃ _ ∈ _, _))
  | .skip _ => inferInstanceAs (Decidable (∃ _ ∈ _, _))

instance (resched : Resched) (label : ReschedLabel) (after : Resched) :
    Decidable (ReschedStep resched label after) := inferInstanceAs (Decidable (_ ∧ _))

instance (vids : List VirtualMachine) (schPolicy : SchPolicy) (config : ℤ) (created : Bool) :
    Decidable (RoundFits vids schPolicy config created) := inferInstanceAs (Decidable (_ ∨ _))

instance (resched : Resched) : (label : ReschedLabel) → Decidable (resched.Fits label)
  | .runningReSCH .. => inferInstanceAs (Decidable (_ → _))
  | .success .. => inferInstanceAs (Decidable ((∃ _ ∈ _, _) → _))
  | .ack .. => inferInstanceAs (Decidable True)
  | .failed .. => inferInstanceAs (Decidable True)
  | .skip _ => inferInstanceAs (Decidable True)

instance (resched : Resched) : Decidable resched.Stalled := inferInstanceAs (Decidable (_ ∧ _))

/-- Of three machines two are started; in place of the first, which fails, comes the third. -/
def threeMachines : List ReschedLabel :=
  [.runningReSCH [⟨1, .running⟩, ⟨2, .shutoff⟩, ⟨3, .running⟩] .packing 2 true,
    .ack 0 false, .failed 0 (some 2), .ack 1 true, .success 1 2 0]

theorem threeMachines_right :
    (∀ vids schPolicy config created, started vids schPolicy config created =
        min (maxVms config) (vids.countP fun vm => Migratable vm) ↔
      RoundFits vids schPolicy config created) ∧
    ¬ Resched.Stalled (threeMachines.foldl Resched.next ⟨0, []⟩) ∧
    ∀ label after i, ReschedStep (threeMachines.foldl Resched.next ⟨0, []⟩) label after →
      ReschedLabel.handled label = some i →
      ∀ action ∈ after.actions[i]?, action.finished = true :=
  reschedule_right (@Run.replay _ _ _ Resched.next _ _ (by decide))

/-- A machine that cannot be migrated takes the only place of the round: the machines after it wait
for ever. -/
theorem skipped_machine_stalls :
    started [⟨1, .crashed⟩, ⟨2, .running⟩, ⟨3, .running⟩] .packing 1 true = 0 ∧
      min (maxVms 1) (List.countP (fun vm => Migratable vm)
        [⟨1, .crashed⟩, ⟨2, .running⟩, ⟨3, .running⟩]) = 1 ∧
      Resched.Stalled (Resched.next ⟨0, []⟩ (.runningReSCH
        [⟨1, .crashed⟩, ⟨2, .running⟩, ⟨3, .running⟩] .packing 1 true)) := by
  decide

end Reschedule

end Tecs.Vm.Reschedule
