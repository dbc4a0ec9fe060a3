import Mathlib

set_option autoImplicit false

namespace Transition

universe u v

variable {State : Type u} {Label : Type v}

/-- The runs of a labelled step relation from one state, latest step last. -/
inductive Run (step : State → Label → State → Prop) (start : State) :
    List Label → State → Prop
  | refl : Run step start [] start
  | snoc {labels : List Label} {last next : State} {label : Label}
      (before : Run step start labels last) (taken : step last label next) :
      Run step start (labels ++ [label]) next

/-- The steps that meet a condition on the state they are taken in. -/
def Guarded (allowed : State → Label → Prop) (step : State → Label → State → Prop)
    (before : State) (label : Label) (after : State) : Prop :=
  allowed before label ∧ step before label after

/-- The steps to a state that has a property. -/
def Reaching (reached : State → Prop) (step : State → Label → State → Prop)
    (before : State) (label : Label) (after : State) : Prop :=
  step before label after ∧ reached after

namespace Run

variable {step : State → Label → State → Prop} {start : State}

/-- A property of the history and the state that every step keeps holds of every run. -/
theorem induct {P : List Label → State → Prop} (initial : P [] start)
    (kept : ∀ labels last label next, Run step start labels last → P labels last →
      step last label next → P (labels ++ [label]) next)
    {labels : List Label} {last : State} (run : Run step start labels last) :
    P labels last := by
  induction run with
  | refl => exact initial
  | snoc before taken ih => exact kept _ _ _ _ before ih taken

/-- An invariant of the states alone. -/
theorem invariant {P : State → Prop} (initial : P start)
    (kept : ∀ last label next, P last → step last label next → P next)
    {labels : List Label} {last : State} (run : Run step start labels last) : P last := by
  induction run with
  | refl => exact initial
  | snoc _ taken ih => exact kept _ _ _ ih taken

theorem mono {wider : State → Label → State → Prop}
    (weaken : ∀ before label after, step before label after → wider before label after)
    {labels : List Label} {last : State} (run : Run step start labels last) :
    Run wider start labels last := by
  induction run with
  | refl => exact .refl
  | snoc _ taken ih => exact ih.snoc (weaken _ _ _ taken)

/-- Steps that preserve an invariant can be replaced by others wherever it holds. -/
theorem convert {other : State → Label → State → Prop} {P : State → Prop} (initial : P start)
    (kept : ∀ before label after, P before → step before label after →
      other before label after ∧ P after)
    {labels : List Label} {last : State} (run : Run step start labels last) :
    Run other start labels last := by
  have both : Run other start labels last ∧ P last := by
    induction run with
    | refl => exact ⟨.refl, initial⟩
    | snoc _ taken ih =>
        have ⟨step, holds⟩ := kept _ _ _ ih.2 taken
        exact ⟨ih.1.snoc step, holds⟩
  exact both.1

theorem single {label : Label} {last : State} (taken : step start label last) :
    Run step start [label] last :=
  Run.refl.snoc taken

theorem append {first second : List Label} {middle last : State}
    (front : Run step start first middle) (back : Run step middle second last) :
    Run step start (first ++ second) last := by
  induction back with
  | refl => simpa only [List.append_nil] using front
  | snoc _ taken ih =>
      rw [← List.append_assoc]
      exact ih.snoc taken

end Run

section Replay

variable {step : State → Label → State → Prop}

instance {allowed : State → Label → Prop} {before : State} {label : Label} {after : State}
    [Decidable (allowed before label)] [Decidable (step before label after)] :
    Decidable (Guarded allowed step before label after) :=
  inferInstanceAs (Decidable (_ ∧ _))

/-- Each label in turn can be taken, to the state that a function computes. -/
def Replays (step : State → Label → State → Prop) (next : State → Label → State) :
    State → List Label → Prop
  | _, [] => True
  | before, label :: rest =>
      step before label (next before label) ∧ Replays step next (next before label) rest

instance Replays.decidable (next : State → Label → State)
    [∀ before label after, Decidable (step before label after)] :
    (before : State) → (labels : List Label) → Decidable (Replays step next before labels)
  | _, [] => inferInstanceAs (Decidable True)
  | before, label :: rest =>
      have := Replays.decidable next (next before label) rest
      inferInstanceAs (Decidable (_ ∧ _))

theorem Run.replay {next : State → Label → State} {labels : List Label} :
    ∀ {start : State}, Replays step next start labels →
      Run step start labels (labels.foldl next start) := by
  induction labels with
  | nil => exact fun _ => .refl
  | cons label rest ih =>
      intro start replays
      have ⟨first, later⟩ := replays
      exact (Run.single first).append (ih later)

end Replay

end Transition
