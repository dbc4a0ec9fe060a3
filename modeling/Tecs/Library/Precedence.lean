import Mathlib

set_option autoImplicit false

namespace Precedence

open Relation

variable {α : Type*} {precedes narrower : α → α → Prop}

/-- No element comes, over any number of steps, before itself. -/
def Acyclic (precedes : α → α → Prop) : Prop :=
  ∀ a, ¬ TransGen precedes a a

theorem Acyclic.mono (acyclic : Acyclic precedes)
    (included : ∀ a b, narrower a b → precedes a b) : Acyclic narrower :=
  fun a cycle => acyclic a (TransGen.mono included _ _ cycle)

/-- Two relations on separate elements have no cycle together unless one has. -/
theorem Acyclic.union {other : α → α → Prop} {inside : α → Prop}
    (acyclic : Acyclic precedes) (acyclic' : Acyclic other)
    (among : ∀ a b, precedes a b → inside a ∧ inside b)
    (apart : ∀ a b, other a b → ¬ inside a ∧ ¬ inside b) :
    Acyclic fun a b => precedes a b ∨ other a b := by
  have within : ∀ a b, TransGen (fun a b => precedes a b ∨ other a b) a b →
      (inside a → TransGen precedes a b ∧ inside b) ∧
        (¬ inside a → TransGen other a b ∧ ¬ inside b) := by
    intro a b path
    induction path with
    | single edge =>
        constructor
        · intro here
          rcases edge with edge | edge
          · exact ⟨.single edge, (among _ _ edge).2⟩
          · exact absurd here (apart _ _ edge).1
        · intro outside
          rcases edge with edge | edge
          · exact absurd (among _ _ edge).1 outside
          · exact ⟨.single edge, (apart _ _ edge).2⟩
    | tail _ edge ih =>
        constructor
        · intro here
          obtain ⟨front, middle⟩ := ih.1 here
          rcases edge with edge | edge
          · exact ⟨front.tail edge, (among _ _ edge).2⟩
          · exact absurd middle (apart _ _ edge).1
        · intro outside
          obtain ⟨front, middle⟩ := ih.2 outside
          rcases edge with edge | edge
          · exact absurd (among _ _ edge).1 middle
          · exact ⟨front.tail edge, (apart _ _ edge).2⟩
  intro a cycle
  by_cases here : inside a
  · exact acyclic a ((within a a cycle).1 here).1
  · exact acyclic' a ((within a a cycle).2 here).1

/-- Some element of a finite set has no predecessor inside the set. -/
theorem Acyclic.exists_first (acyclic : Acyclic precedes) {elements : Set α}
    (finite : elements.Finite) (nonempty : elements.Nonempty) :
    ∃ a ∈ elements, ∀ b ∈ elements, ¬ precedes b a := by
  have order : IsStrictOrder α (TransGen precedes) :=
    { irrefl := acyclic, trans := fun _ _ _ => TransGen.trans }
  have wellFounded : elements.WellFoundedOn (TransGen precedes) := finite.wellFoundedOn
  obtain ⟨first, minimal⟩ := wellFounded.has_min Set.univ
    ⟨⟨_, nonempty.some_mem⟩, Set.mem_univ _⟩
  exact ⟨first, first.2, fun b inside before =>
    minimal.2 ⟨b, inside⟩ (Set.mem_univ _) (.single before)⟩

/-! Peeling: an edge whose source has no predecessor lies on no cycle. -/

/-- What is left of a relation without the edges out of its first elements. -/
def Peeled (precedes : α → α → Prop) (a b : α) : Prop :=
  precedes a b ∧ ∃ z, precedes z a

private theorem transGen_peeled {a b : α} (path : TransGen precedes a b)
    (entered : ∃ z, precedes z a) : TransGen (Peeled precedes) a b := by
  induction path with
  | single edge => exact .single ⟨edge, entered⟩
  | tail front edge ih =>
      refine ih.tail ⟨edge, ?_⟩
      rcases TransGen.tail'_iff.mp front with ⟨z, -, last⟩
      exact ⟨z, last⟩

theorem acyclic_peeled : Acyclic (Peeled precedes) ↔ Acyclic precedes := by
  constructor
  · intro acyclic a cycle
    rcases TransGen.tail'_iff.mp cycle with ⟨z, -, last⟩
    exact acyclic a (transGen_peeled cycle ⟨z, last⟩)
  · exact fun acyclic => acyclic.mono fun _ _ edge => edge.1

/-- A finite relation in which peeling removes nothing is empty or has a cycle. -/
theorem Acyclic.empty_of_peeled (acyclic : Acyclic precedes)
    (finite : {a | ∃ b, precedes a b}.Finite)
    (kept : ∀ a b, precedes a b → Peeled precedes a b) (a b : α) : ¬ precedes a b := by
  intro edge
  obtain ⟨first, ⟨after, out⟩, minimal⟩ := acyclic.exists_first finite ⟨a, b, edge⟩
  obtain ⟨-, z, entered⟩ := kept first after out
  exact minimal z ⟨first, entered⟩ entered

/-! Topological orders. -/

/-- An arrangement of the elements in which whatever precedes an element stands before it. -/
structure Topological (precedes : α → α → Prop) (elements order : List α) : Prop where
  perm : order.Perm elements
  before : ∀ front b back, order = front ++ b :: back → ∀ a ∈ elements, precedes a b → a ∈ front

theorem Topological.cons {first : α} {elements order : List α}
    (minimal : ∀ a ∈ first :: elements, ¬ precedes a first)
    (sorted : Topological precedes elements order) :
    Topological precedes (first :: elements) (first :: order) where
  perm := sorted.perm.cons first
  before front b back split a inside edge := by
    cases front with
    | nil =>
        obtain ⟨rfl, -⟩ := List.cons_eq_cons.mp split
        exact absurd edge (minimal a inside)
    | cons head front =>
        obtain ⟨rfl, rest⟩ := List.cons_eq_cons.mp split
        rcases List.mem_cons.mp inside with rfl | inside
        · exact List.mem_cons_self
        · exact List.mem_cons_of_mem _ (sorted.before front b back rest a inside edge)

theorem Topological.of_perm {elements elements' order : List α} (same : elements.Perm elements')
    (sorted : Topological precedes elements order) : Topological precedes elements' order where
  perm := sorted.perm.trans same
  before front b back split a inside :=
    sorted.before front b back split a (same.mem_iff.mpr inside)

theorem Acyclic.exists_topological (acyclic : Acyclic precedes) (elements : List α) :
    ∃ order, Topological precedes elements order := by
  induction size : elements.length generalizing elements with
  | zero =>
      obtain rfl := List.length_eq_zero_iff.mp size
      exact ⟨[], .refl [], by simp⟩
  | succ n ih =>
      have nonempty : elements ≠ [] := by
        rintro rfl
        simp at size
      obtain ⟨first, inside, minimal⟩ := acyclic.exists_first (List.finite_toSet elements)
        (List.exists_mem_of_ne_nil _ nonempty)
      obtain ⟨left, right, rfl⟩ := List.append_of_mem inside
      have middle : (first :: (left ++ right)).Perm (left ++ first :: right) :=
        List.perm_middle.symm
      obtain ⟨order, sorted⟩ := ih (left ++ right) (by simp at size ⊢; omega)
      refine ⟨first :: order, (sorted.cons ?_).of_perm middle⟩
      exact fun a among => minimal a (middle.mem_iff.mp among)

end Precedence
