import Mathlib

set_option autoImplicit false

/-! Records that lie in memory one behind the other, each telling where it ends. -/

namespace Records

variable {next : ℕ → ℕ}

/-- The records from `pos` on, up to the first that does not end by `last`. -/
inductive Chain (next : ℕ → ℕ) (last : ℕ) : ℕ → List ℕ → Prop
  | stop {pos : ℕ} (short : last < next pos) : Chain next last pos []
  | next {pos : ℕ} {rest : List ℕ} (whole : next pos ≤ last)
      (behind : Chain next last (next pos) rest) : Chain next last pos (pos :: rest)

theorem Chain.unique {last pos : ℕ} {records others : List ℕ} (chain : Chain next last pos records)
    (other : Chain next last pos others) : records = others := by
  induction chain generalizing others with
  | stop short =>
      cases other with
      | stop => rfl
      | next whole => omega
  | next whole behind ih =>
      cases other with
      | stop short => omega
      | next _ rest => rw [ih rest]

/-- No record of a chain reaches past the end, and none lies before the start. -/
theorem Chain.mem_bounds {last pos : ℕ} {records : List ℕ} (forth : ∀ pos, pos < next pos)
    (chain : Chain next last pos records) :
    ∀ record ∈ records, pos ≤ record ∧ next record ≤ last := by
  induction chain with
  | stop => simp
  | @next pos rest whole behind ih =>
      intro record member
      rcases List.mem_cons.mp member with rfl | member
      · exact ⟨le_rfl, whole⟩
      · obtain ⟨later, within⟩ := ih record member
        have ahead := forth pos
        exact ⟨by omega, within⟩

/-- The records of a chain come in the order of their places, so none comes twice. -/
theorem Chain.sorted {last pos : ℕ} {records : List ℕ} (forth : ∀ pos, pos < next pos)
    (chain : Chain next last pos records) : records.Pairwise (· < ·) := by
  induction chain with
  | stop => exact .nil
  | @next pos rest whole behind ih =>
      refine List.pairwise_cons.mpr ⟨?_, ih⟩
      intro record member
      have later := (behind.mem_bounds forth record member).1
      have ahead := forth pos
      omega

end Records
